import Rulebook.Proofs.Identifier
import Rulebook.Proofs.Iso
import Rulebook.Proofs.Text.Quoted
import Rulebook.Rule.Text

/-!
# Reading the written form of rules

The written form of a rule can be read back part by part: each part can be told apart from all others that may stand in
its place, and is followed by a character with which it could not go on. So two rules are written alike exactly if all
that is written of them is the same (`Rule.text_eq_iff`), whatever marks, brackets and commas stand in their drivers and
outputs.
-/

namespace Rulebook

open Text (Apart)

theorem apart_quoted_toList : Apart [] fun s : String => Text.quoted s.toList :=
  Text.apart_quoted.comp fun _ _ => String.toList_inj.1

theorem apart_outputChars : Apart [] outputChars := by
  have values : Apart [] fun o : Option String => o.elim ['N', 'o', 'n', 'e'] fun v => Text.quoted v.toList := by
    refine apart_quoted_toList.elim _ fun value s t _ h => ?_
    have quoted : Text.StartsOutside ['N'] (Text.quoted value.toList ++ t) :=
      Text.startsOutside_quoted (by decide) (by decide) value.toList t
    exact quoted.ne_cons List.mem_cons_self h.symm
  rintro ⟨name, value⟩ ⟨name', value'⟩ s t _ _ h
  simp only [outputChars, List.append_assoc, List.cons_append] at h
  obtain ⟨names, h⟩ := apart_quoted_toList.cancel h
  obtain ⟨same, rest⟩ := values.cancel (List.cons.inj (List.cons.inj h).2).2
  exact ⟨Prod.ext names same, rest⟩

namespace Rule

/-- The values of drivers in writing. -/
def valuesChars (values : List String) : List Char :=
  '[' :: Text.listed (values.map fun value => Text.quoted value.toList) ++ [']']

/-- Outputs in writing. -/
def outputsChars (outputs : List (String × Option String)) : List Char :=
  '\x7b' :: Text.listed (outputs.map outputChars) ++ ['\x7d']

theorem apart_valuesChars : Apart [] valuesChars :=
  Text.apart_listed apart_quoted_toList '[' (by decide) fun value =>
    Text.startsOutside_quoted (by decide) (by decide) value.toList

theorem apart_outputsChars : Apart [] outputsChars := by
  refine Text.apart_listed apart_outputChars '\x7b' (by decide) fun output s => ?_
  rw [outputChars, List.append_assoc]
  exact Text.startsOutside_quoted (by decide) (by decide) output.1.toList _

theorem parts_eq (r : Rule) : r.parts = [
    ("rule_identifier=", (Uuid.textOf r.identifier).toList),
    ("rule_code=", (Uuid.textOf r.code).toList),
    ("drivers=", valuesChars (r.drivers.map Driver.value)),
    ("outputs=", outputsChars r.outputs.entries),
    ("start=", r.window.start.chars),
    ("end=", r.window.finish.chars)] := by
  have values : (r.drivers.map fun d => Text.quoted d.value.toList) =
      (r.drivers.map Driver.value).map fun value => Text.quoted value.toList := by
    rw [List.map_map]
    rfl
  simp only [parts, valuesChars, outputsChars, values]

/-- Two rules are written alike exactly if they have the same identifier, the same code, drivers with the same values
in the same slots, the same outputs in the same order, and bounds of the same date, time of day and offset. -/
theorem text_eq_iff (a b : Rule) :
    a.text = b.text ↔
      a.identifier = b.identifier ∧ a.code = b.code ∧ a.drivers.map Driver.value = b.drivers.map Driver.value ∧
        a.outputs.entries = b.outputs.entries ∧ a.window.start = b.window.start ∧
          a.window.finish = b.window.finish := by
  constructor
  · intro h
    have h := String.ofList_injective h
    rw [List.append_assoc, List.append_assoc, parts_eq, parts_eq] at h
    simp only [List.map_cons, List.map_nil] at h
    obtain ⟨identifier, h⟩ := Uuid.apart_textOf.cancel_named (by decide) (List.append_cancel_left h)
    obtain ⟨code, h⟩ := Uuid.apart_textOf.cancel_named (by decide) h
    obtain ⟨values, h⟩ := apart_valuesChars.cancel_named (by decide) h
    obtain ⟨outputs, h⟩ := apart_outputsChars.cancel_named (by decide) h
    obtain ⟨start, h⟩ := Time.DateTime.apart_chars.cancel_named (by decide) h
    rw [Text.listed_singleton, Text.listed_singleton, List.append_assoc, List.append_assoc] at h
    -- only the last part is followed by the bracket that ends the form, all others by a comma
    have ends : Text.StartsOutside [':', '.', '+', '-'] [')'] := Text.startsOutside_cons_iff.2 (by decide)
    obtain ⟨finish, -⟩ := Time.DateTime.apart_chars ends ends (List.append_cancel_left h)
    exact ⟨identifier, code, values, outputs, start, finish⟩
  · rintro ⟨identifier, code, values, outputs, start, finish⟩
    have same : a.parts = b.parts := by
      rw [parts_eq, parts_eq, identifier, code, values, outputs, start, finish]
    unfold text
    rw [same]

end Rule

end Rulebook
