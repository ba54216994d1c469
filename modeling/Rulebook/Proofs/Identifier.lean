import Rulebook.Proofs.Text.Apart
import Rulebook.Uuid

/-!
# Texts of identifiers

An identifier is written in its canonical form: all digits of its number in base 16, in lower case and in groups of a
fixed width (`Uuid.isCanonical_chars`). So no two identifiers have one text, and none has that of an identifier that is
missing (`Uuid.textOf_inj`).
-/

namespace Rulebook

namespace Text

/-- The digits of base 16, in lower case. -/
def lowerDigits : List Char := "0123456789abcdef".toList

private theorem digitChar_mem_lowerDigits : ∀ d < 16, Nat.digitChar d ∈ lowerDigits := by decide

theorem mem_lowerDigits_of_mem_fixedWidth {width n : Nat} {c : Char} (h : c ∈ fixedWidth 16 width n) :
    c ∈ lowerDigits := by
  induction width generalizing n with
  | zero => exact absurd h List.not_mem_nil
  | succ width ih =>
    rw [fixedWidth, List.mem_append, List.mem_singleton] at h
    rcases h with h | rfl
    · exact ih h
    · exact digitChar_mem_lowerDigits _ (Nat.mod_lt n (by decide))

end Text

namespace Uuid

open Text (Apart digitsValue fixedWidth)

variable {u v : Uuid} {s t : List Char}

/-- The canonical form of an identifier: the digits of its number in base 16, in groups of 8, 4, 4, 4 and 12 with
hyphens in between, all in lower case. -/
def IsCanonical (u : Uuid) (s : List Char) : Prop :=
  ∃ groups : List (List Char), groups.map List.length = [8, 4, 4, 4, 12] ∧
    (∀ c ∈ groups.flatten, c ∈ Text.lowerDigits) ∧ s = ['-'].intercalate groups ∧
      digitsValue 16 groups.flatten = u.bits.toNat

/-- All digits of the number of an identifier. -/
def digits (u : Uuid) : List Char := fixedWidth 16 32 u.bits.toNat

theorem length_digits (u : Uuid) : u.digits.length = 32 := Text.length_fixedWidth 16 32 _

theorem digitsValue_digits (u : Uuid) : digitsValue 16 u.digits = u.bits.toNat :=
  Text.digitsValue_fixedWidth (Nat.le_refl 16) u.bits.isLt

theorem mem_lowerDigits_of_mem_digits {c : Char} (h : c ∈ u.digits) : c ∈ Text.lowerDigits :=
  Text.mem_lowerDigits_of_mem_fixedWidth h

/-- The groups in which the digits of an identifier are written. -/
def groups (u : Uuid) : List (List Char) :=
  [u.digits.take 8, (u.digits.drop 8).take 4, (u.digits.drop 12).take 4, (u.digits.drop 16).take 4, u.digits.drop 20]

theorem chars_eq (u : Uuid) : u.chars = ['-'].intercalate u.groups := by
  simp [chars, groups, digits, List.intercalate, List.intersperse]

theorem flatten_groups (u : Uuid) : u.groups.flatten = u.digits := by
  have join : ∀ m n, (u.digits.drop m).take n ++ u.digits.drop (m + n) = u.digits.drop m := by
    intro m n
    rw [← List.drop_drop, List.take_append_drop]
  simp only [groups, List.flatten_cons, List.flatten_nil, List.append_nil]
  rw [join 16 4, join 12 4, join 8 4, List.take_append_drop]

theorem isCanonical_chars (u : Uuid) : u.IsCanonical u.chars := by
  refine ⟨u.groups, ?_, fun c hc => ?_, u.chars_eq, ?_⟩
  · simp [groups, length_digits]
  · rw [flatten_groups] at hc
    exact mem_lowerDigits_of_mem_digits hc
  · rw [flatten_groups, digitsValue_digits]

/-- Without its hyphens, a text of groups is what stands in the groups. -/
private theorem filter_intercalate {gs : List (List Char)} (noHyphen : ∀ c ∈ gs.flatten, c ≠ '-') :
    (['-'].intercalate gs).filter (· != '-') = gs.flatten := by
  induction gs with
  | nil => rfl
  | cons g gs ih =>
    rw [List.flatten_cons] at noHyphen
    have first : g.filter (· != '-') = g :=
      List.filter_eq_self.2 fun c hc => bne_iff_ne.2 (noHyphen c (List.mem_append_left _ hc))
    have later := ih fun c hc => noHyphen c (List.mem_append_right _ hc)
    cases gs with
    | nil => simpa using first
    | cons h gs =>
      rw [List.intercalate_cons_cons, List.filter_append, List.filter_append, later, first, List.flatten_cons]
      simp

theorem filter_chars (u : Uuid) : u.chars.filter (· != '-') = u.digits := by
  rw [chars_eq, filter_intercalate, flatten_groups]
  intro c hc
  rw [flatten_groups] at hc
  rintro rfl
  exact absurd (mem_lowerDigits_of_mem_digits hc) (by decide)

theorem chars_inj (h : u.chars = v.chars) : u = v := by
  have digits : u.digits = v.digits := by rw [← filter_chars, ← filter_chars, h]
  have bits : u.bits.toNat = v.bits.toNat := by rw [← digitsValue_digits, ← digitsValue_digits, digits]
  cases u
  cases v
  exact congrArg mk (BitVec.eq_of_toNat_eq bits)

theorem length_chars (u : Uuid) : u.chars.length = 36 := by
  simp [chars]

theorem apart_chars : Apart [] chars := .of_length (fun _ _ => chars_inj) 36 length_chars

theorem toList_textOf (i : Option Uuid) : (textOf i).toList = i.elim ['N', 'o', 'n', 'e'] chars := by
  cases i with
  | none => rfl
  | some u => exact String.toList_ofList

/-- Identifiers that may be missing can be told apart, whatever follows. -/
theorem apart_textOf : Apart [] fun i => (textOf i).toList := by
  have apart : Apart [] fun i : Option Uuid => i.elim ['N', 'o', 'n', 'e'] chars := by
    refine apart_chars.elim _ fun u s t _ h => ?_
    -- an identifier begins with a digit in lower case, and what stands for none does not
    obtain ⟨d, rest, begins⟩ := List.exists_cons_of_length_eq_add_one u.length_digits
    have first : (u.chars ++ t).head? = some d := by
      rw [chars_eq]
      simp [groups, begins, List.intercalate]
    have digit : d ∈ Text.lowerDigits := mem_lowerDigits_of_mem_digits (by rw [begins]; exact List.mem_cons_self)
    rw [← h] at first
    cases first
    exact absurd digit (by decide)
  simpa only [toList_textOf] using apart

theorem textOf_inj {i j : Option Uuid} : textOf i = textOf j ↔ i = j := by
  refine ⟨fun h => ?_, congrArg textOf⟩
  exact (apart_textOf.cancel (s := []) (t := []) (congrArg (String.toList · ++ []) h)).1

end Uuid

end Rulebook
