import Rulebook.Proofs.Normalization
import Rulebook.Rule.Text

/-!
# What rules say

Two rules have the same content if they differ at most in which copies of their drivers they hold. Nothing that is
asked of a rule tells such rules apart: neither its weight, its written form, its activity nor how it compares with
others. Normalising a rule keeps its content, whether it succeeds or not (`Rule.sameContent_normalize`).
-/

namespace Rulebook.Rule

/-- Two rules differ at most in which copies of their drivers they hold. -/
structure SameContent (a b : Rule) : Prop where
  identifier : a.identifier = b.identifier
  code : a.code = b.code
  drivers : a.drivers = b.drivers
  outputs : a.outputs = b.outputs
  window : a.window = b.window

namespace SameContent

variable {a a' b b' : Rule}

theorem refl (a : Rule) : a.SameContent a := ⟨rfl, rfl, rfl, rfl, rfl⟩

theorem trans {a b c : Rule} (h : a.SameContent b) (h' : b.SameContent c) : a.SameContent c :=
  ⟨h.identifier.trans h'.identifier, h.code.trans h'.code, h.drivers.trans h'.drivers, h.outputs.trans h'.outputs,
    h.window.trans h'.window⟩

theorem weight_eq (h : a.SameContent b) : a.weight = b.weight := by
  rw [weight, h.drivers, weight]

theorem isActiveAt_eq (h : a.SameContent b) (time : Option Time.DateTime) : a.isActiveAt time = b.isActiveAt time := by
  rw [isActiveAt, h.window, isActiveAt]

theorem text_eq (h : a.SameContent b) : a.text = b.text := by
  have same : a.parts = b.parts := by
    unfold parts
    rw [h.identifier, h.code, h.drivers, h.outputs, h.window]
  unfold text
  rw [same]

theorem same_eq (h : a.SameContent a') (h' : b.SameContent b') : a.same b = a'.same b' := by
  rw [same, h.identifier, h'.identifier, same]

theorem duplication_eq (h : a.SameContent a') (h' : b.SameContent b') :
    a.duplication (some b) = a'.duplication (some b') := by
  simp only [duplication, isDuplicateOf, sameInputs, sameOutputs, sameRange, h.drivers, h.outputs, h.window, h'.drivers,
    h'.outputs, h'.window]

end SameContent

/-- However far a rule was normalised, it says what it said. -/
theorem sameContent_normalize (refuses : Policy) (r : Rule) (c : Cache) :
    (r.normalize refuses c).rule.SameContent r := by
  rw [rule_normalize]
  exact ⟨rfl, rfl, Pass.map_driver_run refuses r.slots c, rfl, rfl⟩

end Rulebook.Rule
