import Rulebook.Driver
import Rulebook.Fields
import Rulebook.Time.Window
import Rulebook.Uuid

/-!
# Rules

A rule maps an ordered list of drivers to named outputs while its window is open. Two rules are equal if their
identifiers are; they are duplicates if their drivers, outputs and windows are the same, whatever their identifiers.

An output may be null. In the comparison of outputs a null is met by an absent name as well (`Rule.sameOutputs`).
-/

namespace Rulebook

/-- A rule, with an instance of a driver in each of its slots, the most significant first. -/
structure Rule where
  identifier : Option Uuid
  /-- What all versions of a rule have in common. -/
  code : Option Uuid
  slots : List Instance
  outputs : Fields (Option String)
  window : Time.Window
deriving DecidableEq

/-- The weight of the last driver of a rule. -/
def initialWeight : Nat := 1

/-- Weigh one driver more: from the weight of those behind it and the weight that it adds itself unless it is a
wildcard, their weight with it and what the driver before it adds. -/
def weigh (d : Driver) (sofar : Nat × Nat) : Nat × Nat :=
  (if d.isWildcard then sofar.1 else sofar.1 + sofar.2, sofar.2 * 2)

/-- The weight of drivers, from the last to the first. -/
def weightOf (drivers : List Driver) : Nat := (drivers.foldr weigh (0, initialWeight)).1

namespace Rule

def drivers (r : Rule) : List Driver := r.slots.map Instance.driver

def weight (r : Rule) : Nat := weightOf r.drivers

def same (a b : Rule) : Bool := a.identifier == b.identifier

/-- The hash of a rule is that of its identifier. -/
def hash (ofIdentifier : Option Uuid → Nat) (r : Rule) : Nat := ofIdentifier r.identifier

def isActiveAt (r : Rule) (time : Option Time.DateTime) : Except Time.OrderError Bool :=
  r.window.isOpenAt time

/-- Whether two rules have equally many drivers, and the same ones in the same slots. -/
def sameInputs (a b : Rule) : Bool :=
  a.drivers.length == b.drivers.length && (a.drivers.zip b.drivers).all fun p => p.1 == p.2

/-- Whether two rules have equally many outputs, and each output of the first is found in the second, where an absent
name is found as null. -/
def sameOutputs (a b : Rule) : Bool :=
  a.outputs.size == b.outputs.size && a.outputs.entries.all fun p => (b.outputs.get? p.1).join == p.2

/-- Whether two rules start at the same instant and finish at the same instant. -/
def sameRange (a b : Rule) : Bool := a.window.start.same b.window.start && a.window.finish.same b.window.finish

def isDuplicateOf (a b : Rule) : Bool := a.sameInputs b && a.sameOutputs b && a.sameRange b

private theorem all_zip_beq_iff {xs ys : List Driver} :
    (xs.length == ys.length && (xs.zip ys).all fun p => p.1 == p.2) = true ↔ xs = ys := by
  induction xs generalizing ys with
  | nil => cases ys <;> simp
  | cons x xs ih =>
    cases ys with
    | nil => simp
    | cons y ys =>
      rw [List.cons.injEq, ← ih]
      simp only [List.length_cons, List.zip_cons_cons, List.all_cons, Bool.and_eq_true, beq_iff_eq]
      rw [Nat.add_right_cancel_iff, and_left_comm]

theorem same_iff {a b : Rule} : a.same b = true ↔ a.identifier = b.identifier := by
  rw [same, beq_iff_eq]

theorem hash_eq_of_same {a b : Rule} (h : a.same b = true) (ofIdentifier : Option Uuid → Nat) :
    a.hash ofIdentifier = b.hash ofIdentifier := by
  rw [hash, hash, same_iff.1 h]

/-- Two rules have the same range exactly if their windows are equal. -/
theorem sameRange_eq_same (a b : Rule) : a.sameRange b = a.window.same b.window := by
  rw [Bool.eq_iff_iff, Time.Window.same_iff, sameRange, Bool.and_eq_true]

theorem sameInputs_iff {a b : Rule} : a.sameInputs b = true ↔ a.drivers = b.drivers := all_zip_beq_iff

theorem isDuplicateOf_iff {a b : Rule} :
    a.isDuplicateOf b = true ↔ a.drivers = b.drivers ∧ a.sameOutputs b = true ∧ a.sameRange b = true := by
  rw [isDuplicateOf, Bool.and_eq_true, Bool.and_eq_true, sameInputs_iff, and_assoc]

end Rule

structure Duplication where
  rule : Bool
  input : Bool
  output : Bool
  range : Bool
deriving DecidableEq

/-- In what a rule duplicates another one, which may be missing. -/
def Rule.duplication (a : Rule) : Option Rule → Duplication
  | some b => ⟨a.isDuplicateOf b, a.sameInputs b, a.sameOutputs b, a.sameRange b⟩
  | none => ⟨false, false, false, false⟩

end Rulebook
