import Rulebook.Fields

/-!
# Things with names

A registry keeps all things that were added to it, in the order in which they were, and knows each by its place. A name
stands for the last thing that was added under it.
-/

namespace Rulebook.Session

/-- Things by their places, and places by their names. -/
structure Registry (α : Type) where
  items : List α
  places : Fields Nat

namespace Registry

variable {α : Type}

def empty : Registry α := ⟨[], .empty⟩

def add (r : Registry α) (name : String) (x : α) : Registry α :=
  ⟨r.items ++ [x], r.places.set name r.items.length⟩

/-- The place and the thing that a name stands for. -/
def find? (r : Registry α) (name : String) : Option (Nat × α) := do
  let place ← r.places.get? name
  let x ← r.items[place]?
  return (place, x)

def get? (r : Registry α) (name : String) : Option α := (r.find? name).map Prod.snd

/-- Put another thing into a place that is taken. -/
def replace (r : Registry α) (place : Nat) (x : α) : Registry α := { r with items := r.items.set place x }

theorem items_replace (r : Registry α) (place other : Nat) (x : α) (h : other ≠ place) :
    (r.replace place x).items[other]? = r.items[other]? :=
  List.getElem?_set_ne h.symm

theorem item_add {r : Registry α} {place : Nat} {x : α} (item : r.items[place]? = some x) (name : String) (y : α) :
    (r.add name y).items[place]? = some x := by
  show (r.items ++ [y])[place]? = some x
  rw [List.getElem?_append_left (List.getElem?_eq_some_iff.1 item).1, item]

theorem item_replace_self {r : Registry α} {place : Nat} {x : α} (item : r.items[place]? = some x) (y : α) :
    (r.replace place y).items[place]? = some y :=
  List.getElem?_set_self (List.getElem?_eq_some_iff.1 item).1

theorem item_of_find? {r : Registry α} {name : String} {place : Nat} {x : α}
    (h : r.find? name = some (place, x)) : r.items[place]? = some x := by
  simp only [find?, Option.bind_eq_bind, Option.bind_eq_some_iff, Option.pure_def, Option.some.injEq,
    Prod.mk.injEq] at h
  obtain ⟨p, _, y, hy, rfl, rfl⟩ := h
  exact hy

theorem replace_of_item {r : Registry α} {place : Nat} {x : α} (item : r.items[place]? = some x) :
    r.replace place x = r := by
  obtain ⟨h, rfl⟩ := List.getElem?_eq_some_iff.1 item
  rw [replace, List.set_getElem_self]

end Registry

end Rulebook.Session
