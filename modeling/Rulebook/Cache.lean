import Rulebook.Log.Event

/-!
# Caches of drivers

A cache holds one instance of each driver that was put into it, the first one, in the order in which they came, and
counts how many look-ups found one and how many did not. A policy may make it refuse a driver silently. `find?_add`
says what a look-up finds after an instance was added.

A cache keeps each instance under a key. The keys are left out here: `put`, which alone writes to a cache, takes for the
key the value and the type of the instance itself, so that the key of an entry is always the driver that it holds.
-/

namespace Rulebook

open Log (Event)

/-- What decides whether a cache with given entries silently refuses a driver. -/
abbrev Policy := List Instance → Driver → Bool

def Policy.acceptAll : Policy := fun _ _ => false

/-- One instance of each driver that was put in, and the counts of look-ups. -/
structure Cache where
  /-- The instances held, oldest first. -/
  entries : List Instance
  hits : Nat
  misses : Nat
  drivers_nodup : (entries.map Instance.driver).Nodup
deriving DecidableEq

namespace Cache

def empty : Cache := ⟨[], 0, 0, List.nodup_nil⟩

instance : Inhabited Cache := ⟨empty⟩

def size (c : Cache) : Nat := c.entries.length

def find? (c : Cache) (d : Driver) : Option Instance := c.entries.find? (·.driver == d)

def contains (c : Cache) (d : Driver) : Bool := (c.find? d).isSome

/-- The number of drivers held, and how many look-ups found an instance and how many did not. -/
structure Counts where
  size : Nat
  hits : Nat
  misses : Nat
deriving DecidableEq

def counts (c : Cache) : Counts := ⟨c.size, c.hits, c.misses⟩

def get (c : Cache) (d : Driver) : Option Instance × Cache :=
  match c.find? d with
  | some i => (some i, { c with hits := c.hits + 1 })
  | none => (none, { c with misses := c.misses + 1 })

theorem find?_eq_none_iff {c : Cache} {d : Driver} : c.find? d = none ↔ d ∉ c.entries.map Instance.driver := by
  simp [find?, List.find?_eq_none]

theorem contains_iff {c : Cache} {d : Driver} : c.contains d = true ↔ d ∈ c.entries.map Instance.driver := by
  rw [← Decidable.not_iff_not, ← find?_eq_none_iff]
  simp [contains]

/-- Hold an instance behind all others, unless one of its driver is held already. -/
def add (c : Cache) (i : Instance) : Cache :=
  if h : c.contains i.driver then c
  else
    { c with
      entries := c.entries ++ [i]
      drivers_nodup := by
        rw [List.map_append, List.nodup_append]
        refine ⟨c.drivers_nodup, by simp, ?_⟩
        rintro a ha b hb rfl
        rw [List.map_singleton, List.mem_singleton] at hb
        exact h (contains_iff.2 (hb ▸ ha)) }

/-- Put an instance in, unless the policy refuses it. An instance of the same driver that is held already stays. -/
def put (c : Cache) (refuses : Policy) (i : Instance) : Cache × List Event :=
  if refuses c.entries i.driver || c.contains i.driver then (c, [])
  else (c.add i, [.cached i.driver])

def clear (_ : Cache) : Cache × List Event := (empty, [.cleared])

theorem driver_of_find? {c : Cache} {d : Driver} {i : Instance} (h : c.find? d = some i) : i.driver = d := by
  simpa using List.find?_some h

theorem entries_add (c : Cache) (i : Instance) :
    (c.add i).entries = if c.contains i.driver then c.entries else c.entries ++ [i] := by
  unfold add
  split <;> rfl

/-- A look-up after an instance was added finds what it found before, and the instance only if it found nothing. -/
theorem find?_add (c : Cache) (i : Instance) (d : Driver) :
    (c.add i).find? d = (c.find? d).or (if i.driver = d then some i else none) := by
  unfold find?
  rw [entries_add]
  split
  · rename_i h
    by_cases hd : i.driver = d
    · subst hd
      obtain ⟨j, hj⟩ := Option.isSome_iff_exists.1 h
      unfold find? at hj
      simp [hj]
    · simp [hd]
  · rw [List.find?_append]
    by_cases hd : i.driver = d <;> simp [hd]

theorem fst_get (c : Cache) (d : Driver) : (c.get d).1 = c.find? d := by
  unfold get
  split <;> simp_all

theorem entries_get (c : Cache) (d : Driver) : (c.get d).2.entries = c.entries := by
  unfold get
  split <;> rfl

@[simp] theorem find?_empty (d : Driver) : empty.find? d = none := rfl

end Cache

/-- Which drivers a cache drops whatever it holds. -/
inductive Drop where
  | nothing
  | everything
  | values (values : List String)
deriving DecidableEq

/-- The limits of a cache: what it drops, and how many drivers it takes. -/
structure Limits where
  drop : Drop
  capacity : Option Int
deriving DecidableEq

namespace Limits

def unlimited : Limits := ⟨.nothing, none⟩

/-- The policy of a limited cache: a driver is refused if it is dropped, or if the cache is full. -/
def refuses (l : Limits) : Policy := fun entries d =>
  (match l.drop with
    | .nothing => false
    | .everything => true
    | .values vs => vs.contains d.value) ||
  l.capacity.any (· ≤ (entries.length : Int))

end Limits

end Rulebook
