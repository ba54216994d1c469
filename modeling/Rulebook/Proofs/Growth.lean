import Mathlib.Data.Finset.Card
import Rulebook.Cache
import Rulebook.Distinct

/-!
# How caches grow

A cache that is given one instance after the other grows by those whose drivers it lacks, of each driver the first, and
in their order (`entries_addAll`). What it holds afterwards of a driver is what it held before, and the first instance
given of that driver if it held none (`find?_addAll`). Counts of look-ups are kept apart from this by `count`, which
only raises them.
-/

namespace Rulebook.Cache

/-! ### Counting look-ups -/

/-- Count so many more look-ups that found an instance, and so many that found none. -/
def count (c : Cache) (hits misses : Nat) : Cache := { c with hits := c.hits + hits, misses := c.misses + misses }

variable (c : Cache) (h m : Nat)

@[simp] theorem entries_count : (c.count h m).entries = c.entries := rfl

@[simp] theorem hits_count : (c.count h m).hits = c.hits + h := rfl

@[simp] theorem misses_count : (c.count h m).misses = c.misses + m := rfl

@[simp] theorem find?_count (d : Driver) : (c.count h m).find? d = c.find? d := rfl

theorem count_count (h' m' : Nat) : (c.count h m).count h' m' = c.count (h + h') (m + m') := by
  simp only [count, Nat.add_assoc]

variable {c}

theorem get_of_some {d : Driver} {i : Instance} (held : c.find? d = some i) : c.get d = (some i, c.count 1 0) := by
  simp [get, held, count]

theorem get_of_none {d : Driver} (absent : c.find? d = none) : c.get d = (none, c.count 0 1) := by
  simp [get, absent, count]

/-! ### Adding one instance -/

theorem contains_of_some {d : Driver} {i : Instance} (held : c.find? d = some i) : c.contains d = true := by
  rw [contains, held]
  rfl

theorem contains_eq_false_iff {d : Driver} : c.contains d = false ↔ c.find? d = none := by
  rw [contains, Option.isSome_eq_false_iff, Option.isNone_iff_eq_none]

theorem add_of_contains {i : Instance} (held : c.contains i.driver = true) : c.add i = c := by
  rw [add, dif_pos held]

theorem add_count (i : Instance) : (c.count h m).add i = (c.add i).count h m := by
  unfold add
  by_cases held : c.contains i.driver
  · rw [dif_pos held, dif_pos (by exact held)]
  · rw [dif_neg held, dif_neg (by exact held)]
    rfl

@[simp] theorem hits_add (i : Instance) : (c.add i).hits = c.hits := by
  unfold add
  split <;> rfl

@[simp] theorem misses_add (i : Instance) : (c.add i).misses = c.misses := by
  unfold add
  split <;> rfl

theorem contains_add (i : Instance) (d : Driver) :
    (c.add i).contains d = (c.contains d || decide (i.driver = d)) := by
  unfold contains
  rw [find?_add]
  by_cases hd : i.driver = d <;> simp [hd]

theorem find?_add_self {i : Instance} (absent : c.find? i.driver = none) : (c.add i).find? i.driver = some i := by
  rw [find?_add, absent, if_pos rfl]
  rfl

/-! ### Putting one instance in -/

variable {refuses : Policy}

theorem put_of_refused {i : Instance} (refused : refuses c.entries i.driver = true) : c.put refuses i = (c, []) := by
  rw [put, refused, Bool.true_or, if_pos rfl]

theorem put_of_accepted {i : Instance} (absent : c.find? i.driver = none)
    (accepted : refuses c.entries i.driver = false) : c.put refuses i = (c.add i, [.cached i.driver]) := by
  rw [put, accepted, contains_eq_false_iff.2 absent, Bool.or_self, if_neg Bool.false_ne_true]

theorem put_acceptAll (i : Instance) : (c.put .acceptAll i).1 = c.add i := by
  cases held : c.find? i.driver with
  | none => rw [put_of_accepted held rfl]
  | some j =>
    have inside := contains_of_some held
    rw [put, inside, Bool.or_true, if_pos rfl, add_of_contains inside]

theorem size_put_le (refuses : Policy) (i : Instance) : (c.put refuses i).1.size ≤ c.size + 1 := by
  unfold put size
  split
  · exact Nat.le_succ _
  · rw [entries_add]
    split
    · exact Nat.le_succ _
    · rw [List.length_append, List.length_singleton]

/-! ### Adding many instances -/

variable (c)

/-- Add instances one after the other. -/
def addAll (is : List Instance) : Cache := is.foldl add c

/-- What a cache lacks of some instances: of each driver that it does not hold, the first. -/
def missing (is : List Instance) : List Instance :=
  distinctBy Instance.driver (is.filter fun i => !c.contains i.driver)

/-- The instance that is held of the driver of another, or that other if none is held. -/
def canonical (i : Instance) : Instance := (c.find? i.driver).getD i

@[simp] theorem addAll_nil : c.addAll [] = c := rfl

theorem addAll_cons (i : Instance) (is : List Instance) : c.addAll (i :: is) = (c.add i).addAll is := rfl

theorem addAll_append (is js : List Instance) : c.addAll (is ++ js) = (c.addAll is).addAll js := List.foldl_append

theorem addAll_count (is : List Instance) : (c.count h m).addAll is = (c.addAll is).count h m := by
  induction is generalizing c with
  | nil => rfl
  | cons i is ih => rw [addAll_cons, add_count, ih, addAll_cons]

theorem missing_count (is : List Instance) : (c.count h m).missing is = c.missing is := rfl

@[simp] theorem hits_addAll (is : List Instance) : (c.addAll is).hits = c.hits := by
  induction is generalizing c with
  | nil => rfl
  | cons i is ih => rw [addAll_cons, ih, hits_add]

@[simp] theorem misses_addAll (is : List Instance) : (c.addAll is).misses = c.misses := by
  induction is generalizing c with
  | nil => rfl
  | cons i is ih => rw [addAll_cons, ih, misses_add]

variable {c}

theorem missing_cons_of_some {i j : Instance} (held : c.find? i.driver = some j) (is : List Instance) :
    c.missing (i :: is) = c.missing is := by
  rw [missing, List.filter_cons_of_neg (by simp [contains_of_some held]), missing]

theorem missing_cons_of_none {i : Instance} (absent : c.find? i.driver = none) (is : List Instance) :
    c.missing (i :: is) = i :: (c.add i).missing is := by
  have hi : (!c.contains i.driver) = true := by rw [contains_eq_false_iff.2 absent]; rfl
  rw [missing, List.filter_cons, if_pos hi, distinctBy, missing]
  congr 1
  -- what is left out behind `i` for its key is what a cache that holds `i` as well does not lack
  rw [filter_distinctBy Instance.driver (fun d => decide (d ≠ i.driver)), List.filter_filter]
  congr 1
  refine List.filter_congr fun j _ => ?_
  rw [contains_add]
  by_cases hj : j.driver = i.driver
  · simp [hj]
  · have hij : i.driver ≠ j.driver := fun e => hj e.symm
    simp [hj, hij]

/-- Old entries stay in their places, and what was missing is behind them. -/
theorem entries_addAll (is : List Instance) : (c.addAll is).entries = c.entries ++ c.missing is := by
  induction is generalizing c with
  | nil => simp [missing, distinctBy]
  | cons i is ih =>
    rw [addAll_cons, ih, entries_add]
    cases held : c.find? i.driver with
    | none =>
      rw [contains_eq_false_iff.2 held, missing_cons_of_none held]
      simp
    | some j =>
      rw [contains_of_some held, if_pos rfl, missing_cons_of_some held, add_of_contains (contains_of_some held)]

theorem find?_addAll (is : List Instance) (d : Driver) :
    (c.addAll is).find? d = (c.find? d).or (is.find? (·.driver == d)) := by
  induction is generalizing c with
  | nil => simp
  | cons i is ih =>
    rw [addAll_cons, ih, find?_add, Option.or_assoc, List.find?_cons]
    by_cases hd : i.driver = d
    · simp [hd]
    · have hd' : (i.driver == d) = false := beq_eq_false_iff_ne.2 hd
      simp [hd, hd']

theorem find?_addAll_eq_none_iff {is : List Instance} {d : Driver} :
    (c.addAll is).find? d = none ↔ c.find? d = none ∧ ∀ i ∈ is, i.driver ≠ d := by
  rw [find?_addAll, Option.or_eq_none_iff, List.find?_eq_none]
  simp

theorem size_addAll (is : List Instance) : (c.addAll is).size = c.size + (c.missing is).length := by
  rw [size, entries_addAll, List.length_append, size]

/-- What is missing of two lists is missing of the first, or of the second when the first was added. -/
theorem length_missing_append (is js : List Instance) :
    (c.missing (is ++ js)).length = (c.missing is).length + ((c.addAll is).missing js).length := by
  have whole := c.size_addAll (is ++ js)
  rw [addAll_append, size_addAll, size_addAll] at whole
  omega

theorem find?_addAll_of_mem {is : List Instance} {i : Instance} (hi : i ∈ is) :
    (c.addAll is).find? i.driver = some ((c.addAll is).canonical i) := by
  cases held : (c.addAll is).find? i.driver with
  | none => exact absurd rfl ((find?_addAll_eq_none_iff.1 held).2 i hi)
  | some j => rw [canonical, held, Option.getD_some]

theorem driver_canonical (i : Instance) : (c.canonical i).driver = i.driver := by
  unfold canonical
  cases held : c.find? i.driver with
  | none => rfl
  | some j => exact driver_of_find? held

/-! ### What is missing -/

theorem mem_map_missing {is : List Instance} {d : Driver} :
    d ∈ (c.missing is).map Instance.driver ↔ d ∈ is.map Instance.driver ∧ c.find? d = none := by
  rw [missing, mem_map_distinctBy, ← contains_eq_false_iff]
  simp only [List.mem_map, List.mem_filter, Bool.not_eq_true']
  constructor
  · rintro ⟨i, ⟨hi, absent⟩, rfl⟩
    exact ⟨⟨i, hi, rfl⟩, absent⟩
  · rintro ⟨⟨i, hi, rfl⟩, absent⟩
    exact ⟨i, ⟨hi, absent⟩, rfl⟩

theorem nodup_map_missing (is : List Instance) : ((c.missing is).map Instance.driver).Nodup :=
  nodup_map_distinctBy Instance.driver _

/-- As many instances are missing as there are different drivers among them that are not held. -/
theorem length_missing (is : List Instance) :
    (c.missing is).length = {d ∈ (is.map Instance.driver).toFinset | c.find? d = none}.card := by
  rw [← List.length_map Instance.driver, ← List.toFinset_card_of_nodup (nodup_map_missing is)]
  congr 1
  ext d
  rw [List.mem_toFinset, mem_map_missing, Finset.mem_filter, List.mem_toFinset]

end Rulebook.Cache
