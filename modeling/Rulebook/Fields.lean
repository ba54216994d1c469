/-!
# Named fields in the order they were first written

`Fields α` is a finite map from names to values that remembers the order in which its names were first set. Setting
a name again replaces its value and leaves it where it stands: `get?_set` and `map_fst_update` say what that does to the
two views of the map, its values and its names.
-/

namespace Rulebook

/-- A finite map from names to values, listed in the order in which the names were first set. -/
structure Fields (α : Type) where
  /-- The names with their values, oldest name first. -/
  entries : List (String × α)
  names_nodup : (entries.map Prod.fst).Nodup
deriving DecidableEq

namespace Fields

variable {α : Type}

/-- Give `name` a value in a list of pairs: in its place if it is there, and at the end if it is not. -/
def update (name : String) (value : α) : List (String × α) → List (String × α)
  | [] => [(name, value)]
  | (n, v) :: rest => if n = name then (n, value) :: rest else (n, v) :: update name value rest

theorem map_fst_update (name : String) (value : α) (l : List (String × α)) :
    (update name value l).map Prod.fst =
      if name ∈ l.map Prod.fst then l.map Prod.fst else l.map Prod.fst ++ [name] := by
  induction l with
  | nil => simp [update]
  | cons p rest ih =>
    obtain ⟨n, v⟩ := p
    by_cases h : n = name
    · simp [update, h]
    · have h' : name ≠ n := fun e => h e.symm
      rw [update, if_neg h, List.map_cons, ih]
      by_cases hm : name ∈ rest.map Prod.fst <;> simp [hm, h']

private theorem beq_of_ne {a b : String} (h : a ≠ b) : (a == b) = false := beq_eq_false_iff_ne.2 h

theorem lookup_update (name other : String) (value : α) (l : List (String × α)) :
    (update name value l).lookup other = if other = name then some value else l.lookup other := by
  induction l with
  | nil => by_cases h : other = name <;> simp [update, List.lookup_cons, h, beq_of_ne]
  | cons p rest ih =>
    obtain ⟨n, v⟩ := p
    by_cases hn : n = name
    · subst hn
      by_cases h : other = n <;> simp [update, List.lookup_cons, h, beq_of_ne]
    · by_cases h : other = n
      · simp [update, h, hn]
      · simp [update, hn, List.lookup_cons, beq_of_ne h, ih]

theorem lookup_filter_ne (name other : String) (l : List (String × α)) :
    (l.filter (·.1 != name)).lookup other = if other = name then none else l.lookup other := by
  induction l with
  | nil => simp
  | cons p rest ih =>
    obtain ⟨n, v⟩ := p
    by_cases hn : n = name
    · subst hn
      rw [List.filter_cons_of_neg (by simp), ih]
      by_cases h : other = n
      · simp [h]
      · simp [h, List.lookup_cons, beq_of_ne h]
    · rw [List.filter_cons_of_pos (by simpa using hn), List.lookup_cons, List.lookup_cons, ih]
      by_cases h : other = n
      · subst h
        simp [hn]
      · simp [beq_of_ne h]

theorem update_of_lookup {name : String} {value : α} {l : List (String × α)} (h : l.lookup name = some value) :
    update name value l = l := by
  induction l with
  | nil => cases h
  | cons p rest ih =>
    obtain ⟨n, v⟩ := p
    by_cases hn : n = name
    · subst hn
      rw [List.lookup_cons_self, Option.some.injEq] at h
      rw [update, if_pos rfl, h]
    · rw [List.lookup_cons, beq_of_ne (Ne.symm hn)] at h
      rw [update, if_neg hn, ih h]

theorem update_update_self (name : String) (value again : α) (l : List (String × α)) :
    update name again (update name value l) = update name again l := by
  induction l with
  | nil => simp [update]
  | cons p rest ih => by_cases h : p.1 = name <;> simp [update, h, ih]

/-- To give a name a value again leaves it where it stands, behind or before others that were given one meanwhile. -/
theorem update_update_again {name other : String} (apart : other ≠ name) (value between again : α)
    (l : List (String × α)) :
    update name again (update other between (update name value l)) = update other between (update name again l) := by
  induction l with
  | nil => simp [update, Ne.symm apart]
  | cons p rest ih =>
    obtain ⟨n, v⟩ := p
    by_cases hn : n = name
    · subst hn
      simp [update, Ne.symm apart]
    · by_cases ho : n = other
      · subst ho
        simp [update, hn, update_update_self]
      · simp [update, hn, ho, ih]

theorem filter_update_of_ne {name other : String} (apart : other ≠ name) (value : α) (l : List (String × α)) :
    (update other value l).filter (·.1 != name) = update other value (l.filter (·.1 != name)) := by
  induction l with
  | nil => simp [update, apart]
  | cons p rest ih =>
    obtain ⟨n, v⟩ := p
    by_cases ho : n = other
    · subst ho
      simp [update, apart]
    · by_cases hn : n = name
      · subst hn
        simp [update, ho, ih]
      · simp [update, ho, hn, ih]

private theorem update_of_not_mem {name : String} (value : α) {l : List (String × α)} (new : name ∉ l.map Prod.fst) :
    update name value l = l ++ [(name, value)] := by
  induction l with
  | nil => rfl
  | cons p rest ih =>
    rw [List.map_cons, List.mem_cons, not_or] at new
    rw [update, if_neg (Ne.symm new.1), ih new.2, List.cons_append]

private theorem nodup_update {name : String} {value : α} {l : List (String × α)}
    (h : (l.map Prod.fst).Nodup) : ((update name value l).map Prod.fst).Nodup := by
  rw [map_fst_update]
  split
  · exact h
  · rename_i hm
    refine List.nodup_append.2 ⟨h, by simp, ?_⟩
    rintro a ha b hb rfl
    exact hm (List.mem_singleton.1 hb ▸ ha)

def empty : Fields α := ⟨[], List.nodup_nil⟩

instance : Inhabited (Fields α) := ⟨empty⟩

/-- The names, oldest first. -/
def names (f : Fields α) : List String := f.entries.map Prod.fst

def size (f : Fields α) : Nat := f.entries.length

def get? (f : Fields α) (name : String) : Option α := f.entries.lookup name

/-- Give a name a value, in its place if it has one already and behind all others if it does not. -/
def set (f : Fields α) (name : String) (value : α) : Fields α :=
  ⟨update name value f.entries, nodup_update f.names_nodup⟩

def erase (f : Fields α) (name : String) : Fields α :=
  ⟨f.entries.filter (·.1 != name), (List.filter_sublist.map Prod.fst).nodup f.names_nodup⟩

def setAll (f : Fields α) (pairs : List (String × α)) : Fields α :=
  pairs.foldl (fun f p => f.set p.1 p.2) f

/-- The map written by a list of pairs, in which a later pair wins over an earlier one of its name. -/
def ofPairs (pairs : List (String × α)) : Fields α := empty.setAll pairs

theorem ext_entries {f g : Fields α} (h : f.entries = g.entries) : f = g := by
  cases f; cases g; cases h; rfl

theorem get?_set (f : Fields α) (name other : String) (value : α) :
    (f.set name value).get? other = if other = name then some value else f.get? other :=
  lookup_update name other value f.entries

theorem get?_erase (f : Fields α) (name other : String) :
    (f.erase name).get? other = if other = name then none else f.get? other :=
  lookup_filter_ne name other f.entries

/-- To set a name to the value that it has changes nothing, not even the order of names. -/
theorem set_of_get? {f : Fields α} {name : String} {value : α} (h : f.get? name = some value) :
    f.set name value = f :=
  ext_entries (update_of_lookup h)

theorem set_set_self (f : Fields α) (name : String) (value again : α) :
    (f.set name value).set name again = f.set name again :=
  ext_entries (update_update_self name value again f.entries)

theorem set_set_again {name other : String} (apart : other ≠ name) (f : Fields α) (value between again : α) :
    ((f.set name value).set other between).set name again = (f.set name again).set other between :=
  ext_entries (update_update_again apart value between again f.entries)

theorem erase_of_get? {f : Fields α} {name : String} (absent : f.get? name = none) : f.erase name = f := by
  refine ext_entries (List.filter_eq_self.2 fun p hp => ?_)
  have := List.lookup_eq_none_iff.1 absent p hp
  rwa [bne_comm, bne]

theorem erase_set_of_ne {name other : String} (apart : other ≠ name) (f : Fields α) (value : α) :
    (f.set other value).erase name = (f.erase name).set other value :=
  ext_entries (filter_update_of_ne apart value f.entries)

/-- Writing pairs changes nothing under a name that none of them has. -/
theorem get?_setAll_of_not_mem {pairs : List (String × α)} {name : String} (free : name ∉ pairs.map Prod.fst)
    (f : Fields α) : (f.setAll pairs).get? name = f.get? name := by
  induction pairs generalizing f with
  | nil => rfl
  | cons p rest ih =>
    rw [List.map_cons, List.mem_cons, not_or] at free
    have later : (f.setAll (p :: rest)).get? name = (f.set p.1 p.2).get? name := ih free.2 _
    rw [later, get?_set, if_neg free.1]

theorem entries_setAll {pairs : List (String × α)} (f : Fields α)
    (nodup : ((f.entries ++ pairs).map Prod.fst).Nodup) : (f.setAll pairs).entries = f.entries ++ pairs := by
  induction pairs generalizing f with
  | nil => exact (List.append_nil _).symm
  | cons p rest ih =>
    have new : p.1 ∉ f.entries.map Prod.fst := by
      intro taken
      rw [List.map_append, List.nodup_append] at nodup
      exact nodup.2.2 _ taken _ List.mem_cons_self rfl
    have added : (f.set p.1 p.2).entries = f.entries ++ [p] := update_of_not_mem p.2 new
    have step : f.entries ++ p :: rest = (f.set p.1 p.2).entries ++ rest := by rw [added, List.append_cons]
    rw [step] at nodup ⊢
    exact ih _ nodup

/-- Pairs of which no two have one name are the entries of the map that they write. -/
theorem entries_ofPairs {pairs : List (String × α)} (nodup : (pairs.map Prod.fst).Nodup) :
    (ofPairs pairs).entries = pairs :=
  entries_setAll .empty nodup

end Fields

end Rulebook
