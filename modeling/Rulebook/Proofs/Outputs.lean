import Mathlib.Data.List.Nodup
import Mathlib.Data.List.Perm.Subperm
import Rulebook.Rule.Basic

/-!
# Comparing outputs

Outputs are maps from names to texts, of which some may be null. `Rule.sameOutputs` walks the names of one rule and
takes an absent name of the other for null, so it can hold in one direction only. What it tells is recovered by
counting: the rule that is found in the other has no more texts and no fewer nulls
(`Rule.nulls_le_of_sameOutputs`), and if both have equally many nulls then the check says that both give the same
texts, in either direction (`Rule.sameOutputs_iff_of_nulls_eq`).
-/

namespace Rulebook

/-! ### Maps by their entries -/

namespace Fields

variable {α : Type} {f g : Fields α} {name : String} {v : α}

private theorem lookup_eq_some_iff_mem {l : List (String × α)} (nodup : (l.map Prod.fst).Nodup) :
    l.lookup name = some v ↔ (name, v) ∈ l := by
  induction l with
  | nil => simp
  | cons p rest ih =>
    obtain ⟨n, w⟩ := p
    rw [List.map_cons, List.nodup_cons] at nodup
    rw [List.lookup_cons, List.mem_cons]
    by_cases h : name = n
    · subst h
      have fresh : (name, v) ∉ rest := fun hv => nodup.1 (List.mem_map.2 ⟨_, hv, rfl⟩)
      simp [fresh, eq_comm]
    · have hn : (name == n) = false := beq_eq_false_iff_ne.2 h
      simp [hn, h, ih nodup.2]

theorem get?_eq_some_iff : f.get? name = some v ↔ (name, v) ∈ f.entries := lookup_eq_some_iff_mem f.names_nodup

theorem nodup_entries (f : Fields α) : f.entries.Nodup := f.names_nodup.of_map

/-- Maps that agree on every name have the same entries, perhaps in another order. -/
theorem perm_entries_iff : f.entries.Perm g.entries ↔ ∀ name, f.get? name = g.get? name := by
  rw [List.perm_ext_iff_of_nodup f.nodup_entries g.nodup_entries]
  constructor
  · intro same name
    apply Option.ext
    intro v
    rw [get?_eq_some_iff, get?_eq_some_iff, same]
  · rintro same ⟨name, v⟩
    rw [← get?_eq_some_iff, ← get?_eq_some_iff, same]

theorem size_eq_of_get?_eq (same : ∀ name, f.get? name = g.get? name) : f.size = g.size :=
  (perm_entries_iff.2 same).length_eq

/-! ### Texts and nulls -/

section Texts

variable {f g : Fields (Option String)} {t : String}

/-- The text of a name, if it has one: an absent name has none, nor has a null. -/
def text? (f : Fields (Option String)) (name : String) : Option String := (f.get? name).join

/-- The names that have a text, with their texts. -/
def texts (f : Fields (Option String)) : List (String × String) :=
  f.entries.filterMap fun p => p.2.map fun t => (p.1, t)

/-- How many names are null. -/
def nulls (f : Fields (Option String)) : Nat := f.entries.countP fun p => p.2.isNone

theorem mem_texts : (name, t) ∈ f.texts ↔ f.text? name = some t := by
  rw [text?, Option.join_eq_some_iff, get?_eq_some_iff, texts, List.mem_filterMap]
  constructor
  · rintro ⟨⟨n, value⟩, entry, given⟩
    obtain ⟨t', rfl, same⟩ := Option.map_eq_some_iff.1 given
    cases same
    exact entry
  · intro entry
    exact ⟨_, entry, rfl⟩

theorem nodup_texts (f : Fields (Option String)) : f.texts.Nodup := by
  apply List.Nodup.filterMap _ f.nodup_entries
  rintro ⟨n, value⟩ ⟨n', value'⟩ b hb hb'
  obtain ⟨t, rfl, rfl⟩ := Option.map_eq_some_iff.1 hb
  obtain ⟨t', rfl, same⟩ := Option.map_eq_some_iff.1 hb'
  cases same
  rfl

/-- Every name has a text or is null. -/
theorem length_texts_add_nulls (f : Fields (Option String)) : f.texts.length + f.nulls = f.size := by
  rw [texts, List.length_filterMap_eq_countP, nulls, size,
    List.length_eq_countP_add_countP fun p : String × Option String => p.2.isSome]
  congr 1
  · refine List.countP_congr fun p _ => ?_
    rw [Option.isSome_map]
  · refine List.countP_congr fun p _ => ?_
    cases p.2 <;> simp

theorem nulls_eq_zero_iff : f.nulls = 0 ↔ ∀ p ∈ f.entries, p.2 ≠ none := by
  rw [nulls, List.countP_eq_zero]
  simp only [Option.isNone_iff_eq_none, ne_eq]

theorem nulls_eq_of_get?_eq (same : ∀ name, f.get? name = g.get? name) : f.nulls = g.nulls :=
  (perm_entries_iff.2 same).countP_eq _

/-- Without nulls, the texts are all there is. -/
theorem get?_of_nulls_eq_zero (noNull : f.nulls = 0) (name : String) : f.get? name = (f.text? name).map some := by
  unfold text?
  cases found : f.get? name with
  | none => rfl
  | some value =>
    cases value with
    | none => exact absurd rfl (nulls_eq_zero_iff.1 noNull _ (get?_eq_some_iff.1 found))
    | some t => rfl

/-- Of two maps with equally many names, the one whose texts are all found in the other has no fewer nulls. -/
theorem nulls_le_of_texts_subset (size : f.size = g.size) (found : f.texts ⊆ g.texts) : g.nulls ≤ f.nulls := by
  have fewer := (List.subperm_of_subset f.nodup_texts found).length_le
  have hf := f.length_texts_add_nulls
  have hg := g.length_texts_add_nulls
  omega

/-- If they have equally many nulls as well, both have the same texts. -/
theorem text?_eq_of_texts_subset (size : f.size = g.size) (found : f.texts ⊆ g.texts) (nulls : f.nulls = g.nulls) :
    ∀ name, f.text? name = g.text? name := by
  have hf := f.length_texts_add_nulls
  have hg := g.length_texts_add_nulls
  have same : f.texts.Perm g.texts := (List.subperm_of_subset f.nodup_texts found).perm_of_length_le (by omega)
  intro name
  apply Option.ext
  intro t
  rw [← mem_texts, ← mem_texts, same.mem_iff]

theorem size_eq_of_text?_eq (same : ∀ name, f.text? name = g.text? name) (nulls : f.nulls = g.nulls) :
    f.size = g.size := by
  have texts : f.texts.Perm g.texts := by
    rw [List.perm_ext_iff_of_nodup f.nodup_texts g.nodup_texts]
    rintro ⟨name, t⟩
    rw [mem_texts, mem_texts, same]
  rw [← length_texts_add_nulls, ← length_texts_add_nulls, texts.length_eq, nulls]

end Texts

end Fields

/-! ### The comparison -/

namespace Rule

variable {a a' b b' : Rule}

theorem sameOutputs_iff : a.sameOutputs b = true ↔
    a.outputs.size = b.outputs.size ∧
      ∀ name value, a.outputs.get? name = some value → b.outputs.text? name = value := by
  rw [sameOutputs, Bool.and_eq_true, beq_iff_eq, List.all_eq_true]
  refine and_congr_right fun _ => ⟨fun all name value found => ?_, fun all p hp => ?_⟩
  · exact beq_iff_eq.1 (all _ (Fields.get?_eq_some_iff.1 found))
  · exact beq_iff_eq.2 (all _ _ (Fields.get?_eq_some_iff.2 hp))

theorem texts_subset_of_sameOutputs (same : a.sameOutputs b = true) : a.outputs.texts ⊆ b.outputs.texts := by
  rintro ⟨name, t⟩ given
  rw [Fields.mem_texts] at given ⊢
  exact (sameOutputs_iff.1 same).2 name (some t) (Option.join_eq_some_iff.1 given)

/-- A rule whose outputs are found in another one has no fewer nulls than that. -/
theorem nulls_le_of_sameOutputs (same : a.sameOutputs b = true) : b.outputs.nulls ≤ a.outputs.nulls :=
  Fields.nulls_le_of_texts_subset (sameOutputs_iff.1 same).1 (texts_subset_of_sameOutputs same)

/-- Where two rules have equally many nulls, their outputs are compared by their texts. -/
theorem sameOutputs_iff_of_nulls_eq (nulls : a.outputs.nulls = b.outputs.nulls) :
    a.sameOutputs b = true ↔ ∀ name, a.outputs.text? name = b.outputs.text? name := by
  constructor
  · intro same
    exact Fields.text?_eq_of_texts_subset (sameOutputs_iff.1 same).1 (texts_subset_of_sameOutputs same) nulls
  · intro same
    refine sameOutputs_iff.2 ⟨Fields.size_eq_of_text?_eq same nulls, fun name value found => ?_⟩
    rw [← same, Fields.text?, found, Option.join_some]

theorem sameOutputs_comm_of_nulls_eq (nulls : a.outputs.nulls = b.outputs.nulls) :
    a.sameOutputs b = b.sameOutputs a := by
  rw [Bool.eq_iff_iff, sameOutputs_iff_of_nulls_eq nulls, sameOutputs_iff_of_nulls_eq nulls.symm]
  exact forall_congr' fun _ => eq_comm

/-- In which order the outputs of either rule are listed plays no part. -/
theorem sameOutputs_congr (ha : ∀ name, a.outputs.get? name = a'.outputs.get? name)
    (hb : ∀ name, b.outputs.get? name = b'.outputs.get? name) : a.sameOutputs b = a'.sameOutputs b' := by
  rw [Bool.eq_iff_iff, sameOutputs_iff, sameOutputs_iff, Fields.size_eq_of_get?_eq ha, Fields.size_eq_of_get?_eq hb]
  simp only [Fields.text?, ha, hb]

end Rule

end Rulebook
