import Rulebook.Proofs.Duplicates

/-!
# Outputs found in each other

The outputs of one rule may be found in another one whose outputs are not found in it, because an absent name is found
as null. In both directions at once the comparison is exact: it says that the two rules give the same texts and have
equally many nulls (`Rule.matchesOutputs_iff`), and so it is an equivalence. It does not tell under which names the
nulls stand, so these may be given other names (`Rule.matchesOutputs_renamed`).
-/

namespace Rulebook

/-! ### Other names for nulls -/

namespace Fields

variable {f g : Fields (Option String)} {rename : String → String}

theorem text?_eq_text?_iff {name : String} :
    f.text? name = g.text? name ↔ ∀ t, f.get? name = some (some t) ↔ g.get? name = some (some t) := by
  rw [Option.ext_iff]
  refine forall_congr' fun t => ?_
  rw [text?, text?, Option.join_eq_some_iff, Option.join_eq_some_iff]

/-- Write every null under another name, and every text under its own. -/
def renameNulls (rename : String → String) (f : Fields (Option String)) : Fields (Option String) :=
  .ofPairs (f.entries.map fun p => (if p.2.isNone then rename p.1 else p.1, p.2))

/-- A renaming keeps the nulls of `f` apart, and those to which it gives another name get one that is used neither by
`f` nor by `g`. -/
structure RenamesNulls (rename : String → String) (f g : Fields (Option String)) : Prop where
  apart : ∀ m n, f.get? m = some none → f.get? n = some none → rename m = rename n → m = n
  unused : ∀ n, f.get? n = some none → rename n = n ∨ rename n ∉ f.names ∧ rename n ∉ g.names

/-- Two entries that are written under one name had one name. -/
theorem RenamesNulls.name_eq (fresh : RenamesNulls rename f g) {m n : String} {v w : Option String}
    (hm : (m, v) ∈ f.entries) (hn : (n, w) ∈ f.entries)
    (same : (if v.isNone then rename m else m) = if w.isNone then rename n else n) : m = n := by
  -- a null that gets another name does not get that of a text
  have ofText : ∀ {m n t}, (m, none) ∈ f.entries → (n, some t) ∈ f.entries → rename m = n → m = n := by
    intro m n t null text same
    rcases fresh.unused m (get?_eq_some_iff.2 null) with kept | ⟨new, -⟩
    · exact kept.symm.trans same
    · exact absurd (List.mem_map.2 ⟨_, text, rfl⟩) (same ▸ new)
  cases v with
  | none =>
    cases w with
    | none => exact fresh.apart m n (get?_eq_some_iff.2 hm) (get?_eq_some_iff.2 hn) same
    | some t => exact ofText hm hn same
  | some t =>
    cases w with
    | none => exact (ofText hn hm same.symm).symm
    | some u => exact same

theorem entries_renameNulls (fresh : RenamesNulls rename f g) :
    (f.renameNulls rename).entries = f.entries.map fun p => (if p.2.isNone then rename p.1 else p.1, p.2) := by
  apply entries_ofPairs
  rw [List.map_map]
  refine List.Nodup.map_on ?_ f.nodup_entries
  rintro ⟨m, v⟩ hm ⟨n, w⟩ hn same
  cases fresh.name_eq hm hn same
  exact congrArg (Prod.mk m) (Option.some.inj ((get?_eq_some_iff.2 hm).symm.trans (get?_eq_some_iff.2 hn)))

theorem text?_renameNulls (fresh : RenamesNulls rename f g) (name : String) :
    (f.renameNulls rename).text? name = f.text? name := by
  apply Option.ext
  intro t
  rw [text?, text?, Option.join_eq_some_iff, Option.join_eq_some_iff, get?_eq_some_iff, get?_eq_some_iff,
    entries_renameNulls fresh, List.mem_map]
  constructor
  · rintro ⟨⟨n, value⟩, entry, same⟩
    cases same
    exact entry
  · intro entry
    exact ⟨_, entry, rfl⟩

theorem nulls_renameNulls (fresh : RenamesNulls rename f g) : (f.renameNulls rename).nulls = f.nulls := by
  rw [nulls, entries_renameNulls fresh, List.countP_map]
  rfl

end Fields

/-! ### The comparison in both directions -/

namespace Rule

variable {a b : Rule}

/-- The outputs of two rules are found in each other. -/
def MatchesOutputs (a b : Rule) : Prop := a.sameOutputs b = true ∧ b.sameOutputs a = true

instance : Decidable (a.MatchesOutputs b) := inferInstanceAs (Decidable (_ ∧ _))

/-- A rule with every null of its outputs under another name. -/
def renameNulls (rename : String → String) (r : Rule) : Rule := { r with outputs := r.outputs.renameNulls rename }

theorem matchesOutputs_iff :
    a.MatchesOutputs b ↔ (∀ name, a.outputs.text? name = b.outputs.text? name) ∧ a.outputs.nulls = b.outputs.nulls := by
  constructor
  · rintro ⟨there, back⟩
    have nulls := Nat.le_antisymm (nulls_le_of_sameOutputs back) (nulls_le_of_sameOutputs there)
    exact ⟨(sameOutputs_iff_of_nulls_eq nulls).1 there, nulls⟩
  · rintro ⟨texts, nulls⟩
    have there := (sameOutputs_iff_of_nulls_eq nulls).2 texts
    exact ⟨there, sameOutputs_comm_of_nulls_eq nulls ▸ there⟩

theorem equivalence_matchesOutputs : Equivalence MatchesOutputs where
  refl a := matchesOutputs_iff.2 ⟨fun _ => rfl, rfl⟩
  symm h := ⟨h.2, h.1⟩
  trans h h' := by
    obtain ⟨texts, nulls⟩ := matchesOutputs_iff.1 h
    obtain ⟨texts', nulls'⟩ := matchesOutputs_iff.1 h'
    exact matchesOutputs_iff.2 ⟨fun name => (texts name).trans (texts' name), nulls.trans nulls'⟩

/-- Null by null, either rule may have other names. -/
theorem matchesOutputs_renamed {rename rename' : String → String}
    (fresh : Fields.RenamesNulls rename a.outputs b.outputs) (fresh' : Fields.RenamesNulls rename' b.outputs a.outputs) :
    (a.renameNulls rename).MatchesOutputs (b.renameNulls rename') ↔ a.MatchesOutputs b := by
  rw [matchesOutputs_iff, matchesOutputs_iff]
  simp only [renameNulls, Fields.text?_renameNulls fresh, Fields.text?_renameNulls fresh',
    Fields.nulls_renameNulls fresh, Fields.nulls_renameNulls fresh']

/-- A rule without nulls whose outputs are found in another one is matched by it. -/
theorem matchesOutputs_of_text (text : a.HasTextOutputs) (there : a.sameOutputs b = true) : a.MatchesOutputs b := by
  have fewer := nulls_le_of_sameOutputs there
  rw [hasTextOutputs_iff] at text
  have nulls : a.outputs.nulls = b.outputs.nulls := by omega
  exact ⟨there, sameOutputs_comm_of_nulls_eq nulls ▸ there⟩

/-- The outputs of two rules are found in each other exactly if the rules give the same texts and have equally many
nulls. This is an equivalence of rules. It depends neither on the order of outputs nor on the names under which nulls
stand, and for a rule without nulls it is told in one direction. -/
theorem matchesOutputs_spec :
    (∀ a b : Rule, a.sameOutputs b = true ∧ b.sameOutputs a = true ↔
      (∀ name t, a.outputs.get? name = some (some t) ↔ b.outputs.get? name = some (some t)) ∧
        a.outputs.nulls = b.outputs.nulls) ∧
      Equivalence MatchesOutputs ∧
      (∀ a a' b b' : Rule, a.outputs.entries.Perm a'.outputs.entries → b.outputs.entries.Perm b'.outputs.entries →
        (a.MatchesOutputs b ↔ a'.MatchesOutputs b')) ∧
      (∀ (a b : Rule) (rename rename' : String → String), Fields.RenamesNulls rename a.outputs b.outputs →
        Fields.RenamesNulls rename' b.outputs a.outputs →
          ((a.renameNulls rename).MatchesOutputs (b.renameNulls rename') ↔ a.MatchesOutputs b)) ∧
      ∀ a b : Rule, a.HasTextOutputs → a.sameOutputs b = true → a.MatchesOutputs b := by
  refine ⟨fun a b => ?_, equivalence_matchesOutputs, fun a a' b b' ha hb => ?_, fun a b rename rename' =>
    matchesOutputs_renamed, fun a b => matchesOutputs_of_text⟩
  · simp only [← Fields.text?_eq_text?_iff]
    exact matchesOutputs_iff
  · rw [Fields.perm_entries_iff] at ha hb
    unfold MatchesOutputs
    rw [sameOutputs_congr ha hb, sameOutputs_congr hb ha]

/-- A rule with a text and two nulls matches a rule with the same text and two nulls of other names, also when one
null of the first goes under a third name; a rule without nulls is told to match in one direction. -/
theorem matchesOutputs_spec_renamed :
    let rename : String → String := fun name => if name = "x" then "y" else name
    let a : Rule := ⟨none, none, [], .ofPairs [("x", none), ("rate", some "1"), ("z", none)], .ofBounds none none⟩
    let b : Rule := ⟨none, none, [], .ofPairs [("u", none), ("v", none), ("rate", some "1")], .ofBounds none none⟩
    let c : Rule := ⟨none, none, [], .ofPairs [("rate", some "1"), ("unit", some "2")], .ofBounds none none⟩
    let d : Rule := ⟨none, none, [], .ofPairs [("unit", some "2"), ("rate", some "1")], .ofBounds none none⟩
    Fields.RenamesNulls rename a.outputs b.outputs ∧ Fields.RenamesNulls id b.outputs a.outputs ∧
      (a.renameNulls rename).MatchesOutputs (b.renameNulls id) ∧ c.HasTextOutputs ∧ c.MatchesOutputs d := by
  intro rename a b c d
  obtain ⟨-, -, -, renamed, oneWay⟩ := matchesOutputs_spec
  have nulls : ∀ name, a.outputs.get? name = some none → name = "x" ∨ name = "z" := by
    intro name null
    have entry := Fields.get?_eq_some_iff.1 null
    simpa [a, Fields.ofPairs, Fields.setAll, Fields.set, Fields.update, Fields.empty] using entry
  have fresh : Fields.RenamesNulls rename a.outputs b.outputs := by
    constructor
    · intro m n hm hn
      rcases nulls m hm with rfl | rfl <;> rcases nulls n hn with rfl | rfl <;> decide
    · intro n hn
      rcases nulls n hn with rfl | rfl <;> decide
  have kept : Fields.RenamesNulls id b.outputs a.outputs := ⟨fun _ _ _ _ same => same, fun _ _ => Or.inl rfl⟩
  exact ⟨fresh, kept, (renamed a b rename id fresh kept).2 (by decide), by decide, oneWay c d (by decide) (by decide)⟩

end Rule

end Rulebook
