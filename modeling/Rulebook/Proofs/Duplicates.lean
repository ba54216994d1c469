import Rulebook.Proofs.Calendar
import Rulebook.Proofs.Outputs

/-!
# Duplicates

Two rules have the same meaning if they have equal drivers in the same slots, outputs that are the same map, and
bounds that are the same moments (`Rule.SameMeaning`). Nothing else plays a part in whether a rule duplicates
another one (`Rule.isDuplicateOf_congr`), and a rule without nulls duplicates exactly those of its meaning
(`Rule.duplicates_of_text`). With nulls a rule may duplicate another one that does not duplicate it; this happens
if and only if they do not have equally many nulls (`Rule.isDuplicateOf_comm_iff`).
-/

namespace Rulebook.Rule

variable {a a' b b' c : Rule}

/-! ### Meaning -/

/-- No output of a rule is null. -/
def HasTextOutputs (r : Rule) : Prop := ∀ p ∈ r.outputs.entries, p.2 ≠ none

instance (r : Rule) : Decidable r.HasTextOutputs := inferInstanceAs (Decidable (∀ p ∈ r.outputs.entries, p.2 ≠ none))

/-- Two rules have equal drivers in the same slots, the same value for every name, and bounds that are the same
moments. Their identifiers and codes may differ, and so may the copies of their drivers, the order of their outputs
and the offsets with which their bounds are written. -/
structure SameMeaning (a b : Rule) : Prop where
  drivers : a.drivers = b.drivers
  outputs : ∀ name, a.outputs.get? name = b.outputs.get? name
  start : a.window.start.SameMoment b.window.start
  finish : a.window.finish.SameMoment b.window.finish

namespace SameMeaning

theorem refl (a : Rule) : a.SameMeaning a := ⟨rfl, fun _ => rfl, .refl _, .refl _⟩

theorem symm (h : a.SameMeaning b) : b.SameMeaning a :=
  ⟨h.drivers.symm, fun name => (h.outputs name).symm, h.start.symm, h.finish.symm⟩

theorem trans (h : a.SameMeaning b) (h' : b.SameMeaning c) : a.SameMeaning c :=
  ⟨h.drivers.trans h'.drivers, fun name => (h.outputs name).trans (h'.outputs name), h.start.trans h'.start,
    h.finish.trans h'.finish⟩

end SameMeaning

theorem sameMeaning_iff : a.SameMeaning b ↔
    a.drivers = b.drivers ∧ a.outputs.entries.Perm b.outputs.entries ∧
      a.window.start.SameMoment b.window.start ∧ a.window.finish.SameMoment b.window.finish := by
  rw [Fields.perm_entries_iff]
  exact ⟨fun h => ⟨h.drivers, h.outputs, h.start, h.finish⟩, fun h => ⟨h.1, h.2.1, h.2.2.1, h.2.2.2⟩⟩

instance : Decidable (a.SameMeaning b) := decidable_of_iff _ sameMeaning_iff.symm

theorem hasTextOutputs_iff : a.HasTextOutputs ↔ a.outputs.nulls = 0 := Fields.nulls_eq_zero_iff.symm

theorem HasTextOutputs.of_sameMeaning (text : a.HasTextOutputs) (h : a.SameMeaning b) : b.HasTextOutputs := by
  rw [hasTextOutputs_iff] at text ⊢
  rw [← Fields.nulls_eq_of_get?_eq h.outputs, text]

/-! ### What duplicates depend on -/

theorem sameInputs_congr (ha : a.drivers = a'.drivers) (hb : b.drivers = b'.drivers) :
    a.sameInputs b = a'.sameInputs b' := by
  unfold sameInputs
  rw [ha, hb]

theorem sameRange_iff : a.sameRange b = true ↔
    a.window.start.SameMoment b.window.start ∧ a.window.finish.SameMoment b.window.finish := by
  rw [sameRange_eq_same, Time.Window.same_iff, Time.DateTime.same_iff_sameMoment, Time.DateTime.same_iff_sameMoment]

theorem sameRange_symm (h : a.sameRange b = true) : b.sameRange a = true := by
  rw [sameRange_iff] at h ⊢
  exact ⟨h.1.symm, h.2.symm⟩

theorem sameRange_comm (a b : Rule) : a.sameRange b = b.sameRange a :=
  Bool.eq_iff_iff.2 ⟨sameRange_symm, sameRange_symm⟩

theorem sameRange_of_sameMeaning (ha : a.SameMeaning a') (hb : b.SameMeaning b') (h : a.sameRange b = true) :
    a'.sameRange b' = true := by
  obtain ⟨start, finish⟩ := sameRange_iff.1 h
  rw [sameRange_iff]
  exact ⟨(ha.start.symm.trans start).trans hb.start, (ha.finish.symm.trans finish).trans hb.finish⟩

theorem sameRange_congr (ha : a.SameMeaning a') (hb : b.SameMeaning b') : a.sameRange b = a'.sameRange b' :=
  Bool.eq_iff_iff.2 ⟨sameRange_of_sameMeaning ha hb, sameRange_of_sameMeaning ha.symm hb.symm⟩

/-- Whether a rule duplicates another one depends on nothing but their meanings. -/
theorem isDuplicateOf_congr (ha : a.SameMeaning a') (hb : b.SameMeaning b') :
    a.isDuplicateOf b = a'.isDuplicateOf b' := by
  unfold isDuplicateOf
  rw [sameInputs_congr ha.drivers hb.drivers, sameOutputs_congr ha.outputs hb.outputs, sameRange_congr ha hb]

theorem isDuplicateOf_self (a : Rule) : a.isDuplicateOf a = true := by
  rw [isDuplicateOf_iff, sameOutputs_iff_of_nulls_eq rfl, sameRange_iff]
  exact ⟨rfl, fun _ => rfl, .refl _, .refl _⟩

theorem isDuplicateOf_of_sameMeaning (h : a.SameMeaning b) : a.isDuplicateOf b = true := by
  rw [isDuplicateOf_congr h (.refl b)]
  exact isDuplicateOf_self b

/-- A rule without nulls duplicates only rules of its meaning. -/
theorem sameMeaning_of_isDuplicateOf (text : a.HasTextOutputs) (h : a.isDuplicateOf b = true) : a.SameMeaning b := by
  obtain ⟨drivers, outputs, range⟩ := isDuplicateOf_iff.1 h
  obtain ⟨start, finish⟩ := sameRange_iff.1 range
  have noNull : a.outputs.nulls = 0 := hasTextOutputs_iff.1 text
  have noNull' : b.outputs.nulls = 0 := by
    have := nulls_le_of_sameOutputs outputs
    omega
  have texts := (sameOutputs_iff_of_nulls_eq (noNull.trans noNull'.symm)).1 outputs
  refine ⟨drivers, fun name => ?_, start, finish⟩
  rw [Fields.get?_of_nulls_eq_zero noNull, Fields.get?_of_nulls_eq_zero noNull', texts]

theorem isDuplicateOf_iff_sameMeaning (text : a.HasTextOutputs) : a.isDuplicateOf b = true ↔ a.SameMeaning b :=
  ⟨sameMeaning_of_isDuplicateOf text, isDuplicateOf_of_sameMeaning⟩

/-! ### Without nulls -/

/-- A rule without nulls duplicates exactly the rules with equal drivers in the same slots, the same outputs,
whatever their order, and bounds that are the same moments. Among rules without nulls this is an equivalence; and
it does not depend on identifiers, codes, copies of drivers, the order of outputs or the offsets of bounds. -/
theorem duplicates_of_text (text : a.HasTextOutputs) :
    (∀ b, a.isDuplicateOf b = true ↔
      a.drivers = b.drivers ∧ (∀ name, a.outputs.get? name = b.outputs.get? name) ∧
        a.window.start.SameMoment b.window.start ∧ a.window.finish.SameMoment b.window.finish) ∧
      a.isDuplicateOf a = true ∧
      (∀ b, b.HasTextOutputs → a.isDuplicateOf b = b.isDuplicateOf a) ∧
      (∀ b c, a.isDuplicateOf b = true → b.isDuplicateOf c = true → a.isDuplicateOf c = true) ∧
      ∀ b a' b', a.SameMeaning a' → b.SameMeaning b' → a.isDuplicateOf b = a'.isDuplicateOf b' := by
  refine ⟨fun b => ?_, isDuplicateOf_self a, fun b text' => ?_, fun b c ab bc => ?_,
    fun b a' b' => isDuplicateOf_congr⟩
  · rw [isDuplicateOf_iff_sameMeaning text]
    exact ⟨fun h => ⟨h.drivers, h.outputs, h.start, h.finish⟩, fun h => ⟨h.1, h.2.1, h.2.2.1, h.2.2.2⟩⟩
  · rw [Bool.eq_iff_iff, isDuplicateOf_iff_sameMeaning text, isDuplicateOf_iff_sameMeaning text']
    exact ⟨SameMeaning.symm, SameMeaning.symm⟩
  · have same := sameMeaning_of_isDuplicateOf text ab
    have same' := sameMeaning_of_isDuplicateOf (text.of_sameMeaning same) bc
    exact isDuplicateOf_of_sameMeaning (same.trans same')

/-- Two rules of one meaning whose outputs are listed in another order, and whose start is noon in universal time
and one o'clock an hour ahead of it, duplicate each other. -/
theorem duplicates_of_text_offsets :
    let start : Time.DateTime := ⟨⟨2024, 2, 29, by decide, by decide, by decide⟩,
      ⟨12, 0, 0, 0, by decide, by decide, by decide, by decide⟩, some .utc⟩
    let start' : Time.DateTime := ⟨⟨2024, 2, 29, by decide, by decide, by decide⟩,
      ⟨13, 0, 0, 0, by decide, by decide, by decide, by decide⟩, some ⟨3600000000, by decide⟩⟩
    let a : Rule := ⟨none, none, [⟨⟨"A", .regex⟩, 0⟩, ⟨.wildcard .string, 1⟩],
      .ofPairs [("rate", some "1"), ("unit", some "2")], .ofBounds (some start) none⟩
    let b : Rule := ⟨some ⟨7⟩, none, [⟨⟨"A", .regex⟩, 5⟩, ⟨.wildcard .string, 4⟩],
      .ofPairs [("unit", some "2"), ("rate", some "1")], .ofBounds (some start') none⟩
    a.HasTextOutputs ∧ b.HasTextOutputs ∧ a.isDuplicateOf b = true ∧ b.isDuplicateOf a = true := by
  intro start start' a b
  have text : a.HasTextOutputs := by decide
  have text' : b.HasTextOutputs := by decide
  obtain ⟨duplicates, -, comm, -⟩ := duplicates_of_text text
  have duplicate : a.isDuplicateOf b = true := by
    rw [duplicates]
    exact ⟨by decide, Fields.perm_entries_iff.1 (by decide), by decide, by decide⟩
  exact ⟨text, text', duplicate, comm b text' ▸ duplicate⟩

/-! ### With nulls -/

theorem isDuplicateOf_comm_of_nulls_eq (nulls : a.outputs.nulls = b.outputs.nulls) :
    a.isDuplicateOf b = b.isDuplicateOf a := by
  have inputs : a.sameInputs b = b.sameInputs a := by
    rw [Bool.eq_iff_iff, sameInputs_iff, sameInputs_iff]
    exact eq_comm
  unfold isDuplicateOf
  rw [inputs, sameOutputs_comm_of_nulls_eq nulls, sameRange_comm]

theorem nulls_le_of_isDuplicateOf (h : a.isDuplicateOf b = true) : b.outputs.nulls ≤ a.outputs.nulls :=
  nulls_le_of_sameOutputs (isDuplicateOf_iff.1 h).2.1

/-- Two rules are told to be duplicates alike in both directions exactly if they are told to be none, or have
equally many nulls. -/
theorem isDuplicateOf_comm_iff (a b : Rule) :
    a.isDuplicateOf b = b.isDuplicateOf a ↔
      (a.isDuplicateOf b = true ∨ b.isDuplicateOf a = true → a.outputs.nulls = b.outputs.nulls) := by
  constructor
  · intro comm either
    have ab : a.isDuplicateOf b = true := either.elim id comm.trans
    have ba : b.isDuplicateOf a = true := comm.symm.trans ab
    exact Nat.le_antisymm (nulls_le_of_isDuplicateOf ba) (nulls_le_of_isDuplicateOf ab)
  · intro nulls
    by_cases either : a.isDuplicateOf b = true ∨ b.isDuplicateOf a = true
    · exact isDuplicateOf_comm_of_nulls_eq (nulls either)
    · rw [not_or, Bool.not_eq_true, Bool.not_eq_true] at either
      rw [either.1, either.2]

/-- A rule with a null under one name duplicates a rule with a text under another name, which does not duplicate
it. -/
theorem isDuplicateOf_one_way :
    let a : Rule := ⟨none, none, [], .ofPairs [("x", none)], .ofBounds none none⟩
    let b : Rule := ⟨none, none, [], .ofPairs [("y", some "1")], .ofBounds none none⟩
    a.isDuplicateOf b = true ∧ b.isDuplicateOf a = false := by
  decide

end Rulebook.Rule
