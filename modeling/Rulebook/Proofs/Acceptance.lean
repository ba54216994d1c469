import Mathlib.Algebra.GroupWithZero.Nat
import Mathlib.Data.Finset.Card
import Rulebook.Proofs.Duplicates
import Rulebook.Proofs.Selection

/-!
# Rule sets do not depend on the order of submission

Rules without nulls are accepted by their meanings: of each meaning the first rule is kept
(`Entry.accepted_eq_distinctBy`). All that is asked of a rule set is told by the meanings of its rules, each of
which occurs once; so in whatever order rules are submitted, the rule sets agree in it (`RuleSet.ofRules_perm`). To
normalise the accepted rules in turn is to look up all their slots in one cache (`Entry.cache_normalizeAll`).
-/

namespace Rulebook

/-! ### Meanings -/

/-- What a rule means: its drivers, its outputs as a map, and its bounds as moments. -/
def Meaning : Type := Quotient (⟨Rule.SameMeaning, .refl, .symm, .trans⟩ : Setoid Rule)

namespace Meaning

def ofRule (r : Rule) : Meaning := Quotient.mk _ r

variable {a b r : Rule}

theorem ofRule_eq_iff : ofRule a = ofRule b ↔ a.SameMeaning b :=
  ⟨fun h => Quotient.exact h, fun h => Quotient.sound h⟩

instance : DecidableEq Meaning :=
  @Quotient.decidableEq Rule _ fun a b => inferInstanceAs (Decidable (a.SameMeaning b))

def drivers : Meaning → List Driver := Quotient.lift Rule.drivers fun _ _ same => same.drivers

def isActiveAt (now : Option Time.DateTime) : Meaning → Except Time.OrderError Bool :=
  Quotient.lift (fun r => r.isActiveAt now) fun _ _ same =>
    Rule.isActiveAt_eq_of_isDuplicateOf (Rule.isDuplicateOf_of_sameMeaning same) now

theorem ofRule_eq_of_sameContent (same : a.SameContent b) : ofRule a = ofRule b := by
  rw [ofRule_eq_iff]
  refine ⟨same.drivers, fun name => ?_, ?_, ?_⟩
  · rw [same.outputs]
  · rw [same.window]
    exact .refl _
  · rw [same.window]
    exact .refl _

theorem isDuplicateOf_iff (text : a.HasTextOutputs) : a.isDuplicateOf b = true ↔ ofRule a = ofRule b := by
  rw [Rule.isDuplicateOf_iff_sameMeaning text, ofRule_eq_iff]

end Meaning

namespace Entry

def meaning (e : Entry) : Meaning := Meaning.ofRule e.rule

variable {now : Option Time.DateTime}

/-! ### Accepting rules -/

/-- Of rules without nulls, those are accepted whose meaning no earlier one has. -/
theorem accepted_eq_distinctBy {es : List Entry} (text : ∀ e ∈ es, e.rule.HasTextOutputs) :
    accepted es = distinctBy meaning es := by
  induction es using List.reverseRecOn with
  | nil => rfl
  | append_singleton es e ih =>
    have ih := ih fun k hk => text k (List.mem_append_left _ hk)
    have he : e.rule.HasTextOutputs := text e (List.mem_append_right _ List.mem_cons_self)
    have rejected : (accepted es).any (fun k => e.rule.isDuplicateOf k.rule) = true ↔ e.meaning ∈ es.map meaning := by
      rw [← mem_map_distinctBy, ← ih, List.any_eq_true, List.mem_map]
      refine exists_congr fun k => and_congr_right fun _ => ?_
      rw [Meaning.isDuplicateOf_iff he]
      exact eq_comm
    rw [accepted_concat, distinctBy_concat, ih]
    rw [ih] at rejected
    by_cases known : e.meaning ∈ es.map meaning
    · rw [if_pos known, if_pos (rejected.2 known)]
    · rw [if_neg known, if_neg (mt rejected.1 known)]

theorem map_rule_ofRules (rules : List Rule) : (ofRules rules).map rule = rules := by
  rw [ofRules, List.map_map]
  exact List.zipIdx_map_fst 0 rules

theorem map_meaning_ofRules (rules : List Rule) : (ofRules rules).map meaning = rules.map Meaning.ofRule := by
  rw [← map_rule_ofRules rules, List.map_map, map_rule_ofRules]
  rfl

theorem flatMap_drivers (es : List Entry) :
    (es.flatMap fun e => e.rule.drivers) = (es.map meaning).flatMap Meaning.drivers := by
  rw [List.flatMap_map]
  rfl

theorem sum_length_slots (es : List Entry) :
    (es.map fun e => e.rule.slots.length).sum = (es.flatMap fun e => e.rule.drivers).length := by
  rw [List.length_flatMap]
  simp only [Rule.drivers, List.length_map]

/-! ### Normalising them in turn -/

theorem map_meaning_normalizeAll (es : List Entry) (c : Cache) :
    (normalizeAll es c).1.map meaning = es.map meaning := by
  have alike := alike_normalizeAll es c
  generalize (normalizeAll es c).1 = done at alike
  induction alike with
  | nil => rfl
  | cons he _ ih =>
    rw [List.map_cons, List.map_cons, ih]
    exact congrArg (· :: _) (Meaning.ofRule_eq_of_sameContent he.2)

/-- To normalise rules in turn is to look up the slots of all of them: each slot is found once, and what was
missing is looked up once in vain. -/
theorem cache_normalizeAll (es : List Entry) (c : Cache) :
    let slots := es.flatMap fun e => e.rule.slots
    (normalizeAll es c).2 = (c.addAll slots).count slots.length (c.missing slots).length := by
  induction es generalizing c with
  | nil => rfl
  | cons e es ih =>
    show (normalizeAll es (e.rule.normalize .acceptAll c).cache).2 = _
    rw [ih, Rule.normalize_acceptAll]
    simp only [Pass.complete, List.flatMap_cons, Cache.addAll_count, Cache.count_count, Cache.missing_count,
      Cache.addAll_append, List.length_append, Cache.length_missing_append]

/-! ### The greatest weight -/

theorem mem_of_heaviest? {es : List Entry} {best : Entry} (h : heaviest? es = some best) : best ∈ es := by
  induction es generalizing best with
  | nil => cases h
  | cons e es ih =>
    rw [heaviest?] at h
    cases rest : heaviest? es with
    | none =>
      rw [rest] at h
      cases h
      exact List.mem_cons_self
    | some b =>
      rw [rest] at h
      dsimp only at h
      split at h
      · cases h
        exact List.mem_cons_of_mem _ (ih rest)
      · cases h
        exact List.mem_cons_self

theorem weight_heaviest? (es : List Entry) :
    (heaviest? es).map (fun e => e.rule.weight) = (es.map fun e => e.rule.weight).max? := by
  cases es with
  | nil => rfl
  | cons e es =>
    obtain ⟨best, heaviest, _⟩ := weight_le_of_mem (List.mem_cons_self (a := e) (l := es))
    rw [heaviest, Option.map_some, eq_comm, List.max?_eq_some_iff]
    refine ⟨List.mem_map.2 ⟨best, mem_of_heaviest? heaviest, rfl⟩, fun weight hw => ?_⟩
    obtain ⟨k, hk, rfl⟩ := List.mem_map.1 hw
    obtain ⟨best', heaviest', le⟩ := weight_le_of_mem hk
    cases Option.some.inj (heaviest.symm.trans heaviest')
    exact le

/-- Where it can be told of each rule whether it is active, it can be told which ones are. -/
theorem active_eq_filter {es : List Entry} (told : ∀ e ∈ es, ∃ isActive, e.rule.isActiveAt now = .ok isActive) :
    active now es = .ok (es.filter fun e => e.rule.isActiveAt now = .ok true) := by
  induction es with
  | nil => rfl
  | cons e es ih =>
    obtain ⟨isActive, he⟩ := told e List.mem_cons_self
    rw [active, ih fun k hk => told k (List.mem_cons_of_mem _ hk), he]
    cases isActive with
    | false =>
      rw [List.filter_cons_of_neg (by rw [he]; decide)]
      rfl
    | true =>
      rw [List.filter_cons_of_pos (by rw [he]; decide)]
      rfl

/-- The greatest weight of the rules that are active at a time. -/
def greatestWeight? (now : Option Time.DateTime) (es : List Entry) : Option Nat :=
  ((es.filter fun e => e.rule.isActiveAt now = .ok true).map fun e => e.rule.weight).max?

theorem weight_best? {es : List Entry} (told : ∀ e ∈ es, ∃ isActive, e.rule.isActiveAt now = .ok isActive) :
    (best? now es).map (Option.map fun e => e.rule.weight) = .ok (greatestWeight? now es) := by
  rw [best?, active_eq_filter told]
  exact congrArg Except.ok (weight_heaviest? _)

/-! ### The same meanings in another order -/

section Perm

variable {es es' : List Entry}

private theorem max?_of_perm {xs ys : List Nat} (perm : xs.Perm ys) : xs.max? = ys.max? := by
  apply Option.ext
  intro x
  rw [List.max?_eq_some_iff, List.max?_eq_some_iff, perm.mem_iff]
  simp only [perm.mem_iff]

theorem perm_weights (perm : (es.map meaning).Perm (es'.map meaning)) :
    (es.map fun e => e.rule.weight).Perm (es'.map fun e => e.rule.weight) := by
  have weights := perm.map fun m => weightOf m.drivers
  rw [List.map_map, List.map_map] at weights
  exact weights

theorem greatestWeight?_of_perm (perm : (es.map meaning).Perm (es'.map meaning)) :
    greatestWeight? now es = greatestWeight? now es' := by
  have weights := (perm.filter fun m => m.isActiveAt now = .ok true).map fun m => weightOf m.drivers
  rw [List.filter_map, List.filter_map, List.map_map, List.map_map] at weights
  exact max?_of_perm weights

theorem perm_drivers (perm : (es.map meaning).Perm (es'.map meaning)) :
    (es.flatMap fun e => e.rule.drivers).Perm (es'.flatMap fun e => e.rule.drivers) := by
  rw [flatMap_drivers, flatMap_drivers]
  exact perm.flatMap_right Meaning.drivers

theorem told_of_perm (perm : (es.map meaning).Perm (es'.map meaning))
    (told : ∀ e ∈ es, ∃ isActive, e.rule.isActiveAt now = .ok isActive) :
    ∀ e ∈ es', ∃ isActive, e.rule.isActiveAt now = .ok isActive := by
  intro e he
  obtain ⟨k, hk, same⟩ := List.mem_map.1 (perm.mem_iff.2 (List.mem_map_of_mem he))
  obtain ⟨isActive, activity⟩ := told k hk
  refine ⟨isActive, ?_⟩
  show e.meaning.isActiveAt now = _
  rw [← same]
  exact activity

end Perm

end Entry

namespace RuleSet

variable {rules rules' : List Rule}

theorem map_meaning_ofRules (text : ∀ r ∈ rules, r.HasTextOutputs) :
    (ofRules rules).entries.map Entry.meaning =
      (distinctBy Entry.meaning (Entry.ofRules rules)).map Entry.meaning := by
  have text' : ∀ e ∈ Entry.ofRules rules, e.rule.HasTextOutputs := by
    intro e he
    apply text
    rw [← Entry.map_rule_ofRules rules]
    exact List.mem_map_of_mem he
  rw [← Entry.accepted_eq_distinctBy text']
  exact Entry.map_meaning_normalizeAll _ _

theorem mem_map_meaning_ofRules (text : ∀ r ∈ rules, r.HasTextOutputs) {m : Meaning} :
    m ∈ (ofRules rules).entries.map Entry.meaning ↔ m ∈ rules.map Meaning.ofRule := by
  rw [map_meaning_ofRules text, mem_map_distinctBy, Entry.map_meaning_ofRules]

theorem nodup_map_meaning_ofRules (text : ∀ r ∈ rules, r.HasTextOutputs) :
    ((ofRules rules).entries.map Entry.meaning).Nodup := by
  rw [map_meaning_ofRules text]
  exact nodup_map_distinctBy _ _

/-- In whatever order rules are submitted, rules of the same meanings are accepted. -/
theorem perm_map_meaning_ofRules (perm : rules.Perm rules') (text : ∀ r ∈ rules, r.HasTextOutputs) :
    ((ofRules rules).entries.map Entry.meaning).Perm ((ofRules rules').entries.map Entry.meaning) := by
  have text' : ∀ r ∈ rules', r.HasTextOutputs := fun r hr => text r (perm.mem_iff.2 hr)
  rw [map_meaning_ofRules text, map_meaning_ofRules text']
  refine perm_map_distinctBy fun m => ?_
  rw [Entry.map_meaning_ofRules, Entry.map_meaning_ofRules]
  exact (perm.map Meaning.ofRule).mem_iff

theorem hasTextOutputs_of_mem (text : ∀ r ∈ rules, r.HasTextOutputs) {e : Entry} (he : e ∈ (ofRules rules).entries) :
    e.rule.HasTextOutputs := by
  obtain ⟨r, hr, same⟩ := List.mem_map.1 ((mem_map_meaning_ofRules text).1 (List.mem_map_of_mem he))
  exact (text r hr).of_sameMeaning (Meaning.ofRule_eq_iff.1 same)

/-- The cache of a rule set holds each driver of its rules once, and looked it up once in vain; it found every slot
once. -/
theorem counts_ofRules (rules : List Rule) :
    let s := ofRules rules
    let drivers := s.entries.flatMap fun e => e.rule.drivers
    s.cache.counts =
      ⟨drivers.toFinset.card, (s.entries.map fun e => e.rule.slots.length).sum, drivers.toFinset.card⟩ := by
  intro s drivers
  let es := Entry.accepted (Entry.ofRules rules)
  let slots := es.flatMap fun e => e.rule.slots
  have same : drivers = slots.map Instance.driver := by
    have unchanged : s.entries.map Entry.meaning = es.map Entry.meaning := Entry.map_meaning_normalizeAll es .empty
    show s.entries.flatMap _ = _
    rw [Entry.flatMap_drivers, unchanged, ← Entry.flatMap_drivers, List.map_flatMap]
    rfl
  have missing : (Cache.empty.missing slots).length = drivers.toFinset.card := by
    rw [Cache.length_missing, same]
    congr 1
    exact Finset.filter_true_of_mem fun d _ => Cache.find?_empty d
  have cache : s.cache = (Cache.empty.addAll slots).count slots.length (Cache.empty.missing slots).length :=
    Entry.cache_normalizeAll es .empty
  have size : s.cache.size = drivers.toFinset.card := by
    rw [cache, ← missing]
    exact (Cache.size_addAll slots).trans (Nat.zero_add _)
  have hits : s.cache.hits = (s.entries.map fun e => e.rule.slots.length).sum := by
    rw [cache, Cache.hits_count, Cache.hits_addAll, Entry.sum_length_slots, ← List.length_map Instance.driver, ← same]
    exact Nat.zero_add _
  have misses : s.cache.misses = drivers.toFinset.card := by
    rw [cache, Cache.misses_count, Cache.misses_addAll, missing]
    exact Nat.zero_add _
  rw [Cache.counts, size, hits, misses]

/-- No two accepted rules have the same meaning, and so neither duplicates the other. -/
theorem pairwise_ofRules (text : ∀ r ∈ rules, r.HasTextOutputs) :
    (ofRules rules).entries.Pairwise fun e k =>
      e.rule.isDuplicateOf k.rule = false ∧ k.rule.isDuplicateOf e.rule = false := by
  refine (List.pairwise_map.1 (nodup_map_meaning_ofRules text)).imp_of_mem fun {e k} he hk differ => ?_
  constructor
  · rw [← Bool.not_eq_true, Meaning.isDuplicateOf_iff (hasTextOutputs_of_mem text he)]
    exact differ
  · rw [← Bool.not_eq_true, Meaning.isDuplicateOf_iff (hasTextOutputs_of_mem text hk)]
    exact fun same => differ same.symm

/-- Every rule that was submitted duplicates one accepted rule and no other. -/
theorem existsUnique_ofRules (text : ∀ r ∈ rules, r.HasTextOutputs) {r : Rule} (hr : r ∈ rules) :
    ∃! e, e ∈ (ofRules rules).entries ∧ r.isDuplicateOf e.rule = true := by
  obtain ⟨e, he, same⟩ := List.mem_map.1 ((mem_map_meaning_ofRules text).2 (List.mem_map_of_mem hr))
  refine ⟨e, ⟨he, (Meaning.isDuplicateOf_iff (text r hr)).2 same.symm⟩, ?_⟩
  rintro k ⟨hk, duplicate⟩
  have same' : Meaning.ofRule r = k.meaning := (Meaning.isDuplicateOf_iff (text r hr)).1 duplicate
  exact List.inj_on_of_nodup_map (nodup_map_meaning_ofRules text) hk he (same'.symm.trans same.symm)

/-- Rules without nulls that are submitted in another order make a rule set of the same meanings, with the same
weights, the same counts of the cache and, whenever it can be told which rules are active, the same greatest weight
among them. The counts are those of the accepted rules: their different drivers, held and looked up once in vain,
and all their slots. No two accepted rules duplicate each other, and every rule that was submitted duplicates
exactly one of them. -/
theorem ofRules_perm (perm : rules.Perm rules') (text : ∀ r ∈ rules, r.HasTextOutputs) :
    let s := ofRules rules
    let s' := ofRules rules'
    let drivers := s.entries.flatMap fun e => e.rule.drivers
    (s.entries.map Entry.meaning).Perm (s'.entries.map Entry.meaning) ∧
      (s.entries.map fun e => e.rule.weight).Perm (s'.entries.map fun e => e.rule.weight) ∧
      s.cache.counts = s'.cache.counts ∧
      (∀ now, (∀ e ∈ s.entries, ∃ isActive, e.rule.isActiveAt now = .ok isActive) →
        (s.best? now).map (Option.map fun e => e.rule.weight) = .ok (Entry.greatestWeight? now s.entries) ∧
          (s'.best? now).map (Option.map fun e => e.rule.weight) = .ok (Entry.greatestWeight? now s.entries)) ∧
      s.cache.counts =
        ⟨drivers.toFinset.card, (s.entries.map fun e => e.rule.slots.length).sum, drivers.toFinset.card⟩ ∧
      (s.entries.Pairwise fun e k => e.rule.isDuplicateOf k.rule = false ∧ k.rule.isDuplicateOf e.rule = false) ∧
      ∀ r ∈ rules, ∃! e, e ∈ s.entries ∧ r.isDuplicateOf e.rule = true := by
  intro s s' drivers
  have meanings : (s.entries.map Entry.meaning).Perm (s'.entries.map Entry.meaning) :=
    perm_map_meaning_ofRules perm text
  have counts : s.cache.counts = s'.cache.counts := by
    have sameDrivers := Entry.perm_drivers meanings
    rw [counts_ofRules, counts_ofRules, Entry.sum_length_slots, Entry.sum_length_slots, sameDrivers.length_eq,
      List.toFinset_eq_of_perm _ _ sameDrivers]
  refine ⟨meanings, Entry.perm_weights meanings, counts, fun now told => ⟨Entry.weight_best? told, ?_⟩,
    counts_ofRules rules, pairwise_ofRules text, fun r hr => existsUnique_ofRules text hr⟩
  rw [Entry.greatestWeight?_of_perm meanings]
  exact Entry.weight_best? (Entry.told_of_perm meanings told)

/-- Of two rules with the same meaning the one that comes first is accepted; the rule that comes with them, and the
counts of the cache, are the same. -/
theorem ofRules_perm_three :
    let start : Time.DateTime := ⟨⟨2024, 2, 29, by decide, by decide, by decide⟩,
      ⟨12, 0, 0, 0, by decide, by decide, by decide, by decide⟩, some .utc⟩
    let start' : Time.DateTime := ⟨⟨2024, 2, 29, by decide, by decide, by decide⟩,
      ⟨13, 0, 0, 0, by decide, by decide, by decide, by decide⟩, some ⟨3600000000, by decide⟩⟩
    let a : Rule := ⟨none, none, [⟨⟨"A", .regex⟩, 0⟩, ⟨.wildcard .string, 1⟩],
      .ofPairs [("rate", some "1"), ("unit", some "2")], .ofBounds (some start) none⟩
    let b : Rule := ⟨none, none, [⟨⟨"A", .regex⟩, 2⟩, ⟨.wildcard .string, 3⟩],
      .ofPairs [("unit", some "2"), ("rate", some "1")], .ofBounds (some start') none⟩
    let c : Rule := ⟨none, none, [⟨⟨"A", .regex⟩, 4⟩, ⟨⟨"B", .string⟩, 5⟩], .empty, .ofBounds none none⟩
    let s := ofRules [a, c, b]
    let s' := ofRules [b, a, c]
    s.entries.map Entry.index = [0, 1] ∧ s'.entries.map Entry.index = [0, 2] ∧ s'.cache.counts = ⟨3, 4, 3⟩ ∧
      (s'.best? (some Time.latest)).map (Option.map fun e => e.rule.weight) = .ok none ∧
      (s'.best? (some start')).map (Option.map fun e => e.rule.weight) = .ok (some 3) := by
  intro start start' a b c s s'
  have perm : [a, c, b].Perm [b, a, c] := by decide
  have text : ∀ r ∈ [a, c, b], r.HasTextOutputs := by decide
  obtain ⟨-, -, counts, weights, -⟩ := ofRules_perm perm text
  refine ⟨by decide +kernel, by decide +kernel, ?_, ?_, ?_⟩
  · rw [← counts]
    decide +kernel
  · have told : ∀ e ∈ s.entries, e.rule.isActiveAt (some Time.latest) = .ok false := by decide +kernel
    rw [(weights _ fun e he => ⟨_, told e he⟩).2]
    decide +kernel
  · have told : ∀ e ∈ s.entries, e.rule.isActiveAt (some start') = .ok (e.index == 1) := by decide +kernel
    rw [(weights _ fun e he => ⟨_, told e he⟩).2]
    decide +kernel

end RuleSet

end Rulebook
