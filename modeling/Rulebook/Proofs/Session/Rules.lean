import Rulebook.Proofs.Content
import Rulebook.Proofs.Session.Turns

/-!
# Rules in the course of a session

A step of a session leaves the rules as they are, adds one, or normalises one (`World.rulesTurn`). So a rule keeps its
content from the step that makes it to the end of the session, whatever becomes of the caches, of the source it was
made from and of other rules, and its slots change only in steps that normalise it (`World.rule_after`).
-/

namespace Rulebook.Session

open Rule (SameContent)

namespace World

variable {w : World} {s : Step}

/-! ### What a step does to the rules -/

/-- What a step may do to the rules of a session. -/
inductive RulesTurn (w : World) : Step → Turn → Prop where
  | kept {s : Step} {t : Turn} (same : t.world.rules = w.rules) : RulesTurn w s t
  | made {name : String} {spec : RuleSpec} {t : Turn} (r : Rule) (added : t.world.rules = w.rules.add name r) :
      RulesTurn w (.makeRule name spec) t
  | normalized {name cache : String} {t : Turn} (place : Nat) (r : Rule) (refuses : Policy) (c : Cache)
      (named : w.rules.find? name = some (place, r))
      (replaced : t.world.rules = w.rules.replace place (r.normalize refuses c).rule) :
      RulesTurn w (.normalize name cache) t

/-- Only two kinds of steps do something to the rules: one adds a rule, and one normalises the rule that a name stands
for. -/
theorem rulesTurn (w : World) (s : Step) : RulesTurn w s (w.turn s) := by
  cases effect w s with
  | idle _ rules => exact .kept rules
  | madeRule name spec step r rules => rw [step] at rules ⊢; exact .made r rules
  | madeCache _ _ _ rules => exact .kept rules
  | called _ _ _ _ _ rules => exact .kept rules
  | normalized name cache step place r _ store _ named _ turn =>
    rw [step] at turn ⊢
    exact .normalized place r store.limits.refuses store.cache named (by rw [turn]; rfl)

/-- A step keeps the rule at a place, and what it says; the rule itself changes only if the step normalises it. -/
theorem item_turn {place : Nat} {r : Rule} (item : w.rules.items[place]? = some r) :
    ∃ r', (w.turn s).world.rules.items[place]? = some r' ∧ r'.SameContent r ∧
      (r' = r ∨ ∃ name cache, s = .normalize name cache ∧ w.rules.find? name = some (place, r)) := by
  cases rulesTurn w s with
  | kept same =>
    rw [same]
    exact ⟨r, item, .refl r, Or.inl rfl⟩
  | made q added =>
    rw [added]
    exact ⟨r, Registry.item_add item _ q, .refl r, Or.inl rfl⟩
  | @normalized name cache _ other q refuses c named replaced =>
    rw [replaced]
    -- places, not names, tell whether it is this rule that is normalised: a name may be given to another rule
    by_cases hp : place = other
    · subst hp
      have hq : r = q := Option.some.inj (item.symm.trans (Registry.item_of_find? named))
      subst hq
      exact ⟨_, Registry.item_replace_self item _, Rule.sameContent_normalize refuses r c,
        Or.inr ⟨name, cache, rfl, named⟩⟩
    · refine ⟨r, ?_, .refl r, Or.inl rfl⟩
      rw [Registry.items_replace _ _ _ _ hp, item]

/-! ### What a run does to a rule -/

theorem after_cons (s : Step) (rest : List Step) : w.after (s :: rest) = (w.turn s).world.after rest := rfl

theorem after_append (first rest : List Step) : w.after (first ++ rest) = (w.after first).after rest :=
  List.foldl_append

/-- Some step of a run normalises the rule at a place. -/
def Normalizes (w : World) (place : Nat) (steps : List Step) : Prop :=
  ∃ earlier name cache later r, steps = earlier ++ .normalize name cache :: later ∧
    (w.after earlier).rules.find? name = some (place, r)

theorem item_after {place : Nat} {r : Rule} (item : w.rules.items[place]? = some r) (steps : List Step) :
    ∃ r', (w.after steps).rules.items[place]? = some r' ∧ r'.SameContent r ∧
      (r' = r ∨ w.Normalizes place steps) := by
  induction steps generalizing w r with
  | nil => exact ⟨r, item, .refl r, Or.inl rfl⟩
  | cons s rest ih =>
    obtain ⟨r₁, item₁, same₁, change₁⟩ := item_turn (s := s) item
    obtain ⟨r', item', same', change'⟩ := ih item₁
    rw [after_cons]
    refine ⟨r', item', same'.trans same₁, ?_⟩
    rcases change' with rfl | ⟨earlier, name, cache, later, q, rfl, named⟩
    · rcases change₁ with rfl | ⟨name, cache, rfl, named⟩
      · exact Or.inl rfl
      · exact Or.inr ⟨[], name, cache, rest, r, rfl, named⟩
    · exact Or.inr ⟨s :: earlier, name, cache, later, q, rfl, named⟩

/-- A rule that was made says the same at every later moment of a session: its weight, its written form, its activity
and how it compares with any other rule, in either direction, do not change. Only steps that normalise the rule itself
change which copies of its drivers are in its slots. -/
theorem rule_after (before later : List Step) (place : Nat) (r : Rule)
    (made : (initial.after before).rules.items[place]? = some r) :
    ∃ r', (initial.after (before ++ later)).rules.items[place]? = some r' ∧
      r'.SameContent r ∧
      (r'.slots ≠ r.slots → (initial.after before).Normalizes place later) ∧
      r'.weight = r.weight ∧ r'.text = r.text ∧ (∀ time, r'.isActiveAt time = r.isActiveAt time) ∧
      ∀ (other : Nat) (o : Rule), (initial.after before).rules.items[other]? = some o →
        ∃ o', (initial.after (before ++ later)).rules.items[other]? = some o' ∧
          r'.same o' = r.same o ∧ o'.same r' = o.same r ∧
          r'.duplication (some o') = r.duplication (some o) ∧ o'.duplication (some r') = o.duplication (some r) := by
  rw [after_append]
  obtain ⟨r', item, same, change⟩ := item_after made later
  refine ⟨r', item, same, ?_, same.weight_eq, same.text_eq, same.isActiveAt_eq, fun other o madeO => ?_⟩
  · intro moved
    exact change.resolve_left fun e => moved (congrArg Rule.slots e)
  · obtain ⟨o', itemO, sameO, _⟩ := item_after madeO later
    exact ⟨o', itemO, same.same_eq sameO, sameO.same_eq same, same.duplication_eq sameO, sameO.duplication_eq same⟩

/-- A rule made from a source outlasts the emptying of the source and a cache that refuses its second driver, though
its first slot then holds the instance that was put into the cache. -/
theorem rule_after_refused :
    let before : List Step := [.makeCache "limited" ⟨.values ["B"], none⟩,
      .makeSource "given" [(.plain "A", 1), (.plain "B", 1)] [("rate", some "1")],
      .makeRule "r" ⟨none, none, .source "given", none, none⟩]
    let later : List Step := [.mutateSource "given" true [] [("rate", some "2")], .put "limited" (.plain "A"),
      .normalize "r" "limited"]
    ∃ r', (initial.after (before ++ later)).rules.items[0]? = some r' ∧
      r'.slots = [⟨⟨"A", .string⟩, 2⟩, ⟨⟨"B", .string⟩, 1⟩] ∧ r'.outputs = .ofPairs [("rate", some "1")] ∧
      (initial.after before).Normalizes 0 later := by
  intro before later
  have made : (initial.after before).rules.items[0]? = some ⟨none, none, [⟨⟨"A", .string⟩, 0⟩, ⟨⟨"B", .string⟩, 1⟩],
    .ofPairs [("rate", some "1")], .ofBounds none none⟩ := by rfl
  obtain ⟨r', item, same, normalizes, -⟩ := rule_after before later 0 _ made
  have slots : r'.slots = [⟨⟨"A", .string⟩, 2⟩, ⟨⟨"B", .string⟩, 1⟩] := by
    have moved : (initial.after (before ++ later)).rules.items[0]?.map Rule.slots =
      some [⟨⟨"A", .string⟩, 2⟩, ⟨⟨"B", .string⟩, 1⟩] := by rfl
    rw [item] at moved
    exact Option.some.inj moved
  refine ⟨r', item, slots, same.outputs, normalizes ?_⟩
  rw [slots]
  decide

end World

end Rulebook.Session
