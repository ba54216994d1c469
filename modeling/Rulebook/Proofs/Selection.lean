import Mathlib.Data.List.Forall2
import Mathlib.Data.List.Induction
import Rulebook.Proofs.Content
import Rulebook.RuleSet

/-!
# The rule that counts

Which rule of a rule set counts at a time does not depend on rejecting duplicates and normalising. An entry behind one
of the same weight and activity is never chosen (`Entry.best?_concat_of_mem`), and a rejected rule has such an entry
before it, that of the accepted rule which it duplicates (`Entry.best?_accepted`). Normalising keeps weights and
activities (`Entry.index_best?_of_alike`).
-/

namespace Rulebook

/-! ### Duplicates -/

namespace Rule

variable {a b : Rule}

theorem weight_eq_of_isDuplicateOf (h : a.isDuplicateOf b = true) : a.weight = b.weight := by
  rw [weight, (isDuplicateOf_iff.1 h).1, weight]

/-- Duplicates have bounds that are the same instants, which is all that their activity is about. -/
theorem isActiveAt_eq_of_isDuplicateOf (h : a.isDuplicateOf b = true) (time : Option Time.DateTime) :
    a.isActiveAt time = b.isActiveAt time := by
  have range : a.window.same b.window = true := sameRange_eq_same a b ▸ (isDuplicateOf_iff.1 h).2.2
  cases time with
  | none => rfl
  | some t => exact Time.Window.isOpenAt_congr range (Time.DateTime.same_refl t)

end Rule

namespace Entry

variable {time : Option Time.DateTime}

/-! ### Choosing one more -/

/-- The first heaviest of two entries, of which the first may be missing. -/
def heavier (best : Option Entry) (e : Entry) : Entry :=
  match best with
  | none => e
  | some b => if b.rule.weight < e.rule.weight then e else b

theorem le_weight_heavier (b e : Entry) : b.rule.weight ≤ (heavier (some b) e).rule.weight := by
  show b.rule.weight ≤ (if b.rule.weight < e.rule.weight then e else b).rule.weight
  split <;> omega

theorem heaviest?_concat (es : List Entry) (e : Entry) : heaviest? (es ++ [e]) = some (heavier (heaviest? es) e) := by
  induction es with
  | nil => rfl
  | cons x es ih =>
    rw [List.cons_append, heaviest?, ih, heaviest?]
    cases heaviest? es with
    | none => exact (apply_ite some (x.rule.weight < e.rule.weight) e x).symm
    | some b =>
      dsimp only
      by_cases xb : x.rule.weight < b.rule.weight
      · rw [if_pos xb, if_pos (xb.trans_le (le_weight_heavier b e))]
      · rw [if_neg xb]
        by_cases be : b.rule.weight < e.rule.weight
        · have hb : heavier (some b) e = e := if_pos be
          rw [hb]
          exact (apply_ite some (x.rule.weight < e.rule.weight) e x).symm
        · have hb : heavier (some b) e = b := if_neg be
          have hx : heavier (some x) e = x := if_neg (by omega)
          rw [hb, if_neg xb, hx]

theorem weight_le_of_mem {es : List Entry} {k : Entry} (hk : k ∈ es) :
    ∃ b, heaviest? es = some b ∧ k.rule.weight ≤ b.rule.weight := by
  induction es with
  | nil => cases hk
  | cons x es ih =>
    rw [heaviest?]
    rcases List.mem_cons.1 hk with rfl | hk
    · cases heaviest? es with
      | none => exact ⟨k, rfl, le_rfl⟩
      | some b =>
        dsimp only
        split
        · rename_i h
          exact ⟨b, rfl, h.le⟩
        · exact ⟨k, rfl, le_rfl⟩
    · obtain ⟨b, hb, le⟩ := ih hk
      rw [hb]
      dsimp only
      split
      · exact ⟨b, rfl, le⟩
      · exact ⟨x, rfl, by omega⟩

theorem active_append (xs ys : List Entry) :
    active time (xs ++ ys) = (do return (← active time xs) ++ (← active time ys)) := by
  induction xs with
  | nil =>
    show active time ys = (active time ys).bind fun b => .ok b
    cases active time ys <;> rfl
  | cons x xs ih =>
    rw [List.cons_append, active, active, ih]
    cases x.rule.isActiveAt time with
    | error e => rfl
    | ok isActive =>
      cases active time xs with
      | error e => rfl
      | ok as =>
        cases active time ys with
        | error e => rfl
        | ok bs => cases isActive <;> rfl

/-- In a list of which all activities are known, the active entries are in the list of those. -/
theorem mem_active {es as : List Entry} {k : Entry} (all : active time es = .ok as) (hk : k ∈ es) :
    ∃ isActive, k.rule.isActiveAt time = .ok isActive ∧ (isActive = true → k ∈ as) := by
  induction es generalizing as with
  | nil => cases hk
  | cons x es ih =>
    rw [active] at all
    cases hx : x.rule.isActiveAt time with
    | error e => rw [hx] at all; cases all
    | ok isActive =>
      cases hes : active time es with
      | error e => rw [hx, hes] at all; cases all
      | ok others =>
        rw [hx, hes] at all
        cases all
        rcases List.mem_cons.1 hk with rfl | hk
        · refine ⟨isActive, hx, fun h => ?_⟩
          rw [h]
          exact List.mem_cons_self
        · obtain ⟨isActive', hk', mem⟩ := ih hes hk
          refine ⟨isActive', hk', fun h => ?_⟩
          split
          · exact List.mem_cons_of_mem _ (mem h)
          · exact mem h

theorem best?_concat (es : List Entry) (e : Entry) :
    best? time (es ++ [e]) = (do
      let best ← best? time es
      return if ← e.rule.isActiveAt time then some (heavier best e) else best) := by
  rw [best?, active_append, best?]
  cases active time es with
  | error e => rfl
  | ok as =>
    cases he : e.rule.isActiveAt time with
    | error e' =>
      have one : active time [e] = .error e' := by rw [active, he]; rfl
      rw [one]
      rfl
    | ok isActive =>
      have one : active time [e] = .ok (if isActive then [e] else []) := by rw [active, he]; rfl
      rw [one]
      cases isActive with
      | false => exact congrArg (fun l => Except.ok (heaviest? l)) (List.append_nil as)
      | true => exact congrArg Except.ok (heaviest?_concat as e)

/-- An entry never counts behind one of the same weight and activity, nor does it bring in an error of its own. -/
theorem best?_concat_of_mem {es : List Entry} {k e : Entry} (hk : k ∈ es) (weight : e.rule.weight = k.rule.weight)
    (activity : e.rule.isActiveAt time = k.rule.isActiveAt time) : best? time (es ++ [e]) = best? time es := by
  rw [best?_concat, activity, best?]
  cases all : active time es with
  | error e => rfl
  | ok as =>
    obtain ⟨isActive, hact, mem⟩ := mem_active all hk
    rw [hact]
    cases isActive with
    | false => rfl
    | true =>
      -- `k` is active, so whatever counts before `e` is no lighter than `k`, and `e` is as heavy as `k`
      obtain ⟨b, hb, le⟩ := weight_le_of_mem (mem rfl)
      show Except.ok (some (heavier (heaviest? as) e)) = Except.ok (heaviest? as)
      rw [hb, heavier, if_neg (by omega)]

/-! ### Rejecting duplicates -/

theorem accepted_concat (es : List Entry) (e : Entry) :
    accepted (es ++ [e]) =
      if (accepted es).any (fun k => e.rule.isDuplicateOf k.rule) then accepted es else accepted es ++ [e] := by
  rw [accepted, List.foldl_append]
  rfl

/-- Rejecting duplicates does not change which entry counts, at any time. -/
theorem best?_accepted (es : List Entry) : best? time (accepted es) = best? time es := by
  induction es using List.reverseRecOn with
  | nil => rfl
  | append_singleton es e ih =>
    rw [accepted_concat]
    split
    · -- `e` is rejected: the rule it duplicates is accepted, and stands for it among the accepted ones
      rename_i rejected
      obtain ⟨k, hk, duplicate⟩ := List.any_eq_true.1 rejected
      have absorbed : best? time (accepted es ++ [e]) = best? time (accepted es) :=
        best?_concat_of_mem hk (Rule.weight_eq_of_isDuplicateOf duplicate)
          (Rule.isActiveAt_eq_of_isDuplicateOf duplicate time)
      rw [← absorbed, best?_concat, ih, ← best?_concat]
    · rw [best?_concat, ih, ← best?_concat]

/-! ### Normalising -/

/-- Two entries have the same place and rules of the same content. -/
def Alike (a b : Entry) : Prop := a.index = b.index ∧ a.rule.SameContent b.rule

theorem alike_normalizeAll (es : List Entry) (c : Cache) : List.Forall₂ Alike (normalizeAll es c).1 es := by
  induction es generalizing c with
  | nil => exact .nil
  | cons e es ih => exact .cons ⟨rfl, Rule.sameContent_normalize _ e.rule c⟩ (ih _)

theorem alike_heaviest? {es es' : List Entry} (alike : List.Forall₂ Alike es es') :
    Option.Rel Alike (heaviest? es) (heaviest? es') := by
  induction alike with
  | nil => exact .none
  | @cons e e' es es' he _ ih =>
    rw [heaviest?, heaviest?]
    generalize heaviest? es = best at ih
    generalize heaviest? es' = best' at ih
    cases ih with
    | none => exact .some he
    | @some b b' hb =>
      dsimp only
      rw [he.2.weight_eq, hb.2.weight_eq]
      split
      · exact .some hb
      · exact .some he

/-- Of alike entries the active ones are alike, or the same error is met. -/
theorem alike_active (time : Option Time.DateTime) {es es' : List Entry} (alike : List.Forall₂ Alike es es') :
    (∃ e, active time es = .error e ∧ active time es' = .error e) ∨
      ∃ as as', active time es = .ok as ∧ active time es' = .ok as' ∧ List.Forall₂ Alike as as' := by
  induction alike with
  | nil => exact Or.inr ⟨[], [], rfl, rfl, .nil⟩
  | @cons e e' es es' he _ ih =>
    rw [active, active, he.2.isActiveAt_eq]
    cases e'.rule.isActiveAt time with
    | error err => exact Or.inl ⟨err, rfl, rfl⟩
    | ok isActive =>
      rcases ih with ⟨err, h, h'⟩ | ⟨as, as', h, h', has⟩
      · rw [h, h']
        exact Or.inl ⟨err, rfl, rfl⟩
      · rw [h, h']
        cases isActive with
        | false => exact Or.inr ⟨as, as', rfl, rfl, has⟩
        | true => exact Or.inr ⟨e :: as, e' :: as', rfl, rfl, .cons he has⟩

theorem index_best?_of_alike {es es' : List Entry} (alike : List.Forall₂ Alike es es') :
    (best? time es).map (Option.map index) = (best? time es').map (Option.map index) := by
  unfold best?
  rcases alike_active time alike with ⟨e, h, h'⟩ | ⟨as, as', h, h', has⟩
  · rw [h, h']
  · rw [h, h']
    have heaviest := alike_heaviest? has
    show Except.ok ((heaviest? as).map index) = Except.ok ((heaviest? as').map index)
    generalize heaviest? as = best at heaviest
    generalize heaviest? as' = best' at heaviest
    cases heaviest with
    | none => rfl
    | some he => exact congrArg (fun i => Except.ok (some i)) he.1

end Entry

namespace RuleSet

/-- A list of rules as it is, with nothing rejected and nothing normalised. -/
def whole (rules : List Rule) : RuleSet := ⟨Entry.ofRules rules, .empty⟩

/-- Which rule of a list counts at a time, and whether that can be told, is the same whether or not duplicates are
rejected and the accepted rules normalised through one cache. -/
theorem index_best?_ofRules (rules : List Rule) (time : Option Time.DateTime) :
    ((ofRules rules).best? time).map (Option.map Entry.index) =
      ((whole rules).best? time).map (Option.map Entry.index) := by
  have normalized := Entry.alike_normalizeAll (Entry.accepted (Entry.ofRules rules)) .empty
  calc ((ofRules rules).best? time).map (Option.map Entry.index)
    _ = (Entry.best? time (Entry.accepted (Entry.ofRules rules))).map (Option.map Entry.index) :=
      Entry.index_best?_of_alike normalized
    _ = (Entry.best? time (Entry.ofRules rules)).map (Option.map Entry.index) := by rw [Entry.best?_accepted]

end RuleSet

end Rulebook
