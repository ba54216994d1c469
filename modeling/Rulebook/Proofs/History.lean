import Mathlib.Data.List.DropRight
import Rulebook.Cache.Call
import Rulebook.Proofs.Growth

/-!
# Caches and their history

Of a cache that refuses nothing, the calls since the last clearing, with their answers, tell everything: it holds of
each driver the first instance put in since then, and it has counted the look-ups since then by what they found
(`Cache.after_eq_recalled`). So every answer that such a cache gives can be read off that history
(`Cache.answers_after`).
-/

namespace Rulebook.Cache

/-! ### Runs of calls -/

/-- A new cache after a run of calls. -/
def after (calls : List Call) : Cache := calls.foldl (fun c call => (c.perform .acceptAll call).cache) empty

/-- Calls made of a cache one after the other, each with its answer. -/
def history : Cache → List Call → List (Call × Answer)
  | _, [] => []
  | c, call :: rest =>
    let p := c.perform .acceptAll call
    (call, p.answer) :: history p.cache rest

/-- The part of a history behind the last clearing. -/
def sinceClear (h : List (Call × Answer)) : List (Call × Answer) := h.rtakeWhile fun e => e.1 ≠ .clear

/-- The instances put in, oldest first. -/
def given (h : List (Call × Answer)) : List Instance :=
  h.filterMap fun e =>
    match e.1 with
    | .put i => some i
    | _ => none

def Call.isGet : Call → Bool
  | .get _ => true
  | _ => false

def isHit : Call × Answer → Bool
  | (.get _, .found (some _)) => true
  | _ => false

def isMiss : Call × Answer → Bool
  | (.get _, .found none) => true
  | _ => false

/-- What has happened to a new cache in a run of calls since it was last cleared. -/
def past (calls : List Call) : List (Call × Answer) := sinceClear (history empty calls)

variable {calls : List Call} {call : Call}

theorem after_concat : after (calls ++ [call]) = ((after calls).perform .acceptAll call).cache := by
  rw [after, List.foldl_append]
  rfl

theorem history_append (c : Cache) (calls more : List Call) :
    history c (calls ++ more) =
      history c calls ++ history (calls.foldl (fun c call => (c.perform .acceptAll call).cache) c) more := by
  induction calls generalizing c with
  | nil => rfl
  | cons call rest ih =>
    simp only [List.cons_append, history, List.foldl_cons, ih]

theorem past_concat : past (calls ++ [call]) =
    if call = .clear then [] else past calls ++ [(call, ((after calls).perform .acceptAll call).answer)] := by
  rw [past, history_append, sinceClear]
  show (_ ++ [(call, ((after calls).perform .acceptAll call).answer)]).rtakeWhile _ = _
  rw [List.rtakeWhile_concat]
  by_cases h : call = .clear
  · simp [h]
  · simp [h, past, sinceClear]

/-! ### What the history tells -/

/-- What the instances put in and the look-ups made in a history without clearing make of an empty cache. -/
def recalled (h : List (Call × Answer)) : Cache := (empty.addAll (given h)).count (h.countP isHit) (h.countP isMiss)

theorem recalled_concat (h : List (Call × Answer)) (e : Call × Answer) :
    recalled (h ++ [e]) = ((recalled h).addAll (given [e])).count ([e].countP isHit) ([e].countP isMiss) := by
  have puts : given (h ++ [e]) = given h ++ given [e] := List.filterMap_append
  simp only [recalled, puts, addAll_append, List.countP_append, addAll_count, count_count]

/-- The history since the last clearing tells all about a cache that began as a new one. -/
theorem after_eq_recalled (calls : List Call) : after calls = recalled (past calls) := by
  induction calls using List.reverseRecOn with
  | nil => rfl
  | append_singleton calls call ih =>
    rw [after_concat, past_concat, ih]
    cases call with
    | clear => rfl
    | get d =>
      rw [if_neg (by simp), recalled_concat]
      -- a look-up adds nothing, and counts by what it finds
      show ((recalled (past calls)).get d).2 = _
      cases found : (recalled (past calls)).find? d with
      | some i => simp only [perform, get_of_some found]; rfl
      | none => simp only [perform, get_of_none found]; rfl
    | put i =>
      rw [if_neg (by simp), recalled_concat]
      exact put_acceptAll i
    | contains d => rw [if_neg (by simp), recalled_concat]; rfl
    | size => rw [if_neg (by simp), recalled_concat]; rfl
    | counts => rw [if_neg (by simp), recalled_concat]; rfl

theorem find?_recalled (h : List (Call × Answer)) (d : Driver) :
    (recalled h).find? d = (given h).find? (·.driver == d) := by
  rw [recalled, find?_count, find?_addAll, find?_empty, Option.none_or]

theorem size_recalled (h : List (Call × Answer)) :
    (recalled h).size = ((given h).map Instance.driver).toFinset.card := by
  show (empty.addAll (given h)).size = _
  rw [size_addAll, length_missing]
  show 0 + _ = _
  simp

theorem countP_answered (c : Cache) (call : Call) :
    let e := (call, (c.perform .acceptAll call).answer)
    [e].countP isHit + [e].countP isMiss = [e].countP (·.1.isGet) := by
  cases call with
  | get d =>
    dsimp only [perform]
    cases (c.get d).1 <;> rfl
  | _ => rfl

/-- Of the look-ups in a history each found an instance or found none. -/
theorem countP_isHit_add_isMiss (calls : List Call) :
    (past calls).countP isHit + (past calls).countP isMiss = (past calls).countP (·.1.isGet) := by
  induction calls using List.reverseRecOn with
  | nil => rfl
  | append_singleton calls call ih =>
    rw [past_concat]
    split
    · rfl
    · have last := countP_answered (after calls) call
      simp only [List.countP_append] at last ⊢
      omega

/-! ### Answers -/

/-- Only looking up and clearing change what a cache has counted. -/
theorem lookups_perform (refuses : Policy) (c : Cache) (call : Call) :
    let c' := (c.perform refuses call).cache
    (c'.hits, c'.misses) =
      match call with
      | .get d => if (c.find? d).isSome then (c.hits + 1, c.misses) else (c.hits, c.misses + 1)
      | .clear => (0, 0)
      | _ => (c.hits, c.misses) := by
  cases call with
  | get d =>
    cases found : c.find? d with
    | some i => simp only [perform, get_of_some found, found]; rfl
    | none => simp only [perform, get_of_none found, found]; rfl
  | put i =>
    dsimp only [perform, put]
    split
    · rfl
    · rw [hits_add, misses_add]
  | _ => rfl

/-- At every moment in the life of a new cache that refuses nothing: a look-up finds the first instance of its driver
that was put in since the last clearing, and a driver is held exactly if one was put in; there are as many drivers as
were put in; and the look-ups since then are counted by what they found, which no call but a look-up or a clearing
changes. -/
theorem answers_after (calls : List Call) :
    let c := after calls
    let ask := fun call => (c.perform .acceptAll call).answer
    let h := past calls
    let first := fun d => (given h).find? (·.driver == d)
    let kinds := ((given h).map Instance.driver).toFinset.card
    let hits := h.countP isHit
    let misses := h.countP isMiss
    (∀ d, ask (.get d) = .found (first d)) ∧
      (∀ d, ask (.contains d) = .held (first d).isSome) ∧
      ask .size = .size kinds ∧
      ask .counts = .counts ⟨kinds, hits, misses⟩ ∧
      hits + misses = h.countP (·.1.isGet) ∧
      ∀ call, let c' := (c.perform .acceptAll call).cache
        (c'.hits, c'.misses) =
          match call with
          | .get d => if (first d).isSome then (hits + 1, misses) else (hits, misses + 1)
          | .clear => (0, 0)
          | _ => (hits, misses) := by
  intro c ask h first kinds hits misses
  have eq : c = recalled h := after_eq_recalled calls
  have found : ∀ d, c.find? d = first d := by
    intro d
    rw [eq, find?_recalled]
  have sized : c.size = kinds := by rw [eq, size_recalled]
  have hit : c.hits = hits := by
    rw [eq, recalled, hits_count, hits_addAll]
    exact Nat.zero_add _
  have missed : c.misses = misses := by
    rw [eq, recalled, misses_count, misses_addAll]
    exact Nat.zero_add _
  refine ⟨fun d => ?_, fun d => ?_, congrArg _ sized, ?_, countP_isHit_add_isMiss calls, fun call => ?_⟩
  · show Answer.found (c.get d).1 = _
    rw [fst_get, found]
  · show Answer.held (c.contains d) = _
    rw [contains, found]
  · show Answer.counts ⟨c.size, c.hits, c.misses⟩ = _
    rw [sized, hit, missed]
  · have changed := lookups_perform .acceptAll c call
    simp only [found, hit, missed] at changed
    exact changed

/-- Clearing forgets the first instance as well. -/
example :
    let d : Driver := ⟨"A", .string⟩
    let c := after [.put ⟨d, 0⟩, .get d, .clear, .get d, .put ⟨d, 1⟩, .put ⟨d, 2⟩, .get d]
    (c.perform .acceptAll (.get d)).answer = .found (some ⟨d, 1⟩) ∧ c.counts = ⟨1, 1, 1⟩ := by decide

end Rulebook.Cache
