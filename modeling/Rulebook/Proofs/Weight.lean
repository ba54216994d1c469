import Mathlib.Algebra.GroupWithZero.Nat
import Mathlib.Data.List.Forall2
import Rulebook.Rule.Basic

/-!
# Weights rank rules by how specific they are

The weight of drivers is the number that has a binary digit for each of them, the first driver's being the most
significant: one, unless the driver is a wildcard (`weightOf_cons`). A driver that is no wildcard therefore adds
more than all drivers behind it together (`weightOf_lt`), and weights are in the order of the first place at which
one list has a wildcard and the other has none (`weightOf_lt_iff`). No digit is ever carried over
(`testBit_weightOf`), so that the digits tell which drivers are wildcards.
-/

namespace Rulebook

/-! ### One driver more -/

/-- With the weight of some drivers comes the weight that one more before them would add. -/
theorem foldr_weigh (ds : List Driver) : ds.foldr weigh (0, initialWeight) = (weightOf ds, 2 ^ ds.length) := by
  induction ds with
  | nil => rfl
  | cons d ds ih =>
    have level : (weigh d (ds.foldr weigh (0, initialWeight))).2 = 2 ^ ds.length * 2 := by rw [ih, weigh]
    rw [List.foldr_cons, List.length_cons, Nat.pow_succ, ← level]
    rfl

theorem weightOf_cons (d : Driver) (ds : List Driver) :
    weightOf (d :: ds) = (if d.isWildcard then 0 else 2 ^ ds.length) + weightOf ds := by
  rw [weightOf, List.foldr_cons, foldr_weigh, weigh]
  cases d.isWildcard with
  | true => exact (Nat.zero_add _).symm
  | false => exact Nat.add_comm _ _

/-- Drivers weigh less together than one driver before them that is no wildcard. -/
theorem weightOf_lt (ds : List Driver) : weightOf ds < 2 ^ ds.length := by
  induction ds with
  | nil => decide
  | cons d ds ih =>
    rw [weightOf_cons, List.length_cons, Nat.pow_succ]
    split <;> omega

theorem weightOf_leftpad (n : Nat) (type : DriverType) (ds : List Driver) :
    weightOf (ds.leftpad n (.wildcard type)) = weightOf ds := by
  unfold List.leftpad
  induction n - ds.length with
  | zero => rfl
  | succ k ih =>
    have isWildcard : (Driver.wildcard type).isWildcard = true := beq_self_eq_true _
    rw [List.replicate_succ, List.cons_append, weightOf_cons, ih, isWildcard, if_pos rfl, Nat.zero_add]

/-! ### The first difference -/

/-- At the first place where just one of two lists has a wildcard, it is the first list. -/
def MoreGeneral (xs ys : List Driver) : Prop :=
  ∃ (k : Nat) (x y : Driver), xs[k]? = some x ∧ ys[k]? = some y ∧ x.isWildcard = true ∧ y.isWildcard = false ∧
    ∀ j < k, xs[j]?.map Driver.isWildcard = ys[j]?.map Driver.isWildcard

variable {x y : Driver} {xs ys ds : List Driver}

theorem moreGeneral_cons : MoreGeneral (x :: xs) (y :: ys) ↔
    (x.isWildcard = true ∧ y.isWildcard = false) ∨ (x.isWildcard = y.isWildcard ∧ MoreGeneral xs ys) := by
  constructor
  · rintro ⟨k, u, v, hu, hv, wild, concrete, before⟩
    cases k with
    | zero =>
      cases hu
      cases hv
      exact Or.inl ⟨wild, concrete⟩
    | succ k =>
      refine Or.inr ⟨Option.some.inj (before 0 k.succ_pos), k, u, v, hu, hv, wild, concrete, fun j hj => ?_⟩
      exact before (j + 1) (Nat.succ_lt_succ hj)
  · rintro (⟨wild, concrete⟩ | ⟨same, k, u, v, hu, hv, wild, concrete, before⟩)
    · exact ⟨0, x, y, rfl, rfl, wild, concrete, fun j hj => absurd hj j.not_lt_zero⟩
    · refine ⟨k + 1, u, v, hu, hv, wild, concrete, fun j hj => ?_⟩
      cases j with
      | zero => exact congrArg some same
      | succ j => exact before j (Nat.lt_of_succ_lt_succ hj)

theorem not_moreGeneral_nil : ¬ MoreGeneral [] [] := by
  rintro ⟨k, u, v, hu, _⟩
  cases hu

/-- Before lists that are equally long, two drivers decide which list weighs less if just one of them is a
wildcard. -/
theorem weightOf_cons_lt_iff (length : xs.length = ys.length) :
    weightOf (x :: xs) < weightOf (y :: ys) ↔
      (x.isWildcard = true ∧ y.isWildcard = false) ∨ (x.isWildcard = y.isWildcard ∧ weightOf xs < weightOf ys) := by
  have hx := weightOf_lt xs
  have hy := weightOf_lt ys
  rw [length] at hx
  rw [weightOf_cons, weightOf_cons, length]
  cases wx : x.isWildcard <;> cases wy : y.isWildcard <;>
    simp only [if_true, if_false, Bool.false_eq_true, reduceCtorEq, true_and, false_and, and_true, and_false,
      or_false, false_or, iff_true, iff_false] <;>
    omega

theorem weightOf_cons_eq_iff (length : xs.length = ys.length) :
    weightOf (x :: xs) = weightOf (y :: ys) ↔ x.isWildcard = y.isWildcard ∧ weightOf xs = weightOf ys := by
  have hx := weightOf_lt xs
  have hy := weightOf_lt ys
  rw [length] at hx
  rw [weightOf_cons, weightOf_cons, length]
  cases wx : x.isWildcard <;> cases wy : y.isWildcard <;>
    simp only [if_true, if_false, Bool.false_eq_true, reduceCtorEq, true_and, false_and, iff_false] <;>
    omega

/-- Of two lists that are equally long, the more general one weighs less. -/
theorem weightOf_lt_iff (length : xs.length = ys.length) : weightOf xs < weightOf ys ↔ MoreGeneral xs ys := by
  induction xs generalizing ys with
  | nil =>
    cases ys with
    | nil => exact iff_of_false (Nat.lt_irrefl _) not_moreGeneral_nil
    | cons y ys => cases length
  | cons x xs ih =>
    cases ys with
    | nil => cases length
    | cons y ys =>
      have behind : xs.length = ys.length := Nat.succ.inj length
      rw [weightOf_cons_lt_iff behind, ih behind, moreGeneral_cons]

/-- Lists that are equally long weigh the same exactly if they have wildcards at the same places. -/
theorem weightOf_eq_iff (length : xs.length = ys.length) :
    weightOf xs = weightOf ys ↔ xs.map Driver.isWildcard = ys.map Driver.isWildcard := by
  induction xs generalizing ys with
  | nil =>
    cases ys with
    | nil => exact iff_of_true rfl rfl
    | cons y ys => cases length
  | cons x xs ih =>
    cases ys with
    | nil => cases length
    | cons y ys =>
      have behind : xs.length = ys.length := Nat.succ.inj length
      rw [weightOf_cons_eq_iff behind, ih behind, List.map_cons, List.map_cons, List.cons.injEq]

/-! ### More specific lists -/

/-- Where one list has a wildcard and another one has none, what is behind does not count. -/
theorem moreGeneral_append {front front' : List Driver}
    (same : front.map Driver.isWildcard = front'.map Driver.isWildcard) (wild : x.isWildcard = true)
    (concrete : y.isWildcard = false) :
    MoreGeneral (front ++ x :: xs) (front' ++ y :: ys) := by
  induction front generalizing front' with
  | nil =>
    cases front' with
    | nil => exact moreGeneral_cons.2 (Or.inl ⟨wild, concrete⟩)
    | cons v front' => cases same
  | cons u front ih =>
    cases front' with
    | nil => cases same
    | cons v front' =>
      rw [List.map_cons, List.map_cons, List.cons.injEq] at same
      exact moreGeneral_cons.2 (Or.inr ⟨same.1, ih same.2⟩)

/-- One driver is another, or is no wildcard while the other is one. -/
def Narrows (x y : Driver) : Prop := y = x ∨ x.isWildcard = true ∧ y.isWildcard = false

theorem moreGeneral_of_narrows (narrows : List.Forall₂ Narrows xs ys) (changed : xs ≠ ys) : MoreGeneral xs ys := by
  induction narrows with
  | nil => exact absurd rfl changed
  | @cons x y xs ys head _ ih =>
    rcases head with rfl | narrowed
    · have behind : xs ≠ ys := fun same => changed (congrArg (y :: ·) same)
      exact moreGeneral_cons.2 (Or.inr ⟨rfl, ih behind⟩)
    · exact moreGeneral_cons.2 (Or.inl narrowed)

/-! ### Binary digits -/

theorem weightOf_append (xs ys : List Driver) :
    weightOf (xs ++ ys) = weightOf xs * 2 ^ ys.length + weightOf ys := by
  induction xs with
  | nil =>
    have nothing : weightOf [] = 0 := rfl
    rw [List.nil_append, nothing, Nat.zero_mul, Nat.zero_add]
  | cons x xs ih =>
    rw [List.cons_append, weightOf_cons, weightOf_cons, ih, List.length_append, Nat.add_mul, Nat.add_assoc]
    cases x.isWildcard with
    | true => simp only [if_true, Nat.zero_mul]
    | false => simp only [Bool.false_eq_true, if_false, Nat.pow_add]

/-- The binary digits of a weight, from the least significant one on, are those of the drivers from the last one on. -/
theorem testBit_weightOf (ds : List Driver) (j : Nat) :
    (weightOf ds).testBit j = ds.reverse[j]?.any fun d => !d.isWildcard := by
  induction ds with
  | nil => exact Nat.zero_testBit j
  | cons d ds ih =>
    have digit : weightOf [d] = (!d.isWildcard).toNat := by
      rw [weightOf_cons]
      cases d.isWildcard <;> rfl
    have length : ds.reverse.length = ds.length := List.length_reverse
    rw [← List.singleton_append, weightOf_append, Nat.mul_comm, Nat.testBit_two_pow_mul_add _ (weightOf_lt ds), ih,
      List.reverse_append, List.reverse_singleton, digit, Nat.testBit_bool_toNat]
    -- the digits of the drivers behind `d` come first, and only one digit is left for `d`
    by_cases behind : j < ds.length
    · rw [if_pos behind, List.getElem?_append_left (by omega)]
    · rw [if_neg behind, List.getElem?_append_right (by omega), length]
      cases j - ds.length with
      | zero => rfl
      | succ k => rfl

theorem testBit_weightOf_iff (ds : List Driver) (j : Nat) :
    (weightOf ds).testBit j = true ↔
      j < ds.length ∧ ∃ d, ds[ds.length - 1 - j]? = some d ∧ d.isWildcard = false := by
  rw [testBit_weightOf, Option.any_eq_true]
  by_cases inside : j < ds.length
  · rw [List.getElem?_reverse inside]
    simp only [inside, true_and, Bool.not_eq_true']
  · have outside : ds.reverse[j]? = none := List.getElem?_eq_none (by rw [List.length_reverse]; omega)
    simp only [outside, inside, reduceCtorEq, false_and, exists_const]

theorem weightOf_eq_zero_iff : weightOf ds = 0 ↔ ∀ d ∈ ds, d.isWildcard = true := by
  induction ds with
  | nil => exact iff_of_true rfl (fun d hd => absurd hd List.not_mem_nil)
  | cons d ds ih =>
    have level : 0 < 2 ^ ds.length := Nat.two_pow_pos _
    rw [weightOf_cons, List.forall_mem_cons, ← ih]
    cases d.isWildcard <;> simp only [Bool.false_eq_true, if_true, if_false, true_and, false_and, iff_false] <;> omega

theorem weightOf_eq_greatest_iff : weightOf ds = 2 ^ ds.length - 1 ↔ ∀ d ∈ ds, d.isWildcard = false := by
  induction ds with
  | nil => exact iff_of_true rfl (fun d hd => absurd hd List.not_mem_nil)
  | cons d ds ih =>
    have level : 0 < 2 ^ ds.length := Nat.two_pow_pos _
    have behind := weightOf_lt ds
    rw [weightOf_cons, List.length_cons, Nat.pow_succ, List.forall_mem_cons, ← ih]
    cases d.isWildcard <;>
      simp only [Bool.true_eq_false, Bool.false_eq_true, if_true, if_false, true_and, false_and, iff_false] <;> omega

namespace Rule

/-- Of two rules, whose drivers are taken to be behind as many wildcards as make them equally long, the one weighs
less that has a wildcard at the first place where just one of them has; and both weigh the same exactly if they
have wildcards at the same places. So a driver that is no wildcard outweighs all drivers behind it, and to replace
wildcards of a rule by other drivers always makes it heavier. -/
theorem weight_order (a b : Rule) :
    let length := max a.drivers.length b.drivers.length
    let as := a.drivers.leftpad length (.wildcard .string)
    let bs := b.drivers.leftpad length (.wildcard .string)
    (a.weight < b.weight ↔ MoreGeneral as bs) ∧
      (a.weight = b.weight ↔ as.map Driver.isWildcard = bs.map Driver.isWildcard) ∧
      (∀ (front front' behind behind' : List Driver) (x y : Driver), a.drivers = front ++ x :: behind →
        b.drivers = front' ++ y :: behind' → front.map Driver.isWildcard = front'.map Driver.isWildcard →
        behind.length = behind'.length → x.isWildcard = true → y.isWildcard = false → a.weight < b.weight) ∧
      (List.Forall₂ Narrows a.drivers b.drivers → a.drivers ≠ b.drivers → a.weight < b.weight) := by
  intro length as bs
  have padded : as.length = bs.length := by
    rw [List.length_leftpad, List.length_leftpad]
    omega
  have weights (r : Rule) : weightOf (r.drivers.leftpad length (.wildcard .string)) = r.weight :=
    weightOf_leftpad _ _ _
  refine ⟨?_, ?_, ?_, ?_⟩
  · rw [← weights a, ← weights b]
    exact weightOf_lt_iff padded
  · rw [← weights a, ← weights b]
    exact weightOf_eq_iff padded
  · intro front front' behind behind' x y ha hb same sameLength wild concrete
    have fronts : front.length = front'.length := by
      have := congrArg List.length same
      rwa [List.length_map, List.length_map] at this
    have sameLength : (front ++ x :: behind).length = (front' ++ y :: behind').length := by
      rw [List.length_append, List.length_append, List.length_cons, List.length_cons, fronts, sameLength]
    rw [weight, weight, ha, hb, weightOf_lt_iff sameLength]
    exact moreGeneral_append same wild concrete
  · intro narrows changed
    rw [weight, weight, weightOf_lt_iff narrows.length_eq]
    exact moreGeneral_of_narrows narrows changed

/-- Two drivers weigh the same behind a wildcard, one driver in front outweighs both, and a wildcard that is replaced
makes a rule heavier. -/
theorem weight_order_three :
    let a : Rule := ⟨none, none, [⟨⟨"B", .string⟩, 0⟩, ⟨⟨"C", .regex⟩, 1⟩], .empty, .ofBounds none none⟩
    let b : Rule := ⟨none, none, [⟨.wildcard .regex, 2⟩, ⟨⟨"C", .string⟩, 3⟩, ⟨⟨"B", .regex⟩, 4⟩], .empty,
      .ofBounds none none⟩
    let c : Rule := ⟨none, none, [⟨⟨"A", .string⟩, 5⟩, ⟨.wildcard .string, 6⟩, ⟨.wildcard .regex, 7⟩], .empty,
      .ofBounds none none⟩
    let d : Rule := ⟨none, none, [⟨⟨"A", .string⟩, 5⟩, ⟨⟨"D", .dateRange⟩, 8⟩, ⟨.wildcard .regex, 7⟩], .empty,
      .ofBounds none none⟩
    a.weight = b.weight ∧ a.weight < c.weight ∧ b.weight < c.weight ∧ c.weight < d.weight := by
  intro a b c d
  obtain ⟨-, equal, -, -⟩ := weight_order a b
  obtain ⟨less, -, -, -⟩ := weight_order a c
  obtain ⟨-, -, outweighed, -⟩ := weight_order b c
  obtain ⟨-, -, -, narrowed⟩ := weight_order c d
  refine ⟨equal.2 rfl, less.2 (moreGeneral_cons.2 (Or.inl ⟨rfl, rfl⟩)), ?_, ?_⟩
  · exact outweighed [] [] _ _ _ _ rfl rfl rfl rfl rfl rfl
  · exact narrowed (.cons (.inl rfl) (.cons (.inr ⟨rfl, rfl⟩) (.cons (.inl rfl) .nil))) (by decide)

/-- The weight of a rule has a binary digit for each of its drivers, the last driver's being the least significant: one,
unless the driver is a wildcard. So with `n` drivers the weight is less than `2 ^ n`, is zero exactly if all of them are
wildcards and `2 ^ n - 1` exactly if none is; rules with equally many drivers weigh the same exactly if they have
wildcards in the same slots; and drivers behind others shift the weight of those by a digit each. -/
theorem weight_digits (r : Rule) :
    let n := r.drivers.length
    (∀ j, r.weight.testBit j = true ↔ j < n ∧ ∃ d, r.drivers[n - 1 - j]? = some d ∧ d.isWildcard = false) ∧
      r.weight < 2 ^ n ∧
      (r.weight = 0 ↔ ∀ d ∈ r.drivers, d.isWildcard = true) ∧
      (r.weight = 2 ^ n - 1 ↔ ∀ d ∈ r.drivers, d.isWildcard = false) ∧
      (∀ s : Rule, s.drivers.length = n →
        (r.weight = s.weight ↔
          ∀ i : Nat, r.drivers[i]?.map Driver.isWildcard = s.drivers[i]?.map Driver.isWildcard)) ∧
      ∀ front behind : Rule, r.drivers = front.drivers ++ behind.drivers →
        r.weight = front.weight * 2 ^ behind.drivers.length + behind.weight := by
  intro n
  refine ⟨testBit_weightOf_iff r.drivers, weightOf_lt r.drivers, weightOf_eq_zero_iff, weightOf_eq_greatest_iff,
    fun s length => ?_, fun front behind parts => ?_⟩
  · rw [weight, weight, weightOf_eq_iff length.symm, List.ext_getElem?_iff]
    simp only [List.getElem?_map]
  · rw [weight, parts, weightOf_append, weight, weight]

/-- The weight of three drivers of which the middle one is a wildcard has a one, a zero and a one. -/
theorem weight_digits_three :
    let a : Rule := ⟨none, none, [⟨⟨"A", .string⟩, 0⟩], .empty, .ofBounds none none⟩
    let b : Rule := ⟨none, none, [⟨.wildcard .string, 1⟩, ⟨⟨"B", .regex⟩, 2⟩], .empty, .ofBounds none none⟩
    let c : Rule := ⟨none, none, [⟨⟨"B", .regex⟩, 3⟩, ⟨.wildcard .regex, 4⟩, ⟨⟨"A", .string⟩, 5⟩], .empty,
      .ofBounds none none⟩
    let d : Rule := ⟨none, none, a.slots ++ b.slots, .empty, .ofBounds none none⟩
    d.weight = 5 ∧ d.weight.testBit 1 = false ∧ d.weight = a.weight * 2 ^ b.drivers.length + b.weight ∧
      d.weight = c.weight := by
  intro a b c d
  obtain ⟨digits, -, -, -, sameLength, parts⟩ := weight_digits d
  refine ⟨rfl, ?_, parts a b rfl, (sameLength c rfl).2 ?_⟩
  · rw [← Bool.not_eq_true, digits]
    decide
  · intro i
    rcases i with _ | _ | _ | i <;> rfl

example : weightOf [⟨"1", .string⟩, ⟨"2", .string⟩, .wildcard .string, .wildcard .regex] = 12 := by decide

end Rule

end Rulebook
