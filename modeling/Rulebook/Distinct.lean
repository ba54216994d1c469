/-!
# The first of each kind

`distinctBy key` keeps of every group of members with one key the first, in their old order: the members that a set
keeps when they are added to it one by one.
-/

namespace Rulebook

variable {α κ : Type} [DecidableEq κ]

/-- The members whose key no earlier member has. -/
def distinctBy (key : α → κ) : List α → List α
  | [] => []
  | x :: xs => x :: (distinctBy key xs).filter (fun y => key y ≠ key x)

/-- The places of the members that `distinctBy` keeps. -/
def distinctIndices (key : α → κ) (xs : List α) : List Nat :=
  (distinctBy (fun p => key p.1) xs.zipIdx).map Prod.snd

theorem sublist_distinctBy (key : α → κ) (xs : List α) : (distinctBy key xs).Sublist xs := by
  induction xs with
  | nil => exact List.Sublist.refl _
  | cons x xs ih => exact (List.filter_sublist.trans ih).cons_cons x

theorem pairwise_distinctBy (key : α → κ) (xs : List α) :
    (distinctBy key xs).Pairwise (fun x y => key x ≠ key y) := by
  induction xs with
  | nil => exact List.Pairwise.nil
  | cons x xs ih =>
    refine List.Pairwise.cons (fun y hy => ?_) (ih.sublist List.filter_sublist)
    have h := (List.mem_filter.1 hy).2
    exact fun e => of_decide_eq_true h e.symm

theorem mem_map_distinctBy {key : α → κ} {k : κ} {xs : List α} : k ∈ (distinctBy key xs).map key ↔ k ∈ xs.map key := by
  induction xs with
  | nil => simp [distinctBy]
  | cons x xs ih =>
    simp only [List.mem_map] at ih
    simp only [distinctBy, List.map_cons, List.mem_cons, List.mem_map, List.mem_filter, decide_eq_true_eq]
    constructor
    · rintro (h | ⟨y, ⟨hy, _⟩, hk⟩)
      · exact Or.inl h
      · exact Or.inr (ih.1 ⟨y, hy, hk⟩)
    · rintro (h | h)
      · exact Or.inl h
      · by_cases hx : k = key x
        · exact Or.inl hx
        · obtain ⟨y, hy, hk⟩ := ih.2 h
          exact Or.inr ⟨y, ⟨hy, fun e => hx (hk ▸ e)⟩, hk⟩

theorem nodup_map_distinctBy (key : α → κ) (xs : List α) : ((distinctBy key xs).map key).Nodup :=
  List.pairwise_map.2 (pairwise_distinctBy key xs)

/-- Lists with the same keys, in any order, keep members with the same keys. -/
theorem perm_map_distinctBy {key : α → κ} {xs ys : List α} (same : ∀ k, k ∈ xs.map key ↔ k ∈ ys.map key) :
    ((distinctBy key xs).map key).Perm ((distinctBy key ys).map key) := by
  rw [List.perm_ext_iff_of_nodup (nodup_map_distinctBy key xs) (nodup_map_distinctBy key ys)]
  intro k
  rw [mem_map_distinctBy, mem_map_distinctBy, same]

/-- One more member at the end is kept unless its key was there. -/
theorem distinctBy_concat (key : α → κ) (xs : List α) (x : α) :
    distinctBy key (xs ++ [x]) = if key x ∈ xs.map key then distinctBy key xs else distinctBy key xs ++ [x] := by
  induction xs with
  | nil => rfl
  | cons y ys ih =>
    rw [List.cons_append, distinctBy, ih, List.map_cons, distinctBy]
    by_cases later : key x ∈ ys.map key
    · rw [if_pos later, if_pos (List.mem_cons_of_mem _ later)]
    · rw [if_neg later, List.filter_append]
      by_cases first : key x = key y
      · have here : key x ∈ key y :: ys.map key := List.mem_cons.2 (Or.inl first)
        rw [if_pos here, List.filter_cons_of_neg (by simp [first]), List.filter_nil, List.append_nil]
      · have new : key x ∉ key y :: ys.map key := List.not_mem_cons_of_ne_of_not_mem first later
        rw [if_neg new, List.filter_cons_of_pos (by simp [first]), List.filter_nil]
        rfl

/-- Members may be left out by their keys before or after. -/
theorem filter_distinctBy (key : α → κ) (p : κ → Bool) (xs : List α) :
    (distinctBy key xs).filter (fun x => p (key x)) = distinctBy key (xs.filter fun x => p (key x)) := by
  induction xs with
  | nil => rfl
  | cons x xs ih =>
    cases hx : p (key x) with
    | true =>
      simp only [distinctBy, List.filter_cons, hx, if_true, ← ih, List.filter_filter]
      simp only [Bool.and_comm]
    | false =>
      simp only [distinctBy, List.filter_cons, hx, Bool.false_eq_true, if_false, ← ih, List.filter_filter]
      refine List.filter_congr fun y _ => ?_
      by_cases hy : key y = key x
      · simp [hy, hx]
      · simp [hy]

end Rulebook
