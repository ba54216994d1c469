import Mathlib.Algebra.GroupWithZero.Nat
import Rulebook.Json.Printer
import Rulebook.Text.Hexadecimal

/-!
# Texts whose parts can be told apart

Nothing in a text tells how long its parts are. Still, what was written can be read off if no part can be taken for
another one or go on into the next: a way of writing is `Apart` if a text that begins with something written in it
settles what that is and where it ends. What follows may have to begin with a character that the part could not go on
with. Numbers of a fixed width are apart (`fixedWidth_append_inj`), and so are lists of what is apart (`apart_listed`).
-/

namespace Rulebook.Text

variable {α : Type} {marks : List Char} {write : α → List Char} {s t : List Char}

/-! ### Ways of writing -/

/-- A text that does not begin with one of the characters `marks`. -/
def StartsOutside (marks s : List Char) : Prop := ∀ c ∈ s.head?, c ∉ marks

/-- A way of writing by which a text that begins with something written settles what was written and what is behind
it, if what is behind does not begin with one of the characters `marks`. -/
def Apart (marks : List Char) (write : α → List Char) : Prop :=
  ∀ ⦃x y : α⦄ ⦃s t : List Char⦄, StartsOutside marks s → StartsOutside marks t → write x ++ s = write y ++ t →
    x = y ∧ s = t

theorem startsOutside_cons_iff {c : Char} : StartsOutside marks (c :: s) ↔ c ∉ marks := by
  simp [StartsOutside]

theorem StartsOutside.mono {marks' : List Char} (h : StartsOutside marks' s) (sub : marks ⊆ marks') :
    StartsOutside marks s :=
  fun c hc => mt (@sub c) (h c hc)

theorem StartsOutside.ne_cons {c : Char} (h : StartsOutside marks s) (marked : c ∈ marks) : s ≠ c :: t := by
  rintro rfl
  exact startsOutside_cons_iff.1 h marked

namespace Apart

theorem mono {marks' : List Char} (apart : Apart marks write) (sub : marks ⊆ marks') : Apart marks' write :=
  fun _ _ _ _ hs ht h => apart (hs.mono sub) (ht.mono sub) h

theorem comp {β : Type} (apart : Apart marks write) {f : β → α} (injective : ∀ x y, f x = f y → x = y) :
    Apart marks fun x => write (f x) := by
  intro x y s t hs ht h
  obtain ⟨same, rest⟩ := apart hs ht h
  exact ⟨injective x y same, rest⟩

/-- What needs nothing behind it to be told apart can be taken off the front of a text. -/
theorem cancel (apart : Apart [] write) {x y : α} (h : write x ++ s = write y ++ t) : x = y ∧ s = t :=
  apart (fun _ _ => List.not_mem_nil) (fun _ _ => List.not_mem_nil) h

theorem of_length (injective : ∀ x y, write x = write y → x = y) (width : Nat) (length : ∀ x, (write x).length = width) :
    Apart [] write := by
  intro x y s t _ _ h
  obtain ⟨same, rest⟩ := List.append_inj h ((length x).trans (length y).symm)
  exact ⟨injective x y same, rest⟩

/-- Something that may be missing is apart if what stands in its place cannot be taken for it. -/
theorem elim (apart : Apart marks write) (missing : List Char)
    (differs : ∀ x s t, StartsOutside marks s → missing ++ s ≠ write x ++ t) :
    Apart marks fun o : Option α => o.elim missing write := by
  intro x y s t hs ht h
  cases x with
  | none =>
    cases y with
    | none => exact ⟨rfl, List.append_cancel_left h⟩
    | some y => exact absurd h (differs y s t hs)
  | some x =>
    cases y with
    | none => exact absurd h.symm (differs x t s ht)
    | some y =>
      obtain ⟨same, rest⟩ := apart hs ht h
      exact ⟨congrArg some same, rest⟩

end Apart

/-! ### Numbers of a fixed width -/

/-- The number that digits write, most significant first. -/
def digitsValue (base : Nat) (digits : List Char) : Nat :=
  digits.foldl (fun value c => base * value + (digitValue? c).getD 0) 0

private theorem digitValue?_digitChar : ∀ d < 16, digitValue? (Nat.digitChar d) = some d := by decide

theorem digitsValue_fixedWidth {base width n : Nat} (short : base ≤ 16) (fits : n < base ^ width) :
    digitsValue base (fixedWidth base width n) = n := by
  induction width generalizing n with
  | zero =>
    have zero : n = 0 := by simpa using fits
    rw [zero]
    rfl
  | succ width ih =>
    have pos : 0 < base := by
      apply Nat.pos_of_ne_zero
      rintro rfl
      rw [Nat.pow_succ, Nat.mul_zero] at fits
      exact Nat.not_lt_zero _ fits
    have rest := ih (Nat.div_lt_of_lt_mul (by rwa [Nat.pow_succ, Nat.mul_comm] at fits))
    have digit := digitValue?_digitChar (n % base) (Nat.lt_of_lt_of_le (Nat.mod_lt n pos) short)
    unfold digitsValue at rest ⊢
    rw [fixedWidth, List.foldl_append, rest, List.foldl_cons, List.foldl_nil, digit]
    exact Nat.div_add_mod n base

theorem fixedWidth_append_inj {base width m n : Nat} (short : base ≤ 16) (hm : m < base ^ width)
    (hn : n < base ^ width) (h : fixedWidth base width m ++ s = fixedWidth base width n ++ t) : m = n ∧ s = t := by
  obtain ⟨digits, rest⟩ := List.append_inj h (by rw [length_fixedWidth, length_fixedWidth])
  rw [← digitsValue_fixedWidth short hm, ← digitsValue_fixedWidth short hn, digits]
  exact ⟨rfl, rest⟩

/-! ### Lists -/

private theorem listed_cons_cons (item next : List Char) (rest : List (List Char)) :
    listed (item :: next :: rest) = item ++ ',' :: ' ' :: listed (next :: rest) := by
  have two : listed (item :: next :: rest) = item ++ [',', ' '] ++ listed (next :: rest) := List.intercalate_cons_cons
  rw [two, List.append_assoc]
  rfl

private theorem listed_cons (item : List Char) (items : List (List Char)) :
    listed (item :: items) = item ++ items.flatMap ([',', ' '] ++ ·) := by
  induction items generalizing item with
  | nil => simp [listed]
  | cons next rest ih =>
    rw [listed_cons_cons, ih, List.flatMap_cons]
    rfl

theorem listed_singleton (item : List Char) : listed [item] = item := List.intercalate_singleton

/-- The first of several parts can be taken off, where it stands behind its name. -/
theorem Apart.cancel_named (apart : Apart marks write) (noComma : ',' ∉ marks) {x y : α} {name p q : List Char}
    {ps qs : List (List Char)}
    (h : listed ((name ++ write x) :: p :: ps) ++ s = listed ((name ++ write y) :: q :: qs) ++ t) :
    x = y ∧ listed (p :: ps) ++ s = listed (q :: qs) ++ t := by
  simp only [listed_cons_cons, List.append_assoc, List.cons_append] at h
  obtain ⟨same, h⟩ := apart (startsOutside_cons_iff.2 noComma) (startsOutside_cons_iff.2 noComma)
    (List.append_cancel_left h)
  exact ⟨same, (List.cons.inj (List.cons.inj h).2).2⟩

private theorem flatMap_separated_inj (apart : Apart [] write) {closing : Char} (noComma : closing ≠ ',')
    {xs ys : List α} (h : (xs.map write).flatMap ([',', ' '] ++ ·) ++ closing :: s =
      (ys.map write).flatMap ([',', ' '] ++ ·) ++ closing :: t) : xs = ys ∧ s = t := by
  induction xs generalizing ys with
  | nil =>
    cases ys with
    | nil => exact ⟨rfl, (List.cons.inj h).2⟩
    | cons y ys => exact absurd (List.cons.inj h).1 noComma
  | cons x xs ih =>
    cases ys with
    | nil => exact absurd (List.cons.inj h).1.symm noComma
    | cons y ys =>
      simp only [List.map_cons, List.flatMap_cons, List.append_assoc] at h
      obtain ⟨first, h⟩ := apart.cancel (List.append_cancel_left h)
      obtain ⟨later, rest⟩ := ih h
      exact ⟨by rw [first, later], rest⟩

/-- Lists of what is apart are apart between two characters, if the last of these is no comma and nothing in the list
begins with it. -/
theorem apart_listed (apart : Apart [] write) (opening : Char) {closing : Char} (noComma : closing ≠ ',')
    (begins : ∀ x s, StartsOutside [closing] (write x ++ s)) :
    Apart [] fun xs : List α => opening :: listed (xs.map write) ++ [closing] := by
  intro xs ys s t _ _ h
  have noEnd : ∀ y ys s t, closing :: s ≠ listed ((y :: ys).map write) ++ t := by
    intro y ys s t h
    rw [List.map_cons, listed_cons, List.append_assoc] at h
    exact (begins y _).ne_cons (List.mem_singleton.2 rfl) h.symm
  simp only [List.cons_append, List.append_assoc, List.nil_append, List.cons.injEq, true_and] at h
  cases xs with
  | nil =>
    cases ys with
    | nil => exact ⟨rfl, (List.cons.inj h).2⟩
    | cons y ys => exact absurd h (noEnd y ys s _)
  | cons x xs =>
    cases ys with
    | nil => exact absurd h.symm (noEnd x xs t _)
    | cons y ys =>
      simp only [List.map_cons, listed_cons, List.append_assoc] at h
      obtain ⟨first, h⟩ := apart.cancel h
      obtain ⟨later, rest⟩ := flatMap_separated_inj apart noComma h
      exact ⟨by rw [first, later], rest⟩

end Rulebook.Text
