import Rulebook.Proofs.Text.Apart

/-!
# Reading quoted text

Between the marks of a quoted text every character is written so that it can be read back without looking at what is
behind it (`unquoteChar_quoteChar`), and none is written so that it begins with the mark. So the mark that ends a
quoted text is the first one in it that can be read as such, whatever the text and whatever follows: quoted texts can
be told apart (`apart_quoted`).
-/

namespace Rulebook.Text

variable {mark : Char}

/-- The character with a code point that digits in base 16 write. -/
def charOfCode (digits : List Char) : Char := Char.ofNat (digitsValue 16 digits)

/-- The first character that is written between the marks of a quoted text, and what is behind it. -/
def unquoteChar : List Char → Char × List Char
  | '\\' :: 't' :: s => ('\t', s)
  | '\\' :: 'n' :: s => ('\n', s)
  | '\\' :: 'r' :: s => ('\r', s)
  | '\\' :: 'x' :: s => (charOfCode (s.take 2), s.drop 2)
  | '\\' :: 'u' :: s => (charOfCode (s.take 4), s.drop 4)
  | '\\' :: 'U' :: s => (charOfCode (s.take 8), s.drop 8)
  | '\\' :: c :: s => (c, s)
  | c :: s => (c, s)
  | [] => (default, [])

private theorem charOfCode_fixedWidth {width : Nat} {c : Char} (fits : c.toNat < 16 ^ width) (s : List Char) :
    charOfCode ((fixedWidth 16 width c.toNat ++ s).take width) = c := by
  rw [List.take_left' (length_fixedWidth 16 width c.toNat), charOfCode, digitsValue_fixedWidth (Nat.le_refl 16) fits]
  exact Char.ofNat_toNat c

theorem unquoteChar_escapeCode (c : Char) (s : List Char) : unquoteChar (escapeCode c.toNat ++ s) = (c, s) := by
  have behind : ∀ width, (fixedWidth 16 width c.toNat ++ s).drop width = s := fun width =>
    List.drop_left' (length_fixedWidth 16 width c.toNat)
  unfold escapeCode
  split
  · have fits : c.toNat < 16 ^ 2 := by assumption
    simp only [List.cons_append, unquoteChar, behind, charOfCode_fixedWidth fits]
  · split
    · have fits : c.toNat < 16 ^ 4 := by assumption
      simp only [List.cons_append, unquoteChar, behind, charOfCode_fixedWidth fits]
    · have fits : c.toNat < 16 ^ 8 := c.val.toNat_lt
      simp only [List.cons_append, unquoteChar, behind, charOfCode_fixedWidth fits]

/-- Every character can be read back from what is written of it between quote marks. -/
theorem unquoteChar_quoteChar (hm : mark = apostrophe ∨ mark = doubleQuote) (c : Char) (s : List Char) :
    unquoteChar (quoteChar mark c ++ s) = (c, s) := by
  unfold quoteChar
  split
  · rename_i itself
    have known : c = '\\' ∨ c = apostrophe ∨ c = doubleQuote := by
      rcases itself with rfl | rfl
      · exact Or.inl rfl
      · exact Or.inr hm
    rcases known with rfl | rfl | rfl <;> rfl
  rename_i other
  rw [not_or] at other
  split
  · rename_i tab
    rw [tab]
    rfl
  split
  · rename_i newline
    rw [newline]
    rfl
  split
  · rename_i feed
    rw [feed]
    rfl
  split
  · simp [unquoteChar, other.1]
  · exact unquoteChar_escapeCode c s

/-- No character is written so that it begins with the mark. -/
theorem startsOutside_quoteChar (hm : mark = apostrophe ∨ mark = doubleQuote) (c : Char) (s : List Char) :
    StartsOutside [mark] (quoteChar mark c ++ s) := by
  have escaped : ∀ t, StartsOutside [mark] ('\\' :: t) := by
    intro t
    rw [startsOutside_cons_iff]
    rcases hm with rfl | rfl <;> decide
  unfold quoteChar escapeCode
  split
  · exact escaped _
  rename_i other
  rw [not_or] at other
  split
  · exact escaped _
  split
  · exact escaped _
  split
  · exact escaped _
  split
  · exact startsOutside_cons_iff.2 (mt List.mem_singleton.1 other.2)
  split
  · exact escaped _
  split
  · exact escaped _
  · exact escaped _

theorem quoteMark_eq (s : List Char) : quoteMark s = apostrophe ∨ quoteMark s = doubleQuote := by
  unfold quoteMark
  split
  · exact Or.inr rfl
  · exact Or.inl rfl

/-- Up to the first mark that can be read as such, texts between marks are read character by character. -/
private theorem flatMap_quoteChar_inj (hm : mark = apostrophe ∨ mark = doubleQuote) {x y s t : List Char}
    (h : x.flatMap (quoteChar mark) ++ mark :: s = y.flatMap (quoteChar mark) ++ mark :: t) : x = y ∧ s = t := by
  have noEnd : ∀ c s t, mark :: s ≠ quoteChar mark c ++ t := fun c s t =>
    ((startsOutside_quoteChar hm c t).ne_cons (List.mem_singleton.2 rfl)).symm
  -- two characters are read off at once, so the other text is any text
  induction x generalizing y with
  | nil =>
    cases y with
    | nil => exact ⟨rfl, (List.cons.inj h).2⟩
    | cons d y =>
      rw [List.flatMap_cons, List.append_assoc] at h
      exact absurd h (noEnd d s _)
  | cons c x ih =>
    cases y with
    | nil =>
      rw [List.flatMap_cons, List.append_assoc] at h
      exact absurd h.symm (noEnd c t _)
    | cons d y =>
      rw [List.flatMap_cons, List.flatMap_cons, List.append_assoc, List.append_assoc] at h
      have read := congrArg unquoteChar h
      rw [unquoteChar_quoteChar hm, unquoteChar_quoteChar hm, Prod.mk.injEq] at read
      obtain ⟨later, rest⟩ := ih read.2
      exact ⟨by rw [read.1, later], rest⟩

/-- Quoted texts can be told apart, whatever follows. -/
theorem apart_quoted : Apart [] quoted := by
  intro x y s t _ _ h
  simp only [quoted, List.cons_append, List.append_assoc, List.nil_append, List.cons.injEq] at h
  -- the marks are chosen by the texts, but the first of each is there to be read
  obtain ⟨marks, h⟩ := h
  rw [marks] at h
  exact flatMap_quoteChar_inj (quoteMark_eq y) h

/-- A quoted text begins with a quote mark. -/
theorem startsOutside_quoted {marks : List Char} (noApostrophe : apostrophe ∉ marks) (noQuote : doubleQuote ∉ marks)
    (x s : List Char) : StartsOutside marks (quoted x ++ s) := by
  rw [quoted, List.cons_append, startsOutside_cons_iff]
  rcases quoteMark_eq x with same | same <;> rw [same] <;> assumption

end Rulebook.Text
