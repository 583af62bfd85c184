import TurtleAssist.Json.Skip
import TurtleAssist.Proofs.Json.Extent

/-!
# Strings are read as they are written

However the characters of a string are written, the reader of strings takes these
characters and leaves what follows the closing quote (`yields_string`). A string that is
passed over ends at the same place (`yields_skipString`), although less is looked at.

Both readers go through the string character by character. Each round takes at least one
character of the text, so the text that was left at the start is bound enough.
-/

namespace TurtleAssist.Json

variable {c : Char} {cs s t : List Char}

/-- A character is not half of a pair. -/
theorem not_half (c : Char) : isLowHalf c.toNat = false ∧ isHighHalf c.toNat = false := by
  have hvalid : c.toNat < 0xD800 ∨ 0xDFFF < c.toNat ∧ c.toNat < 0x110000 := c.valid
  simp only [isLowHalf, isHighHalf, Bool.and_eq_false_iff, decide_eq_false_iff_not]
  omega

/-- The control characters do not include the one that is written plainly. -/
theorem not_isControl (h : 0x20 ≤ c.toNat) : ¬ c.toNat < 0x20 :=
  Nat.not_lt.mpr h

namespace Reader

variable {x y z w x' y' z' w' : Char} {n high low : Nat}

/-! ## Escapes -/

theorem yields_hexEscape (h : hexValueOf? x y z w = some n) (t : List Char) :
    Yields hexEscape (x :: y :: z :: w :: t) n t := by
  intro position
  refine ⟨(((position.after x).after y).after z).after w, ?_⟩
  unfold hexEscape
  simp only [h]
  rfl

theorem yields_expectInEscape (c : Char) (t : List Char) :
    Yields (expectInEscape c) (c :: t) () t := by
  refine (yields_peek _).bind ?_
  show Yields (if c = c then skip else _) _ _ _
  rw [if_pos rfl]
  exact yields_skip c t

/-- An escape by number stands for the character of the number. -/
theorem yields_numberedEscape (h : hexValueOf? x y z w = some c.toNat) (t : List Char) :
    Yields numberedEscape (x :: y :: z :: w :: t) c t := by
  refine (yields_hexEscape h t).bind ?_
  rw [(not_half c).1, (not_half c).2, if_neg Bool.false_ne_true, if_neg Bool.false_ne_true,
    Char.ofNat_toNat]
  exact yields_pure c t

/-- Two such escapes in a row stand for the character of the two halves. -/
theorem yields_numberedEscape_halves (hhigh : hexValueOf? x y z w = some high)
    (hlow : hexValueOf? x' y' z' w' = some low) (hhighHalf : 0xD800 ≤ high ∧ high ≤ 0xDBFF)
    (hlowHalf : 0xDC00 ≤ low ∧ low ≤ 0xDFFF)
    (hc : c.toNat = (high - 0xD800) * 0x400 + (low - 0xDC00) + 0x10000) (t : List Char) :
    Yields numberedEscape (x :: y :: z :: w :: '\\' :: 'u' :: x' :: y' :: z' :: w' :: t) c t := by
  have hnotLow : isLowHalf high = false := by
    simp only [isLowHalf, Bool.and_eq_false_iff, decide_eq_false_iff_not]
    omega
  have hisHigh : isHighHalf high = true := by
    simp only [isHighHalf, Bool.and_eq_true, decide_eq_true_eq]
    exact hhighHalf
  have hisLow : isLowHalf low = true := by
    simp only [isLowHalf, Bool.and_eq_true, decide_eq_true_eq]
    exact hlowHalf
  refine (yields_hexEscape hhigh _).bind ?_
  rw [hnotLow, hisHigh, if_neg Bool.false_ne_true, if_pos rfl]
  refine (yields_expectInEscape '\\' _).bind ((yields_expectInEscape 'u' _).bind ?_)
  refine (yields_hexEscape hlow t).bind ?_
  rw [hisLow, if_pos rfl, joinHalves, ← hc, Char.ofNat_toNat]
  exact yields_pure c t

/-- An escape of one letter stands for its character. -/
theorem yields_escape_letter {letter : Char} (h : (letter, c) ∈ letterEscapes) (t : List Char) :
    Yields escape (letter :: t) c t := by
  refine (yields_peek _).bind ?_
  simp only [letterEscapes, List.mem_cons, Prod.mk.injEq, List.not_mem_nil, or_false] at h
  rcases h with ⟨rfl, rfl⟩ | ⟨rfl, rfl⟩ | ⟨rfl, rfl⟩ | ⟨rfl, rfl⟩ | ⟨rfl, rfl⟩ | ⟨rfl, rfl⟩
    | ⟨rfl, rfl⟩ | ⟨rfl, rfl⟩
  all_goals exact (yields_skip _ t).bind (yields_pure _ t)

/-- An escape by number begins with its letter. -/
theorem yields_escape_numbered (h : Yields numberedEscape s c t) :
    Yields escape ('u' :: s) c t :=
  (yields_peek _).bind ((yields_skip _ s).bind h)

/-! ## Whole strings -/

/-- A written character is taken by one round of the reader. -/
theorem yields_stringBody_char {bound taken u : List Char} {value : String}
    (h : WritesChar c s t) (hrest : Yields (stringBody bound (c :: taken)) t value u) (b : Char) :
    Yields (stringBody (b :: bound) taken) s value u := by
  refine (yields_peek s).bind ?_
  cases h with
  | plain hquote hbackslash hcontrol =>
    show Yields
      (if c = '"' then _ else if c = '\\' then _ else if c.toNat < 0x20 then _ else _) _ _ _
    rw [if_neg hquote, if_neg hbackslash, if_neg (not_isControl hcontrol)]
    exact (yields_skip c t).bind hrest
  | letter hletter =>
    exact (yields_skip '\\' _).bind ((yields_escape_letter hletter t).bind hrest)
  | numbered hnumber =>
    exact (yields_skip '\\' _).bind
      ((yields_escape_numbered (yields_numberedEscape hnumber t)).bind hrest)
  | halves hhigh hlow hhighHalf hlowHalf hc =>
    exact (yields_skip '\\' _).bind ((yields_escape_numbered
      (yields_numberedEscape_halves hhigh hlow hhighHalf hlowHalf hc t)).bind hrest)

theorem yields_stringBody (h : WritesChars cs s t) {bound : List Char}
    (hbound : s.length ≤ bound.length) (taken : List Char) :
    Yields (stringBody bound taken) s (String.ofList (taken.reverse ++ cs)) t := by
  induction h generalizing bound taken with
  | close t =>
    cases bound with
    | nil => exact absurd hbound (Nat.not_succ_le_zero _)
    | cons b bound =>
      rw [List.append_nil]
      exact (yields_peek _).bind ((yields_skip '"' t).bind (yields_pure _ t))
  | @char c cs s t u hc _ ih =>
    cases bound with
    | nil => exact absurd (Nat.lt_of_lt_of_le hc.length_lt hbound) (Nat.not_lt_zero _)
    | cons b bound =>
      have hrest := ih (Nat.le_of_lt_succ (Nat.lt_of_lt_of_le hc.length_lt hbound)) (c :: taken)
      rw [List.reverse_cons, List.append_assoc] at hrest
      exact yields_stringBody_char hc hrest b

/-- **A string is read as it is written.** -/
theorem yields_string {value : String} (h : WritesChars value.toList s t) :
    Yields string s value t := by
  refine (yields_remaining s).bind ?_
  have hread := yields_stringBody h (Nat.le_refl s.length) []
  rw [List.reverse_nil, List.nil_append, String.ofList_toList] at hread
  exact hread

/-! ## Strings that are passed over -/

theorem yields_skipEscape_numbered (h : hexValueOf? x y z w = some n) (t : List Char) :
    Yields skipEscape ('u' :: x :: y :: z :: w :: t) () t :=
  (yields_peek _).bind ((yields_skip 'u' _).bind ((yields_hexEscape h t).bind (yields_pure _ t)))

theorem yields_skipEscape_letter {letter : Char} (h : (letter, c) ∈ letterEscapes)
    (t : List Char) : Yields skipEscape (letter :: t) () t := by
  refine (yields_peek _).bind ?_
  simp only [letterEscapes, List.mem_cons, Prod.mk.injEq, List.not_mem_nil, or_false] at h
  rcases h with ⟨rfl, -⟩ | ⟨rfl, -⟩ | ⟨rfl, -⟩ | ⟨rfl, -⟩ | ⟨rfl, -⟩ | ⟨rfl, -⟩ | ⟨rfl, -⟩
    | ⟨rfl, -⟩
  all_goals exact yields_skip _ t

/-- An escape is passed over by one round. -/
theorem yields_skipStringBody_escape {bound u : List Char} (h : Yields skipEscape s () t)
    (hrest : Yields (skipStringBody bound) t () u) (b : Char) :
    Yields (skipStringBody (b :: bound)) ('\\' :: s) () u :=
  (yields_peek _).bind ((yields_skip '\\' s).bind (h.bind hrest))

theorem yields_skipStringBody (h : WritesChars cs s t) {bound : List Char}
    (hbound : s.length ≤ bound.length) : Yields (skipStringBody bound) s () t := by
  induction h generalizing bound with
  | close t =>
    cases bound with
    | nil => exact absurd hbound (Nat.not_succ_le_zero _)
    | cons b bound => exact (yields_peek _).bind (yields_skip '"' t)
  | @char c cs s t u hc _ ih =>
    cases bound with
    | nil => exact absurd (Nat.lt_of_lt_of_le hc.length_lt hbound) (Nat.not_lt_zero _)
    | cons b bound =>
      have hrest := ih (Nat.le_of_lt_succ (Nat.lt_of_lt_of_le hc.length_lt hbound))
      cases hc with
      | plain hquote hbackslash hcontrol =>
        refine (yields_peek _).bind ?_
        show Yields (if c = '"' then _ else if c = '\\' then _ else if c.toNat < 0x20 then _ else _)
          _ _ _
        rw [if_neg hquote, if_neg hbackslash, if_neg (not_isControl hcontrol)]
        exact (yields_skip c t).bind hrest
      | letter hletter =>
        exact yields_skipStringBody_escape (yields_skipEscape_letter hletter t) hrest b
      | numbered hnumber =>
        exact yields_skipStringBody_escape (yields_skipEscape_numbered hnumber t) hrest b
      | halves hhigh hlow =>
        -- the two halves are passed over by two rounds
        cases bound with
        | nil => exact absurd (Nat.le_of_succ_le_succ hbound) (Nat.not_succ_le_zero _)
        | cons b' bound =>
          have hlater : t.length ≤ bound.length := by
            simp only [List.length_cons] at hbound
            omega
          exact yields_skipStringBody_escape (yields_skipEscape_numbered hhigh _)
            (yields_skipStringBody_escape (yields_skipEscape_numbered hlow t) (ih hlater) b') b

/-- **A string is passed over to its closing quote.** -/
theorem yields_skipString (h : WritesChars cs s t) : Yields skipString s () t :=
  (yields_remaining s).bind (yields_skipStringBody h (Nat.le_refl s.length))

end Reader

end TurtleAssist.Json
