import TurtleAssist.Json.Skip
import TurtleAssist.Proofs.Json.Extent

/-!
# Numerals are passed over

No field of a record is a number, so numerals are only passed over. One that stands in
front of a text is passed over to its end (`yields_skipNumber`), provided that what follows
does not go on with it. What may follow a value does not: that is white space, a comma or a
closing bracket (`FollowsValue`).
-/

namespace TurtleAssist.Json

variable {s t : List Char}

/-! ## Digits -/

/-- Only one digit has the value zero. -/
theorem eq_zero_of_digitValue? {c : Char} (h : digitValue? c = some 0) : c = '0' := by
  unfold digitValue? at h
  split at h
  · next hrange =>
    have hle : c.toNat - 48 = 0 := Option.some.inj h
    have hge : 48 ≤ c.toNat := hrange.1
    exact Char.toNat_inj.mp (Nat.le_antisymm (Nat.sub_eq_zero_iff_le.mp hle) hge)
  · cases h

theorem leadingDigits_append (hs : IsDigits s) (ht : ∀ c ∈ t.head?, digitValue? c = none) :
    (leadingDigits (s ++ t)).length = s.length := by
  induction s with
  | nil =>
    cases t with
    | nil => rfl
    | cons c t =>
      show (leadingDigits (c :: t)).length = 0
      rw [leadingDigits, ht c rfl]
      rfl
  | cons c s ih =>
    obtain ⟨d, hd⟩ := Option.isSome_iff_exists.mp (hs c List.mem_cons_self)
    show (leadingDigits (c :: (s ++ t))).length = s.length + 1
    rw [leadingDigits, hd]
    exact congrArg (· + 1) (ih fun x hx => hs x (List.mem_cons_of_mem c hx))

namespace Reader

theorem drop_append (s t : List Char) (position : Position) :
    ∃ position', Input.drop s.length ⟨s ++ t, position⟩ = ⟨t, position'⟩ := by
  induction s generalizing position with
  | nil => exact ⟨position, rfl⟩
  | cons c s ih => exact ih (position.after c)

/-- The digits in front are taken, all of them. -/
theorem yields_digits (hs : IsDigits s) (ht : ∀ c ∈ t.head?, digitValue? c = none) :
    ∃ ds, ds.length = s.length ∧ Yields digits (s ++ t) ds t := by
  refine ⟨leadingDigits (s ++ t), leadingDigits_append hs ht, fun position => ?_⟩
  obtain ⟨position', hdrop⟩ := drop_append s t position
  refine ⟨position', ?_⟩
  show Except.ok (_, Input.drop (leadingDigits (s ++ t)).length ⟨s ++ t, position⟩) = _
  rw [leadingDigits_append hs ht, hdrop]

/-- Some digits have to be there. -/
theorem isEmpty_eq_false_of_length {ds : List Nat} (hne : s ≠ []) (h : ds.length = s.length) :
    ds.isEmpty = false := by
  cases ds with
  | nil => exact absurd (List.length_eq_zero_iff.mp h.symm) hne
  | cons d ds => rfl

/-- The digits of an exponent, which has to have some. -/
theorem yields_exponentDigits (hs : IsDigits s) (hne : s ≠ []) (ht : FollowsValue t) :
    Yields (do if (← digits).isEmpty then failAhead .invalidNumber) (s ++ t) () t := by
  obtain ⟨ds, hlength, hread⟩ := yields_digits hs fun c hc => (ht.ends_numeral c hc).1
  refine hread.bind ?_
  rw [isEmpty_eq_false_of_length hne hlength, if_neg Bool.false_ne_true]
  exact yields_pure () t

theorem yields_skipExponent {mark : Char} {sign : List Char}
    (hsign : sign = [] ∨ sign = ['+'] ∨ sign = ['-']) (hs : IsDigits s) (hne : s ≠ [])
    (ht : FollowsValue t) : Yields skipExponent (mark :: (sign ++ s ++ t)) () t := by
  refine (yields_skip mark _).bind ((yields_peek _).bind ?_)
  rcases hsign with rfl | rfl | rfl
  · obtain ⟨c, s, rfl⟩ := List.exists_cons_of_ne_nil hne
    have hc := hs c List.mem_cons_self
    dsimp only [List.cons_append, List.nil_append, List.head?_cons]
    split
    · exact absurd (Option.some.inj ‹_›) (ne_of_isDigit hc rfl)
    · exact absurd (Option.some.inj ‹_›) (ne_of_isDigit hc rfl)
    · exact yields_exponentDigits hs hne ht
  · exact (yields_skip '+' _).bind (yields_exponentDigits hs hne ht)
  · exact (yields_skip '-' _).bind (yields_exponentDigits hs hne ht)

theorem yields_skipExponentOr {exponent : List Char} (h : IsExponent exponent)
    (ht : FollowsValue t) : Yields skipExponentOr (exponent ++ t) () t := by
  refine (yields_peek _).bind ?_
  cases h with
  | none =>
    cases t with
    | nil => exact yields_pure () []
    | cons c t =>
      obtain ⟨-, -, he, hE⟩ := ht.ends_numeral c rfl
      dsimp only [List.nil_append, List.head?_cons]
      split
      · exact absurd (Option.some.inj ‹_›) he
      · exact absurd (Option.some.inj ‹_›) hE
      · exact yields_pure () _
  | power hmark hsign hne hs =>
    rcases hmark with rfl | rfl
    · exact yields_skipExponent hsign hs hne ht
    · exact yields_skipExponent hsign hs hne ht

/-- Neither a fraction nor an exponent begins with a digit, and nor does what follows. -/
theorem digitValue?_head?_eq_none {fraction exponent : List Char} (hfraction : IsFraction fraction)
    (hexponent : IsExponent exponent) (ht : FollowsValue t) :
    ∀ c ∈ (fraction ++ (exponent ++ t)).head?, digitValue? c = none := by
  cases hfraction with
  | point => exact fun c hc => Option.some.inj hc ▸ rfl
  | none =>
    cases hexponent with
    | none => exact fun c hc => (ht.ends_numeral c hc).1
    | power hmark =>
      rcases hmark with rfl | rfl
      · exact fun c hc => Option.some.inj hc ▸ rfl
      · exact fun c hc => Option.some.inj hc ▸ rfl

theorem yields_skipFractionOr {fraction exponent : List Char} (hfraction : IsFraction fraction)
    (hexponent : IsExponent exponent) (ht : FollowsValue t) :
    Yields skipFractionOr (fraction ++ (exponent ++ t)) () t := by
  refine (yields_peek _).bind ?_
  cases hfraction with
  | point hne hs =>
    obtain ⟨ds, hlength, hread⟩ :=
      yields_digits hs (digitValue?_head?_eq_none .none hexponent ht)
    refine (yields_skip '.' _).bind (hread.bind ?_)
    rw [isEmpty_eq_false_of_length hne hlength, if_neg Bool.false_ne_true]
    exact yields_skipExponentOr hexponent ht
  | none =>
    dsimp only [List.nil_append]
    split
    · next hpoint =>
      cases hexponent with
      | none => exact absurd rfl (ht.ends_numeral '.' hpoint).2.1
      | power hmark => rcases hmark with rfl | rfl <;> cases hpoint
    · exact yields_skipExponentOr hexponent ht

/-- A numeral without its sign is passed over. -/
theorem yields_skipNumber {whole fraction exponent : List Char} (hwhole : IsWhole whole)
    (hfraction : IsFraction fraction) (hexponent : IsExponent exponent) (ht : FollowsValue t) :
    Yields skipNumber (whole ++ (fraction ++ (exponent ++ t))) () t := by
  have hend := digitValue?_head?_eq_none hfraction hexponent ht
  have hrest := yields_skipFractionOr hfraction hexponent ht
  refine (yields_peek _).bind ?_
  cases hwhole with
  | zero =>
    refine (yields_skip '0' (fraction ++ (exponent ++ t))).bind ((yields_peek _).bind ?_)
    have hnone : ((fraction ++ (exponent ++ t)).head?.bind digitValue?).isSome = false := by
      rw [Option.isSome_eq_false_iff, Option.isNone_iff_eq_none, Option.bind_eq_none_iff]
      exact hend
    rw [hnone, if_neg Bool.false_ne_true]
    exact hrest
  | @nonzero c s hc hzero hs =>
    obtain ⟨d, hd⟩ := Option.isSome_iff_exists.mp (hc c List.mem_cons_self)
    have hd0 : d ≠ 0 := by
      rintro rfl
      exact hzero (eq_zero_of_digitValue? hd)
    have hall : IsDigits (c :: s) := by
      intro x hx
      rcases List.mem_cons.mp hx with rfl | hx
      · exact hc x List.mem_cons_self
      · exact hs x hx
    obtain ⟨ds, -, hread⟩ := yields_digits hall hend
    dsimp only [List.cons_append, List.head?_cons, Option.bind_some]
    rw [hd]
    show Yields (if d = 0 then _ else _) _ _ _
    rw [if_neg hd0]
    exact hread.bind hrest

end Reader

end TurtleAssist.Json
