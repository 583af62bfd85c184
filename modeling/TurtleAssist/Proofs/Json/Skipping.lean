import TurtleAssist.Proofs.Json.Characters
import TurtleAssist.Proofs.Json.Numerals

/-!
# Any value can be passed over

The value of an unknown key is passed over whatever it is: from a written form of any tree
the reader gets to the end of that form (`yields_skipValue`).

It keeps the open brackets on a stack and counts its steps down. What a value needs is said
for every stack and for every number of steps that are left after it: passing over the
value inside these brackets is done if going on after it is. The steps are bounded by the
length of the value, twice, since a bracket that is opened may take a step of its own.
-/

namespace TurtleAssist.Json

variable {s t u : List Char} {c : Char}

namespace Reader

/-! ## Scalars -/

/-- A numeral is passed over. -/
theorem yields_skipScalar_number {numeral : List Char} (h : IsNumeral numeral)
    (ht : FollowsValue t) : ∃ c r, numeral ++ t = c :: r ∧ c ≠ '[' ∧ c ≠ '\x7b'
      ∧ Yields (skipScalar c) (c :: r) () t := by
  cases h with
  | parts hsign hwhole hfraction hexponent =>
    obtain ⟨c, r, rfl, hc⟩ := hwhole.exists_cons
    have hnumber := yields_skipNumber hwhole hfraction hexponent ht
    simp only [List.append_assoc]
    rcases hsign with rfl | rfl
    · refine ⟨c, _, rfl, ne_of_isDigit hc rfl, ne_of_isDigit hc rfl, ?_⟩
      unfold skipScalar
      rw [if_neg (ne_of_isDigit hc rfl), if_neg (ne_of_isDigit hc rfl),
        if_neg (ne_of_isDigit hc rfl), if_neg (ne_of_isDigit hc rfl),
        if_pos hc]
      exact hnumber
    · exact ⟨'-', _, rfl, by decide, by decide, (yields_skip '-' _).bind hnumber⟩

/-- A value that begins with no bracket is passed over by itself, in one step. -/
theorem yields_skipFrom_scalar {n : Nat} {brackets : List Bracket} {r : List Char}
    (hblank : Blanks s (c :: r)) (hc : isBlank c = false) (harray : c ≠ '[')
    (hobject : c ≠ '\x7b') (hscalar : Yields (skipScalar c) (c :: r) () t)
    (hafter : Yields (skipFrom n .after brackets) t () u) :
    Yields (skipFrom (n + 1) .value brackets) s () u := by
  refine (yields_next hblank fun x hx => Option.some.inj hx ▸ hc).bind ?_
  split
  · next hnone => cases hnone
  · next hsome => exact absurd (Option.some.inj hsome) harray
  · next hsome => exact absurd (Option.some.inj hsome) hobject
  · next hsome =>
    obtain rfl := Option.some.inj hsome
    exact hscalar.bind hafter

/-! ## Brackets -/

/-- What is looked for before an item or a member. -/
def beforeNext (first : Bool) : Skipping :=
  if first then .opened else .after

/-- A bracket is closed in one step. -/
theorem yields_skipFrom_close {n : Nat} {bracket : Bracket} {brackets : List Bracket}
    (first : Bool) (hblank : Blanks s (bracket.closing :: t))
    (hafter : Yields (skipFrom n .after brackets) t () u) :
    Yields (skipFrom (n + 1) (beforeNext first) (bracket :: brackets)) s () u := by
  have hclosing : isBlank bracket.closing = false := by cases bracket <;> rfl
  have hnext := yields_next hblank fun x hx => Option.some.inj hx ▸ hclosing
  cases first with
  | true =>
    refine hnext.bind ?_
    show Yields (if bracket.closing = bracket.closing then _ else _) _ _ _
    rw [if_pos rfl]
    exact (yields_skip _ t).bind hafter
  | false =>
    refine hnext.bind ?_
    show Yields (if bracket.closing = bracket.closing then _ else _) _ _ _
    rw [if_pos rfl]
    exact (yields_skip _ t).bind hafter

/-- What stands before an item or a member is passed over in one step. -/
theorem yields_skipFrom_next {n : Nat} {bracket : Bracket} {brackets : List Bracket}
    {first : Bool} {r : List Char} (hbefore : Separated first s (c :: r))
    (hc : isBlank c = false) (hclosing : c ≠ bracket.closing)
    (hthen : ∀ s', Blanks s' (c :: r) →
      Yields (do skipKeyIn bracket; skipFrom n .value (bracket :: brackets)) s' () u) :
    Yields (skipFrom (n + 1) (beforeNext first) (bracket :: brackets)) s () u := by
  cases hbefore with
  | first hblank =>
    refine (yields_next hblank fun x hx => Option.some.inj hx ▸ hc).bind ?_
    show Yields (if c = bracket.closing then _ else _) _ _ _
    rw [if_neg hclosing]
    exact hthen _ (.none _)
  | comma hcomma hblank =>
    have hne : ',' ≠ bracket.closing := by cases bracket <;> decide
    refine (yields_next hcomma fun _ hx => Option.some.inj hx ▸ rfl).bind ?_
    show Yields (if ',' = bracket.closing then _ else if ',' = ',' then _ else _) _ _ _
    rw [if_neg hne, if_pos rfl]
    exact (yields_skip ',' _).bind (hthen _ hblank)

/-- The key of a member is passed over with the colon after it. -/
theorem yields_skipKey {key : List Char} {v w : List Char} (hblank : Blanks s ('"' :: t))
    (hkey : WritesChars key t v) (hcolon : Blanks v (':' :: w)) : Yields skipKey s () w := by
  refine (yields_next hblank fun _ hx => Option.some.inj hx ▸ rfl).bind ?_
  refine (yields_skip '"' t).bind ((yields_skipString hkey).bind ?_)
  refine (yields_next hcolon fun _ hx => Option.some.inj hx ▸ rfl).bind ?_
  exact yields_skip ':' w

/-! ## Values -/

mutual

/-- **A value is passed over**, inside any open brackets, if enough steps are left to go on
after it. -/
theorem yields_skipFrom_value {tree : Tree} {s t u : List Char} (h : Writes tree s t)
    (ht : FollowsValue t) {s' : List Char} (hblank : Blanks s' s) {brackets : List Bracket}
    {m n : Nat} (hafter : ∀ n, m ≤ n → Yields (skipFrom n .after brackets) t () u)
    (hn : m + 2 * s.length ≤ n + 2 * t.length + 1) :
    Yields (skipFrom n .value brackets) s' () u := by
  have hlength := h.length_lt
  obtain ⟨n, rfl⟩ : ∃ k, n = k + 1 := ⟨n - 1, by omega⟩
  have hleft := hafter n (by omega)
  cases h with
  | null | yes | no =>
    exact yields_skipFrom_scalar hblank rfl (by decide) (by decide)
      ((yields_skip _ _).bind (yields_literal _ t)) hleft
  | number h =>
    obtain ⟨c, r, heq, harray, hobject, hscalar⟩ := yields_skipScalar_number h ht
    obtain ⟨c', r', heq', hbegins⟩ := (Writes.number h t).exists_begins
    obtain ⟨rfl, rfl⟩ := List.cons.inj (heq.symm.trans heq')
    exact yields_skipFrom_scalar (heq ▸ hblank) (Tree.isBlank_eq_false_of_begins hbegins).1
      harray hobject hscalar hleft
  | string h =>
    exact yields_skipFrom_scalar hblank rfl (by decide) (by decide)
      ((yields_skip '"' _).bind (yields_skipString h)) hleft
  | array h =>
    rw [List.length_cons] at hn
    refine (yields_next hblank fun _ hx => Option.some.inj hx ▸ rfl).bind ?_
    refine (yields_skip '[' _).bind ?_
    show Yields (skipFrom n (beforeNext true) _) _ _ _
    exact yields_skipFrom_items h hafter (by omega)
  | object h =>
    rw [List.length_cons] at hn
    refine (yields_next hblank fun _ hx => Option.some.inj hx ▸ rfl).bind ?_
    refine (yields_skip '\x7b' _).bind ?_
    show Yields (skipFrom n (beforeNext true) _) _ _ _
    exact yields_skipFrom_members h hafter (by omega)

theorem yields_skipFrom_items {first : Bool} {items : List Tree} {s t u : List Char}
    (h : WritesItems first items s t) {brackets : List Bracket} {m n : Nat}
    (hafter : ∀ n, m ≤ n → Yields (skipFrom n .after brackets) t () u)
    (hn : m + 2 * s.length ≤ n + 2 * t.length + 1) :
    Yields (skipFrom n (beforeNext first) (.array :: brackets)) s () u := by
  have hlength := h.length_lt
  obtain ⟨n, rfl⟩ : ∃ k, n = k + 1 := ⟨n - 1, by omega⟩
  cases h with
  | close h => exact yields_skipFrom_close first h (hafter n (by omega))
  | @item _ item items _ v w _ hbefore hitem h =>
    have hbeforeLength := hbefore.length_le
    have hitemLength := hitem.length_lt
    have hrestLength := h.length_lt
    have hrest : ∀ k, m + 2 * w.length - (2 * t.length + 1) ≤ k →
        Yields (skipFrom k .after (.array :: brackets)) w () u :=
      fun k hk => yields_skipFrom_items h hafter (by omega)
    obtain ⟨c, r, rfl, hbegins⟩ := hitem.exists_begins
    obtain ⟨hc, hclosing⟩ := Tree.isBlank_eq_false_of_begins hbegins
    refine yields_skipFrom_next hbefore hc hclosing fun s' hblank => (yields_pure () s').bind ?_
    exact yields_skipFrom_value hitem h.followsValue hblank hrest (by omega)

theorem yields_skipFrom_members {first : Bool} {members : List (String × Tree)}
    {s t u : List Char} (h : WritesMembers first members s t) {brackets : List Bracket}
    {m n : Nat} (hafter : ∀ n, m ≤ n → Yields (skipFrom n .after brackets) t () u)
    (hn : m + 2 * s.length ≤ n + 2 * t.length + 1) :
    Yields (skipFrom n (beforeNext first) (.object :: brackets)) s () u := by
  have hlength := h.length_lt
  obtain ⟨n, rfl⟩ : ∃ k, n = k + 1 := ⟨n - 1, by omega⟩
  cases h with
  | close h => exact yields_skipFrom_close first h (hafter n (by omega))
  | @member _ key value members _ _ v w x y _ hbefore hkey hcolon hvalueBlank hvalue h =>
    have hbeforeLength := hbefore.length_le
    have hkeyLength := hkey.length_lt
    have hcolonLength := hcolon.length_le
    have hvalueBlankLength := hvalueBlank.length_le
    have hvalueLength := hvalue.length_lt
    have hrestLength := h.length_lt
    rw [List.length_cons] at hbeforeLength hcolonLength
    have hrest : ∀ k, m + 2 * y.length - (2 * t.length + 1) ≤ k →
        Yields (skipFrom k .after (.object :: brackets)) y () u :=
      fun k hk => yields_skipFrom_members h hafter (by omega)
    refine yields_skipFrom_next hbefore rfl (by decide) fun s' hblank =>
      (yields_skipKey hblank hkey hcolon).bind ?_
    exact yields_skipFrom_value hvalue h.followsValue hvalueBlank hrest (by omega)

end

/-- **Any value is passed over**, with the white space before it. -/
theorem yields_skipValue {tree : Tree} (hblank : Blanks s t) (h : Writes tree t u)
    (hu : FollowsValue u) : Yields skipValue s () u := by
  have hlength := hblank.length_le
  have hafter : ∀ n, 1 ≤ n → Yields (skipFrom n .after []) u () u := by
    intro n hn
    obtain ⟨n, rfl⟩ : ∃ k, n = k + 1 := ⟨n - 1, by omega⟩
    exact yields_pure () u
  refine (yields_remaining s).bind ?_
  exact yields_skipFrom_value h hu hblank hafter (by omega)

end Reader

end TurtleAssist.Json
