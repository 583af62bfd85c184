import TurtleAssist.Json.NumberReader
import TurtleAssist.Proofs.Json.Grammar

/-!
# Where a value begins and ends

The first character of a value tells what kind of value it is (`Writes.exists_begins`), so
a reader that looks at it knows what to do. The end of a value is marked by what follows
in an array or an object: white space, a comma or a closing bracket (`FollowsValue`). A
numeral has no other mark. And everything that is written takes room, so the length of the
text bounds how often something can be read.
-/

namespace TurtleAssist.Json

variable {s t : List Char} {c : Char} {tree : Tree}

/-! ## Beginnings -/

/-- Whether a value can begin with a character. -/
def Tree.begins : Tree → Char → Bool
  | .null, c => c == 'n'
  | .bool true, c => c == 't'
  | .bool false, c => c == 'f'
  | .number _, c => c == '-' || (digitValue? c).isSome
  | .string _, c => c == '"'
  | .array _, c => c == '['
  | .object _, c => c == '\x7b'

theorem IsWhole.exists_cons {whole : List Char} (h : IsWhole whole) :
    ∃ c r, whole = c :: r ∧ (digitValue? c).isSome = true := by
  cases h with
  | zero => exact ⟨'0', [], rfl, rfl⟩
  | @nonzero c s hc => exact ⟨c, s, rfl, hc c List.mem_cons_self⟩

/-- **A value begins with a character of its kind.** -/
theorem Writes.exists_begins (h : Writes tree s t) :
    ∃ c r, s = c :: r ∧ tree.begins c = true := by
  cases h with
  | number h =>
    cases h with
    | parts hsign hwhole =>
      obtain ⟨c, r, rfl, hc⟩ := hwhole.exists_cons
      rcases hsign with rfl | rfl
      · exact ⟨c, _, rfl, Bool.or_eq_true_iff.mpr (Or.inr hc)⟩
      · exact ⟨'-', _, rfl, rfl⟩
  | _ => exact ⟨_, _, rfl, rfl⟩

/-- A digit is none of the characters that are no digits. -/
theorem ne_of_isDigit (h : (digitValue? c).isSome = true) {x : Char} (hx : digitValue? x = none) :
    c ≠ x := by
  rintro rfl
  rw [hx] at h
  cases h

/-- No value begins with white space or with the bracket that closes an array. -/
theorem Tree.isBlank_eq_false_of_begins (h : tree.begins c = true) :
    isBlank c = false ∧ c ≠ ']' := by
  have hblank : ∀ x, isBlank x = true ∨ x = ']' → tree.begins x = false := by
    intro x hx
    simp only [isBlank, Bool.or_eq_true, beq_iff_eq] at hx
    cases tree with
    | bool value =>
      cases value <;> rcases hx with (((rfl | rfl) | rfl) | rfl) | rfl <;> rfl
    | _ => rcases hx with (((rfl | rfl) | rfl) | rfl) | rfl <;> rfl
  constructor
  · refine Bool.eq_false_iff.mpr fun hc => ?_
    rw [hblank c (Or.inl hc)] at h
    cases h
  · rintro rfl
    rw [hblank ']' (Or.inr rfl)] at h
    cases h

theorem Tree.startsToken_of_begins (h : tree.begins c = true) (r : List Char) :
    StartsToken (c :: r) :=
  fun _ hx => Option.some.inj hx ▸ (isBlank_eq_false_of_begins h).1

/-! ## Ends -/

/-- **What may come after a value**: white space, a comma, a closing bracket, or nothing. -/
def FollowsValue (t : List Char) : Prop :=
  ∀ c ∈ t.head?, isBlank c = true ∨ c = ',' ∨ c = ']' ∨ c = '\x7d'

/-- White space may come in between. -/
theorem Blanks.followsValue (h : Blanks s t) (ht : FollowsValue t) : FollowsValue s := by
  cases h with
  | none => exact ht
  | cons hc _ => exact fun c hmem => Or.inl (Option.some.inj hmem ▸ hc)

theorem followsValue_nil : FollowsValue [] :=
  fun _ hc => nomatch hc

theorem followsValue_cons (hc : c = ',' ∨ c = ']' ∨ c = '\x7d') (t : List Char) :
    FollowsValue (c :: t) :=
  fun _ hmem => Option.some.inj hmem ▸ Or.inr hc

/-- What comes after a value does not go on with a numeral. -/
theorem FollowsValue.ends_numeral (h : FollowsValue t) :
    ∀ c ∈ t.head?, digitValue? c = none ∧ c ≠ '.' ∧ c ≠ 'e' ∧ c ≠ 'E' := by
  intro c hc
  rcases h c hc with hblank | rfl | rfl | rfl
  · simp only [isBlank, Bool.or_eq_true, beq_iff_eq] at hblank
    rcases hblank with ((rfl | rfl) | rfl) | rfl <;> decide
  all_goals decide

/-- What comes after an item is a comma or the closing bracket. -/
theorem WritesItems.followsValue {items : List Tree} (h : WritesItems false items s t) :
    FollowsValue s := by
  cases h with
  | close h => exact h.followsValue (followsValue_cons (by decide) _)
  | item hbefore =>
    cases hbefore with
    | comma h => exact h.followsValue (followsValue_cons (by decide) _)

theorem WritesMembers.followsValue {members : List (String × Tree)}
    (h : WritesMembers false members s t) : FollowsValue s := by
  cases h with
  | close h => exact h.followsValue (followsValue_cons (by decide) _)
  | member hbefore =>
    cases hbefore with
    | comma h => exact h.followsValue (followsValue_cons (by decide) _)

/-! ## Lengths -/

theorem WritesChar.length_lt (h : WritesChar c s t) : t.length < s.length := by
  cases h with
  | plain | letter | numbered | halves => simp only [List.length_cons]; omega

/-- A string takes room, if only for its closing quote. -/
theorem WritesChars.length_lt {cs : List Char} (h : WritesChars cs s t) :
    t.length < s.length := by
  induction h with
  | close t => exact Nat.lt_succ_self _
  | char hc _ ih => exact Nat.lt_trans ih hc.length_lt

theorem Separated.length_le {first : Bool} (h : Separated first s t) : t.length ≤ s.length := by
  cases h with
  | first h => exact h.length_le
  | comma h h' => exact Nat.le_trans h'.length_le (Nat.le_of_succ_le h.length_le)

mutual

/-- **A value takes room.** -/
theorem Writes.length_lt {tree : Tree} {s t : List Char} (h : Writes tree s t) :
    t.length < s.length := by
  cases h with
  | number h =>
    cases h with
    | parts hsign hwhole =>
      obtain ⟨c, r, rfl, -⟩ := hwhole.exists_cons
      simp only [List.length_append, List.length_cons]
      omega
  | null | yes | no => simp only [List.length_append, List.length_cons]; omega
  | string h => exact Nat.lt_succ_of_lt h.length_lt
  | array h => exact Nat.lt_succ_of_lt h.length_lt
  | object h => exact Nat.lt_succ_of_lt h.length_lt

theorem WritesItems.length_lt {first : Bool} {items : List Tree} {s t : List Char}
    (h : WritesItems first items s t) : t.length < s.length := by
  cases h with
  | close h => exact h.length_le
  | item hbefore hitem h =>
    exact Nat.lt_of_lt_of_le (Nat.lt_trans h.length_lt hitem.length_lt) hbefore.length_le

theorem WritesMembers.length_lt {first : Bool} {members : List (String × Tree)}
    {s t : List Char} (h : WritesMembers first members s t) : t.length < s.length := by
  cases h with
  | close h => exact h.length_le
  | member hbefore hkey hcolon hblank hvalue h =>
    have hbefore := hbefore.length_le
    have hkey := hkey.length_lt
    have hcolon := hcolon.length_le
    have hblank := hblank.length_le
    have hvalue := hvalue.length_lt
    have h := h.length_lt
    simp only [List.length_cons] at hbefore hcolon
    omega

end

end TurtleAssist.Json
