import Mathlib.Data.List.Basic
import Mathlib.Data.List.TakeWhile
import TurtleAssist.Proofs.Pattern.Language
import TurtleAssist.Text.Run

/-!
# Tokens

The tokens of a text are what its white space separates. This module says so of
`Text.tokens`: white space in front is skipped (`tokens_blank_append`), and a
token in front is the first one, if the text after it begins with white space or
is over (`tokens_token_append`). Hence the first of the tokens is the one that a
reader finds (`head?_tokens_eq_some_iff`), and what is to be shown of a text with
its tokens can be shown token by token (`tokens_induction`).

Two kinds of tokens have a meaning of their own, the integers and the
identifiers. They are what the patterns `integer` and `identifier` accept, and no
token is both, because no ASCII letter is a decimal digit. Where an identifier or the
white space in front of it ends is determined by what follows.
-/

namespace TurtleAssist

open Unicode (isDigit isWhiteSpace Block)

/-! ## Classes of characters -/

namespace Unicode

/-- No block of one table overlaps a block of the other. -/
def Apart (one two : List Block) : Prop :=
  ∀ a ∈ one, ∀ b ∈ two, a.2 < b.1 ∨ b.2 < a.1

instance (one two : List Block) : Decidable (Apart one two) :=
  inferInstanceAs (Decidable (∀ a ∈ one, ∀ b ∈ two, a.2 < b.1 ∨ b.2 < a.1))

theorem Apart.contains_eq_false {one two : List Block} (h : Apart one two) {c : Char}
    (hc : contains one c = true) : contains two c = false := by
  obtain ⟨a, ha, hfirst, hlast⟩ := contains_iff.mp hc
  rw [Bool.eq_false_iff, ne_eq, contains_iff]
  rintro ⟨b, hb, hfirst', hlast'⟩
  have := h a ha b hb
  omega

theorem isAlpha_iff {c : Char} :
    c.isAlpha = true
      ↔ 0x41 ≤ c.toNat ∧ c.toNat ≤ 0x5A ∨ 0x61 ≤ c.toNat ∧ c.toNat ≤ 0x7A := by
  show (decide (c.val ≥ 'A'.val ∧ c.val ≤ 'Z'.val)
    || decide (c.val ≥ 'a'.val) && decide (c.val ≤ 'z'.val)) = true ↔ _
  simp only [UInt32.le_iff_toNat_le, ge_iff_le, Bool.or_eq_true, Bool.and_eq_true,
    decide_eq_true_eq]
  rfl

theorem isDigit_ascii_iff {c : Char} :
    c.isDigit = true ↔ 0x30 ≤ c.toNat ∧ c.toNat ≤ 0x39 := by
  simp only [Char.isDigit, UInt32.le_iff_toNat_le, ge_iff_le, Bool.and_eq_true,
    decide_eq_true_eq]
  rfl

/-- The ASCII letters as blocks. -/
def asciiLetters : List Block := [(0x41, 0x5A), (0x61, 0x7A)]

theorem contains_asciiLetters {c : Char} (h : c.isAlpha = true) :
    contains asciiLetters c = true := by
  rw [contains_iff]
  simpa [asciiLetters] using isAlpha_iff.mp h

theorem isDigit_eq_false_of_isAlpha {c : Char} (h : c.isAlpha = true) : isDigit c = false :=
  (show Apart asciiLetters decimalDigits by decide +kernel).contains_eq_false
    (contains_asciiLetters h)

/-- The ASCII digits are decimal digits. -/
theorem isDigit_of_ascii {c : Char} (h : c.isDigit = true) : isDigit c = true := by
  obtain ⟨hfirst, hlast⟩ := isDigit_ascii_iff.mp h
  rw [isDigit, contains_iff]
  exact ⟨(0x30, 0x39), List.mem_cons_self, hfirst, hlast⟩

theorem isWhiteSpace_eq_false_of_isAlpha {c : Char} (h : c.isAlpha = true) :
    isWhiteSpace c = false :=
  (show Apart asciiLetters whiteSpace by decide +kernel).contains_eq_false
    (contains_asciiLetters h)

theorem isWhiteSpace_eq_false_of_isDigit {c : Char} (h : isDigit c = true) :
    isWhiteSpace c = false :=
  (show Apart decimalDigits whiteSpace by decide +kernel).contains_eq_false h

end Unicode

namespace Pattern

theorem SetItem.contains_range {first last c : Char} :
    (SetItem.range first last).contains c = true
      ↔ first.toNat ≤ c.toNat ∧ c.toNat ≤ last.toNat := by
  simp only [SetItem.contains, Bool.and_eq_true, decide_eq_true_eq, Char.le_def,
    UInt32.le_iff_toNat_le]
  rfl

theorem SetItem.contains_single {x c : Char} :
    (SetItem.single x).contains c = true ↔ c = x := beq_iff_eq

theorem CharSet.contains_letter {c : Char} :
    CharSet.letter.contains c = true ↔ c.isAlpha = true := by
  rw [Unicode.isAlpha_iff]
  simp only [CharSet.letter, CharSet.contains, List.any_cons, List.any_nil, Bool.or_eq_true,
    SetItem.contains_range, Bool.false_eq_true, or_false]
  exact or_comm

theorem CharSet.contains_nonParen {c : Char} :
    CharSet.nonParen.contains c = true ↔ c ≠ '(' ∧ c ≠ ')' := by
  simp [CharSet.nonParen, CharSet.contains, SetItem.contains]

end Pattern

/-! ## Kinds of tokens -/

/-- A character that may follow the first letter of an identifier. -/
def IsNameTail (c : Char) : Prop :=
  c.isAlphanum = true ∨ c = '-'

instance (c : Char) : Decidable (IsNameTail c) :=
  inferInstanceAs (Decidable (_ ∨ _))

theorem Pattern.CharSet.contains_nameTail {c : Char} :
    CharSet.nameTail.contains c = true ↔ IsNameTail c := by
  have hdigit : c.isDigit = true ↔ '0'.toNat ≤ c.toNat ∧ c.toNat ≤ '9'.toNat :=
    Unicode.isDigit_ascii_iff
  rw [IsNameTail, Char.isAlphanum, Bool.or_eq_true, hdigit, ← contains_letter]
  simp only [CharSet.nameTail, CharSet.letter, CharSet.contains, List.any_cons, List.any_nil,
    Bool.or_eq_true, SetItem.contains_range, SetItem.contains_single, Bool.false_eq_true,
    or_false]
  exact ⟨fun h => by simpa only [or_assoc] using h, fun h => by simpa only [or_assoc] using h⟩

/-- A number without a sign: decimal digits, at least one. -/
def IsNumber (token : List Char) : Prop :=
  token ≠ [] ∧ ∀ c ∈ token, isDigit c = true

/-- **An integer**: a number, possibly after a minus sign. -/
def IsInteger (token : List Char) : Prop :=
  IsNumber token ∨ ∃ digits, token = '-' :: digits ∧ IsNumber digits

/-- **An identifier**: an ASCII letter, then letters, digits and hyphens. -/
def IsIdentifier : List Char → Prop
  | [] => False
  | c :: rest => c.isAlpha = true ∧ ∀ x ∈ rest, IsNameTail x

instance (token : List Char) : Decidable (IsNumber token) :=
  decidable_of_iff (token ≠ [] ∧ token.all isDigit = true) (Iff.rfl.and List.all_eq_true)

instance : (token : List Char) → Decidable (IsInteger token)
  | [] => isFalse (by simp [IsInteger, IsNumber])
  | c :: digits =>
    decidable_of_iff (IsNumber (c :: digits) ∨ c = '-' ∧ IsNumber digits) (by
      simp [IsInteger, and_assoc])

instance : (token : List Char) → Decidable (IsIdentifier token)
  | [] => isFalse not_false
  | c :: rest =>
    decidable_of_iff (c.isAlpha = true ∧ rest.all (decide <| IsNameTail ·) = true) (by
      simp [IsIdentifier])

theorem isWhiteSpace_eq_false_of_isNameTail {c : Char} (h : IsNameTail c) :
    isWhiteSpace c = false := by
  rcases h with h | rfl
  · rcases Bool.or_eq_true_iff.mp h with halpha | hdigit
    · exact Unicode.isWhiteSpace_eq_false_of_isAlpha halpha
    · exact Unicode.isWhiteSpace_eq_false_of_isDigit (Unicode.isDigit_of_ascii hdigit)
  · decide

theorem IsNumber.not_isWhiteSpace {token : List Char} (h : IsNumber token) :
    ∀ c ∈ token, isWhiteSpace c = false :=
  fun c hc => Unicode.isWhiteSpace_eq_false_of_isDigit (h.2 c hc)

theorem IsInteger.not_isWhiteSpace {token : List Char} (h : IsInteger token) :
    ∀ c ∈ token, isWhiteSpace c = false := by
  obtain h | ⟨digits, rfl, h⟩ := h
  · exact h.not_isWhiteSpace
  · exact List.forall_mem_cons.mpr ⟨by decide, h.not_isWhiteSpace⟩

theorem IsInteger.ne_nil {token : List Char} (h : IsInteger token) : token ≠ [] := by
  obtain h | ⟨digits, rfl, -⟩ := h
  · exact h.1
  · exact List.cons_ne_nil _ _

theorem IsIdentifier.not_isWhiteSpace {token : List Char} (h : IsIdentifier token) :
    ∀ c ∈ token, isWhiteSpace c = false := by
  cases token with
  | nil => cases h
  | cons c rest =>
    exact List.forall_mem_cons.mpr ⟨Unicode.isWhiteSpace_eq_false_of_isAlpha h.1,
      fun x hx => isWhiteSpace_eq_false_of_isNameTail (h.2 x hx)⟩

theorem IsIdentifier.ne_nil {token : List Char} (h : IsIdentifier token) : token ≠ [] := by
  cases token with
  | nil => cases h
  | cons c rest => exact List.cons_ne_nil c rest

/-- An integer is made of digits and a minus sign, which names have too. -/
theorem IsInteger.chars {token : List Char} (h : IsInteger token) :
    ∀ c ∈ token, isDigit c = true ∨ IsNameTail c := by
  obtain h | ⟨digits, rfl, h⟩ := h
  · exact fun c hc => Or.inl (h.2 c hc)
  · exact List.forall_mem_cons.mpr ⟨Or.inr (Or.inr rfl), fun c hc => Or.inl (h.2 c hc)⟩

theorem IsIdentifier.chars {token : List Char} (h : IsIdentifier token) :
    ∀ c ∈ token, IsNameTail c := by
  cases token with
  | nil => cases h
  | cons c rest =>
    exact List.forall_mem_cons.mpr ⟨Or.inl (Bool.or_eq_true_iff.mpr (Or.inl h.1)), h.2⟩

/-- An identifier does not begin with an integer. -/
theorem IsIdentifier.not_isInteger_of_append {token rest : List Char}
    (h : IsIdentifier (token ++ rest)) : ¬ IsInteger token := by
  cases token with
  | nil => exact fun hinteger => hinteger.ne_nil rfl
  | cons c token =>
    rintro (hnumber | ⟨digits, heq, -⟩)
    · have hdigit := hnumber.2 c List.mem_cons_self
      rw [Unicode.isDigit_eq_false_of_isAlpha h.1] at hdigit
      cases hdigit
    · obtain ⟨rfl, -⟩ := List.cons.inj heq
      exact absurd h.1 (by decide)

/-- No token is an integer and an identifier. -/
theorem IsIdentifier.not_isInteger {token : List Char} (h : IsIdentifier token) :
    ¬ IsInteger token :=
  IsIdentifier.not_isInteger_of_append ((List.append_nil token).symm ▸ h)

/-! ## The patterns of the two kinds -/

namespace Pattern

/-- The pattern of an integer accepts the integers. -/
theorem accepts_integer {token : List Char} : integer.Accepts token ↔ IsInteger token := by
  constructor
  · rintro ⟨_, digits, rfl, ⟨parts, rfl, hparts, -, hmost⟩, hne, hdigits⟩
    have hlength : parts.length ≤ 1 := hmost 1 rfl
    have hnumber : IsNumber digits := ⟨hne rfl, hdigits⟩
    match parts, hlength with
    | [], _ => exact Or.inl hnumber
    | [sign], _ =>
      obtain rfl : sign = ['-'] := hparts sign (List.mem_singleton_self sign)
      exact Or.inr ⟨digits, rfl, hnumber⟩
  · rintro (h | ⟨digits, rfl, h⟩)
    · exact ⟨[], token, rfl, ⟨[], rfl, List.forall_mem_nil _, Nat.zero_le _,
        fun most _ => Nat.zero_le _⟩, fun _ => h.1, h.2⟩
    · refine ⟨['-'], digits, rfl, ⟨[['-']], rfl, List.forall_mem_singleton.mpr rfl,
        Nat.zero_le _, ?_⟩, fun _ => h.1, h.2⟩
      intro most hmost
      obtain rfl : 1 = most := Option.some.inj hmost
      exact Nat.le_refl 1

/-- The pattern of an identifier accepts the identifiers. -/
theorem accepts_identifier {token : List Char} :
    identifier.Accepts token ↔ IsIdentifier token := by
  constructor
  · rintro ⟨_, rest, rfl, ⟨c, hc, rfl⟩, -, hrest⟩
    exact ⟨CharSet.contains_letter.mp hc,
      fun x hx => CharSet.contains_nameTail.mp (hrest x hx)⟩
  · intro h
    cases token with
    | nil => cases h
    | cons c rest =>
      exact ⟨[c], rest, rfl, ⟨c, CharSet.contains_letter.mpr h.1, rfl⟩,
        fun hfalse => Bool.noConfusion hfalse,
        fun x hx => CharSet.contains_nameTail.mpr (h.2 x hx)⟩

theorem accepts_blanks {s : List Char} :
    blanks.Accepts s ↔ ∀ c ∈ s, isWhiteSpace c = true :=
  ⟨And.right, fun h => ⟨fun hfalse => Bool.noConfusion hfalse, h⟩⟩

theorem accepts_gap {s : List Char} :
    gap.Accepts s ↔ s ≠ [] ∧ ∀ c ∈ s, isWhiteSpace c = true :=
  ⟨fun h => ⟨h.1 rfl, h.2⟩, fun h => ⟨fun _ => h.1, h.2⟩⟩

end Pattern

/-! ## Reading tokens -/

namespace Text

variable {inClass : Char → Bool} {run text : List Char}

/-- Characters outside the class, possibly none, and then a text. -/
theorem runs_append_of_not (h : ∀ c ∈ run, inClass c = false) :
    runs inClass (run ++ text) = runs inClass text := by
  induction run with
  | nil => rfl
  | cons c run ih =>
    obtain ⟨hc, hrun⟩ := List.forall_mem_cons.mp h
    rw [List.cons_append, runs_cons_of_not hc, ih hrun]

/-- A text that begins outside the class, or is over, leaves no run open. -/
theorem foldr_addToRun_fst (h : ∀ c ∈ text.head?, inClass c = false) :
    (text.foldr (addToRun inClass) (false, [])).1 = false := by
  cases text with
  | nil => rfl
  | cons c text =>
    have hc : inClass c = false := h c rfl
    simp [addToRun, hc]

/-- **A run in front of a text that begins outside the class** is the first run. -/
theorem runs_append_of_forall (hne : run ≠ []) (hrun : ∀ c ∈ run, inClass c = true)
    (h : ∀ c ∈ text.head?, inClass c = false) :
    runs inClass (run ++ text) = run :: runs inClass text := by
  have hstate : ∀ run : List Char, run ≠ [] → (∀ c ∈ run, inClass c = true) →
      (run ++ text).foldr (addToRun inClass) (false, []) = (true, run :: runs inClass text) := by
    intro run hne hrun
    induction run with
    | nil => exact absurd rfl hne
    | cons c run ih =>
      obtain ⟨hc, hrun⟩ := List.forall_mem_cons.mp hrun
      rw [List.cons_append, List.foldr_cons]
      by_cases hempty : run = []
      · subst hempty
        have hclosed : text.foldr (addToRun inClass) (false, []) = (false, runs inClass text) :=
          Prod.ext (foldr_addToRun_fst h) rfl
        rw [List.nil_append, hclosed]
        exact if_pos hc
      · rw [ih hempty hrun, addToRun, if_pos hc]
  rw [runs, hstate run hne hrun]

/-- Runs with a separator after each. -/
theorem runs_flatMap_concat {separator : Char} (hseparator : inClass separator = false)
    {found : List (List Char)} (h : ∀ word ∈ found, word ≠ [] ∧ ∀ c ∈ word, inClass c = true) :
    runs inClass (found.flatMap (· ++ [separator])) = found := by
  induction found with
  | nil => rfl
  | cons word found ih =>
    obtain ⟨⟨hne, hword⟩, hothers⟩ := List.forall_mem_cons.mp h
    have hhead : ∀ c ∈ (separator :: found.flatMap (· ++ [separator])).head?,
        inClass c = false := by
      intro c hc
      cases hc
      exact hseparator
    rw [List.flatMap_cons, List.append_assoc, List.singleton_append,
      runs_append_of_forall hne hword hhead, runs_cons_of_not hseparator, ih hothers]

/-- Characters outside the class at the end of a text. -/
theorem runs_append_of_not_after (h : ∀ c ∈ run, inClass c = false) :
    runs inClass (text ++ run) = runs inClass text := by
  have hnone : run.foldr (addToRun inClass) (false, []) = (false, []) := by
    induction run with
    | nil => rfl
    | cons c run ih =>
      obtain ⟨hc, hrun⟩ := List.forall_mem_cons.mp h
      rw [List.foldr_cons, ih hrun]
      simp [addToRun, hc]
  rw [runs, List.foldr_append, hnone, runs]

/-- White space at the end of a text holds no token either. -/
theorem tokens_append_blank (h : ∀ c ∈ run, isWhiteSpace c = true) :
    tokens (text ++ run) = tokens text :=
  runs_append_of_not_after fun c hc => by simp [h c hc]

/-- White space in front of a text holds no token. -/
theorem tokens_blank_append (h : ∀ c ∈ run, isWhiteSpace c = true) :
    tokens (run ++ text) = tokens text :=
  runs_append_of_not fun c hc => by simp [h c hc]

/-- **A token in front of white space, or of nothing, is the first one.** -/
theorem tokens_token_append (hne : run ≠ []) (hrun : ∀ c ∈ run, isWhiteSpace c = false)
    (h : ∀ c ∈ text.head?, isWhiteSpace c = true) :
    tokens (run ++ text) = run :: tokens text :=
  runs_append_of_forall hne (fun c hc => by simp [hrun c hc]) fun c hc => by simp [h c hc]

/-- **The first token of a text**: only white space stands before it, and white space or
nothing right after it. -/
def IsFirstToken (token text : List Char) : Prop :=
  ∃ blank rest, text = blank ++ (token ++ rest) ∧ (∀ c ∈ blank, isWhiteSpace c = true)
    ∧ token ≠ [] ∧ (∀ c ∈ token, isWhiteSpace c = false)
    ∧ ∀ c ∈ rest.head?, isWhiteSpace c = true

/-- Every text begins with a run of the class, possibly an empty one. -/
theorem exists_run (inClass : Char → Bool) (text : List Char) :
    ∃ run rest, text = run ++ rest ∧ (∀ c ∈ run, inClass c = true)
      ∧ ∀ c ∈ rest.head?, inClass c = false := by
  refine ⟨text.takeWhile inClass, text.dropWhile inClass,
    List.takeWhile_append_dropWhile.symm, fun c hc => List.mem_takeWhile_imp hc, ?_⟩
  intro c hc
  have hstop := List.head?_dropWhile_not inClass text
  rw [Option.mem_def.mp hc] at hstop
  exact hstop

/-- A run of the class in front of a text that begins outside the class is all that is taken. -/
theorem takeWhile_run_append {rest : List Char} (hrun : ∀ c ∈ run, inClass c = true)
    (hrest : ∀ c ∈ rest.head?, inClass c = false) : (run ++ rest).takeWhile inClass = run := by
  rw [List.takeWhile_append_of_pos hrun]
  cases rest with
  | nil => exact List.append_nil run
  | cons x rest =>
    rw [List.takeWhile_cons_of_neg (Bool.eq_false_iff.mp (hrest x rfl)), List.append_nil]

/-- **That run is determined**: it ends before the first character outside the class. -/
theorem run_append_inj {run run' rest rest' : List Char} (hrun : ∀ c ∈ run, inClass c = true)
    (hrun' : ∀ c ∈ run', inClass c = true) (hrest : ∀ c ∈ rest.head?, inClass c = false)
    (hrest' : ∀ c ∈ rest'.head?, inClass c = false) (h : run ++ rest = run' ++ rest') :
    run = run' ∧ rest = rest' := by
  obtain rfl : run = run' := by
    rw [← takeWhile_run_append hrun hrest, h, takeWhile_run_append hrun' hrest']
  exact ⟨rfl, List.append_cancel_left h⟩

theorem eq_of_run_append {run run' rest rest' : List Char} {x x' : Char}
    (hrun : ∀ c ∈ run, inClass c = true) (hrun' : ∀ c ∈ run', inClass c = true)
    (hx : inClass x = false) (hx' : inClass x' = false)
    (h : run ++ x :: rest = run' ++ x' :: rest') : run = run' ∧ x = x' ∧ rest = rest' := by
  have hhead : ∀ {x : Char} {rest : List Char}, inClass x = false →
      ∀ c ∈ (x :: rest).head?, inClass c = false := by
    intro x rest hx c hc
    cases hc
    exact hx
  obtain ⟨hsame, hrest⟩ := run_append_inj hrun hrun' (hhead hx) (hhead hx') h
  exact ⟨hsame, List.cons.inj hrest⟩

/-- The tokens of a text begin with its first token. -/
theorem head?_tokens_eq_some_iff {token text : List Char} :
    (tokens text).head? = some token ↔ IsFirstToken token text := by
  have hfirst : ∀ first, IsFirstToken first text → (tokens text).head? = some first := by
    rintro first ⟨blank, rest, rfl, hblank, hne, htoken, hrest⟩
    rw [tokens_blank_append hblank, tokens_token_append hne htoken hrest]
    rfl
  refine ⟨fun h => ?_, hfirst token⟩
  obtain ⟨blank, rest, rfl, hblank, hstart⟩ := exists_run isWhiteSpace text
  obtain ⟨first, after, rfl, htoken, hafter⟩ := exists_run (!isWhiteSpace ·) rest
  have htoken : ∀ c ∈ first, isWhiteSpace c = false := fun c hc => by simpa using htoken c hc
  have hafter : ∀ c ∈ after.head?, isWhiteSpace c = true := fun c hc => by simpa using hafter c hc
  by_cases hempty : first = []
  · -- neither white space nor a token can follow, so nothing does
    subst hempty
    cases after with
    | nil =>
      rw [tokens_blank_append hblank] at h
      cases h
    | cons c after =>
      have hcontra := hafter c rfl
      rw [hstart c rfl] at hcontra
      cases hcontra
  · have hsome : IsFirstToken first (blank ++ (first ++ after)) :=
      ⟨blank, after, rfl, hblank, hempty, htoken, hafter⟩
    obtain rfl : first = token := Option.some.inj ((hfirst first hsome).symm.trans h)
    exact hsome

/-! ## All tokens of a text -/

/-- **A text is read run by run.** What holds of a text without characters of the class, and of a
run with one of the other characters or nothing in front of it if it holds of what follows the
run, holds of every text. -/
@[elab_as_elim]
theorem runs_induction (inClass : Char → Bool) {motive : List Char → Prop}
    (outside : ∀ space, (∀ c ∈ space, inClass c = false) → motive space)
    (run : ∀ space run rest, (∀ c ∈ space, inClass c = false) → run ≠ [] →
      (∀ c ∈ run, inClass c = true) → (∀ c ∈ rest.head?, inClass c = false) →
        motive rest → motive (space ++ (run ++ rest)))
    (text : List Char) : motive text := by
  induction hlength : text.length using Nat.strongRecOn generalizing text with
  | ind length ih =>
    obtain ⟨space, others, rfl, hspace, hstart⟩ := exists_run (!inClass ·) text
    have hspace : ∀ c ∈ space, inClass c = false := fun c hc => by simpa using hspace c hc
    cases others with
    | nil =>
      rw [List.append_nil]
      exact outside space hspace
    | cons x others =>
      obtain ⟨word, rest, hsplit, hword, hrest⟩ := exists_run inClass (x :: others)
      -- the run is not empty, since what is outside the class has been skipped
      have hne : word ≠ [] := by
        rintro rfl
        rw [List.nil_append] at hsplit
        subst hsplit
        have hx : (!inClass x) = false := hstart x rfl
        rw [hrest x rfl] at hx
        cases hx
      rw [hsplit] at hlength ⊢
      refine run space word rest hspace hne hword hrest (ih rest.length ?_ rest rfl)
      have hpos := List.length_pos_iff.mpr hne
      rw [List.length_append, List.length_append] at hlength
      omega

/-- A text is read token by token, the tokens being its runs of other characters than white
space. -/
@[elab_as_elim]
theorem tokens_induction {motive : List Char → Prop}
    (blank : ∀ space, (∀ c ∈ space, isWhiteSpace c = true) → motive space)
    (token : ∀ space token rest, (∀ c ∈ space, isWhiteSpace c = true) → token ≠ [] →
      (∀ c ∈ token, isWhiteSpace c = false) → (∀ c ∈ rest.head?, isWhiteSpace c = true) →
        motive rest → motive (space ++ (token ++ rest)))
    (text : List Char) : motive text := by
  induction text using runs_induction fun c => !isWhiteSpace c with
  | outside space hspace => exact blank space fun c hc => by simpa using hspace c hc
  | run space word rest hspace hne hword hrest ih =>
    exact token space word rest (fun c hc => by simpa using hspace c hc) hne
      (fun c hc => by simpa using hword c hc) (fun c hc => by simpa using hrest c hc) ih

/-- Every character of a text is white space or stands in a token. -/
theorem isWhiteSpace_or_mem_tokens {c : Char} (hc : c ∈ text) :
    isWhiteSpace c = true ∨ ∃ token ∈ tokens text, c ∈ token := by
  induction text using tokens_induction with
  | blank space hspace => exact Or.inl (hspace c hc)
  | token space token rest hspace hne htoken hrest ih =>
    rw [tokens_blank_append hspace, tokens_token_append hne htoken hrest]
    rcases List.mem_append.mp hc with hc | hc
    · exact Or.inl (hspace c hc)
    · rcases List.mem_append.mp hc with hc | hc
      · exact Or.inr ⟨token, List.mem_cons_self, hc⟩
      · obtain hwhite | ⟨other, hother, hmem⟩ := ih hc
        · exact Or.inl hwhite
        · exact Or.inr ⟨other, List.mem_cons_of_mem _ hother, hmem⟩

/-- Only white space has no tokens. -/
theorem tokens_eq_nil_iff : tokens text = [] ↔ ∀ c ∈ text, isWhiteSpace c = true := by
  constructor
  · intro h c hc
    obtain hwhite | ⟨token, htoken, -⟩ := isWhiteSpace_or_mem_tokens hc
    · exact hwhite
    · rw [h] at htoken
      cases htoken
  · intro h
    rw [← List.append_nil text, tokens_blank_append h]
    rfl

/-- The characters of the tokens are those of the text. -/
theorem mem_of_mem_tokens {token : List Char} {c : Char} (htoken : token ∈ tokens text)
    (hc : c ∈ token) : c ∈ text := by
  induction text using tokens_induction with
  | blank space hspace =>
    rw [tokens_eq_nil_iff.mpr hspace] at htoken
    cases htoken
  | token space first rest hspace hne hfirst hrest ih =>
    rw [tokens_blank_append hspace, tokens_token_append hne hfirst hrest] at htoken
    refine List.mem_append_right space ?_
    rcases List.mem_cons.mp htoken with rfl | htoken
    · exact List.mem_append_left rest hc
    · exact List.mem_append_right first (ih htoken)

end Text

/-! ## Where a token ends -/

/-- White space, at least one character. -/
def Text.IsGap (s : List Char) : Prop :=
  s ≠ [] ∧ ∀ c ∈ s, isWhiteSpace c = true

section Ends

variable {name name' space space' rest rest' : List Char}

theorem not_isNameTail_of_isWhiteSpace {c : Char} (h : isWhiteSpace c = true) : ¬ IsNameTail c := by
  intro htail
  rw [isWhiteSpace_eq_false_of_isNameTail htail] at h
  cases h

/-- A gap begins with white space. -/
theorem Text.IsGap.head_append (h : IsGap space) :
    ∀ c ∈ (space ++ rest).head?, isWhiteSpace c = true := by
  intro c hc
  rw [List.head?_append_of_ne_nil _ h.1] at hc
  exact h.2 c (List.mem_of_mem_head? hc)

/-- A name ends before a gap. -/
theorem Text.IsGap.ends_name (h : IsGap space) : ∀ c ∈ (space ++ rest).head?, ¬ IsNameTail c :=
  fun c hc => not_isNameTail_of_isWhiteSpace (h.head_append c hc)

/-- **A gap ends before the first character that is not white space.** -/
theorem Text.IsGap.append_inj (h : IsGap space) (h' : IsGap space')
    (hrest : ∀ c ∈ rest.head?, isWhiteSpace c = false)
    (hrest' : ∀ c ∈ rest'.head?, isWhiteSpace c = false) (heq : space ++ rest = space' ++ rest') :
    space = space' ∧ rest = rest' :=
  run_append_inj h.2 h'.2 hrest hrest' heq

/-- An identifier does not begin with white space. -/
theorem IsIdentifier.head_append (h : IsIdentifier name) :
    ∀ c ∈ (name ++ rest).head?, isWhiteSpace c = false := by
  intro c hc
  rw [List.head?_append_of_ne_nil _ h.ne_nil] at hc
  exact h.not_isWhiteSpace c (List.mem_of_mem_head? hc)

/-- **An identifier ends before the first character that cannot stand in one.** -/
theorem IsIdentifier.append_inj (h : IsIdentifier name) (h' : IsIdentifier name')
    (hrest : ∀ c ∈ rest.head?, ¬ IsNameTail c) (hrest' : ∀ c ∈ rest'.head?, ¬ IsNameTail c)
    (heq : name ++ rest = name' ++ rest') : name = name' ∧ rest = rest' := by
  have hname : ∀ {name : List Char}, IsIdentifier name → ∀ c ∈ name, decide (IsNameTail c) = true :=
    fun h c hc => decide_eq_true (h.chars c hc)
  have hends : ∀ {rest : List Char}, (∀ c ∈ rest.head?, ¬ IsNameTail c) →
      ∀ c ∈ rest.head?, decide (IsNameTail c) = false :=
    fun hrest c hc => decide_eq_false (hrest c hc)
  exact Text.run_append_inj (hname h) (hname h') (hends hrest) (hends hrest') heq

end Ends

end TurtleAssist
