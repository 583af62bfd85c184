import Mathlib.Data.List.Basic
import Mathlib.Data.List.Infix
import TurtleAssist.Proofs.Completion.Snippet

/-!
# How an editor reads a snippet

An editor reads a snippet character by character. A dollar sign opens a placeholder, a closing
brace ends it, and a backslash takes the meaning from a dollar sign, a closing brace or a backslash
after it (`Snippet.read?`). Of the other forms that snippets may have none is ever written here, so
a dollar sign that does not open a numbered placeholder is refused.

What a placeholder shows is written as it is, and nothing in it is escaped. So what an editor shows
is not always what was meant. It is for texts in which no character has a meaning of its own: no
dollar sign, no closing brace, no two backslashes in a row and no backslash at the end
(`Snippet.IsLiteral`). For all others the editor shows something else, or does not read the text at
all (`Snippet.read?_write_iff`).

The harder direction is that no text in which something is escaped is shown as itself by chance. If
it were, what is read behind the first escape would be the rest of the text with a backslash more
in front, and then with another one, and so on. `Snippet.readShown_append_iff` says therefore more
than is asked: with backslashes in front, no text is shown as itself.
-/

namespace TurtleAssist

namespace Snippet

/-! ## The reader -/

/-- What an editor makes of a part of a snippet. -/
inductive Mark where
  | char (c : Char)
  | placeholder (number : Nat) (shown : String)
deriving DecidableEq, Repr

/-- The characters that have a meaning in a snippet, unless a backslash stands in front. -/
def escapable : List Char :=
  ['$', '\x7d', '\\']

mutual

/-- Reads a snippet outside of placeholders. A closing brace has nothing to end there. -/
def readText : List Char → Option (List Mark)
  | [] => some []
  | '\\' :: c :: rest =>
    if c ∈ escapable then (readText rest).map (.char c :: ·)
    else (readText (c :: rest)).map (.char '\\' :: ·)
  | '$' :: '\x7b' :: rest => readNumber none rest
  | c :: rest => if c = '$' then none else (readText rest).map (.char c :: ·)

/-- Reads the number of a placeholder, given the part that is read, up to the colon. -/
def readNumber (number : Option Nat) : List Char → Option (List Mark)
  | [] => none
  | c :: rest =>
    if c.isDigit then readNumber (some (Nat.ofDigitChars 10 [c] (number.getD 0))) rest
    else if c = ':' then
      number.bind fun number =>
        (readShown rest).map fun read => .placeholder number (String.ofList read.1) :: read.2
    else none

/-- Reads the text that a placeholder shows, up to the brace that ends it, and the rest of the
snippet. -/
def readShown : List Char → Option (List Char × List Mark)
  | [] => none
  | '\\' :: c :: rest =>
    if c ∈ escapable then (readShown rest).map fun read => (c :: read.1, read.2)
    else (readShown (c :: rest)).map fun read => ('\\' :: read.1, read.2)
  | c :: rest =>
    if c = '\x7d' then (readText rest).map ([], ·)
    else if c = '$' then none
    else (readShown rest).map fun read => (c :: read.1, read.2)

end

/-- **What an editor reads** when the text is inserted as a snippet. -/
def read? (text : String) : Option (List Mark) :=
  readText text.toList

/-- How a piece is meant to be read. -/
def Piece.marks : Piece → List Mark
  | .text literal => literal.toList.map .char
  | .placeholder number shown => [.placeholder number shown]

/-! ## Texts that stand for themselves -/

/-- **A text in which no character has a meaning of its own**: it holds no dollar sign and no
closing brace, and a backslash only in front of something else. -/
structure IsLiteral (text : List Char) : Prop where
  dollar : '$' ∉ text
  brace : '\x7d' ∉ text
  twice : ¬ ['\\', '\\'] <:+: text
  last : '\\' ∉ text.getLast?

instance (text : List Char) : Decidable (IsLiteral text) :=
  decidable_of_iff ('$' ∉ text ∧ '\x7d' ∉ text ∧ ¬ ['\\', '\\'] <:+: text ∧ '\\' ∉ text.getLast?)
    ⟨fun h => ⟨h.1, h.2.1, h.2.2.1, h.2.2.2⟩, fun h => ⟨h.dollar, h.brace, h.twice, h.last⟩⟩

variable {c : Char} {text rest shown : List Char} {marks : List Mark} {number : Nat}

theorem not_mem_escapable : c ∉ escapable ↔ c ≠ '$' ∧ c ≠ '\x7d' ∧ c ≠ '\\' := by
  simp [escapable]

theorem IsLiteral.of_cons (h : IsLiteral (c :: text)) : IsLiteral text := by
  refine ⟨List.not_mem_of_not_mem_cons h.dollar, List.not_mem_of_not_mem_cons h.brace,
    fun hin => h.twice (List.infix_cons hin), fun hlast => h.last ?_⟩
  rw [List.getLast?_cons, Option.mem_def.mp hlast]
  rfl

/-- A character without a meaning may be put in front. -/
theorem isLiteral_cons (h : c ∉ escapable) : IsLiteral (c :: text) ↔ IsLiteral text := by
  obtain ⟨hdollar, hbrace, hbackslash⟩ := not_mem_escapable.mp h
  refine ⟨IsLiteral.of_cons, fun hl => ⟨List.not_mem_cons_of_ne_of_not_mem hdollar.symm hl.dollar,
    List.not_mem_cons_of_ne_of_not_mem hbrace.symm hl.brace, fun hin => ?_, fun hlast => ?_⟩⟩
  · rcases List.infix_cons_iff.mp hin with hpre | hin
    · exact hbackslash (List.cons_prefix_cons.mp hpre).1.symm
    · exact hl.twice hin
  · cases text with
    | nil => exact hbackslash (Option.some.inj hlast)
    | cons d text => exact hl.last (by rwa [List.getLast?_cons_cons] at hlast)

theorem IsLiteral.of_forall (h : ∀ c ∈ text, c ∉ escapable) : IsLiteral text := by
  induction text with
  | nil => decide
  | cons c text ih =>
    obtain ⟨hc, htext⟩ := List.forall_mem_cons.mp h
    exact (isLiteral_cons hc).mpr (ih htext)

theorem eq_or_eq_of_mem_escapable (h : c ∈ escapable) (hc : c ≠ '\\') : c = '$' ∨ c = '\x7d' := by
  simpa [escapable, hc] using h

theorem not_isLiteral_cons (h : c ∈ escapable) (hc : c ≠ '\\') : ¬ IsLiteral (c :: text) := by
  intro hl
  rcases eq_or_eq_of_mem_escapable h hc with rfl | rfl
  · exact hl.dollar List.mem_cons_self
  · exact hl.brace List.mem_cons_self

/-- A backslash may be put in front of a character without a meaning. -/
theorem isLiteral_backslash_cons_cons :
    IsLiteral ('\\' :: c :: text) ↔ c ∉ escapable ∧ IsLiteral text := by
  constructor
  · intro hl
    have hc : c ∉ escapable := by
      refine not_mem_escapable.mpr ⟨?_, ?_, ?_⟩ <;> rintro rfl
      · exact hl.dollar (List.mem_cons_of_mem _ List.mem_cons_self)
      · exact hl.brace (List.mem_cons_of_mem _ List.mem_cons_self)
      · exact hl.twice ⟨[], text, rfl⟩
    exact ⟨hc, hl.of_cons.of_cons⟩
  · rintro ⟨hc, hl⟩
    obtain ⟨hdollar, hbrace, hbackslash⟩ := not_mem_escapable.mp hc
    have hl' := (isLiteral_cons hc).mpr hl
    refine ⟨List.not_mem_cons_of_ne_of_not_mem (by decide) hl'.dollar,
      List.not_mem_cons_of_ne_of_not_mem (by decide) hl'.brace, fun hin => ?_, fun hlast => ?_⟩
    · rcases List.infix_cons_iff.mp hin with hpre | hin
      · exact hbackslash
          (List.cons_prefix_cons.mp (List.cons_prefix_cons.mp hpre).2).1.symm
      · exact hl'.twice hin
    · exact hl'.last (by rwa [List.getLast?_cons_cons] at hlast)

/-! ## Reading what is written -/

theorem readText_cons (h : c ∉ escapable) :
    readText (c :: rest) = (readText rest).map (.char c :: ·) := by
  obtain ⟨hdollar, -, hbackslash⟩ := not_mem_escapable.mp h
  rw [readText, if_neg hdollar]
  · simp [hbackslash]
  · simp [hdollar]

theorem readShown_cons (h : c ∉ escapable) :
    readShown (c :: rest) = (readShown rest).map fun read => (c :: read.1, read.2) := by
  obtain ⟨hdollar, hbrace, hbackslash⟩ := not_mem_escapable.mp h
  rw [readShown, if_neg hbrace, if_neg hdollar]
  simp [hbackslash]

theorem readShown_backslash_cons (h : c ∉ escapable) :
    readShown ('\\' :: c :: rest)
      = (readShown (c :: rest)).map fun read => ('\\' :: read.1, read.2) := by
  rw [readShown, if_neg h]

theorem readShown_escape (h : c ∈ escapable) :
    readShown ('\\' :: c :: rest) = (readShown rest).map fun read => (c :: read.1, read.2) := by
  rw [readShown, if_pos h]

theorem readShown_brace : readShown ('\x7d' :: rest) = (readText rest).map ([], ·) := by
  rw [readShown, if_pos rfl]
  simp

theorem readShown_dollar : readShown ('$' :: rest) = none := by
  rw [readShown, if_neg (by decide), if_pos rfl]
  simp

/-- Characters without a meaning are read as themselves outside of placeholders. -/
theorem readText_append (h : ∀ c ∈ text, c ∉ escapable) :
    readText (text ++ rest) = (readText rest).map (text.map .char ++ ·) := by
  induction text with
  | nil => simp
  | cons c text ih =>
    obtain ⟨hc, htext⟩ := List.forall_mem_cons.mp h
    rw [List.cons_append, readText_cons hc, ih htext, Option.map_map]
    rfl

/-- The ways in which a text begins for a reader of what a placeholder shows. -/
theorem shown_induction {motive : List Char → Prop} (nil : motive [])
    (plain : ∀ c text, c ∉ escapable → motive text → motive (c :: text))
    (meant : ∀ c text, c ∈ escapable → c ≠ '\\' → motive (c :: text))
    (last : motive ['\\'])
    (escape : ∀ c text, c ∈ escapable → motive text → motive ('\\' :: c :: text))
    (backslash : ∀ c text, c ∉ escapable → motive text → motive ('\\' :: c :: text))
    (text : List Char) : motive text := by
  induction text using List.twoStepInduction with
  | nil => exact nil
  | singleton c =>
    by_cases hc : c ∈ escapable
    · by_cases hbackslash : c = '\\'
      · exact hbackslash ▸ last
      · exact meant c [] hc hbackslash
    · exact plain c [] hc nil
  | cons_cons c d text ih ih' =>
    by_cases hc : c ∈ escapable
    · by_cases hbackslash : c = '\\'
      · subst hbackslash
        by_cases hd : d ∈ escapable
        · exact escape d text hd ih
        · exact backslash d text hd ih
      · exact meant c (d :: text) hc hbackslash
    · exact plain c (d :: text) hc (ih' d)

theorem replicate_append_cons {count : Nat} :
    List.replicate count '\\' ++ '\\' :: text = '\\' :: (List.replicate count '\\' ++ text) := by
  rw [List.append_cons, ← List.replicate_succ', List.replicate_succ, List.cons_append]

/-- A character in front of what is shown. -/
theorem map_cons_eq_some_iff {read : Option (List Char × List Mark)} {d : Char} :
    (read.map fun read => (c :: read.1, read.2)) = some (d :: shown, marks)
      ↔ c = d ∧ read = some (shown, marks) := by
  cases read with
  | none => simp
  | some read => simp [Prod.ext_iff, and_assoc]

/-- A character that is no backslash does not stand behind backslashes. -/
theorem map_cons_eq_replicate_iff {read : Option (List Char × List Mark)} {count : Nat}
    (h : c ≠ '\\') :
    (read.map fun read => (c :: read.1, read.2))
        = some (List.replicate count '\\' ++ c :: shown, marks)
      ↔ count = 0 ∧ read = some (shown, marks) := by
  cases count with
  | zero => exact map_cons_eq_some_iff.trans (and_congr_left' (iff_of_true rfl rfl))
  | succ count =>
    rw [List.replicate_succ, List.cons_append, map_cons_eq_some_iff]
    exact iff_of_false (fun hsame => h hsame.1) fun hzero => Nat.succ_ne_zero count hzero.1

/-- **A text is shown as itself exactly if it is literal**, and with backslashes in front it never
is. -/
theorem readShown_append_iff {count : Nat} :
    readShown (text ++ '\x7d' :: rest) = some (List.replicate count '\\' ++ text, marks)
      ↔ count = 0 ∧ IsLiteral text ∧ readText rest = some marks := by
  induction text using shown_induction generalizing count with
  | nil =>
    have hnil : IsLiteral [] := by decide
    rw [List.nil_append, readShown_brace, List.append_nil, Option.map_eq_some_iff,
      and_iff_right hnil]
    simp only [Prod.mk.injEq, List.nil_eq, List.replicate_eq_nil_iff]
    constructor
    · rintro ⟨read, hread, hcount, rfl⟩
      exact ⟨hcount, hread⟩
    · rintro ⟨hcount, hread⟩
      exact ⟨marks, hread, hcount, rfl⟩
  | plain c text hc ih =>
    rw [List.cons_append, readShown_cons hc, isLiteral_cons hc,
      map_cons_eq_replicate_iff (not_mem_escapable.mp hc).2.2]
    exact and_congr_right fun _ => (@ih 0).trans (and_iff_right rfl)
  | meant c text hc hbackslash =>
    rw [List.cons_append]
    refine iff_of_false (fun h => ?_) fun h => not_isLiteral_cons hc hbackslash h.2.1
    rcases eq_or_eq_of_mem_escapable hc hbackslash with rfl | rfl
    · rw [readShown_dollar] at h
      cases h
    · rw [readShown_brace] at h
      obtain ⟨read, -, hread⟩ := Option.map_eq_some_iff.mp h
      exact List.append_ne_nil_of_right_ne_nil _ (List.cons_ne_nil _ _)
        (congrArg Prod.fst hread).symm
  | last =>
    refine iff_of_false (fun h => ?_) fun h => absurd h.2.1 (by decide)
    rw [List.cons_append, List.nil_append, readShown_escape (by decide), replicate_append_cons,
      map_cons_eq_some_iff] at h
    exact absurd h.1 (by decide)
  | escape c text hc ih =>
    rw [List.cons_append, List.cons_append, readShown_escape hc, replicate_append_cons,
      map_cons_eq_some_iff, isLiteral_backslash_cons_cons]
    refine iff_of_false ?_ fun h => h.2.1.1 hc
    -- the character is a backslash, and then one more of them stands in front of the rest
    rintro ⟨rfl, h⟩
    rw [replicate_append_cons, ← List.cons_append, ← List.replicate_succ] at h
    exact Nat.succ_ne_zero count (ih.mp h).1
  | backslash c text hc ih =>
    rw [List.cons_append, List.cons_append, readShown_backslash_cons hc, readShown_cons hc,
      isLiteral_backslash_cons_cons, and_iff_right hc, replicate_append_cons,
      map_cons_eq_some_iff, and_iff_right rfl,
      map_cons_eq_replicate_iff (not_mem_escapable.mp hc).2.2]
    exact and_congr_right fun _ => (@ih 0).trans (and_iff_right rfl)

theorem readNumber_append_some (h : ∀ c ∈ text, c.isDigit = true) :
    readNumber (some number) (text ++ ':' :: rest)
      = (readShown rest).map fun read =>
          .placeholder (Nat.ofDigitChars 10 text number) (String.ofList read.1) :: read.2 := by
  induction text generalizing number with
  | nil =>
    rw [List.nil_append, readNumber, if_neg (by decide), if_pos rfl]
    rfl
  | cons c text ih =>
    obtain ⟨hc, htext⟩ := List.forall_mem_cons.mp h
    rw [List.cons_append, readNumber, if_pos hc]
    exact ih htext

/-- The number of a placeholder is read up to the colon. -/
theorem readNumber_append (number : Nat) :
    readNumber none ((toString number).toList ++ ':' :: rest)
      = (readShown rest).map fun read =>
          .placeholder number (String.ofList read.1) :: read.2 := by
  have hdigits : (toString number).toList = Nat.toDigits 10 number := Nat.toList_repr
  have hvalue := Nat.ofDigitChars_toDigits (n := number) (b := 10) (by decide) (by decide)
  have hall : ∀ c ∈ Nat.toDigits 10 number, c.isDigit = true :=
    fun c hc => Nat.isDigit_of_mem_toDigits (by decide) (by decide) hc
  have hpos : Nat.toDigits 10 number ≠ [] := List.ne_nil_of_length_pos Nat.length_toDigits_pos
  rw [hdigits]
  generalize Nat.toDigits 10 number = digits at hvalue hall hpos
  obtain ⟨c, digits, rfl⟩ := List.exists_cons_of_ne_nil hpos
  obtain ⟨hc, hothers⟩ := List.forall_mem_cons.mp hall
  rw [List.cons_append, readNumber, if_pos hc, readNumber_append_some hothers, ← hvalue]
  rfl

/-- **A placeholder is read as it is meant exactly if its text is literal.** -/
theorem readText_placeholder_append_iff {shown : String} :
    readText ((placeholder number shown).toList ++ rest)
        = some (.placeholder number shown :: marks)
      ↔ IsLiteral shown.toList ∧ readText rest = some marks := by
  have hwritten : (placeholder number shown).toList ++ rest
      = '$' :: '\x7b' :: ((toString number).toList ++ ':' :: (shown.toList ++ '\x7d' :: rest)) := by
    simp [placeholder]
  have hshown : readShown (shown.toList ++ '\x7d' :: rest) = some (shown.toList, marks)
      ↔ IsLiteral shown.toList ∧ readText rest = some marks :=
    (@readShown_append_iff _ _ _ 0).trans (and_iff_right rfl)
  rw [hwritten, readText, readNumber_append, Option.map_eq_some_iff, ← hshown]
  constructor
  · rintro ⟨read, hread, hmarks⟩
    obtain ⟨hfirst, hrest⟩ := List.cons.inj hmarks
    obtain rfl : String.ofList read.1 = shown := (Mark.placeholder.inj hfirst).2
    rw [hread, ← hrest, String.toList_ofList]
  · intro hread
    exact ⟨_, hread, by rw [String.ofList_toList]⟩

/-- **Pieces are read as they are meant exactly if what their placeholders show is literal**, when
the texts between them hold no character with a meaning. -/
theorem read?_write_iff {pieces : List Piece}
    (h : ∀ literal, .text literal ∈ pieces → ∀ c ∈ literal.toList, c ∉ escapable) :
    read? (write pieces) = some (pieces.flatMap Piece.marks)
      ↔ ∀ number shown, .placeholder number shown ∈ pieces → IsLiteral shown.toList := by
  unfold read? write
  rw [String.toList_join, List.flatMap_map]
  induction pieces with
  | nil => simp [readText]
  | cons piece pieces ih =>
    have hpieces := ih fun literal hmem => h literal (List.mem_cons_of_mem piece hmem)
    rw [List.flatMap_cons, List.flatMap_cons]
    cases piece with
    | text literal =>
      have hliteral := @readText_append _ (pieces.flatMap fun piece => piece.written.toList)
        (h literal List.mem_cons_self)
      show readText (literal.toList ++ _) = some (literal.toList.map .char ++ _) ↔ _
      rw [hliteral, Option.map_eq_some_iff]
      simpa using hpieces
    | placeholder number shown =>
      refine readText_placeholder_append_iff.trans ((and_congr_right' hpieces).trans ?_)
      simp [or_imp, forall_and]

/-- The placeholders of a call show its arguments. -/
theorem exists_placeholder_mem_callPieces_iff {name : String} {args : List String}
    {shown : String} :
    (∃ number, .placeholder number shown ∈ callPieces name args) ↔ shown ∈ args := by
  simp only [callPieces, List.mem_cons, List.mem_append, List.mem_flatMap, reduceCtorEq, false_or,
    List.not_mem_nil, or_false, Piece.placeholder.injEq]
  constructor
  · rintro ⟨number, ⟨arg, index⟩, hmem, -, rfl⟩
    exact List.mem_of_getElem? (List.mem_zipIdx_iff_getElem?.mp hmem)
  · intro hmem
    obtain ⟨index, hindex⟩ := List.mem_iff_getElem?.mp hmem
    exact ⟨index + 1, (shown, index), List.mem_zipIdx_iff_getElem?.mpr hindex, rfl, rfl⟩

/-- The texts between them are the parenthesis with the name, spaces, and a parenthesis. -/
theorem eq_of_text_mem_callPieces {name : String} {args : List String} {literal : String}
    (h : .text literal ∈ callPieces name args) :
    literal = "(" ++ name ∨ literal = " " ∨ literal = ")" := by
  simp only [callPieces, List.mem_cons, List.mem_append, List.mem_flatMap, reduceCtorEq, or_false,
    List.not_mem_nil, Piece.text.injEq] at h
  rcases h with rfl | ⟨_, -, rfl⟩ | rfl
  · exact Or.inl rfl
  · exact Or.inr (Or.inl rfl)
  · exact Or.inr (Or.inr rfl)

/-- **A call is read as it is meant exactly if its arguments are literal.** -/
theorem read?_call_iff {name : String} {args : List String}
    (h : ∀ c ∈ name.toList, c ∉ escapable) :
    read? (call name args) = some ((callPieces name args).flatMap Piece.marks)
      ↔ ∀ arg ∈ args, IsLiteral arg.toList := by
  rw [← write_callPieces, read?_write_iff]
  · simp only [← @exists_placeholder_mem_callPieces_iff name, forall_exists_index]
    exact forall_comm
  · intro literal hliteral
    rcases eq_of_text_mem_callPieces hliteral with rfl | rfl | rfl
    · rw [String.toList_append]
      exact List.forall_mem_cons.mpr ⟨by decide, h⟩
    · exact List.forall_mem_singleton.mpr (by decide)
    · exact List.forall_mem_singleton.mpr (by decide)

end Snippet

end TurtleAssist
