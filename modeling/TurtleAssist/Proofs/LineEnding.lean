import Mathlib.Data.List.Basic
import TurtleAssist.Catalog.Turtle
import TurtleAssist.Completion.Basic
import TurtleAssist.Diagnostic.Engine
import TurtleAssist.Proofs.Text.Line

/-!
# The two kinds of line endings

An editor may end the lines of a document with a line feed, or with a carriage return and a
line feed. `withReturns` turns the first kind of document into the second, and
`unchanged_withReturns` says that nothing that is found in a document, offered for it or
reported of it depends on the kind.

A document is read in two ways, and each way has its own reason. Its lines are taken without
their endings, so both documents have the same lines (`lines_flatMap_withReturn`), and with
them the same matches, columns and line numbers. Its words are taken from the whole text,
endings included; there it matters that a line feed separates words and that a carriage return
does too (`pieces_flatMap_withReturn`).
-/

namespace TurtleAssist

namespace Text

/-- A character, with a carriage return in front of it if it is a line feed. -/
def withReturn (c : Char) : List Char :=
  if c = '\n' then ['\r', '\n'] else [c]

/-- **The document with the other line endings**: a carriage return stands in front of each
line feed. -/
def withReturns (text : String) : String :=
  String.ofList (text.toList.flatMap withReturn)

/-- A text without carriage returns of its own keeps its lines. -/
theorem lines_flatMap_withReturn {text : List Char} (h : '\r' ∉ text) :
    lines (text.flatMap withReturn) = lines text := by
  induction text with
  | nil => rfl
  | cons c text ih =>
    have hkept := ih (List.not_mem_of_not_mem_cons h)
    rw [List.flatMap_cons]
    by_cases hfeed : c = '\n'
    · subst hfeed
      show lines ('\r' :: '\n' :: text.flatMap withReturn) = lines ('\n' :: text)
      rw [lines_return_feed, lines_feed, hkept]
    · have hreturn : c ≠ '\r' := fun heq => h (heq ▸ List.mem_cons_self)
      rw [withReturn, if_neg hfeed]
      show lines (c :: text.flatMap withReturn) = lines (c :: text)
      rw [lines_cons hfeed hreturn, lines_cons hfeed hreturn, hkept]

/-- A text keeps its pieces if it is split at both characters of a line ending. -/
theorem pieces_flatMap_withReturn {separates : Char → Bool} (hreturn : separates '\r' = true)
    (hfeed : separates '\n' = true) (text : List Char) :
    pieces separates (text.flatMap withReturn) = pieces separates text := by
  -- both characters end the piece in front of them, and ending it twice is ending it once
  have hstate : (text.flatMap withReturn).foldr (addToPieces separates) (false, [[]])
      = text.foldr (addToPieces separates) (false, [[]]) := by
    induction text with
    | nil => rfl
    | cons c text ih =>
      rw [List.flatMap_cons, List.foldr_append, ih, List.foldr_cons]
      by_cases hc : c = '\n'
      · subst hc
        have hpair : withReturn '\n' = ['\r', '\n'] := rfl
        rw [hpair, List.foldr_cons, List.foldr_cons, List.foldr_nil,
          addToPieces_of_separates hreturn, addToPieces_of_separates hfeed]
        rfl
      · simp [withReturn, hc]
  rw [pieces, hstate, pieces]

theorem lines_withReturns {text : String} (h : '\r' ∉ text.toList) :
    lines (withReturns text).toList = lines text.toList := by
  rw [withReturns, String.toList_ofList, lines_flatMap_withReturn h]

end Text

open Text (withReturns lines_withReturns)

section

variable {catalog : Catalog} {text : String}

/-- The identifiers of a document are read off its lines. -/
theorem classify_withReturns (h : '\r' ∉ text.toList) :
    classify catalog (withReturns text) = classify catalog text := by
  unfold classify
  rw [lines_withReturns h]

/-- Its words are not, and would be the same with returns anywhere. -/
theorem words_withReturns (text : String) (identifiers : List Identifier) :
    words catalog (withReturns text) identifiers = words catalog text identifiers := by
  have hpieces : Text.pieces (fun c => !Unicode.isWordCharacter c) (withReturns text).toList
      = Text.pieces (fun c => !Unicode.isWordCharacter c) text.toList := by
    rw [withReturns, String.toList_ofList,
      Text.pieces_flatMap_withReturn (by decide +kernel) (by decide +kernel)]
  unfold words
  rw [hpieces]

end

/-- **Line endings do not matter.** A document that ends its lines with line feeds and one that
ends the same lines with carriage returns and line feeds have the same identifiers, with the
same line numbers, parameters and signatures, the same free words and the same completions,
and every engine reports the same of them, in the same lines and columns. -/
theorem unchanged_withReturns {text : String} (h : '\r' ∉ text.toList) (catalog : Catalog) :
    classify catalog (withReturns text) = classify catalog text
      ∧ words catalog (withReturns text) (classify catalog (withReturns text))
        = words catalog text (classify catalog text)
      ∧ complete catalog (withReturns text) = complete catalog text
      ∧ ∀ engine : Engine, engine.diagnose (withReturns text) = engine.diagnose text := by
  have hclassify : ∀ catalog, classify catalog (withReturns text) = classify catalog text :=
    fun _ => classify_withReturns h
  refine ⟨hclassify catalog, ?_, ?_, fun engine => ?_⟩
  · rw [hclassify, words_withReturns]
  · unfold complete Completion.tiers
    simp only [hclassify, words_withReturns]
  · unfold Engine.diagnose
    rw [hclassify, lines_withReturns h]

/-- A signed function and a call of it, with the last line ended or not. -/
theorem unchanged_withReturns_signed :
    let text := "; @signature - leap integer \n(define (leap n) n)\n\n( leap 2)"
    '\r' ∉ text.toList
      ∧ withReturns text = "; @signature - leap integer \r\n(define (leap n) n)\r\n\r\n( leap 2)"
      ∧ classify Catalog.turtle (withReturns text) = classify Catalog.turtle text
      ∧ complete Catalog.turtle (withReturns text) = complete Catalog.turtle text
      ∧ ∀ engine : Engine, engine.diagnose (withReturns text) = engine.diagnose text := by
  intro text
  have h : '\r' ∉ text.toList := by decide +kernel
  obtain ⟨hclassify, -, hcomplete, hdiagnose⟩ := unchanged_withReturns h Catalog.turtle
  exact ⟨h, by decide +kernel, hclassify, hcomplete, hdiagnose⟩

end TurtleAssist
