import Mathlib.Data.List.Basic
import TurtleAssist.Catalog.Turtle
import TurtleAssist.Proofs.Completion.FreeWord
import TurtleAssist.Proofs.Completion.Precedence
import TurtleAssist.Proofs.Completion.Template
import TurtleAssist.Server.Message

/-!
# What is found in a document is inserted as it stands

An editor is told of every item whether its text is a snippet. The server looks for a dollar sign in
the text, and does not ask where the text comes from. For what the catalog lists that is no matter,
but the names and words of a document are whatever the user has typed.

It works since no name and no word can hold a dollar sign: none of the patterns that capture names
has a use for one, and it is no word character. So an item that was found in a document is a snippet
exactly if it has placeholders, and these are written for the parameters of functions only
(`format_found`).
-/

namespace TurtleAssist

namespace Snippet

variable {text name : String} {args : List String}

theorem hasPlaceholder_iff : hasPlaceholder text = true ↔ '$' ∈ text.toList :=
  List.contains_iff_mem

theorem call_nil (name : String) : call name [] = "(" ++ name ++ ")" := by
  simp [call]

/-- **A call has placeholders exactly if it has arguments**, unless the name holds a dollar sign. -/
theorem hasPlaceholder_call_iff (h : '$' ∉ name.toList) :
    hasPlaceholder (call name args) = true ↔ args ≠ [] := by
  rw [hasPlaceholder_iff, ← write_callPieces, write, String.toList_join, List.flatMap_map,
    List.mem_flatMap]
  constructor
  · rintro ⟨piece, hpiece, hdollar⟩
    cases piece with
    | text literal =>
      rcases eq_of_text_mem_callPieces hpiece with rfl | rfl | rfl
      · rw [Piece.written, String.toList_append] at hdollar
        exact absurd hdollar (List.not_mem_cons_of_ne_of_not_mem (by decide) h)
      · exact absurd hdollar (by decide)
      · exact absurd hdollar (by decide)
    | placeholder number shown =>
      exact List.ne_nil_of_mem (exists_placeholder_mem_callPieces_iff.mp ⟨number, hpiece⟩)
  · intro hargs
    obtain ⟨arg, harg⟩ := List.exists_mem_of_ne_nil args hargs
    obtain ⟨number, hpiece⟩ := (@exists_placeholder_mem_callPieces_iff name _ _).mpr harg
    refine ⟨_, hpiece, ?_⟩
    simp [Piece.written, placeholder]

end Snippet

section Documents

variable {catalog : Catalog} {text : String} {identifier : Identifier} {word : String}

/-- The entry of an identifier has placeholders exactly if it is that of a function with
parameters. -/
theorem hasPlaceholder_ofIdentifier_iff (h : identifier ∈ classify catalog text) :
    Snippet.hasPlaceholder (Entry.ofIdentifier identifier).insertText = true
      ↔ identifier.role = .function ∧ identifier.args ≠ [] := by
  have hname : '$' ∉ identifier.name.toList :=
    fun hmem => not_mem_escapable_of_mem_classify h _ hmem (by decide)
  show Snippet.hasPlaceholder (if identifier.role = .function then _ else _) = true ↔ _
  by_cases hrole : identifier.role = .function
  · rw [if_pos hrole, and_iff_right hrole]
    exact Snippet.hasPlaceholder_call_iff hname
  · rw [if_neg hrole, Snippet.hasPlaceholder_iff]
    exact iff_of_false hname fun hfunction => hrole hfunction.1

/-- The entry of a word has no placeholders, since a dollar sign is no word character. -/
theorem hasPlaceholder_ofWord {identifiers : List Identifier}
    (h : word ∈ words catalog text identifiers) :
    Snippet.hasPlaceholder (Entry.ofWord word).insertText = false := by
  obtain ⟨⟨start, -, -, -, -, -, hword, -⟩, -⟩ := mem_words_iff.mp h
  refine Bool.eq_false_iff.mpr fun hplaceholder => ?_
  exact absurd (hword '$' (Snippet.hasPlaceholder_iff.mp hplaceholder)) (by decide)

end Documents

namespace Server

open Completion

variable {catalog : Catalog} {text : String} {item : CompletionItem}

theorem format_eq_snippet_iff (h : item ∈ completionItems catalog text) :
    item.format = .snippet ↔ Snippet.hasPlaceholder item.entry.insertText = true := by
  obtain ⟨⟨entry, rank⟩, -, rfl⟩ := List.mem_map.mp h
  simp [CompletionItem.ofEntry]

theorem format_eq_plainText_iff (h : item ∈ completionItems catalog text) :
    item.format = .plainText ↔ Snippet.hasPlaceholder item.entry.insertText = false := by
  obtain ⟨⟨entry, rank⟩, -, rfl⟩ := List.mem_map.mp h
  simp [CompletionItem.ofEntry]

/-- **What is found in a document is inserted as it stands.** An item for an identifier or a word
is a snippet exactly if it is the one of a function with parameters. Of the others, functions
are inserted between parentheses, and variables, colors, vectors and words are inserted as they
are labelled. -/
theorem format_found (catalog : Catalog) (text : String) :
    let found := classify catalog text
    let extracted := words catalog text found
    ∀ item ∈ completionItems catalog text,
      (item.entry ∈ identifiers found ∨ item.entry ∈ freeWords extracted →
        (item.format = .snippet ↔ ∃ identifier ∈ found, item.entry = .ofIdentifier identifier
          ∧ identifier.role = .function ∧ identifier.args ≠ []))
      ∧ (∀ identifier ∈ found, item.entry = .ofIdentifier identifier →
          (identifier.role ≠ .function →
            item.format = .plainText ∧ item.entry.insertText = item.entry.label)
          ∧ (identifier.role = .function → identifier.args = [] →
            item.format = .plainText
              ∧ item.entry.insertText = "(" ++ item.entry.label ++ ")"))
      ∧ ∀ word ∈ extracted, item.entry = .ofWord word →
          item.format = .plainText ∧ item.entry.insertText = item.entry.label := by
  intro found extracted item hitem
  rw [format_eq_snippet_iff hitem, format_eq_plainText_iff hitem]
  refine ⟨fun hentry => ⟨fun hplaceholder => ?_, ?_⟩, fun identifier hidentifier hentry => ?_,
    fun word hword hentry => ?_⟩
  · rcases hentry with hentry | hentry
    · obtain ⟨identifier, hidentifier, hentry⟩ := List.mem_map.mp hentry
      rw [← hentry] at hplaceholder ⊢
      exact ⟨identifier, hidentifier, rfl, (hasPlaceholder_ofIdentifier_iff hidentifier).mp
        hplaceholder⟩
    · obtain ⟨word, hword, hentry⟩ := List.mem_map.mp hentry
      rw [← hentry, hasPlaceholder_ofWord hword] at hplaceholder
      cases hplaceholder
  · rintro ⟨identifier, hidentifier, hentry, hfunction⟩
    rw [hentry]
    exact (hasPlaceholder_ofIdentifier_iff hidentifier).mpr hfunction
  · have hplain : ¬ (identifier.role = .function ∧ identifier.args ≠ []) →
        Snippet.hasPlaceholder (Entry.ofIdentifier identifier).insertText = false :=
      fun hnone => Bool.eq_false_iff.mpr
        fun htrue => hnone ((hasPlaceholder_ofIdentifier_iff hidentifier).mp htrue)
    rw [hentry]
    refine ⟨fun hrole => ⟨hplain fun h => hrole h.1, if_neg hrole⟩,
      fun hrole hargs => ⟨hplain fun h => h.2 hargs, ?_⟩⟩
    show (if identifier.role = .function then Snippet.call _ identifier.args else _) = _
    rw [if_pos hrole, hargs]
    exact Snippet.call_nil identifier.name
  · rw [hentry]
    exact ⟨hasPlaceholder_ofWord hword, rfl⟩

/-- An entry that is found has an item, if its label is not reserved. -/
theorem exists_item_of_mem_foundTiers {entry : Entry} (h : entry ∈ foundTiers catalog text)
    (hfree : ¬ IsReserved catalog entry.label) :
    ∃ item ∈ completionItems catalog text, item.entry = entry := by
  obtain ⟨rank, hrank⟩ := List.mem_iff_getElem?.mp (mem_complete_of_mem_foundTiers h hfree)
  exact ⟨.ofEntry entry rank, List.mem_map.mpr ⟨(entry, rank),
    List.mem_zipIdx_iff_getElem?.mpr hrank, rfl⟩, rfl⟩

/-- Two functions, a variable and a word. -/
theorem format_found_tree :
    let text := "(define (hop a) 1)\n(define (rest) (up))\n(define x 5)\ntree"
    let items := completionItems Catalog.turtle text
    (∃ item ∈ items, item.entry.label = "hop" ∧ item.format = .snippet)
      ∧ (∃ item ∈ items, item.entry.label = "rest" ∧ item.format = .plainText
          ∧ item.entry.insertText = "(rest)")
      ∧ (∃ item ∈ items, item.entry.label = "x" ∧ item.format = .plainText
          ∧ item.entry.insertText = "x")
      ∧ (∃ item ∈ items, item.entry.label = "tree" ∧ item.format = .plainText
          ∧ item.entry.insertText = "tree") := by
  intro text items
  let hop : Identifier :=
    { name := "hop", role := .function, description := Role.function.description, args := ["a"] }
  let rest : Identifier :=
    { name := "rest", role := .function, description := Role.function.description, line := 1 }
  let x : Identifier :=
    { name := "x", role := .variable, description := Role.variable.description, line := 2 }
  have hlines : Text.lines text.toList
      = ["(define (hop a) 1)".toList, "(define (rest) (up))".toList, "(define x 5)".toList,
        "tree".toList] := by
    decide +kernel
  have hclassify : classify Catalog.turtle text = [hop, rest, x] := by
    rw [classify_of_nodup hlines (by decide) (by decide +kernel)]
    decide +kernel
  have hword : "tree" ∈ words Catalog.turtle text (classify Catalog.turtle text) := by
    have hchars : "tree".toList.all Unicode.isWordCharacter = true := by decide
    have hfeed : (text.toList.take 53).getLast? = some '\n' := by decide +kernel
    refine mem_words_iff.mpr ⟨⟨53, text.toList.take 53, [], by decide +kernel, by decide +kernel,
      by decide, List.all_eq_true.mp hchars, fun c hc => ?_, nofun⟩, ?_⟩
    · obtain rfl : '\n' = c := Option.some.inj (hfeed.symm.trans hc)
      decide
    · rw [hclassify]
      decide +kernel
  have hitem : ∀ identifier ∈ classify Catalog.turtle text,
      ¬ IsReserved Catalog.turtle identifier.name →
        ∃ item ∈ items, item.entry = .ofIdentifier identifier := fun _ hidentifier hfree =>
    exists_item_of_mem_foundTiers (List.mem_append_left _ (List.mem_map_of_mem hidentifier)) hfree
  have hhop : hop ∈ classify Catalog.turtle text := by simp [hclassify]
  have hrest : rest ∈ classify Catalog.turtle text := by simp [hclassify]
  have hx : x ∈ classify Catalog.turtle text := by simp [hclassify]
  refine ⟨?_, ?_, ?_, ?_⟩
  · obtain ⟨⟨_, format, key⟩, hmem, rfl⟩ := hitem hop hhop (by decide +kernel)
    have hsnippet := (format_found Catalog.turtle text _ hmem).1
      (Or.inl (List.mem_map_of_mem hhop))
    exact ⟨_, hmem, rfl, hsnippet.mpr ⟨hop, hhop, rfl, rfl, by decide⟩⟩
  · obtain ⟨⟨_, format, key⟩, hmem, rfl⟩ := hitem rest hrest (by decide +kernel)
    exact ⟨_, hmem, rfl, ((format_found Catalog.turtle text _ hmem).2.1 rest hrest rfl).2 rfl rfl⟩
  · obtain ⟨⟨_, format, key⟩, hmem, rfl⟩ := hitem x hx (by decide +kernel)
    exact ⟨_, hmem, rfl, ((format_found Catalog.turtle text _ hmem).2.1 x hx rfl).1 (by decide)⟩
  · obtain ⟨⟨_, format, key⟩, hmem, rfl⟩ := exists_item_of_mem_foundTiers
      (List.mem_append_right _ (List.mem_map_of_mem hword)) (by decide +kernel)
    exact ⟨_, hmem, rfl, (format_found Catalog.turtle text _ hmem).2.2 "tree" hword rfl⟩

end Server

end TurtleAssist
