import Mathlib.Data.List.Basic
import TurtleAssist.Completion.FreeWord
import TurtleAssist.Proofs.Distinct
import TurtleAssist.Proofs.Identifier.FirstAppearance
import TurtleAssist.Proofs.Text.Run

/-!
# The free words of a document are its maximal runs

A word of a document is a run of word characters that cannot be made longer, wherever in the
document it stands (`IsWordAt`). Words that are names already, of the catalog or of an identifier,
are taken. `words_exact` says that the others are extracted, and nothing else: each of them once,
in the order in which they first appear.

The extraction splits the document and drops the pieces without a character; what is left are its
runs (`filter_pieces_eq_runs`). The runs come with their places (`Text.exists_placed_runs`), in
order, and the filters of the extraction leave this order alone. So the place of a word that is kept is the first one
of that word, and the words that are kept are in the order of these places.
-/

namespace TurtleAssist

open Text (IsRunAt)

/-- **A word of a document at a place**: a run of word characters that cannot be made longer. -/
def IsWordAt (text : String) (start : Nat) (word : String) : Prop :=
  IsRunAt Unicode.isWordCharacter text.toList start word.toList

/-- A word that is the name of a command, a keyword or a variable, or of an identifier. -/
def IsTaken (catalog : Catalog) (identifiers : List Identifier) (word : String) : Prop :=
  word ∈ catalog.ownNames ∨ word ∈ identifiers.map Identifier.name

instance (catalog : Catalog) (identifiers : List Identifier) (word : String) :
    Decidable (IsTaken catalog identifiers word) :=
  inferInstanceAs (Decidable (_ ∨ _))

variable {catalog : Catalog} {text : String} {identifiers : List Identifier}

/-- The pieces of a text that have a character are its runs of word characters. -/
theorem filter_pieces_eq_runs (text : List Char) :
    ((Text.pieces (fun c => !Unicode.isWordCharacter c) text).map String.ofList).filter
        (fun piece => !piece.isEmpty)
      = (Text.runs Unicode.isWordCharacter text).map String.ofList := by
  have hempty : (fun piece : String => !piece.isEmpty) ∘ String.ofList
      = fun piece => !piece.isEmpty := by
    funext piece
    cases piece with
    | nil => rfl
    | cons c piece => simp
  rw [List.filter_map, hempty, Text.filter_pieces]
  simp only [Bool.not_not]

/-- The free words are the runs of the text that are not taken, without repetitions. -/
theorem words_eq_distinctBy {placed : List (Nat × List Char)}
    (hruns : placed.map Prod.snd = Text.runs Unicode.isWordCharacter text.toList) :
    words catalog text identifiers
      = (distinctBy (fun entry => String.ofList entry.2)
          (placed.filter fun entry =>
            decide (¬ IsTaken catalog identifiers (String.ofList entry.2)))).map
        fun entry => String.ofList entry.2 := by
  have hfree : (fun word => !catalog.containsName word
        && !(Std.HashSet.ofList (identifiers.map Identifier.name)).contains word)
      = fun word => decide (¬ IsTaken catalog identifiers word) := by
    funext word
    rw [Bool.eq_iff_iff, decide_eq_true_iff, IsTaken, not_or, ← Catalog.containsName_iff]
    simp
  unfold words
  show distinctBy id (List.filter _ (List.filter _ (List.map String.ofList _))) = _
  rw [hfree, filter_pieces_eq_runs, ← hruns, List.map_map, List.filter_map, distinctBy_map]
  rfl

/-- A word is extracted if it stands somewhere in the document and is not taken. -/
theorem mem_words_iff {word : String} :
    word ∈ words catalog text identifiers
      ↔ (∃ start, IsWordAt text start word) ∧ ¬ IsTaken catalog identifiers word := by
  obtain ⟨placed, hruns, -, hplaced⟩ :=
    Text.exists_placed_runs Unicode.isWordCharacter text.toList
  rw [words_eq_distinctBy hruns, List.mem_map, exists_mem_distinctBy_iff]
  constructor
  · rintro ⟨⟨start, run⟩, hentry, rfl⟩
    obtain ⟨hmem, hfree⟩ := List.mem_filter.mp hentry
    refine ⟨⟨start, ?_⟩, of_decide_eq_true hfree⟩
    unfold IsWordAt
    rw [String.toList_ofList]
    exact (hplaced start run).mp hmem
  · rintro ⟨⟨start, hword⟩, hfree⟩
    refine ⟨(start, word.toList), List.mem_filter.mpr ⟨(hplaced _ _).mpr hword, ?_⟩,
      String.ofList_toList⟩
    show decide (¬ IsTaken catalog identifiers (String.ofList word.toList)) = true
    rw [String.ofList_toList]
    exact decide_eq_true hfree

/-- Of two words that are extracted, the first one appears first. -/
theorem pairwise_words (catalog : Catalog) (text : String) (identifiers : List Identifier) :
    (words catalog text identifiers).Pairwise fun one two => ∃ start, IsWordAt text start one
      ∧ ∀ other, IsWordAt text other two → start < other := by
  obtain ⟨placed, hruns, hsorted, hplaced⟩ :=
    Text.exists_placed_runs Unicode.isWordCharacter text.toList
  rw [words_eq_distinctBy hruns, List.pairwise_map]
  refine (pairwise_distinctBy (hsorted.filter _)).imp_of_mem ?_
  rintro ⟨start, run⟩ two hone htwo hbefore
  obtain ⟨hmem, -⟩ := List.mem_filter.mp (mem_of_mem_distinctBy hone)
  obtain ⟨-, hfree⟩ := List.mem_filter.mp (mem_of_mem_distinctBy htwo)
  refine ⟨start, ?_, fun other hother => ?_⟩
  · unfold IsWordAt
    rw [String.toList_ofList]
    exact (hplaced start run).mp hmem
  · -- the other place is one of the runs of the text, with a word that is not taken either
    unfold IsWordAt at hother
    rw [String.toList_ofList] at hother
    exact hbefore (other, two.2)
      (List.mem_filter.mpr ⟨(hplaced other two.2).mpr hother, hfree⟩) rfl

/-- No word is extracted twice, since none stands before all of its own places. -/
theorem nodup_words (catalog : Catalog) (text : String) (identifiers : List Identifier) :
    (words catalog text identifiers).Nodup := by
  refine (pairwise_words catalog text identifiers).imp ?_
  rintro one two ⟨start, hword, hbefore⟩ rfl
  exact Nat.lt_irrefl start (hbefore start hword)

/-- **The free words are exactly the maximal runs of word characters that are not taken**, each
once and in the order of their first appearance: of two words, the first one stands somewhere
before all places of the second. -/
theorem words_exact (catalog : Catalog) (text : String) (identifiers : List Identifier) :
    let found := words catalog text identifiers
    (∀ word, word ∈ found
        ↔ (∃ start, IsWordAt text start word) ∧ ¬ IsTaken catalog identifiers word)
      ∧ found.Nodup
      ∧ found.Pairwise (fun one two => ∃ start, IsWordAt text start one
          ∧ ∀ other, IsWordAt text other two → start < other)
      ∧ "" ∉ found := by
  intro found
  refine ⟨fun word => mem_words_iff, nodup_words catalog text identifiers,
    pairwise_words catalog text identifiers, fun hmem => ?_⟩
  obtain ⟨⟨start, hword⟩, -⟩ := mem_words_iff.mp hmem
  exact hword.ne_nil rfl

end TurtleAssist
