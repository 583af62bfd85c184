import Mathlib.Data.List.Basic
import Mathlib.Data.List.Perm.Subperm
import TurtleAssist.Catalog.Turtle
import TurtleAssist.Proofs.Completion.FreeWord
import TurtleAssist.Proofs.Completion.Precedence
import TurtleAssist.Server.Message

/-!
# The order of the sort keys

An editor shows completions in the order of their sort keys, which are texts, while the server
counts them. The digits of a number compare like the number only among numbers that are written
with equally many digits. So the keys are filled up with zeros to a width, and within that width
they are in order (`padded_lt_padded`): the first digit in which two numbers of the same width
differ decides about both.

The width is five. A document can hold more words than five digits can count, and every one of them
is offered (`exists_label_of_isWordAt`). `sortKeys_increase_iff` says that the keys are in order
exactly if there are at most a hundred thousand items, and `not_increasing_countingText` is a
document for which they are not.
-/

namespace TurtleAssist

/-! ## Digits of equal number -/

/-- The decimal digits of a number, filled up with zeros to a width. -/
def padded (width n : Nat) : List Char :=
  List.replicate (width - (Nat.toDigits 10 n).length) '0' ++ Nat.toDigits 10 n

/-- A longer key ends with the last digit. -/
theorem padded_succ {width : Nat} (hwidth : 0 < width) (n : Nat) :
    padded (width + 1) n = padded width (n / 10) ++ [Nat.digitChar (n % 10)] := by
  unfold padded
  by_cases hn : n < 10
  · rw [Nat.div_eq_of_lt hn, Nat.mod_eq_of_lt hn, Nat.toDigits_of_lt_base hn, Nat.toDigits_zero]
    obtain ⟨width, rfl⟩ := Nat.exists_eq_succ_of_ne_zero (Nat.ne_of_gt hwidth)
    show List.replicate (width + 1) '0' ++ _ = List.replicate width '0' ++ ['0'] ++ _
    rw [List.replicate_succ']
  · rw [Nat.toDigits_of_base_le (by decide) (Nat.le_of_not_lt hn), List.length_append,
      List.length_singleton, Nat.add_sub_add_right, List.append_assoc]

/-- Numbers that fit in the width take all of it. -/
theorem length_padded {width n : Nat} (hwidth : 0 < width) (hn : n < Nat.pow 10 width) :
    (padded width n).length = width := by
  have hfits : (Nat.toDigits 10 n).length ≤ width :=
    (Nat.length_toDigits_le_iff (by decide) hwidth).mpr hn
  rw [padded, List.length_append, List.length_replicate]
  omega

/-- Between texts of equal length the first difference decides, whatever follows. -/
theorem append_lt_append {s t : List Char} (h : s < t) (hlength : s.length = t.length)
    (u v : List Char) : s ++ u < t ++ v := by
  induction s generalizing t with
  | nil =>
    obtain rfl := List.eq_nil_of_length_eq_zero hlength.symm
    exact absurd h (List.lt_irrefl [])
  | cons c s ih =>
    cases t with
    | nil => cases hlength
    | cons x t =>
      rcases List.cons_lt_cons_iff.mp h with hlt | ⟨rfl, htail⟩
      · exact List.cons_lt_cons_iff.mpr (Or.inl hlt)
      · exact List.cons_lt_cons_iff.mpr (Or.inr ⟨rfl, ih htail (Nat.succ.inj hlength)⟩)

theorem digitChar_lt_digitChar : ∀ e < 10, ∀ d < e, Nat.digitChar d < Nat.digitChar e := by
  decide

/-- **Within a width the texts are in the order of the numbers.** -/
theorem padded_lt_padded {width m n : Nat} (hwidth : 0 < width) (hmn : m < n)
    (hn : n < Nat.pow 10 width) : padded width m < padded width n := by
  induction width generalizing m n with
  | zero => cases hwidth
  | succ width ih =>
    have hlast : m % 10 < n % 10 → Nat.digitChar (m % 10) < Nat.digitChar (n % 10) :=
      digitChar_lt_digitChar _ (Nat.mod_lt n (by decide)) _
    rcases Nat.eq_zero_or_pos width with rfl | hpos
    · -- a single digit
      have hn : n < 10 := hn
      have hm : m < 10 := Nat.lt_trans hmn hn
      rw [Nat.mod_eq_of_lt hm, Nat.mod_eq_of_lt hn] at hlast
      unfold padded
      rw [Nat.toDigits_of_lt_base hm, Nat.toDigits_of_lt_base hn]
      exact List.cons_lt_cons_iff.mpr (Or.inl (hlast hmn))
    · rw [padded_succ hpos, padded_succ hpos]
      have hfront : n / 10 < Nat.pow 10 width :=
        Nat.div_lt_of_lt_mul (Nat.lt_of_lt_of_eq hn (Nat.mul_comm _ _))
      rcases Nat.lt_or_eq_of_le (Nat.div_le_div_right (Nat.le_of_lt hmn) : m / 10 ≤ n / 10)
        with hlt | heq
      · refine append_lt_append (ih hpos hlt hfront) ?_ _ _
        rw [length_padded hpos hfront, length_padded hpos (Nat.lt_trans hlt hfront)]
      · rw [heq]
        refine List.append_left_lt (List.cons_lt_cons_iff.mpr (Or.inl (hlast ?_)))
        omega

/-- The number can be read off. -/
theorem ofDigitChars_padded (width n : Nat) : Nat.ofDigitChars 10 (padded width n) 0 = n := by
  have hzeros : ∀ count, Nat.ofDigitChars 10 (List.replicate count '0') 0 = 0 := by
    intro count
    induction count with
    | zero => rfl
    | succ count ih =>
      rw [List.replicate_succ', Nat.ofDigitChars_append, ih]
      rfl
  rw [padded, Nat.ofDigitChars_append, hzeros]
  exact Nat.ofDigitChars_toDigits (by decide) (by decide)

namespace Server

/-! ## The keys of a list -/

theorem rankDigits_eq (rank : Nat) : rankDigits rank = String.ofList (padded 5 rank) := rfl

/-- Different places have different keys. -/
theorem rankDigits_injective {i j : Nat} (h : rankDigits i = rankDigits j) : i = j := by
  rw [rankDigits_eq, rankDigits_eq] at h
  rw [← ofDigitChars_padded 5 i, String.ofList_injective h, ofDigitChars_padded]

/-- The keys of the first hundred thousand places are in order. -/
theorem rankDigits_lt {i j : Nat} (h : i < j) (hj : j < 100000) :
    rankDigits i < rankDigits j := by
  rw [rankDigits_eq, rankDigits_eq, String.lt_iff, String.toList_ofList, String.toList_ofList]
  exact padded_lt_padded (by decide) h hj

/-- The next key goes back to the beginning. -/
theorem rankDigits_not_lt : ¬ rankDigits 99999 < rankDigits 100000 := by
  decide +kernel

/-- The keys of a list count its items. -/
theorem map_sortKey_completionItems (catalog : Catalog) (text : String) :
    (completionItems catalog text).map CompletionItem.sortKey
      = (List.range (complete catalog text).length).map rankDigits := by
  unfold completionItems
  rw [List.map_map, List.range_eq_range', ← List.zipIdx_map_snd 0, List.map_map]
  rfl

theorem pairwise_rankDigits_iff {count : Nat} :
    ((List.range count).map rankDigits).Pairwise (· < ·) ↔ count ≤ 100000 := by
  rw [List.pairwise_map]
  constructor
  · intro h
    by_contra hlt
    refine rankDigits_not_lt ?_
    have hpair := List.pairwise_iff_getElem.mp h 99999 100000
      (by rw [List.length_range]; omega) (by rw [List.length_range]; omega) (by decide)
    rwa [List.getElem_range, List.getElem_range] at hpair
  · intro hcount
    refine List.pairwise_lt_range.imp_of_mem fun _ hj hlt => rankDigits_lt hlt ?_
    exact Nat.lt_of_lt_of_le (List.mem_range.mp hj) hcount

/-- **The sort keys are in the order of precedence exactly up to a hundred thousand items.** They
always tell the items apart, and those of the first hundred thousand items are always in order. -/
theorem sortKeys_increase_iff (catalog : Catalog) (text : String) :
    let keys := (completionItems catalog text).map CompletionItem.sortKey
    keys.Nodup ∧ (keys.take 100000).Pairwise (· < ·)
      ∧ (keys.Pairwise (· < ·) ↔ (complete catalog text).length ≤ 100000) := by
  intro keys
  have hkeys : keys = (List.range (complete catalog text).length).map rankDigits :=
    map_sortKey_completionItems catalog text
  rw [hkeys]
  refine ⟨List.nodup_range.map fun _ _ => rankDigits_injective, ?_, pairwise_rankDigits_iff⟩
  rw [← List.map_take, List.take_range]
  exact pairwise_rankDigits_iff.mpr (Nat.min_le_left _ _)

end Server

/-! ## A document with more items -/

section Counting

variable {catalog : Catalog} {text : String}

/-- There are at least as many items as different words. -/
theorem length_le_length_complete {found : List String} (hnodup : found.Nodup)
    (h : ∀ word ∈ found, ∃ start, IsWordAt text start word) :
    found.length ≤ (complete catalog text).length := by
  have hlabels : found ⊆ (complete catalog text).map Entry.label := by
    intro word hword
    obtain ⟨start, hstart⟩ := h word hword
    exact List.mem_map.mpr (exists_label_of_isWordAt hstart)
  have hlength := (hnodup.subperm hlabels).length_le
  rwa [List.length_map] at hlength

/-- The numbers below a bound, with a space after each. -/
def countingText (count : Nat) : String :=
  String.join ((List.range count).map fun n => toString n ++ " ")

/-- A digit belongs to words. -/
theorem isWordCharacter_of_isDigit {c : Char} (h : c.isDigit = true) :
    Unicode.isWordCharacter c = true := by
  have hval : c.val < 128 := by
    rw [Char.isDigit, Bool.and_eq_true, decide_eq_true_iff, decide_eq_true_iff] at h
    exact UInt32.lt_of_le_of_lt h.2 (by decide)
  rw [Unicode.isWordCharacter, if_pos hval, Char.isAlphanum, h, Bool.or_true, Bool.true_or]

/-- Each of these numbers is a word of the text. -/
theorem exists_isWordAt_countingText {n count : Nat} (h : n < count) :
    ∃ start, IsWordAt (countingText count) start (toString n) := by
  have htext : (countingText count).toList
      = ((List.range count).map fun n => Nat.toDigits 10 n).flatMap (· ++ [' ']) := by
    rw [countingText, String.toList_join, List.flatMap_map, List.flatMap_map]
    refine congrArg (List.flatMap · (List.range count)) (funext fun n => ?_)
    rw [String.toList_append]
    exact congrArg (· ++ [' ']) Nat.toList_repr
  have hwords : ∀ word ∈ (List.range count).map fun n => Nat.toDigits 10 n,
      word ≠ [] ∧ ∀ c ∈ word, Unicode.isWordCharacter c = true := by
    refine List.forall_mem_map.mpr fun n _ => ⟨fun hnil => ?_, fun c hc => ?_⟩
    · exact Nat.ne_of_gt Nat.length_toDigits_pos (congrArg List.length hnil)
    · exact isWordCharacter_of_isDigit (Nat.isDigit_of_mem_toDigits (by decide) (by decide) hc)
  obtain ⟨placed, hruns, -, hplaced⟩ :=
    Text.exists_placed_runs Unicode.isWordCharacter (countingText count).toList
  rw [htext, Text.runs_flatMap_concat (by decide) hwords] at hruns
  have hmem : Nat.toDigits 10 n ∈ placed.map Prod.snd :=
    hruns ▸ List.mem_map_of_mem (List.mem_range.mpr h)
  obtain ⟨⟨start, run⟩, hentry, hrun⟩ := List.mem_map.mp hmem
  refine ⟨start, ?_⟩
  have hword : (toString n).toList = run := Nat.toList_repr.trans hrun.symm
  unfold IsWordAt
  rw [hword]
  exact (hplaced start run).mp hentry

/-- **A document whose completions an editor shows in the wrong order.** -/
theorem not_increasing_countingText :
    ¬ ((Server.completionItems Catalog.turtle (countingText 100001)).map
        Server.CompletionItem.sortKey).Pairwise (· < ·) := by
  rw [Server.map_sortKey_completionItems, Server.pairwise_rankDigits_iff]
  have hnodup : ((List.range 100001).map toString : List String).Nodup := by
    refine List.nodup_range.map fun m n hmn => ?_
    have hdigits : Nat.toDigits 10 m = Nat.toDigits 10 n := by
      rw [← Nat.toList_repr, ← Nat.toList_repr]
      exact congrArg String.toList hmn
    have hnumber := congrArg (Nat.ofDigitChars 10 · 0) hdigits
    rwa [Nat.ofDigitChars_toDigits (by decide) (by decide),
      Nat.ofDigitChars_toDigits (by decide) (by decide)] at hnumber
  have hlength : ((List.range 100001).map toString : List String).length
      ≤ (complete Catalog.turtle (countingText 100001)).length := by
    refine length_le_length_complete hnodup (List.forall_mem_map.mpr fun n hn => ?_)
    exact exists_isWordAt_countingText (List.mem_range.mp hn)
  rw [List.length_map, List.length_range] at hlength
  omega

end Counting

end TurtleAssist
