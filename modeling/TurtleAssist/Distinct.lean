import Std.Data.HashSet

/-!
# The first entry of each key

Several lists of this library are merged by keeping, of all entries that share
a key, the one that comes first: the lines of a document, the names it
defines, its words, and the labels of its completions. `distinctBy` does this
in one pass with a set of the keys met so far.

The set is a matter of speed. What `distinctBy` computes is said without it by
`distinctBy_cons`: the head stays, and its key disappears from the tail.
-/

namespace TurtleAssist

variable {α κ : Type} [BEq κ] [Hashable κ]

/-- One step of `distinctBy`: the keys met so far, and the entries kept so far
with the last one in front. -/
def keepFirst (key : α → κ) (state : Std.HashSet κ × List α) (entry : α) :
    Std.HashSet κ × List α :=
  if state.1.contains (key entry) then state
  else (state.1.insert (key entry), entry :: state.2)

/-- The entries whose key no earlier entry has, in order. -/
def distinctBy (key : α → κ) (entries : List α) : List α :=
  (entries.foldl (keepFirst key) (∅, [])).2.reverse

variable [LawfulBEq κ] [LawfulHashable κ]

/-- Keys met before only remove entries: started with a set of keys, the pass
keeps what it would keep with none, less the entries whose key is in the set. -/
theorem foldl_keepFirst (key : α → κ) (entries : List α) (seen : Std.HashSet κ)
    (kept : List α) :
    (entries.foldl (keepFirst key) (seen, kept)).2.reverse
      = kept.reverse
        ++ (distinctBy key entries).filter fun entry => !seen.contains (key entry) := by
  induction entries generalizing seen kept with
  | nil => simp [distinctBy]
  | cons head tail ih =>
    have hnone : distinctBy key (head :: tail)
        = head :: (distinctBy key tail).filter fun entry => !(key head == key entry) := by
      have h := ih (({} : Std.HashSet κ).insert (key head)) [head]
      simpa [distinctBy, keepFirst] using h
    rw [hnone, List.foldl_cons]
    by_cases hseen : seen.contains (key head)
    · rw [show keepFirst key (seen, kept) head = (seen, kept) by simp [keepFirst, hseen], ih]
      rw [List.filter_cons_of_neg (by simp [hseen]), List.filter_filter]
      congr 1
      refine List.filter_congr fun entry _ => ?_
      by_cases hsame : key head = key entry
      · simp [← hsame, hseen]
      · simp [hsame]
    · rw [show keepFirst key (seen, kept) head = (seen.insert (key head), head :: kept) by
        simp [keepFirst, hseen], ih]
      rw [List.filter_cons_of_pos (by simp [hseen]), List.filter_filter]
      simp only [List.reverse_cons, List.append_assoc, List.singleton_append]
      congr 2
      refine List.filter_congr fun entry _ => ?_
      simp [Bool.and_comm]

omit [LawfulBEq κ] [LawfulHashable κ] in
@[simp] theorem distinctBy_nil (key : α → κ) : distinctBy key [] = [] := rfl

/-- **The head stays and its key leaves the tail.** Together with
`distinctBy_nil` this determines `distinctBy`. -/
theorem distinctBy_cons (key : α → κ) (head : α) (tail : List α) :
    distinctBy key (head :: tail)
      = head :: (distinctBy key tail).filter fun entry => !(key head == key entry) := by
  have h := foldl_keepFirst key tail (({} : Std.HashSet κ).insert (key head)) [head]
  simpa [distinctBy, keepFirst] using h

end TurtleAssist
