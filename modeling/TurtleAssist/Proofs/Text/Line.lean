import Mathlib.Data.List.Basic
import TurtleAssist.Text.Line
import TurtleAssist.Text.Span

/-!
# Documents made of lines

Lines that hold no line ending of their own, each followed by a line feed, are the lines of
the document that they make (`lines_ofLines`). Since the text is read from its end, a line
is put together from the line feed after it to its front.

What is reported of a document line by line stands in the order of the lines, and each line
reports at most once (`pairwise_filterMap_zipIdx`).
-/

namespace TurtleAssist.Text

variable {line : Line} {lines' : List Line} {text : List Char}

/-- A line without line endings of its own. -/
def IsClean (line : Line) : Prop :=
  '\n' ∉ line ∧ '\r' ∉ line

instance (line : Line) : Decidable (IsClean line) :=
  inferInstanceAs (Decidable (_ ∧ _))

/-- The document with the lines, each ended by a line feed. -/
def ofLines (lines : List Line) : String :=
  String.ofList (lines.flatMap (· ++ ['\n']))

/-- **A clean line before a line feed is the first line.** -/
theorem lines_line_feed (h : IsClean line) :
    Text.lines (line ++ '\n' :: text) = line :: Text.lines text := by
  have hstate : (line ++ '\n' :: text).foldr Tail.add ⟨false, []⟩
      = ⟨line.isEmpty, line :: Text.lines text⟩ := by
    induction line with
    | nil => rfl
    | cons c line ih =>
      have hc : c ≠ '\n' := fun heq => h.1 (heq ▸ List.mem_cons_self)
      have hc' : c ≠ '\r' := fun heq => h.2 (heq ▸ List.mem_cons_self)
      rw [List.cons_append, List.foldr_cons,
        ih ⟨List.not_mem_of_not_mem_cons h.1, List.not_mem_of_not_mem_cons h.2⟩]
      simp [Tail.add, hc, hc']
  rw [Text.lines, hstate]

/-- The lines of a document made of clean lines are these lines. -/
theorem lines_ofLines (h : ∀ line ∈ lines', IsClean line) :
    Text.lines (ofLines lines').toList = lines' := by
  rw [ofLines, String.toList_ofList]
  induction lines' with
  | nil => rfl
  | cons line lines' ih =>
    obtain ⟨hline, hlines⟩ := List.forall_mem_cons.mp h
    rw [List.flatMap_cons, List.append_assoc, List.singleton_append, lines_line_feed hline,
      ih hlines]

/-- **A line that is appended** after a line feed is the last line. -/
theorem lines_append_line (hne : line ≠ []) (hfeed : '\n' ∉ line) (text : List Char) :
    Text.lines (text ++ '\n' :: line) = Text.lines (text ++ ['\n']) ++ [line] := by
  -- the two texts are read alike down to the line feed, and from there to their beginnings
  have hstate : ∃ startsWithFeed first lines,
      (text ++ ['\n']).foldr Tail.add ⟨false, []⟩ = ⟨startsWithFeed, first :: lines⟩
        ∧ (text ++ '\n' :: line).foldr Tail.add ⟨false, []⟩
          = ⟨startsWithFeed, first :: lines ++ [line]⟩ := by
    induction text with
    | nil =>
      refine ⟨true, [], [], rfl, ?_⟩
      show (⟨true, [] :: Text.lines line⟩ : Tail) = _
      rw [lines_eq_singleton hne hfeed]
      rfl
    | cons c text ih =>
      obtain ⟨startsWithFeed, first, lines, hshort, hlong⟩ := ih
      rw [List.cons_append, List.cons_append, List.foldr_cons, List.foldr_cons, hshort, hlong]
      by_cases hc : c = '\n'
      · exact ⟨true, [], first :: lines, by simp [Tail.add, hc], by simp [Tail.add, hc]⟩
      by_cases hreturn : c = '\r' ∧ startsWithFeed = true
      · exact ⟨false, first, lines, by simp [Tail.add, hreturn], by simp [Tail.add, hreturn]⟩
      · exact ⟨false, c :: first, lines, by simp [Tail.add, hc, hreturn],
          by simp [Tail.add, hc, hreturn]⟩
  obtain ⟨_, _, _, hshort, hlong⟩ := hstate
  rw [Text.lines, Text.lines, hshort, hlong]

/-- No line holds a line feed. -/
theorem line_feed_not_mem_lines (text : List Char) : ∀ line ∈ Text.lines text, '\n' ∉ line := by
  unfold Text.lines
  induction text with
  | nil => exact List.forall_mem_nil _
  | cons c text ih =>
    rw [List.foldr_cons]
    generalize text.foldr Tail.add ⟨false, []⟩ = tail at ih
    obtain ⟨startsWithFeed, lines⟩ := tail
    by_cases hfeed : c = '\n'
    · simp only [Tail.add, if_pos hfeed]
      exact List.forall_mem_cons.mpr ⟨List.not_mem_nil, ih⟩
    · by_cases hreturn : c = '\r' ∧ startsWithFeed = true
      · simp only [Tail.add, if_neg hfeed, if_pos hreturn]
        exact ih
      · simp only [Tail.add, if_neg hfeed, if_neg hreturn]
        cases lines with
        | nil => exact List.forall_mem_singleton.mpr (by simp [Ne.symm hfeed])
        | cons first others =>
          obtain ⟨hfirst, hothers⟩ := List.forall_mem_cons.mp ih
          exact List.forall_mem_cons.mpr ⟨by simp [Ne.symm hfeed, hfirst], hothers⟩

/-- A character that belongs to no line ending is added to the first line. -/
theorem lines_cons {c : Char} (hfeed : c ≠ '\n') (hreturn : c ≠ '\r') (text : List Char) :
    Text.lines (c :: text) = (c :: (Text.lines text).headD []) :: (Text.lines text).tail := by
  unfold Text.lines
  rw [List.foldr_cons]
  generalize text.foldr Tail.add ⟨false, []⟩ = tail
  obtain ⟨startsWithFeed, lines⟩ := tail
  cases lines with
  | nil => simp [Tail.add, hfeed, hreturn]
  | cons line lines => simp [Tail.add, hfeed, hreturn]

/-- **The lines of a text stay** when it is continued after a line feed, if it has no carriage
returns. -/
theorem prefix_lines_append (hreturn : '\r' ∉ text) (rest : List Char) :
    Text.lines text <+: Text.lines (text ++ '\n' :: rest) := by
  have hstate : Text.lines text <+: Text.lines (text ++ '\n' :: rest)
      ∧ (Text.lines text = [] → ∃ lines, Text.lines (text ++ '\n' :: rest) = [] :: lines) := by
    induction text with
    | nil => exact ⟨List.nil_prefix, fun _ => ⟨_, rfl⟩⟩
    | cons c text ih =>
      obtain ⟨hkept, hempty⟩ := ih (List.not_mem_of_not_mem_cons hreturn)
      by_cases hfeed : c = '\n'
      · subst hfeed
        rw [List.cons_append, lines_feed, lines_feed]
        exact ⟨List.prefix_cons_inj _ |>.mpr hkept, fun hnil => nomatch hnil⟩
      · have hc : c ≠ '\r' := fun heq => hreturn (heq ▸ List.mem_cons_self)
        rw [List.cons_append, lines_cons hfeed hc, lines_cons hfeed hc]
        refine ⟨?_, fun hnil => nomatch hnil⟩
        cases hlines : Text.lines text with
        | nil =>
          obtain ⟨lines, hlong⟩ := hempty hlines
          rw [hlong]
          exact List.prefix_append [[c]] lines
        | cons first lines =>
          rw [hlines] at hkept
          obtain ⟨more, hlong⟩ := hkept
          rw [← hlong]
          exact List.prefix_append ((c :: first) :: lines) more
  exact hstate.1

/-- A shorter beginning of a line has no more units. -/
theorem units_take_le (line : Line) {m n : Nat} (h : m ≤ n) :
    units (line.take m) ≤ units (line.take n) := by
  induction line generalizing m n with
  | nil => exact Nat.le_of_eq (by rw [List.take_nil, List.take_nil])
  | cons c line ih =>
    cases m with
    | zero => exact Nat.zero_le _
    | succ m =>
      obtain ⟨n, rfl⟩ : ∃ k, n = k + 1 := ⟨n - 1, by omega⟩
      exact Nat.add_le_add_left (ih (Nat.le_of_succ_le_succ h)) (units16 c)

/-- A longer beginning of a line has more units, since every character has some. -/
theorem units_take_lt (line : Line) {m n : Nat} (h : m < n) (hn : n ≤ line.length) :
    units (line.take m) < units (line.take n) := by
  induction line generalizing m n with
  | nil => exact absurd (Nat.lt_of_lt_of_le h hn) (Nat.not_lt_zero m)
  | cons c line ih =>
    obtain ⟨n, rfl⟩ : ∃ k, n = k + 1 := ⟨n - 1, by omega⟩
    cases m with
    | zero =>
      have hpos : 0 < units16 c := by
        unfold units16
        split <;> decide
      exact Nat.add_pos_left hpos _
    | succ m =>
      exact Nat.add_lt_add_left (ih (Nat.lt_of_succ_lt_succ h) (Nat.le_of_succ_le_succ hn))
        (units16 c)

/-- So the units before a place of a line tell the place. -/
theorem units_take_inj (line : Line) {m n : Nat} (hm : m ≤ line.length) (hn : n ≤ line.length)
    (h : units (line.take m) = units (line.take n)) : m = n := by
  rcases Nat.lt_trichotomy m n with hlt | heq | hgt
  · exact absurd h (Nat.ne_of_lt (units_take_lt line hlt hn))
  · exact heq
  · exact absurd h (Nat.ne_of_gt (units_take_lt line hgt hm))

/-- **A span of the line**: it does not stop before it starts, nor after the end. -/
def Span.LiesIn (span : Span) (line : Line) : Prop :=
  span.start ≤ span.stop ∧ span.stop ≤ line.length

/-- The columns of a span of a line tell the span. -/
theorem Span.LiesIn.eq_of_units {line : Line} {one two : Span} (h : one.LiesIn line)
    (h' : two.LiesIn line) (hstart : units (line.take one.start) = units (line.take two.start))
    (hstop : units (line.take one.stop) = units (line.take two.stop)) : one = two := by
  obtain ⟨hle, hlength⟩ := h
  obtain ⟨hle', hlength'⟩ := h'
  have hsame : one.start = two.start :=
    units_take_inj line (Nat.le_trans hle hlength) (Nat.le_trans hle' hlength') hstart
  have hsame' : one.stop = two.stop := units_take_inj line hlength hlength' hstop
  cases one
  cases two
  exact congrArg₂ Span.mk hsame hsame'

/-- What the lines of a document report one by one comes in the order of their numbers. -/
theorem pairwise_filterMap_zipIdx {α : Type} {report : Line × Nat → Option α} {number : α → Nat}
    (h : ∀ numbered found, report numbered = some found → number found = numbered.2)
    (lines : List Line) :
    (lines.zipIdx.filterMap report).Pairwise fun one two => number one < number two := by
  have hnumbers : lines.zipIdx.Pairwise fun one two => one.2 < two.2 := by
    rw [← List.pairwise_map (f := Prod.snd) (R := (· < ·)), List.zipIdx_map_snd]
    exact List.pairwise_lt_range' 1
  refine hnumbers.filterMap report fun one two hlt found hfound other hother => ?_
  rw [h one found hfound, h two other hother]
  exact hlt

end TurtleAssist.Text
