import Mathlib.Data.List.Basic
import TurtleAssist.Pattern.Compiler
import TurtleAssist.Proofs.Pattern.Name

/-!
# A pattern and its written form

A pattern is handed over in writing, and it is the reader of the text who decides what the
pattern means. For the names of a document this is where something can go wrong: a name may
hold a bar, a parenthesis or an anchor, and unless each of these is marked as a plain
character, the reader takes it for a sign of the notation.

`read?` is a reader for the part of the notation that patterns of names are written in: plain
and marked characters, bars, groups, and the two ends of the text. What it does not know it
refuses, so that nothing is read by accident. It goes through the text once and keeps, for each
group that is still open, what has been read of it. A bar splits no more than the group it
stands in.

Reading gives back a pattern with the same ways (`exists_read?`), for every pattern that the
notation can express: one in which alternatives stand side by side only directly inside a group.
Together with what is known of the pattern of a set of names, this says that the text of that
pattern, once it is read, recognises the names and nothing else (`exactNames_recognises`).
-/

namespace TurtleAssist.Pattern

open Way

/-! ## The reader -/

/-- What has been read of a group that is still open. -/
structure OpenGroup where
  /-- The alternatives that a bar has ended. -/
  ended : Option Pattern
  /-- The alternative that is being read. -/
  current : Pattern

namespace OpenGroup

/-- A group of which nothing has been read. -/
def start : OpenGroup := ⟨none, .empty⟩

/-- One more part of the alternative that is being read. -/
def add (inner : OpenGroup) (part : Pattern) : OpenGroup :=
  { inner with current := inner.current ++ part }

/-- All that has been read of the group. -/
def whole (inner : OpenGroup) : Pattern :=
  match inner.ended with
  | none => inner.current
  | some ended => .alt ended inner.current

/-- The group after a bar. -/
def bar (inner : OpenGroup) : OpenGroup := ⟨some inner.whole, .empty⟩

end OpenGroup

/-- A character that stands for itself. -/
def single (c : Char) : Pattern := .literal .plain [c]

/-- Reads a text from inside a group, given what has been read of the group and of those
around it, the nearest first. -/
def readFrom : List Char → OpenGroup → List OpenGroup → Option Pattern
  | [], inner, [] => some inner.whole
  | [], _, _ :: _ => none
  | '\\' :: c :: rest, inner, outer =>
    if allSpecials.contains c then readFrom rest (inner.add (single c)) outer else none
  | '(' :: '?' :: ':' :: rest, inner, outer => readFrom rest .start (inner :: outer)
  | ')' :: rest, inner, around :: outer => readFrom rest (around.add (.group inner.whole)) outer
  | '|' :: rest, inner, outer => readFrom rest inner.bar outer
  | '^' :: rest, inner, outer => readFrom rest (inner.add .textStart) outer
  | '$' :: rest, inner, outer => readFrom rest (inner.add .textEnd) outer
  | c :: rest, inner, outer =>
    if specials.contains c then none else readFrom rest (inner.add (single c)) outer

/-- **The pattern that a text is the written form of**, if the reader knows all its signs. -/
def read? (text : List Char) : Option Pattern :=
  readFrom text .start []

section Signs

variable {c : Char} (rest : List Char) (inner : OpenGroup) (outer : List OpenGroup)

theorem readFrom_plain (h : specials.contains c = false) :
    readFrom (c :: rest) inner outer = readFrom rest (inner.add (single c)) outer := by
  rw [readFrom.eq_def]
  split <;> simp_all [specials]

theorem readFrom_marked (h : allSpecials.contains c = true) :
    readFrom ('\\' :: c :: rest) inner outer = readFrom rest (inner.add (single c)) outer := by
  rw [readFrom, if_pos h]

/-- **A character is read as itself**, whichever way it is spelled. -/
theorem readFrom_character (spelling : Spelling) (c : Char) :
    readFrom (spelling.source [c] ++ rest) inner outer
      = readFrom rest (inner.add (single c)) outer := by
  have hmarks : ∀ special : List Char, specials ⊆ special → special ⊆ allSpecials →
      readFrom (withBackslashes special [c] ++ rest) inner outer
        = readFrom rest (inner.add (single c)) outer := by
    intro special hfew hmany
    by_cases h : c ∈ special
    · rw [show withBackslashes special [c] = ['\\', c] by simp [withBackslashes, h]]
      exact readFrom_marked rest inner outer (List.contains_iff_mem.mpr (hmany h))
    · rw [show withBackslashes special [c] = [c] by simp [withBackslashes, h]]
      refine readFrom_plain rest inner outer ?_
      rw [← Bool.not_eq_true, List.contains_iff_mem]
      exact fun hspecial => h (hfew hspecial)
  cases spelling with
  | plain => exact hmarks specials (List.Subset.refl _) (List.subset_append_left _ _)
  | escaped => exact hmarks allSpecials (List.subset_append_left _ _) (List.Subset.refl _)

end Signs

/-! ## Ways in a row

How patterns in a row are bracketed, and into how many pieces a text is cut, makes no
difference to the ways. -/

namespace Way

variable (first second third step : Place → List Way)

theorem stay_compose : compose (fun place => [stay place]) step = step := by
  funext place
  simp [compose, onward, stay]

theorem compose_stay : compose step (fun place => [stay place]) = step := by
  funext place
  simp [compose, onward, stay]

theorem compose_assoc :
    compose (compose first second) third = compose first (compose second third) := by
  funext place
  simp [compose, onward, List.flatMap_assoc, List.map_flatMap, List.flatMap_map,
    Function.comp_def]

end Way

theorem ways_append (first second : Pattern) :
    (first ++ second).ways = compose first.ways second.ways := rfl

theorem ways_literal_nil (spelling : Spelling) :
    (literal spelling []).ways = fun place => [stay place] := by
  funext place
  rfl

/-- The ways of a text are those of its first character, then those of the others. -/
theorem ways_literal_cons (spelling : Spelling) (c : Char) (text : List Char) :
    (literal spelling (c :: text)).ways
      = compose (single c).ways (literal spelling text).ways := by
  funext ⟨offset, rest⟩
  cases rest with
  | nil => rfl
  | cons x rest =>
    by_cases hx : x = c
    · simp [ways, single, compose, onward, stay, Place.after?, hx, Option.toList]
    · simp [ways, single, compose, Place.after?, hx]

/-! ## Reading what has been written -/

/-- **A pattern is read as a row**: its written form adds it to the alternative that is being
read, wherever that stands. -/
def ReadAsRow (pattern : Pattern) : Prop :=
  ∀ inner : OpenGroup, ∃ current, current.ways = (inner.current ++ pattern).ways
    ∧ ∀ rest outer, readFrom (pattern.source ++ rest) inner outer
        = readFrom rest { inner with current } outer

/-- **A pattern is read as alternatives**: its written form adds them to those that a bar has
ended, from where the next one begins. -/
def ReadAsAlternatives (pattern : Pattern) : Prop :=
  ∀ ended : Option Pattern, ∃ next : OpenGroup,
    next.whole.ways = (OpenGroup.whole ⟨ended, pattern⟩).ways
      ∧ ∀ rest outer, readFrom (pattern.source ++ rest) ⟨ended, .empty⟩ outer
          = readFrom rest next outer

/-- Patterns with the same ways can stand for each other as the last alternative. -/
theorem OpenGroup.ways_whole_congr {one two : Pattern} (h : one.ways = two.ways)
    (ended : Option Pattern) :
    (OpenGroup.whole ⟨ended, one⟩).ways = (OpenGroup.whole ⟨ended, two⟩).ways := by
  cases ended with
  | none => exact h
  | some ended =>
    funext place
    show ended.ways place ++ one.ways place = ended.ways place ++ two.ways place
    rw [h]

/-- A single part that is read as itself. -/
theorem readAsRow_of_add {part : Pattern}
    (h : ∀ rest inner outer,
      readFrom (part.source ++ rest) inner outer = readFrom rest (inner.add part) outer) :
    ReadAsRow part :=
  fun inner => ⟨inner.current ++ part, rfl, fun rest outer => h rest inner outer⟩

theorem readAsRow_empty : ReadAsRow .empty := by
  intro inner
  refine ⟨inner.current, ?_, fun rest outer => rfl⟩
  exact (compose_stay inner.current.ways).symm

theorem readAsRow_literal (spelling : Spelling) (text : List Char) :
    ReadAsRow (.literal spelling text) := by
  induction text with
  | nil =>
    intro inner
    refine ⟨inner.current, ?_, fun rest outer => ?_⟩
    · show _ = compose inner.current.ways (literal spelling []).ways
      rw [ways_literal_nil, compose_stay]
    · cases spelling <;> rfl
  | cons c text ih =>
    intro inner
    obtain ⟨current, hways, hread⟩ := ih (inner.add (single c))
    refine ⟨current, ?_, fun rest outer => ?_⟩
    · rw [hways]
      show compose (compose inner.current.ways (single c).ways) (literal spelling text).ways
        = compose inner.current.ways (literal spelling (c :: text)).ways
      rw [compose_assoc, ways_literal_cons]
    · have hsource : (literal spelling (c :: text)).source ++ rest
          = spelling.source [c] ++ ((literal spelling text).source ++ rest) := by
        cases spelling <;> simp [source, Spelling.source, withBackslashes]
      rw [hsource, readFrom_character, hread]
      rfl

theorem ReadAsRow.seq {first second : Pattern} (h₁ : ReadAsRow first) (h₂ : ReadAsRow second) :
    ReadAsRow (.seq first second) := by
  intro inner
  obtain ⟨middle, hmiddle, hfirst⟩ := h₁ inner
  obtain ⟨current, hcurrent, hsecond⟩ := h₂ { inner with current := middle }
  refine ⟨current, ?_, fun rest outer => ?_⟩
  · rw [hcurrent]
    show compose middle.ways second.ways
      = compose inner.current.ways (compose first.ways second.ways)
    rw [hmiddle, ← compose_assoc]
    rfl
  · rw [source, List.append_assoc, hfirst, hsecond]

/-- A row is an alternative. -/
theorem ReadAsRow.alternatives {pattern : Pattern} (h : ReadAsRow pattern) :
    ReadAsAlternatives pattern := by
  intro ended
  obtain ⟨current, hways, hread⟩ := h ⟨ended, .empty⟩
  refine ⟨⟨ended, current⟩, OpenGroup.ways_whole_congr (hways.trans ?_) ended, hread⟩
  exact stay_compose pattern.ways

/-- A bar between alternatives leaves both to be read. -/
theorem ReadAsAlternatives.alt {preferred other : Pattern} (h₁ : ReadAsAlternatives preferred)
    (h₂ : ReadAsAlternatives other) : ReadAsAlternatives (.alt preferred other) := by
  intro ended
  obtain ⟨middle, hmiddle, hfirst⟩ := h₁ ended
  obtain ⟨next, hnext, hsecond⟩ := h₂ (some middle.whole)
  refine ⟨next, ?_, fun rest outer => ?_⟩
  · rw [hnext]
    funext place
    show middle.whole.ways place ++ other.ways place = _
    rw [hmiddle]
    cases ended with
    | none => rfl
    | some ended => exact List.append_assoc _ _ _
  · rw [source, List.append_assoc, hfirst]
    show readFrom (other.source ++ rest) middle.bar outer = _
    rw [OpenGroup.bar, hsecond]

/-- A group holds alternatives and is itself part of a row. -/
theorem ReadAsAlternatives.group {body : Pattern} (h : ReadAsAlternatives body) :
    ReadAsRow (.group body) := by
  intro inner
  obtain ⟨next, hnext, hread⟩ := h none
  refine ⟨inner.current ++ .group next.whole, ?_, fun rest outer => ?_⟩
  · show compose inner.current.ways next.whole.ways = compose inner.current.ways body.ways
    rw [hnext]
    rfl
  · show readFrom (body.source ++ [')'] ++ rest) .start (inner :: outer) = _
    rw [List.append_assoc, OpenGroup.start, hread]
    rfl

/-- Whether the notation can express a pattern, where alternatives may stand side by side or
may not. -/
def isLegible (bars : Bool) : Pattern → Bool
  | .empty | .literal _ _ | .textStart | .textEnd => true
  | .seq first second => first.isLegible false && second.isLegible false
  | .alt preferred other => bars && preferred.isLegible true && other.isLegible true
  | .group body => body.isLegible true
  | _ => false

/-- What the notation can express is read as it was written. -/
theorem readAs_of_isLegible (pattern : Pattern) :
    (pattern.isLegible false = true → ReadAsRow pattern)
      ∧ (pattern.isLegible true = true → ReadAsAlternatives pattern) := by
  induction pattern with
  | empty => exact ⟨fun _ => readAsRow_empty, fun _ => readAsRow_empty.alternatives⟩
  | literal spelling text =>
    have hrow := readAsRow_literal spelling text
    exact ⟨fun _ => hrow, fun _ => hrow.alternatives⟩
  | textStart =>
    have hrow : ReadAsRow .textStart := readAsRow_of_add fun rest inner outer => rfl
    exact ⟨fun _ => hrow, fun _ => hrow.alternatives⟩
  | textEnd =>
    have hrow : ReadAsRow .textEnd := readAsRow_of_add fun rest inner outer => rfl
    exact ⟨fun _ => hrow, fun _ => hrow.alternatives⟩
  | seq first second ih₁ ih₂ =>
    have hrow : (first.isLegible false && second.isLegible false) = true →
        ReadAsRow (.seq first second) := by
      intro h
      obtain ⟨hfirst, hsecond⟩ := Bool.and_eq_true_iff.mp h
      exact (ih₁.1 hfirst).seq (ih₂.1 hsecond)
    exact ⟨hrow, fun h => (hrow h).alternatives⟩
  | alt preferred other ih₁ ih₂ =>
    refine ⟨fun h => by simp [isLegible] at h, fun h => ?_⟩
    simp only [isLegible, Bool.true_and, Bool.and_eq_true] at h
    exact (ih₁.2 h.1).alt (ih₂.2 h.2)
  | group body ih => exact ⟨fun h => (ih.2 h).group, fun h => (ih.2 h).group.alternatives⟩
  | one | run | capture | times =>
    exact ⟨fun h => by simp [isLegible] at h, fun h => by simp [isLegible] at h⟩

/-- **Reading gives back a pattern with the same ways.** -/
theorem exists_read? {pattern : Pattern} (h : pattern.isLegible true = true) :
    ∃ read, read? pattern.source = some read ∧ read.ways = pattern.ways := by
  obtain ⟨next, hways, hread⟩ := (readAs_of_isLegible pattern).2 h none
  refine ⟨next.whole, ?_, hways⟩
  have hwhole := hread [] []
  rw [List.append_nil] at hwhole
  exact hwhole

/-- Without its mark a star is refused, and a bar separates. -/
example : read? "let*".toList = none
    ∧ (read? "a|b".toList).map (·.isIn "b".toList) = some true := by
  decide +kernel

/-! ## The written form of a set of names -/

/-- Names side by side are written with a bar between them, each with its marks. -/
theorem source_anyOf_name {names : List String} (h : names ≠ []) :
    (anyOf (names.map name)).source
      = List.intercalate ['|'] (names.map fun x => (escape x).toList) := by
  induction names with
  | nil => exact absurd rfl h
  | cons x names ih =>
    have hname : (name x).source = (escape x).toList := by
      rw [escape, String.toList_ofList]
      rfl
    cases names with
    | nil => simp [anyOf, hname]
    | cons next others =>
      show (name x).source ++ '|' :: (anyOf ((next :: others).map name)).source = _
      rw [ih (List.cons_ne_nil _ _), hname]
      simp [List.intercalate_cons_cons]

/-- The text for a set of names: the names between bars, held to both ends. -/
theorem source_exactNames (names : List String) :
    (exactNames names).source
      = if arranged names = [] then "a^".toList
        else "^(?:".toList
          ++ List.intercalate ['|'] ((arranged names).map fun x => (escape x).toList)
          ++ ")$".toList := by
  unfold exactNames
  by_cases hnone : arranged names = []
  · rw [if_pos (List.isEmpty_iff.mpr hnone), if_pos hnone]
    rfl
  · rw [if_neg (fun h => hnone (List.isEmpty_iff.mp h)), if_neg hnone, ← source_anyOf_name hnone]
    show '^' :: '(' :: '?' :: ':' :: ((anyOf ((arranged names).map name)).source ++ [')']) ++ ['$']
      = _
    simp

theorem isLegible_anyOf {patterns : List Pattern}
    (h : ∀ pattern ∈ patterns, pattern.isLegible true = true) :
    (anyOf patterns).isLegible true = true := by
  induction patterns with
  | nil => rfl
  | cons pattern patterns ih =>
    obtain ⟨hpattern, hpatterns⟩ := List.forall_mem_cons.mp h
    cases patterns with
    | nil => exact hpattern
    | cons next others =>
      show (true && pattern.isLegible true && (anyOf (next :: others)).isLegible true) = true
      rw [hpattern, ih hpatterns]
      rfl

theorem isLegible_alternation (names : List String) :
    (alternation names).isLegible true = true := by
  refine isLegible_anyOf fun pattern hpattern => ?_
  obtain ⟨x, -, rfl⟩ := List.mem_map.mp hpattern
  rfl

theorem isLegible_exactNames (names : List String) : (exactNames names).isLegible true = true := by
  unfold exactNames
  split
  · rfl
  · show (true && (alternation names).isLegible true && true) = true
    rw [isLegible_alternation]
    rfl

/-- What is found in a line depends on the ways alone. -/
theorem find?_congr {one two : Pattern} (h : one.ways = two.ways) (line : List Char) :
    one.find? line = two.find? line := by
  rw [find?_eq, find?_eq]
  unfold matchAt?
  rw [h]

theorem isIn_exactNames_toList {names : List String} (probe : String) :
    (exactNames names).isIn probe.toList = true ↔ probe ≠ "" ∧ probe ∈ names := by
  rw [isIn_exactNames, String.ofList_toList, ne_eq, String.toList_eq_nil_iff]

/-- **The pattern of a set of names is membership in the set.** Its text, the marked names
between bars, can be read, and what is read finds what the pattern finds: the texts that are
one of the names and not empty. So it is not found in the empty text, and in no text at all if
every name is empty. -/
theorem exactNames_recognises {compiler : Compiler} {names : List String} {pattern : Pattern}
    (h : compiler.compile (exactNames names) = .ok pattern) :
    pattern.source
        = (if arranged names = [] then "a^".toList
          else "^(?:".toList
            ++ List.intercalate ['|'] ((arranged names).map fun x => (escape x).toList)
            ++ ")$".toList)
      ∧ ∃ read, read? pattern.source = some read
          ∧ (∀ line, read.find? line = pattern.find? line)
          ∧ (∀ probe : String, read.isIn probe.toList = true ↔ probe ≠ "" ∧ probe ∈ names)
          ∧ read.isIn [] = false
          ∧ ((∀ name ∈ names, name = "") → ∀ probe : String, read.isIn probe.toList = false) := by
  obtain rfl := compiler.eq_of_compile h
  obtain ⟨read, hread, hways⟩ := exists_read? (isLegible_exactNames names)
  have hfind : ∀ line, read.find? line = (exactNames names).find? line := find?_congr hways
  have hmem : ∀ probe : String, read.isIn probe.toList = true ↔ probe ≠ "" ∧ probe ∈ names := by
    intro probe
    rw [isIn, hfind]
    exact isIn_exactNames_toList probe
  refine ⟨source_exactNames names, read, hread, hfind, hmem, ?_, fun hempty probe => ?_⟩
  · exact Bool.eq_false_iff.mpr fun hin => ((hmem "").mp hin).1 rfl
  · refine Bool.eq_false_iff.mpr fun hin => ?_
    obtain ⟨hne, hname⟩ := (hmem probe).mp hin
    exact hne (hempty probe hname)

/-- Names made of signs of the notation, repeated and empty ones among them. The parts that the
signs would separate are not recognised. -/
theorem exactNames_recognises_signs :
    let names := ["a|b^$", "(?:x", "let*", "x\ny", "é", "*", "*", ""]
    let pattern := exactNames names
    Compiler.bounded.compile pattern = .ok pattern
      ∧ ∃ read, read? pattern.source = some read
          ∧ (∀ name ∈ names, name ≠ "" → read.isIn name.toList = true)
          ∧ read.isIn "a".toList = false ∧ read.isIn "lett".toList = false
          ∧ read.isIn "".toList = false := by
  intro names pattern
  have hcompile : Compiler.bounded.compile pattern = .ok pattern := by
    rw [← Compiler.accepts_iff]
    show Compiler.bounded.accepts (exactNames names) = true
    rw [exactNames_of_pairwise (by decide +kernel)]
    decide +kernel
  obtain ⟨-, read, hread, -, hmem, hempty, -⟩ := exactNames_recognises hcompile
  have hnot : ∀ probe : String, probe ∉ names → read.isIn probe.toList = false :=
    fun probe hprobe => Bool.eq_false_iff.mpr fun hin => hprobe ((hmem probe).mp hin).2
  exact ⟨hcompile, read, hread, fun name hname hne => (hmem name).mpr ⟨hne, hname⟩,
    hnot "a" (by decide), hnot "lett" (by decide), hempty⟩

end TurtleAssist.Pattern
