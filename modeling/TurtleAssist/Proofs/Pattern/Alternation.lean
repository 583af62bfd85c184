import Mathlib.Data.List.Basic
import Mathlib.Data.List.Perm.Basic
import TurtleAssist.Proofs.Pattern.Notation
import TurtleAssist.Proofs.Text.Unit

/-!
# The alternatives of a set of names

Of alternatives that stand side by side the first one that fits is taken. For names this is a
danger: a name that begins with another one is never found if the shorter name stands in front of
it. The names are therefore arranged by their length, and since what fits at one place of a text
is comparable, the first name that fits is the longest (`matchAt?_alternation`).

Length is counted in bytes, which is of no consequence here, as of two names that stand at the same
place the longer one has more bytes in whatever unit their length is compared. Equal length leaves
a choice, and the order of characters takes it away. So the order of alternatives is total
(`goesBefore_total`, `goesBefore_antisymm`), the arrangement has no freedom left, and it depends
on the set of the names alone (`arranged_congr`). In the other direction the set can be told from
the text of the pattern, because reading that text gives back what the pattern accepts.
-/

namespace TurtleAssist.Pattern

open Way

/-! ## The order of alternatives -/

section Order

variable {a b c : String}

theorem goesBefore_iff : goesBefore a b = true
    ↔ b.utf8ByteSize < a.utf8ByteSize ∨ a.utf8ByteSize = b.utf8ByteSize ∧ a ≤ b := by
  simp [goesBefore]

theorem goesBefore_trans (hab : goesBefore a b = true) (hbc : goesBefore b c = true) :
    goesBefore a c = true := by
  rw [goesBefore_iff] at hab hbc ⊢
  rcases hab with hab | ⟨hab, hle⟩
  · rcases hbc with hbc | ⟨hbc, -⟩
    · exact Or.inl (hbc.trans hab)
    · exact Or.inl (hbc ▸ hab)
  · rcases hbc with hbc | ⟨hbc, hle'⟩
    · exact Or.inl (hab ▸ hbc)
    · exact Or.inr ⟨hab.trans hbc, String.le_trans hle hle'⟩

/-- Of two names one goes before the other. -/
theorem goesBefore_total (a b : String) : (goesBefore a b || goesBefore b a) = true := by
  rw [Bool.or_eq_true, goesBefore_iff, goesBefore_iff]
  rcases Nat.lt_trichotomy a.utf8ByteSize b.utf8ByteSize with hlt | heq | hgt
  · exact Or.inr (Or.inl hlt)
  · rcases String.le_total a b with hle | hle
    · exact Or.inl (Or.inr ⟨heq, hle⟩)
    · exact Or.inr (Or.inr ⟨heq.symm, hle⟩)
  · exact Or.inl (Or.inl hgt)

theorem goesBefore_antisymm (hab : goesBefore a b = true) (hba : goesBefore b a = true) :
    a = b := by
  rw [goesBefore_iff] at hab hba
  rcases hab with hab | ⟨heq, hle⟩
  · rcases hba with hba | ⟨heq, -⟩
    · exact absurd hab (Nat.lt_asymm hba)
    · exact absurd heq (Nat.ne_of_lt hab)
  · rcases hba with hba | ⟨-, hle'⟩
    · exact absurd heq (Nat.ne_of_lt hba)
    · exact String.le_antisymm hle hle'

end Order

/-! ## The arrangement -/

section Arrangement

variable {names one two : List String}

/-- **Where equal names are neighbours, none is left twice**, and the order stays. -/
theorem pairwise_eraseReps {r : String → String → Prop}
    (hantisymm : ∀ a b, r a b → r b a → a = b) (h : names.Pairwise r) :
    names.eraseReps.Pairwise fun a b => r a b ∧ a ≠ b := by
  induction names with
  | nil => exact List.Pairwise.nil
  | cons a names ih =>
    obtain ⟨hfirst, hothers⟩ := List.pairwise_cons.mp h
    cases names with
    | nil => exact List.pairwise_singleton _ a
    | cons b names =>
      rw [eraseReps_cons_cons]
      by_cases hab : a = b
      · rw [if_pos hab]
        exact ih hothers
      · rw [if_neg hab]
        refine List.pairwise_cons.mpr ⟨fun c hc => ?_, ih hothers⟩
        have hmem : c ∈ b :: names := mem_eraseReps.mp hc
        refine ⟨hfirst c hmem, ?_⟩
        rintro rfl
        -- it would stand on both sides of the name after it
        rcases List.mem_cons.mp hmem with hcb | hlater
        · exact hab hcb
        · exact hab (hantisymm _ _ (hfirst b List.mem_cons_self)
            ((List.pairwise_cons.mp hothers).1 _ hlater))

/-- **The arranged names are in order, and each of them occurs once.** -/
theorem pairwise_arranged (names : List String) :
    (arranged names).Pairwise fun a b => goesBefore a b = true ∧ a ≠ b := by
  have hsorted : ((names.filter (· != "")).mergeSort goesBefore).Pairwise
      (goesBefore · · = true) :=
    @List.pairwise_mergeSort _ goesBefore (fun _ _ _ => goesBefore_trans) goesBefore_total _
  exact pairwise_eraseReps (fun _ _ => goesBefore_antisymm) hsorted

/-- **The arrangement depends on the nonempty names alone**, not on how they are listed. -/
theorem arranged_congr (h : ∀ x, x ≠ "" → (x ∈ one ↔ x ∈ two)) : arranged one = arranged two := by
  have hnodup : ∀ names, (arranged names).Nodup :=
    fun names => (pairwise_arranged names).imp And.right
  have hsorted : ∀ names, (arranged names).Pairwise (goesBefore · · = true) :=
    fun names => (pairwise_arranged names).imp And.left
  have hperm : (arranged one).Perm (arranged two) := by
    refine (List.perm_ext_iff_of_nodup (hnodup one) (hnodup two)).mpr fun x => ?_
    rw [mem_arranged, mem_arranged]
    exact and_congr_left fun hx => h x hx
  exact hperm.eq_of_pairwise (fun _ _ _ _ => goesBefore_antisymm) (hsorted one) (hsorted two)

/-! ## The text of the pattern -/

/-- The alternatives accept the nonempty names, also when there is none. -/
theorem accepts_alternation {x : String} (hx : x ≠ "") :
    (alternation names).Accepts x.toList ↔ x ∈ names := by
  have hmem : x ∈ arranged names ↔ x ∈ names :=
    mem_arranged.trans (and_iff_left hx)
  rw [← hmem]
  unfold alternation
  by_cases hnone : arranged names = []
  · rw [hnone]
    refine iff_of_false (fun haccepts => hx ?_) List.not_mem_nil
    exact String.toList_eq_nil_iff.mp haccepts
  · rw [accepts_anyOf fun hnil => hnone (List.map_eq_nil_iff.mp hnil)]
    simp only [List.mem_map, exists_exists_and_eq_and, accepts_name, String.toList_inj,
      exists_eq_right']

/-- Patterns that ask nothing of their place and have the same ways accept the same texts. -/
theorem accepts_congr {first second : Pattern} (hfirst : first.isPlaceless = true)
    (hsecond : second.isPlaceless = true) (h : first.ways = second.ways) {s : List Char} :
    first.Accepts s ↔ second.Accepts s := by
  have hleads : ∀ {pattern : Pattern}, pattern.isPlaceless = true →
      (pattern.Accepts s ↔ Leads pattern.ways ⟨0, s⟩ ⟨s.length, []⟩) := by
    intro pattern hpattern
    rw [leads_iff_accepts hpattern]
    constructor
    · exact fun haccepts => ⟨s, ⟨(List.append_nil s).symm, (Nat.zero_add _).symm⟩, haccepts⟩
    · rintro ⟨t, hreads, haccepts⟩
      obtain rfl : s = t := hreads.1.trans (List.append_nil t)
      exact haccepts
  rw [hleads hfirst, hleads hsecond, h]

/-- **The text of the alternatives is that of the set of names**: it is the same for two lists
exactly if they have the same nonempty names. -/
theorem source_alternation_eq_iff :
    (alternation one).source = (alternation two).source
      ↔ ∀ x, x ≠ "" → (x ∈ one ↔ x ∈ two) := by
  constructor
  · intro h x hx
    obtain ⟨read, hread, hways⟩ := exists_read? (isLegible_alternation one)
    obtain ⟨read', hread', hways'⟩ := exists_read? (isLegible_alternation two)
    rw [h, hread'] at hread
    obtain rfl : read' = read := Option.some.inj hread
    exact (accepts_alternation hx).symm.trans
      ((accepts_congr (isPlaceless_alternation one) (isPlaceless_alternation two)
        (hways.symm.trans hways')).trans (accepts_alternation hx))
  · intro h
    unfold alternation
    rw [arranged_congr h]

end Arrangement

/-! ## The name that is taken -/

/-- **The longest of the names that stand at the beginning of a text.** -/
structure IsLongestAt (names : List String) (rest : List Char) (x : String) : Prop where
  mem : x ∈ names
  ne_empty : x ≠ ""
  stands : x.toList <+: rest
  longest : ∀ y ∈ names, y.toList <+: rest → y.length ≤ x.length

section Taken

variable {names : List String} {rest : List Char} {place : Place} {found : Match} {x y : String}

theorem IsLongestAt.unique (hx : IsLongestAt names rest x) (hy : IsLongestAt names rest y) :
    x = y := by
  have hlength : x.toList.length = y.toList.length := by
    have h₁ := hx.longest y hy.mem hy.stands
    have h₂ := hy.longest x hx.mem hx.stands
    rw [String.length_toList, String.length_toList]
    omega
  have hbegins : x.toList <+: y.toList :=
    List.prefix_of_prefix_length_le hx.stands hy.stands (Nat.le_of_eq hlength)
  exact String.toList_inj.mp (hbegins.eq_of_length hlength)

/-- Of two names at the same place the longer one has more bytes. -/
theorem length_le_of_utf8ByteSize_le (hx : x.toList <+: rest) (hy : y.toList <+: rest)
    (h : y.utf8ByteSize ≤ x.utf8ByteSize) : y.length ≤ x.length := by
  by_contra hlt
  have hle : x.toList.length ≤ y.toList.length := by
    rw [String.length_toList, String.length_toList]
    exact Nat.le_of_not_le hlt
  obtain ⟨more, hmore⟩ := List.prefix_of_prefix_length_le hx hy hle
  have happend : y = x ++ String.ofList more := by
    rw [← String.toList_inj, String.toList_append, String.toList_ofList, hmore]
  have hnone : (String.ofList more).utf8ByteSize = 0 := by
    rw [happend, String.utf8ByteSize_append] at h
    omega
  rw [String.utf8ByteSize_eq_zero_iff] at hnone
  rw [happend, hnone, String.append_empty] at hlt
  exact hlt (Nat.le_refl _)

theorem ways_anyOf {patterns : List Pattern} (hne : patterns ≠ []) (place : Place) :
    (anyOf patterns).ways place = patterns.flatMap fun pattern => pattern.ways place := by
  induction patterns with
  | nil => exact absurd rfl hne
  | cons pattern patterns ih =>
    cases patterns with
    | nil => simp [anyOf]
    | cons next others =>
      show pattern.ways place ++ (anyOf (next :: others)).ways place = _
      rw [ih (List.cons_ne_nil _ _)]
      rfl

/-- The first way through the alternatives is that of the first name that stands at the place. -/
theorem head?_ways_alternation (hne : arranged names ≠ []) (place : Place) :
    ((alternation names).ways place).head?
      = (arranged names).findSome? fun x => (place.after? x.toList).map stay := by
  unfold alternation
  rw [ways_anyOf (fun hnil => hne (List.map_eq_nil_iff.mp hnil)), List.flatMap_map,
    List.head?_flatMap]
  refine congrArg (List.findSome? · (arranged names)) (funext fun x => ?_)
  show ((place.after? x.toList).map stay).toList.head? = _
  exact Option.head?_toList

theorem isSome_after? {text : List Char} :
    (place.after? text).isSome = true ↔ text <+: place.rest := by
  rw [Option.isSome_iff_exists]
  simp only [Place.after?_eq_some]
  constructor
  · rintro ⟨stop, hreads⟩
    exact ⟨stop.rest, hreads.1.symm⟩
  · rintro ⟨after, hafter⟩
    exact ⟨⟨place.offset + text.length, after⟩, hafter.symm, rfl⟩

/-- There is a match wherever one of the names stands. -/
theorem isSome_matchAt?_alternation (hne : arranged names ≠ []) :
    ((alternation names).matchAt? place).isSome = true
      ↔ ∃ x ∈ names, x ≠ "" ∧ x.toList <+: place.rest := by
  unfold matchAt?
  rw [Option.isSome_map, head?_ways_alternation hne, List.findSome?_isSome_iff]
  simp only [Option.isSome_map, isSome_after?, mem_arranged, and_assoc]

/-- The first of the arranged names that stands at the beginning of a text is the longest one. -/
theorem isLongestAt_of_first {before after : List String}
    (hsplit : arranged names = before ++ x :: after) (hstands : x.toList <+: rest)
    (hbefore : ∀ y ∈ before, ¬ y.toList <+: rest) : IsLongestAt names rest x := by
  have hmem : x ∈ names ∧ x ≠ "" :=
    mem_arranged.mp (hsplit ▸ List.mem_append_right before List.mem_cons_self)
  have hsorted := pairwise_arranged names
  rw [hsplit] at hsorted
  have hafter := (List.pairwise_cons.mp (List.pairwise_append.mp hsorted).2.1).1
  refine ⟨hmem.1, hmem.2, hstands, fun y hy hbegins => ?_⟩
  by_cases hempty : y = ""
  · rw [hempty]
    exact Nat.zero_le _
  · have hin : y ∈ before ++ x :: after := hsplit ▸ mem_arranged.mpr ⟨hy, hempty⟩
    rcases List.mem_append.mp hin with hfront | hin
    · exact absurd hbegins (hbefore y hfront)
    · rcases List.mem_cons.mp hin with rfl | hlater
      · exact Nat.le_refl _
      · refine length_le_of_utf8ByteSize_le hstands hbegins ?_
        rcases goesBefore_iff.mp (hafter y hlater).1 with hlt | ⟨heq, -⟩
        · exact Nat.le_of_lt hlt
        · exact Nat.le_of_eq heq.symm

/-- **The match of the alternatives at a place is the longest name that stands there.** -/
theorem matchAt?_alternation (hne : arranged names ≠ []) :
    (alternation names).matchAt? place = some found
      ↔ ∃ x, IsLongestAt names place.rest x
          ∧ found = ⟨⟨place.offset, place.offset + x.length⟩, []⟩ := by
  have hlongest : ∀ {found}, (alternation names).matchAt? place = some found →
      ∃ x, IsLongestAt names place.rest x
        ∧ found = ⟨⟨place.offset, place.offset + x.length⟩, []⟩ := by
    intro found h
    obtain ⟨way, hway, rfl⟩ := Option.map_eq_some_iff.mp h
    rw [head?_ways_alternation hne] at hway
    obtain ⟨before, x, after, hsplit, hx, hbefore⟩ := List.findSome?_eq_some_iff.mp hway
    obtain ⟨stop, hstop, rfl⟩ := Option.map_eq_some_iff.mp hx
    have hreads := Place.after?_eq_some.mp hstop
    refine ⟨x, isLongestAt_of_first hsplit ⟨stop.rest, hreads.1.symm⟩ fun y hy hbegins => ?_, ?_⟩
    · have hsome := isSome_after?.mpr hbegins
      rw [Option.map_eq_none_iff.mp (hbefore y hy)] at hsome
      cases hsome
    · show (⟨⟨place.offset, stop.offset⟩, []⟩ : Match) = _
      rw [hreads.2, String.length_toList]
  refine ⟨hlongest, ?_⟩
  rintro ⟨x, hx, rfl⟩
  have hsome : ((alternation names).matchAt? place).isSome = true :=
    (isSome_matchAt?_alternation hne).mpr ⟨x, hx.mem, hx.ne_empty, hx.stands⟩
  obtain ⟨found, hfound⟩ := Option.isSome_iff_exists.mp hsome
  obtain ⟨y, hy, rfl⟩ := hlongest hfound
  rw [hfound, hx.unique hy]

end Taken

/-- **The alternatives of a set of names.** Their text is that of the set: two lists give the same
text exactly if they have the same nonempty names. And no name is hidden by another one. The text
can be read, and what is read has a match at a place of a line exactly if one of the nonempty names
stands there; the match then is the longest of them. -/
theorem alternation_selects_longest :
    (∀ one two : List String, (alternation one).source = (alternation two).source
        ↔ ∀ x, x ≠ "" → (x ∈ one ↔ x ∈ two))
      ∧ ∀ (compiler : Compiler) (names : List String) (pattern : Pattern), (∃ x ∈ names, x ≠ "") →
          compiler.compile (alternation names) = .ok pattern →
          ∃ read, read? pattern.source = some read ∧ read.ways = pattern.ways
            ∧ ∀ before rest : List Char,
              ((read.matchAt? ⟨before.length, rest⟩).isSome = true
                  ↔ ∃ x ∈ names, x ≠ "" ∧ x.toList <+: rest)
                ∧ ∀ found, read.matchAt? ⟨before.length, rest⟩ = some found
                    ↔ ∃ x, IsLongestAt names rest x ∧ found.captures = []
                        ∧ found.span = ⟨before.length, before.length + x.length⟩
                        ∧ found.span.text (before ++ rest) = x.toList := by
  refine ⟨fun one two => source_alternation_eq_iff, fun compiler names pattern hname h => ?_⟩
  obtain rfl := compiler.eq_of_compile h
  have hne : arranged names ≠ [] := by
    obtain ⟨x, hx, hempty⟩ := hname
    exact List.ne_nil_of_mem (mem_arranged.mpr ⟨hx, hempty⟩)
  obtain ⟨read, hread, hways⟩ := exists_read? (isLegible_alternation names)
  refine ⟨read, hread, hways, fun before rest => ?_⟩
  have hmatch : read.matchAt? ⟨before.length, rest⟩
      = (alternation names).matchAt? ⟨before.length, rest⟩ := by
    unfold matchAt?
    rw [hways]
  rw [hmatch]
  refine ⟨isSome_matchAt?_alternation hne, fun found => ?_⟩
  rw [matchAt?_alternation hne]
  refine exists_congr fun x => and_congr_right fun hx => ?_
  obtain ⟨after, rfl⟩ := hx.stands
  constructor
  · rintro rfl
    refine ⟨rfl, rfl, ?_⟩
    simp [Text.Span.text, ← String.length_toList]
  · rintro ⟨hcaptures, hspan, -⟩
    obtain ⟨span, captures⟩ := found
    exact congrArg₂ Match.mk hspan hcaptures

/-- Names one of which begins with another, and one with a sign of the notation. -/
theorem alternation_selects_longest_move :
    let names := ["move-to-center", "move-to", "a|b", "up", "up", ""]
    let pattern := alternation names
    Compiler.bounded.compile pattern = .ok pattern
      ∧ (alternation ["up", "", "move-to", "a|b", "move-to-center"]).source = pattern.source
      ∧ ∃ read, read? pattern.source = some read
          ∧ read.matchAt? ⟨1, "move-to-center)".toList⟩ = some ⟨⟨1, 15⟩, []⟩
          ∧ read.matchAt? ⟨1, "move-to 1 2)".toList⟩ = some ⟨⟨1, 8⟩, []⟩
          ∧ (read.matchAt? ⟨1, "b)".toList⟩).isSome = false := by
  intro names pattern
  have harranged : arranged names = ["move-to-center", "move-to", "a|b", "up"] := by
    rw [arranged_of_pairwise (by decide +kernel)]
    decide +kernel
  have hcompile : Compiler.bounded.compile pattern = .ok pattern := by
    rw [← Compiler.accepts_iff]
    show Compiler.bounded.accepts (anyOf ((arranged names).map name)) = true
    rw [harranged]
    decide +kernel
  obtain ⟨hsource, htaken⟩ := alternation_selects_longest
  obtain ⟨read, hread, -, hmatch⟩ := htaken .bounded names pattern ⟨"up", by decide, by decide⟩
    hcompile
  refine ⟨hcompile, (hsource _ _).mpr fun x _ => by simp [names, or_comm, or_left_comm], read,
    hread, ?_, ?_, ?_⟩
  · refine ((hmatch ['('] _).2 _).mpr ⟨"move-to-center", ⟨?_, ?_, ?_, ?_⟩, rfl, ?_, ?_⟩ <;> decide
  · refine ((hmatch ['('] _).2 _).mpr ⟨"move-to", ⟨?_, ?_, ?_, ?_⟩, rfl, ?_, ?_⟩ <;> decide
  · refine Bool.eq_false_iff.mpr fun hsome => ?_
    obtain ⟨x, hx, hempty, hstands⟩ := (hmatch ['('] _).1.mp hsome
    revert x
    decide

end TurtleAssist.Pattern
