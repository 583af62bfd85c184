import Mathlib.Data.List.Basic
import TurtleAssist.Proofs.Pattern.Search

/-!
# The texts that a pattern accepts

A pattern without the two ends of the text does not care where it stands: it
leads from one place to another exactly if it accepts the text between them
(`leads_iff_accepts`). Which texts these are is read off the tree, with no
places and no order of preference: texts of patterns in a row are appended, a
repetition is a list of texts of its body.

So a pattern is found in a line exactly if the line has a stretch that it
accepts (`isIn_iff_accepts`), and the match begins where the leftmost of
these begins (`exists_stretch_of_find?`). What a pattern accepts is asked about one
text at a time, and that is how the rules are reasoned about from here on.
-/

namespace TurtleAssist.Pattern

open Way

/-! ## Where a step leads -/

/-- One of the ways of a step leads from a place to another. -/
def Way.Leads (step : Place → List Way) (place stop : Place) : Prop :=
  ∃ way ∈ step place, way.stop = stop

/-- **The step reads the texts of a class**, from every place, and leads to no place
otherwise. -/
def Way.ReadsClass (step : Place → List Way) (inClass : List Char → Prop) : Prop :=
  ∀ place stop, Leads step place stop ↔ ∃ text, place.Reads text stop ∧ inClass text

namespace Way

variable {first second step : Place → List Way} {one two inClass : List Char → Prop}
  {p q r : Place} {s t : List Char}

theorem leads_compose :
    Leads (compose first second) p r ↔ ∃ q, Leads first p q ∧ Leads second q r := by
  refine ⟨?_, ?_⟩
  · rintro ⟨way, hway, rfl⟩
    obtain ⟨begun, hbegun, last, hlast, rfl⟩ := mem_compose.mp hway
    exact ⟨begun.stop, ⟨begun, hbegun, rfl⟩, last, hlast, rfl⟩
  · rintro ⟨q, ⟨begun, hbegun, rfl⟩, last, hlast, rfl⟩
    exact ⟨_, mem_compose.mpr ⟨begun, hbegun, last, hlast, rfl⟩, rfl⟩

theorem leads_append :
    Leads (fun place => first place ++ second place) p q ↔ Leads first p q ∨ Leads second p q := by
  simp only [Leads, List.mem_append, or_and_right, exists_or]

theorem leads_stay : Leads (fun place => [stay place]) p q ↔ q = p := by
  simp [Leads, stay, eq_comm]

theorem readsClass_stay : ReadsClass (fun place => [stay place]) (· = []) := by
  intro place stop
  refine leads_stay.trans ⟨fun h => ⟨[], h ▸ .refl place, rfl⟩, ?_⟩
  rintro ⟨text, hreads, rfl⟩
  exact hreads.stop_unique (.refl place)

theorem ReadsClass.compose (h₁ : ReadsClass first one) (h₂ : ReadsClass second two) :
    ReadsClass (compose first second) fun text => ∃ s t, text = s ++ t ∧ one s ∧ two t := by
  intro place stop
  rw [leads_compose]
  constructor
  · rintro ⟨middle, hfirst, hsecond⟩
    obtain ⟨s, hs, hone⟩ := (h₁ place middle).mp hfirst
    obtain ⟨t, ht, htwo⟩ := (h₂ middle stop).mp hsecond
    exact ⟨s ++ t, hs.trans ht, s, t, rfl, hone, htwo⟩
  · rintro ⟨text, hreads, s, t, rfl, hone, htwo⟩
    obtain ⟨middle, hs, ht⟩ := Place.Reads.append_iff.mp hreads
    exact ⟨middle, (h₁ place middle).mpr ⟨s, hs, hone⟩, (h₂ middle stop).mpr ⟨t, ht, htwo⟩⟩

theorem ReadsClass.append (h₁ : ReadsClass first one) (h₂ : ReadsClass second two) :
    ReadsClass (fun place => first place ++ second place) fun text => one text ∨ two text := by
  intro place stop
  rw [leads_append, h₁, h₂, ← exists_or]
  exact exists_congr fun text => and_or_left.symm

/-- So many rounds read so many texts in a row. -/
theorem ReadsClass.exactly (h : ReadsClass step inClass) (n : Nat) :
    ReadsClass (exactly step n) fun text =>
      ∃ parts : List (List Char), text = parts.flatten ∧ (∀ part ∈ parts, inClass part)
        ∧ parts.length = n := by
  induction n with
  | zero =>
    intro place stop
    refine (readsClass_stay place stop).trans (exists_congr fun text => and_congr_right fun _ => ?_)
    constructor
    · rintro rfl
      exact ⟨[], rfl, List.forall_mem_nil _, rfl⟩
    · rintro ⟨parts, rfl, -, hlength⟩
      rw [List.eq_nil_of_length_eq_zero hlength, List.flatten_nil]
  | succ n ih =>
    intro place stop
    refine (h.compose ih place stop).trans (exists_congr fun text => and_congr_right fun _ => ?_)
    constructor
    · rintro ⟨part, t, rfl, hpart, parts, rfl, hparts, hlength⟩
      exact ⟨part :: parts, rfl, List.forall_mem_cons.mpr ⟨hpart, hparts⟩,
        congrArg (· + 1) hlength⟩
    · rintro ⟨parts, rfl, hparts, hlength⟩
      obtain ⟨part, others, rfl⟩ := List.exists_cons_of_length_eq_add_one hlength
      obtain ⟨hpart, hothers⟩ := List.forall_mem_cons.mp hparts
      exact ⟨part, others.flatten, rfl, hpart, others, rfl, hothers, Nat.succ.inj hlength⟩

/-- At most so many rounds read at most so many texts in a row. -/
theorem ReadsClass.upTo (h : ReadsClass step inClass) (n : Nat) :
    ReadsClass (upTo step n) fun text =>
      ∃ parts : List (List Char), text = parts.flatten ∧ (∀ part ∈ parts, inClass part)
        ∧ parts.length ≤ n := by
  induction n with
  | zero =>
    intro place stop
    refine (readsClass_stay place stop).trans (exists_congr fun text => and_congr_right fun _ => ?_)
    constructor
    · rintro rfl
      exact ⟨[], rfl, List.forall_mem_nil _, Nat.le_refl 0⟩
    · rintro ⟨parts, rfl, -, hlength⟩
      rw [List.eq_nil_of_length_eq_zero (Nat.le_zero.mp hlength), List.flatten_nil]
  | succ n ih =>
    intro place stop
    refine ((h.compose ih).append readsClass_stay place stop).trans
      (exists_congr fun text => and_congr_right fun _ => ?_)
    constructor
    · rintro (⟨part, t, rfl, hpart, parts, rfl, hparts, hlength⟩ | rfl)
      · exact ⟨part :: parts, rfl, List.forall_mem_cons.mpr ⟨hpart, hparts⟩,
          Nat.succ_le_succ hlength⟩
      · exact ⟨[], rfl, List.forall_mem_nil _, Nat.zero_le _⟩
    · rintro ⟨parts, rfl, hparts, hlength⟩
      cases parts with
      | nil => exact Or.inr rfl
      | cons part others =>
        obtain ⟨hpart, hothers⟩ := List.forall_mem_cons.mp hparts
        exact Or.inl ⟨part, others.flatten, rfl, hpart, others, rfl, hothers,
          Nat.le_of_succ_le_succ hlength⟩

/-- An unbounded repetition reads any number of texts in a row. Rounds that read nothing
are not made, and are not missed. -/
theorem ReadsClass.repeatedly (hstep : Advances step) (h : ReadsClass step inClass) :
    ReadsClass (repeatedly step) fun text =>
      ∃ parts : List (List Char), text = parts.flatten ∧ ∀ part ∈ parts, inClass part := by
  intro place stop
  have hround : ∀ place, Leads (Way.repeatedly step) place stop
      ↔ (∃ middle, Leads (further step) place middle ∧ Leads (Way.repeatedly step) middle stop)
        ∨ stop = place := by
    intro place
    rw [← leads_compose, ← leads_stay, ← leads_append]
    unfold Leads
    rw [repeatedly_eq hstep]
  constructor
  · -- the ways are followed round by round, with less of the line left after each
    generalize hleft : place.rest.length = left
    induction left using Nat.strongRecOn generalizing place with
    | ind left ih =>
      intro hleads
      rcases (hround place).mp hleads with ⟨middle, hfurther, hlast⟩ | rfl
      · obtain ⟨way, hway, rfl⟩ := hfurther
        obtain ⟨hmem, hfar⟩ := List.mem_filter.mp hway
        obtain ⟨part, hpart, hclass⟩ := (h place way.stop).mp ⟨way, hmem, rfl⟩
        have hless : way.stop.rest.length < left := by
          have h₁ := hpart.length_rest_add
          have h₂ := hpart.2
          have h₃ := of_decide_eq_true hfar
          omega
        obtain ⟨text, htext, parts, rfl, hparts⟩ := ih _ hless way.stop rfl hlast
        exact ⟨part ++ parts.flatten, hpart.trans htext, part :: parts, rfl,
          List.forall_mem_cons.mpr ⟨hclass, hparts⟩⟩
      · exact ⟨[], .refl stop, [], rfl, List.forall_mem_nil _⟩
  · rintro ⟨text, hreads, parts, rfl, hparts⟩
    induction parts generalizing place with
    | nil => exact (hround place).mpr (Or.inr (hreads.stop_unique (.refl place)))
    | cons part parts ih =>
      obtain ⟨hclass, hparts⟩ := List.forall_mem_cons.mp hparts
      obtain ⟨middle, hpart, hlast⟩ := Place.Reads.append_iff.mp hreads
      have hleads := ih middle hparts hlast
      by_cases hempty : part = []
      · subst hempty
        exact (hpart.stop_unique (.refl place)) ▸ hleads
      · refine (hround place).mpr (Or.inl ⟨middle, ?_, hleads⟩)
        obtain ⟨way, hway, hstop⟩ := (h place middle).mpr ⟨part, hpart, hclass⟩
        refine ⟨way, List.mem_filter.mpr ⟨hway, decide_eq_true ?_⟩, hstop⟩
        have hpos := List.length_pos_iff.mpr hempty
        rw [hstop, hpart.2]
        omega

end Way

/-! ## What a pattern accepts -/

/-- **The texts that a pattern accepts**, wherever they stand. The two ends of the text
accept nothing but the empty text; what they ask of the place is left out. -/
def Accepts : Pattern → List Char → Prop
  | .empty, s => s = []
  | .literal _ text, s => s = text
  | .one set, s => ∃ c, set.contains c = true ∧ s = [c]
  | .run set nonempty _, s => (nonempty = true → s ≠ []) ∧ ∀ c ∈ s, set.contains c = true
  | .textStart, s => s = []
  | .textEnd, s => s = []
  | .seq first second, s => ∃ s₁ s₂, s = s₁ ++ s₂ ∧ first.Accepts s₁ ∧ second.Accepts s₂
  | .alt preferred other, s => preferred.Accepts s ∨ other.Accepts s
  | .group body, s => body.Accepts s
  | .capture _ body, s => body.Accepts s
  | .times body quantifier, s =>
    ∃ parts : List (List Char), s = parts.flatten ∧ (∀ part ∈ parts, body.Accepts part)
      ∧ quantifier.least ≤ parts.length
      -- the rounds that are due are made, whatever the largest number
      ∧ ∀ most ∈ quantifier.most, parts.length ≤ max quantifier.least most

/-- Whether a pattern asks nothing of the place where it stands. -/
def isPlaceless : Pattern → Bool
  | .textStart => false
  | .textEnd => false
  | .seq first second => first.isPlaceless && second.isPlaceless
  | .alt preferred other => preferred.isPlaceless && other.isPlaceless
  | .group body => body.isPlaceless
  | .capture _ body => body.isPlaceless
  | .times body _ => body.isPlaceless
  | _ => true

theorem readsClass_literal (spelling : Spelling) (text : List Char) :
    ReadsClass (literal spelling text).ways (literal spelling text).Accepts := by
  intro place stop
  constructor
  · rintro ⟨way, hway, rfl⟩
    exact ⟨text, (mem_ways_literal.mp hway).1, rfl⟩
  · rintro ⟨_, hreads, rfl⟩
    exact ⟨stay stop, mem_ways_literal.mpr ⟨hreads, rfl⟩, rfl⟩

theorem readsClass_one (set : CharSet) :
    ReadsClass (Pattern.one set).ways (Pattern.one set).Accepts := by
  intro place stop
  constructor
  · rintro ⟨way, hway, rfl⟩
    obtain ⟨hstart, rfl⟩ := mem_ways_one.mp hway
    obtain ⟨c, hc, hreads⟩ := Place.reads_next hstart
    exact ⟨[c], hreads, c, hc, rfl⟩
  · rintro ⟨text, hreads, c, hc, rfl⟩
    obtain ⟨hstart, hnext⟩ := hreads.startsIn hc
    exact ⟨stay place.next, mem_ways_one.mpr ⟨hstart, rfl⟩, hnext⟩

theorem readsClass_run (set : CharSet) (nonempty greedy : Bool) :
    ReadsClass (Pattern.run set nonempty greedy).ways
      (Pattern.run set nonempty greedy).Accepts := by
  intro place stop
  constructor
  · rintro ⟨way, hway, rfl⟩
    obtain ⟨text, hne, htext, -, hreads⟩ := mem_ways_run.mp hway
    exact ⟨text, hreads, hne, htext⟩
  · rintro ⟨text, hreads, hne, htext⟩
    exact ⟨stay stop, mem_ways_run.mpr ⟨text, hne, htext, rfl, hreads⟩, rfl⟩

theorem readsClass_times {body : Pattern} (h : ReadsClass body.ways body.Accepts)
    (quantifier : Quantifier) :
    ReadsClass (body.times quantifier).ways (body.times quantifier).Accepts := by
  intro place stop
  have hbeyond : ReadsClass (beyondLeast body.ways quantifier) fun text =>
      ∃ parts : List (List Char), text = parts.flatten ∧ (∀ part ∈ parts, body.Accepts part)
        ∧ ∀ most ∈ quantifier.most, parts.length ≤ most - quantifier.least := by
    intro place stop
    unfold Leads beyondLeast
    cases quantifier.most with
    | some most =>
      refine (h.upTo (most - quantifier.least) place stop).trans (exists_congr fun text => ?_)
      simp
    | none =>
      refine (h.repeatedly (ways_advance body) place stop).trans (exists_congr fun text => ?_)
      simp
  refine ((h.exactly quantifier.least).compose hbeyond place stop).trans
    (exists_congr fun text => and_congr_right fun _ => ?_)
  constructor
  · rintro ⟨_, _, rfl, ⟨due, rfl, hdue, hleast⟩, more, rfl, hmore, hmost⟩
    refine ⟨due ++ more, List.flatten_append.symm, List.forall_mem_append.mpr ⟨hdue, hmore⟩, ?_, ?_⟩
    · rw [List.length_append]
      omega
    · intro most hmem
      have := hmost most hmem
      rw [List.length_append]
      omega
  · rintro ⟨parts, rfl, hparts, hleast, hmost⟩
    refine ⟨(parts.take quantifier.least).flatten, (parts.drop quantifier.least).flatten, ?_,
      ⟨_, rfl, fun part hpart => hparts part (List.mem_of_mem_take hpart), ?_⟩,
      _, rfl, fun part hpart => hparts part (List.mem_of_mem_drop hpart), ?_⟩
    · rw [← List.flatten_append, List.take_append_drop]
    · rw [List.length_take]
      omega
    · intro most hmem
      have := hmost most hmem
      rw [List.length_drop]
      omega

/-- A pattern that asks nothing of its place reads the texts that it accepts. -/
theorem readsClass_ways {pattern : Pattern} (h : pattern.isPlaceless = true) :
    ReadsClass pattern.ways pattern.Accepts := by
  induction pattern with
  | empty => exact readsClass_stay
  | literal spelling text => exact readsClass_literal spelling text
  | one set => exact readsClass_one set
  | run set nonempty greedy => exact readsClass_run set nonempty greedy
  | textStart => cases h
  | textEnd => cases h
  | seq first second ih₁ ih₂ =>
    obtain ⟨hfirst, hsecond⟩ := Bool.and_eq_true_iff.mp h
    exact (ih₁ hfirst).compose (ih₂ hsecond)
  | alt preferred other ih₁ ih₂ =>
    obtain ⟨hpreferred, hother⟩ := Bool.and_eq_true_iff.mp h
    exact (ih₁ hpreferred).append (ih₂ hother)
  | group body ih => exact ih h
  | capture label body ih =>
    intro place stop
    refine Iff.trans ?_ (ih h place stop)
    unfold Leads
    rw [ways]
    simp
  | times body quantifier ih => exact readsClass_times (ih h) quantifier

/-- **A pattern that asks nothing of its place leads from one place to another exactly if it
accepts the text between them.** -/
theorem leads_iff_accepts {pattern : Pattern} (h : pattern.isPlaceless = true)
    {place stop : Place} :
    Leads pattern.ways place stop ↔ ∃ text, place.Reads text stop ∧ pattern.Accepts text :=
  readsClass_ways h place stop

/-! ## Stretches of a line -/

/-- A place of a line is what comes after a beginning of the line. -/
theorem mem_places_iff {line : List Char} {place : Place} :
    place ∈ placesFrom 0 line ↔ ∃ before, line = before ++ place.rest
      ∧ place.offset = before.length := by
  rw [mem_placesFrom]
  refine exists_congr fun before => and_congr_right fun _ => ?_
  rw [Nat.zero_add]

theorem ways_eq_nil_iff {pattern : Pattern} (h : pattern.isPlaceless = true) {place : Place} :
    pattern.ways place = []
      ↔ ∀ text rest, place.rest = text ++ rest → ¬ pattern.Accepts text := by
  rw [List.eq_nil_iff_forall_not_mem]
  constructor
  · intro hnone text rest hrest haccepts
    obtain ⟨offset, _⟩ := place
    cases hrest
    obtain ⟨way, hway, -⟩ := (leads_iff_accepts h).mpr
      ⟨text, Place.reads_append offset text rest, haccepts⟩
    exact hnone way hway
  · intro hnone way hway
    obtain ⟨text, hreads, haccepts⟩ := (leads_iff_accepts h).mp ⟨way, hway, rfl⟩
    exact hnone text way.stop.rest hreads.1 haccepts

/-- **A pattern is in a line exactly if it accepts a stretch of it.** -/
theorem isIn_iff_accepts {pattern : Pattern} (h : pattern.isPlaceless = true)
    {line : List Char} :
    pattern.isIn line = true
      ↔ ∃ before text rest, line = before ++ (text ++ rest) ∧ pattern.Accepts text := by
  rw [isIn, Option.isSome_iff_ne_none, ne_eq, find?_eq_none_iff]
  constructor
  · intro hfound
    by_contra hnone
    refine hfound fun place hplace => (ways_eq_nil_iff h).mpr fun text rest hrest haccepts => ?_
    obtain ⟨before, hline, -⟩ := mem_places_iff.mp hplace
    exact hnone ⟨before, text, rest, hrest ▸ hline, haccepts⟩
  · rintro ⟨before, text, rest, hline, haccepts⟩ hnone
    have hplace : (⟨before.length, text ++ rest⟩ : Place) ∈ placesFrom 0 line :=
      mem_places_iff.mpr ⟨before, hline, rfl⟩
    exact (ways_eq_nil_iff h).mp (hnone _ hplace) text rest rfl haccepts

/-- **The match in a line covers a stretch that the pattern accepts**, and no stretch that it
accepts begins further left. -/
theorem exists_stretch_of_find? {pattern : Pattern} (h : pattern.isPlaceless = true)
    {line : List Char} {found : Match} (hfound : pattern.find? line = some found) :
    ∃ before text rest, line = before ++ (text ++ rest) ∧ pattern.Accepts text
      ∧ found.span = ⟨before.length, before.length + text.length⟩
      ∧ ∀ before' text' rest', line = before' ++ (text' ++ rest') → pattern.Accepts text' →
          before.length ≤ before'.length := by
  obtain ⟨place, hplace, hmatch, hleftmost⟩ := find?_eq_some_iff.mp hfound
  obtain ⟨before, hline, hoffset⟩ := mem_places_iff.mp hplace
  obtain ⟨way, hway, rfl⟩ := exists_way_of_matchAt? hmatch
  obtain ⟨text, hreads, haccepts⟩ := (leads_iff_accepts h).mp ⟨way, hway, rfl⟩
  refine ⟨before, text, way.stop.rest, hreads.1 ▸ hline, haccepts, ?_, ?_⟩
  · rw [hreads.2, hoffset]
  · intro before' text' rest' hline' haccepts'
    by_contra hlt
    have hmem : (⟨before'.length, text' ++ rest'⟩ : Place) ∈ placesFrom 0 line :=
      mem_places_iff.mpr ⟨before', hline', rfl⟩
    refine (ways_eq_nil_iff h).mp (hleftmost _ hmem ?_) text' rest' rfl haccepts'
    rw [hoffset]
    exact Nat.not_le.mp hlt

end TurtleAssist.Pattern
