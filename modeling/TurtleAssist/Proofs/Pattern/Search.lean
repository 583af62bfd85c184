import Mathlib.Data.List.Basic
import TurtleAssist.Pattern.Match
import TurtleAssist.Proofs.Pattern.Outlook

/-!
# The search finds the leftmost match

A line is searched after a glance, and the search computes outcomes instead of
ways. Neither matters for what is found: `candidates_eq` says that the matches
in a line are the preferred ways from its places, taken from left to right, and
`find?_eq_some_iff` that the match in a line is the one at the first place from
which a way leads through the pattern.

The glance needs a proof of its own. `prospect_sound` says that the places it
answers with hold the ends of all ways, so that a pattern without prospects has
no ways either.
-/

namespace TurtleAssist.Pattern

open Way

/-! ## The first glance -/

theorem eq_of_fewPlaces {places found : List Place} (h : fewPlaces places = some found) :
    found = places := by
  unfold fewPlaces at h
  by_cases hfew : places.length ≤ breadth
  · rw [if_pos hfew] at h
    exact (Option.some.inj h).symm
  · rw [if_neg hfew] at h
    cases h

/-- The places along a run hold the ends of its ways. -/
theorem placesAlong_sound {set : CharSet} {greedy : Bool} {n : Nat} {place : Place}
    {places : List Place} (h : placesAlong set n place = some places) :
    ∀ way ∈ along set greedy place.offset place.rest, way.stop ∈ places := by
  induction n generalizing place places with
  | zero => cases h
  | succ n ih =>
    intro way hway
    obtain ⟨offset, rest⟩ := place
    unfold placesAlong at h
    by_cases hstart : Place.startsIn ⟨offset, rest⟩ set = true
    · rw [if_pos hstart, Option.map_eq_some_iff] at h
      obtain ⟨others, hothers, rfl⟩ := h
      cases rest with
      | nil => cases hstart
      | cons c rest =>
        -- the run stops here, or goes on from the next place
        have hsplit : way = stay ⟨offset, c :: rest⟩
            ∨ way ∈ along set greedy (offset + 1) rest := by
          have hc : set.contains c = true := hstart
          cases greedy <;> simp only [along, hc, if_true, Bool.false_eq_true, if_false,
            List.mem_append, List.mem_singleton] at hway
          · exact hway
          · exact hway.symm
        rcases hsplit with rfl | hfurther
        · exact List.mem_cons_self
        · exact List.mem_cons_of_mem _ (ih hothers way hfurther)
    · rw [if_neg hstart] at h
      cases h
      cases rest with
      | nil =>
        rw [along, List.mem_singleton] at hway
        exact hway ▸ List.mem_cons_self
      | cons c rest =>
        have hc : ¬ set.contains c = true := hstart
        have hstay : way = stay ⟨offset, c :: rest⟩ := by
          cases greedy <;> simpa [along, hc] using hway
        exact hstay ▸ List.mem_cons_self

/-- Following a step from several places leads to the places of each. -/
theorem prospectFrom_sound {step : Place → Option (List Place)} {places ends : List Place}
    (h : prospectFrom step places = some ends) :
    ∀ place ∈ places, ∃ found, step place = some found ∧ found ⊆ ends := by
  induction places generalizing ends with
  | nil => exact fun _ hplace => absurd hplace List.not_mem_nil
  | cons first places ih =>
    cases places with
    | nil =>
      intro place hplace
      cases List.mem_singleton.mp hplace
      exact ⟨ends, h, List.Subset.refl ends⟩
    | cons second places =>
      simp only [prospectFrom, Option.bind_eq_bind, Option.bind_eq_some_iff] at h
      obtain ⟨found, hfound, others, hothers, hfew⟩ := h
      obtain rfl := eq_of_fewPlaces hfew
      intro place hplace
      rcases List.mem_cons.mp hplace with rfl | hmem
      · exact ⟨found, hfound, List.subset_append_left found others⟩
      · obtain ⟨found', hfound', hsub⟩ := ih hothers place hmem
        exact ⟨found', hfound', fun _ hx => List.mem_append_right found (hsub hx)⟩

/-- **The glance misses no way**: the places it answers with hold the end of each way
through the pattern. -/
theorem prospect_sound {pattern : Pattern} {place : Place} {places : List Place}
    (h : pattern.prospect place = some places) :
    ∀ way ∈ pattern.ways place, way.stop ∈ places := by
  induction pattern generalizing place places with
  | empty =>
    cases h
    intro way hway
    exact List.mem_singleton.mp hway ▸ List.mem_cons_self
  | literal spelling text =>
    cases h
    intro way hway
    exact Option.mem_toList.mpr (Place.after?_eq_some.mpr (mem_ways_literal.mp hway).1)
  | one set =>
    cases h
    intro way hway
    obtain ⟨hstart, rfl⟩ := mem_ways_one.mp hway
    rw [if_pos hstart]
    exact List.mem_cons_self
  | run set nonempty greedy =>
    intro way hway
    rw [prospect] at h
    rw [ways] at hway
    cases nonempty with
    | false => exact placesAlong_sound h way hway
    | true =>
      rw [if_pos rfl] at h hway
      by_cases hstart : place.startsIn set = true
      · rw [if_pos hstart] at h hway
        exact placesAlong_sound h way hway
      · rw [if_neg hstart] at hway
        cases hway
  | textStart =>
    cases h
    intro way hway
    obtain ⟨hstart, rfl⟩ := mem_ways_textStart.mp hway
    rw [if_pos hstart]
    exact List.mem_cons_self
  | textEnd =>
    cases h
    intro way hway
    obtain ⟨hend, rfl⟩ := mem_ways_textEnd.mp hway
    rw [if_pos (List.isEmpty_iff.mpr hend)]
    exact List.mem_cons_self
  | seq first second ih₁ ih₂ =>
    intro way hway
    obtain ⟨middle, hmiddle, hlast⟩ := Option.bind_eq_some_iff.mp h
    obtain ⟨begun, hbegun, last, hmem, rfl⟩ := mem_compose.mp hway
    obtain ⟨found, hfound, hsub⟩ := prospectFrom_sound hlast begun.stop (ih₁ hmiddle begun hbegun)
    exact hsub (ih₂ hfound last hmem)
  | alt preferred other ih₁ ih₂ =>
    intro way hway
    simp only [prospect, Option.bind_eq_bind, Option.bind_eq_some_iff] at h
    obtain ⟨one, hone, two, htwo, hfew⟩ := h
    obtain rfl := eq_of_fewPlaces hfew
    rcases List.mem_append.mp hway with hleft | hright
    · exact List.mem_append_left two (ih₁ hone way hleft)
    · exact List.mem_append_right one (ih₂ htwo way hright)
  | group body ih => exact ih h
  | capture label body ih =>
    intro way hway
    obtain ⟨inner, hinner, rfl⟩ := mem_ways_capture.mp hway
    exact ih h inner hinner
  | times body quantifier ih =>
    intro way hway
    rw [prospect] at h
    by_cases hleast : quantifier.least = 0
    · rw [if_pos hleast] at h
      cases h
    · -- a round is due, and the body has no way to make one
      rw [if_neg hleast] at h
      obtain ⟨n, hn⟩ := Nat.exists_eq_succ_of_ne_zero hleast
      obtain ⟨begun, hbegun, -⟩ := mem_compose.mp hway
      rw [hn] at hbegun
      obtain ⟨round, hround, -⟩ := mem_compose.mp hbegun
      cases hbody : body.prospect place with
      | none => rw [hbody] at h; cases h
      | some found =>
        cases found with
        | nil => exact absurd (ih hbody round hround) List.not_mem_nil
        | cons first others => rw [hbody] at h; cases h

theorem ways_eq_nil_of_isHopeless {pattern : Pattern} {place : Place}
    (h : pattern.isHopeless place = true) : pattern.ways place = [] := by
  unfold isHopeless at h
  cases hprospect : pattern.prospect place with
  | none => rw [hprospect] at h; cases h
  | some places =>
    rw [hprospect] at h
    cases places with
    | nil =>
      exact List.eq_nil_iff_forall_not_mem.mpr fun way hway =>
        absurd (prospect_sound hprospect way hway) List.not_mem_nil
    | cons first others => cases h

theorem ways_eq_nil_of_isHopelessFrom {pattern : Pattern} {offset : Nat} {rest : List Char}
    (h : pattern.isHopelessFrom offset rest = true) :
    ∀ place ∈ placesFrom offset rest, pattern.ways place = [] := by
  induction rest generalizing offset with
  | nil => exact List.forall_mem_singleton.mpr (ways_eq_nil_of_isHopeless h)
  | cons c rest ih =>
    obtain ⟨hhere, hfurther⟩ := Bool.and_eq_true_iff.mp h
    exact List.forall_mem_cons.mpr ⟨ways_eq_nil_of_isHopeless hhere, ih hfurther⟩

/-! ## The places of a line -/

/-- **The places of a line are those that a text leads to.** -/
theorem mem_placesFrom {offset : Nat} {rest : List Char} {place : Place} :
    place ∈ placesFrom offset rest ↔ ∃ text, Place.Reads ⟨offset, rest⟩ text place := by
  induction rest generalizing offset with
  | nil =>
    refine List.mem_singleton.trans ⟨fun h => ⟨[], h ▸ .refl _⟩, ?_⟩
    rintro ⟨text, htext⟩
    obtain rfl : text = [] := (List.nil_eq_append_iff.mp htext.1).1
    exact htext.stop_unique (.refl _)
  | cons c rest ih =>
    rw [placesFrom, List.mem_cons, ih]
    constructor
    · rintro (rfl | ⟨text, htext⟩)
      · exact ⟨[], .refl _⟩
      · exact ⟨[c] ++ text, Place.Reads.trans (q := ⟨offset + 1, rest⟩) ⟨rfl, rfl⟩ htext⟩
    · rintro ⟨text, htext⟩
      cases text with
      | nil => exact Or.inl (htext.stop_unique (.refl _))
      | cons x text =>
        have hrest := List.cons.inj htext.1
        refine Or.inr ⟨text, hrest.2, ?_⟩
        rw [htext.2, List.length_cons]
        show offset + (text.length + 1) = offset + 1 + text.length
        omega

/-- The places of a line come in order. -/
theorem pairwise_placesFrom (offset : Nat) (rest : List Char) :
    (placesFrom offset rest).Pairwise fun one two => one.offset < two.offset := by
  induction rest generalizing offset with
  | nil => exact List.pairwise_singleton _ _
  | cons c rest ih =>
    refine List.pairwise_cons.mpr ⟨fun place hplace => ?_, ih (offset + 1)⟩
    obtain ⟨text, htext⟩ := mem_placesFrom.mp hplace
    have hle : offset + 1 ≤ place.offset := htext.offset_le
    exact hle

/-! ## What is found in a line -/

/-- **The matches in a line are the preferred ways from its places.** -/
theorem candidates_eq (pattern : Pattern) (line : List Char) :
    pattern.candidates line = (placesFrom 0 line).filterMap pattern.matchAt? := by
  unfold candidates
  by_cases h : pattern.isHopelessFrom 0 line = true
  · rw [if_pos h, eq_comm, List.filterMap_eq_nil_iff]
    intro place hplace
    rw [matchAt?, ways_eq_nil_of_isHopelessFrom h place hplace]
    rfl
  · rw [if_neg h, outcomes_eq, List.filterMap_map]
    refine List.filterMap_congr fun place _ => ?_
    show ((pattern.ways place).head?.map _).map _ = (pattern.ways place).head?.map _
    rw [Option.map_map]
    rfl

/-- In a list of places in order, the first answer is that of the leftmost place that
has one. -/
theorem findSome?_placesFrom_eq_some_iff {α : Type} {answerAt : Place → Option α} {offset : Nat}
    {rest : List Char} {found : α} :
    (placesFrom offset rest).findSome? answerAt = some found
      ↔ ∃ place ∈ placesFrom offset rest, answerAt place = some found
          ∧ ∀ earlier ∈ placesFrom offset rest, earlier.offset < place.offset →
            answerAt earlier = none := by
  have hsorted := pairwise_placesFrom offset rest
  generalize placesFrom offset rest = places at hsorted
  induction places with
  | nil => exact iff_of_false (by simp) (by simp)
  | cons first places ih =>
    obtain ⟨hfirst, hsorted⟩ := List.pairwise_cons.mp hsorted
    rw [List.findSome?_cons]
    cases hanswer : answerAt first with
    | some value =>
      refine ⟨fun h => ⟨first, List.mem_cons_self, hanswer.trans h, ?_⟩, ?_⟩
      · intro earlier hmem hlt
        rcases List.mem_cons.mp hmem with rfl | hmem
        · exact absurd hlt (Nat.lt_irrefl _)
        · exact absurd (hfirst earlier hmem) (Nat.lt_asymm hlt)
      · rintro ⟨place, hmem, hplace, hnone⟩
        rcases List.mem_cons.mp hmem with rfl | hmem
        · exact hanswer.symm.trans hplace
        · rw [hnone first List.mem_cons_self (hfirst place hmem)] at hanswer
          cases hanswer
    | none =>
      refine (ih hsorted).trans ⟨?_, ?_⟩
      · rintro ⟨place, hmem, hplace, hnone⟩
        refine ⟨place, List.mem_cons_of_mem first hmem, hplace, ?_⟩
        exact List.forall_mem_cons.mpr ⟨fun _ => hanswer, hnone⟩
      · rintro ⟨place, hmem, hplace, hnone⟩
        rcases List.mem_cons.mp hmem with rfl | hmem
        · rw [hanswer] at hplace
          cases hplace
        · exact ⟨place, hmem, hplace, (List.forall_mem_cons.mp hnone).2⟩

theorem find?_eq (pattern : Pattern) (line : List Char) :
    pattern.find? line = (placesFrom 0 line).findSome? pattern.matchAt? := by
  rw [find?, candidates_eq, List.head?_filterMap]

theorem matchAt?_eq_none_iff {pattern : Pattern} {place : Place} :
    pattern.matchAt? place = none ↔ pattern.ways place = [] := by
  rw [matchAt?, Option.map_eq_none_iff, List.head?_eq_none_iff]

/-- The match at a place comes from a way. -/
theorem exists_way_of_matchAt? {pattern : Pattern} {place : Place} {found : Match}
    (h : pattern.matchAt? place = some found) :
    ∃ way ∈ pattern.ways place,
      found = ⟨⟨place.offset, way.stop.offset⟩, way.captures⟩ := by
  obtain ⟨way, hway, rfl⟩ := Option.map_eq_some_iff.mp h
  exact ⟨way, List.mem_of_head? hway, rfl⟩

/-- **The match in a line is the leftmost one.** -/
theorem find?_eq_some_iff {pattern : Pattern} {line : List Char} {found : Match} :
    pattern.find? line = some found
      ↔ ∃ place ∈ placesFrom 0 line, pattern.matchAt? place = some found
          ∧ ∀ earlier ∈ placesFrom 0 line, earlier.offset < place.offset →
            pattern.ways earlier = [] := by
  rw [find?_eq, findSome?_placesFrom_eq_some_iff]
  exact exists_congr fun place => and_congr_right fun _ => and_congr_right fun _ =>
    forall_congr' fun earlier => forall_congr' fun _ => forall_congr' fun _ =>
      matchAt?_eq_none_iff

/-- **Without a match no way leads through the pattern**, from any place of the line. -/
theorem find?_eq_none_iff {pattern : Pattern} {line : List Char} :
    pattern.find? line = none ↔ ∀ place ∈ placesFrom 0 line, pattern.ways place = [] := by
  rw [find?_eq, List.findSome?_eq_none_iff]
  exact forall_congr' fun place => forall_congr' fun _ => matchAt?_eq_none_iff

/-- Matches that follow one another without overlap are all kept. -/
theorem disjoint_eq_self {resume : Nat} {matches' : List Match}
    (hresume : ∀ found ∈ matches', resume ≤ found.span.start)
    (hpairwise : matches'.Pairwise fun one two => one.span.stop ≤ two.span.start) :
    disjoint resume matches' = matches' := by
  induction matches' generalizing resume with
  | nil => rfl
  | cons found others ih =>
    obtain ⟨hfound, hothers⟩ := List.pairwise_cons.mp hpairwise
    have hle : ¬ found.span.start < resume :=
      Nat.not_lt.mpr (hresume found List.mem_cons_self)
    rw [disjoint, if_neg hle, ih hfound hothers]

end TurtleAssist.Pattern
