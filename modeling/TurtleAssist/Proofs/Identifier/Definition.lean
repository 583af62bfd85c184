import Mathlib.Data.List.Basic
import TurtleAssist.Identifier.Rule
import TurtleAssist.Proofs.Pattern.Form
import TurtleAssist.Proofs.Pattern.Preferred

/-!
# What the rules for definitions read

Three rules read a definition: an opening with the keyword, a name, and what tells a function
from a variable. Here the ways through their patterns are followed once, and what they read is
written down as plain text with its parts (`ReadsProcedure`, `ReadsBinding`, `ReadsValue`).

The rules for functions end the name themselves, at white space or a parenthesis, so any of their
ways will do. The rule for variables ends with the name and would accept every beginning of
it. That it reads the name as far as identifiers go is a matter of which way is preferred.

A text can be taken apart into an opening and a rest in one way only (`IsOpening.append_inj`), and
likewise into an identifier and a rest, so the parts are determined by the text.
-/

namespace TurtleAssist

open Text (IsFlat IsGap Line form)
open Unicode (isWhiteSpace)

/-- The parameters among the tokens of a text: all but the dots. -/
def Recognition.parametersIn (text : List Char) : List String :=
  ((Text.tokens text).map String.ofList).filter (· != ".")

/-- An identifier holds no parentheses. -/
theorem IsIdentifier.isFlat {name : List Char} (h : IsIdentifier name) : IsFlat name := by
  intro c hc
  have hchar := h.chars c hc
  refine ⟨?_, ?_⟩ <;> rintro rfl
  · exact absurd hchar (by decide)
  · exact absurd hchar (by decide)

namespace IdentifierRule

open Pattern Way

variable {place : Place} {way : Way} {line : Line} {found : Match}

/-! ## The opening -/

/-- **The opening of a definition**: a parenthesis and the keyword, with white space after it and
perhaps before it. -/
def IsOpening (s : List Char) : Prop :=
  ∃ blank gap, s = '(' :: (blank ++ ("define".toList ++ gap))
    ∧ (∀ c ∈ blank, isWhiteSpace c = true) ∧ IsGap gap

/-- The parenthesis of an opening stands in front. -/
theorem IsOpening.exists_tail {s : List Char} (h : IsOpening s) :
    ∃ tail, s = '(' :: tail ∧ '(' ∉ tail ∧ "define".toList <:+: tail := by
  obtain ⟨blank, gap, rfl, hblank, hgap⟩ := h
  refine ⟨_, rfl, fun hmem => ?_, blank, gap, List.append_assoc _ _ _⟩
  have hflat : IsFlat (blank ++ ("define".toList ++ gap)) :=
    (IsFlat.of_blank hblank).append (IsFlat.append (by decide) (IsFlat.of_blank hgap.2))
  exact absurd rfl (hflat '(' hmem).1

/-- **Only one opening stands in front of a text** that does not begin with white space. -/
theorem IsOpening.append_inj {s s' rest rest' : List Char} (h : IsOpening s) (h' : IsOpening s')
    (hrest : ∀ c ∈ rest.head?, isWhiteSpace c = false)
    (hrest' : ∀ c ∈ rest'.head?, isWhiteSpace c = false) (heq : s ++ rest = s' ++ rest') :
    s = s' ∧ rest = rest' := by
  have hkeyword : ∀ t : List Char, ∀ c ∈ ("define".toList ++ t).head?, isWhiteSpace c = false := by
    intro t c hc
    cases hc
    decide
  obtain ⟨blank, gap, rfl, hblank, hgap⟩ := h
  obtain ⟨blank', gap', rfl, hblank', hgap'⟩ := h'
  simp only [List.cons_append, List.append_assoc, List.cons.injEq, true_and] at heq
  obtain ⟨rfl, htail⟩ := Text.run_append_inj hblank hblank' (hkeyword _) (hkeyword _) heq
  obtain ⟨rfl, rfl⟩ := hgap.append_inj hgap' hrest hrest' (List.append_cancel_left htail)
  exact ⟨rfl, rfl⟩

theorem isOpening_of_accepts {keyword : List Char}
    (h : (blanks ++ text "define" ++ gap).Accepts keyword) : IsOpening ('(' :: keyword) := by
  obtain ⟨_, space, rfl, ⟨blank, _, rfl, hblank, rfl⟩, hspace⟩ := h
  exact ⟨blank, space, by simp, accepts_blanks.mp hblank, accepts_gap.mp hspace⟩

/-- A definition is accepted with every opening. -/
theorem accepts_define {defined : Pattern} {s t : List Char} (hs : IsOpening s)
    (ht : defined.Accepts t) : (define defined).Accepts (s ++ t) := by
  obtain ⟨blank, space, rfl, hblank, hspace⟩ := hs
  refine ⟨['('], blank ++ ("define".toList ++ space) ++ t, rfl, rfl,
    blank ++ "define".toList ++ space, t, by simp,
    ⟨_, space, rfl, ⟨blank, _, rfl, ?_, rfl⟩, ?_⟩, ht⟩
  · exact accepts_blanks.mpr hblank
  · exact accepts_gap.mpr hspace

theorem isSilent_keyword : (blanks ++ text "define" ++ gap).IsSilent := ⟨rfl, fun _ => rfl⟩

/-- After the opening a way through a definition is one through what is defined. -/
theorem mem_ways_define {defined : Pattern} (h : way ∈ (define defined).ways place) :
    ∃ opening start, IsOpening opening ∧ place.Reads opening start ∧ way ∈ defined.ways start := by
  obtain ⟨_, middle, hopening, rfl, hrest⟩ := (isSilent_text "(").mem_ways_before h
  obtain ⟨keyword, start, hreads, hkeyword, hdefined⟩ := isSilent_keyword.mem_ways_before hrest
  exact ⟨'(' :: keyword, start, isOpening_of_accepts hkeyword, hopening.trans hreads, hdefined⟩

/-- The preferred way through a definition goes on as the one through what is defined. -/
theorem prefers_define {defined : Pattern} (h : Prefers (define defined).ways place way) :
    ∃ opening start, IsOpening opening ∧ place.Reads opening start
      ∧ Prefers defined.ways start way := by
  obtain ⟨_, middle, hopening, rfl, hrest⟩ := (isSilent_text "(").prefers_before h
  obtain ⟨keyword, start, hreads, hkeyword, hdefined⟩ := isSilent_keyword.prefers_before hrest
  exact ⟨'(' :: keyword, start, isOpening_of_accepts hkeyword, hopening.trans hreads, hdefined⟩

/-! ## The parameters -/

/-- What may stand after the name, in the header of a procedure. -/
def beside : Pattern :=
  .times (.group (gap ++ .capture "args" (.run .nonParen false false))) .optional

/-- It is nothing, or white space and then the parameters. -/
theorem mem_ways_beside (h : way ∈ beside.ways place) :
    ∃ tail, place.Reads tail way.stop ∧ IsFlat tail
      ∧ (∀ c ∈ tail.head?, isWhiteSpace c = true)
      ∧ (way.captures = [] ∧ tail = []
        ∨ ∃ capture, way.captures = [capture] ∧ capture.label = "args"
            ∧ Text.tokens capture.text = Text.tokens tail) := by
  rcases mem_ways_optional.mp h with hround | rfl
  · obtain ⟨space, middle, hspace, hgap, hcapture⟩ := isSilent_gap.mem_ways_before hround
    obtain ⟨hne, hblank⟩ := accepts_gap.mp hgap
    obtain ⟨hcaptures, args, hreads, -, hflat⟩ := (isSilent_run _ _ _).mem_ways_capture hcapture
    refine ⟨space ++ args, hspace.trans hreads, ?_, ?_,
      Or.inr ⟨⟨"args", middle, way.stop.offset⟩, hcaptures, rfl, ?_⟩⟩
    · exact (IsFlat.of_blank hblank).append fun c hc => CharSet.contains_nonParen.mp (hflat c hc)
    · intro c hc
      rw [List.head?_append_of_ne_nil _ hne] at hc
      exact hblank c (List.mem_of_mem_head? hc)
    · rw [Capture.text_eq _ hreads, Text.tokens_blank_append hblank]
  · exact ⟨[], .refl place, List.forall_mem_nil _, nofun, Or.inl ⟨rfl, rfl⟩⟩

/-- Every text without parentheses may stand there, unless a character of a token comes first. -/
theorem accepts_beside {tail : List Char} (hflat : IsFlat tail)
    (hhead : ∀ c ∈ tail.head?, isWhiteSpace c = true) : beside.Accepts tail := by
  have hmost : ∀ most ∈ Quantifier.most .optional, 1 ≤ most :=
    fun most hmost => Nat.le_of_eq (Option.some.inj hmost)
  cases tail with
  | nil => exact ⟨[], rfl, List.forall_mem_nil _, Nat.zero_le _, fun _ _ => Nat.zero_le _⟩
  | cons c tail =>
    refine ⟨[c :: tail], by simp, List.forall_mem_singleton.mpr ⟨[c], tail, rfl, ?_, ?_⟩,
      Nat.zero_le _, fun most hmem => Nat.le_trans (hmost most hmem) (Nat.le_max_right _ _)⟩
    · exact accepts_gap.mpr
        ⟨List.cons_ne_nil c [], List.forall_mem_singleton.mpr (hhead c rfl)⟩
    · exact ⟨fun hfalse => Bool.noConfusion hfalse,
        fun x hx => CharSet.contains_nonParen.mpr (hflat x (List.mem_cons_of_mem c hx))⟩

/-- What may stand in a list of parameters. -/
def listed : Pattern :=
  blanks ++ .times (.group (.group (.alt identifier (text ".")) ++ blanks)) .star

theorem flat_of_accepts_listed {s : List Char} (h : listed.Accepts s) : IsFlat s := by
  have hblanks : blanks.Within fun c => c ≠ '(' ∧ c ≠ ')' := CharSet.ne_paren_of_contains rfl rfl
  have hidentifier : identifier.Within fun c => c ≠ '(' ∧ c ≠ ')' :=
    ⟨CharSet.ne_paren_of_contains rfl rfl, CharSet.ne_paren_of_contains rfl rfl⟩
  have hdot : (text ".").Within fun c => c ≠ '(' ∧ c ≠ ')' :=
    List.forall_mem_singleton.mpr (by decide)
  have hlisted : listed.Within fun c => c ≠ '(' ∧ c ≠ ')' :=
    ⟨hblanks, ⟨hidentifier, hdot⟩, hblanks⟩
  exact hlisted.forall_mem h

/-- A list of parameters without letters is made of dots and white space. -/
theorem chars_of_accepts_listed {s : List Char} (h : listed.Accepts s) :
    (∃ c ∈ s, c.isAlpha = true) ∨ ∀ c ∈ s, isWhiteSpace c = true ∨ c = '.' := by
  obtain ⟨blank, _, rfl, hblank, parts, rfl, hparts, -⟩ := h
  by_cases hletter : ∃ part ∈ parts, ∃ c ∈ part, c.isAlpha = true
  · obtain ⟨part, hpart, c, hc, halpha⟩ := hletter
    exact Or.inl ⟨c, List.mem_append_right _ (List.mem_flatten_of_mem hpart hc), halpha⟩
  · refine Or.inr (List.forall_mem_append.mpr
      ⟨fun c hc => Or.inl (accepts_blanks.mp hblank c hc), fun c hc => ?_⟩)
    obtain ⟨part, hpart, hc⟩ := List.mem_flatten.mp hc
    obtain ⟨token, after, rfl, hidentifier | rfl, hafter⟩ := hparts part hpart
    · -- an identifier has a letter
      have hidentifier := accepts_identifier.mp hidentifier
      cases token with
      | nil => cases hidentifier
      | cons first others =>
        exact absurd ⟨_, hpart, first, List.mem_cons_self, hidentifier.1⟩ hletter
    · rcases List.mem_append.mp hc with hc | hc
      · exact Or.inr (List.mem_singleton.mp hc)
      · exact Or.inl (accepts_blanks.mp hafter c hc)

/-- **Every list of identifiers and dots is accepted**, however its tokens are set apart. -/
theorem accepts_listed_of_tokens {s : List Char}
    (h : ∀ token ∈ Text.tokens s, IsIdentifier token ∨ token = ['.']) : listed.Accepts s := by
  have hnone : ∀ parts : List (List Char),
      ∀ most ∈ Quantifier.most .star, parts.length ≤ max (Quantifier.least .star) most :=
    fun _ _ hmost => absurd hmost (Option.not_mem_none _)
  induction s using Text.tokens_induction with
  | blank space hspace =>
    exact ⟨space, [], (List.append_nil _).symm, accepts_blanks.mpr hspace, [], rfl,
      List.forall_mem_nil _, Nat.zero_le _, hnone []⟩
  | token space token rest hspace hne htoken hrest ih =>
    rw [Text.tokens_blank_append hspace, Text.tokens_token_append hne htoken hrest] at h
    obtain ⟨hfirst, hothers⟩ := List.forall_mem_cons.mp h
    -- the white space after the token is that in front of the rest
    obtain ⟨blank, _, rfl, hblank, parts, rfl, hparts, -⟩ := ih hothers
    refine ⟨space, (token ++ blank) ++ parts.flatten, by simp, accepts_blanks.mpr hspace,
      (token ++ blank) :: parts, rfl, List.forall_mem_cons.mpr ⟨?_, hparts⟩, Nat.zero_le _,
      hnone _⟩
    exact ⟨token, blank, rfl, hfirst.imp_left accepts_identifier.mpr, hblank⟩

/-- The value of a binding goes on after white space, before its parenthesis is closed. -/
def HasBody (rest : List Char) : Prop :=
  ∃ gap c others, rest = gap ++ c :: others ∧ IsGap gap ∧ isWhiteSpace c = false ∧ c ≠ ')'

/-- What it begins with is found by skipping the white space. -/
theorem hasBody_iff {rest : List Char} :
    HasBody rest ↔ rest.head?.any isWhiteSpace = true
      ∧ (rest.dropWhile isWhiteSpace).head?.any (· != ')') = true := by
  constructor
  · rintro ⟨gap, c, others, rfl, ⟨hne, hgap⟩, hspace, hc⟩
    have hdrop : (gap ++ c :: others).dropWhile isWhiteSpace = c :: others := by
      rw [List.dropWhile_append_of_pos hgap, List.dropWhile_cons_of_neg (by simp [hspace])]
    obtain ⟨x, gap, rfl⟩ := List.exists_cons_of_ne_nil hne
    refine ⟨hgap x List.mem_cons_self, ?_⟩
    rw [hdrop]
    exact bne_iff_ne.mpr hc
  · rintro ⟨hhead, hclose⟩
    obtain ⟨c, hc, hne⟩ := Option.any_eq_true _ _ |>.mp hclose
    obtain ⟨others, hothers⟩ := List.head?_eq_some_iff.mp hc
    have hspace := List.head?_dropWhile_not isWhiteSpace rest
    rw [hc] at hspace
    refine ⟨rest.takeWhile isWhiteSpace, c, others, ?_, ⟨?_, ?_⟩, hspace, bne_iff_ne.mp hne⟩
    · rw [← hothers, List.takeWhile_append_dropWhile]
    · cases rest with
      | nil => cases hhead
      | cons x rest =>
        have hx : isWhiteSpace x = true := hhead
        rw [List.takeWhile_cons_of_pos hx]
        exact List.cons_ne_nil _ _
    · exact fun x hx => List.mem_takeWhile_imp hx

instance (rest : List Char) : Decidable (HasBody rest) :=
  decidable_of_iff _ hasBody_iff.symm

theorem contains_body {c : Char} :
    (CharSet.noneOf [.space, .single ')']).contains c = true
      ↔ isWhiteSpace c = false ∧ c ≠ ')' := by
  simp [CharSet.contains, SetItem.contains]

/-! ## What each rule reads -/

/-- The capture of a name that stands at a place. -/
def nameAt (place : Place) (name : List Char) : Capture :=
  ⟨"name", place, place.offset + name.length⟩

theorem text_nameAt (offset : Nat) (name after : List Char) :
    (nameAt ⟨offset, name ++ after⟩ name).text = name :=
  Capture.text_eq "name" (Place.reads_append offset name after)

/-- A way through a silent pattern under the label of names is the capture of what it reads. -/
theorem mem_ways_name {body : Pattern} (hbody : body.IsSilent)
    (h : way ∈ (capture "name" body).ways place) :
    ∃ name, place.Reads name way.stop ∧ body.Accepts name ∧ way.captures = [nameAt place name] := by
  obtain ⟨hcaptures, name, hreads, haccepts⟩ := hbody.mem_ways_capture h
  exact ⟨name, hreads, haccepts, by rw [hcaptures, hreads.2]; rfl⟩

/-- **What the rule for procedures reads on a way**: an opening, and a form with the name and the
parameters. -/
structure ReadsProcedure (place : Place) (way : Way) (opening name tail : List Char) : Prop where
  isOpening : IsOpening opening
  isIdentifier : IsIdentifier name
  isFlat : IsFlat tail
  head : ∀ c ∈ tail.head?, isWhiteSpace c = true
  reads : place.Reads (opening ++ form (name ++ tail)) way.stop
  captures : ∃ others, way.captures
      = nameAt ⟨place.offset + opening.length + 1, name ++ (tail ++ ')' :: way.stop.rest)⟩ name
        :: others
    ∧ (others = [] ∧ Text.tokens tail = []
      ∨ ∃ args, others = [args] ∧ args.label = "args"
          ∧ Text.tokens args.text = Text.tokens tail)

/-- **What the rule for bindings reads on a way**: an opening, the name, the form with the
parameters, and the beginning of the body. -/
structure ReadsBinding (place : Place) (way : Way) (opening name space inside rest : List Char) :
    Prop where
  isOpening : IsOpening opening
  isIdentifier : IsIdentifier name
  isGap : IsGap space
  listed : listed.Accepts inside
  hasBody : HasBody rest
  rest_eq : place.rest = opening ++ (name ++ (space ++ (form inside ++ rest)))
  captures : ∃ args, way.captures
      = [nameAt ⟨place.offset + opening.length, name ++ (space ++ (form inside ++ rest))⟩ name,
          args]
    ∧ args.label = "args" ∧ args.text = inside
    ∧ args.start.offset = place.offset + (opening ++ (name ++ space)).length + 1
    ∧ args.stop = args.start.offset + inside.length

/-- **What the rule for variables reads on the way it prefers**: an opening, and the name as far as
it goes. -/
structure ReadsValue (place : Place) (way : Way) (opening name : List Char) : Prop where
  isOpening : IsOpening opening
  isIdentifier : IsIdentifier name
  rest_eq : place.rest = opening ++ (name ++ way.stop.rest)
  ends : ∀ c ∈ way.stop.rest.head?, ¬ IsNameTail c
  captures : way.captures
    = [nameAt ⟨place.offset + opening.length, name ++ way.stop.rest⟩ name]

/-- A way through the definition of a procedure ends with a form. In it the name is captured,
and after the name the parameters are, if there are any. -/
theorem mem_ways_procedure (h : way ∈ procedure.pattern.ways place) :
    ∃ opening name tail, ReadsProcedure place way opening name tail := by
  obtain ⟨opening, start, hopening, hreadsOpening, hdefined⟩ := mem_ways_define h
  obtain ⟨padded, hpadded, hcaptures, _, hreadsClosing, rfl⟩ :=
    (isSilent_text ")").mem_ways_after hdefined
  obtain ⟨held, hheld, hcaptures', blank, hreadsBlank, hblank⟩ :=
    isSilent_blanks.mem_ways_after hpadded
  obtain ⟨named, hnamed, last, hlast, rfl⟩ := mem_compose.mp hheld
  obtain ⟨_, middle, hreadsParen, rfl, hcapture⟩ := (isSilent_text "(").mem_ways_before hnamed
  obtain ⟨name, hreadsName, hname, hcaptured⟩ := mem_ways_name isSilent_identifier hcapture
  obtain ⟨tail, hreadsTail, htail, hhead, hargs⟩ := mem_ways_beside hlast
  have hblank := accepts_blanks.mp hblank
  have hreadsForm : start.Reads (form (name ++ (tail ++ blank))) way.stop := by
    have hreads := ((hreadsParen.trans hreadsName).trans hreadsTail).trans
      (hreadsBlank.trans hreadsClosing)
    simpa [form] using hreads
  refine ⟨opening, name, tail ++ blank, hopening, accepts_identifier.mp hname,
    htail.append (IsFlat.of_blank hblank), ?_, hreadsOpening.trans hreadsForm, last.captures,
    ?_, ?_⟩
  · intro c hc
    cases tail with
    | nil => exact hblank c (List.mem_of_mem_head? hc)
    | cons x tail => exact hhead c hc
  · have hmiddle : middle
        = ⟨place.offset + opening.length + 1, name ++ (tail ++ blank ++ ')' :: way.stop.rest)⟩ := by
      have hrest : middle.rest = name ++ (tail ++ blank ++ ')' :: way.stop.rest) := by
        rw [hreadsName.1, hreadsTail.1, hreadsBlank.1, hreadsClosing.1]
        simp
      have hoffset : middle.offset = place.offset + opening.length + 1 := by
        rw [hreadsParen.2, hreadsOpening.2]
        rfl
      rw [← hrest, ← hoffset]
    rw [hcaptures, hcaptures', hcaptured, hmiddle]
    rfl
  · rw [Text.tokens_append_blank hblank]
    rcases hargs with ⟨hnone, rfl⟩ | hargs
    · exact Or.inl ⟨hnone, rfl⟩
    · exact Or.inr hargs

/-- A way through the definition of a binding captures the name, and then the list of
parameters, which stands in a form. -/
theorem mem_ways_binding (h : way ∈ binding.pattern.ways place) :
    ∃ opening name space inside rest,
      ReadsBinding place way opening name space inside rest := by
  obtain ⟨opening, start, hopening, hreadsOpening, hdefined⟩ := mem_ways_define h
  have hlisted : listed.IsSilent := ⟨rfl, fun _ => rfl⟩
  -- from the end of the match back to the list
  obtain ⟨spacedBody, hway₁, hcaptures₁, _, hreadsBody, c, hc, rfl⟩ :=
    (isSilent_one _).mem_ways_after hdefined
  obtain ⟨closed, hclosed, hcaptures₂, bodyGap, hreadsGap, hbodyGap⟩ :=
    isSilent_gap.mem_ways_after hway₁
  obtain ⟨_, hheld, hcaptures₃, _, hreadsClosing, rfl⟩ :=
    (isSilent_text ")").mem_ways_after hclosed
  obtain ⟨opened, hopened, last, hlast, rfl⟩ := mem_compose.mp hheld
  obtain ⟨spaced, hspaced, hcaptures₄, _, hreadsParen, rfl⟩ :=
    (isSilent_text "(").mem_ways_after hopened
  obtain ⟨named, hnamed, hcaptures₅, space, hreadsSpace, hspace⟩ :=
    isSilent_gap.mem_ways_after hspaced
  obtain ⟨name, hreadsName, hname, hcaptured⟩ := mem_ways_name isSilent_identifier hnamed
  obtain ⟨hargs, inside, hreadsArgs, hinside⟩ := hlisted.mem_ways_capture hlast
  have hrest : start.rest = name ++ (space ++ (form inside ++ closed.stop.rest)) := by
    rw [hreadsName.1, hreadsSpace.1, hreadsParen.1, hreadsArgs.1, hreadsClosing.1]
    simp [form]
  have hstart : start = ⟨place.offset + opening.length,
      name ++ (space ++ (form inside ++ closed.stop.rest))⟩ := by
    rw [← hrest, ← hreadsOpening.2]
  refine ⟨opening, name, space, inside, closed.stop.rest, hopening, accepts_identifier.mp hname,
    accepts_gap.mp hspace, hinside, ⟨bodyGap, c, way.stop.rest, ?_, accepts_gap.mp hbodyGap,
    contains_body.mp hc⟩, ?_, ⟨"args", opened.stop, last.stop.offset⟩, ?_, rfl,
    Capture.text_eq _ hreadsArgs, ?_, hreadsArgs.2⟩
  · rw [hreadsGap.1, hreadsBody.1]
    rfl
  · rw [hreadsOpening.1, hrest]
  · rw [hcaptures₁, hcaptures₂, hcaptures₃, hargs, hcaptures₄, hcaptures₅, hcaptured, ← hstart]
    rfl
  · have hoffset := ((hreadsOpening.trans (hreadsName.trans hreadsSpace)).trans hreadsParen).2
    rw [List.length_append, ← Nat.add_assoc] at hoffset
    exact hoffset

/-- The preferred way through the definition of a variable captures the name as far as it
goes. -/
theorem prefers_value (h : Prefers value.pattern.ways place way) :
    ∃ opening name, ReadsValue place way opening name := by
  obtain ⟨opening, start, hopening, hreadsOpening, hdefined⟩ := prefers_define h
  obtain ⟨name, hreadsName, hname, hcaptured⟩ := mem_ways_name isSilent_identifier hdefined.mem
  obtain ⟨inner, hinner, rfl⟩ := exists_prefers_of_capture hdefined
  have hstart : start = ⟨place.offset + opening.length, name ++ inner.stop.rest⟩ := by
    rw [← hreadsName.1, ← hreadsOpening.2]
  refine ⟨opening, name, hopening, accepts_identifier.mp hname, ?_, fun c hc htail => ?_, ?_⟩
  · rw [hreadsOpening.1, hreadsName.1]
  · have hends := hinner.ends_one_run c hc
    rw [CharSet.contains_nameTail.mpr htail] at hends
    cases hends
  · rw [← hstart]
    exact hcaptured

/-! ## What the match says -/

section Matches

variable {rule : IdentifierRule} {span : Text.Span}
  {opening name tail space inside rest : List Char}

/-- The name of a recognition is the text of the capture. -/
theorem name_of_capture? {offset : Nat} {after : List Char}
    (h : found.capture? "name" = some (nameAt ⟨offset, name ++ after⟩ name)) :
    (Recognition.mk rule found).name = String.ofList name := by
  simp [Recognition.name, h, text_nameAt]

theorem ReadsProcedure.capture?_name (h : ReadsProcedure place way opening name tail) :
    Match.capture? ⟨span, way.captures⟩ "name"
      = some (nameAt ⟨place.offset + opening.length + 1, name ++ (tail ++ ')' :: way.stop.rest)⟩
          name) := by
  obtain ⟨others, hcaptures, ⟨rfl, -⟩ | ⟨args, rfl, hargs, -⟩⟩ := h.captures
  · simp [Match.capture?, hcaptures, nameAt]
  · simp [Match.capture?, hcaptures, nameAt, hargs]

theorem ReadsProcedure.parameters_eq (h : ReadsProcedure place way opening name tail) :
    (Recognition.mk rule ⟨span, way.captures⟩).parameters = Recognition.parametersIn tail := by
  obtain ⟨others, hcaptures, ⟨rfl, hnone⟩ | ⟨args, rfl, hargs, htokens⟩⟩ := h.captures
  · simp [Recognition.parameters, Recognition.parametersIn, Match.capture?, hcaptures, nameAt,
      hnone]
  · simp [Recognition.parameters, Recognition.parametersIn, Match.capture?, hcaptures, nameAt,
      hargs, htokens]

theorem ReadsBinding.capture?_name (h : ReadsBinding place way opening name space inside rest) :
    Match.capture? ⟨span, way.captures⟩ "name"
      = some (nameAt ⟨place.offset + opening.length, name ++ (space ++ (form inside ++ rest))⟩
          name) := by
  obtain ⟨args, hcaptures, hargs, -⟩ := h.captures
  simp [Match.capture?, hcaptures, nameAt, hargs]

theorem ReadsBinding.parameters_eq (h : ReadsBinding place way opening name space inside rest) :
    (Recognition.mk rule ⟨span, way.captures⟩).parameters = Recognition.parametersIn inside := by
  obtain ⟨args, hcaptures, hargs, htext, -⟩ := h.captures
  simp [Recognition.parameters, Recognition.parametersIn, Match.capture?, hcaptures, nameAt, hargs,
    htext]

theorem ReadsValue.capture?_name (h : ReadsValue place way opening name) :
    Match.capture? ⟨span, way.captures⟩ "name"
      = some (nameAt ⟨place.offset + opening.length, name ++ way.stop.rest⟩ name) := by
  simp [Match.capture?, h.captures, nameAt]

end Matches

end IdentifierRule

end TurtleAssist
