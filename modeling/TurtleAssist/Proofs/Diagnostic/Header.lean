import Mathlib.Data.List.Basic
import TurtleAssist.Proofs.Diagnostic.Locality
import TurtleAssist.Proofs.Diagnostic.Occurrence
import TurtleAssist.Proofs.Identifier.Header

/-!
# The header of a definition and the rules

The header of a definition looks like a call of the first thing in it, and the rules for forms
look at it as they look at every form: what a line defines is of no concern to them. A header is
spared all the same, for reasons that differ from rule to rule. It has a letter where the checks
of structure want none; the rules of the commands want the name of a command in front, where the
header has the name of the function or a parameter; and of both of these the last tier knows
that they are defined.

The reasons have gaps. A list of parameters may be empty, and then it is the empty form that is
reported. It may begin with the dot of a variadic tail, which is no parameter and which nothing
makes known. And a command may have a name that is not one token, and then a header can be a call
of it although no token of the header is a command. `diagnose_header` says that there are no other
gaps, and `reportsHeader_examples` that there are these.
-/

namespace TurtleAssist

open Text (IsFlat Line Span StandsAt form)
open Unicode (isDigit isWhiteSpace)
open KnownNames (IsFlagged IsFirstFlagged IsInnermost)

/-- **A function of the document's own**: the line defines a function, the catalog does not own
its name, and none of its parameters is a command. -/
structure DefinesFunction (catalog : Catalog) (line : Line) (recognition : Recognition) : Prop where
  recognised : classifyLine line = some recognition
  isFunction : recognition.rule.role = .function
  not_owned : catalog.containsName recognition.name = false
  not_command : ∀ command ∈ catalog.commands, command.name ∉ recognition.parameters

/-! ## What a rule reports at a form -/

/-- What is reported of a rule lies in the line. -/
theorem Pattern.IsLeftmost.liesIn {pattern : Pattern} {line : Line} {span : Span}
    (h : pattern.IsLeftmost line span) : span.LiesIn line := by
  obtain ⟨place, hplace, ⟨way, hway, rfl⟩, -⟩ := h
  obtain ⟨before, rfl, hoffset⟩ := mem_places_iff.mp hplace
  obtain ⟨text, hreads⟩ := ways_advance pattern place way (List.mem_of_head? hway)
  have hlength := hreads.length_rest_add
  have hstop := hreads.2
  show place.offset ≤ way.stop.offset ∧ way.stop.offset ≤ (before ++ place.rest).length
  rw [List.length_append]
  omega

/-- It is a text that stands in the line and that the pattern accepts. -/
theorem Pattern.IsLeftmost.exists_standsAt {pattern : Pattern} {line : Line} {span : Span}
    (h : pattern.IsLeftmost line span) (hplaceless : pattern.isPlaceless = true) :
    ∃ text, StandsAt line span text ∧ pattern.Accepts text := by
  rw [← Pattern.map_span_find?_eq_some_iff] at h
  obtain ⟨found, hfound, rfl⟩ := Option.map_eq_some_iff.mp h
  exact (Pattern.isLeftmostStretch_of_find? hplaceless hfound).1

/-- A diagnostic for a span covers no other form. -/
theorem Diagnostic.Covers.eq_of_onLine {index : Nat} {line : Line} {found span : Span}
    {message : String} {severity : Severity} {tier : Tier}
    (h : (Diagnostic.onLine index line found message severity tier).Covers line span)
    (hfound : found.LiesIn line) : found = span := by
  obtain ⟨⟨inside, hinner⟩, hstart, hstop⟩ := h
  exact hfound.eq_of_units hinner.liesIn hstart hstop

namespace Rule

variable {catalog : Catalog} {rule : Rule} {line : Line} {span : Span} {inside : List Char}

/-- A rule of a catalog is a hint on style, a check of structure or a rule of a command. -/
theorem mem_ofCatalog_cases (h : rule ∈ Rule.ofCatalog catalog) :
    rule ∈ style ∨ rule ∈ structural
      ∨ ∃ command ∈ catalog.commands,
          rule = argumentCount command ∨ rule = argumentType command := by
  rcases List.mem_append.mp h with h | h
  · rcases List.mem_append.mp h with h | h
    · exact (List.mem_append.mp h).imp_right Or.inl
    · obtain ⟨command, hcommand, rfl⟩ := List.mem_map.mp h
      exact Or.inr (Or.inr ⟨command, hcommand, Or.inl rfl⟩)
  · obtain ⟨command, hcommand, rfl⟩ := List.mem_map.mp h
    exact Or.inr (Or.inr ⟨command, (List.mem_filter.mp hcommand).1, Or.inr rfl⟩)

theorem mem_ofCatalog_of_style (h : rule ∈ style) : rule ∈ Rule.ofCatalog catalog :=
  List.mem_append_left _ (List.mem_append_left _ (List.mem_append_left _ h))

theorem mem_ofCatalog_of_structural (h : rule ∈ structural) : rule ∈ Rule.ofCatalog catalog :=
  List.mem_append_left _ (List.mem_append_left _ (List.mem_append_right _ h))

theorem tier_of_mem_structural (h : rule ∈ structural) : rule.tier = .structural := by
  revert rule
  decide +kernel

/-- The checks of structure are told by their tier. -/
theorem mem_structural_of_tier (h : rule ∈ Rule.ofCatalog catalog)
    (htier : rule.tier = .structural) : rule ∈ structural := by
  rcases mem_ofCatalog_cases h with hstyle | hstructural | ⟨command, -, rfl | rfl⟩
  · exact nomatch (tier_of_mem_style hstyle).symm.trans htier
  · exact hstructural
  · cases htier
  · cases htier

/-- And so are the rules of the commands. -/
theorem exists_command_of_tier (h : rule ∈ Rule.ofCatalog catalog)
    (htier : rule.tier = .argumentCount ∨ rule.tier = .argumentType) :
    ∃ command ∈ catalog.commands, rule = argumentCount command ∨ rule = argumentType command := by
  rcases mem_ofCatalog_cases h with hstyle | hstructural | hcommand
  · rw [tier_of_mem_style hstyle] at htier
    exact htier.elim nofun nofun
  · rw [tier_of_mem_structural hstructural] at htier
    exact htier.elim nofun nofun
  · exact hcommand

theorem isPlaceless_of_mem_structural (h : rule ∈ structural) :
    rule.pattern.isPlaceless = true := by
  revert rule
  decide +kernel

theorem isPlaceless_of_mem (h : rule ∈ Rule.ofCatalog catalog) :
    rule.pattern.isPlaceless = true := by
  rcases mem_ofCatalog_cases h with h | h | ⟨command, -, rfl | rfl⟩
  · exact isPlaceless_of_mem_farSighted (List.mem_append_left _ h)
  · exact isPlaceless_of_mem_structural h
  · exact isPlaceless_argumentCount command
  · rfl

/-- A rule that is reported at a form accepts the form. -/
theorem accepts_of_isLeftmost (hplaceless : rule.pattern.isPlaceless = true)
    (hleftmost : rule.pattern.IsLeftmost line span) (hinner : IsInnermost line span inside) :
    rule.pattern.Accepts (form inside) := by
  obtain ⟨text, hstands, haccepts⟩ := hleftmost.exists_standsAt hplaceless
  exact hstands.unique (KnownNames.isInnermost_iff.mp hinner).2 ▸ haccepts

/-- A form that begins with white space is a matter of style. -/
theorem head?_of_not_matches_style (hinner : IsInnermost line span inside)
    (hstyle : ∀ rule ∈ style, ¬ rule.Matches line) :
    ∀ c ∈ inside.head?, isWhiteSpace c = false := by
  intro c hc
  by_contra hspace
  obtain ⟨others, rfl⟩ : ∃ others, inside = c :: others := List.head?_eq_some_iff.mp hc
  obtain ⟨before, after, rfl, -, -⟩ := hinner
  obtain ⟨run, rest, hsplit, hrun, hrest⟩ :=
    Text.exists_run isWhiteSpace ((c :: others) ++ ')' :: after)
  have hne : run ≠ [] := by
    rintro rfl
    exact hspace (hrest c (by rw [← List.nil_append rest, ← hsplit]; rfl))
  cases rest with
  | nil =>
    -- the closing parenthesis is no white space
    have hmem : ')' ∈ run := by
      rw [← List.append_nil run, ← hsplit]
      exact List.mem_append_right _ List.mem_cons_self
    exact absurd (hrun ')' hmem) (by decide)
  | cons x rest =>
    have hx : isWhiteSpace x = false := hrest x rfl
    refine hstyle _ (List.mem_cons_of_mem _ List.mem_cons_self) (matches_iff_isIn.mpr ?_)
    refine (Pattern.isIn_iff_accepts rfl).mpr ⟨before, '(' :: (run ++ [x]), rest, ?_, ?_⟩
    · rw [hsplit]
      simp
    · refine ⟨['('], run ++ [x], rfl, rfl, run, [x], rfl, Pattern.accepts_gap.mpr ⟨hne, hrun⟩,
        x, ?_, rfl⟩
      show (!isWhiteSpace x) = true
      rw [hx]
      rfl

/-- An empty form is a matter of structure. -/
theorem ne_nil_of_not_matches_structural (hinner : IsInnermost line span inside)
    (hstructural : ∀ rule ∈ structural, ¬ rule.Matches line) : inside ≠ [] := by
  rintro rfl
  obtain ⟨rule, hrule, hin⟩ : ∃ rule ∈ structural, rule.pattern.isIn (form []) = true := by
    decide +kernel
  exact hstructural rule hrule (matches_iff_isIn.mpr
    (Pattern.isIn_of_isInnermost (isPlaceless_of_mem_structural hrule) hinner hin))

/-- A text that has a letter, or is made of dots and white space, is not what a pattern without
letters accepts if it asks for a digit. -/
theorem not_accepts_of_digit {body : Pattern} (hbody : body.Within fun c => c.isAlpha = false)
    (hdigit : body.Needs fun c => isDigit c = true)
    (hchars : (∃ c ∈ inside, c.isAlpha = true) ∨ ∀ c ∈ inside, isWhiteSpace c = true ∨ c = '.') :
    ¬ body.Accepts inside := by
  intro haccepts
  rcases hchars with hletter | hchars
  · exact not_accepts_of_letter hbody hletter haccepts
  · obtain ⟨c, hc, hdigit⟩ := hdigit.exists_mem haccepts
    rcases hchars c hc with hspace | rfl
    · rw [Unicode.isWhiteSpace_eq_false_of_isDigit hdigit] at hspace
      cases hspace
    · exact absurd hdigit (by decide)

/-- **A form that a check of structure accepts** holds white space at most, if it has a letter
or is made of dots and white space. -/
theorem blank_of_mem_structural (hrule : rule ∈ structural)
    (haccepts : rule.pattern.Accepts (form inside))
    (hchars : (∃ c ∈ inside, c.isAlpha = true) ∨ ∀ c ∈ inside, isWhiteSpace c = true ∨ c = '.') :
    ∀ c ∈ inside, isWhiteSpace c = true := by
  have hspace := fun c => @isAlpha_eq_false_of_space c
  have hdigit := fun c => @isAlpha_eq_false_of_digit c
  have hnonLetter := fun c => @isAlpha_eq_false_of_nonLetter c
  have hminus : (Pattern.text "-").Within fun c => c.isAlpha = false :=
    List.forall_mem_singleton.mpr rfl
  have hbody : ∀ {body : Pattern},
      (Pattern.opened (body ++ Pattern.text ")")).Accepts (form inside) → body.Accepts inside := by
    intro body haccepts
    obtain ⟨t, hform, ht⟩ := Pattern.accepts_form.mp haccepts
    obtain rfl : inside = t := List.append_cancel_right (List.cons.inj hform).2
    exact ht
  have hdigits : Pattern.digits.Needs fun c => isDigit c = true := ⟨rfl, fun _ => id⟩
  have hcolor : ∀ quantifier, ¬ (Pattern.blanks ++ Pattern.digits
      ++ .times (.group (Pattern.gap ++ Pattern.digits)) quantifier ++ Pattern.blanks).Accepts
        inside :=
    fun quantifier => not_accepts_of_digit ⟨⟨⟨hspace, hdigit⟩, hspace, hdigit⟩, hspace⟩
      (Or.inl (Or.inl (Or.inr hdigits))) hchars
  simp only [structural, List.mem_cons, List.not_mem_nil, or_false] at hrule
  rcases hrule with rfl | rfl | rfl | rfl | rfl
  · exact absurd (hbody haccepts) (hcolor .optional)
  · exact absurd (hbody haccepts) (hcolor (.atLeast 3))
  · exact absurd (hbody haccepts) (not_accepts_of_digit
      ⟨⟨⟨hnonLetter, hminus⟩, hdigit⟩, hnonLetter⟩ (Or.inl (Or.inr hdigits)) hchars)
  · exact Pattern.accepts_blanks.mp (hbody haccepts)
  · -- what the last check accepts does not begin with a parenthesis
    obtain ⟨_, _, heq, ⟨_, _, rfl, ⟨_, _, rfl, ⟨_, _, rfl, ⟨_, _, rfl, ⟨_, _, rfl, rfl, -⟩, -⟩,
      -⟩, -⟩, -⟩, -⟩ := haccepts
    exact absurd (List.cons.inj heq).1 (by decide)

/-- **A rule of a command that accepts a form** finds a call of the command in it. -/
theorem exists_isCall {command : Command}
    (hrule : rule = argumentCount command ∨ rule = argumentType command)
    (haccepts : rule.pattern.Accepts (form inside)) :
    ∃ arguments, IsCall command.name arguments (form inside) := by
  rcases hrule with rfl | rfl
  · obtain ⟨arguments, hcall, -⟩ := accepts_argumentCount_iff.mp haccepts
    exact ⟨arguments, hcall⟩
  · obtain ⟨arguments, hcall, -⟩ := accepts_argumentType_iff.mp haccepts
    exact ⟨arguments, hcall⟩

end Rule

/-- The rules of an earlier tier than that of the first rule do not match. -/
theorem IsFirstMatch.not_matches_of_rank_lt {catalog : Catalog} {line : Line} {rule other : Rule}
    {span : Span} (h : IsFirstMatch (Rule.ofCatalog catalog) line rule span)
    (hother : other ∈ Rule.ofCatalog catalog) (hrank : other.tier.rank < rule.tier.rank) :
    ¬ other.Matches line := by
  obtain ⟨before, after, hsplit, hbefore, -⟩ := h
  have hsorted := Rule.pairwise_rank_ofCatalog catalog
  rw [hsplit] at hsorted hother
  obtain ⟨-, hrest, -⟩ := List.pairwise_append.mp hsorted
  rcases List.mem_append.mp hother with hmem | hmem
  · exact hbefore other hmem
  · rcases List.mem_cons.mp hmem with rfl | hmem
    · exact absurd hrank (Nat.lt_irrefl _)
    · exact absurd hrank (Nat.not_lt.mpr ((List.pairwise_cons.mp hrest).1 other hmem))

section FirstMatch

variable {catalog : Catalog} {line : Line} {rule : Rule} {span : Span}
  (h : IsFirstMatch (Rule.ofCatalog catalog) line rule span)
include h

/-- Where a rule that is no hint on style comes first, there is no hint on style. -/
theorem IsFirstMatch.not_matches_style (hrank : 0 < rule.tier.rank) :
    ∀ other ∈ Rule.style, ¬ other.Matches line := by
  intro other hother
  refine h.not_matches_of_rank_lt (Rule.mem_ofCatalog_of_style hother) ?_
  rw [Rule.tier_of_mem_style hother]
  exact hrank

/-- Where a rule of a command comes first, no check of structure matches. -/
theorem IsFirstMatch.not_matches_structural (hrank : 1 < rule.tier.rank) :
    ∀ other ∈ Rule.structural, ¬ other.Matches line := by
  intro other hother
  refine h.not_matches_of_rank_lt (Rule.mem_ofCatalog_of_structural hother) ?_
  rw [Rule.tier_of_mem_structural hother]
  exact hrank

/-- A rule that comes first with a form accepts the form. -/
theorem IsFirstMatch.accepts {inside : List Char} (hinner : IsInnermost line span inside) :
    rule.pattern.Accepts (form inside) :=
  Rule.accepts_of_isLeftmost (Rule.isPlaceless_of_mem h.mem) h.isLeftmost hinner

end FirstMatch

/-! ## What a header gives the rules -/

section

variable {catalog : Catalog} {line : Line} {recognition : Recognition} {inside head : List Char}
  {span : Span} {text : String}

theorem DefinesFunction.isIdentifier_name (h : DefinesFunction catalog line recognition) :
    IsIdentifier recognition.name.toList :=
  (Recognition.isIdentifier_name_iff h.recognised).mpr (Or.inr h.isFunction)

/-- A header has a letter, unless it is a list of dots. -/
theorem DefinesFunction.letter_or_dots (h : DefinesFunction catalog line recognition)
    (hholds : recognition.HeaderHolds inside) :
    (∃ c ∈ inside, c.isAlpha = true)
      ∨ recognition.rule = .binding ∧ ∀ c ∈ inside, isWhiteSpace c = true ∨ c = '.' := by
  cases hholds with
  | procedure hprocedure tail hinside hhead hparameters =>
    have hname := h.isIdentifier_name
    rw [hinside]
    cases hletters : recognition.name.toList with
    | nil =>
      rw [hletters] at hname
      cases hname
    | cons c others =>
      rw [hletters] at hname
      exact Or.inl ⟨c, List.mem_cons_self, hname.1⟩
  | binding hbinding hparameters hchars => exact hchars.imp_right fun hdots => ⟨hbinding, hdots⟩

/-- **A header that a check of structure accepts** is an empty list, if it does not begin with
white space. -/
theorem DefinesFunction.binding_of_mem_structural (h : DefinesFunction catalog line recognition)
    (hholds : recognition.HeaderHolds inside)
    (hfront : ∀ c ∈ inside.head?, isWhiteSpace c = false) {rule : Rule}
    (hrule : rule ∈ Rule.structural) (haccepts : rule.pattern.Accepts (form inside)) :
    recognition.rule = .binding ∧ inside = [] := by
  have hcases := h.letter_or_dots hholds
  have hblank := Rule.blank_of_mem_structural hrule haccepts (hcases.imp_right And.right)
  rcases hcases with ⟨c, hc, halpha⟩ | ⟨hbinding, -⟩
  · have hspace := hblank c hc
    rw [Unicode.isWhiteSpace_eq_false_of_isAlpha halpha] at hspace
    cases hspace
  · refine ⟨hbinding, ?_⟩
    cases inside with
    | nil => rfl
    | cons c inside =>
      have hspace := hblank c List.mem_cons_self
      rw [hfront c rfl] at hspace
      cases hspace

/-- **The first token of a header** is the name or a parameter, or the dot in front of a list. -/
theorem DefinesFunction.head_cases (h : DefinesFunction catalog line recognition)
    (hholds : recognition.HeaderHolds inside) (hhead : (Text.tokens inside).head? = some head) :
    String.ofList head = recognition.name ∨ String.ofList head ∈ recognition.parameters
      ∨ recognition.rule = .binding ∧ head = ['.'] := by
  have hname := h.isIdentifier_name
  cases hholds with
  | procedure hprocedure tail hinside htail hparameters =>
    rw [hinside, Text.tokens_token_append hname.ne_nil hname.not_isWhiteSpace htail] at hhead
    obtain rfl : recognition.name.toList = head := Option.some.inj hhead
    exact Or.inl String.ofList_toList
  | binding hbinding hparameters hchars =>
    by_cases hdot : head = ['.']
    · exact Or.inr (Or.inr ⟨hbinding, hdot⟩)
    · refine Or.inr (Or.inl ?_)
      rw [hparameters, Recognition.parametersIn, List.mem_filter]
      refine ⟨List.mem_map_of_mem (List.mem_of_head? hhead), bne_iff_ne.mpr fun heq => hdot ?_⟩
      rw [← String.toList_ofList (l := head), heq]
      rfl

/-- **A header that is a call of a command** begins with a dot, unless the name of the command
has white space in it. -/
theorem DefinesFunction.name_of_isCall (h : DefinesFunction catalog line recognition)
    (hholds : recognition.HeaderHolds inside) (hne : inside ≠ [])
    (hfront : ∀ c ∈ inside.head?, isWhiteSpace c = false) {command : Command}
    (hcommand : command ∈ catalog.commands) {arguments : List Argument}
    (hcall : IsCall command.name arguments (form inside)) :
    (∃ c ∈ command.name.toList, isWhiteSpace c = true)
      ∨ recognition.rule = .binding ∧ command.name = "." := by
  by_cases hspace : ∃ c ∈ command.name.toList, isWhiteSpace c = true
  · exact Or.inl hspace
  have hspaceless : ∀ c ∈ command.name.toList, isWhiteSpace c = false :=
    fun c hc => Bool.eq_false_iff.mpr fun hblank => hspace ⟨c, hc, hblank⟩
  obtain ⟨blank, blank', hblank, hblank', hform⟩ := hcall
  obtain rfl : inside
      = blank ++ (command.name.toList ++ (arguments.flatMap Argument.text ++ blank')) :=
    List.append_cancel_right (List.cons.inj hform).2
  have hname : command.name.toList ≠ [] := by
    intro hempty
    rw [hempty, List.nil_append] at hne hfront
    -- without a name the form would begin with white space
    obtain ⟨c, hc⟩ := Option.ne_none_iff_exists'.mp (List.head?_eq_none_iff.not.mpr hne)
    have hblankHead : isWhiteSpace c = true := by
      cases blank with
      | nil => exact Text.head?_arguments hblank' c hc
      | cons x blank => exact hblank c (List.mem_of_mem_head? hc)
    rw [hfront c hc] at hblankHead
    cases hblankHead
  have hhead : (Text.tokens (blank ++ (command.name.toList
      ++ (arguments.flatMap Argument.text ++ blank')))).head? = some command.name.toList := by
    rw [Text.tokens_call hblank hblank' hname hspaceless]
    rfl
  have hcases := h.head_cases hholds hhead
  rw [String.ofList_toList] at hcases
  rcases hcases with hsame | hparameter | ⟨hbinding, hdot⟩
  · -- the name of the function would be one of the catalog
    have howned : recognition.name ∈ catalog.ownNames :=
      hsame ▸ List.mem_append_left _ (List.mem_append_left _ (List.mem_map_of_mem hcommand))
    have hnot := h.not_owned
    rw [Catalog.containsName_iff.mpr howned] at hnot
    cases hnot
  · exact absurd hparameter (h.not_command command hcommand)
  · exact Or.inr ⟨hbinding, String.toList_injective hdot⟩

section FirstMatch

variable (h : DefinesFunction catalog line recognition) (hholds : recognition.HeaderHolds inside)
  (hinner : IsInnermost line span inside) {rule : Rule}
  (hfirst : IsFirstMatch (Rule.ofCatalog catalog) line rule span)
include h hholds hinner hfirst

/-- **A header that a check of structure reports** is an empty list. -/
theorem DefinesFunction.empty_of_isFirstMatch (htier : rule.tier = .structural) :
    recognition.rule = .binding ∧ inside = [] := by
  have hstyle := hfirst.not_matches_style (by rw [htier]; decide)
  have hfront := Rule.head?_of_not_matches_style hinner hstyle
  exact h.binding_of_mem_structural hholds hfront (Rule.mem_structural_of_tier hfirst.mem htier)
    (hfirst.accepts hinner)

/-- **A header that a rule of a command reports** is a call of the command. -/
theorem DefinesFunction.call_of_isFirstMatch
    (htier : rule.tier = .argumentCount ∨ rule.tier = .argumentType) :
    ∃ command ∈ catalog.commands,
      (∃ arguments, IsCall command.name arguments (form inside))
        ∧ ((∃ c ∈ command.name.toList, isWhiteSpace c = true)
          ∨ recognition.rule = .binding ∧ command.name = ".") := by
  have hrank : 1 < rule.tier.rank := by
    rcases htier with htier | htier <;> rw [htier] <;> decide
  have hfront := Rule.head?_of_not_matches_style hinner (hfirst.not_matches_style (by omega))
  have hne := Rule.ne_nil_of_not_matches_structural hinner (hfirst.not_matches_structural hrank)
  obtain ⟨command, hcommand, hrule⟩ := Rule.exists_command_of_tier hfirst.mem htier
  obtain ⟨arguments, hcall⟩ := Rule.exists_isCall hrule (hfirst.accepts hinner)
  exact ⟨command, hcommand, ⟨arguments, hcall⟩,
    h.name_of_isCall hholds hne hfront hcommand hcall⟩

end FirstMatch

/-- **A header that the last tier reports** is a list that begins with a dot. -/
theorem DefinesFunction.head_of_fallbackFinds {compiler : Compiler}
    (h : DefinesFunction catalog line recognition) (hholds : recognition.HeaderHolds inside)
    (hinner : IsInnermost line span inside) (hmem : line ∈ Text.lines text.toList)
    (hfinds : FallbackFinds compiler catalog text line span) :
    recognition.rule = .binding ∧ (Text.tokens inside).head? = some ['.'] := by
  obtain ⟨known, hknown, hfind⟩ := hfinds
  obtain ⟨⟨inside', head, hinner', hfirst, hunknown⟩, -⟩ :=
    (KnownNames.find?_eq_some_iff hknown).mp hfind
  obtain rfl : inside = inside' := hinner.inside_unique hinner'
  have hhead := Text.head?_tokens_eq_some_iff.mpr hfirst
  rcases h.head_cases hholds hhead with hname | hparameter | ⟨hbinding, rfl⟩
  · -- the line itself defines the name
    obtain ⟨identifier, hidentifier, hrole, hdefined⟩ := exists_mem_classify_iff.mpr
      ⟨line, hmem, h.not_owned, recognition, h.recognised, Or.inr h.isFunction, rfl⟩
    exact absurd (hdefined.trans hname.symm) (hunknown.not_defined identifier hidentifier hrole)
  · exact absurd hparameter (hunknown.not_parameter recognition h.recognised h.isFunction)
  · exact ⟨hbinding, hhead⟩

end

/-- **What is reported at the header of a definition.** A line that defines a function of the
document's own has a header, which holds the parameters. Apart from hints on style, a diagnostic
covers the header in these cases only. A check of structure does if the header is an empty list
of parameters. A rule of a command does if the header is a call of it, and then the name of the
command has white space in it, or the command is a dot and a list of parameters begins with it.
The last tier does if a list of parameters begins with a dot. -/
theorem diagnose_header {compiler : Compiler} {catalog : Catalog} {engine : Engine} {text : String}
    {index : Nat} {line : Line} {recognition : Recognition}
    (hengine : Engine.build compiler catalog = .ok engine)
    (hline : (Text.lines text.toList)[index]? = some line)
    (hdefines : DefinesFunction catalog line recognition) :
    ∃ span inside, recognition.header? = some span ∧ IsInnermost line span inside
      ∧ recognition.HeaderHolds inside
      ∧ ∀ diagnostic ∈ engine.diagnose text, diagnostic.line = index →
          diagnostic.Covers line span →
            (diagnostic.tier = .structural → recognition.rule = .binding ∧ inside = [])
              ∧ (diagnostic.tier = .argumentCount ∨ diagnostic.tier = .argumentType →
                ∃ command ∈ catalog.commands,
                  (∃ arguments, IsCall command.name arguments (form inside))
                    ∧ ((∃ c ∈ command.name.toList, isWhiteSpace c = true)
                      ∨ recognition.rule = .binding ∧ command.name = "."))
              ∧ (diagnostic.tier = .unknownIdentifier →
                recognition.rule = .binding ∧ (Text.tokens inside).head? = some ['.']) := by
  obtain ⟨rfl, -⟩ := Engine.build_eq_ok_iff.mp hengine
  obtain ⟨span, inside, hheader, hinner, hholds⟩ :=
    Recognition.exists_header hdefines.recognised hdefines.isFunction
  refine ⟨span, inside, hheader, hinner, hholds, fun diagnostic hmem hnumber hcovers => ?_⟩
  rcases (Engine.mem_diagnose_iff_isFirstMatch hline).mp ⟨hmem, hnumber⟩ with
    ⟨rule, found, hfirst, rfl⟩ | ⟨-, found, hfinds, rfl⟩
  · obtain rfl : found = span := hcovers.eq_of_onLine hfirst.isLeftmost.liesIn
    exact ⟨hdefines.empty_of_isFirstMatch hholds hinner hfirst,
      hdefines.call_of_isFirstMatch hholds hinner hfirst,
      fun htier => absurd htier (Rule.tier_ne_unknownIdentifier hfirst.mem)⟩
  · obtain ⟨inside', hinner'⟩ := hfinds.exists_isInnermost
    obtain rfl : found = span := hcovers.eq_of_onLine hinner'.liesIn
    exact ⟨nofun, nofun, fun _ => hdefines.head_of_fallbackFinds hholds hinner
      (List.mem_of_getElem? hline) hfinds⟩

/-- The header of a line, found by evaluation. -/
theorem exists_definesFunction {catalog : Catalog} {line : Line} {span : Span}
    (h : (classifyLine line).any (fun recognition =>
      decide (recognition.rule.role = .function ∧ catalog.containsName recognition.name = false
        ∧ (∀ command ∈ catalog.commands, command.name ∉ recognition.parameters)
        ∧ recognition.header? = some span)) = true) :
    ∃ recognition, DefinesFunction catalog line recognition ∧ recognition.header? = some span
      ∧ ∃ inside, IsInnermost line span inside := by
  obtain ⟨recognition, hrecognition, hall⟩ := (Option.any_eq_true _ _).mp h
  obtain ⟨hrole, hname, hcommands, hheader⟩ := of_decide_eq_true hall
  obtain ⟨span', inside, hheader', hinner, -⟩ := Recognition.exists_header hrecognition hrole
  obtain rfl : span = span' := Option.some.inj (hheader.symm.trans hheader')
  exact ⟨recognition, ⟨hrecognition, hrole, hname, hcommands⟩, hheader, inside, hinner⟩

/-- The list of parameters is spared, although `rest` is told its number of arguments beside it. -/
theorem diagnose_header_stroll :
    let text := "(define area (x y) (rest 1))"
    let line := text.toList
    let engine : Engine := ⟨strollCatalog, Rule.ofCatalog strollCatalog, .bounded⟩
    Engine.ofCatalog strollCatalog = .ok engine
      ∧ (Text.lines text.toList)[0]? = some line
      ∧ ∃ recognition, DefinesFunction strollCatalog line recognition
          ∧ recognition.header? = some ⟨13, 18⟩
          ∧ ∀ diagnostic ∈ engine.diagnose text, diagnostic.line = 0 →
              diagnostic.Covers line ⟨13, 18⟩ → diagnostic.tier = .style := by
  intro text line engine
  have hengine : Engine.ofCatalog strollCatalog = .ok engine := ofCatalog_strollCatalog
  have hline : (Text.lines text.toList)[0]? = some line := by decide +kernel
  obtain ⟨recognition, hdefines, hheader, -⟩ :=
    @exists_definesFunction strollCatalog line ⟨13, 18⟩ (by decide +kernel)
  refine ⟨hengine, hline, recognition, hdefines, hheader, fun diagnostic hmem hnumber hcovers => ?_⟩
  obtain ⟨span, inside, hheader', hinner, -, hall⟩ := diagnose_header hengine hline hdefines
  obtain rfl : ⟨13, 18⟩ = span := Option.some.inj (hheader.symm.trans hheader')
  have hlist : IsInnermost line ⟨13, 18⟩ "x y".toList :=
    ⟨"(define area ".toList, " (rest 1))".toList, by decide +kernel, by decide +kernel, rfl⟩
  obtain rfl : inside = "x y".toList := hinner.inside_unique hlist
  obtain ⟨hstructural, hcommand, hunknown⟩ := hall diagnostic hmem hnumber hcovers
  have hplain : ∀ command ∈ strollCatalog.commands, IsPlain command.name := by decide +kernel
  have hnone : ¬ (diagnostic.tier = .argumentCount ∨ diagnostic.tier = .argumentType) := by
    intro htier
    obtain ⟨command, hmem, -, ⟨c, hc, hspace⟩ | ⟨-, hdot⟩⟩ := hcommand htier
    · exact Bool.noConfusion (((hplain command hmem).not_isWhiteSpace c hc).symm.trans hspace)
    · exact absurd (hdot ▸ hplain command hmem) (by decide +kernel)
  cases htier : diagnostic.tier with
  | style => rfl
  | structural => exact absurd (hstructural htier).2 (by decide)
  | argumentCount => exact absurd (Or.inl htier) hnone
  | argumentType => exact absurd (Or.inr htier) hnone
  | unknownIdentifier => exact absurd (hunknown htier).2 (by decide +kernel)

/-- A diagnostic of the tier covers the header of a function of the document's own. -/
def ReportsHeader (catalog : Catalog) (text : String) (tier : Tier) : Prop :=
  ∃ engine index line recognition span, Engine.ofCatalog catalog = .ok engine
    ∧ (Text.lines text.toList)[index]? = some line ∧ DefinesFunction catalog line recognition
    ∧ recognition.header? = some span
    ∧ ∃ diagnostic ∈ engine.diagnose text, diagnostic.line = index
        ∧ diagnostic.Covers line span ∧ diagnostic.tier = tier

/-- A diagnostic of the document in the columns of a header reports it. -/
theorem reportsHeader_of_mem {catalog : Catalog} {text : String} {line : Line} {span : Span}
    {diagnostic : Diagnostic}
    (hengine : Engine.ofCatalog catalog = .ok ⟨catalog, Rule.ofCatalog catalog, .bounded⟩)
    (hline : (Text.lines text.toList)[0]? = some line)
    (hdefines : ∃ recognition, DefinesFunction catalog line recognition
      ∧ recognition.header? = some span ∧ ∃ inside, IsInnermost line span inside)
    (hmem : diagnostic ∈ Engine.diagnose ⟨catalog, Rule.ofCatalog catalog, .bounded⟩ text)
    (hplace : diagnostic.line = 0 ∧ diagnostic.startColumn = Text.units (line.take span.start)
      ∧ diagnostic.endColumn = Text.units (line.take span.stop)) :
    ReportsHeader catalog text diagnostic.tier := by
  obtain ⟨recognition, hdefines, hheader, hinner⟩ := hdefines
  exact ⟨_, 0, line, recognition, span, hengine, hline, hdefines, hheader, diagnostic, hmem,
    hplace.1, ⟨hinner, hplace.2⟩, rfl⟩

/-- A catalog with a name of two tokens and one that is a dot. -/
def oddCatalog : Catalog where
  commands :=
    [ { name := "f x", description := "", args := ["n"] },
      { name := ".", description := "", args := ["n"] } ]
  keywords := []
  configVariables := []
  builtins := []

/-- A list of parameters that begins with a dot is reported by the last tier. -/
theorem reportsHeader_dot :
    ReportsHeader walkCatalog "(define f (. rest) 1)" .unknownIdentifier := by
  generalize htext : "(define f (. rest) 1)" = text
  have hlines : Text.lines text.toList = [text.toList] := by rw [← htext]; decide +kernel
  have hline : (Text.lines text.toList)[0]? = some text.toList := by rw [hlines]; rfl
  have hclassify : classify walkCatalog text
      = [⟨"f", .function, Role.function.description, ["rest"], 0, none⟩] := by
    have hnames : ([text.toList].zipIdx.filterMap (Identifier.ofLine? walkCatalog)).map (·.name)
        = ["f"] := by
      rw [← htext]
      decide +kernel
    rw [classify_of_nodup hlines (List.nodup_singleton _) (hnames ▸ List.nodup_singleton _),
      ← htext]
    decide +kernel
  obtain ⟨known, hknown⟩ := KnownNames.exists_known .bounded hclassify (by
    rw [Pattern.exactNames_of_pairwise (by decide +kernel)]
    decide +kernel)
  have hfind : known.find? text.toList = some ⟨10, 18⟩ := by
    rw [(KnownNames.ofIdentifiers_eq_ok_iff.mp hknown).1, hclassify,
      Pattern.exactNames_of_pairwise (by decide +kernel), ← htext]
    decide +kernel
  have hrules : ∀ rule ∈ Rule.ofCatalog walkCatalog, ¬ rule.Matches text.toList := by
    simp only [Rule.not_matches_iff, ← htext]
    decide +kernel
  obtain ⟨told, htold⟩ : ∃ told, told = Diagnostic.onLine 0 text.toList ⟨10, 18⟩
      unknownIdentifierMessage .warning .unknownIdentifier := ⟨_, rfl⟩
  have hmem : told ∈ Engine.diagnose ⟨walkCatalog, Rule.ofCatalog walkCatalog, .bounded⟩ text
      ∧ told.line = 0 :=
    (Engine.mem_diagnose_iff_isFirstMatch hline).mpr
      (Or.inr ⟨hrules, ⟨10, 18⟩, ⟨known, hknown, hfind⟩, htold⟩)
  have hdefines : ∃ recognition, DefinesFunction walkCatalog text.toList recognition
      ∧ recognition.header? = some ⟨10, 18⟩ ∧ ∃ inside, IsInnermost text.toList ⟨10, 18⟩ inside :=
    exists_definesFunction (by rw [← htext]; decide +kernel)
  subst htold
  exact reportsHeader_of_mem ofCatalog_walkCatalog hline hdefines hmem.1 ⟨rfl, rfl, rfl⟩

/-- The gaps: an empty list, a list that begins with a dot, and commands with odd names. -/
theorem reportsHeader_examples :
    ReportsHeader walkCatalog "(define f () 1)" .structural
      ∧ ReportsHeader walkCatalog "(define f (. rest) 1)" .unknownIdentifier
      ∧ ReportsHeader oddCatalog "(define (f x) 1)" .argumentCount
      ∧ ReportsHeader oddCatalog "(define f (. rest) 1)" .argumentType := by
  have hodd : Engine.ofCatalog oddCatalog
      = .ok ⟨oddCatalog, Rule.ofCatalog oddCatalog, .bounded⟩ :=
    Engine.build_eq_ok_iff.mpr ⟨rfl, by decide +kernel⟩
  refine ⟨?_, reportsHeader_dot, ?_, ?_⟩
  · exact @reportsHeader_of_mem _ _ "(define f () 1)".toList ⟨10, 12⟩
      ⟨0, 10, 12, "Valid command expected.", .warning, .structural⟩ ofCatalog_walkCatalog
      (by decide +kernel) (exists_definesFunction (by decide +kernel)) (by decide +kernel)
      (by decide +kernel)
  · exact @reportsHeader_of_mem _ _ "(define (f x) 1)".toList ⟨8, 13⟩
      ⟨0, 8, 13, "`f x` expected exactly 1 arguments.", .error, .argumentCount⟩ hodd
      (by decide +kernel) (exists_definesFunction (by decide +kernel)) (by decide +kernel)
      (by decide +kernel)
  · exact @reportsHeader_of_mem _ _ "(define f (. rest) 1)".toList ⟨10, 18⟩
      ⟨0, 10, 18, "`.` expected integer arguments.", .error, .argumentType⟩ hodd
      (by decide +kernel) (exists_definesFunction (by decide +kernel)) (by decide +kernel)
      (by decide +kernel)

end TurtleAssist
