import Mathlib.Data.List.Basic
import TurtleAssist.Proofs.Diagnostic.Call
import TurtleAssist.Proofs.Diagnostic.Layer
import TurtleAssist.Proofs.Pattern.Stretch

/-!
# Forms are judged one by one

A rule is searched for in a whole line, and nothing in its pattern says that a match must not
begin in one form and end in another, or at a parenthesis further out. The hints on style do
just that. The other rules, but for the warning about the brackets of a type, do not: what
their patterns accept begins with an opening parenthesis, ends with a closing one and has no
other in between, provided that the names of the commands have none (`Rule.isOfForms_or_mem`). A
pattern of this kind accepts whole innermost forms only, wherever these stand, and so it finds
in a line what it finds in its innermost forms one by one (`Rule.matches_iff_findsAlone`,
`Rule.isLeftmost_iff_findsFirst`).

`diagnose_local` says what follows for documents. A diagnostic of such a rule, or of the last
tier, covers an innermost form. On a line where the hints on style and the warning are silent,
the rule that is reported is the first one that an innermost form triggers as a line of its own,
and what stands between the forms or around them has no say.
-/

namespace TurtleAssist

open Text (IsFlat IsLeftmostStretch IsPrefixFree Line Span StandsAt form)
open KnownNames

/-! ## Innermost forms as stretches of a line -/

namespace KnownNames

variable {line : Line} {span : Span} {inside : List Char}

theorem isInnermost_iff :
    IsInnermost line span inside ↔ IsFlat inside ∧ StandsAt line span (form inside) := by
  have hlength : (form inside).length = inside.length + 2 := by simp [form]
  have hform : ∀ rest, form inside ++ rest = '(' :: (inside ++ ')' :: rest) := by simp [form]
  simp only [IsInnermost, StandsAt, hlength, hform, Nat.add_assoc]
  constructor
  · rintro ⟨before, after, hline, hflat, hspan⟩
    exact ⟨hflat, before, after, hline, hspan⟩
  · rintro ⟨hflat, before, after, hline, hspan⟩
    exact ⟨before, after, hline, hflat, hspan⟩

/-- A form holds one thing only. -/
theorem IsInnermost.inside_unique {inside' : List Char} (h : IsInnermost line span inside)
    (h' : IsInnermost line span inside') : inside = inside' := by
  have hsame : form inside = form inside' :=
    (isInnermost_iff.mp h).2.unique (isInnermost_iff.mp h').2
  exact List.append_cancel_right (List.cons.inj hsame).2

/-- An innermost form lies in its line. -/
theorem IsInnermost.liesIn (h : IsInnermost line span inside) : span.LiesIn line := by
  obtain ⟨before, after, rfl, -, rfl⟩ := h
  constructor
  · show before.length ≤ before.length + inside.length + 2
    omega
  · show before.length + inside.length + 2 ≤ _
    simp only [List.length_append, List.length_cons]
    omega

end KnownNames

/-- The line has an innermost form with this inside, wherever and however often. -/
def HasForm (line : Line) (inside : List Char) : Prop :=
  ∃ span, KnownNames.IsInnermost line span inside

/-! ## Patterns of forms -/

namespace Pattern

/-- **A pattern of forms** accepts innermost forms only, and does not ask where they stand. -/
structure IsOfForms (pattern : Pattern) : Prop where
  isPlaceless : pattern.isPlaceless = true
  exists_form : ∀ s, pattern.Accepts s → ∃ inside, s = form inside ∧ IsFlat inside

namespace IsOfForms

variable {pattern : Pattern} {line : Line} {span : Span} {inside : List Char}

/-- A pattern between parentheses is one of forms if it does not use parentheses itself. -/
theorem of_body {body : Pattern} (hplaceless : body.isPlaceless = true)
    (hflat : body.Within fun c => c ≠ '(' ∧ c ≠ ')') :
    (opened (body ++ text ")")).IsOfForms where
  isPlaceless := isPlaceless_form hplaceless
  exists_form s hs := by
    obtain ⟨inside, rfl, hinside⟩ := accepts_form.mp hs
    exact ⟨inside, rfl, hflat.forall_mem hinside⟩

/-- No form is the beginning of another one. -/
theorem isPrefixFree (h : pattern.IsOfForms) : IsPrefixFree pattern.Accepts := by
  rintro s t hs ht ⟨rest, hrest⟩
  obtain ⟨inside, rfl, -⟩ := h.exists_form s hs
  obtain ⟨inside', rfl, hflat⟩ := h.exists_form t ht
  have hstretch : form inside' = [] ++ (form inside ++ rest) := hrest.symm
  obtain ⟨-, -, rfl⟩ := eq_nil_of_form_stretch hflat hstretch
  rfl

/-- It is in a line that is one form if it accepts the line. -/
theorem isIn_form_iff_accepts (h : pattern.IsOfForms) (hflat : IsFlat inside) :
    pattern.isIn (form inside) = true ↔ pattern.Accepts (form inside) := by
  rw [isIn_iff_accepts h.isPlaceless]
  constructor
  · rintro ⟨before, stretch, rest, hline, haccepts⟩
    obtain ⟨t, rfl, -⟩ := h.exists_form stretch haccepts
    obtain ⟨-, -, rfl⟩ := eq_nil_of_form_stretch hflat hline
    exact haccepts
  · intro haccepts
    exact ⟨[], form inside, [], (List.append_nil _).symm, haccepts⟩

/-- And then its match is the whole line. -/
theorem span_of_find? (h : pattern.IsOfForms) (hflat : IsFlat inside) {found : Match}
    (hfound : pattern.find? (form inside) = some found) :
    found.span = ⟨0, (form inside).length⟩ := by
  refine span_of_find?_of_forms hflat h.isPlaceless (fun s hs => ?_) hfound
  obtain ⟨t, rfl, -⟩ := h.exists_form s hs
  exact ⟨t, rfl⟩

/-- **What it accepts in a line are the innermost forms that it finds one by one.** -/
theorem exists_standsAt_iff (h : pattern.IsOfForms) :
    (∃ text, StandsAt line span text ∧ pattern.Accepts text)
      ↔ ∃ inside, IsInnermost line span inside ∧ pattern.isIn (form inside) = true := by
  constructor
  · rintro ⟨text, hstands, haccepts⟩
    obtain ⟨inside, rfl, hflat⟩ := h.exists_form text haccepts
    exact ⟨inside, isInnermost_iff.mpr ⟨hflat, hstands⟩,
      (h.isIn_form_iff_accepts hflat).mpr haccepts⟩
  · rintro ⟨inside, hinner, hin⟩
    obtain ⟨hflat, hstands⟩ := isInnermost_iff.mp hinner
    exact ⟨form inside, hstands, (h.isIn_form_iff_accepts hflat).mp hin⟩

end IsOfForms

/-- What is in a form of a line is in the line. -/
theorem isIn_of_isInnermost {pattern : Pattern} {line : Line} {span : Span} {inside : List Char}
    (hplaceless : pattern.isPlaceless = true) (hinner : IsInnermost line span inside)
    (hin : pattern.isIn (form inside) = true) : pattern.isIn line = true := by
  obtain ⟨-, before, rest, rfl, -⟩ := isInnermost_iff.mp hinner
  obtain ⟨before', stretch, rest', hform, haccepts⟩ := (isIn_iff_accepts hplaceless).mp hin
  refine (isIn_iff_accepts hplaceless).mpr
    ⟨before ++ before', stretch, rest' ++ rest, ?_, haccepts⟩
  rw [hform]
  simp only [List.append_assoc]

end Pattern

/-! ## The rules of a catalog -/

namespace Rule

open Pattern

variable {rule : Rule} {line : Line} {span : Span}

theorem matches_iff_isIn : rule.Matches line ↔ rule.pattern.isIn line = true := by
  rw [← not_iff_not, not_matches_iff, isIn, Bool.not_eq_true, Option.isSome_eq_false_iff,
    Option.isNone_iff_eq_none]

/-- The rule matches an innermost form of the line if the form is a line of its own. -/
def FindsAlone (rule : Rule) (line : Line) (span : Span) : Prop :=
  ∃ inside, IsInnermost line span inside ∧ rule.Matches (form inside)

/-- **The leftmost innermost form** that the rule matches as a line of its own. -/
def FindsFirst (rule : Rule) (line : Line) (span : Span) : Prop :=
  rule.FindsAlone line span ∧ ∀ other, rule.FindsAlone line other → span.start ≤ other.start

/-- The warning about the brackets of a type, the last of the checks of structure. -/
def typeBrackets : Rule :=
  structural.getLast (List.cons_ne_nil _ _)

example : typeBrackets.message = "T[] syntax is expected instead of list<T>." := rfl

/-- The rules that look beyond innermost forms. -/
def farSighted : List Rule :=
  style ++ [typeBrackets]

section Forms

variable (h : rule.pattern.IsOfForms)
include h

theorem findsAlone_iff_standsAt :
    rule.FindsAlone line span ↔ ∃ text, StandsAt line span text ∧ rule.pattern.Accepts text := by
  unfold FindsAlone
  rw [h.exists_standsAt_iff]
  simp only [matches_iff_isIn]

/-- **A rule for forms matches a line exactly if it matches an innermost form of it alone.** -/
theorem matches_iff_findsAlone : rule.Matches line ↔ ∃ span, rule.FindsAlone line span := by
  rw [matches_iff_isIn, isIn_iff_standsAt h.isPlaceless]
  simp only [findsAlone_iff_standsAt h]

/-- **Its match is the leftmost of these forms.** -/
theorem isLeftmost_iff_findsFirst :
    rule.pattern.IsLeftmost line span ↔ rule.FindsFirst line span := by
  rw [← map_span_find?_eq_some_iff, span_find?_iff_isLeftmostStretch h.isPlaceless h.isPrefixFree]
  unfold IsLeftmostStretch FindsFirst
  simp only [findsAlone_iff_standsAt h, forall_exists_index, and_imp]

end Forms

theorem exists_findsAlone_iff :
    (∃ span, rule.FindsAlone line span)
      ↔ ∃ inside, HasForm line inside ∧ rule.Matches (form inside) := by
  constructor
  · rintro ⟨span, inside, hinner, hmatches⟩
    exact ⟨inside, ⟨span, hinner⟩, hmatches⟩
  · rintro ⟨inside, ⟨span, hinner⟩, hmatches⟩
    exact ⟨span, inside, hinner, hmatches⟩

/-- A rule that matches a line has a leftmost match in it. -/
theorem exists_isLeftmost_iff :
    (∃ span, rule.pattern.IsLeftmost line span) ↔ rule.Matches line := by
  simp only [← map_span_find?_eq_some_iff]
  rw [matches_iff_isIn, isIn, Option.isSome_iff_exists]
  simp

theorem within_integerArgument : integerArgument.Within fun c => c ≠ '(' ∧ c ≠ ')' :=
  ⟨CharSet.ne_paren_of_contains rfl rfl,
    List.forall_mem_singleton.mpr (by decide), CharSet.ne_paren_of_contains rfl rfl⟩

theorem within_identifierArgument : identifierArgument.Within fun c => c ≠ '(' ∧ c ≠ ')' :=
  ⟨CharSet.ne_paren_of_contains rfl rfl, CharSet.ne_paren_of_contains rfl rfl,
    CharSet.ne_paren_of_contains rfl rfl⟩

theorem within_wrongCount (arity : Nat) :
    (wrongCount arity).Within fun c => c ≠ '(' ∧ c ≠ ')' := by
  cases arity with
  | zero => exact within_integerArgument
  | succ k => exact ⟨within_integerArgument, within_integerArgument⟩

/-- The calls of a command are forms, if its name has no parentheses. -/
theorem isOfForms_callOf {command : Command} {arguments : Pattern}
    (hname : IsFlat command.name.toList)
    (hplaceless : (callBody command arguments).isPlaceless = true)
    (harguments : arguments.Within fun c => c ≠ '(' ∧ c ≠ ')') :
    (callOf command arguments).IsOfForms := by
  have hblanks : blanks.Within fun c => c ≠ '(' ∧ c ≠ ')' := CharSet.ne_paren_of_contains rfl rfl
  exact .of_body hplaceless ⟨⟨⟨hblanks, hname⟩, harguments⟩, hblanks⟩

theorem isOfForms_argumentCount {command : Command} (hname : IsFlat command.name.toList) :
    (argumentCount command).pattern.IsOfForms :=
  isOfForms_callOf hname (isPlaceless_wrongCount command.arity) (within_wrongCount command.arity)

theorem isOfForms_argumentType {command : Command} (hname : IsFlat command.name.toList) :
    (argumentType command).pattern.IsOfForms := by
  have hplaceless : (callBody command withIdentifier).isPlaceless = true := rfl
  exact isOfForms_callOf hname hplaceless
    ⟨⟨within_integerArgument, within_identifierArgument⟩, within_integerArgument,
      within_identifierArgument⟩

/-- The checks of structure are for forms, but for the last one. -/
theorem isOfForms_structural (h : rule ∈ structural) :
    rule = typeBrackets ∨ rule.pattern.IsOfForms := by
  have hspace : ∀ c, CharSet.space.contains c = true → c ≠ '(' ∧ c ≠ ')' :=
    CharSet.ne_paren_of_contains rfl rfl
  have hdigit : ∀ c, CharSet.digit.contains c = true → c ≠ '(' ∧ c ≠ ')' :=
    CharSet.ne_paren_of_contains rfl rfl
  have hnonLetter : ∀ c, nonLetter.contains c = true → c ≠ '(' ∧ c ≠ ')' :=
    CharSet.ne_paren_of_contains rfl rfl
  simp only [structural, List.mem_cons, List.not_mem_nil, or_false] at h
  rcases h with rfl | rfl | rfl | rfl | rfl
  · exact Or.inr (.of_body rfl ⟨⟨⟨hspace, hdigit⟩, hspace, hdigit⟩, hspace⟩)
  · exact Or.inr (.of_body rfl ⟨⟨⟨hspace, hdigit⟩, hspace, hdigit⟩, hspace⟩)
  · exact Or.inr (.of_body rfl
      ⟨⟨⟨hnonLetter, List.forall_mem_singleton.mpr (by decide)⟩, hdigit⟩, hnonLetter⟩)
  · exact Or.inr (.of_body rfl hspace)
  · exact Or.inl rfl

/-- **The rules of a catalog are for forms**, but for those that look further. -/
theorem isOfForms_or_mem {catalog : Catalog}
    (hnames : ∀ command ∈ catalog.commands, IsFlat command.name.toList)
    (h : rule ∈ Rule.ofCatalog catalog) : rule ∈ farSighted ∨ rule.pattern.IsOfForms := by
  rcases List.mem_append.mp h with h | h
  · rcases List.mem_append.mp h with h | h
    · rcases List.mem_append.mp h with h | h
      · exact Or.inl (List.mem_append_left _ h)
      · exact (isOfForms_structural h).imp_left fun heq =>
          List.mem_append_right _ (List.mem_singleton.mpr heq)
    · obtain ⟨command, hcommand, rfl⟩ := List.mem_map.mp h
      exact Or.inr (isOfForms_argumentCount (hnames command hcommand))
  · obtain ⟨command, hcommand, rfl⟩ := List.mem_map.mp h
    exact Or.inr (isOfForms_argumentType (hnames command (List.mem_filter.mp hcommand).1))

theorem tier_of_mem_style (h : rule ∈ style) : rule.tier = .style := by
  revert rule
  decide +kernel

theorem isPlaceless_of_mem_farSighted (h : rule ∈ farSighted) :
    rule.pattern.isPlaceless = true := by
  revert rule
  decide +kernel

end Rule

/-! ## Quiet lines -/

/-- **A quiet line**: none of the rules that look beyond innermost forms matches it. -/
def IsQuiet (line : Line) : Prop :=
  ∀ rule ∈ Rule.farSighted, ¬ rule.Matches line

/-- **The first rule that an innermost form of the line triggers alone**, with the leftmost
form that does. -/
def IsFirstAlone (rules : List Rule) (line : Line) (rule : Rule) (span : Span) : Prop :=
  ∃ before after, rules = before ++ rule :: after
    ∧ (∀ earlier ∈ before, ∀ other, ¬ earlier.FindsAlone line other) ∧ rule.FindsFirst line span

section Quiet

variable {rule : Rule} {line : Line} {span : Span}

/-- On a quiet line the rules that look further match no form alone either. -/
theorem IsQuiet.not_findsAlone (hquiet : IsQuiet line) (hrule : rule ∈ Rule.farSighted) :
    ¬ rule.FindsAlone line span := by
  rintro ⟨inside, hinner, hmatches⟩
  rw [Rule.matches_iff_isIn] at hmatches
  exact hquiet rule hrule (Rule.matches_iff_isIn.mpr
    (Pattern.isIn_of_isInnermost (Rule.isPlaceless_of_mem_farSighted hrule) hinner hmatches))

variable (hforms : rule ∈ Rule.farSighted ∨ rule.pattern.IsOfForms) (hquiet : IsQuiet line)
include hforms hquiet

theorem IsQuiet.matches_iff : rule.Matches line ↔ ∃ span, rule.FindsAlone line span := by
  rcases hforms with hfar | hforms
  · exact iff_of_false (hquiet rule hfar) fun ⟨_, halone⟩ => hquiet.not_findsAlone hfar halone
  · exact Rule.matches_iff_findsAlone hforms

theorem IsQuiet.isLeftmost_iff : rule.pattern.IsLeftmost line span ↔ rule.FindsFirst line span := by
  rcases hforms with hfar | hforms
  · exact iff_of_false (fun hleftmost => hquiet rule hfar (Rule.matches_of_isLeftmost hleftmost))
      fun hfirst => hquiet.not_findsAlone hfar hfirst.1
  · exact Rule.isLeftmost_iff_findsFirst hforms

end Quiet

/-- **On a quiet line the first rule is the one that its innermost forms trigger alone.** -/
theorem IsQuiet.isFirstMatch_iff {rules : List Rule} {line : Line} {rule : Rule} {span : Span}
    (hrules : ∀ rule ∈ rules, rule ∈ Rule.farSighted ∨ rule.pattern.IsOfForms)
    (hquiet : IsQuiet line) :
    IsFirstMatch rules line rule span ↔ IsFirstAlone rules line rule span := by
  refine exists_congr fun before => exists_congr fun after => and_congr_right fun hsplit => ?_
  subst hsplit
  obtain ⟨hbefore, hothers⟩ := List.forall_mem_append.mp hrules
  have hrule := hothers rule List.mem_cons_self
  refine and_congr (forall₂_congr fun earlier hearlier => ?_) (hquiet.isLeftmost_iff hrule)
  rw [hquiet.matches_iff (hbefore earlier hearlier), not_exists]

/-- What stands outside the innermost forms of a quiet line does not change which rule is the
first. -/
theorem IsQuiet.exists_isFirstMatch {rules : List Rule} {line line' : Line} {rule : Rule}
    {span : Span} (hrules : ∀ rule ∈ rules, rule ∈ Rule.farSighted ∨ rule.pattern.IsOfForms)
    (hquiet : IsQuiet line) (hquiet' : IsQuiet line')
    (hsame : ∀ inside, HasForm line inside ↔ HasForm line' inside)
    (h : IsFirstMatch rules line rule span) : ∃ span', IsFirstMatch rules line' rule span' := by
  have hmatches : ∀ rule ∈ rules, rule.Matches line ↔ rule.Matches line' := by
    intro rule hrule
    rw [hquiet.matches_iff (hrules rule hrule), hquiet'.matches_iff (hrules rule hrule),
      Rule.exists_findsAlone_iff, Rule.exists_findsAlone_iff]
    simp only [hsame]
  have hmatch : rule.Matches line' := (hmatches rule h.mem).mp h.matches
  obtain ⟨before, after, hsplit, hbefore, -⟩ := h
  obtain ⟨span', hleftmost⟩ := Rule.exists_isLeftmost_iff.mpr hmatch
  refine ⟨span', before, after, hsplit, fun earlier hearlier hother => ?_, hleftmost⟩
  have hmem : earlier ∈ rules := hsplit ▸ List.mem_append_left _ hearlier
  exact hbefore earlier hearlier ((hmatches earlier hmem).mpr hother)

/-! ## Documents -/

/-- The diagnostic covers the innermost form of the line, in its columns. -/
def Diagnostic.Covers (diagnostic : Diagnostic) (line : Line) (span : Span) : Prop :=
  (∃ inside, IsInnermost line span inside)
    ∧ diagnostic.startColumn = Text.units (line.take span.start)
    ∧ diagnostic.endColumn = Text.units (line.take span.stop)

/-- A diagnostic covers no two forms. -/
theorem Diagnostic.Covers.unique {diagnostic : Diagnostic} {line : Line} {one two : Span}
    (h : diagnostic.Covers line one) (h' : diagnostic.Covers line two) : one = two := by
  obtain ⟨⟨inside, hinner⟩, hstart, hstop⟩ := h
  obtain ⟨⟨inside', hinner'⟩, hstart', hstop'⟩ := h'
  exact hinner.liesIn.eq_of_units hinner'.liesIn (hstart.symm.trans hstart')
    (hstop.symm.trans hstop')

/-- What the last tier finds is an innermost form. -/
theorem FallbackFinds.exists_isInnermost {compiler : Compiler} {catalog : Catalog} {text : String}
    {line : Line} {span : Span} (h : FallbackFinds compiler catalog text line span) :
    ∃ inside, IsInnermost line span inside := by
  obtain ⟨known, hknown, hfind⟩ := h
  obtain ⟨⟨inside, -, hinner, -⟩, -⟩ := (KnownNames.find?_eq_some_iff hknown).mp hfind
  exact ⟨inside, hinner⟩

/-- **Forms are judged one by one.** If no command has a parenthesis in its name, a diagnostic
that is no hint on style and not the warning about the brackets of a type covers one innermost
form of its line. On a line where these are silent, a rule is reported exactly if it is the
first one that an innermost form triggers as a line of its own, and what is reported is the
leftmost such form; no rule is reported exactly if no form triggers any. So a quiet line of any
document with the same innermost forms, whatever stands around them, is told the same by the
rules. -/
theorem diagnose_local {compiler : Compiler} {catalog : Catalog} {engine : Engine} {text : String}
    {index : Nat} {line : Line} (hengine : Engine.build compiler catalog = .ok engine)
    (hnames : ∀ command ∈ catalog.commands, IsFlat command.name.toList)
    (hline : (Text.lines text.toList)[index]? = some line) :
    (∀ diagnostic ∈ engine.diagnose text, diagnostic.line = index →
        diagnostic.tier ≠ .style → diagnostic.message ≠ Rule.typeBrackets.message →
          ∃! span, diagnostic.Covers line span)
      ∧ (IsQuiet line →
        (∀ diagnostic, diagnostic ∈ engine.diagnose text ∧ diagnostic.line = index
              ∧ diagnostic.tier ≠ .unknownIdentifier
            ↔ ∃ rule span, IsFirstAlone engine.rules line rule span
                ∧ diagnostic = .onLine index line span rule.message rule.severity rule.tier)
          ∧ ((∃ diagnostic ∈ engine.diagnose text, diagnostic.line = index
                ∧ diagnostic.tier ≠ .unknownIdentifier)
            ↔ ∃ rule ∈ engine.rules, ∃ span, rule.FindsAlone line span)
          ∧ ∀ text' index' line', (Text.lines text'.toList)[index']? = some line' →
              IsQuiet line' → (∀ inside, HasForm line inside ↔ HasForm line' inside) →
                ∀ diagnostic ∈ engine.diagnose text, diagnostic.line = index →
                  diagnostic.tier ≠ .unknownIdentifier →
                    ∃ other ∈ engine.diagnose text', other.line = index'
                      ∧ other.message = diagnostic.message
                      ∧ other.severity = diagnostic.severity
                      ∧ other.tier = diagnostic.tier) := by
  obtain ⟨rfl, -⟩ := Engine.build_eq_ok_iff.mp hengine
  have hrules : ∀ rule ∈ Rule.ofCatalog catalog,
      rule ∈ Rule.farSighted ∨ rule.pattern.IsOfForms :=
    fun rule hrule => Rule.isOfForms_or_mem hnames hrule
  -- what the rules report, whatever the last tier does
  have hruled : ∀ {text index line}, (Text.lines text.toList)[index]? = some line →
      ∀ diagnostic, diagnostic ∈ (Engine.mk catalog (Rule.ofCatalog catalog) compiler).diagnose text
            ∧ diagnostic.line = index ∧ diagnostic.tier ≠ .unknownIdentifier
          ↔ ∃ rule span, IsFirstMatch (Rule.ofCatalog catalog) line rule span
              ∧ diagnostic = .onLine index line span rule.message rule.severity rule.tier := by
    intro text index line hline diagnostic
    rw [← and_assoc, Engine.mem_diagnose_iff_isFirstMatch hline]
    constructor
    · rintro ⟨hfirst | ⟨-, span, -, rfl⟩, htier⟩
      · exact hfirst
      · exact absurd rfl htier
    · rintro ⟨rule, span, hfirst, rfl⟩
      exact ⟨Or.inl ⟨rule, span, hfirst, rfl⟩, Rule.tier_ne_unknownIdentifier hfirst.mem⟩
  refine ⟨fun diagnostic hmem hnumber hstyle hbrackets => ?_, fun hquiet => ⟨?_, ?_, ?_⟩⟩
  · refine existsUnique_of_exists_of_unique ?_ fun one two => Diagnostic.Covers.unique
    rcases (Engine.mem_diagnose_iff_isFirstMatch hline).mp ⟨hmem, hnumber⟩ with
      ⟨rule, span, hfirst, rfl⟩ | ⟨-, span, hfinds, rfl⟩
    · have hforms : rule.pattern.IsOfForms := by
        refine (hrules rule hfirst.mem).resolve_left fun hfar => ?_
        rcases List.mem_append.mp hfar with hfar | hfar
        · exact hstyle (Rule.tier_of_mem_style hfar)
        · exact hbrackets (congrArg Rule.message (List.mem_singleton.mp hfar))
      obtain ⟨⟨inside, hinner, -⟩, -⟩ :=
        (Rule.isLeftmost_iff_findsFirst hforms).mp hfirst.isLeftmost
      exact ⟨span, ⟨inside, hinner⟩, rfl, rfl⟩
    · exact ⟨span, hfinds.exists_isInnermost, rfl, rfl⟩
  · intro diagnostic
    rw [hruled hline]
    simp only [hquiet.isFirstMatch_iff hrules]
  · constructor
    · rintro ⟨diagnostic, hdiagnostic⟩
      obtain ⟨rule, span, hfirst, -⟩ := (hruled hline diagnostic).mp hdiagnostic
      exact ⟨rule, hfirst.mem, (hquiet.matches_iff (hrules rule hfirst.mem)).mp hfirst.matches⟩
    · rintro ⟨rule, hrule, halone⟩
      have hmatches : rule.Matches line := (hquiet.matches_iff (hrules rule hrule)).mpr halone
      obtain ⟨first, span, hfirst⟩ := Engine.exists_isFirstMatch_iff.mpr ⟨rule, hrule, hmatches⟩
      exact ⟨_, (hruled hline _).mpr ⟨first, span, hfirst, rfl⟩⟩
  · intro text' index' line' hline' hquiet' hsame diagnostic hmem hnumber htier
    obtain ⟨rule, span, hfirst, rfl⟩ := (hruled hline diagnostic).mp ⟨hmem, hnumber, htier⟩
    obtain ⟨span', hfirst'⟩ := hquiet.exists_isFirstMatch hrules hquiet' hsame hfirst
    obtain ⟨hmem', hnumber', -⟩ := (hruled hline' _).mpr ⟨rule, span', hfirst', rfl⟩
    exact ⟨_, hmem', hnumber', rfl, rfl, rfl⟩

/-- Two forms in a line with parentheses that do not match. The rule of the second form comes
first. -/
theorem diagnose_local_stroll :
    let text := "(walk-to 1) ((walk 1 2) walk (rest"
    let line := text.toList
    let engine : Engine := ⟨strollCatalog, Rule.ofCatalog strollCatalog, .bounded⟩
    let told : Diagnostic :=
      ⟨0, 13, 23, "`walk` expected exactly 1 arguments.", .error, .argumentCount⟩
    Engine.ofCatalog strollCatalog = .ok engine
      ∧ (∀ command ∈ strollCatalog.commands, IsFlat command.name.toList)
      ∧ (Text.lines text.toList)[0]? = some line ∧ IsQuiet line ∧ told ∈ engine.diagnose text
      ∧ (∃! span, told.Covers line span)
      ∧ ∃ rule span, IsFirstAlone engine.rules line rule span
          ∧ told = .onLine 0 line span rule.message rule.severity rule.tier := by
  intro text line engine told
  have hengine : Engine.ofCatalog strollCatalog = .ok engine := ofCatalog_strollCatalog
  have hnames : ∀ command ∈ strollCatalog.commands, IsFlat command.name.toList := by
    decide +kernel
  have hline : (Text.lines text.toList)[0]? = some line := by decide +kernel
  have hquiet : IsQuiet line := by
    unfold IsQuiet
    simp only [Rule.not_matches_iff]
    decide +kernel
  have htold : told ∈ engine.diagnose text := by decide +kernel
  obtain ⟨hcovers, hrules⟩ := diagnose_local hengine hnames hline
  exact ⟨hengine, hnames, hline, hquiet, htold,
    hcovers told htold rfl (by decide) (by decide +kernel),
    ((hrules hquiet).1 told).mp ⟨htold, rfl, by decide⟩⟩

end TurtleAssist
