import Mathlib.Data.List.Basic
import TurtleAssist.Proofs.Diagnostic.Header

/-!
# The components of a color

A color is written as a list of three numbers. Three of the checks of structure look for lists
that were meant as colors and have too few components, too many, or negative ones. What they look
for is told here from the tokens of the form: `ComponentWarning.Finds` has one case for each of
them.

The first two describe lists of numbers, and a list of numbers is all that they find. The third
one does not describe a list at all. It asks for a minus sign in front of a digit and for no
letters, and so it finds every form without letters that has such a sign, whether its tokens are
numbers or not. `componentWarnings_exact` says both, and what follows for the calls of operators:
an operator has no letter in its name, so a call of one with integers is taken for a color as soon
as one of the integers has a minus sign (`componentWarning_sum`).
-/

namespace TurtleAssist

open Text (IsFlat Line Span form)
open Unicode (isDigit isWhiteSpace)
open KnownNames (IsInnermost)

/-! ## Signs -/

/-- **A sign in a text**: a minus sign right in front of a decimal digit. -/
def HasSign (text : List Char) : Prop :=
  ∃ before digit after, text = before ++ '-' :: digit :: after ∧ isDigit digit = true

/-- **A token with a minus sign in front**, minus zero included. -/
def IsNegative (token : List Char) : Prop :=
  token.head? = some '-'

instance (token : List Char) : Decidable (IsNegative token) :=
  inferInstanceAs (Decidable (_ = _))

/-- A sign does not reach into another piece of a text that begins with white space. -/
theorem hasSign_append_iff {s t : List Char} (h : ∀ c ∈ t.head?, isWhiteSpace c = true) :
    HasSign (s ++ t) ↔ HasSign s ∨ HasSign t := by
  constructor
  · rintro ⟨before, digit, after, heq, hdigit⟩
    rcases List.append_eq_append_iff.mp heq with ⟨t', rfl, ht⟩ | ⟨s', rfl, hs⟩
    · exact Or.inr ⟨t', digit, after, ht, hdigit⟩
    · cases s' with
      | nil => exact Or.inr ⟨[], digit, after, hs.symm, hdigit⟩
      | cons sign s' =>
        obtain ⟨rfl, hdigits⟩ : '-' = sign ∧ digit :: after = s' ++ t := List.cons.inj hs
        cases s' with
        | nil =>
          -- the digit would be white space
          have hspace := h digit (by rw [← List.nil_append t, ← hdigits]; rfl)
          rw [Unicode.isWhiteSpace_eq_false_of_isDigit hdigit] at hspace
          cases hspace
        | cons x s' =>
          obtain ⟨rfl, -⟩ : digit = x ∧ after = s' ++ t := List.cons.inj hdigits
          exact Or.inl ⟨before, digit, s', rfl, hdigit⟩
  · rintro (⟨before, digit, after, rfl, hdigit⟩ | ⟨before, digit, after, rfl, hdigit⟩)
    · exact ⟨before, digit, after ++ t, by simp, hdigit⟩
    · exact ⟨s ++ before, digit, after, by simp, hdigit⟩

/-- White space in front of a text has no sign. -/
theorem hasSign_blank_append_iff {space t : List Char} (h : ∀ c ∈ space, isWhiteSpace c = true) :
    HasSign (space ++ t) ↔ HasSign t := by
  constructor
  · rintro ⟨before, digit, after, heq, hdigit⟩
    rcases List.append_eq_append_iff.mp heq with ⟨t', rfl, ht⟩ | ⟨space', rfl, hspace'⟩
    · exact ⟨t', digit, after, ht, hdigit⟩
    · cases space' with
      | nil => exact ⟨[], digit, after, hspace'.symm, hdigit⟩
      | cons sign space' =>
        obtain ⟨rfl, -⟩ := List.cons.inj hspace'
        exact absurd (h '-' (List.mem_append_right before List.mem_cons_self)) (by decide)
  · rintro ⟨before, digit, after, rfl, hdigit⟩
    exact ⟨space ++ before, digit, after, (List.append_assoc _ _ _).symm, hdigit⟩

/-- **The signs of a text are those of its tokens.** -/
theorem hasSign_iff_tokens {text : List Char} :
    HasSign text ↔ ∃ token ∈ Text.tokens text, HasSign token := by
  induction text using Text.tokens_induction with
  | blank space hspace =>
    rw [Text.tokens_eq_nil_iff.mpr hspace, ← List.append_nil space, hasSign_blank_append_iff hspace]
    exact iff_of_false (fun ⟨_, _, _, heq, _⟩ => by simp at heq) nofun
  | token space token rest hspace hne htoken hrest ih =>
    rw [Text.tokens_blank_append hspace, Text.tokens_token_append hne htoken hrest,
      List.exists_mem_cons_iff, ← ih, hasSign_blank_append_iff hspace, hasSign_append_iff hrest]

/-- Where there is no digit there is no sign. -/
theorem HasSign.exists_isDigit {text : List Char} (h : HasSign text) :
    ∃ c ∈ text, isDigit c = true := by
  obtain ⟨before, digit, after, rfl, hdigit⟩ := h
  exact ⟨digit, by simp, hdigit⟩

/-- An integer has a sign if it begins with it. -/
theorem IsInteger.hasSign_iff {token : List Char} (h : IsInteger token) :
    HasSign token ↔ IsNegative token := by
  have hnumber : ∀ {digits}, IsNumber digits → '-' ∉ digits :=
    fun hdigits hmem => absurd (hdigits.2 '-' hmem) (by decide +kernel)
  constructor
  · rintro ⟨before, digit, after, rfl, -⟩
    rcases h with h | ⟨digits, heq, -⟩
    · exact absurd (List.mem_append_right before List.mem_cons_self) (hnumber h)
    · rw [heq]
      rfl
  · intro hnegative
    rcases h with h | ⟨digits, rfl, h⟩
    · exact absurd (List.mem_of_head? hnegative) (hnumber h)
    · obtain ⟨digit, after, rfl⟩ := List.exists_cons_of_ne_nil h.1
      exact ⟨[], digit, after, rfl, h.2 digit List.mem_cons_self⟩

/-! ## Lists of numbers -/

theorem IsNumber.isInteger_or {token : List Char} (h : IsNumber token) :
    IsInteger token ∨ IsIdentifier token :=
  Or.inl (Or.inl h)

/-- **A text of numbers** is the first of them and the others as arguments, with white space
around. -/
theorem Text.forall_isNumber_iff {text : List Char} {n : Nat} :
    ((∀ token ∈ tokens text, IsNumber token) ∧ (tokens text).length = n + 1)
      ↔ ∃ (blank first : List Char) (arguments : List Argument) (blank' : List Char),
          text = blank ++ (first ++ (arguments.flatMap Argument.text ++ blank'))
            ∧ (∀ c ∈ blank, isWhiteSpace c = true) ∧ (∀ c ∈ blank', isWhiteSpace c = true)
            ∧ IsNumber first ∧ (∀ argument ∈ arguments, IsNumber argument.token)
            ∧ arguments.length = n := by
  constructor
  · rintro ⟨hnumbers, hlength⟩
    have hne : tokens text ≠ [] := List.ne_nil_of_length_eq_add_one hlength
    obtain ⟨blank, first, arguments, blank', htext, hblank, hblank', htokens⟩ :=
      exists_first_arguments hne fun token htoken => (hnumbers token htoken).isInteger_or
    rw [htokens] at hnumbers hlength
    obtain ⟨hfirst, harguments⟩ := List.forall_mem_cons.mp hnumbers
    refine ⟨blank, first, arguments, blank', htext, hblank, hblank', hfirst,
      List.forall_mem_map.mp harguments, ?_⟩
    rw [← List.length_map Argument.token]
    exact Nat.succ.inj hlength
  · rintro ⟨blank, first, arguments, blank', rfl, hblank, hblank', hfirst, harguments, rfl⟩
    rw [tokens_call hblank hblank' hfirst.1 hfirst.not_isWhiteSpace]
    exact ⟨List.forall_mem_cons.mpr ⟨hfirst, List.forall_mem_map.mpr harguments⟩,
      congrArg (· + 1) (List.length_map _)⟩

namespace Pattern

variable {inside s : List Char}

/-- The pattern of the digits accepts the numbers. -/
theorem accepts_digits : digits.Accepts s ↔ IsNumber s :=
  ⟨fun h => ⟨h.1 rfl, h.2⟩, fun h => ⟨fun _ => h.1, h.2⟩⟩

theorem accepts_gap_digits :
    (gap ++ digits).Accepts s
      ↔ ∃ argument : Argument, s = argument.text ∧ IsNumber argument.token :=
  accepts_gap_token (fun _ => accepts_digits) fun _ => IsNumber.isInteger_or

/-- A number, and then more of them in a row. -/
def numbers (quantifier : Quantifier) : Pattern :=
  blanks ++ digits ++ .times (.group (gap ++ digits)) quantifier ++ blanks

/-- **A list of numbers is accepted** if there are as many after the first one as the quantifier
asks for. -/
theorem accepts_numbers {quantifier : Quantifier} :
    (numbers quantifier).Accepts inside
      ↔ ∃ n, ((∀ token ∈ Text.tokens inside, IsNumber token)
          ∧ (Text.tokens inside).length = n + 1)
          ∧ quantifier.least ≤ n ∧ ∀ most ∈ quantifier.most, n ≤ max quantifier.least most := by
  have htimes : ∀ {s}, ((Pattern.group (gap ++ digits)).times quantifier).Accepts s ↔ _ :=
    accepts_times_arguments fun _ => accepts_gap_digits
  simp only [Text.forall_isNumber_iff]
  constructor
  · rintro ⟨_, blank', rfl, ⟨_, _, rfl, ⟨blank, first, rfl, hblank, hfirst⟩, hmore⟩, hblank'⟩
    obtain ⟨arguments, rfl, harguments, hbounds⟩ := htimes.mp hmore
    refine ⟨arguments.length, ⟨blank, first, arguments, blank', ?_, accepts_blanks.mp hblank,
      accepts_blanks.mp hblank', accepts_digits.mp hfirst, harguments, rfl⟩, hbounds⟩
    simp only [List.append_assoc]
  · rintro ⟨_, ⟨blank, first, arguments, blank', rfl, hblank, hblank', hfirst, harguments, rfl⟩,
      hbounds⟩
    refine ⟨blank ++ first ++ arguments.flatMap Argument.text, blank', ?_,
      ⟨blank ++ first, _, rfl, ⟨blank, first, rfl, accepts_blanks.mpr hblank,
        accepts_digits.mpr hfirst⟩, htimes.mpr ⟨arguments, rfl, harguments, hbounds⟩⟩,
      accepts_blanks.mpr hblank'⟩
    simp only [List.append_assoc]

/-- What the warning about negative components asks of a form. -/
def signed : Pattern :=
  .run Rule.nonLetter false true ++ text "-" ++ digits ++ .run Rule.nonLetter false true

/-- **A text without letters and parentheses is accepted if it has a sign.** -/
theorem accepts_signed :
    signed.Accepts inside
      ↔ (∀ c ∈ inside, Rule.nonLetter.contains c = true) ∧ HasSign inside := by
  have hminus : Rule.nonLetter.contains '-' = true := by decide
  have hdigit : ∀ {c}, isDigit c = true → Rule.nonLetter.contains c = true := by
    intro c hc
    have hparen : c ≠ '(' ∧ c ≠ ')' :=
      @CharSet.ne_paren_of_contains .digit rfl rfl c hc
    exact Rule.contains_nonLetter.mpr ⟨hparen, Rule.isAlpha_eq_false_of_digit hc⟩
  constructor
  · rintro ⟨_, after, rfl, ⟨_, number, rfl, ⟨before, _, rfl, hbefore, rfl⟩, hnumber⟩, hafter⟩
    obtain ⟨digit, others, rfl⟩ := List.exists_cons_of_ne_nil (hnumber.1 rfl)
    refine ⟨?_, before, digit, others ++ after, by simp, hnumber.2 digit List.mem_cons_self⟩
    refine List.forall_mem_append.mpr ⟨List.forall_mem_append.mpr ⟨List.forall_mem_append.mpr
      ⟨hbefore.2, List.forall_mem_singleton.mpr hminus⟩, fun c hc => ?_⟩, hafter.2⟩
    exact hdigit (hnumber.2 c hc)
  · rintro ⟨hall, before, digit, after, rfl, hnumber⟩
    obtain ⟨hbefore, hrest⟩ := List.forall_mem_append.mp hall
    have hafter := (List.forall_mem_cons.mp (List.forall_mem_cons.mp hrest).2).2
    refine ⟨before ++ ['-'] ++ [digit], after, by simp, ⟨before ++ ['-'], [digit], rfl,
      ⟨before, ['-'], rfl, ⟨nofun, hbefore⟩, rfl⟩, accepts_digits.mpr ?_⟩, ⟨nofun, hafter⟩⟩
    exact ⟨List.cons_ne_nil _ _, List.forall_mem_singleton.mpr hnumber⟩

end Pattern

/-! ## The warnings -/

/-- The warnings about the components of a color. -/
inductive ComponentWarning where
  | few
  | many
  | negative
deriving DecidableEq

namespace ComponentWarning

theorem exists_iff {P : ComponentWarning → Prop} :
    (∃ warning, P warning) ↔ P few ∨ P many ∨ P negative := by
  constructor
  · rintro ⟨_ | _ | _, h⟩
    · exact Or.inl h
    · exact Or.inr (Or.inl h)
    · exact Or.inr (Or.inr h)
  · rintro (h | h | h)
    · exact ⟨few, h⟩
    · exact ⟨many, h⟩
    · exact ⟨negative, h⟩

/-- The check of structure that gives the warning. -/
def rule : ComponentWarning → Rule
  | few => Rule.structural.get ⟨0, by decide⟩
  | many => Rule.structural.get ⟨1, by decide⟩
  | negative => Rule.structural.get ⟨2, by decide⟩

example : negative.rule.message = "Just positive color components expected, negative were found." :=
  rfl

/-- **What the warning looks for in a form**, told from the tokens and the characters of the
form. -/
def Finds : ComponentWarning → List Char → Prop
  | few, inside => (∀ token ∈ Text.tokens inside, IsNumber token)
      ∧ ((Text.tokens inside).length = 1 ∨ (Text.tokens inside).length = 2)
  | many, inside => (∀ token ∈ Text.tokens inside, IsNumber token)
      ∧ 4 ≤ (Text.tokens inside).length
  | negative, inside => (∀ c ∈ inside, c.isAlpha = false) ∧ HasSign inside

variable {catalog : Catalog} {line : Line} {span : Span} {inside : List Char}

theorem rule_mem_structural (warning : ComponentWarning) : warning.rule ∈ Rule.structural :=
  match warning with
  | few => List.get_mem ..
  | many => List.get_mem ..
  | negative => List.get_mem ..

theorem severity_rule (warning : ComponentWarning) : warning.rule.severity = .warning := by
  cases warning <;> rfl

theorem tier_rule (warning : ComponentWarning) : warning.rule.tier = .structural :=
  Rule.tier_of_mem_structural warning.rule_mem_structural

/-- The warnings are for forms. -/
theorem isOfForms_rule (warning : ComponentWarning) : warning.rule.pattern.IsOfForms := by
  refine (Rule.isOfForms_structural warning.rule_mem_structural).resolve_left ?_
  cases warning <;> decide

/-- **A warning is given for a form exactly if the form has what it looks for.** -/
theorem isIn_form_iff (warning : ComponentWarning) (hflat : IsFlat inside) :
    warning.rule.pattern.isIn (form inside) = true ↔ warning.Finds inside := by
  cases warning with
  | few =>
    have hbody : few.rule.pattern.isIn (form inside) = true
        ↔ (Pattern.numbers .optional).Accepts inside := Pattern.isIn_form_iff hflat rfl
    rw [hbody, Pattern.accepts_numbers]
    simp only [Pattern.Quantifier.least, Pattern.Quantifier.most, Finds, Option.mem_some_iff,
      forall_eq']
    constructor
    · rintro ⟨n, ⟨hnumbers, hlength⟩, -, hmost⟩
      exact ⟨hnumbers, by omega⟩
    · rintro ⟨hnumbers, hlength⟩
      exact ⟨(Text.tokens inside).length - 1, ⟨hnumbers, by omega⟩, by omega, by omega⟩
  | many =>
    have hbody : many.rule.pattern.isIn (form inside) = true
        ↔ (Pattern.numbers (.atLeast 3)).Accepts inside := Pattern.isIn_form_iff hflat rfl
    rw [hbody, Pattern.accepts_numbers]
    simp only [Pattern.Quantifier.least, Pattern.Quantifier.most, Finds]
    constructor
    · rintro ⟨n, ⟨hnumbers, hlength⟩, hleast, -⟩
      exact ⟨hnumbers, by omega⟩
    · rintro ⟨hnumbers, hlength⟩
      refine ⟨(Text.tokens inside).length - 1, ⟨hnumbers, by omega⟩, by omega, fun most hmost => ?_⟩
      exact absurd hmost (Option.not_mem_none most)
  | negative =>
    have hbody : negative.rule.pattern.isIn (form inside) = true
        ↔ Pattern.signed.Accepts inside := Pattern.isIn_form_iff hflat rfl
    rw [hbody, Pattern.accepts_signed]
    refine and_congr_left fun _ => forall₂_congr fun c hc => ?_
    rw [Rule.contains_nonLetter]
    exact and_iff_right (hflat c hc)

/-- **The match of a warning** is the leftmost innermost form that has what it looks for. -/
theorem exists_of_isLeftmost (warning : ComponentWarning)
    (h : warning.rule.pattern.IsLeftmost line span) :
    ∃ inside, IsInnermost line span inside ∧ warning.Finds inside
      ∧ ∀ other inside', IsInnermost line other inside' → warning.Finds inside' →
          span.start ≤ other.start := by
  have hfinds : ∀ {span inside}, IsInnermost line span inside →
      (warning.rule.Matches (form inside) ↔ warning.Finds inside) := by
    intro span inside hinner
    rw [Rule.matches_iff_isIn, isIn_form_iff _ (KnownNames.isInnermost_iff.mp hinner).1]
  obtain ⟨⟨inside, hinner, hmatches⟩, hleftmost⟩ :=
    (Rule.isLeftmost_iff_findsFirst warning.isOfForms_rule).mp h
  exact ⟨inside, hinner, (hfinds hinner).mp hmatches, fun other inside' hother hfound =>
    hleftmost other ⟨inside', hother, (hfinds hother).mpr hfound⟩⟩

/-! ### Messages -/

/-- The messages about a command quote the name of the command, so they begin as no message on
the structure of a form does. -/
theorem head?_message_of_command {rule : Rule} {command : Command}
    (h : rule = Rule.argumentCount command ∨ rule = Rule.argumentType command) :
    rule.message.toList.head? = some '\x60' := by
  rcases h with rfl | rfl <;> simp [Rule.argumentCount, Rule.argumentType]

/-- The rules without a catalog are told apart by their messages. -/
theorem eq_rule_of_message_of_mem (warning : ComponentWarning) {rule : Rule}
    (h : rule ∈ Rule.style ++ Rule.structural) (hmessage : rule.message = warning.rule.message) :
    rule = warning.rule := by
  revert rule
  cases warning <;> decide +kernel

/-- **A warning is known by its message** among the rules of a catalog. -/
theorem eq_rule_of_message (warning : ComponentWarning) {rule : Rule}
    (h : rule ∈ Rule.ofCatalog catalog) (hmessage : rule.message = warning.rule.message) :
    rule = warning.rule := by
  rcases Rule.mem_ofCatalog_cases h with hstyle | hstructural | ⟨command, -, hcommand⟩
  · exact warning.eq_rule_of_message_of_mem (List.mem_append_left _ hstyle) hmessage
  · exact warning.eq_rule_of_message_of_mem (List.mem_append_right _ hstructural) hmessage
  · have hhead := head?_message_of_command hcommand
    rw [hmessage] at hhead
    cases warning <;> exact absurd hhead (by decide +kernel)

theorem message_ne_unknownIdentifier (warning : ComponentWarning) :
    unknownIdentifierMessage ≠ warning.rule.message := by
  cases warning <;> decide +kernel

end ComponentWarning

/-! ## Forms without letters -/

theorem IsInteger.isAlpha_eq_false {token : List Char} (h : IsInteger token) :
    ∀ c ∈ token, c.isAlpha = false := by
  have hnumber : ∀ {digits}, IsNumber digits → ∀ c ∈ digits, c.isAlpha = false :=
    fun hdigits c hc => Rule.isAlpha_eq_false_of_digit (hdigits.2 c hc)
  obtain h | ⟨digits, rfl, h⟩ := h
  · exact hnumber h
  · exact List.forall_mem_cons.mpr ⟨rfl, hnumber h⟩

/-- A text whose tokens have no letters has none. -/
theorem isAlpha_eq_false_of_tokens {text : List Char}
    (h : ∀ token ∈ Text.tokens text, ∀ c ∈ token, c.isAlpha = false) :
    ∀ c ∈ text, c.isAlpha = false := by
  intro c hc
  obtain hspace | ⟨token, htoken, hmem⟩ := Text.isWhiteSpace_or_mem_tokens hc
  · exact Rule.isAlpha_eq_false_of_space hspace
  · exact h token htoken c hmem

/-- **A name made of signs**, as those of the arithmetic operators are: no letters, no digits, no
white space and no parentheses. -/
structure IsOperator (name : String) : Prop where
  ne_empty : name ≠ ""
  isAlpha_eq_false : ∀ c ∈ name.toList, c.isAlpha = false
  isDigit_eq_false : ∀ c ∈ name.toList, isDigit c = false
  not_isWhiteSpace : ∀ c ∈ name.toList, isWhiteSpace c = false
  flat : IsFlat name.toList

namespace IsOperator

variable {operator : String} {arguments : List Argument}

theorem isWord (h : IsOperator operator) : IsWord operator :=
  ⟨h.ne_empty, h.not_isWhiteSpace, h.flat⟩

/-- An operator is no number. -/
theorem not_isNumber (h : IsOperator operator) : ¬ IsNumber operator.toList := by
  rintro ⟨hne, hdigits⟩
  obtain ⟨c, hc⟩ := List.exists_mem_of_ne_nil _ hne
  have hdigit := h.isDigit_eq_false c hc
  rw [hdigits c hc] at hdigit
  cases hdigit

/-- **A call of an operator with integers** has what the warning about negative components looks
for if one of the integers has a minus sign, and what the others look for in no case. -/
theorem finds_callInside_iff (h : IsOperator operator)
    (hintegers : ∀ argument ∈ arguments, IsInteger argument.token) (warning : ComponentWarning) :
    warning.Finds (callInside operator arguments)
      ↔ warning = .negative ∧ ∃ argument ∈ arguments, IsNegative argument.token := by
  have htokens : Text.tokens (callInside operator arguments)
      = operator.toList :: arguments.map Argument.token := tokens_callInside h.isWord
  have hnumbers : ¬ ∀ token ∈ Text.tokens (callInside operator arguments), IsNumber token := by
    rw [htokens]
    exact fun hall => h.not_isNumber (hall _ List.mem_cons_self)
  have hletters : ∀ c ∈ callInside operator arguments, c.isAlpha = false := by
    refine isAlpha_eq_false_of_tokens ?_
    rw [htokens]
    exact List.forall_mem_cons.mpr ⟨h.isAlpha_eq_false,
      List.forall_mem_map.mpr fun argument hargument =>
        (hintegers argument hargument).isAlpha_eq_false⟩
  have hsign : HasSign (callInside operator arguments)
      ↔ ∃ argument ∈ arguments, IsNegative argument.token := by
    have hoperator : ¬ HasSign operator.toList := by
      intro hsign
      obtain ⟨c, hc, hdigit⟩ := hsign.exists_isDigit
      rw [h.isDigit_eq_false c hc] at hdigit
      cases hdigit
    rw [hasSign_iff_tokens, htokens, List.exists_mem_cons_iff, or_iff_right hoperator]
    simp only [List.mem_map, exists_exists_and_eq_and]
    exact exists_congr fun argument => and_congr_right fun hargument =>
      (hintegers argument hargument).hasSign_iff
  cases warning with
  | few => exact iff_of_false (fun hfinds => hnumbers hfinds.1) nofun
  | many => exact iff_of_false (fun hfinds => hnumbers hfinds.1) nofun
  | negative => exact (and_iff_right hletters).trans (hsign.trans (and_iff_right rfl).symm)

end IsOperator

/-! ## Documents -/

section Documents

variable {compiler : Compiler} {catalog : Catalog} {engine : Engine} {text : String} {line : Line}
  {index : Nat}

/-- What a document is told in the words of a warning is that warning, at the leftmost innermost
form that has what it looks for. -/
theorem ComponentWarning.exists_of_mem_diagnose
    (hengine : Engine.build compiler catalog = .ok engine)
    (hline : (Text.lines text.toList)[index]? = some line) {diagnostic : Diagnostic}
    (hmem : diagnostic ∈ engine.diagnose text) (hindex : diagnostic.line = index)
    (warning : ComponentWarning) (hmessage : diagnostic.message = warning.rule.message) :
    ∃ span inside, IsInnermost line span inside ∧ warning.Finds inside
      ∧ diagnostic = .onLine index line span warning.rule.message .warning .structural
      ∧ ∀ other inside', IsInnermost line other inside' → warning.Finds inside' →
          span.start ≤ other.start := by
  obtain ⟨rfl, -⟩ := Engine.build_eq_ok_iff.mp hengine
  rcases (Engine.mem_diagnose_iff_isFirstMatch hline).mp ⟨hmem, hindex⟩ with
    ⟨rule, span, hfirst, rfl⟩ | ⟨-, span, -, rfl⟩
  · obtain rfl := warning.eq_rule_of_message hfirst.mem hmessage
    obtain ⟨inside, hinner, hfinds, hleftmost⟩ := warning.exists_of_isLeftmost hfirst.isLeftmost
    refine ⟨span, inside, hinner, hfinds, ?_, hleftmost⟩
    rw [warning.severity_rule, warning.tier_rule]
  · exact absurd hmessage warning.message_ne_unknownIdentifier

/-- A form without white space at its ends that has what the warning about negative components
looks for, and not what the others look for, is told that warning. -/
theorem ComponentWarning.exists_negative_of_finds
    (hengine : Engine.build compiler catalog = .ok engine) {inside : List Char} (hflat : IsFlat inside)
    (hhead : ∀ c ∈ inside.head?, isWhiteSpace c = false)
    (hlast : ∀ c ∈ inside.getLast?, isWhiteSpace c = false)
    (hline : (Text.lines text.toList)[index]? = some (form inside))
    (hfinds : ∀ warning : ComponentWarning, warning.Finds inside ↔ warning = .negative) :
    ∃ diagnostic ∈ engine.diagnose text, diagnostic.message = negative.rule.message := by
  obtain ⟨rfl, -⟩ := Engine.build_eq_ok_iff.mp hengine
  have hmatches : negative.rule.Matches (form inside) :=
    Rule.matches_iff_isIn.mpr ((negative.isIn_form_iff hflat).mpr ((hfinds _).mpr rfl))
  have hother : ∀ warning : ComponentWarning, warning ≠ .negative →
      ¬ warning.rule.Matches (form inside) := by
    intro warning hne hfound
    rw [Rule.matches_iff_isIn, warning.isIn_form_iff hflat, hfinds] at hfound
    exact hne hfound
  obtain ⟨span, hleftmost⟩ := Rule.exists_isLeftmost_iff.mpr hmatches
  have hfirst : IsFirstMatch (Rule.ofCatalog catalog) (form inside) negative.rule span := by
    refine ⟨Rule.style ++ [few.rule, many.rule],
      Rule.structural.drop 3 ++ catalog.commands.map Rule.argumentCount
        ++ (catalog.commands.filter fun command => decide (0 < command.arity)).map
          Rule.argumentType, rfl, fun earlier hearlier => ?_, hleftmost⟩
    rcases List.mem_append.mp hearlier with hstyle | hearlier
    · rw [Rule.matches_iff_isIn, Rule.isIn_style_eq_false hflat hhead hlast hstyle]
      exact Bool.false_ne_true
    · rcases List.mem_pair.mp hearlier with rfl | rfl
      · exact hother few nofun
      · exact hother many nofun
  exact ⟨_, ((Engine.mem_diagnose_iff_isFirstMatch hline).mpr
    (Or.inl ⟨negative.rule, span, hfirst, rfl⟩)).1, rfl⟩

end Documents

/-- **The warnings about the components of a color are exact, but not about colors.** A warning in
a document is about the leftmost innermost form of its line that has what the warning looks for:
one number or two, four numbers or more, or a sign and no letters. What has a sign and no letters
need not be a list of numbers. A call of an operator with integers, on a line of its own, is given
one of the warnings exactly if one of the integers has a minus sign. -/
theorem componentWarnings_exact {compiler : Compiler} {catalog : Catalog} {engine : Engine}
    (hengine : Engine.build compiler catalog = .ok engine) :
    (∀ text index line, (Text.lines text.toList)[index]? = some line →
        ∀ diagnostic ∈ engine.diagnose text, diagnostic.line = index →
          ∀ warning : ComponentWarning, diagnostic.message = warning.rule.message →
            ∃ span inside, IsInnermost line span inside ∧ warning.Finds inside
              ∧ diagnostic = .onLine index line span warning.rule.message .warning .structural
              ∧ ∀ other inside', IsInnermost line other inside' → warning.Finds inside' →
                  span.start ≤ other.start)
      ∧ ∀ operator (arguments : List Argument), IsOperator operator →
        (∀ argument ∈ arguments, IsInteger argument.token ∧ '\n' ∉ argument.gap) →
          ((∃ diagnostic ∈ engine.diagnose (String.ofList (callLine operator arguments)),
              ∃ warning : ComponentWarning, diagnostic.message = warning.rule.message)
            ↔ ∃ argument ∈ arguments, IsNegative argument.token) := by
  refine ⟨fun text index line hline diagnostic hmem hindex warning hmessage =>
    warning.exists_of_mem_diagnose hengine hline hmem hindex hmessage, ?_⟩
  intro operator arguments hoperator harguments
  have hword := hoperator.isWord
  have hflat : IsFlat (callInside operator arguments) := isFlat_callInside hword
  have hfinds := hoperator.finds_callInside_iff fun argument hargument =>
    (harguments argument hargument).1
  have hlines : Text.lines (String.ofList (callLine operator arguments)).toList
      = [callLine operator arguments] := by
    rw [String.toList_ofList]
    exact Text.lines_form (line_feed_not_mem_callInside hword fun argument hargument =>
      (harguments argument hargument).2)
  constructor
  · rintro ⟨diagnostic, hmem, warning, hmessage⟩
    have hnumber : diagnostic.line = 0 := by
      have hlt := Engine.line_lt_of_mem_diagnose hmem
      rw [hlines] at hlt
      exact Nat.lt_one_iff.mp hlt
    obtain ⟨span, inside, hinner, hfound, -⟩ :=
      warning.exists_of_mem_diagnose hengine (by rw [hlines]; rfl) hmem hnumber hmessage
    obtain ⟨-, before, after, hform, -⟩ := KnownNames.isInnermost_iff.mp hinner
    obtain ⟨-, -, rfl⟩ := Pattern.eq_nil_of_form_stretch hflat hform
    exact ((hfinds warning).mp hfound).2
  · intro hnegative
    have hline : (Text.lines (String.ofList (callLine operator arguments)).toList)[0]?
        = some (callLine operator arguments) := by
      rw [hlines]
      rfl
    obtain ⟨diagnostic, hmem, hmessage⟩ := ComponentWarning.exists_negative_of_finds hengine hflat
      (head?_callInside hword) (getLast?_callInside hword) hline
      fun warning => (hfinds warning).trans (and_iff_left hnegative)
    exact ⟨diagnostic, hmem, .negative, hmessage⟩

/-- A catalog with an operator among its reserved names. -/
def sumCatalog : Catalog :=
  { walkCatalog with builtins := ["+"] }

theorem ofCatalog_sumCatalog :
    Engine.ofCatalog sumCatalog = .ok ⟨sumCatalog, Rule.ofCatalog sumCatalog, .bounded⟩ :=
  Engine.build_eq_ok_iff.mpr ⟨rfl, by decide +kernel⟩

theorem isOperator_plus : IsOperator "+" where
  ne_empty := by decide
  isAlpha_eq_false := List.forall_mem_singleton.mpr rfl
  isDigit_eq_false := List.forall_mem_singleton.mpr (by decide +kernel)
  not_isWhiteSpace := List.forall_mem_singleton.mpr (by decide)
  flat := by decide

/-- Two sums, of which one has a minus sign, and a document with a sum that gets a hint on style
and a color of two components. -/
theorem componentWarnings_exact_sum :
    let engine : Engine := ⟨sumCatalog, Rule.ofCatalog sumCatalog, .bounded⟩
    let text := "( + 1 -5)\n(list (1 2))"
    let line := "(list (1 2))".toList
    Engine.ofCatalog sumCatalog = .ok engine
      ∧ (∃ diagnostic ∈ engine.diagnose "(+ 1 -5)",
          ∃ warning : ComponentWarning, diagnostic.message = warning.rule.message)
      ∧ (¬ ∃ diagnostic ∈ engine.diagnose "(+ 1 5)",
          ∃ warning : ComponentWarning, diagnostic.message = warning.rule.message)
      ∧ ∃ diagnostic ∈ engine.diagnose text,
          ∃ span inside, IsInnermost line span inside ∧ ComponentWarning.few.Finds inside
            ∧ diagnostic = .onLine 1 line span ComponentWarning.few.rule.message .warning
                .structural := by
  intro engine text line
  have hengine : Engine.ofCatalog sumCatalog = .ok engine := ofCatalog_sumCatalog
  obtain ⟨hwarnings, hoperators⟩ := componentWarnings_exact hengine
  have hminus := hoperators "+"
    [.spaced "1".toList (by decide +kernel), .spaced "-5".toList (by decide +kernel)]
    isOperator_plus (by decide +kernel)
  have hplus := hoperators "+"
    [.spaced "1".toList (by decide +kernel), .spaced "5".toList (by decide +kernel)]
    isOperator_plus (by decide +kernel)
  have htold : (⟨1, 6, 11, ComponentWarning.few.rule.message, .warning, .structural⟩ : Diagnostic)
      ∈ engine.diagnose text := by decide +kernel
  obtain ⟨span, inside, hinner, hfinds, heq, -⟩ := hwarnings text 1 line (by decide +kernel) _ htold
    rfl .few rfl
  exact ⟨hengine, hminus.mpr (by decide +kernel), hplus.not.mpr (by decide +kernel),
    _, htold, span, inside, hinner, hfinds, heq⟩

/-- **A sum with a negative number is told that a color has a negative component**, although the
operator is a known name and no integer. -/
theorem componentWarning_sum :
    let engine : Engine := ⟨sumCatalog, Rule.ofCatalog sumCatalog, .bounded⟩
    let line := "(+ 1 -5)".toList
    Engine.ofCatalog sumCatalog = .ok engine ∧ "+" ∈ sumCatalog.knownNames
      ∧ engine.diagnose "(+ 1 -5)" = [⟨0, 0, 8,
          "Just positive color components expected, negative were found.", .warning, .structural⟩]
      ∧ IsInnermost line ⟨0, 8⟩ "+ 1 -5".toList
      ∧ ¬ ∀ token ∈ Text.tokens "+ 1 -5".toList, IsInteger token := by
  intro engine line
  exact ⟨ofCatalog_sumCatalog, by decide +kernel, by decide +kernel,
    ⟨[], [], rfl, by decide +kernel, rfl⟩, by decide +kernel⟩

end TurtleAssist
