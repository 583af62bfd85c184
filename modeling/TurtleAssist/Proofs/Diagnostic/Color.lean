import Mathlib.Data.List.Basic
import TurtleAssist.Proofs.Diagnostic.Component

/-!
# The verdict on a list of integers

A list of integers is a color, or one thing is wrong with it: it is empty, a component is
negative, or there are too few components or too many. Five patterns decide which it is, four
checks of structure and the shape of a color among the definitions, and each of them was written
for itself. `diagnose_components` says that they divide the lists between them: exactly one of the
five is found in each list.

No other pattern is found in a list of integers, since it has no letters and the others need one
(`Pattern.Needs`). The four checks and the color are told from the tokens of the list. Among
integers a token without a minus sign is a number, so where no component is negative the lists of
numbers are told by their length alone (`colorRule?_eq_some_iff`).
-/

namespace TurtleAssist

open Text (IsFlat Line form)
open Unicode (isWhiteSpace)

/-- An integer without a minus sign is a number. -/
theorem IsInteger.isNumber_iff {token : List Char} (h : IsInteger token) :
    IsNumber token ↔ ¬ IsNegative token := by
  constructor
  · intro hnumber hnegative
    exact absurd (hnumber.2 '-' (List.mem_of_head? hnegative)) (by decide +kernel)
  · intro hnegative
    rcases h with h | ⟨digits, rfl, -⟩
    · exact h
    · exact absurd rfl hnegative

/-! ## Colors -/

namespace Pattern

variable {inside : List Char}

/-- What a color holds between its parentheses. -/
def threeNumbers : Pattern :=
  blanks ++ digits ++ gap ++ digits ++ gap ++ digits ++ blanks

/-- **A color is a list of three numbers.** -/
theorem accepts_threeNumbers :
    threeNumbers.Accepts inside
      ↔ (∀ token ∈ Text.tokens inside, IsNumber token) ∧ (Text.tokens inside).length = 3 := by
  rw [Text.forall_isNumber_iff]
  constructor
  · rintro ⟨_, blank', rfl, ⟨_, third, rfl, ⟨_, gap₂, rfl, ⟨_, second, rfl, ⟨_, gap₁, rfl,
      ⟨blank, first, rfl, hblank, hfirst⟩, hgap₁⟩, hsecond⟩, hgap₂⟩, hthird⟩, hblank'⟩
    obtain ⟨one, hone, hnumber₁⟩ := accepts_gap_digits.mp ⟨gap₁, second, rfl, hgap₁, hsecond⟩
    obtain ⟨two, htwo, hnumber₂⟩ := accepts_gap_digits.mp ⟨gap₂, third, rfl, hgap₂, hthird⟩
    refine ⟨blank, first, [one, two], blank', ?_, accepts_blanks.mp hblank,
      accepts_blanks.mp hblank', accepts_digits.mp hfirst, ?_, rfl⟩
    · rw [List.flatMap_cons, List.flatMap_singleton, ← hone, ← htwo]
      simp only [List.append_assoc]
    · exact List.forall_mem_cons.mpr ⟨hnumber₁, List.forall_mem_singleton.mpr hnumber₂⟩
  · rintro ⟨blank, first, arguments, blank', rfl, hblank, hblank', hfirst, harguments, hlength⟩
    obtain ⟨one, two, rfl⟩ := List.length_eq_two.mp hlength
    obtain ⟨hone, htwo⟩ := List.forall_mem_cons.mp harguments
    obtain ⟨gap₁, second, heq₁, hgap₁, hsecond⟩ := accepts_gap_digits.mpr ⟨one, rfl, hone⟩
    obtain ⟨gap₂, third, heq₂, hgap₂, hthird⟩ :=
      accepts_gap_digits.mpr ⟨two, rfl, htwo two (List.mem_singleton_self two)⟩
    refine ⟨blank ++ first ++ gap₁ ++ second ++ gap₂ ++ third, blank', ?_, ⟨_, third, rfl,
      ⟨_, gap₂, rfl, ⟨_, second, rfl, ⟨_, gap₁, rfl, ⟨blank, first, rfl,
        accepts_blanks.mpr hblank, accepts_digits.mpr hfirst⟩, hgap₁⟩, hsecond⟩, hgap₂⟩, hthird⟩,
      accepts_blanks.mpr hblank'⟩
    rw [List.flatMap_cons, List.flatMap_singleton, heq₁, heq₂]
    simp only [List.append_assoc]

end Pattern

namespace IdentifierRule

open Pattern

variable {line inside : List Char}

/-- The rule for colors is found in a list of three numbers. -/
theorem isIn_color_iff (hflat : IsFlat inside) :
    color.pattern.isIn (form inside) = true
      ↔ (∀ token ∈ Text.tokens inside, IsNumber token) ∧ (Text.tokens inside).length = 3 := by
  have hcolor : color.pattern.isPlaceless = true := rfl
  have hlist : (opened (threeNumbers ++ text ")")).isPlaceless = true := rfl
  have hcapture : color.pattern.isIn (form inside) = true
      ↔ (opened (threeNumbers ++ text ")")).isIn (form inside) = true := by
    rw [isIn_iff_accepts hcolor, isIn_iff_accepts hlist]
    rfl
  rw [hcapture, Pattern.isIn_form_iff hflat rfl, accepts_threeNumbers]

/-- **A color is named by the whole form.** -/
theorem name_of_find?_color (hflat : IsFlat inside) {found : Match}
    (h : color.pattern.find? (form inside) = some found) :
    (Recognition.mk color found).name = String.ofList (form inside) := by
  have hsilent : (opened (threeNumbers ++ text ")")).IsSilent := ⟨rfl, fun _ => rfl⟩
  obtain ⟨place, hplace, hmatch, -⟩ := find?_eq_some_iff.mp h
  obtain ⟨way, hway, rfl⟩ := exists_way_of_matchAt? hmatch
  obtain ⟨hcaptures, _, hreads, haccepts⟩ := hsilent.mem_ways_capture hway
  obtain ⟨t, rfl, -⟩ := accepts_form.mp haccepts
  obtain ⟨before, hline, -⟩ := mem_places_iff.mp hplace
  have hstretch : form inside = before ++ (form t ++ way.stop.rest) := hreads.1 ▸ hline
  obtain ⟨-, -, rfl⟩ := eq_nil_of_form_stretch hflat hstretch
  have htext : (Capture.mk "name" place way.stop.offset).text = form t :=
    Capture.text_eq "name" hreads
  simp [Recognition.name, Match.capture?, hcaptures, htext]

/-- The other rules need a letter. -/
theorem needs_letter {rule : IdentifierRule} (hrule : rule ∈ all) (hcolor : rule ≠ color) :
    rule.pattern.Needs (·.isAlpha = true) := by
  have hdefine : ∀ defined, (define defined).Needs (·.isAlpha = true) :=
    fun defined => Or.inr (Or.inl (Or.inl (Or.inr ⟨'d', List.mem_cons_self, rfl⟩)))
  have hmove : ∀ direction : List Char, ∃ c ∈ 'm' :: direction, c.isAlpha = true :=
    fun direction => ⟨'m', List.mem_cons_self, rfl⟩
  simp only [all, List.mem_cons, List.not_mem_nil, or_false] at hrule
  rcases hrule with rfl | rfl | rfl | rfl | rfl
  · exact hdefine _
  · exact hdefine _
  · exact hdefine _
  · exact absurd rfl hcolor
  · exact Or.inr (Or.inl (Or.inl (Or.inl ⟨hmove _, hmove _⟩)))

theorem isPlaceless_of_mem {rule : IdentifierRule} (hrule : rule ∈ all) :
    rule.pattern.isPlaceless = true := by
  revert rule
  decide +kernel

/-- **A line without letters defines a color or nothing.** -/
theorem classifyLine_of_letterless (hletters : ∀ c ∈ line, c.isAlpha = false) :
    classifyLine line = (color.pattern.find? line).map (⟨color, ·⟩) := by
  have hother : ∀ rule ∈ all, rule ≠ color → rule.pattern.find? line = none := by
    intro rule hrule hcolor
    have hnone : rule.pattern.isIn line = false :=
      (needs_letter hrule hcolor).isIn_eq_false (isPlaceless_of_mem hrule)
        fun c hc => Bool.eq_false_iff.mp (hletters c hc)
    rwa [isIn, Option.isSome_eq_false_iff, Option.isNone_iff_eq_none] at hnone
  unfold classifyLine all
  simp only [List.findSome?_cons, List.findSome?_nil]
  rw [hother procedure (by decide) (by decide), hother binding (by decide) (by decide),
    hother value (by decide) (by decide), hother vector (by decide) (by decide)]
  cases color.pattern.find? line with
  | none => rfl
  | some found => rfl

end IdentifierRule

/-! ## The rules of a catalog -/

section Rules

variable {catalog : Catalog} {rule : Rule} {inside : List Char}

/-- The check of structure that finds empty forms. -/
def Rule.emptyForm : Rule :=
  Rule.structural.get ⟨3, by decide⟩

theorem Rule.isIn_emptyForm_iff (hflat : IsFlat inside) :
    emptyForm.pattern.isIn (form inside) = true ↔ Text.tokens inside = [] := by
  have hbody : emptyForm.pattern.isIn (form inside) = true ↔ Pattern.blanks.Accepts inside :=
    Pattern.isIn_form_iff hflat rfl
  rw [hbody, Pattern.accepts_blanks, Text.tokens_eq_nil_iff]

/-- The rule of a command needs a letter if the name of the command has one. -/
theorem Rule.needs_letter_of_command {command : Command}
    (hletter : ∃ c ∈ command.name.toList, c.isAlpha = true)
    (hrule : rule = argumentCount command ∨ rule = argumentType command) :
    rule.pattern.Needs (·.isAlpha = true) := by
  have hcall : ∀ arguments, (callOf command arguments).Needs (·.isAlpha = true) :=
    fun arguments => Or.inr (Or.inl (Or.inl (Or.inl (Or.inr hletter))))
  rcases hrule with rfl | rfl
  · exact hcall _
  · exact hcall _

/-- The warning about the brackets of a type needs one too. -/
theorem Rule.needs_letter_typeBrackets : typeBrackets.pattern.Needs (·.isAlpha = true) :=
  Or.inl (Or.inl (Or.inl (Or.inl (Or.inl (Or.inl ⟨'l', List.mem_cons_self, rfl⟩)))))

/-- A check of structure is a warning about components, the check for empty forms or the warning
about the brackets of a type. -/
theorem Rule.mem_structural_iff :
    rule ∈ structural ↔ (∃ warning : ComponentWarning, rule = warning.rule) ∨ rule = emptyForm
      ∨ rule = typeBrackets := by
  constructor
  · intro hrule
    simp only [structural, List.mem_cons, List.not_mem_nil, or_false] at hrule
    rcases hrule with rfl | rfl | rfl | rfl | rfl
    · exact Or.inl ⟨.few, rfl⟩
    · exact Or.inl ⟨.many, rfl⟩
    · exact Or.inl ⟨.negative, rfl⟩
    · exact Or.inr (Or.inl rfl)
    · exact Or.inr (Or.inr rfl)
  · rintro (⟨warning, rfl⟩ | rfl | rfl)
    · exact warning.rule_mem_structural
    · exact List.get_mem ..
    · exact List.getLast_mem _

/-- **The rules of a catalog that are found in a form without letters** and without white space at
its ends are the check for empty forms and the warnings about components, if every command has a
letter in its name. -/
theorem Rule.found_iff_of_letterless
    (hcommands : ∀ command ∈ catalog.commands, ∃ c ∈ command.name.toList, c.isAlpha = true)
    (hflat : IsFlat inside) (hhead : ∀ c ∈ inside.head?, isWhiteSpace c = false)
    (hlast : ∀ c ∈ inside.getLast?, isWhiteSpace c = false)
    (hletters : ∀ c ∈ inside, c.isAlpha = false) :
    rule ∈ Rule.ofCatalog catalog ∧ rule.pattern.isIn (form inside) = true
      ↔ rule = emptyForm ∧ Text.tokens inside = []
        ∨ ∃ warning : ComponentWarning, rule = warning.rule ∧ warning.Finds inside := by
  have hline : ∀ c ∈ form inside, ¬ c.isAlpha = true := by
    refine List.forall_mem_cons.mpr ⟨by decide, List.forall_mem_append.mpr
      ⟨fun c hc => Bool.eq_false_iff.mp (hletters c hc), ?_⟩⟩
    exact List.forall_mem_singleton.mpr (by decide)
  constructor
  · rintro ⟨hrule, hin⟩
    rcases mem_ofCatalog_cases hrule with hstyle | hstructural | ⟨command, hcommand, hof⟩
    · rw [isIn_style_eq_false hflat hhead hlast hstyle] at hin
      cases hin
    · rcases mem_structural_iff.mp hstructural with ⟨warning, rfl⟩ | rfl | rfl
      · exact Or.inr ⟨warning, rfl, (warning.isIn_form_iff hflat).mp hin⟩
      · exact Or.inl ⟨rfl, (isIn_emptyForm_iff hflat).mp hin⟩
      · rw [needs_letter_typeBrackets.isIn_eq_false rfl hline] at hin
        cases hin
    · rw [(needs_letter_of_command (hcommands command hcommand) hof).isIn_eq_false
        (isPlaceless_of_mem hrule) hline] at hin
      cases hin
  · rintro (⟨rfl, htokens⟩ | ⟨warning, rfl, hfinds⟩)
    · exact ⟨mem_ofCatalog_of_structural (mem_structural_iff.mpr (Or.inr (Or.inl rfl))),
        (isIn_emptyForm_iff hflat).mpr htokens⟩
    · exact ⟨mem_ofCatalog_of_structural warning.rule_mem_structural,
        (warning.isIn_form_iff hflat).mpr hfinds⟩

end Rules

/-! ## What is wrong with a list of integers -/

/-- **What is wrong with a list of integers**, if it is not a color. -/
def colorRule? (tokens : List (List Char)) : Option Rule :=
  if tokens = [] then some .emptyForm
  else if ∃ token ∈ tokens, IsNegative token then some ComponentWarning.negative.rule
  else if tokens.length < 3 then some ComponentWarning.few.rule
  else if 3 < tokens.length then some ComponentWarning.many.rule
  else none

section Integers

variable {inside : List Char} (hintegers : ∀ token ∈ Text.tokens inside, IsInteger token)
include hintegers

/-- Integers are numbers if none of them is negative. -/
theorem forall_isNumber_iff_of_integers :
    (∀ token ∈ Text.tokens inside, IsNumber token)
      ↔ ¬ ∃ token ∈ Text.tokens inside, IsNegative token := by
  simp only [not_exists, not_and]
  exact forall₂_congr fun token htoken => (hintegers token htoken).isNumber_iff

/-- Among integers a sign is a negative component. -/
theorem finds_negative_iff_of_integers :
    ComponentWarning.negative.Finds inside
      ↔ ∃ token ∈ Text.tokens inside, IsNegative token := by
  have hletters : ∀ c ∈ inside, c.isAlpha = false :=
    isAlpha_eq_false_of_tokens fun token htoken => (hintegers token htoken).isAlpha_eq_false
  have hsign : HasSign inside ↔ ∃ token ∈ Text.tokens inside, IsNegative token := by
    rw [hasSign_iff_tokens]
    exact exists_congr fun token => and_congr_right fun htoken =>
      (hintegers token htoken).hasSign_iff
  exact (and_iff_right hletters).trans hsign

/-- **Exactly one thing is wrong with a list of integers** that is not a color, in the eyes of the
check for empty forms and the warnings about components. -/
theorem colorRule?_eq_some_iff {rule : Rule} :
    colorRule? (Text.tokens inside) = some rule
      ↔ rule = .emptyForm ∧ Text.tokens inside = []
        ∨ ∃ warning : ComponentWarning, rule = warning.rule ∧ warning.Finds inside := by
  have hnumbers := forall_isNumber_iff_of_integers hintegers
  have hnegative := finds_negative_iff_of_integers hintegers
  have hrule : ∀ first : Rule, some first = some rule ↔ rule = first :=
    fun first => Option.some_inj.trans eq_comm
  rw [ComponentWarning.exists_iff, hnegative]
  simp only [ComponentWarning.Finds, hnumbers]
  unfold colorRule?
  by_cases hempty : Text.tokens inside = []
  · simp [hempty, hrule]
  · have hlength : 0 < (Text.tokens inside).length := List.length_pos_iff.mpr hempty
    rw [if_neg hempty]
    by_cases hsome : ∃ token ∈ Text.tokens inside, IsNegative token
    · simp [hempty, hsome, hrule]
    · rw [if_neg hsome]
      by_cases hfew : (Text.tokens inside).length < 3
      · have hmany : ¬ 4 ≤ (Text.tokens inside).length := by omega
        have hone : (Text.tokens inside).length = 1 ∨ (Text.tokens inside).length = 2 := by omega
        simp [hempty, hsome, hfew, hmany, hone, hrule]
      · have hone : ¬ ((Text.tokens inside).length = 1 ∨ (Text.tokens inside).length = 2) := by
          omega
        rw [if_neg hfew]
        by_cases hmany : 3 < (Text.tokens inside).length
        · simp [hempty, hsome, hone, hmany, hrule, Nat.succ_le_iff]
        · simp [hempty, hsome, hone, hmany, Nat.succ_le_iff]

end Integers

/-! ## Documents -/

/-- The token of an argument is a word. -/
theorem Argument.isWord (argument : Argument) : IsWord (String.ofList argument.token) where
  ne_empty := by
    rw [ne_eq, ← String.toList_eq_nil_iff, String.toList_ofList]
    exact argument.token_ne_nil
  not_isWhiteSpace := by
    rw [String.toList_ofList]
    exact argument.token_not_isWhiteSpace
  flat := by
    rw [String.toList_ofList]
    exact fun c hc => argument.text_flat c (List.mem_append_right _ hc)

/-- **What a list holds**: its arguments, without the white space in front of the first one. -/
def listInside : List Argument → List Char
  | [] => []
  | first :: others => first.token ++ others.flatMap Argument.text

section Lists

variable {arguments : List Argument}

/-- A list is written like a call of its first token. -/
theorem listInside_cons (first : Argument) (others : List Argument) :
    listInside (first :: others) = callInside (String.ofList first.token) others := by
  rw [callInside, String.toList_ofList]
  rfl

theorem tokens_listInside :
    Text.tokens (listInside arguments) = arguments.map Argument.token := by
  cases arguments with
  | nil => rfl
  | cons first others =>
    rw [listInside_cons, tokens_callInside first.isWord, String.toList_ofList, List.map_cons]

theorem isFlat_listInside : IsFlat (listInside arguments) := by
  cases arguments with
  | nil => exact List.forall_mem_nil _
  | cons first others => exact listInside_cons first others ▸ isFlat_callInside first.isWord

theorem head?_listInside : ∀ c ∈ (listInside arguments).head?, isWhiteSpace c = false := by
  cases arguments with
  | nil => exact nofun
  | cons first others => exact listInside_cons first others ▸ head?_callInside first.isWord

theorem getLast?_listInside : ∀ c ∈ (listInside arguments).getLast?, isWhiteSpace c = false := by
  cases arguments with
  | nil => exact nofun
  | cons first others => exact listInside_cons first others ▸ getLast?_callInside first.isWord

theorem line_feed_not_mem_listInside (hfeed : ∀ argument ∈ arguments.tail, '\n' ∉ argument.gap) :
    '\n' ∉ listInside arguments := by
  cases arguments with
  | nil => exact List.not_mem_nil
  | cons first others =>
    exact listInside_cons first others ▸ line_feed_not_mem_callInside first.isWord hfeed

end Lists

section Verdict

variable {compiler : Compiler} {catalog : Catalog} {engine : Engine} {inside : List Char}

/-- What is wrong with a list of integers is what a document with nothing else is told. -/
theorem diagnose_of_integers (hengine : Engine.build compiler catalog = .ok engine)
    (hcommands : ∀ command ∈ catalog.commands, ∃ c ∈ command.name.toList, c.isAlpha = true)
    (hflat : IsFlat inside) (hhead : ∀ c ∈ inside.head?, isWhiteSpace c = false)
    (hlast : ∀ c ∈ inside.getLast?, isWhiteSpace c = false) (hfeed : '\n' ∉ inside)
    (hintegers : ∀ token ∈ Text.tokens inside, IsInteger token) :
    engine.diagnose (String.ofList (form inside))
      = ((colorRule? (Text.tokens inside)).map fun rule => ⟨0, 0, Text.units (form inside),
          rule.message, rule.severity, rule.tier⟩).toList := by
  have hletters : ∀ c ∈ inside, c.isAlpha = false :=
    isAlpha_eq_false_of_tokens fun token htoken => (hintegers token htoken).isAlpha_eq_false
  have hfirst : engine.firstRule? (form inside)
      = (colorRule? (Text.tokens inside)).map (·, ⟨0, (form inside).length⟩) := by
    refine Engine.firstRule?_eq_map (fun rule => ?_) fun rule found hrule hfound => ?_
    · rw [(Engine.build_eq_ok_iff.mp hengine).1, colorRule?_eq_some_iff hintegers]
      exact Rule.found_iff_of_letterless hcommands hflat hhead hlast hletters
    · have hforms : rule.pattern.IsOfForms := by
        rcases (colorRule?_eq_some_iff hintegers).mp hrule with ⟨rfl, -⟩ | ⟨warning, rfl, -⟩
        · exact (Rule.isOfForms_structural (List.get_mem ..)).resolve_left (by decide)
        · exact warning.isOfForms_rule
      exact hforms.span_of_find? hflat hfound
  -- the head of the list is an integer
  refine Engine.diagnose_form hengine hflat hfeed hfirst
    fun _ identifiers head htoken hunknown => ?_
  exact hunknown.not_isInteger (hintegers head (List.mem_of_head? htoken))

/-- A list of integers is recognised as a color, named by the whole form, if it has three
components and none of them is negative. Otherwise it is not recognised as anything. -/
theorem classifyLine_of_integers (hflat : IsFlat inside)
    (hintegers : ∀ token ∈ Text.tokens inside, IsInteger token) :
    (classifyLine (form inside)).map (fun recognition =>
        (recognition.rule.role, recognition.name))
      = if (¬ ∃ token ∈ Text.tokens inside, IsNegative token) ∧ (Text.tokens inside).length = 3
        then some (.color, String.ofList (form inside)) else none := by
  have hline : ∀ c ∈ form inside, c.isAlpha = false := by
    refine List.forall_mem_cons.mpr ⟨by decide, List.forall_mem_append.mpr
      ⟨isAlpha_eq_false_of_tokens fun token htoken => (hintegers token htoken).isAlpha_eq_false,
        List.forall_mem_singleton.mpr (by decide)⟩⟩
  have hcolor : IdentifierRule.color.pattern.isIn (form inside) = true
      ↔ (¬ ∃ token ∈ Text.tokens inside, IsNegative token) ∧ (Text.tokens inside).length = 3 := by
    rw [IdentifierRule.isIn_color_iff hflat, forall_isNumber_iff_of_integers hintegers]
  rw [IdentifierRule.classifyLine_of_letterless hline, Option.map_map]
  cases hfound : IdentifierRule.color.pattern.find? (form inside) with
  | none =>
    rw [if_neg fun hnumbers => ?_]
    · rfl
    · have hin := hcolor.mpr hnumbers
      rw [Pattern.isIn, hfound] at hin
      cases hin
  | some found =>
    rw [if_pos (hcolor.mp (by rw [Pattern.isIn, hfound]; rfl))]
    exact congrArg (fun name => some (Role.color, name))
      (IdentifierRule.name_of_find?_color hflat hfound)

end Verdict

/-- **The verdict on a list of integers.** A document that is one list of integers is told that it
is empty, that a component is negative, whatever their number, or that there are fewer or more
components than three; and what is reported covers the line. It is told nothing, and recognised
as a color, exactly if it has three components and none of them is negative. -/
theorem diagnose_components {compiler : Compiler} {catalog : Catalog} {engine : Engine}
    {arguments : List Argument}
    (hengine : Engine.build compiler catalog = .ok engine)
    (hcommands : ∀ command ∈ catalog.commands, ∃ c ∈ command.name.toList, c.isAlpha = true)
    (hintegers : ∀ argument ∈ arguments, IsInteger argument.token)
    (hfeed : ∀ argument ∈ arguments.tail, '\n' ∉ argument.gap) :
    let line := form (listInside arguments)
    let diagnostics := engine.diagnose (String.ofList line)
    let told : String → List Diagnostic := fun message =>
      [⟨0, 0, Text.units line, message, .warning, .structural⟩]
    let recognised := (classifyLine line).map fun recognition =>
      (recognition.rule.role, recognition.name)
    let negative := ∃ argument ∈ arguments, IsNegative argument.token
    (arguments.length = 0 → diagnostics = told "Valid command expected.")
      ∧ (negative →
        diagnostics = told "Just positive color components expected, negative were found.")
      ∧ (¬ negative → arguments.length = 1 ∨ arguments.length = 2 →
        diagnostics = told "Red, green, blue color components were expected, less were found.")
      ∧ (¬ negative → 4 ≤ arguments.length →
        diagnostics
          = told "Just red, green, blue color components were expected, more were found.")
      ∧ (¬ negative → arguments.length = 3 →
        diagnostics = [] ∧ recognised = some (.color, String.ofList line))
      ∧ (negative ∨ arguments.length ≠ 3 → recognised = none) := by
  intro line diagnostics told recognised negative
  have htokens : Text.tokens (listInside arguments) = arguments.map Argument.token :=
    tokens_listInside
  have hall : ∀ token ∈ Text.tokens (listInside arguments), IsInteger token := by
    rw [htokens]
    exact List.forall_mem_map.mpr hintegers
  have hnegative : (∃ token ∈ arguments.map Argument.token, IsNegative token) ↔ negative := by
    simp only [List.mem_map, exists_exists_and_eq_and, negative]
  have hempty : arguments.map Argument.token = [] ↔ arguments.length = 0 := by
    rw [List.map_eq_nil_iff, List.length_eq_zero_iff]
  have hdiagnostics : diagnostics = _ := diagnose_of_integers hengine hcommands isFlat_listInside
    head?_listInside getLast?_listInside (line_feed_not_mem_listInside hfeed) hall
  have hrecognised : recognised = _ := classifyLine_of_integers isFlat_listInside hall
  rw [htokens, colorRule?] at hdiagnostics
  rw [htokens] at hrecognised
  simp only [hnegative, hempty, List.length_map] at hdiagnostics hrecognised
  rw [hdiagnostics, hrecognised]
  refine ⟨fun hlength => ?_, fun hsome => ?_, fun hnone hlength => ?_, fun hnone hlength => ?_,
    fun hnone hlength => ⟨?_, ?_⟩, fun hother => ?_⟩
  · rw [if_pos hlength]
    rfl
  · have hlength : arguments.length ≠ 0 := by
      obtain ⟨argument, hargument, -⟩ := hsome
      exact (List.length_pos_of_mem hargument).ne'
    rw [if_neg hlength, if_pos hsome]
    rfl
  · rw [if_neg (by omega), if_neg hnone, if_pos (by omega)]
    rfl
  · rw [if_neg (by omega), if_neg hnone, if_neg (by omega), if_pos (by omega)]
    rfl
  · rw [if_neg (by omega), if_neg hnone, if_neg (by omega), if_neg (by omega)]
    rfl
  · exact if_pos ⟨hnone, hlength⟩
  · exact if_neg fun hcolor => hother.elim hcolor.1 fun hlength => hlength hcolor.2

/-- An integer after a single space. -/
def Argument.spacedInteger (token : String) (h : IsInteger token.toList) : Argument :=
  .spaced token.toList (Or.inl h)

/-- Lists of integers with something wrong with them, one for each rule, and a color. -/
theorem diagnose_components_stroll :
    let engine : Engine := ⟨strollCatalog, Rule.ofCatalog strollCatalog, .bounded⟩
    Engine.ofCatalog strollCatalog = .ok engine
      ∧ (∀ command ∈ strollCatalog.commands, ∃ c ∈ command.name.toList, c.isAlpha = true)
      ∧ engine.diagnose "()" = [⟨0, 0, 2, "Valid command expected.", .warning, .structural⟩]
      ∧ engine.diagnose "(-0)" = [⟨0, 0, 4,
          "Just positive color components expected, negative were found.", .warning, .structural⟩]
      ∧ engine.diagnose "(255 0)" = [⟨0, 0, 7,
          "Red, green, blue color components were expected, less were found.", .warning,
          .structural⟩]
      ∧ engine.diagnose "(1 2 3 4)" = [⟨0, 0, 9,
          "Just red, green, blue color components were expected, more were found.", .warning,
          .structural⟩]
      ∧ engine.diagnose "(255 0 10)" = []
      ∧ (classifyLine "(255 0 10)".toList).map (fun recognition =>
          (recognition.rule.role, recognition.name)) = some (.color, "(255 0 10)") := by
  intro engine
  have hengine : Engine.ofCatalog strollCatalog = .ok engine := ofCatalog_strollCatalog
  have hcommands : ∀ command ∈ strollCatalog.commands,
      ∃ c ∈ command.name.toList, c.isAlpha = true := by
    have hall : strollCatalog.commands.all (·.name.toList.any Char.isAlpha) = true := by
      decide +kernel
    exact fun command hmem => List.any_eq_true.mp (List.all_eq_true.mp hall command hmem)
  have hverdict := fun arguments hintegers hfeed =>
    @diagnose_components .bounded strollCatalog engine arguments hengine hcommands hintegers hfeed
  have hthree := (hverdict [.spacedInteger "255" (by decide +kernel),
    .spacedInteger "0" (by decide +kernel), .spacedInteger "10" (by decide +kernel)]
    (by decide +kernel) (by decide +kernel)).2.2.2.2.1 (by decide +kernel) rfl
  refine ⟨hengine, hcommands, ?_, ?_, ?_, ?_, hthree.1, hthree.2⟩
  · exact (hverdict [] (by decide) (by decide)).1 rfl
  · exact (hverdict [.spacedInteger "-0" (by decide +kernel)] (by decide +kernel)
      (by decide +kernel)).2.1 (by decide +kernel)
  · exact (hverdict [.spacedInteger "255" (by decide +kernel),
      .spacedInteger "0" (by decide +kernel)] (by decide +kernel)
      (by decide +kernel)).2.2.1 (by decide +kernel) (by decide)
  · exact (hverdict [.spacedInteger "1" (by decide +kernel),
      .spacedInteger "2" (by decide +kernel), .spacedInteger "3" (by decide +kernel),
      .spacedInteger "4" (by decide +kernel)] (by decide +kernel)
      (by decide +kernel)).2.2.2.1 (by decide +kernel) (by decide)

end TurtleAssist
