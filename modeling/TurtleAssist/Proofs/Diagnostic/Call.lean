import Mathlib.Data.List.Nodup
import TurtleAssist.Proofs.Diagnostic.Argument
import TurtleAssist.Proofs.Diagnostic.OneForm
import TurtleAssist.Proofs.Diagnostic.Tidy

/-!
# The verdict on a call

A call of a command on a line of its own is told whether it has the arguments that the
command takes, and nothing else (`diagnose_call`). All the rules of the catalog are tried on
the line, those of every other command included, and the last tier after them; it is their
silence that has to be shown.

The call is a tidy form, so the rules without a catalog are silent. The rule of a command is
found in it only if the tokens of the line begin with the name of that command, and names
are distinct. Of the two rules of the command itself one wants integers and the other one
an identifier. So at most one rule of the catalog is found in the line
(`found_iff_brokenRule?`), and their order has no say. The last tier finds one form only, and
its head is a name of the catalog.
-/

namespace TurtleAssist

open Text (IsFlat IsFirstToken Line Span form)
open Unicode (isWhiteSpace)

/-- **A name that can be read off a call**: it has a letter, no white space, no parentheses
and no angle bracket. -/
structure IsPlain (name : String) : Prop where
  letter : ∃ c ∈ name.toList, c.isAlpha = true
  not_isWhiteSpace : ∀ c ∈ name.toList, isWhiteSpace c = false
  flat : IsFlat name.toList
  no_bracket : '<' ∉ name.toList

instance (name : String) : Decidable (IsPlain name) :=
  decidable_of_iff (name.toList.any Char.isAlpha = true
      ∧ name.toList.all (!isWhiteSpace ·) = true ∧ IsFlat name.toList ∧ '<' ∉ name.toList) (by
    simp only [List.any_eq_true, List.all_eq_true, Bool.not_eq_true']
    exact ⟨fun h => ⟨h.1, h.2.1, h.2.2.1, h.2.2.2⟩,
      fun h => ⟨h.letter, h.not_isWhiteSpace, h.flat, h.no_bracket⟩⟩)

/-- **A name that is one token** wherever it stands, and has no parentheses. -/
structure IsWord (name : String) : Prop where
  ne_empty : name ≠ ""
  not_isWhiteSpace : ∀ c ∈ name.toList, isWhiteSpace c = false
  flat : IsFlat name.toList

theorem IsPlain.ne_empty {name : String} (h : IsPlain name) : name ≠ "" := by
  rintro rfl
  obtain ⟨c, hc, -⟩ := h.letter
  cases hc

theorem IsPlain.isWord {name : String} (h : IsPlain name) : IsWord name :=
  ⟨h.ne_empty, h.not_isWhiteSpace, h.flat⟩

/-- What a call holds: the name and the arguments. -/
def callInside (name : String) (arguments : List Argument) : List Char :=
  name.toList ++ arguments.flatMap Argument.text

/-- **The line of a call**, without white space next to the parentheses. -/
def callLine (name : String) (arguments : List Argument) : Line :=
  form (callInside name arguments)

section Call

variable {catalog : Catalog} {command : Command} {arguments : List Argument} {name : String}

/-! ## The shape of the line -/

/-- A call begins with the first character of the name. -/
theorem head?_callInside (h : IsWord name) :
    ∀ c ∈ (callInside name arguments).head?, isWhiteSpace c = false := by
  intro c hc
  have hne : name.toList ≠ [] := String.toList_eq_nil_iff.not.mpr h.ne_empty
  rw [callInside, List.head?_append_of_ne_nil _ hne] at hc
  exact h.not_isWhiteSpace c (List.mem_of_mem_head? hc)

/-- It ends with the last character of the name or of an argument. -/
theorem getLast?_callInside (h : IsWord name) :
    ∀ c ∈ (callInside name arguments).getLast?, isWhiteSpace c = false := by
  intro c hc
  rcases List.eq_nil_or_concat' arguments with rfl | ⟨others, last, rfl⟩
  · rw [callInside, List.flatMap_nil, List.append_nil] at hc
    exact h.not_isWhiteSpace c (List.mem_of_mem_getLast? hc)
  · rw [callInside, List.flatMap_append, List.flatMap_singleton, Argument.text,
      ← List.append_assoc, ← List.append_assoc,
      List.getLast?_append_of_ne_nil _ last.token_ne_nil] at hc
    exact last.token_not_isWhiteSpace c (List.mem_of_mem_getLast? hc)

/-- It has no parentheses. -/
theorem isFlat_callInside (h : IsWord name) : IsFlat (callInside name arguments) :=
  h.flat.append (Argument.isFlat_flatMap_text arguments)

/-- Its tokens are the name and the arguments. -/
theorem tokens_callInside (h : IsWord name) :
    Text.tokens (callInside name arguments) = name.toList :: arguments.map Argument.token := by
  have hnil : ∀ c ∈ ([] : List Char), isWhiteSpace c = true := List.forall_mem_nil _
  rw [← Text.tokens_call hnil hnil (String.toList_eq_nil_iff.not.mpr h.ne_empty) h.not_isWhiteSpace,
    List.nil_append, List.append_nil, callInside]

/-- **A call is a tidy form.** -/
theorem isTidy_callInside (h : IsPlain name) : IsTidy (callInside name arguments) where
  flat := isFlat_callInside h.isWord
  letter := by
    obtain ⟨c, hc, halpha⟩ := h.letter
    exact ⟨c, List.mem_append_left _ hc, halpha⟩
  no_bracket := by
    intro hmem
    rcases List.mem_append.mp hmem with hmem | hmem
    · exact h.no_bracket hmem
    · obtain ⟨argument, -, hmem⟩ := List.mem_flatMap.mp hmem
      exact argument.text_no_bracket hmem
  head := head?_callInside h.isWord
  last := getLast?_callInside h.isWord

/-- A call holds no line feed. -/
theorem line_feed_not_mem_callInside (h : IsWord name)
    (hfeed : ∀ argument ∈ arguments, '\n' ∉ argument.gap) :
    '\n' ∉ callInside name arguments := by
  intro hmem
  rcases List.mem_append.mp hmem with hmem | hmem
  · exact Bool.noConfusion (h.not_isWhiteSpace '\n' hmem)
  · exact Argument.line_feed_not_mem_flatMap_text hfeed hmem

theorem line_feed_not_mem_callLine (h : IsPlain name)
    (hfeed : ∀ argument ∈ arguments, '\n' ∉ argument.gap) : '\n' ∉ callLine name arguments :=
  Text.line_feed_not_mem_form (line_feed_not_mem_callInside h.isWord hfeed)

/-! ## The rules of the commands -/

/-- The part of a call between its parentheses, as the rules of a command describe it. -/
def callBody (called : Command) (pattern : Pattern) : Pattern :=
  Pattern.blanks ++ Pattern.name called.name ++ pattern ++ Pattern.blanks

theorem isPlaceless_wrongCount (arity : Nat) :
    (callBody command (.group (Rule.wrongCount arity))).isPlaceless = true := by
  cases arity with
  | zero => rfl
  | succ k => rfl

/-- **The rule on the number of arguments** is in a call of its command if this has integers
in another number. -/
theorem isIn_argumentCount_iff {called : Command} (hcalled : IsPlain called.name)
    (hname : IsPlain name) :
    (Rule.argumentCount called).pattern.isIn (callLine name arguments) = true
      ↔ called.name = name ∧ (∀ argument ∈ arguments, IsInteger argument.token)
          ∧ arguments.length ≠ called.arity := by
  refine (Pattern.isIn_form_iff (isFlat_callInside hname.isWord)
    (isPlaceless_wrongCount called.arity)).trans ?_
  refine (Pattern.accepts_call_iff
    (Q := fun tokens => (∀ token ∈ tokens, IsInteger token) ∧ tokens.length ≠ called.arity)
    (fun s => Pattern.accepts_wrongCount)
    ⟨hcalled.ne_empty, hcalled.not_isWhiteSpace⟩ ⟨hname.ne_empty, hname.not_isWhiteSpace⟩).trans ?_
  rw [List.forall_mem_map, List.length_map]

/-- **The rule on the type of the arguments** is in a call of its command if one of them is an
identifier. -/
theorem isIn_argumentType_iff {called : Command} (hcalled : IsPlain called.name)
    (hname : IsPlain name) :
    (Rule.argumentType called).pattern.isIn (callLine name arguments) = true
      ↔ called.name = name ∧ ∃ argument ∈ arguments, IsIdentifier argument.token := by
  have hplaceless : (callBody called Pattern.withIdentifier).isPlaceless = true := rfl
  refine (Pattern.isIn_form_iff (isFlat_callInside hname.isWord) hplaceless).trans ?_
  refine (Pattern.accepts_call_iff (Q := fun tokens => ∃ token ∈ tokens, IsIdentifier token)
    (fun s => Pattern.accepts_withIdentifier)
    ⟨hcalled.ne_empty, hcalled.not_isWhiteSpace⟩ ⟨hname.ne_empty, hname.not_isWhiteSpace⟩).trans ?_
  simp only [List.mem_map, exists_exists_and_eq_and]

/-! ## The rule that a call breaks -/

/-- **The rule that a call of a command breaks**, if there is one. -/
def brokenRule? (command : Command) (arguments : List Argument) : Option Rule :=
  if ∃ argument ∈ arguments, IsIdentifier argument.token then
    if 0 < command.arity then some (Rule.argumentType command) else none
  else if arguments.length = command.arity then none
  else some (Rule.argumentCount command)

theorem forall_isInteger_iff :
    (∀ argument ∈ arguments, IsInteger argument.token)
      ↔ ¬ ∃ argument ∈ arguments, IsIdentifier argument.token := by
  simp only [Argument.isIdentifier_iff, not_exists, not_and, not_not]

theorem brokenRule?_eq_some_iff {rule : Rule} :
    brokenRule? command arguments = some rule
      ↔ rule = Rule.argumentCount command
          ∧ (∀ argument ∈ arguments, IsInteger argument.token) ∧ arguments.length ≠ command.arity
        ∨ rule = Rule.argumentType command
          ∧ (∃ argument ∈ arguments, IsIdentifier argument.token) ∧ 0 < command.arity := by
  unfold brokenRule?
  rw [forall_isInteger_iff]
  by_cases hidentifier : ∃ argument ∈ arguments, IsIdentifier argument.token
  · rw [if_pos hidentifier]
    by_cases harity : 0 < command.arity
    · simp [harity, hidentifier, eq_comm]
    · simp [harity, not_not.mpr hidentifier]
  · rw [if_neg hidentifier]
    by_cases hlength : arguments.length = command.arity
    · simp [hlength, hidentifier]
    · simp [hlength, hidentifier, eq_comm]

/-- **The rules of the catalog that are in a call** are the one that it breaks. -/
theorem found_iff_brokenRule? (hnodup : (catalog.commands.map (·.name)).Nodup)
    (hplain : ∀ command ∈ catalog.commands, IsPlain command.name)
    (hcommand : command ∈ catalog.commands) {rule : Rule} :
    rule ∈ Rule.ofCatalog catalog ∧ rule.pattern.isIn (callLine command.name arguments) = true
      ↔ brokenRule? command arguments = some rule := by
  have hname := hplain command hcommand
  rw [brokenRule?_eq_some_iff]
  constructor
  · rintro ⟨hrule, hin⟩
    rcases List.mem_append.mp hrule with hrule | hrule
    · rcases List.mem_append.mp hrule with hrule | hrule
      · -- a rule without a catalog
        rw [callLine, Rule.isIn_eq_false_of_isTidy (isTidy_callInside hname) hrule] at hin
        cases hin
      · obtain ⟨called, hcalled, rfl⟩ := List.mem_map.mp hrule
        obtain ⟨hsame, hbroken⟩ := (isIn_argumentCount_iff (hplain called hcalled) hname).mp hin
        obtain rfl : called = command := List.inj_on_of_nodup_map hnodup hcalled hcommand hsame
        exact Or.inl ⟨rfl, hbroken⟩
    · obtain ⟨called, hcalled, rfl⟩ := List.mem_map.mp hrule
      obtain ⟨hcalled, harity⟩ := List.mem_filter.mp hcalled
      obtain ⟨hsame, hbroken⟩ := (isIn_argumentType_iff (hplain called hcalled) hname).mp hin
      obtain rfl : called = command := List.inj_on_of_nodup_map hnodup hcalled hcommand hsame
      exact Or.inr ⟨rfl, hbroken, of_decide_eq_true harity⟩
  · rintro (⟨rfl, hbroken⟩ | ⟨rfl, hbroken, harity⟩)
    · refine ⟨?_, (isIn_argumentCount_iff hname hname).mpr ⟨rfl, hbroken⟩⟩
      exact List.mem_append_left _ (List.mem_append_right _ (List.mem_map_of_mem hcommand))
    · refine ⟨?_, (isIn_argumentType_iff hname hname).mpr ⟨rfl, hbroken⟩⟩
      refine List.mem_append_right _ (List.mem_map_of_mem (List.mem_filter.mpr ⟨hcommand, ?_⟩))
      exact decide_eq_true harity

/-- The match of that rule is the whole line. -/
theorem span_of_brokenRule? (hname : IsPlain command.name) {rule : Rule} {found : Pattern.Match}
    (hrule : brokenRule? command arguments = some rule)
    (hfound : rule.pattern.find? (callLine command.name arguments) = some found) :
    found.span = ⟨0, (callLine command.name arguments).length⟩ := by
  have hflat : IsFlat (callInside command.name arguments) := isFlat_callInside hname.isWord
  rcases brokenRule?_eq_some_iff.mp hrule with ⟨rfl, -⟩ | ⟨rfl, -⟩
  · exact Pattern.span_of_find?_form hflat (isPlaceless_wrongCount command.arity) hfound
  · have hplaceless : (callBody command Pattern.withIdentifier).isPlaceless = true := rfl
    exact Pattern.span_of_find?_form hflat hplaceless hfound

variable {compiler : Compiler} {engine : Engine}

/-- The first rule that is found in a call is the one that it breaks. -/
theorem firstRule?_callLine (hengine : Engine.build compiler catalog = .ok engine)
    (hnodup : (catalog.commands.map (·.name)).Nodup)
    (hplain : ∀ command ∈ catalog.commands, IsPlain command.name)
    (hcommand : command ∈ catalog.commands) :
    engine.firstRule? (callLine command.name arguments)
      = (brokenRule? command arguments).map
          (·, ⟨0, (callLine command.name arguments).length⟩) := by
  refine Engine.firstRule?_eq_map (fun rule => ?_)
    fun rule found => span_of_brokenRule? (hplain command hcommand)
  rw [(Engine.build_eq_ok_iff.mp hengine).1]
  exact found_iff_brokenRule? hnodup hplain hcommand

/-- In a call of something that is not a command no rule of the catalog is found. -/
theorem firstRule?_callLine_eq_none (hengine : Engine.build compiler catalog = .ok engine)
    (hplain : ∀ command ∈ catalog.commands, IsPlain command.name) (hname : IsPlain name)
    (hother : ∀ command ∈ catalog.commands, command.name ≠ name) :
    engine.firstRule? (callLine name arguments) = none := by
  rw [Engine.firstRule?_eq_none_iff, (Engine.build_eq_ok_iff.mp hengine).1]
  intro rule hrule
  rcases List.mem_append.mp hrule with hrule | hrule
  · rcases List.mem_append.mp hrule with hrule | hrule
    · exact Rule.isIn_eq_false_of_isTidy (isTidy_callInside hname) hrule
    · obtain ⟨called, hcalled, rfl⟩ := List.mem_map.mp hrule
      refine Bool.eq_false_iff.mpr fun hin => hother called hcalled ?_
      exact ((isIn_argumentCount_iff (hplain called hcalled) hname).mp hin).1
  · obtain ⟨called, hcalled, rfl⟩ := List.mem_map.mp hrule
    have hcalled := (List.mem_filter.mp hcalled).1
    refine Bool.eq_false_iff.mpr fun hin => hother called hcalled ?_
    exact ((isIn_argumentType_iff (hplain called hcalled) hname).mp hin).1

/-! ## The verdict -/

/-- The last tier looks at the name of a call and at nothing else in it. -/
theorem find?_callLine_eq_none_of_not_isUnknown {identifiers : List Identifier}
    {known : KnownNames}
    (hknown : KnownNames.ofIdentifiers compiler catalog identifiers = .ok known)
    (hplain : IsPlain name)
    (hname : ¬ IsUnknown catalog identifiers (callLine name arguments) name.toList) :
    known.find? (callLine name arguments) = none := by
  refine KnownNames.find?_form_eq_none hknown (isFlat_callInside hplain.isWord) fun head hhead => ?_
  rw [tokens_callInside hplain.isWord, List.head?_cons] at hhead
  obtain rfl := Option.some.inj hhead
  exact hname

/-- A call has the diagnostic of the rule that it breaks, and no other. -/
theorem diagnose_callLine (hengine : Engine.build compiler catalog = .ok engine)
    (hnodup : (catalog.commands.map (·.name)).Nodup)
    (hplain : ∀ command ∈ catalog.commands, IsPlain command.name)
    (hcommand : command ∈ catalog.commands)
    (hfeed : ∀ argument ∈ arguments, '\n' ∉ argument.gap) :
    engine.diagnose (String.ofList (callLine command.name arguments))
      = ((brokenRule? command arguments).map fun rule => ⟨0, 0,
          Text.units (callLine command.name arguments), rule.message, rule.severity,
          rule.tier⟩).toList := by
  have hname := hplain command hcommand
  have hknown : command.name ∈ catalog.knownNames := by
    refine List.mem_append_left _ (List.mem_append_left _ (List.mem_append_right _ ?_))
    exact List.mem_map_of_mem hcommand
  refine Engine.diagnose_form hengine (isFlat_callInside hname.isWord)
    (line_feed_not_mem_callInside hname.isWord hfeed)
    (firstRule?_callLine hengine hnodup hplain hcommand) fun _ identifiers head hhead hunknown => ?_
  rw [tokens_callInside hname.isWord, List.head?_cons] at hhead
  obtain rfl := Option.some.inj hhead
  refine hunknown.not_of_catalog ?_
  rw [String.ofList_toList]
  exact hknown

/-- **The verdict on a call.** A document that is one call of a command, with integers and
identifiers for arguments, is told nothing if the arguments are integers in the number that
the command takes, that their number is wrong if they are integers in another number, and that
their type is wrong if one of them is an identifier, unless the command takes no arguments.
What is reported covers the line. -/
theorem diagnose_call (hengine : Engine.build compiler catalog = .ok engine)
    (hnodup : (catalog.commands.map (·.name)).Nodup)
    (hplain : ∀ command ∈ catalog.commands, IsPlain command.name)
    (hcommand : command ∈ catalog.commands)
    (hfeed : ∀ argument ∈ arguments, '\n' ∉ argument.gap) :
    let line := callLine command.name arguments
    let diagnostics := engine.diagnose (String.ofList line)
    ((∀ argument ∈ arguments, IsInteger argument.token) →
        arguments.length = command.arity → diagnostics = [])
      ∧ ((∀ argument ∈ arguments, IsInteger argument.token) →
        arguments.length ≠ command.arity → diagnostics = [⟨0, 0, Text.units line,
          "`" ++ command.name ++ "` expected exactly " ++ toString command.arity ++ " arguments.",
          .error, .argumentCount⟩])
      ∧ ((∃ argument ∈ arguments, IsIdentifier argument.token) →
        0 < command.arity → diagnostics = [⟨0, 0, Text.units line,
          "`" ++ command.name ++ "` expected integer arguments.", .error, .argumentType⟩])
      ∧ ((∃ argument ∈ arguments, IsIdentifier argument.token) →
        command.arity = 0 → diagnostics = []) := by
  intro line diagnostics
  have hdiagnostics : diagnostics = _ := diagnose_callLine hengine hnodup hplain hcommand hfeed
  rw [hdiagnostics, brokenRule?, forall_isInteger_iff]
  refine ⟨fun hintegers hlength => ?_, fun hintegers hlength => ?_,
    fun hidentifier harity => ?_, fun hidentifier harity => ?_⟩
  · rw [if_neg hintegers, if_pos hlength]
    rfl
  · rw [if_neg hintegers, if_neg hlength]
    rfl
  · rw [if_pos hidentifier, if_pos harity]
    rfl
  · rw [if_pos hidentifier, if_neg (Nat.not_lt.mpr harity.le)]
    rfl

end Call

/-- An argument after a single space. -/
def Argument.spaced (token : List Char) (h : IsInteger token ∨ IsIdentifier token) : Argument :=
  ⟨[' '], token, List.cons_ne_nil _ _, List.forall_mem_singleton.mpr (by decide), h⟩

/-- A catalog in which one name begins with another one. -/
def strollCatalog : Catalog where
  commands :=
    [ { name := "walk", description := "", args := ["n"] },
      { name := "walk-to", description := "", args := ["x", "y"] },
      { name := "rest", description := "", args := [] } ]
  keywords := []
  configVariables := []
  builtins := []

theorem ofCatalog_strollCatalog :
    Engine.ofCatalog strollCatalog
      = .ok ⟨strollCatalog, Rule.ofCatalog strollCatalog, .bounded⟩ :=
  Engine.build_eq_ok_iff.mpr ⟨rfl, by decide +kernel⟩

/-- Calls of three commands: with too few integers, with an identifier, and with an identifier
for a command that takes no arguments. -/
theorem diagnose_call_stroll :
    let engine : Engine := ⟨strollCatalog, Rule.ofCatalog strollCatalog, .bounded⟩
    Engine.ofCatalog strollCatalog = .ok engine
      ∧ (strollCatalog.commands.map (·.name)).Nodup
      ∧ (∀ command ∈ strollCatalog.commands, IsPlain command.name)
      ∧ engine.diagnose "(walk-to -2)"
          = [⟨0, 0, 12, "`walk-to` expected exactly 2 arguments.", .error, .argumentCount⟩]
      ∧ engine.diagnose "(walk 1 steps)"
          = [⟨0, 0, 14, "`walk` expected integer arguments.", .error, .argumentType⟩]
      ∧ engine.diagnose "(rest steps)" = [] := by
  intro engine
  have hengine : Engine.ofCatalog strollCatalog = .ok engine := ofCatalog_strollCatalog
  have hnodup : (strollCatalog.commands.map (·.name)).Nodup := by decide +kernel
  have hplain : ∀ command ∈ strollCatalog.commands, IsPlain command.name := by decide +kernel
  refine ⟨hengine, hnodup, hplain, ?_, ?_, ?_⟩
  · exact (@diagnose_call strollCatalog _ [.spaced "-2".toList (by decide +kernel)]
      .bounded engine hengine hnodup hplain (List.mem_cons_of_mem _ List.mem_cons_self)
      (by decide +kernel)).2.1 (by decide +kernel) (by decide +kernel)
  · exact (@diagnose_call strollCatalog _
      [.spaced "1".toList (by decide +kernel), .spaced "steps".toList (by decide +kernel)]
      .bounded engine hengine hnodup hplain List.mem_cons_self
      (by decide +kernel)).2.2.1 (by decide +kernel) (by decide +kernel)
  · exact (@diagnose_call strollCatalog _ [.spaced "steps".toList (by decide +kernel)]
      .bounded engine hengine hnodup hplain
      (List.mem_cons_of_mem _ (List.mem_cons_of_mem _ List.mem_cons_self))
      (by decide +kernel)).2.2.2 (by decide +kernel) (by decide +kernel)

end TurtleAssist
