import Mathlib.Data.List.Basic
import TurtleAssist.Proofs.Diagnostic.Call
import TurtleAssist.Proofs.Pattern.Stretch

/-!
# Calls in a line

The rules of a command look for calls anywhere in a line, and the name of the command may be
any text: it may have characters that mean something in a pattern, white space or parentheses,
and it may begin the name of another command. `IsCall` says of a text that it is a call of the
name with given arguments.

The same parentheses can be read as a call of the name in one way only, as far as the tokens of
the arguments go, and a text that begins with a call begins with no other
(`IsCall.tokens_eq_of_append`). If the name has a character that is not white space, then the
first such character fixes where the name stands, and what follows the name has no parenthesis
before the closing one. If the name is nothing but white space it cannot be told from the white
space around it, but then the tokens inside the parentheses are the arguments.

So a rule that asks something of the tokens of a call finds the leftmost call that has it.
`argumentCount_exact` says so of the rule on the number of arguments, and `argumentType_exact` of
the rule on their type. The two rules of a command never find the same call, since one wants
integers only and the other an identifier.
-/

namespace TurtleAssist

open Text (IsFlat IsLeftmostStretch IsPrefixFree Line Span StandsAt form)
open Unicode (isWhiteSpace)

/-- **A call of a name**, from its opening to its closing parenthesis: the name with white space
or nothing in front of it, the arguments, and white space or nothing after them. -/
def IsCall (name : String) (arguments : List Argument) (text : List Char) : Prop :=
  ∃ blank blank', (∀ c ∈ blank, isWhiteSpace c = true) ∧ (∀ c ∈ blank', isWhiteSpace c = true)
    ∧ text = form (blank ++ (name.toList ++ (arguments.flatMap Argument.text ++ blank')))

/-! ## One reading only -/

/-- Two ways to read what stands before a closing parenthesis as white space, a name and more
without parentheses agree on the whole of it, and on the tokens after the name. -/
theorem Text.tokens_eq_of_name_append {name blank blank' after after' rest rest' : List Char}
    (hblank : ∀ c ∈ blank, isWhiteSpace c = true) (hblank' : ∀ c ∈ blank', isWhiteSpace c = true)
    (hafter : IsFlat after) (hafter' : IsFlat after')
    (h : blank ++ (name ++ after) ++ ')' :: rest = blank' ++ (name ++ after') ++ ')' :: rest') :
    blank ++ (name ++ after) = blank' ++ (name ++ after')
      ∧ Text.tokens after = Text.tokens after' := by
  obtain ⟨space, word, rfl, hspace, hword⟩ := Text.exists_run isWhiteSpace name
  cases word with
  | nil =>
    -- the name is white space, and there is no parenthesis before the closing one
    rw [List.append_nil] at h ⊢
    have hflat : IsFlat (blank ++ (space ++ after)) :=
      (IsFlat.of_blank hblank).append ((IsFlat.of_blank hspace).append hafter)
    have hflat' : IsFlat (blank' ++ (space ++ after')) :=
      (IsFlat.of_blank hblank').append ((IsFlat.of_blank hspace).append hafter')
    obtain ⟨hsame, -, -⟩ := hflat.eq_of_append hflat' (Or.inr rfl) (Or.inr rfl) h
    refine ⟨hsame, ?_⟩
    rw [← Text.tokens_blank_append hspace, ← Text.tokens_blank_append hblank, hsame,
      Text.tokens_blank_append hblank', Text.tokens_blank_append hspace]
  | cons x word =>
    have hx : isWhiteSpace x = false := hword x rfl
    have hrun : (blank ++ space) ++ x :: (word ++ after ++ ')' :: rest)
        = (blank' ++ space) ++ x :: (word ++ after' ++ ')' :: rest') := by
      simpa using h
    obtain ⟨hfront, -, hback⟩ := Text.eq_of_run_append
      (List.forall_mem_append.mpr ⟨hblank, hspace⟩) (List.forall_mem_append.mpr ⟨hblank', hspace⟩)
      hx hx hrun
    obtain rfl : blank = blank' := List.append_cancel_right hfront
    rw [List.append_assoc, List.append_assoc] at hback
    obtain ⟨rfl, -, -⟩ := hafter.eq_of_append hafter' (Or.inr rfl) (Or.inr rfl)
      (List.append_cancel_left hback)
    exact ⟨rfl, rfl⟩

namespace IsCall

variable {name : String} {arguments others : List Argument} {s t rest rest' : List Char}

/-- **The same parentheses are one call.** Two calls of a name with which a text begins are the
same stretch of it, with the same tokens for arguments. -/
theorem tokens_eq_of_append (hs : IsCall name arguments s) (ht : IsCall name others t)
    (heq : s ++ rest = t ++ rest') :
    s = t ∧ arguments.map Argument.token = others.map Argument.token := by
  obtain ⟨before, after, hbefore, hafter, rfl⟩ := hs
  obtain ⟨before', after', hbefore', hafter', rfl⟩ := ht
  have hinside :
      before ++ (name.toList ++ (arguments.flatMap Argument.text ++ after)) ++ ')' :: rest
        = before' ++ (name.toList ++ (others.flatMap Argument.text ++ after')) ++ ')' :: rest' := by
    simpa [form] using heq
  obtain ⟨hsame, htokens⟩ := Text.tokens_eq_of_name_append hbefore hbefore'
    ((Argument.isFlat_flatMap_text arguments).append (IsFlat.of_blank hafter))
    ((Argument.isFlat_flatMap_text others).append (IsFlat.of_blank hafter')) hinside
  rw [Text.tokens_arguments hafter, Text.tokens_arguments hafter'] at htokens
  exact ⟨congrArg form hsame, htokens⟩

/-- No call of a name is the beginning of another one, whatever is asked of the tokens. -/
theorem isPrefixFree (name : String) (Q : List (List Char) → Prop) :
    IsPrefixFree fun text =>
      ∃ arguments, IsCall name arguments text ∧ Q (arguments.map Argument.token) := by
  rintro s t ⟨arguments, hs, -⟩ ⟨others, ht, -⟩ ⟨rest, hrest⟩
  have heq : s ++ rest = t ++ [] := by rw [hrest, List.append_nil]
  exact (hs.tokens_eq_of_append ht heq).1

end IsCall

/-! ## The rules of a command -/

/-- **A rule for calls of a command** accepts the calls whose tokens have the property that its
pattern for the arguments asks for. -/
theorem Pattern.accepts_callOf_iff {command : Command} {pattern : Pattern} {s : List Char}
    {Q : List (List Char) → Prop}
    (hpattern : ∀ s, pattern.Accepts s ↔ ∃ arguments : List Argument,
      s = arguments.flatMap Argument.text ∧ Q (arguments.map Argument.token)) :
    (Rule.callOf command pattern).Accepts s
      ↔ ∃ arguments, IsCall command.name arguments s ∧ Q (arguments.map Argument.token) := by
  have hform : (Rule.callOf command pattern).Accepts s
      ↔ ∃ inside, s = form inside ∧ (callBody command pattern).Accepts inside := accepts_form
  refine hform.trans ?_
  constructor
  · rintro ⟨_, rfl, _, blank', rfl, ⟨_, _, rfl, ⟨blank, _, rfl, hblank, rfl⟩, harguments⟩, hblank'⟩
    obtain ⟨arguments, rfl, hQ⟩ := (hpattern _).mp harguments
    refine ⟨arguments, ⟨blank, blank', accepts_blanks.mp hblank, accepts_blanks.mp hblank', ?_⟩, hQ⟩
    simp
  · rintro ⟨arguments, ⟨blank, blank', hblank, hblank', rfl⟩, hQ⟩
    refine ⟨_, rfl, blank ++ command.name.toList ++ arguments.flatMap Argument.text, blank', ?_,
      ⟨blank ++ command.name.toList, _, rfl, ⟨blank, _, rfl, accepts_blanks.mpr hblank, rfl⟩,
        (hpattern _).mpr ⟨arguments, rfl, hQ⟩⟩, accepts_blanks.mpr hblank'⟩
    simp

/-! ## The number of arguments -/

/-- **A miscounted call** of a command: a call with integers only, in a number other than the
arity. -/
def IsMiscounted (command : Command) (text : List Char) : Prop :=
  ∃ arguments, IsCall command.name arguments text
    ∧ (∀ argument ∈ arguments, IsInteger argument.token) ∧ arguments.length ≠ command.arity

section

variable {command : Command} {text : List Char}

theorem isPlaceless_argumentCount (command : Command) :
    (Rule.argumentCount command).pattern.isPlaceless = true :=
  Pattern.isPlaceless_form (isPlaceless_wrongCount command.arity)

/-- Being miscounted is a matter of the tokens. -/
theorem isMiscounted_iff :
    IsMiscounted command text ↔ ∃ arguments, IsCall command.name arguments text
      ∧ (∀ token ∈ arguments.map Argument.token, IsInteger token)
        ∧ (arguments.map Argument.token).length ≠ command.arity := by
  simp only [IsMiscounted, List.forall_mem_map, List.length_map]

theorem accepts_argumentCount_iff :
    (Rule.argumentCount command).pattern.Accepts text ↔ IsMiscounted command text := by
  rw [isMiscounted_iff]
  exact Pattern.accepts_callOf_iff
    (Q := fun tokens => (∀ token ∈ tokens, IsInteger token) ∧ tokens.length ≠ command.arity)
    fun _ => Pattern.accepts_wrongCount

theorem isPrefixFree_argumentCount (command : Command) :
    IsPrefixFree (Rule.argumentCount command).pattern.Accepts :=
  (IsCall.isPrefixFree command.name
    (fun tokens => (∀ token ∈ tokens, IsInteger token) ∧ tokens.length ≠ command.arity)).mono
      fun _ haccepts => isMiscounted_iff.mp (accepts_argumentCount_iff.mp haccepts)

/-- A text that begins with a call in the right number begins with no miscounted one. -/
theorem IsCall.not_isMiscounted_of_append {arguments : List Argument} {s rest rest' : List Char}
    (hcall : IsCall command.name arguments text) (hlength : arguments.length = command.arity)
    (heq : text ++ rest = s ++ rest') : ¬ IsMiscounted command s := by
  rintro ⟨others, hother, -, hwrong⟩
  have htokens := (hcall.tokens_eq_of_append hother heq).2
  have hsame : arguments.length = others.length := by
    rw [← List.length_map Argument.token, htokens, List.length_map]
  exact hwrong (hsame ▸ hlength)

end

/-- **The rule on the number of arguments is exact.** It is found in a line exactly if the line
has a miscounted call of the command, and what it reports is the leftmost one, from its opening
to its closing parenthesis. A call with as many arguments as the arity is not miscounted, is not
what the rule finds in any line, and has no match of the rule at its opening parenthesis,
whatever follows it. -/
theorem argumentCount_exact (command : Command) (line : Line) :
    let pattern := (Rule.argumentCount command).pattern
    (pattern.isIn line = true
        ↔ ∃ span text, StandsAt line span text ∧ IsMiscounted command text)
      ∧ (∀ span, (pattern.find? line).map (·.span) = some span
          ↔ IsLeftmostStretch (IsMiscounted command) line span)
      ∧ ∀ arguments text, IsCall command.name arguments text →
          arguments.length = command.arity →
            ¬ IsMiscounted command text
              ∧ (∀ span, StandsAt line span text → (pattern.find? line).map (·.span) ≠ some span)
              ∧ ∀ offset rest, pattern.matchAt? ⟨offset, text ++ rest⟩ = none := by
  intro pattern
  have hplaceless := isPlaceless_argumentCount command
  have hclass : pattern.Accepts = IsMiscounted command :=
    funext fun text => propext accepts_argumentCount_iff
  have hspan : ∀ span, (pattern.find? line).map (·.span) = some span
      ↔ IsLeftmostStretch (IsMiscounted command) line span := by
    intro span
    rw [Pattern.span_find?_iff_isLeftmostStretch hplaceless (isPrefixFree_argumentCount command),
      hclass]
  refine ⟨?_, hspan, fun arguments text hcall hlength => ?_⟩
  · rw [Pattern.isIn_iff_standsAt hplaceless, hclass]
  · have hsame : text ++ [] = text ++ [] := rfl
    have hright : ¬ IsMiscounted command text := hcall.not_isMiscounted_of_append hlength hsame
    refine ⟨hright, fun span hstands hfound => ?_, fun offset rest => ?_⟩
    · obtain ⟨⟨other, hother, hwrong⟩, -⟩ := (hspan span).mp hfound
      exact hright (hother.unique hstands ▸ hwrong)
    · rw [Pattern.matchAt?_eq_none_iff, Pattern.ways_eq_nil_iff hplaceless]
      intro other rest' heq haccepts
      exact hcall.not_isMiscounted_of_append hlength heq (accepts_argumentCount_iff.mp haccepts)

/-! ## The type of the arguments -/

/-- **A mistyped call** of a command: a call with an identifier among its arguments, wherever it
stands and whatever the others are. -/
def IsMistyped (command : Command) (text : List Char) : Prop :=
  ∃ arguments, IsCall command.name arguments text
    ∧ ∃ argument ∈ arguments, IsIdentifier argument.token

section

variable {command : Command} {text : List Char}

/-- Being mistyped is a matter of the tokens. -/
theorem isMistyped_iff :
    IsMistyped command text ↔ ∃ arguments, IsCall command.name arguments text
      ∧ ∃ token ∈ arguments.map Argument.token, IsIdentifier token := by
  simp only [IsMistyped, List.mem_map, exists_exists_and_eq_and]

theorem accepts_argumentType_iff :
    (Rule.argumentType command).pattern.Accepts text ↔ IsMistyped command text := by
  rw [isMistyped_iff]
  exact Pattern.accepts_callOf_iff (Q := fun tokens => ∃ token ∈ tokens, IsIdentifier token)
    fun _ => Pattern.accepts_withIdentifier

theorem isPrefixFree_argumentType (command : Command) :
    IsPrefixFree (Rule.argumentType command).pattern.Accepts :=
  (IsCall.isPrefixFree command.name (fun tokens => ∃ token ∈ tokens, IsIdentifier token)).mono
    fun _ haccepts => isMistyped_iff.mp (accepts_argumentType_iff.mp haccepts)

/-- A text that begins with a mistyped call begins with no miscounted one: the tokens are the
same, and one of them is no integer. -/
theorem IsMistyped.not_isMiscounted_of_append {s rest rest' : List Char}
    (h : IsMistyped command text) (heq : text ++ rest = s ++ rest') :
    ¬ IsMiscounted command s := by
  rw [isMiscounted_iff]
  rintro ⟨others, hother, hintegers, -⟩
  obtain ⟨arguments, hcall, token, htoken, hidentifier⟩ := isMistyped_iff.mp h
  rw [(hcall.tokens_eq_of_append hother heq).2] at htoken
  exact hidentifier.not_isInteger (hintegers token htoken)

end

/-- **The rule on the type of the arguments is exact.** It is found in a line exactly if the line
has a mistyped call of the command, and what it reports is the leftmost one, from its opening to
its closing parenthesis. The rule on the number of arguments has no say in a mistyped call: the
call is not miscounted, is not what that rule finds in any line, and has no match of it at its
opening parenthesis, whatever follows. -/
theorem argumentType_exact (command : Command) (line : Line) :
    let pattern := (Rule.argumentType command).pattern
    let counting := (Rule.argumentCount command).pattern
    (pattern.isIn line = true
        ↔ ∃ span text, StandsAt line span text ∧ IsMistyped command text)
      ∧ (∀ span, (pattern.find? line).map (·.span) = some span
          ↔ IsLeftmostStretch (IsMistyped command) line span)
      ∧ ∀ text, IsMistyped command text →
          ¬ IsMiscounted command text
            ∧ (∀ span, StandsAt line span text → (counting.find? line).map (·.span) ≠ some span)
            ∧ ∀ offset rest, counting.matchAt? ⟨offset, text ++ rest⟩ = none := by
  intro pattern counting
  have hplaceless : pattern.isPlaceless = true := rfl
  have hcounting : counting.isPlaceless = true := isPlaceless_argumentCount command
  have hclass : pattern.Accepts = IsMistyped command :=
    funext fun text => propext accepts_argumentType_iff
  refine ⟨?_, fun span => ?_, fun text htext => ⟨?_, fun span hstands hfound => ?_,
    fun offset rest => ?_⟩⟩
  · rw [Pattern.isIn_iff_standsAt hplaceless, hclass]
  · rw [Pattern.span_find?_iff_isLeftmostStretch hplaceless (isPrefixFree_argumentType command),
      hclass]
  · exact htext.not_isMiscounted_of_append (rfl : text ++ [] = text ++ [])
  · -- what the other rule finds in the line is miscounted
    obtain ⟨found, hfind, rfl⟩ := Option.map_eq_some_iff.mp hfound
    obtain ⟨⟨other, hother, hmiscounted⟩, -⟩ := Pattern.isLeftmostStretch_of_find? hcounting hfind
    rw [hother.unique hstands] at hmiscounted
    exact htext.not_isMiscounted_of_append (rfl : text ++ [] = text ++ [])
      (accepts_argumentCount_iff.mp hmiscounted)
  · rw [Pattern.matchAt?_eq_none_iff, Pattern.ways_eq_nil_iff hcounting]
    intro other rest' heq haccepts
    exact htext.not_isMiscounted_of_append heq (accepts_argumentCount_iff.mp haccepts)

end TurtleAssist
