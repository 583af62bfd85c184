import Mathlib.Data.List.Basic
import TurtleAssist.Diagnostic.Rule
import TurtleAssist.Proofs.Text.Flat

/-!
# The arguments of a call

The rules for the calls of a command accept the name of the command and then arguments,
each with white space before it. An `Argument` is such a piece of a text, and it carries
the proofs that it is one.

A text can be read in one way only as a name with arguments, since its tokens are the name
and the arguments (`tokens_call`). That settles what the rules of any command accept of a
call: the call is one of that command, and its own tokens have the property that the rule
asks for (`accepts_call_iff`). For the rule on the number of arguments it is that they are
integers and not as many as the arity (`accepts_wrongCount`); for the rule on their type,
that one of them is an identifier (`accepts_withIdentifier`).
-/

namespace TurtleAssist

open Unicode (isDigit isWhiteSpace)

/-- **An argument of a call**: an integer or an identifier, with the white space before
it. -/
structure Argument where
  gap : List Char
  token : List Char
  gap_ne_nil : gap ≠ []
  gap_isWhiteSpace : ∀ c ∈ gap, isWhiteSpace c = true
  token_kind : IsInteger token ∨ IsIdentifier token

namespace Argument

/-- The argument as it is written. -/
def text (argument : Argument) : List Char :=
  argument.gap ++ argument.token

theorem token_ne_nil (argument : Argument) : argument.token ≠ [] :=
  argument.token_kind.elim IsInteger.ne_nil IsIdentifier.ne_nil

theorem token_not_isWhiteSpace (argument : Argument) :
    ∀ c ∈ argument.token, isWhiteSpace c = false :=
  argument.token_kind.elim IsInteger.not_isWhiteSpace IsIdentifier.not_isWhiteSpace

/-- An argument that is no integer is an identifier. -/
theorem isIdentifier_iff (argument : Argument) :
    IsIdentifier argument.token ↔ ¬ IsInteger argument.token :=
  ⟨IsIdentifier.not_isInteger, argument.token_kind.resolve_left⟩

/-- An argument is made of white space, digits and the characters of names. -/
theorem text_chars (argument : Argument) :
    ∀ c ∈ argument.text, isWhiteSpace c = true ∨ isDigit c = true ∨ IsNameTail c := by
  intro c hc
  rcases List.mem_append.mp hc with hc | hc
  · exact Or.inl (argument.gap_isWhiteSpace c hc)
  · exact Or.inr (argument.token_kind.elim (fun h => h.chars c hc) fun h => Or.inr (h.chars c hc))

theorem text_flat (argument : Argument) : Text.IsFlat argument.text := by
  intro c hc
  refine ⟨?_, ?_⟩ <;> rintro rfl
  · exact absurd (argument.text_chars _ hc) (by decide)
  · exact absurd (argument.text_chars _ hc) (by decide)

theorem text_no_bracket (argument : Argument) : '<' ∉ argument.text :=
  fun hc => absurd (argument.text_chars _ hc) (by decide)

/-- Arguments have no parentheses, as many as there are. -/
theorem isFlat_flatMap_text (arguments : List Argument) :
    Text.IsFlat (arguments.flatMap Argument.text) := by
  intro c hc
  obtain ⟨argument, -, hc⟩ := List.mem_flatMap.mp hc
  exact argument.text_flat c hc

/-- A line feed among them would stand in a gap. -/
theorem line_feed_not_mem_flatMap_text {arguments : List Argument}
    (hfeed : ∀ argument ∈ arguments, '\n' ∉ argument.gap) :
    '\n' ∉ arguments.flatMap Argument.text := by
  intro hmem
  obtain ⟨argument, hargument, hmem⟩ := List.mem_flatMap.mp hmem
  rcases List.mem_append.mp hmem with hmem | hmem
  · exact hfeed argument hargument hmem
  · exact Bool.noConfusion (argument.token_not_isWhiteSpace '\n' hmem)

end Argument

namespace Text

variable {arguments : List Argument} {blank blank' name : List Char}

/-- Arguments begin with white space, and so does what only white space follows. -/
theorem head?_arguments (hblank : ∀ c ∈ blank, isWhiteSpace c = true) :
    ∀ c ∈ (arguments.flatMap Argument.text ++ blank).head?, isWhiteSpace c = true := by
  cases arguments with
  | nil => exact fun c hc => hblank c (List.mem_of_mem_head? hc)
  | cons argument arguments =>
    obtain ⟨x, gap, hgap⟩ := List.exists_cons_of_ne_nil argument.gap_ne_nil
    intro c hc
    rw [List.flatMap_cons, Argument.text, hgap] at hc
    obtain rfl : x = c := Option.some.inj hc
    exact argument.gap_isWhiteSpace x (hgap ▸ List.mem_cons_self)

theorem tokens_arguments (hblank : ∀ c ∈ blank, isWhiteSpace c = true) :
    tokens (arguments.flatMap Argument.text ++ blank) = arguments.map Argument.token := by
  induction arguments with
  | nil =>
    have h : tokens (blank ++ []) = tokens [] := tokens_blank_append hblank
    rw [List.append_nil] at h
    exact h
  | cons argument arguments ih =>
    rw [List.flatMap_cons, Argument.text, List.append_assoc, List.append_assoc,
      tokens_blank_append argument.gap_isWhiteSpace,
      tokens_token_append argument.token_ne_nil argument.token_not_isWhiteSpace
        (head?_arguments hblank), ih]
    rfl

/-- **The tokens of a call** are the name and the arguments. -/
theorem tokens_call (hblank : ∀ c ∈ blank, isWhiteSpace c = true)
    (hblank' : ∀ c ∈ blank', isWhiteSpace c = true) (hne : name ≠ [])
    (hname : ∀ c ∈ name, isWhiteSpace c = false) :
    tokens (blank ++ (name ++ (arguments.flatMap Argument.text ++ blank')))
      = name :: arguments.map Argument.token := by
  rw [tokens_blank_append hblank, tokens_token_append hne hname (head?_arguments hblank'),
    tokens_arguments hblank']

/-- **A text that begins with white space is arguments**, and white space after them, if its
tokens can be arguments. -/
theorem exists_arguments {text : List Char} (hhead : ∀ c ∈ text.head?, isWhiteSpace c = true)
    (htokens : ∀ token ∈ tokens text, IsInteger token ∨ IsIdentifier token) :
    ∃ (arguments : List Argument) (blank : List Char),
      text = arguments.flatMap Argument.text ++ blank ∧ ∀ c ∈ blank, isWhiteSpace c = true := by
  induction text using tokens_induction with
  | blank space hspace => exact ⟨[], space, rfl, hspace⟩
  | token space token rest hspace hne htoken hrest ih =>
    rw [tokens_blank_append hspace, tokens_token_append hne htoken hrest] at htokens
    obtain ⟨hkind, htokens⟩ := List.forall_mem_cons.mp htokens
    have hgap : space ≠ [] := by
      rintro rfl
      obtain ⟨x, word, rfl⟩ := List.exists_cons_of_ne_nil hne
      have hx := hhead x rfl
      rw [htoken x List.mem_cons_self] at hx
      cases hx
    obtain ⟨arguments, blank, rfl, hblank⟩ := ih hrest htokens
    refine ⟨⟨space, token, hgap, hspace, hkind⟩ :: arguments, blank, ?_, hblank⟩
    rw [List.flatMap_cons, Argument.text]
    simp only [List.append_assoc]

/-- **A text with tokens is the first of them and arguments**, with white space around, if they
can all be arguments. -/
theorem exists_first_arguments {text : List Char} (hne : tokens text ≠ [])
    (htokens : ∀ token ∈ tokens text, IsInteger token ∨ IsIdentifier token) :
    ∃ (blank first : List Char) (arguments : List Argument) (blank' : List Char),
      text = blank ++ (first ++ (arguments.flatMap Argument.text ++ blank'))
        ∧ (∀ c ∈ blank, isWhiteSpace c = true) ∧ (∀ c ∈ blank', isWhiteSpace c = true)
        ∧ tokens text = first :: arguments.map Argument.token := by
  obtain ⟨first, others, hcons⟩ := List.exists_cons_of_ne_nil hne
  obtain ⟨blank, rest, rfl, hblank, hfirst, hword, hrest⟩ :=
    head?_tokens_eq_some_iff.mp (by rw [hcons, List.head?_cons])
  rw [tokens_blank_append hblank, tokens_token_append hfirst hword hrest] at htokens
  obtain ⟨arguments, blank', rfl, hblank'⟩ :=
    exists_arguments hrest (List.forall_mem_cons.mp htokens).2
  exact ⟨blank, first, arguments, blank', rfl, hblank, hblank',
    tokens_call hblank hblank' hfirst hword⟩

end Text

namespace Pattern

variable {body : Pattern} {s : List Char} {P : Argument → Prop}

/-! ## Patterns of arguments -/

/-- Texts that are arguments with a property are the written forms of arguments. -/
theorem exists_arguments {parts : List (List Char)}
    (h : ∀ part ∈ parts, ∃ argument : Argument, part = argument.text ∧ P argument) :
    ∃ arguments : List Argument, parts = arguments.map Argument.text
      ∧ ∀ argument ∈ arguments, P argument := by
  induction parts with
  | nil => exact ⟨[], rfl, List.forall_mem_nil _⟩
  | cons part parts ih =>
    obtain ⟨⟨argument, rfl, hargument⟩, hparts⟩ := List.forall_mem_cons.mp h
    obtain ⟨arguments, rfl, harguments⟩ := ih hparts
    exact ⟨argument :: arguments, rfl, List.forall_mem_cons.mpr ⟨hargument, harguments⟩⟩

/-- Repeated arguments, in a number within the bounds. -/
theorem accepts_times_arguments
    (h : ∀ part, body.Accepts part ↔ ∃ argument : Argument, part = argument.text ∧ P argument)
    {quantifier : Quantifier} :
    (body.times quantifier).Accepts s
      ↔ ∃ arguments : List Argument, s = arguments.flatMap Argument.text
          ∧ (∀ argument ∈ arguments, P argument) ∧ quantifier.least ≤ arguments.length
          ∧ ∀ most ∈ quantifier.most, arguments.length ≤ max quantifier.least most := by
  constructor
  · rintro ⟨parts, rfl, hparts, hleast, hmost⟩
    obtain ⟨arguments, rfl, harguments⟩ :=
      exists_arguments fun part hpart => (h part).mp (hparts part hpart)
    rw [List.length_map] at hleast hmost
    exact ⟨arguments, rfl, harguments, hleast, hmost⟩
  · rintro ⟨arguments, rfl, harguments, hleast, hmost⟩
    refine ⟨arguments.map Argument.text, rfl, ?_, ?_, ?_⟩
    · intro part hpart
      obtain ⟨argument, hargument, rfl⟩ := List.mem_map.mp hpart
      exact (h _).mpr ⟨argument, rfl, harguments argument hargument⟩
    · rw [List.length_map]
      exact hleast
    · rw [List.length_map]
      exact hmost

/-- White space and then a token of one kind. -/
theorem accepts_gap_token {kind : Pattern} {IsKind : List Char → Prop}
    (hkind : ∀ token, kind.Accepts token ↔ IsKind token)
    (hargument : ∀ token, IsKind token → IsInteger token ∨ IsIdentifier token) :
    (gap ++ kind).Accepts s
      ↔ ∃ argument : Argument, s = argument.text ∧ IsKind argument.token := by
  constructor
  · rintro ⟨gap, token, rfl, hgap, htoken⟩
    obtain ⟨hne, hblank⟩ := accepts_gap.mp hgap
    have hheld := (hkind token).mp htoken
    exact ⟨⟨gap, token, hne, hblank, hargument token hheld⟩, rfl, hheld⟩
  · rintro ⟨argument, rfl, htoken⟩
    exact ⟨argument.gap, argument.token, rfl,
      accepts_gap.mpr ⟨argument.gap_ne_nil, argument.gap_isWhiteSpace⟩, (hkind _).mpr htoken⟩

theorem accepts_integerArgument :
    Rule.integerArgument.Accepts s
      ↔ ∃ argument : Argument, s = argument.text ∧ IsInteger argument.token :=
  accepts_gap_token (fun _ => accepts_integer) fun _ => Or.inl

theorem accepts_identifierArgument :
    Rule.identifierArgument.Accepts s
      ↔ ∃ argument : Argument, s = argument.text ∧ IsIdentifier argument.token :=
  accepts_gap_token (fun _ => accepts_identifier) fun _ => Or.inr

/-- Arguments of both kinds are all arguments. -/
theorem accepts_anyArgument :
    (Pattern.alt Rule.integerArgument Rule.identifierArgument).Accepts s
      ↔ ∃ argument : Argument, s = argument.text ∧ True := by
  constructor
  · rintro (h | h)
    · obtain ⟨argument, htext, -⟩ := accepts_integerArgument.mp h
      exact ⟨argument, htext, trivial⟩
    · obtain ⟨argument, htext, -⟩ := accepts_identifierArgument.mp h
      exact ⟨argument, htext, trivial⟩
  · rintro ⟨argument, htext, -⟩
    exact argument.token_kind.imp (fun h => accepts_integerArgument.mpr ⟨argument, htext, h⟩)
      fun h => accepts_identifierArgument.mpr ⟨argument, htext, h⟩

/-- Arguments with a property, as many as there are. -/
theorem accepts_star_arguments
    (h : ∀ part, body.Accepts part ↔ ∃ argument : Argument, part = argument.text ∧ P argument) :
    (body.times .star).Accepts s
      ↔ ∃ arguments : List Argument, s = arguments.flatMap Argument.text
          ∧ ∀ argument ∈ arguments, P argument := by
  rw [accepts_times_arguments h]
  simp [Quantifier.least, Quantifier.most]

/-! ## What the rules ask of the arguments -/

/-- **Integer arguments in a number other than the arity.** -/
theorem accepts_wrongCount {arity : Nat} :
    (Pattern.group (Rule.wrongCount arity)).Accepts s
      ↔ ∃ arguments : List Argument, s = arguments.flatMap Argument.text
          ∧ (∀ token ∈ arguments.map Argument.token, IsInteger token)
          ∧ (arguments.map Argument.token).length ≠ arity := by
  simp only [List.forall_mem_map, List.length_map]
  have htimes : ∀ quantifier,
      ((Pattern.group Rule.integerArgument).times quantifier).Accepts s ↔ _ :=
    fun quantifier => accepts_times_arguments fun part => accepts_integerArgument
  cases arity with
  | zero =>
    refine (htimes .plus).trans ?_
    refine exists_congr fun arguments => and_congr_right fun _ => and_congr_right fun _ => ?_
    simp [Quantifier.least, Quantifier.most, Nat.one_le_iff_ne_zero]
  | succ k =>
    show ((Pattern.group Rule.integerArgument).times _).Accepts s ∨ _ ↔ _
    rw [htimes]
    constructor
    · rintro (⟨arguments, htext, hintegers, -, hmost⟩ | hmore)
      · have hfewer : arguments.length ≤ max 0 k := hmost k rfl
        exact ⟨arguments, htext, hintegers, by omega⟩
      · obtain ⟨arguments, htext, hintegers, hleast, -⟩ := (htimes (.atLeast (k + 2))).mp hmore
        have hmore : k + 2 ≤ arguments.length := hleast
        exact ⟨arguments, htext, hintegers, by omega⟩
    · rintro ⟨arguments, htext, hintegers, hlength⟩
      by_cases hfewer : arguments.length ≤ k
      · refine Or.inl ⟨arguments, htext, hintegers, Nat.zero_le _, ?_⟩
        intro most hmost
        obtain rfl : k = most := Option.some.inj hmost
        exact hfewer.trans (Nat.le_max_right 0 k)
      · refine Or.inr ((htimes (.atLeast (k + 2))).mpr ⟨arguments, htext, hintegers, ?_, nofun⟩)
        show k + 2 ≤ arguments.length
        omega

/-- What the rule on the type of the arguments asks of them. -/
def withIdentifier : Pattern :=
  .times (.group Rule.integerArgument) .star ++ Rule.identifierArgument
    ++ .times (.group (.alt Rule.integerArgument Rule.identifierArgument)) .star

/-- **Arguments of which one at least is an identifier.** The pattern puts the first of them
after integers only. -/
theorem accepts_withIdentifier :
    withIdentifier.Accepts s
      ↔ ∃ arguments : List Argument, s = arguments.flatMap Argument.text
          ∧ ∃ token ∈ arguments.map Argument.token, IsIdentifier token := by
  simp only [List.mem_map, exists_exists_and_eq_and]
  have hintegers : ∀ {s}, ((Pattern.group Rule.integerArgument).times .star).Accepts s ↔ _ :=
    accepts_star_arguments fun part => accepts_integerArgument
  have hany : ∀ {s}, ((Pattern.group (.alt Rule.integerArgument Rule.identifierArgument)).times
      .star).Accepts s ↔ _ :=
    accepts_star_arguments fun part => accepts_anyArgument
  constructor
  · rintro ⟨_, _, rfl, ⟨_, _, rfl, hfirst, hmiddle⟩, hlast⟩
    obtain ⟨before, rfl, -⟩ := hintegers.mp hfirst
    obtain ⟨argument, rfl, hidentifier⟩ := accepts_identifierArgument.mp hmiddle
    obtain ⟨after, rfl, -⟩ := hany.mp hlast
    refine ⟨before ++ argument :: after, ?_, argument, ?_, hidentifier⟩
    · rw [List.flatMap_append, List.flatMap_cons, List.append_assoc]
    · exact List.mem_append_right before List.mem_cons_self
  · rintro ⟨arguments, rfl, argument, hmem, hidentifier⟩
    have hsome : ∃ first,
        arguments.find? (fun other => decide (IsIdentifier other.token)) = some first := by
      rw [← Option.isSome_iff_exists, List.find?_isSome]
      exact ⟨argument, hmem, decide_eq_true hidentifier⟩
    obtain ⟨first, hfirst⟩ := hsome
    obtain ⟨hkind, before, after, rfl, hbefore⟩ := List.find?_eq_some_iff_append.mp hfirst
    refine ⟨(before ++ [first]).flatMap Argument.text, after.flatMap Argument.text, ?_,
      ⟨before.flatMap Argument.text, first.text, ?_, ?_, ?_⟩, ?_⟩
    · rw [← List.flatMap_append, List.append_assoc, List.singleton_append]
    · rw [List.flatMap_append, List.flatMap_singleton]
    · refine hintegers.mpr ⟨before, rfl, fun other hother => other.token_kind.resolve_right ?_⟩
      simpa using hbefore other hother
    · exact accepts_identifierArgument.mpr ⟨first, rfl, of_decide_eq_true hkind⟩
    · exact hany.mpr ⟨after, rfl, fun _ _ => trivial⟩

/-! ## Calls -/

/-- **A call is accepted by the rules of its own command only**, and by these if its tokens
have the property that they ask for. -/
theorem accepts_call_iff {pattern : Pattern} {Q : List (List Char) → Prop} {called written : String}
    {arguments : List Argument}
    (hpattern : ∀ s, pattern.Accepts s ↔ ∃ arguments : List Argument,
      s = arguments.flatMap Argument.text ∧ Q (arguments.map Argument.token))
    (hcalled : called ≠ "" ∧ ∀ c ∈ called.toList, isWhiteSpace c = false)
    (hwritten : written ≠ "" ∧ ∀ c ∈ written.toList, isWhiteSpace c = false) :
    (blanks ++ name called ++ pattern ++ blanks).Accepts
        (written.toList ++ arguments.flatMap Argument.text)
      ↔ called = written ∧ Q (arguments.map Argument.token) := by
  have hnil : ∀ c ∈ ([] : List Char), isWhiteSpace c = true := List.forall_mem_nil _
  constructor
  · rintro ⟨_, blank', htext, ⟨_, _, rfl, ⟨blank, _, rfl, hblank, rfl⟩, hothers⟩, hblank'⟩
    obtain ⟨others, rfl, hQ⟩ := (hpattern _).mp hothers
    have hblank := accepts_blanks.mp hblank
    have hblank' := accepts_blanks.mp hblank'
    -- two readings of one text have the same tokens
    have htokens : written.toList :: arguments.map Argument.token
        = called.toList :: others.map Argument.token := by
      rw [← Text.tokens_call hblank hblank' (String.toList_eq_nil_iff.not.mpr hcalled.1) hcalled.2,
        ← Text.tokens_call hnil hnil (String.toList_eq_nil_iff.not.mpr hwritten.1) hwritten.2,
        List.nil_append, List.append_nil, htext, List.append_assoc, List.append_assoc]
    obtain ⟨hname, harguments⟩ := List.cons.inj htokens
    exact ⟨String.toList_injective hname.symm, harguments ▸ hQ⟩
  · rintro ⟨rfl, hQ⟩
    refine ⟨called.toList ++ arguments.flatMap Argument.text, [], (List.append_nil _).symm,
      ⟨called.toList, _, rfl, ⟨[], called.toList, rfl, ?_, rfl⟩, ?_⟩, ?_⟩
    · exact accepts_blanks.mpr hnil
    · exact (hpattern _).mpr ⟨arguments, rfl, hQ⟩
    · exact accepts_blanks.mpr hnil

end Pattern

end TurtleAssist
