import Mathlib.Data.List.Basic
import TurtleAssist.Proofs.Identifier.Definition

/-!
# What a line with a definition is recognised as

The rules for definitions overlap. Each looks for its shape anywhere in a line, the rule for
variables would accept the functions too, and what decides between a function and a variable may
stand far behind the name, after the list of parameters. `classifyLine_define` says what comes of
this for a line whose first parenthesis opens a definition.

Two arguments settle which rule answers. A definition is found at its own opening, the first
parenthesis of the line, and where the text after the opening does not hold the keyword there is
no other place for one (`eq_of_isOpening`). And the text at that place can be read in one way only,
so a rule that answers answers with the parts that are written there, and a rule whose parts are
not there does not answer (`ReadsProcedure.eq_of_rest`, `ReadsBinding.eq_of_rest`,
`ReadsValue.eq_of_rest`).
-/

namespace TurtleAssist

open Text (IsFlat IsGap Line form)
open Unicode (isWhiteSpace)

namespace IdentifierRule

open Pattern Way

variable {place : Place} {way : Way} {line : Line} {found : Match}
  {front opening name tail space inside rest : List Char}

/-! ## What may follow a name -/

/-- A name ends where its form goes on with white space or is over. -/
theorem not_isNameTail_of_tail (hhead : ∀ c ∈ tail.head?, isWhiteSpace c = true) :
    ∀ c ∈ (tail ++ ')' :: rest).head?, ¬ IsNameTail c := by
  intro c hc
  cases tail with
  | nil =>
    cases hc
    decide
  | cons x tail => exact not_isNameTail_of_isWhiteSpace (hhead c hc)

theorem head_form : ∀ c ∈ (form inside ++ rest).head?, isWhiteSpace c = false := by
  intro c hc
  cases hc
  decide

/-- A form with a name in front, and what follows it. -/
theorem form_append (name tail rest : List Char) :
    form (name ++ tail) ++ rest = '(' :: (name ++ (tail ++ ')' :: rest)) := by
  simp [form]

/-! ## The parts are determined -/

/-- At an opening followed by a form, the rule for procedures reads the name and the parameters
in the form. -/
theorem ReadsProcedure.eq_of_rest {opening' name' tail' : List Char}
    (h : ReadsProcedure place way opening' name' tail') (hopening : IsOpening opening)
    (hname : IsIdentifier name) (hflat : IsFlat tail)
    (hhead : ∀ c ∈ tail.head?, isWhiteSpace c = true)
    (hrest : place.rest = opening ++ (form (name ++ tail) ++ rest)) :
    name' = name ∧ tail' = tail := by
  have hread := h.reads.1
  rw [List.append_assoc, hrest] at hread
  obtain ⟨-, hform⟩ := hopening.append_inj h.isOpening head_form head_form hread
  rw [form_append, form_append] at hform
  obtain ⟨rfl, htail⟩ := hname.append_inj h.isIdentifier (not_isNameTail_of_tail hhead)
    (not_isNameTail_of_tail h.head) (List.cons.inj hform).2
  obtain ⟨rfl, -⟩ := hflat.eq_of_append h.isFlat (Or.inr rfl) (Or.inr rfl) htail
  exact ⟨rfl, rfl⟩

/-- It reads nothing where a name follows the opening. -/
theorem not_readsProcedure_of_rest {opening' name' tail' : List Char} (hopening : IsOpening opening)
    (hname : IsIdentifier name) (hrest : place.rest = opening ++ (name ++ rest)) :
    ¬ ReadsProcedure place way opening' name' tail' := by
  intro h
  have hread := h.reads.1
  rw [List.append_assoc, hrest] at hread
  obtain ⟨-, hform⟩ := hopening.append_inj h.isOpening hname.head_append head_form hread
  obtain ⟨c, name, rfl⟩ := List.exists_cons_of_ne_nil hname.ne_nil
  obtain ⟨rfl, -⟩ := List.cons.inj hform
  exact absurd hname.1 (by decide)

/-- At an opening followed by a name and a form, the rule for bindings reads the parameters in the
form, and after the form comes a body. -/
theorem ReadsBinding.eq_of_rest {opening' name' space' inside' rest' : List Char}
    (h : ReadsBinding place way opening' name' space' inside' rest') (hopening : IsOpening opening)
    (hname : IsIdentifier name) (hspace : IsGap space) (hflat : IsFlat inside)
    (hrest : place.rest = opening ++ (name ++ (space ++ (form inside ++ rest)))) :
    name' = name ∧ inside' = inside ∧ HasBody rest := by
  have hread := h.rest_eq
  rw [hrest] at hread
  obtain ⟨-, hnamed⟩ :=
    hopening.append_inj h.isOpening hname.head_append h.isIdentifier.head_append hread
  obtain ⟨rfl, hspaced⟩ := hname.append_inj h.isIdentifier hspace.ends_name h.isGap.ends_name
    hnamed
  obtain ⟨rfl, hform⟩ := hspace.append_inj h.isGap head_form head_form hspaced
  have hclosing : inside ++ ')' :: rest = inside' ++ ')' :: rest' := by
    simpa [form] using hform
  obtain ⟨rfl, -, rfl⟩ :=
    hflat.eq_of_append (flat_of_accepts_listed h.listed) (Or.inr rfl) (Or.inr rfl) hclosing
  exact ⟨rfl, rfl, h.hasBody⟩

/-- The rule for variables reads the name after the opening. -/
theorem ReadsValue.eq_of_rest {opening' name' : List Char} (h : ReadsValue place way opening' name')
    (hopening : IsOpening opening) (hname : IsIdentifier name)
    (hends : ∀ c ∈ rest.head?, ¬ IsNameTail c) (hrest : place.rest = opening ++ (name ++ rest)) :
    name' = name := by
  have hread := h.rest_eq
  rw [hrest] at hread
  obtain ⟨-, hnamed⟩ :=
    hopening.append_inj h.isOpening hname.head_append h.isIdentifier.head_append hread
  obtain ⟨rfl, -⟩ := hname.append_inj h.isIdentifier hends h.ends hnamed
  rfl

/-! ## The place of the definition -/

/-- What stands behind a text without a character that the whole has further on. -/
theorem exists_suffix_of_not_mem {c : Char} {s t before after : List Char} (hs : c ∉ s)
    (h : s ++ t = before ++ c :: after) : ∃ more, before = s ++ more ∧ t = more ++ c :: after := by
  rcases List.append_eq_append_iff.mp h with ⟨more, rfl, rfl⟩ | ⟨more, rfl, hmore⟩
  · exact ⟨more, rfl, rfl⟩
  · cases more with
    | nil => exact ⟨[], by simp, hmore.symm⟩
    | cons x more =>
      obtain ⟨rfl, -⟩ := List.cons.inj hmore
      exact absurd (List.mem_append_right before List.mem_cons_self) hs

/-- **A pattern of a form that accepts a text at the first parenthesis** is found there. -/
theorem exists_find?_opened {body : Pattern} {text : List Char} (hfront : '(' ∉ front)
    (hplaceless : (opened body).isPlaceless = true) (haccepts : (opened body).Accepts text)
    (rest : List Char) :
    ∃ way, Prefers (opened body).ways ⟨front.length, text ++ rest⟩ way
      ∧ (opened body).find? (front ++ (text ++ rest))
        = some ⟨⟨front.length, way.stop.offset⟩, way.captures⟩ := by
  have hways : (opened body).ways ⟨front.length, text ++ rest⟩ ≠ [] := by
    rw [ne_eq, ways_eq_nil_iff hplaceless]
    exact fun hnone => hnone text rest rfl haccepts
  obtain ⟨way, others, hcons⟩ := List.exists_cons_of_ne_nil hways
  have hprefers : Prefers (opened body).ways ⟨front.length, text ++ rest⟩ way := by
    rw [Prefers, hcons]
    rfl
  refine ⟨way, hprefers, find?_eq_some_iff.mpr ⟨⟨front.length, text ++ rest⟩,
    mem_places_iff.mpr ⟨front, rfl, rfl⟩, ?_, fun earlier hearlier hlt => ?_⟩⟩
  · rw [matchAt?, hprefers]
    rfl
  · refine List.eq_nil_iff_forall_not_mem.mpr fun other hother => ?_
    obtain ⟨before, hline, hoffset⟩ := mem_places_iff.mp hearlier
    obtain ⟨_, middle, hreads, rfl, -⟩ := (isSilent_text "(").mem_ways_before hother
    rw [hreads.1] at hline
    obtain ⟨more, hbefore, -⟩ := exists_suffix_of_not_mem hfront hline
    rw [hoffset, hbefore, List.length_append] at hlt
    exact absurd hlt (Nat.not_lt.mpr (Nat.le_add_right _ _))

/-- **There is no second opening** in a line whose first parenthesis is that of an opening, where
the keyword does not occur again. -/
theorem eq_of_isOpening {opening' after : List Char} (hfront : '(' ∉ front)
    (hopening : IsOpening opening) (hrest : ¬ "define".toList <:+: rest)
    (hplace : place ∈ placesFrom 0 (front ++ (opening ++ rest))) (hopening' : IsOpening opening')
    (hafter : place.rest = opening' ++ after) : place = ⟨front.length, opening ++ rest⟩ := by
  obtain ⟨before, hline, hoffset⟩ := mem_places_iff.mp hplace
  obtain ⟨tail, rfl, htail, -⟩ := hopening.exists_tail
  obtain ⟨tail', rfl, -, hkeyword⟩ := hopening'.exists_tail
  rw [hafter] at hline
  obtain ⟨more, rfl, hmore⟩ := exists_suffix_of_not_mem hfront hline
  cases more with
  | nil =>
    rw [List.append_nil] at hoffset
    have hsame : place.rest = '(' :: tail ++ rest := hafter.trans hmore.symm
    rw [← hoffset, ← hsame]
  | cons x more =>
    -- a later parenthesis stands in the rest, and the keyword after it
    obtain ⟨further, -, hfurther⟩ := exists_suffix_of_not_mem htail (List.cons.inj hmore).2
    refine absurd ?_ hrest
    rw [hfurther]
    exact hkeyword.trans ⟨further ++ ['('], after, by simp⟩

/-! ## The match of each rule -/

theorem accepts_procedure (hopening : IsOpening opening) (hname : IsIdentifier name)
    (hflat : IsFlat tail) (hhead : ∀ c ∈ tail.head?, isWhiteSpace c = true) :
    procedure.pattern.Accepts (opening ++ form (name ++ tail)) := by
  refine accepts_define hopening ⟨'(' :: (name ++ tail), [')'], rfl,
    ⟨'(' :: (name ++ tail), [], (List.append_nil _).symm,
      ⟨'(' :: name, tail, rfl, ⟨['('], name, rfl, rfl, ?_⟩, accepts_beside hflat hhead⟩, ?_⟩, rfl⟩
  · exact accepts_identifier.mpr hname
  · exact accepts_blanks.mpr (List.forall_mem_nil _)

theorem accepts_binding {gap : List Char} {c : Char} (hopening : IsOpening opening)
    (hname : IsIdentifier name) (hspace : IsGap space) (hinside : listed.Accepts inside)
    (hgap : IsGap gap) (hc : isWhiteSpace c = false ∧ c ≠ ')') :
    binding.pattern.Accepts (opening ++ (name ++ (space ++ (form inside ++ (gap ++ [c]))))) := by
  -- from the end of the pattern, which is nested to the left
  refine accepts_define hopening ⟨name ++ (space ++ (form inside ++ gap)), [c], by simp,
    ⟨name ++ (space ++ form inside), gap, by simp,
      ⟨name ++ (space ++ '(' :: inside), [')'], by simp [form],
        ⟨name ++ (space ++ ['(']), inside, by simp,
          ⟨name ++ space, ['('], by simp, ⟨name, space, rfl, ?_, ?_⟩, rfl⟩, hinside⟩, rfl⟩,
      ?_⟩, c, contains_body.mpr hc, rfl⟩
  · exact accepts_identifier.mpr hname
  · exact accepts_gap.mpr hspace
  · exact accepts_gap.mpr hgap

/-- What is written out is read, since the rule for procedures accepts it. -/
theorem exists_readsProcedure (hfront : '(' ∉ front) (hopening : IsOpening opening)
    (hname : IsIdentifier name) (hflat : IsFlat tail)
    (hhead : ∀ c ∈ tail.head?, isWhiteSpace c = true) (rest : List Char) :
    ∃ found, procedure.pattern.find? (front ++ (opening ++ (form (name ++ tail) ++ rest)))
        = some found
      ∧ (Recognition.mk procedure found).name = String.ofList name
      ∧ (Recognition.mk procedure found).parameters = Recognition.parametersIn tail := by
  obtain ⟨way, hprefers, hfind⟩ := exists_find?_opened hfront rfl
    (accepts_procedure hopening hname hflat hhead) rest
  obtain ⟨_, _, _, hparts⟩ := mem_ways_procedure hprefers.mem
  rw [List.append_assoc] at hfind
  obtain ⟨rfl, rfl⟩ := hparts.eq_of_rest hopening hname hflat hhead (List.append_assoc _ _ _)
  exact ⟨_, hfind, name_of_capture? hparts.capture?_name, hparts.parameters_eq⟩

/-- The rule for bindings accepts a name and its parameters if a body follows. -/
theorem exists_readsBinding (hfront : '(' ∉ front) (hopening : IsOpening opening)
    (hname : IsIdentifier name) (hspace : IsGap space) (hinside : listed.Accepts inside)
    (hbody : HasBody rest) :
    ∃ found, binding.pattern.find?
          (front ++ (opening ++ (name ++ (space ++ (form inside ++ rest))))) = some found
      ∧ (Recognition.mk binding found).name = String.ofList name
      ∧ (Recognition.mk binding found).parameters = Recognition.parametersIn inside := by
  obtain ⟨gap, c, others, rfl, hgap, hc⟩ := hbody
  obtain ⟨way, hprefers, hfind⟩ := exists_find?_opened hfront rfl
    (accepts_binding hopening hname hspace hinside hgap hc) others
  have hsplit : opening ++ (name ++ (space ++ (form inside ++ (gap ++ [c])))) ++ others
      = opening ++ (name ++ (space ++ (form inside ++ (gap ++ c :: others)))) := by
    simp
  rw [hsplit] at hprefers hfind
  obtain ⟨_, _, _, _, _, hparts⟩ := mem_ways_binding hprefers.mem
  obtain ⟨rfl, rfl, -⟩ :=
    hparts.eq_of_rest hopening hname hspace (flat_of_accepts_listed hinside) rfl
  exact ⟨_, hfind, name_of_capture? hparts.capture?_name, hparts.parameters_eq⟩

/-- The rule for variables accepts every name. -/
theorem exists_readsValue (hfront : '(' ∉ front) (hopening : IsOpening opening)
    (hname : IsIdentifier name) (hends : ∀ c ∈ rest.head?, ¬ IsNameTail c) :
    ∃ found, value.pattern.find? (front ++ (opening ++ (name ++ rest))) = some found
      ∧ (Recognition.mk value found).name = String.ofList name := by
  have haccepts : value.pattern.Accepts (opening ++ name) :=
    accepts_define hopening (accepts_identifier.mpr hname)
  obtain ⟨way, hprefers, hfind⟩ := exists_find?_opened hfront rfl haccepts rest
  obtain ⟨_, _, hparts⟩ := prefers_value hprefers
  rw [List.append_assoc] at hfind
  obtain rfl := hparts.eq_of_rest hopening hname hends (List.append_assoc _ _ _)
  exact ⟨_, hfind, name_of_capture? hparts.capture?_name⟩

/-- Where a name follows the only opening, the rule for procedures finds nothing. -/
theorem find?_procedure_eq_none (hfront : '(' ∉ front) (hopening : IsOpening opening)
    (hname : IsIdentifier name) (hkeyword : ¬ "define".toList <:+: name ++ rest) :
    procedure.pattern.find? (front ++ (opening ++ (name ++ rest))) = none := by
  refine find?_eq_none_iff.mpr fun place hplace =>
    List.eq_nil_iff_forall_not_mem.mpr fun way hway => ?_
  obtain ⟨_, _, _, hparts⟩ := mem_ways_procedure hway
  have hread := hparts.reads.1
  rw [List.append_assoc] at hread
  obtain rfl := eq_of_isOpening hfront hopening hkeyword hplace hparts.isOpening hread
  exact not_readsProcedure_of_rest hopening hname rfl hparts

/-- Without a body after the parameters, the rule for bindings finds nothing either. -/
theorem find?_binding_eq_none (hfront : '(' ∉ front) (hopening : IsOpening opening)
    (hname : IsIdentifier name) (hspace : IsGap space) (hflat : IsFlat inside)
    (hkeyword : ¬ "define".toList <:+: name ++ (space ++ (form inside ++ rest)))
    (hbody : ¬ HasBody rest) :
    binding.pattern.find? (front ++ (opening ++ (name ++ (space ++ (form inside ++ rest)))))
      = none := by
  refine find?_eq_none_iff.mpr fun place hplace =>
    List.eq_nil_iff_forall_not_mem.mpr fun way hway => ?_
  obtain ⟨_, _, _, _, _, hparts⟩ := mem_ways_binding hway
  obtain rfl := eq_of_isOpening hfront hopening hkeyword hplace hparts.isOpening hparts.rest_eq
  exact hbody (hparts.eq_of_rest hopening hname hspace hflat rfl).2.2

end IdentifierRule

/-! ## The whole line -/

open IdentifierRule

/-- **A line is recognised by a rule**, with a name and with parameters. -/
def RecognisedAs (line : Line) (rule : IdentifierRule) (name : List Char)
    (parameters : List String) : Prop :=
  ∃ recognition, classifyLine line = some recognition ∧ recognition.rule = rule
    ∧ recognition.name = String.ofList name ∧ lineParameters line = parameters

/-- **What a line with a definition is recognised as.** Before the opening of the definition the
line has no parenthesis.

With a form after the opening that has the name in front, the line defines a function whose
parameters are the other tokens of the form, whatever comes after the form. With the name after
the opening, and then a list of identifiers and dots, the line defines a function with these
parameters if the list has a body after it, and a variable otherwise, provided that the keyword
does not occur again. -/
theorem classifyLine_define {front opening name : List Char} (hfront : '(' ∉ front)
    (hopening : IsOpening opening) (hname : IsIdentifier name) :
    (∀ tail rest, IsFlat tail → (∀ c ∈ tail.head?, isWhiteSpace c = true) →
      RecognisedAs (front ++ (opening ++ (form (name ++ tail) ++ rest))) .procedure name
        (Recognition.parametersIn tail))
    ∧ ∀ space inside rest, IsGap space →
        (∀ token ∈ Text.tokens inside, IsIdentifier token ∨ token = ['.']) →
        ¬ "define".toList <:+: name ++ (space ++ (form inside ++ rest)) →
        (HasBody rest →
          RecognisedAs (front ++ (opening ++ (name ++ (space ++ (form inside ++ rest))))) .binding
            name (Recognition.parametersIn inside))
        ∧ (¬ HasBody rest →
          RecognisedAs (front ++ (opening ++ (name ++ (space ++ (form inside ++ rest))))) .value
            name []) := by
  refine ⟨fun tail rest hflat hhead => ?_, fun space inside rest hspace htokens hkeyword => ?_⟩
  · obtain ⟨found, hfind, hnamed, hparameters⟩ :=
      exists_readsProcedure hfront hopening hname hflat hhead rest
    have hline : classifyLine (front ++ (opening ++ (form (name ++ tail) ++ rest)))
        = some ⟨procedure, found⟩ := by
      simp [classifyLine, all, hfind]
    refine ⟨_, hline, rfl, hnamed, ?_⟩
    rw [lineParameters, hline]
    exact hparameters
  · have hlisted : listed.Accepts inside := accepts_listed_of_tokens htokens
    have hprocedure := find?_procedure_eq_none hfront hopening hname hkeyword
    refine ⟨fun hbody => ?_, fun hbody => ?_⟩
    · obtain ⟨found, hfind, hnamed, hparameters⟩ :=
        exists_readsBinding hfront hopening hname hspace hlisted hbody
      have hline : classifyLine (front ++ (opening ++ (name ++ (space ++ (form inside ++ rest)))))
          = some ⟨binding, found⟩ := by
        simp [classifyLine, all, hprocedure, hfind]
      refine ⟨_, hline, rfl, hnamed, ?_⟩
      rw [lineParameters, hline]
      exact hparameters
    · have hbinding := find?_binding_eq_none hfront hopening hname hspace
        (flat_of_accepts_listed hlisted) hkeyword hbody
      have hends : ∀ c ∈ (space ++ (form inside ++ rest)).head?, ¬ IsNameTail c := hspace.ends_name
      obtain ⟨found, hfind, hnamed⟩ := exists_readsValue hfront hopening hname hends
      have hline : classifyLine (front ++ (opening ++ (name ++ (space ++ (form inside ++ rest)))))
          = some ⟨value, found⟩ := by
        simp [classifyLine, all, hprocedure, hbinding, hfind]
      refine ⟨_, hline, rfl, hnamed, ?_⟩
      rw [lineParameters, hline]
      rfl

/-- The same list of parameters beside the name, after the name and before a body, and after the
name with nothing but white space before the parenthesis is closed. -/
theorem classifyLine_define_spiral :
    RecognisedAs "; ( define (spiral n . more) 1)".toList .procedure "spiral".toList ["n", "more"]
      ∧ RecognisedAs "; ( define spiral (n . more) 1)".toList .binding "spiral".toList ["n", "more"]
      ∧ RecognisedAs "; ( define spiral (n . more) )".toList .value "spiral".toList [] := by
  have hfront : '(' ∉ "; ".toList := by decide
  have hopening : IsOpening "( define ".toList :=
    ⟨[' '], [' '], rfl, List.forall_mem_singleton.mpr rfl, List.cons_ne_nil _ _,
      List.forall_mem_singleton.mpr rfl⟩
  have hname : IsIdentifier "spiral".toList := by decide
  have hspace : IsGap [' '] := ⟨List.cons_ne_nil _ _, List.forall_mem_singleton.mpr rfl⟩
  have htokens : ∀ token ∈ Text.tokens "n . more".toList, IsIdentifier token ∨ token = ['.'] := by
    decide +kernel
  obtain ⟨hbeside, hafter⟩ := classifyLine_define hfront hopening hname
  refine ⟨?_, ?_, ?_⟩
  · exact hbeside " n . more".toList " 1)".toList (by decide) fun c hc => by cases hc; rfl
  · exact (hafter [' '] "n . more".toList " 1)".toList hspace htokens (by decide +kernel)).1
      (by decide +kernel)
  · exact (hafter [' '] "n . more".toList " )".toList hspace htokens (by decide +kernel)).2
      (by decide +kernel)

end TurtleAssist
