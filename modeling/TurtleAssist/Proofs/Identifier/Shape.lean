import Mathlib.Data.List.Basic
import TurtleAssist.Proofs.Diagnostic.Color

/-!
# What the names of each role look like

Names are compared as texts, whatever they stand for. When the identifiers of a document are
collected, a color could therefore hide a variable of the same name, or a vector a color. That
this never happens is a matter of what the rules capture. A definition captures an identifier, the
rule for colors a form with three numbers, and the rule for vectors two integers
(`Role.Shapes`).

The three shapes are told apart by their first character, a letter, a parenthesis, or a digit or
minus sign. So no text has two of them, and lines with the same name have the same role, or both
are definitions: `name_shapes`. Between a variable and a function there is no such difference.
-/

namespace TurtleAssist

open Text (IsGap Line form)

variable {name : List Char}

/-! ## Three shapes -/

/-- **What stands for a color**: a form that holds three numbers, with any white space around
them. -/
def IsColor (name : List Char) : Prop :=
  ∃ inside, name = form inside ∧ (∀ token ∈ Text.tokens inside, IsNumber token)
    ∧ (Text.tokens inside).length = 3

/-- **What stands for a vector**: two integers with white space between them. -/
def IsVector (name : List Char) : Prop :=
  ∃ first space second, name = first ++ (space ++ second)
    ∧ IsInteger first ∧ IsGap space ∧ IsInteger second

/-- A color begins with a parenthesis, where an integer has a digit or a minus sign. -/
theorem IsColor.not_isVector (h : IsColor name) : ¬ IsVector name := by
  obtain ⟨inside, rfl, -⟩ := h
  rintro ⟨first, space, second, hname, hfirst, -⟩
  obtain ⟨c, rest, rfl⟩ := List.exists_cons_of_ne_nil hfirst.ne_nil
  obtain ⟨rfl, -⟩ := List.cons.inj hname
  exact absurd (hfirst.chars '(' List.mem_cons_self) (by decide +kernel)

/-- **The shape of the names of a role.** -/
def Role.Shapes : Role → List Char → Prop
  | .variable | .function => IsIdentifier
  | .color => IsColor
  | .vector => IsVector

theorem Role.eq_color_or_vector {role : Role} (h : ¬ role.IsDefinition) :
    role = .color ∨ role = .vector := by
  cases role <;> simp_all [IsDefinition]

/-- Among the roles that define nothing the shape decides. -/
theorem Role.eq_of_shapes {role role' : Role} (hdata : ¬ role.IsDefinition)
    (hdata' : ¬ role'.IsDefinition) (h : role.Shapes name) (h' : role'.Shapes name) :
    role = role' := by
  rcases eq_color_or_vector hdata with rfl | rfl <;>
    rcases eq_color_or_vector hdata' with rfl | rfl
  · rfl
  · exact absurd h' h.not_isVector
  · exact absurd h h'.not_isVector
  · rfl

/-! ## What the rules capture -/

namespace Pattern

theorem accepts_color : (opened (threeNumbers ++ text ")")).Accepts name ↔ IsColor name :=
  accepts_form.trans <| exists_congr fun _ => and_congr_right fun _ => accepts_threeNumbers

theorem accepts_vector : (integer ++ gap ++ integer).Accepts name ↔ IsVector name := by
  constructor
  · rintro ⟨_, second, rfl, ⟨first, space, rfl, hfirst, hspace⟩, hsecond⟩
    exact ⟨first, space, second, List.append_assoc _ _ _, accepts_integer.mp hfirst,
      accepts_gap.mp hspace, accepts_integer.mp hsecond⟩
  · rintro ⟨first, space, second, rfl, hfirst, hspace, hsecond⟩
    exact ⟨first ++ space, second, (List.append_assoc _ _ _).symm, ⟨first, space, rfl,
      accepts_integer.mpr hfirst, accepts_gap.mpr hspace⟩, accepts_integer.mpr hsecond⟩

end Pattern

open Pattern in
/-- The pattern by which the rules of a role capture a name. -/
def Role.namePattern : Role → Pattern
  | .variable | .function => identifier
  | .color => opened (threeNumbers ++ text ")")
  | .vector => integer ++ gap ++ integer

/-- It accepts the names that have the shape. -/
theorem Role.accepts_namePattern {role : Role} :
    role.namePattern.Accepts name ↔ role.Shapes name := by
  cases role
  case color => exact Pattern.accepts_color
  case vector => exact Pattern.accepts_vector
  all_goals exact Pattern.accepts_identifier

/-- All rules of a role capture names by the same pattern. -/
theorem Recognition.eq_namePattern_of_mem_nameBodies {rule : IdentifierRule}
    (h : rule ∈ IdentifierRule.all) :
    ∀ body ∈ nameBodies rule, body = rule.role.namePattern := by
  revert rule
  decide +kernel

/-! ## Recognised lines -/

section Lines

variable {line line' : Line} {recognition other : Recognition}

/-- **A recognised line captures a name, and the name has the shape of its role.** -/
theorem Recognition.exists_capture?_shapes (h : classifyLine line = some recognition) :
    ∃ capture, recognition.found.capture? "name" = some capture
      ∧ recognition.name = String.ofList capture.text
      ∧ recognition.rule.role.Shapes capture.text := by
  obtain ⟨hrule, hfind⟩ := find?_of_classifyLine h
  obtain ⟨halways, hplaceless⟩ := captures_name hrule
  obtain ⟨capture, hcapture⟩ := Pattern.exists_capture?_of_find? halways hfind
  obtain ⟨body, hbody, haccepts⟩ := Pattern.accepts_of_capture? hfind hcapture hplaceless
  obtain rfl := eq_namePattern_of_mem_nameBodies hrule body hbody
  refine ⟨capture, hcapture, ?_, Role.accepts_namePattern.mp haccepts⟩
  unfold name
  rw [hcapture]

theorem Recognition.shapes_name (h : classifyLine line = some recognition) :
    recognition.rule.role.Shapes recognition.name.toList := by
  obtain ⟨capture, -, hname, hshapes⟩ := exists_capture?_shapes h
  rwa [hname, String.toList_ofList]

/-- **Lines with one name have one role**, or else both are definitions. -/
theorem Recognition.role_eq_of_name_eq (h : classifyLine line = some recognition)
    (h' : classifyLine line' = some other) (hname : recognition.name = other.name) :
    recognition.rule.role = other.rule.role
      ∨ recognition.rule.role.IsDefinition ∧ other.rule.role.IsDefinition := by
  have hsame : recognition.rule.role.IsDefinition ↔ other.rule.role.IsDefinition := by
    rw [← isIdentifier_name_iff h, hname, isIdentifier_name_iff h']
  by_cases hdefinition : recognition.rule.role.IsDefinition
  · exact Or.inr ⟨hdefinition, hsame.mp hdefinition⟩
  · refine Or.inl (Role.eq_of_shapes hdefinition (mt hsame.mpr hdefinition) (shapes_name h) ?_)
    rw [hname]
    exact shapes_name h'

/-- **A name shows its role.** A recognised line captures a name, and all of it has the shape that
belongs to its role: an identifier for variables and functions, a form with three numbers for
colors, two integers for vectors. So another line, of whatever document, can have the same name
only if it has the same role or if both are definitions. -/
theorem name_shapes (h : classifyLine line = some recognition) :
    (∃ capture, recognition.found.capture? "name" = some capture
        ∧ recognition.name = String.ofList capture.text
        ∧ recognition.rule.role.Shapes capture.text)
      ∧ ∀ line' other, classifyLine line' = some other → recognition.name = other.name →
          recognition.rule.role = other.rule.role
            ∨ recognition.rule.role.IsDefinition ∧ other.rule.role.IsDefinition :=
  ⟨Recognition.exists_capture?_shapes h,
    fun _ _ h' hname => Recognition.role_eq_of_name_eq h h' hname⟩

/-- A color and a vector. What has the name of the first is a color, on whatever line, and what
has the name of the second is a vector. -/
theorem name_shapes_move_to :
    let color := "(pen ( 0 0\t255))".toList
    let vector := "(move-to 10 -20)".toList
    (∃ recognition, classifyLine color = some recognition
        ∧ recognition.name = "( 0 0\t255)" ∧ IsColor recognition.name.toList
        ∧ ∀ line' other, classifyLine line' = some other → other.name = "( 0 0\t255)" →
            other.rule.role = .color)
      ∧ ∃ recognition, classifyLine vector = some recognition
        ∧ recognition.name = "10 -20" ∧ IsVector recognition.name.toList
        ∧ ∀ line' other, classifyLine line' = some other → other.name = "10 -20" →
            other.rule.role = .vector := by
  intro color vector
  have hdata : ∀ (line : Line) (name : String) (role : Role), (classifyLine line).map
        (fun recognition => (recognition.name, recognition.rule.role)) = some (name, role) →
      ¬ role.IsDefinition → ∃ recognition, classifyLine line = some recognition
        ∧ recognition.name = name ∧ role.Shapes recognition.name.toList
        ∧ ∀ line' other, classifyLine line' = some other → other.name = name →
            other.rule.role = role := by
    intro line name role hline hrole
    obtain ⟨recognition, hrecognition, heq⟩ := Option.map_eq_some_iff.mp hline
    obtain ⟨rfl, rfl⟩ := Prod.mk.inj heq
    obtain ⟨⟨capture, -, hname, hshapes⟩, hothers⟩ := name_shapes hrecognition
    refine ⟨recognition, hrecognition, rfl, ?_, fun line' other hother hsame => ?_⟩
    · rwa [hname, String.toList_ofList]
    · exact ((hothers line' other hother hsame.symm).resolve_right fun h => hrole h.1).symm
  exact ⟨hdata color _ .color (by decide +kernel) (by decide),
    hdata vector _ .vector (by decide +kernel) (by decide)⟩

end Lines

end TurtleAssist
