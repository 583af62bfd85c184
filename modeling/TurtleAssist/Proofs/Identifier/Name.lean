import Mathlib.Data.List.Basic
import TurtleAssist.Identifier.Basic
import TurtleAssist.Proofs.Distinct
import TurtleAssist.Proofs.Pattern.Capture
import TurtleAssist.Proofs.Text.Token

/-!
# The names that a document defines

Of several lines that give the same name the first one counts, and it decides the role. A
name could therefore cease to be the name of a variable when a line is added in front. It
does not, because names of different kinds never coincide. Variables and functions are
named by identifiers, and what stands for a color or a vector is no identifier
(`isIdentifier_name_iff`).

Which names the variables and functions of a document have depends therefore on its lines
one by one, and not on their order or their number (`exists_mem_classify_iff`).
-/

namespace TurtleAssist

open Text (Line)

/-! ## The names of one line -/

/-- A role that gives a name a meaning in the language. -/
def Role.IsDefinition (role : Role) : Prop :=
  role = .variable ∨ role = .function

instance (role : Role) : Decidable role.IsDefinition :=
  inferInstanceAs (Decidable (_ ∨ _))

namespace Recognition

open Pattern

/-- What a rule captures as a name. -/
def nameBodies (rule : IdentifierRule) : List Pattern :=
  rule.pattern.bodies "name"

/-- Every rule captures a name, by a pattern that does not ask where it stands. -/
theorem captures_name {rule : IdentifierRule} (h : rule ∈ IdentifierRule.all) :
    rule.pattern.alwaysCaptures "name" = true
      ∧ ∀ body ∈ nameBodies rule, body.isPlaceless = true := by
  revert rule
  decide +kernel

/-- A rule captures an identifier if it describes a definition, and otherwise the data of a
color or a vector. -/
theorem nameBodies_of_mem {rule : IdentifierRule} (h : rule ∈ IdentifierRule.all) :
    nameBodies rule = [identifier] ∧ rule.role.IsDefinition
      ∨ (∀ body ∈ nameBodies rule,
            body = opened (blanks ++ digits ++ gap ++ digits ++ gap ++ digits ++ blanks ++ text ")")
              ∨ body = integer ++ gap ++ integer)
          ∧ ¬ rule.role.IsDefinition := by
  revert rule
  decide +kernel

/-- The data of a color or a vector is no identifier, since it does not begin with a letter. -/
theorem not_isIdentifier_of_accepts {body : Pattern} {token : List Char}
    (hbody :
      body = opened (blanks ++ digits ++ gap ++ digits ++ gap ++ digits ++ blanks ++ text ")")
        ∨ body = integer ++ gap ++ integer)
    (haccepts : body.Accepts token) : ¬ IsIdentifier token := by
  intro hidentifier
  rcases hbody with rfl | rfl
  · obtain ⟨_, _, rfl, rfl, -⟩ := haccepts
    exact absurd hidentifier.1 (by decide)
  · obtain ⟨_, last, rfl, ⟨first, space, rfl, hfirst, -⟩, -⟩ := haccepts
    rw [List.append_assoc] at hidentifier
    exact hidentifier.not_isInteger_of_append (accepts_integer.mp hfirst)

/-- **The name of a line is an identifier exactly if the line defines a variable or a
function.** -/
theorem isIdentifier_name_iff {line : Line} {recognition : Recognition}
    (h : classifyLine line = some recognition) :
    IsIdentifier recognition.name.toList ↔ recognition.rule.role.IsDefinition := by
  obtain ⟨rule, hrule, hfound⟩ := List.exists_of_findSome?_eq_some h
  obtain ⟨found, hfind, rfl⟩ := Option.map_eq_some_iff.mp hfound
  obtain ⟨halways, hplaceless⟩ := captures_name hrule
  obtain ⟨capture, hcapture⟩ := exists_capture?_of_find? halways hfind
  obtain ⟨body, hbody, haccepts⟩ := accepts_of_capture? hfind hcapture hplaceless
  have hname : (Recognition.mk rule found).name.toList = capture.text := by
    rw [name, hcapture]
    exact String.toList_ofList
  rw [hname]
  rcases nameBodies_of_mem hrule with ⟨hbodies, hdefinition⟩ | ⟨hbodies, hdata⟩
  · have hidentifier : body ∈ [identifier] := hbodies ▸ hbody
    obtain rfl := List.mem_singleton.mp hidentifier
    exact iff_of_true (accepts_identifier.mp haccepts) hdefinition
  · exact iff_of_false (not_isIdentifier_of_accepts (hbodies body hbody) haccepts) hdata

end Recognition

/-! ## The names of a document -/

/-- A line defines a variable or a function of the name, and the catalog does not own it. -/
def DefinesName (catalog : Catalog) (line : Line) (name : String) : Prop :=
  catalog.containsName name = false ∧ ∃ recognition, classifyLine line = some recognition
    ∧ recognition.rule.role.IsDefinition ∧ recognition.name = name

section Documents

variable {catalog : Catalog} {numbered : Line × Nat} {identifier : Identifier} {name : String}

/-- The identifier of a line has the name and the role by which the line is recognised. -/
theorem recognition_of_ofLine? (h : Identifier.ofLine? catalog numbered = some identifier) :
    catalog.containsName identifier.name = false
      ∧ ∃ recognition, classifyLine numbered.1 = some recognition
          ∧ identifier.role = recognition.rule.role ∧ identifier.name = recognition.name := by
  obtain ⟨recognition, hrecognition, hname⟩ := Option.bind_eq_some_iff.mp h
  by_cases howned : catalog.containsName recognition.name = true
  · rw [if_pos howned] at hname
    cases hname
  · rw [if_neg howned] at hname
    cases hname
    exact ⟨Bool.eq_false_iff.mpr howned, recognition, hrecognition, rfl, rfl⟩

/-- A recognised line has an identifier, unless the catalog owns the name. -/
theorem exists_ofLine? {recognition : Recognition}
    (h : classifyLine numbered.1 = some recognition)
    (howned : catalog.containsName recognition.name = false) :
    ∃ identifier, Identifier.ofLine? catalog numbered = some identifier
      ∧ identifier.name = recognition.name := by
  refine ⟨⟨recognition.name, recognition.rule.role, recognition.rule.role.description,
    recognition.parameters, numbered.2, none⟩, ?_, rfl⟩
  unfold Identifier.ofLine?
  rw [h]
  show (if catalog.containsName recognition.name = true then none else some _) = _
  rw [howned]
  rfl

theorem sign_name_role (signatures : List Signature) (identifier : Identifier) :
    (identifier.sign signatures).name = identifier.name
      ∧ (identifier.sign signatures).role = identifier.role := by
  unfold Identifier.sign
  by_cases h : identifier.role = .function
  · rw [if_pos h]
    exact ⟨rfl, rfl⟩
  · rw [if_neg h]
    exact ⟨rfl, rfl⟩

/-- **The variables and functions of a document have the names that its lines define.** -/
theorem exists_mem_classify_iff {text : String} :
    (∃ identifier ∈ classify catalog text, identifier.role.IsDefinition ∧ identifier.name = name)
      ↔ ∃ line ∈ Text.lines text.toList, DefinesName catalog line name := by
  simp only [classify, List.mem_map, exists_exists_and_eq_and, sign_name_role]
  generalize Text.lines text.toList = lines
  have hrecognised : ∀ identifier ∈ (distinctBy (fun numbered => String.ofList numbered.1)
      lines.zipIdx).filterMap (Identifier.ofLine? catalog),
        ∃ line ∈ lines, ∃ recognition, classifyLine line = some recognition
          ∧ catalog.containsName identifier.name = false
          ∧ identifier.role = recognition.rule.role ∧ identifier.name = recognition.name := by
    intro identifier hidentifier
    obtain ⟨numbered, hnumbered, hline⟩ := List.mem_filterMap.mp hidentifier
    obtain ⟨howned, recognition, hrecognition, hrole, hname⟩ := recognition_of_ofLine? hline
    have hmem := List.mem_zipIdx_iff_getElem?.mp (mem_of_mem_distinctBy hnumbered)
    exact ⟨numbered.1, List.mem_of_getElem? hmem, recognition, hrecognition, howned, hrole, hname⟩
  constructor
  · rintro ⟨identifier, hidentifier, hrole, rfl⟩
    obtain ⟨line, hline, recognition, hrecognition, howned, hsame, hname⟩ :=
      hrecognised identifier (mem_of_mem_distinctBy hidentifier)
    exact ⟨line, hline, howned, recognition, hrecognition, hsame ▸ hrole, hname.symm⟩
  · rintro ⟨line, hline, howned, recognition, hrecognition, hrole, rfl⟩
    -- the line, or an equal one before it
    obtain ⟨index, hindex⟩ := List.mem_iff_getElem?.mp hline
    have hkept : ∃ numbered ∈ distinctBy (fun numbered => String.ofList numbered.1) lines.zipIdx,
        String.ofList numbered.1 = String.ofList line :=
      exists_mem_distinctBy_iff.mpr ⟨(line, index), List.mem_zipIdx_iff_getElem?.mpr hindex, rfl⟩
    obtain ⟨numbered, hnumbered, hsame⟩ := hkept
    obtain rfl : numbered.1 = line := String.ofList_injective hsame
    obtain ⟨identifier, hidentifier, hname⟩ := exists_ofLine? hrecognition howned
    -- the identifier, or one before it with the same name
    obtain ⟨first, hfirst, hsame⟩ := exists_mem_distinctBy_iff.mpr
      ⟨identifier, List.mem_filterMap.mpr ⟨numbered, hnumbered, hidentifier⟩, hname⟩
    refine ⟨first, hfirst, ?_, hsame⟩
    obtain ⟨line', -, recognition', hrecognition', -, hrole', hname'⟩ :=
      hrecognised first (mem_of_mem_distinctBy hfirst)
    rw [hrole', ← Recognition.isIdentifier_name_iff hrecognition', ← hname', hsame]
    exact (Recognition.isIdentifier_name_iff hrecognition).mpr hrole

/-- Where no line and no name occurs twice, nothing is dropped. -/
theorem classify_of_nodup {text : String} {lines : List Line}
    (hlines : Text.lines text.toList = lines) (hnodup : lines.Nodup)
    (hnames : ((lines.zipIdx.filterMap (Identifier.ofLine? catalog)).map (·.name)).Nodup) :
    classify catalog text = (lines.zipIdx.filterMap (Identifier.ofLine? catalog)).map
      (Identifier.sign (lines.filterMap Signature.ofLine?)) := by
  have hkeys : (lines.zipIdx.map fun numbered => String.ofList numbered.1).Nodup := by
    rw [show (fun numbered : Line × Nat => String.ofList numbered.1)
        = String.ofList ∘ Prod.fst from rfl, ← List.map_map, List.zipIdx_map_fst]
    exact hnodup.map fun _ _ => String.ofList_injective
  simp only [classify, unsignedIdentifiers]
  rw [hlines, distinctBy_eq_self hkeys, distinctBy_eq_self hnames]

end Documents

end TurtleAssist
