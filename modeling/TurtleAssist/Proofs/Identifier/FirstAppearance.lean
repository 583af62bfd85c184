import Mathlib.Data.List.Induction
import TurtleAssist.Proofs.Identifier.Name
import TurtleAssist.Proofs.Text.Line

/-!
# Each name at its first appearance

The identifiers of a document can be told by going through its lines once. A line that captures
a name reports it, with the role that the rule gives it and the number of the line, unless the
catalog owns the name or an earlier line has captured it. That is `firstReport?`, and
`classify_eq_walk` says that nothing else is in the list of identifiers, and that nothing is
missing from it.

Two things have to be shown for it. A line that repeats an earlier one is not looked at, and it
would not have been reported anyway, since the earlier line captures the same name. And a name
that the catalog owns is left out before the names are compared, which makes no difference
either: it is left out wherever it appears.
-/

namespace TurtleAssist

open Text (Line)

/-- The names that a document cannot define: those of commands, keywords and variables. -/
def Catalog.ownNames (catalog : Catalog) : List String :=
  catalog.commands.map (·.name) ++ catalog.keywords.map (·.name)
    ++ catalog.configVariables.map (·.name)

theorem Catalog.containsName_iff {catalog : Catalog} {name : String} :
    catalog.containsName name = true ↔ name ∈ catalog.ownNames := by
  simp [containsName, ownNames, or_assoc]

/-! ## What a line captures -/

/-- The name that a line captures, with the rule that recognises the line. -/
def capturedName? (line : Line) : Option (IdentifierRule × String) := do
  let recognition ← classifyLine line
  let capture ← recognition.found.capture? "name"
  return (recognition.rule, String.ofList capture.text)

/-- A name that one of the lines captures. -/
def CapturedIn (lines : List Line) (name : String) : Prop :=
  ∃ line ∈ lines, (capturedName? line).map Prod.snd = some name

instance (lines : List Line) (name : String) : Decidable (CapturedIn lines name) :=
  inferInstanceAs (Decidable (∃ line ∈ lines, _))

/-- The identifier that a rule makes of a name and the numbered line on which it is captured. -/
def Identifier.ofRule (rule : IdentifierRule) (name : String) (numbered : Line × Nat) :
    Identifier where
  name
  role := rule.role
  description := rule.role.description
  args := if rule.role = .function then lineParameters numbered.1 else []
  line := numbered.2

/-- **What a line of a document reports**: the name that it captures, unless the catalog owns
it or an earlier line captures it too. -/
def firstReport? (catalog : Catalog) (lines : List Line) (numbered : Line × Nat) :
    Option Identifier :=
  match capturedName? numbered.1 with
  | none => none
  | some (rule, name) =>
    if name ∈ catalog.ownNames ∨ CapturedIn (lines.take numbered.2) name then none
    else some (.ofRule rule name numbered)

namespace Recognition

variable {line : Line} {recognition : Recognition}

/-- A line is recognised by one of the rules, whose match it is. -/
theorem find?_of_classifyLine (h : classifyLine line = some recognition) :
    recognition.rule ∈ IdentifierRule.all
      ∧ recognition.rule.pattern.find? line = some recognition.found := by
  obtain ⟨rule, hrule, hfound⟩ := List.exists_of_findSome?_eq_some h
  obtain ⟨found, hfind, rfl⟩ := Option.map_eq_some_iff.mp hfound
  exact ⟨hrule, hfind⟩

/-- Only the rules for functions capture parameters. -/
theorem bodies_args_of_not_function {rule : IdentifierRule} (hrule : rule ∈ IdentifierRule.all)
    (hrole : rule.role ≠ .function) : rule.pattern.bodies "args" = [] := by
  revert rule
  decide +kernel

/-- **The parameters of a recognised line** are those of the function that it defines. -/
theorem parameters_eq (h : classifyLine line = some recognition) :
    recognition.parameters
      = if recognition.rule.role = .function then lineParameters line else [] := by
  unfold lineParameters
  rw [h]
  by_cases hrole : recognition.rule.role = .function
  · simp [hrole]
  · obtain ⟨hrule, hfind⟩ := find?_of_classifyLine h
    have hnone : recognition.found.capture? "args" = none :=
      Pattern.capture?_eq_none_of_bodies hfind (bodies_args_of_not_function hrule hrole)
    simp [hrole, parameters, hnone]

end Recognition

/-- **A recognised line always captures a name.** -/
theorem capturedName?_eq (line : Line) :
    capturedName? line
      = (classifyLine line).map fun recognition => (recognition.rule, recognition.name) := by
  unfold capturedName?
  cases h : classifyLine line with
  | none => rfl
  | some recognition =>
    obtain ⟨hrule, hfind⟩ := Recognition.find?_of_classifyLine h
    obtain ⟨capture, hcapture⟩ :=
      Pattern.exists_capture?_of_find? (Recognition.captures_name hrule).1 hfind
    have hname : recognition.name = String.ofList capture.text := by
      unfold Recognition.name
      rw [hcapture]
    show (recognition.found.capture? "name").bind _ = some (recognition.rule, recognition.name)
    rw [hcapture, hname]
    rfl

/-- The identifier of a numbered line, by what the line captures. -/
theorem ofLine?_eq (catalog : Catalog) (numbered : Line × Nat) :
    Identifier.ofLine? catalog numbered
      = (capturedName? numbered.1).bind fun (rule, name) =>
          if name ∈ catalog.ownNames then none else some (.ofRule rule name numbered) := by
  rw [capturedName?_eq]
  unfold Identifier.ofLine?
  cases h : classifyLine numbered.1 with
  | none => rfl
  | some recognition =>
    show (if catalog.containsName recognition.name = true then none else some _)
      = if recognition.name ∈ catalog.ownNames then none else some _
    rw [if_congr Catalog.containsName_iff rfl rfl, Identifier.ofRule,
      Recognition.parameters_eq h]

/-! ## The walk over the lines -/

section Walk

variable {catalog : Catalog} {lines : List Line} {numbered : Line × Nat}
  {identifier : Identifier} {name : String}

theorem ofLine?_eq_some_iff :
    Identifier.ofLine? catalog numbered = some identifier
      ↔ ∃ rule name, capturedName? numbered.1 = some (rule, name) ∧ name ∉ catalog.ownNames
          ∧ identifier = .ofRule rule name numbered := by
  rw [ofLine?_eq, Option.bind_eq_some_iff, Prod.exists]
  refine exists_congr fun rule => exists_congr fun name => and_congr_right fun _ => ?_
  show (if name ∈ catalog.ownNames then none else some _) = some identifier ↔ _
  by_cases howned : name ∈ catalog.ownNames
  · simp [howned]
  · simp [howned, eq_comm]

/-- A line reports what it would report alone, unless an earlier line captures the name. -/
theorem firstReport?_eq (lines : List Line) (numbered : Line × Nat) :
    firstReport? catalog lines numbered
      = (Identifier.ofLine? catalog numbered).filter fun identifier =>
          decide ¬ CapturedIn (lines.take numbered.2) identifier.name := by
  rw [ofLine?_eq]
  unfold firstReport?
  cases capturedName? numbered.1 with
  | none => rfl
  | some captured =>
    obtain ⟨rule, name⟩ := captured
    show (if _ then none else some _) = Option.filter _ (if _ then none else some _)
    by_cases howned : name ∈ catalog.ownNames
    · simp [howned]
    · by_cases hcaptured : CapturedIn (lines.take numbered.2) name
      · simp [howned, hcaptured, Identifier.ofRule, Option.filter_some]
      · simp [howned, hcaptured, Identifier.ofRule, Option.filter_some]

/-- The names that lines report, each by itself. -/
theorem mem_map_ofLine?_iff :
    name ∈ (lines.zipIdx.filterMap (Identifier.ofLine? catalog)).map Identifier.name
      ↔ name ∉ catalog.ownNames ∧ CapturedIn lines name := by
  simp only [List.mem_map, List.mem_filterMap, ofLine?_eq_some_iff]
  constructor
  · rintro ⟨_, ⟨numbered, hmem, rule, name, hname, howned, rfl⟩, rfl⟩
    refine ⟨howned, numbered.1, ?_, ?_⟩
    · exact List.mem_of_getElem? (List.mem_zipIdx_iff_getElem?.mp hmem)
    · rw [hname]
      rfl
  · rintro ⟨howned, line, hline, hname⟩
    obtain ⟨⟨rule, _⟩, hcaptured, rfl⟩ := Option.map_eq_some_iff.mp hname
    obtain ⟨index, hindex⟩ := List.mem_iff_getElem?.mp hline
    exact ⟨_, ⟨(line, index), List.mem_zipIdx_iff_getElem?.mpr hindex, rule, _, hcaptured, howned,
      rfl⟩, rfl⟩

/-- **Of several lines with one name the first one reports it.** -/
theorem distinctBy_ofLine?_eq (catalog : Catalog) (lines : List Line) :
    distinctBy Identifier.name (lines.zipIdx.filterMap (Identifier.ofLine? catalog))
      = lines.zipIdx.filterMap (firstReport? catalog lines) := by
  induction lines using List.reverseRecOn with
  | nil => rfl
  | append_singleton lines line ih =>
    have hbefore : lines.zipIdx.filterMap (firstReport? catalog (lines ++ [line]))
        = lines.zipIdx.filterMap (firstReport? catalog lines) := by
      refine List.filterMap_congr fun numbered hmem => ?_
      have hle : numbered.2 ≤ lines.length := (List.snd_lt_of_mem_zipIdx hmem).le
      rw [firstReport?_eq, firstReport?_eq, List.take_append_of_le_length hle]
    rw [List.zipIdx_append, List.filterMap_append, List.filterMap_append, hbefore, ← ih,
      List.zipIdx_singleton, Nat.zero_add]
    cases hline : Identifier.ofLine? catalog (line, lines.length) with
    | none =>
      have hnone : firstReport? catalog (lines ++ [line]) (line, lines.length) = none := by
        rw [firstReport?_eq, hline]
        rfl
      rw [List.filterMap_cons_none hline, List.filterMap_cons_none hnone, List.filterMap_nil,
        List.filterMap_nil, List.append_nil, List.append_nil]
    | some identifier =>
      rw [List.filterMap_cons_some hline, List.filterMap_nil, distinctBy_concat]
      refine (List.append_right_inj _).mpr ?_
      -- the name is new to the list exactly if no earlier line captures it
      have howned : identifier.name ∉ catalog.ownNames := by
        obtain ⟨_, _, -, howned, rfl⟩ := ofLine?_eq_some_iff.mp hline
        exact howned
      have hlast : firstReport? catalog (lines ++ [line]) (line, lines.length)
          = if CapturedIn lines identifier.name then none else some identifier := by
        rw [firstReport?_eq, hline, List.take_left]
        by_cases hcaptured : CapturedIn lines identifier.name
        · simp [hcaptured, Option.filter_some]
        · simp [hcaptured, Option.filter_some]
      rw [List.contains_eq_mem, if_congr (decide_eq_true_iff.trans mem_map_ofLine?_iff) rfl rfl,
        if_congr (and_iff_right howned) rfl rfl, List.filterMap_cons, hlast, List.filterMap_nil]
      split <;> rfl

/-- **Looking at a repeated line again changes nothing.** -/
theorem unsignedIdentifiers_eq (catalog : Catalog) (lines : List Line) :
    unsignedIdentifiers catalog lines
      = distinctBy Identifier.name (lines.zipIdx.filterMap (Identifier.ofLine? catalog)) := by
  refine distinctBy_filterMap_distinctBy fun one two hline => ?_
  -- the name does not depend on the number of the line
  have hsame : one.1 = two.1 := String.ofList_injective hline
  rw [ofLine?_eq, ofLine?_eq, hsame]
  cases capturedName? two.1 with
  | none => rfl
  | some captured =>
    show Option.map _ (if _ then none else some _) = Option.map _ (if _ then none else some _)
    split <;> rfl

/-- What a line reports, and when. -/
theorem firstReport?_eq_some_iff :
    firstReport? catalog lines numbered = some identifier
      ↔ ∃ rule name, capturedName? numbered.1 = some (rule, name) ∧ name ∉ catalog.ownNames
          ∧ ¬ CapturedIn (lines.take numbered.2) name
          ∧ identifier = .ofRule rule name numbered := by
  rw [firstReport?_eq, Option.filter_eq_some_iff, ofLine?_eq_some_iff, decide_eq_true_iff]
  constructor
  · rintro ⟨⟨rule, name, hname, howned, rfl⟩, hnew⟩
    exact ⟨rule, name, hname, howned, hnew, rfl⟩
  · rintro ⟨rule, name, hname, howned, hnew, rfl⟩
    exact ⟨⟨rule, name, hname, howned, rfl⟩, hnew⟩

theorem pairwise_line_firstReport? (catalog : Catalog) (lines : List Line) :
    (lines.zipIdx.filterMap (firstReport? catalog lines)).Pairwise
      fun one two => one.line < two.line := by
  refine Text.pairwise_filterMap_zipIdx (fun numbered identifier hreport => ?_) lines
  obtain ⟨rule, name, -, -, -, rfl⟩ := firstReport?_eq_some_iff.mp hreport
  rfl

/-- **The first line that captures a name reports it**, unless the catalog owns the name. -/
theorem exists_firstReport?_of_capturedIn (howned : name ∉ catalog.ownNames)
    (hcaptured : CapturedIn lines name) :
    ∃ report ∈ lines.zipIdx.filterMap (firstReport? catalog lines), report.name = name
      ∧ (∃ first, lines[report.line]? = some first
          ∧ (capturedName? first).map Prod.snd = some name)
      ∧ ¬ CapturedIn (lines.take report.line) name := by
  obtain ⟨report, hreport, rfl⟩ := exists_mem_distinctBy_iff.mpr
    (List.mem_map.mp (mem_map_ofLine?_iff.mpr ⟨howned, hcaptured⟩))
  rw [distinctBy_ofLine?_eq] at hreport
  refine ⟨report, hreport, rfl, ?_⟩
  obtain ⟨numbered, hnumbered, hfirst⟩ := List.mem_filterMap.mp hreport
  obtain ⟨rule, name, hname, -, hnew, rfl⟩ := firstReport?_eq_some_iff.mp hfirst
  refine ⟨⟨numbered.1, List.mem_zipIdx_iff_getElem?.mp hnumbered, ?_⟩, hnew⟩
  rw [hname]
  rfl

/-! ## The identifiers of a document -/

/-- The identifier without its signature. -/
def Identifier.unsigned (identifier : Identifier) : Identifier :=
  { identifier with signature := none }

theorem Identifier.unsigned_sign (signatures : List Signature) (identifier : Identifier) :
    (identifier.sign signatures).unsigned = identifier.unsigned := by
  unfold Identifier.sign
  split <;> rfl

/-- The identifiers of a document, their signatures apart, are what its lines report. -/
theorem map_unsigned_classify (catalog : Catalog) (text : String) :
    (classify catalog text).map Identifier.unsigned
      = (Text.lines text.toList).zipIdx.filterMap
          (firstReport? catalog (Text.lines text.toList)) := by
  unfold classify
  simp only [List.map_map, Function.comp_def, Identifier.unsigned_sign]
  rw [unsignedIdentifiers_eq, distinctBy_ofLine?_eq]
  -- what a line reports has no signature
  refine (List.map_congr_left fun identifier hidentifier => ?_).trans (List.map_id _)
  obtain ⟨numbered, -, hreport⟩ := List.mem_filterMap.mp hidentifier
  obtain ⟨rule, name, -, -, -, rfl⟩ := firstReport?_eq_some_iff.mp hreport
  rfl

/-- An identifier of a document is made of what its line captures. -/
theorem exists_ofRule_of_mem_classify {text : String} (h : identifier ∈ classify catalog text) :
    ∃ line rule name, (Text.lines text.toList)[identifier.line]? = some line
      ∧ capturedName? line = some (rule, name)
      ∧ identifier.unsigned = .ofRule rule name (line, identifier.line) := by
  have hmem : identifier.unsigned ∈ (classify catalog text).map Identifier.unsigned :=
    List.mem_map_of_mem h
  rw [map_unsigned_classify] at hmem
  obtain ⟨⟨line, number⟩, hnumbered, hreport⟩ := List.mem_filterMap.mp hmem
  obtain ⟨rule, name, hname, -, -, heq⟩ := firstReport?_eq_some_iff.mp hreport
  obtain rfl : identifier.line = number := congrArg Identifier.line heq
  exact ⟨line, rule, name, List.mem_zipIdx_iff_getElem?.mp hnumbered, hname, heq⟩

/-- An identifier of a document is what its line is recognised as. -/
theorem exists_recognition_of_mem_classify {text : String}
    (h : identifier ∈ classify catalog text) :
    ∃ line recognition, (Text.lines text.toList)[identifier.line]? = some line
      ∧ classifyLine line = some recognition ∧ recognition.name = identifier.name
      ∧ recognition.rule.role = identifier.role := by
  obtain ⟨line, rule, name, hline, hname, heq⟩ := exists_ofRule_of_mem_classify h
  rw [capturedName?_eq, Option.map_eq_some_iff] at hname
  obtain ⟨recognition, hrecognition, hsame⟩ := hname
  obtain ⟨rfl, rfl⟩ := Prod.mk.inj hsame
  exact ⟨line, recognition, hline, hrecognition, (congrArg Identifier.name heq).symm,
    (congrArg Identifier.role heq).symm⟩

/-- Its parameters are those of the line. -/
theorem args_eq_of_mem_classify {text : String} {line : Line} {recognition : Recognition}
    (h : identifier ∈ classify catalog text)
    (hline : (Text.lines text.toList)[identifier.line]? = some line)
    (hrecognition : classifyLine line = some recognition) :
    identifier.args = recognition.parameters := by
  obtain ⟨line', rule, name, hline', hname, heq⟩ := exists_ofRule_of_mem_classify h
  obtain rfl : line = line' := Option.some.inj (hline.symm.trans hline')
  rw [capturedName?_eq, hrecognition] at hname
  obtain ⟨rfl, rfl⟩ := Prod.mk.inj (Option.some.inj hname)
  rw [Recognition.parameters_eq hrecognition]
  exact congrArg Identifier.args heq

/-- No name is reported twice. -/
theorem nodup_map_name_classify (catalog : Catalog) (text : String) :
    ((classify catalog text).map Identifier.name).Nodup := by
  have hnames : (classify catalog text).map Identifier.name
      = ((classify catalog text).map Identifier.unsigned).map Identifier.name := by
    rw [List.map_map]
    rfl
  rw [hnames, map_unsigned_classify, ← distinctBy_ofLine?_eq]
  exact nodup_map_distinctBy _ _

/-- **The identifiers of a document are the names of its lines, each at its first appearance.**
Signatures apart, the list is what the lines report in their order, and it would be the same if
repeated lines were looked at again. So no name occurs twice, the line numbers increase, no name
of the catalog is there, and every other name that a line captures is, with the number of the
first line that does. -/
theorem classify_eq_walk (catalog : Catalog) (text : String) :
    let lines := Text.lines text.toList
    let found := classify catalog text
    found.map Identifier.unsigned = lines.zipIdx.filterMap (firstReport? catalog lines)
      ∧ found = (distinctBy Identifier.name
            (lines.zipIdx.filterMap (Identifier.ofLine? catalog))).map
          (Identifier.sign (lines.filterMap Signature.ofLine?))
      ∧ (found.map Identifier.name).Nodup
      ∧ found.Pairwise (fun one two => one.line < two.line)
      ∧ (∀ identifier ∈ found, identifier.name ∉ catalog.ownNames)
      ∧ ∀ index line rule name, lines[index]? = some line →
          capturedName? line = some (rule, name) → name ∉ catalog.ownNames →
            ∃ identifier ∈ found, identifier.name = name ∧ identifier.line ≤ index
              ∧ (∃ first, lines[identifier.line]? = some first
                  ∧ (capturedName? first).map Prod.snd = some name)
              ∧ ¬ CapturedIn (lines.take identifier.line) name := by
  intro lines found
  have hwalk : found.map Identifier.unsigned
      = lines.zipIdx.filterMap (firstReport? catalog lines) := map_unsigned_classify catalog text
  have hfound : found = (distinctBy Identifier.name
        (lines.zipIdx.filterMap (Identifier.ofLine? catalog))).map
      (Identifier.sign (lines.filterMap Signature.ofLine?)) := by
    rw [← unsignedIdentifiers_eq]
    rfl
  refine ⟨hwalk, hfound, nodup_map_name_classify catalog text, ?_, ?_, ?_⟩
  · have hpairwise := pairwise_line_firstReport? catalog lines
    rw [← hwalk, List.pairwise_map] at hpairwise
    exact hpairwise
  · intro identifier hidentifier
    have hmem : identifier.unsigned ∈ lines.zipIdx.filterMap (firstReport? catalog lines) :=
      hwalk ▸ List.mem_map_of_mem hidentifier
    obtain ⟨numbered, -, hreport⟩ := List.mem_filterMap.mp hmem
    obtain ⟨rule, name, -, howned, -, heq⟩ := firstReport?_eq_some_iff.mp hreport
    have hname : identifier.name = name := congrArg Identifier.name heq
    rwa [hname]
  · intro index line rule name hline hname howned
    have hcaptures : (capturedName? line).map Prod.snd = some name := by rw [hname]; rfl
    obtain ⟨report, hreport, hreported, hfirst, hnew⟩ := exists_firstReport?_of_capturedIn howned
      ⟨line, List.mem_of_getElem? hline, hcaptures⟩
    rw [← hwalk] at hreport
    obtain ⟨identifier, hidentifier, rfl⟩ := List.mem_map.mp hreport
    refine ⟨identifier, hidentifier, hreported, ?_, hfirst, hnew⟩
    -- otherwise the line at hand would be an earlier one with the name
    by_contra hlt
    refine hnew ⟨line, List.mem_of_getElem? (i := index) ?_, hcaptures⟩
    show (lines.take identifier.line)[index]? = some line
    rw [List.getElem?_take_of_lt (by omega), hline]

end Walk

end TurtleAssist
