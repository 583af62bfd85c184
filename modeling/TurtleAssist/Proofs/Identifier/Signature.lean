import Mathlib.Data.List.Basic
import TurtleAssist.Proofs.Identifier.FirstAppearance
import TurtleAssist.Proofs.Pattern.Notation
import TurtleAssist.Proofs.Pattern.Preferred

/-!
# Which signature a function has

A signature stands in a comment, and the pattern for it is loose: anything may come between the
semicolon and the marker, so a line may have several semicolons, several markers and several names
to choose from. Here the choice is written down without the pattern. A line is a signature comment
for a name with types if its first semicolon is followed, perhaps after other text, by a marker
that goes on with the name and the types, and no later marker does (`Signature.IsComment`).

The pattern is loose in one place only, the text before the marker, and there it prefers the longest
one. Behind the marker nothing can be read in two ways, since each part ends where the next one
begins, and the types go on to the end of the line (`Signature.Continues.unique`). So a line is a
comment for one name with one list of types, and `Signature.ofLine?_eq_some_iff` says that these are
found. What a document makes of it is `classify_signature`.
-/

namespace TurtleAssist

open Text (IsGap Line)
open Unicode (isWhiteSpace)

namespace Signature

open Pattern Way

variable {line : Line} {rest name types name' types' filler : List Char} {place : Place} {way : Way}

/-! ## Comments -/

/-- What stands in front of a signature. -/
def marker : List Char :=
  "@signature".toList

/-- A character with which types begin. -/
def StartsTypes (c : Char) : Prop :=
  c.isAlpha = true ∨ c = '[' ∨ c = ']'

/-- **The text after a marker goes on with a name and its types**: a hyphen, the name and the types,
with white space in front of each. The types are the rest of the text. -/
structure Continues (rest name types : List Char) : Prop where
  parts : ∃ first second third, rest = first ++ '-' :: (second ++ (name ++ (third ++ types)))
    ∧ IsGap first ∧ IsGap second ∧ IsGap third
  isIdentifier : IsIdentifier name
  starts : ∃ c ∈ types.head?, StartsTypes c

/-- **A line is a signature comment** for a name with types: after its first semicolon, they follow
the last marker that goes on with some name and types. -/
def IsComment (line : Line) (name types : List Char) : Prop :=
  ∃ before filler rest, line = before ++ ';' :: (filler ++ (marker ++ rest)) ∧ ';' ∉ before
    ∧ Continues rest name types
    ∧ ∀ filler' rest', filler ++ (marker ++ rest) = filler' ++ (marker ++ rest') →
        filler.length < filler'.length → ∀ name' types', ¬ Continues rest' name' types'

theorem StartsTypes.not_isWhiteSpace {c : Char} (h : StartsTypes c) : isWhiteSpace c = false := by
  rcases h with h | rfl | rfl
  · exact Unicode.isWhiteSpace_eq_false_of_isAlpha h
  · decide
  · decide

theorem Continues.head_types (h : Continues rest name types) :
    ∀ c ∈ types.head?, isWhiteSpace c = false := by
  obtain ⟨c, hc, hstarts⟩ := h.starts
  intro x hx
  obtain rfl : c = x := Option.some.inj (hc.symm.trans hx)
  exact hstarts.not_isWhiteSpace

/-- **The text after a marker goes on in one way only.** -/
theorem Continues.unique (h : Continues rest name types) (h' : Continues rest name' types') :
    name = name' ∧ types = types' := by
  obtain ⟨first, second, third, hrest, hfirst, hsecond, hthird⟩ := h.parts
  obtain ⟨first', second', third', hrest', hfirst', hsecond', hthird'⟩ := h'.parts
  have hhyphen : ∀ text : List Char, ∀ c ∈ ('-' :: text).head?, isWhiteSpace c = false := by
    intro text c hc
    cases hc
    decide
  obtain ⟨-, hnext⟩ :=
    hfirst.append_inj hfirst' (hhyphen _) (hhyphen _) (hrest.symm.trans hrest')
  obtain ⟨-, hnamed⟩ := hsecond.append_inj hsecond' h.isIdentifier.head_append
    h'.isIdentifier.head_append (List.cons.inj hnext).2
  obtain ⟨rfl, htyped⟩ :=
    h.isIdentifier.append_inj h'.isIdentifier hthird.ends_name hthird'.ends_name hnamed
  obtain ⟨-, rfl⟩ := hthird.append_inj hthird' h.head_types h'.head_types htyped
  exact ⟨rfl, rfl⟩

/-- **A line is a comment for one name with one list of types.** -/
theorem IsComment.unique (h : IsComment line name types) (h' : IsComment line name' types') :
    name = name' ∧ types = types' := by
  obtain ⟨before, filler, rest, rfl, hbefore, hcontinues, hlast⟩ := h
  obtain ⟨before', filler', rest', hline, hbefore', hcontinues', hlast'⟩ := h'
  have hnone : ∀ {text : List Char}, ';' ∉ text → ∀ c ∈ text, (c != ';') = true :=
    fun htext c hc => bne_iff_ne.mpr fun heq => htext (heq ▸ hc)
  obtain ⟨-, -, hsame⟩ := Text.eq_of_run_append (hnone hbefore) (hnone hbefore') rfl rfl hline
  -- neither of the two markers comes after the other
  have hlength : filler.length = filler'.length := by
    refine Nat.le_antisymm (Nat.not_lt.mp fun hlt => ?_) (Nat.not_lt.mp fun hlt => ?_)
    · exact hlast' filler rest hsame.symm hlt name types hcontinues
    · exact hlast filler' rest' hsame hlt name' types' hcontinues'
  obtain ⟨-, hmarked⟩ := List.append_inj hsame hlength
  exact hcontinues.unique (List.append_cancel_left hmarked ▸ hcontinues')

/-! ## The pattern -/

/-- The types: they begin with a letter or a bracket and go on to the end of the line. -/
def typesPattern : Pattern :=
  .one (.oneOf [.range 'a' 'z', .range 'A' 'Z', .single '[', .single ']'])
    ++ .run .inLine false true

/-- The pattern from the marker on. -/
def marked : Pattern :=
  Pattern.text "@signature" ++ (gap ++ (Pattern.text "-" ++ (gap ++
    (.capture "name" identifier ++ (gap ++ .capture "types" typesPattern)))))

/-- How the parts of the pattern are bracketed makes no difference. -/
theorem ways_pattern :
    Signature.pattern.ways = (Pattern.text ";" ++ (.run .inLine false true ++ marked)).ways := by
  unfold Signature.pattern marked typesPattern
  simp only [ways_append, compose_assoc]

theorem contains_starts {c : Char} :
    (CharSet.oneOf [.range 'a' 'z', .range 'A' 'Z', .single '[', .single ']']).contains c = true
      ↔ StartsTypes c := by
  have hletter := CharSet.contains_letter (c := c)
  simp only [CharSet.letter, CharSet.contains, List.any_cons, List.any_nil, Bool.or_false,
    Bool.or_eq_true] at hletter
  simp only [CharSet.contains, List.any_cons, List.any_nil, Bool.or_false, Bool.or_eq_true,
    SetItem.contains_single, StartsTypes, ← hletter, or_assoc]

theorem contains_inLine (h : '\n' ∉ line) : ∀ c ∈ line, CharSet.inLine.contains c = true :=
  fun _ hc => bne_iff_ne.mpr fun heq => h (heq ▸ hc)

theorem accepts_types (h : ∃ c ∈ types.head?, StartsTypes c) (hfeed : '\n' ∉ types) :
    typesPattern.Accepts types := by
  obtain ⟨c, hc, hstarts⟩ := h
  obtain ⟨others, rfl⟩ := List.head?_eq_some_iff.mp hc
  exact ⟨[c], others, rfl, ⟨c, contains_starts.mpr hstarts, rfl⟩,
    fun hfalse => Bool.noConfusion hfalse,
    contains_inLine (List.not_mem_of_not_mem_cons hfeed)⟩

theorem accepts_marked (h : Continues rest name types) (hfeed : '\n' ∉ rest) :
    marked.Accepts (marker ++ rest) := by
  obtain ⟨first, second, third, rfl, hfirst, hsecond, hthird⟩ := h.parts
  have htypes : '\n' ∉ types := fun hmem => hfeed (by simp [hmem])
  exact ⟨marker, _, rfl, rfl, first, _, rfl, accepts_gap.mpr hfirst, ['-'], _, rfl, rfl,
    second, _, rfl, accepts_gap.mpr hsecond, name, _, rfl, accepts_identifier.mpr h.isIdentifier,
    third, types, rfl, accepts_gap.mpr hthird, accepts_types h.starts htypes⟩

/-- On the way that it prefers, the pattern from the marker on captures a name and its types, and
the types go on to the end of the line. -/
theorem prefers_marked (h : Prefers marked.ways place way) (hfeed : '\n' ∉ place.rest) :
    ∃ rest name types, place.rest = marker ++ rest ∧ Continues rest name types
      ∧ ∃ one two, way.captures = [one, two] ∧ one.label = "name" ∧ one.text = name
        ∧ two.label = "types" ∧ two.text = types := by
  have htypes : typesPattern.IsSilent := ⟨rfl, fun _ => rfl⟩
  obtain ⟨_, start, hreads, rfl, h₁⟩ := (isSilent_text "@signature").prefers_before h
  obtain ⟨first, place₁, hreads₁, hfirst, h₂⟩ := isSilent_gap.prefers_before h₁
  obtain ⟨_, place₂, hreads₂, rfl, h₃⟩ := (isSilent_text "-").prefers_before h₂
  obtain ⟨second, place₃, hreads₃, hsecond, h₄⟩ := isSilent_gap.prefers_before h₃
  obtain ⟨named, hnamed, last, hlast, rfl⟩ := h₄.exists_compose
  obtain ⟨hname, name, hreads₄, hnameAccepts⟩ := isSilent_identifier.mem_ways_capture hnamed
  obtain ⟨third, place₅, hreads₅, hthird, h₅⟩ := isSilent_gap.prefers_before hlast
  obtain ⟨htyped, types, hreads₆, htypesAccepts⟩ := htypes.mem_ways_capture h₅.mem
  obtain ⟨inner, hinner, rfl⟩ := exists_prefers_of_capture h₅
  have hrest : start.rest
      = first ++ '-' :: (second ++ (name ++ (third ++ (types ++ inner.stop.rest)))) := by
    rw [hreads₁.1, hreads₂.1, hreads₃.1, hreads₄.1, hreads₅.1, hreads₆.1]
    rfl
  -- the run at the end stops before a line feed, and there is none
  have hover : inner.stop.rest = [] := by
    refine List.head?_eq_none_iff.mp (Option.eq_none_iff_forall_not_mem.mpr fun c hc => ?_)
    obtain ⟨others, hothers⟩ := List.head?_eq_some_iff.mp hc
    have hmem : c ∈ place.rest := by
      rw [hreads.1, hrest, hothers]
      simp
    have hends := hinner.ends_one_run c hc
    rw [contains_inLine hfeed c hmem] at hends
    cases hends
  rw [hover, List.append_nil] at hrest
  obtain ⟨_, others, rfl, ⟨c, hc, rfl⟩, -⟩ := htypesAccepts
  refine ⟨start.rest, name, [c] ++ others, hreads.1, ⟨⟨first, second, third, hrest,
    accepts_gap.mp hfirst, accepts_gap.mp hsecond, accepts_gap.mp hthird⟩,
    accepts_identifier.mp hnameAccepts, c, rfl, contains_starts.mp hc⟩,
    ⟨"name", place₃, named.stop.offset⟩, ⟨"types", place₅, inner.stop.offset⟩, ?_, rfl,
    Capture.text_eq _ hreads₄, rfl, Capture.text_eq _ hreads₆⟩
  rw [hname, htyped]
  rfl

/-! ## The comment of a line -/

theorem accepts_comment (h : Continues rest name types)
    (hfeed : '\n' ∉ filler ++ (marker ++ rest)) :
    (Pattern.text ";" ++ (.run .inLine false true ++ marked)).Accepts
      (';' :: (filler ++ (marker ++ rest))) := by
  have hfiller : '\n' ∉ filler := fun hmem => hfeed (List.mem_append_left _ hmem)
  have hrest : '\n' ∉ rest :=
    fun hmem => hfeed (List.mem_append_right _ (List.mem_append_right _ hmem))
  exact ⟨[';'], _, rfl, rfl, filler, marker ++ rest, rfl,
    ⟨fun hfalse => Bool.noConfusion hfalse, contains_inLine hfiller⟩, accepts_marked h hrest⟩

/-- **On the way that it prefers from a semicolon**, the pattern reads up to the last marker that goes
on with a name and types, and captures these. -/
theorem prefers_pattern (h : Prefers Signature.pattern.ways place way)
    (hfeed : '\n' ∉ place.rest) :
    ∃ filler rest name types, place.rest = ';' :: (filler ++ (marker ++ rest))
      ∧ Continues rest name types
      ∧ (∀ filler' rest', filler ++ (marker ++ rest) = filler' ++ (marker ++ rest') →
          filler.length < filler'.length → ∀ name' types', ¬ Continues rest' name' types')
      ∧ ∃ one two, way.captures = [one, two] ∧ one.label = "name" ∧ one.text = name
          ∧ two.label = "types" ∧ two.text = types := by
  rw [ways_pattern] at h
  obtain ⟨_, start, hreads, rfl, hrun⟩ := (isSilent_text ";").prefers_before h
  obtain ⟨filler, middle, hreadsFiller, -, hmarked, hlongest⟩ := hrun.exists_run
  have hrest : place.rest = ';' :: (filler ++ middle.rest) := by
    rw [hreads.1, hreadsFiller.1]
    rfl
  rw [hrest] at hfeed
  have hline : '\n' ∉ filler ++ middle.rest := List.not_mem_of_not_mem_cons hfeed
  obtain ⟨rest, name, types, hmiddle, hcontinues, hcaptured⟩ :=
    prefers_marked hmarked fun hmem => hline (List.mem_append_right _ hmem)
  rw [hmiddle] at hrest hline
  refine ⟨filler, rest, name, types, hrest, hcontinues, ?_, hcaptured⟩
  intro filler' rest' hsame hlt name' types' hcontinues'
  -- a later marker that goes on would have been reached by the run
  have hfurther : start.Reads filler' ⟨start.offset + filler'.length, marker ++ rest'⟩ := by
    refine ⟨?_, rfl⟩
    rw [hreadsFiller.1, hmiddle, hsame]
  rw [hsame] at hline
  have hnone := hlongest filler' _ hfurther
    (contains_inLine fun hmem => hline (List.mem_append_left _ hmem)) hlt
  exact (ways_eq_nil_iff rfl).mp hnone _ [] (List.append_nil _).symm (accepts_marked hcontinues'
    fun hmem => hline (List.mem_append_right _ (List.mem_append_right _ hmem)))

/-- **What is found in a line is a signature comment.** -/
theorem exists_isComment_of_find? {found : Match} (hfeed : '\n' ∉ line)
    (h : Signature.pattern.find? line = some found) :
    ∃ name types, IsComment line name types
      ∧ ofLine? line = some ⟨String.ofList name, String.ofList (Text.trim types)⟩ := by
  obtain ⟨place, hplace, hmatch, hearlier⟩ := find?_eq_some_iff.mp h
  obtain ⟨way, hprefers, rfl⟩ := Option.map_eq_some_iff.mp hmatch
  obtain ⟨before, hline, hoffset⟩ := mem_places_iff.mp hplace
  obtain ⟨filler, rest, name, types, hrest, hcontinues, hlast, one, two, hcaptures, hname, rfl,
    htypes, rfl⟩ := prefers_pattern hprefers fun hmem =>
      hfeed (hline ▸ List.mem_append_right before hmem)
  rw [hrest] at hline
  refine ⟨one.text, two.text, ⟨before, filler, rest, hline, fun hmem => ?_, hcontinues, hlast⟩, ?_⟩
  · -- the pattern would fit at an earlier semicolon, with all from there before the marker
    obtain ⟨front, back, rfl⟩ := List.append_of_mem hmem
    have hline' : line = front ++ ';' :: ((back ++ ';' :: filler) ++ (marker ++ rest)) := by
      rw [hline]
      simp
    have hlt : front.length < place.offset := by
      rw [hoffset, List.length_append, List.length_cons]
      exact Nat.lt_add_of_pos_right (Nat.succ_pos _)
    have hnone := hearlier ⟨front.length, _⟩ (mem_places_iff.mpr ⟨front, hline', rfl⟩) hlt
    rw [ways_pattern] at hnone
    refine (ways_eq_nil_iff rfl).mp hnone _ [] (List.append_nil _).symm
      (accepts_comment hcontinues fun hmem => ?_)
    rw [hline'] at hfeed
    exact hfeed (List.mem_append_right _ (List.mem_cons_of_mem _ hmem))
  · unfold ofLine?
    rw [h]
    simp [Match.capture?, hcaptures, hname, htypes]

/-- **The signature comment of a line** is found, and nothing else is. -/
theorem ofLine?_eq_some_iff {signature : Signature} (hfeed : '\n' ∉ line) :
    ofLine? line = some signature
      ↔ ∃ name types, IsComment line name types
          ∧ signature = ⟨String.ofList name, String.ofList (Text.trim types)⟩ := by
  constructor
  · intro h
    obtain ⟨found, hfind, -⟩ := Option.bind_eq_some_iff.mp h
    obtain ⟨name, types, hcomment, hsome⟩ := exists_isComment_of_find? hfeed hfind
    exact ⟨name, types, hcomment, Option.some.inj (h.symm.trans hsome)⟩
  · rintro ⟨name, types, hcomment, rfl⟩
    have hfound : Signature.pattern.find? line ≠ none := by
      obtain ⟨before, filler, rest, rfl, -, hcontinues, -⟩ := hcomment
      have hmarked : '\n' ∉ filler ++ (marker ++ rest) :=
        fun hmem => hfeed (List.mem_append_right _ (List.mem_cons_of_mem _ hmem))
      rw [find?_congr ways_pattern, ← Option.isSome_iff_ne_none]
      exact (isIn_iff_accepts rfl).mpr ⟨before, _, [], by simp, accepts_comment hcontinues hmarked⟩
    obtain ⟨found, hfind⟩ := Option.ne_none_iff_exists'.mp hfound
    obtain ⟨name', types', hcomment', hsome⟩ := exists_isComment_of_find? hfeed hfind
    obtain ⟨rfl, rfl⟩ := hcomment.unique hcomment'
    exact hsome

/-- Of two markers the last one counts. -/
example : ofLine? "(f) ; see; @signature - f int @signature - g [int] ".toList
    = some ⟨"g", "[int]"⟩ := by
  decide +kernel

/-- A line gives the signature of a name if it is a comment for the name. -/
theorem any_ofLine?_iff {name : String} (hfeed : '\n' ∉ line) :
    (ofLine? line).any (·.name == name) = true ↔ ∃ types, IsComment line name.toList types := by
  rw [Option.any_eq_true]
  constructor
  · rintro ⟨signature, hsome, hname⟩
    obtain ⟨name', types, hcomment, rfl⟩ := (ofLine?_eq_some_iff hfeed).mp hsome
    obtain rfl : String.ofList name' = name := beq_iff_eq.mp hname
    exact ⟨types, String.toList_ofList.symm ▸ hcomment⟩
  · rintro ⟨types, hcomment⟩
    exact ⟨_, (ofLine?_eq_some_iff hfeed).mpr ⟨_, types, hcomment, rfl⟩,
      beq_iff_eq.mpr String.ofList_toList⟩

/-- **The signature of a name** is that of the first line that is a comment for it. -/
theorem find?_filterMap_ofLine?_iff {lines : List Line} {signature : Signature} {name : String}
    (hfeed : ∀ line ∈ lines, '\n' ∉ line) :
    (lines.filterMap ofLine?).find? (·.name == name) = some signature
      ↔ ∃ before line after types, lines = before ++ line :: after
          ∧ IsComment line name.toList types
          ∧ (∀ earlier ∈ before, ∀ types', ¬ IsComment earlier name.toList types')
          ∧ signature = ⟨name, String.ofList (Text.trim types)⟩ := by
  rw [List.find?_filterMap, Option.bind_eq_some_iff]
  simp only [List.find?_eq_some_iff_append]
  constructor
  · rintro ⟨line, ⟨hline, before, after, rfl, hbefore⟩, hsome⟩
    have hfeedLine := hfeed line (List.mem_append_right _ List.mem_cons_self)
    obtain ⟨types, hcomment⟩ := (any_ofLine?_iff hfeedLine).mp hline
    refine ⟨before, line, after, types, rfl, hcomment, fun earlier hearlier types' hcomment' => ?_,
      ?_⟩
    · have hfeedEarlier := hfeed earlier (List.mem_append_left _ hearlier)
      have hnot := hbefore earlier hearlier
      rw [(any_ofLine?_iff hfeedEarlier).mpr ⟨types', hcomment'⟩] at hnot
      cases hnot
    · obtain ⟨name', types', hcomment', rfl⟩ := (ofLine?_eq_some_iff hfeedLine).mp hsome
      obtain ⟨rfl, rfl⟩ := hcomment.unique hcomment'
      rw [String.ofList_toList]
  · rintro ⟨before, line, after, types, rfl, hcomment, hbefore, rfl⟩
    have hfeedLine := hfeed line (List.mem_append_right _ List.mem_cons_self)
    refine ⟨line, ⟨(any_ofLine?_iff hfeedLine).mpr ⟨types, hcomment⟩, before, after, rfl,
      fun earlier hearlier => ?_⟩, ?_⟩
    · rw [Bool.not_eq_true', Bool.eq_false_iff, ne_eq,
        any_ofLine?_iff (hfeed earlier (List.mem_append_left _ hearlier))]
      rintro ⟨types', hcomment'⟩
      exact hbefore earlier hearlier types' hcomment'
    · refine (ofLine?_eq_some_iff hfeedLine).mpr ⟨name.toList, types, hcomment, ?_⟩
      rw [String.ofList_toList]

/-- A name has no signature if no line is a comment for it. -/
theorem find?_filterMap_ofLine?_eq_none_iff {lines : List Line} {name : String}
    (hfeed : ∀ line ∈ lines, '\n' ∉ line) :
    (lines.filterMap ofLine?).find? (·.name == name) = none
      ↔ ∀ line ∈ lines, ∀ types, ¬ IsComment line name.toList types := by
  rw [List.find?_eq_none]
  constructor
  · intro hnone line hline types hcomment
    have hsome := (ofLine?_eq_some_iff (hfeed line hline)).mpr ⟨_, types, hcomment, rfl⟩
    exact hnone _ (List.mem_filterMap.mpr ⟨line, hline, hsome⟩)
      (beq_iff_eq.mpr String.ofList_toList)
  · intro hnone signature hmem hname
    obtain ⟨line, hline, hsome⟩ := List.mem_filterMap.mp hmem
    obtain ⟨types, hcomment⟩ :=
      (any_ofLine?_iff (hfeed line hline)).mp (Option.any_eq_true _ _ |>.mpr ⟨_, hsome, hname⟩)
    exact hnone line hline types hcomment

end Signature

/-! ## The signatures of a document -/

section Documents

open Signature (IsComment)

variable {catalog : Catalog}

/-- Before the signatures are attached, no identifier has one. -/
theorem unsigned_of_mem_unsignedIdentifiers {lines : List Line} {identifier : Identifier}
    (h : identifier ∈ unsignedIdentifiers catalog lines) : identifier.unsigned = identifier := by
  rw [unsignedIdentifiers_eq] at h
  obtain ⟨numbered, -, hline⟩ := List.mem_filterMap.mp (mem_of_mem_distinctBy h)
  obtain ⟨rule, name, -, -, rfl⟩ := ofLine?_eq_some_iff.mp hline
  rfl

/-- Without their signatures, the identifiers are those from before. -/
theorem map_unsigned_sign {lines : List Line} (signatures : List Signature) :
    ((unsignedIdentifiers catalog lines).map (Identifier.sign signatures)).map Identifier.unsigned
      = unsignedIdentifiers catalog lines := by
  rw [List.map_map]
  refine (List.map_congr_left fun identifier hidentifier => ?_).trans (List.map_id _)
  exact (Identifier.unsigned_sign signatures identifier).trans
    (unsigned_of_mem_unsignedIdentifiers hidentifier)

/-- **The signatures of a document.** Attaching them changes nothing else. A function has the
signature of the first line that is a signature comment for its name, wherever the line stands, and
none if there is no such line; the signature is the name and the types, without white space at
their ends. Other identifiers have none. -/
theorem classify_signature (catalog : Catalog) (text : String) :
    let lines := Text.lines text.toList
    let found := classify catalog text
    found.map Identifier.unsigned = unsignedIdentifiers catalog lines
      ∧ (∀ identifier ∈ found, identifier.role ≠ .function → identifier.signature = none)
      ∧ ∀ identifier ∈ found, identifier.role = .function →
        (∀ signature, identifier.signature = some signature
          ↔ ∃ before line after types, lines = before ++ line :: after
              ∧ IsComment line identifier.name.toList types
              ∧ (∀ earlier ∈ before, ∀ types', ¬ IsComment earlier identifier.name.toList types')
              ∧ signature = identifier.name ++ " " ++ String.ofList (Text.trim types))
        ∧ (identifier.signature = none
          ↔ ∀ line ∈ lines, ∀ types, ¬ IsComment line identifier.name.toList types) := by
  intro lines found
  have hfeed : ∀ line ∈ lines, '\n' ∉ line := Text.line_feed_not_mem_lines text.toList
  refine ⟨map_unsigned_sign _, fun identifier hidentifier hrole => ?_,
    fun identifier hidentifier hrole => ?_⟩
  · obtain ⟨original, horiginal, rfl⟩ := List.mem_map.mp hidentifier
    rw [(sign_name_role _ original).2] at hrole
    rw [Identifier.sign, if_neg hrole]
    exact (congrArg Identifier.signature (unsigned_of_mem_unsignedIdentifiers horiginal)).symm
  · obtain ⟨original, -, rfl⟩ := List.mem_map.mp hidentifier
    rw [(sign_name_role _ original).2] at hrole
    rw [Identifier.sign, if_pos hrole]
    refine ⟨fun signature => ?_, ?_⟩
    · show Option.map _ _ = some signature ↔ _
      rw [Option.map_eq_some_iff]
      constructor
      · rintro ⟨attached, hattached, rfl⟩
        obtain ⟨before, line, after, types, hsplit, hcomment, hfirst, rfl⟩ :=
          (Signature.find?_filterMap_ofLine?_iff hfeed).mp hattached
        exact ⟨before, line, after, types, hsplit, hcomment, hfirst, rfl⟩
      · rintro ⟨before, line, after, types, hsplit, hcomment, hfirst, rfl⟩
        exact ⟨_, (Signature.find?_filterMap_ofLine?_iff hfeed).mpr
          ⟨before, line, after, types, hsplit, hcomment, hfirst, rfl⟩, rfl⟩
    · show Option.map _ _ = none ↔ _
      rw [Option.map_eq_none_iff]
      exact Signature.find?_filterMap_ofLine?_eq_none_iff hfeed

end Documents

end TurtleAssist
