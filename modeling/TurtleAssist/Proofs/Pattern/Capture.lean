import Mathlib.Data.List.Basic
import TurtleAssist.Proofs.Pattern.Language

/-!
# What a match captures

A capture of a match was made by one of the capture nodes of the pattern with
its label, and what stands under it is accepted by the body of that node:
`accepts_of_capture?`. Whether a capture is made at all is read off the tree
too: a pattern that captures a label on all its ways (`alwaysCaptures`) has it in
every match (`exists_capture?_of_find?`).
-/

namespace TurtleAssist.Pattern

open Way

/-- The bodies that a pattern captures under a label. -/
def bodies (label : String) : Pattern → List Pattern
  | .seq first second => first.bodies label ++ second.bodies label
  | .alt preferred other => preferred.bodies label ++ other.bodies label
  | .group body => body.bodies label
  | .capture label' body => (if label' = label then [body] else []) ++ body.bodies label
  | .times body _ => body.bodies label
  | _ => []

/-- Whether every way through a pattern makes a capture under a label. -/
def alwaysCaptures (label : String) : Pattern → Bool
  | .seq first second => first.alwaysCaptures label || second.alwaysCaptures label
  | .alt preferred other => preferred.alwaysCaptures label && other.alwaysCaptures label
  | .group body => body.alwaysCaptures label
  | .capture label' body => label' == label || body.alwaysCaptures label
  | .times body quantifier => decide (0 < quantifier.least) && body.alwaysCaptures label
  | _ => false

/-- What a capture covers is the text between its two places. -/
theorem Capture.text_eq (label : String) {place stop : Place} {text : List Char}
    (h : place.Reads text stop) : Capture.text ⟨label, place, stop.offset⟩ = text := by
  show place.rest.take (stop.offset - place.offset) = text
  rw [h.2, Nat.add_sub_cancel_left, h.1, List.take_left]

/-! ## Properties of all captures -/

namespace Way

variable {first second step : Place → List Way} {P : Capture → Prop}

/-- **All captures on the ways of a step have a property.** -/
def CapturesAre (step : Place → List Way) (P : Capture → Prop) : Prop :=
  ∀ place, ∀ way ∈ step place, ∀ capture ∈ way.captures, P capture

theorem capturesAre_stay : CapturesAre (fun place => [stay place]) P := by
  intro place way hway
  cases List.mem_singleton.mp hway
  exact List.forall_mem_nil _

theorem CapturesAre.compose (h₁ : CapturesAre first P) (h₂ : CapturesAre second P) :
    CapturesAre (compose first second) P := by
  intro place way hway
  obtain ⟨begun, hbegun, last, hlast, rfl⟩ := mem_compose.mp hway
  exact List.forall_mem_append.mpr ⟨h₁ place begun hbegun, h₂ begun.stop last hlast⟩

theorem CapturesAre.append (h₁ : CapturesAre first P) (h₂ : CapturesAre second P) :
    CapturesAre (fun place => first place ++ second place) P := by
  intro place way hway
  exact (List.mem_append.mp hway).elim (h₁ place way) (h₂ place way)

theorem CapturesAre.exactly (h : CapturesAre step P) (n : Nat) :
    CapturesAre (exactly step n) P := by
  induction n with
  | zero => exact capturesAre_stay
  | succ n ih => exact h.compose ih

theorem CapturesAre.upTo (h : CapturesAre step P) (n : Nat) : CapturesAre (upTo step n) P := by
  induction n with
  | zero => exact capturesAre_stay
  | succ n ih => exact (h.compose ih).append capturesAre_stay

theorem CapturesAre.unbounded (h : CapturesAre step P) (n : Nat) :
    CapturesAre (unbounded step n) P := by
  induction n with
  | zero => exact capturesAre_stay
  | succ n ih =>
    intro place way hway
    obtain ⟨begun, hbegun, -, last, hlast, rfl⟩ | rfl := mem_unbounded_succ.mp hway
    · exact List.forall_mem_append.mpr ⟨h place begun hbegun, ih begun.stop last hlast⟩
    · exact List.forall_mem_nil _

theorem CapturesAre.times (h : CapturesAre step P) (quantifier : Quantifier) :
    CapturesAre
      (Way.compose (Way.exactly step quantifier.least) (beyondLeast step quantifier)) P := by
  refine (h.exactly _).compose fun place => ?_
  unfold beyondLeast
  cases quantifier.most with
  | some most => exact h.upTo _ place
  | none => exact h.unbounded _ place

theorem CapturesAre.mono {Q : Capture → Prop} (h : CapturesAre step P)
    (himp : ∀ capture, P capture → Q capture) : CapturesAre step Q :=
  fun place way hway capture hcapture => himp capture (h place way hway capture hcapture)

end Way

/-- One of the bodies reads what the capture covers. -/
def Capture.IsOf (capture : Capture) (bodies : List Pattern) : Prop :=
  ∃ body ∈ bodies, ∃ stop, Leads body.ways capture.start stop ∧ stop.offset = capture.stop

/-- **Every capture is of a body under its label.** -/
theorem capturesAre_bodies (pattern : Pattern) :
    CapturesAre pattern.ways fun capture => capture.IsOf (pattern.bodies capture.label) := by
  induction pattern with
  | empty => exact capturesAre_stay
  | literal spelling text =>
    intro place way hway
    rw [(mem_ways_literal.mp hway).2]
    exact List.forall_mem_nil _
  | one set =>
    intro place way hway
    obtain ⟨-, rfl⟩ := mem_ways_one.mp hway
    exact List.forall_mem_nil _
  | run set nonempty greedy =>
    intro place way hway
    obtain ⟨-, -, -, hnone, -⟩ := mem_ways_run.mp hway
    rw [hnone]
    exact List.forall_mem_nil _
  | textStart =>
    intro place way hway
    obtain ⟨-, rfl⟩ := mem_ways_textStart.mp hway
    exact List.forall_mem_nil _
  | textEnd =>
    intro place way hway
    obtain ⟨-, rfl⟩ := mem_ways_textEnd.mp hway
    exact List.forall_mem_nil _
  | seq first second ih₁ ih₂ =>
    refine CapturesAre.compose (ih₁.mono ?_) (ih₂.mono ?_)
    · exact fun capture ⟨body, hbody, h⟩ => ⟨body, List.mem_append_left _ hbody, h⟩
    · exact fun capture ⟨body, hbody, h⟩ => ⟨body, List.mem_append_right _ hbody, h⟩
  | alt preferred other ih₁ ih₂ =>
    refine CapturesAre.append (ih₁.mono ?_) (ih₂.mono ?_)
    · exact fun capture ⟨body, hbody, h⟩ => ⟨body, List.mem_append_left _ hbody, h⟩
    · exact fun capture ⟨body, hbody, h⟩ => ⟨body, List.mem_append_right _ hbody, h⟩
  | group body ih => exact ih
  | capture label body ih =>
    intro place way hway
    obtain ⟨inner, hinner, rfl⟩ := mem_ways_capture.mp hway
    refine List.forall_mem_cons.mpr ⟨⟨body, ?_, inner.stop, ⟨inner, hinner, rfl⟩, rfl⟩, ?_⟩
    · rw [bodies, if_pos rfl]
      exact List.mem_append_left _ (List.mem_singleton_self body)
    · intro capture hcapture
      obtain ⟨body', hbody', h⟩ := ih place inner hinner capture hcapture
      exact ⟨body', List.mem_append_right _ hbody', h⟩
  | times body quantifier ih => exact CapturesAre.times ih quantifier

/-- A pattern that captures a label on all its ways has it on each of them. -/
theorem exists_mem_captures {label : String} {pattern : Pattern}
    (h : pattern.alwaysCaptures label = true) :
    ∀ place, ∀ way ∈ pattern.ways place, ∃ capture ∈ way.captures, capture.label = label := by
  induction pattern with
  | seq first second ih₁ ih₂ =>
    intro place way hway
    obtain ⟨begun, hbegun, last, hlast, rfl⟩ := mem_compose.mp hway
    rcases Bool.or_eq_true_iff.mp h with hfirst | hsecond
    · obtain ⟨capture, hcapture, hlabel⟩ := ih₁ hfirst place begun hbegun
      exact ⟨capture, List.mem_append_left _ hcapture, hlabel⟩
    · obtain ⟨capture, hcapture, hlabel⟩ := ih₂ hsecond begun.stop last hlast
      exact ⟨capture, List.mem_append_right _ hcapture, hlabel⟩
  | alt preferred other ih₁ ih₂ =>
    intro place way hway
    obtain ⟨hpreferred, hother⟩ := Bool.and_eq_true_iff.mp h
    exact (List.mem_append.mp hway).elim (ih₁ hpreferred place way) (ih₂ hother place way)
  | group body ih => exact ih h
  | capture label' body ih =>
    intro place way hway
    obtain ⟨inner, hinner, rfl⟩ := mem_ways_capture.mp hway
    rcases Bool.or_eq_true_iff.mp h with hlabel | hbody
    · exact ⟨_, List.mem_cons_self, beq_iff_eq.mp hlabel⟩
    · obtain ⟨capture, hcapture, hlabel⟩ := ih hbody place inner hinner
      exact ⟨capture, List.mem_cons_of_mem _ hcapture, hlabel⟩
  | times body quantifier ih =>
    intro place way hway
    obtain ⟨hleast, hbody⟩ := Bool.and_eq_true_iff.mp h
    obtain ⟨n, hn⟩ := Nat.exists_eq_succ_of_ne_zero (Nat.ne_of_gt (of_decide_eq_true hleast))
    obtain ⟨begun, hbegun, last, -, rfl⟩ := mem_compose.mp hway
    rw [hn] at hbegun
    obtain ⟨round, hround, further, -, rfl⟩ := mem_compose.mp hbegun
    obtain ⟨capture, hcapture, hlabel⟩ := ih hbody place round hround
    exact ⟨capture, List.mem_append_left _ (List.mem_append_left _ hcapture), hlabel⟩
  | _ => cases h

/-! ## Patterns without captures -/

/-- **A silent pattern** makes no captures and does not ask where it stands. -/
structure IsSilent (pattern : Pattern) : Prop where
  isPlaceless : pattern.isPlaceless = true
  bodies_eq_nil : ∀ label, pattern.bodies label = []

namespace IsSilent

variable {first second body : Pattern} {place : Place} {way : Way}

/-- Its ways differ in the text that they read and in nothing else. -/
theorem reads_of_mem (h : body.IsSilent) (hway : way ∈ body.ways place) :
    way.captures = [] ∧ ∃ text, place.Reads text way.stop ∧ body.Accepts text := by
  refine ⟨List.eq_nil_iff_forall_not_mem.mpr fun capture hcapture => ?_,
    (leads_iff_accepts h.isPlaceless).mp ⟨way, hway, rfl⟩⟩
  obtain ⟨body', hbody', -⟩ := capturesAre_bodies body place way hway capture hcapture
  rw [h.bodies_eq_nil] at hbody'
  cases hbody'

/-- After a silent pattern a way goes on as a way of the pattern that comes next. -/
theorem mem_ways_before (h : first.IsSilent) (hway : way ∈ (first ++ second).ways place) :
    ∃ text middle, place.Reads text middle ∧ first.Accepts text ∧ way ∈ second.ways middle := by
  obtain ⟨begun, hbegun, last, hlast, rfl⟩ := mem_compose.mp hway
  obtain ⟨hnone, text, hreads, haccepts⟩ := h.reads_of_mem hbegun
  rw [hnone]
  exact ⟨text, begun.stop, hreads, haccepts, hlast⟩

/-- Before a silent pattern a way has made all its captures. -/
theorem mem_ways_after (h : second.IsSilent) (hway : way ∈ (first ++ second).ways place) :
    ∃ begun ∈ first.ways place, way.captures = begun.captures
      ∧ ∃ text, begun.stop.Reads text way.stop ∧ second.Accepts text := by
  obtain ⟨begun, hbegun, last, hlast, rfl⟩ := mem_compose.mp hway
  obtain ⟨hnone, text, hreads, haccepts⟩ := h.reads_of_mem hlast
  refine ⟨begun, hbegun, ?_, text, hreads, haccepts⟩
  rw [hnone, List.append_nil]

/-- A silent body is captured as a whole. -/
theorem mem_ways_capture {label : String} (h : body.IsSilent)
    (hway : way ∈ (capture label body).ways place) :
    way.captures = [⟨label, place, way.stop.offset⟩]
      ∧ ∃ text, place.Reads text way.stop ∧ body.Accepts text := by
  obtain ⟨inner, hinner, rfl⟩ := Pattern.mem_ways_capture.mp hway
  obtain ⟨hnone, hreads⟩ := h.reads_of_mem hinner
  exact ⟨by rw [hnone], hreads⟩

end IsSilent

theorem isSilent_text (s : String) : (text s).IsSilent := ⟨rfl, fun _ => rfl⟩

theorem isSilent_one (set : CharSet) : (one set).IsSilent := ⟨rfl, fun _ => rfl⟩

theorem isSilent_run (set : CharSet) (nonempty greedy : Bool) :
    (run set nonempty greedy).IsSilent :=
  ⟨rfl, fun _ => rfl⟩

theorem isSilent_gap : gap.IsSilent := isSilent_run _ _ _

theorem isSilent_blanks : blanks.IsSilent := isSilent_run _ _ _

theorem isSilent_identifier : identifier.IsSilent := ⟨rfl, fun _ => rfl⟩

/-- What is optional is there or not. -/
theorem mem_ways_optional {body : Pattern} {place : Place} {way : Way} :
    way ∈ (body.times .optional).ways place ↔ way ∈ body.ways place ∨ way = stay place := by
  have hways : (body.times .optional).ways place = body.ways place ++ [stay place] := by
    simp [ways, beyondLeast, Quantifier.least, Quantifier.most, Way.exactly, Way.upTo, compose,
      onward, stay]
  rw [hways, List.mem_append, List.mem_singleton]

/-! ## Captures of a match -/

variable {pattern : Pattern} {line : List Char} {found : Match} {label : String}
  {capture : Capture}

theorem mem_of_capture? (h : found.capture? label = some capture) :
    capture ∈ found.captures ∧ capture.label = label := by
  obtain ⟨hmem, hlabel⟩ := List.mem_filter.mp (List.mem_of_getLast? h)
  exact ⟨hmem, beq_iff_eq.mp hlabel⟩

/-- A match has a capture under each label that its pattern always captures. -/
theorem exists_capture?_of_find? (halways : pattern.alwaysCaptures label = true)
    (hfound : pattern.find? line = some found) :
    ∃ capture, found.capture? label = some capture := by
  obtain ⟨place, -, hmatch, -⟩ := find?_eq_some_iff.mp hfound
  obtain ⟨way, hway, rfl⟩ := exists_way_of_matchAt? hmatch
  obtain ⟨capture, hcapture, hlabel⟩ := exists_mem_captures halways place way hway
  have hmem : capture ∈ way.captures.filter (·.label == label) :=
    List.mem_filter.mpr ⟨hcapture, beq_iff_eq.mpr hlabel⟩
  exact ⟨_, List.getLast?_eq_some_getLast (List.ne_nil_of_mem hmem)⟩

/-- **What stands under a capture is accepted** by one of the bodies with its label. -/
theorem accepts_of_capture? (hfound : pattern.find? line = some found)
    (hcapture : found.capture? label = some capture)
    (hplaceless : ∀ body ∈ pattern.bodies label, body.isPlaceless = true) :
    ∃ body ∈ pattern.bodies label, body.Accepts capture.text := by
  obtain ⟨place, -, hmatch, -⟩ := find?_eq_some_iff.mp hfound
  obtain ⟨way, hway, rfl⟩ := exists_way_of_matchAt? hmatch
  obtain ⟨hmem, rfl⟩ := mem_of_capture? hcapture
  obtain ⟨body, hbody, stop, hleads, hstop⟩ :=
    capturesAre_bodies pattern place way hway capture hmem
  obtain ⟨text, hreads, haccepts⟩ :=
    (leads_iff_accepts (hplaceless body hbody)).mp hleads
  have htext : capture.text = text := by
    rw [← Capture.text_eq capture.label hreads, hstop]
  exact ⟨body, hbody, htext ▸ haccepts⟩

/-- A match captures nothing under a label that its pattern does not have. -/
theorem capture?_eq_none_of_bodies (hfound : pattern.find? line = some found)
    (hnone : pattern.bodies label = []) : found.capture? label = none := by
  obtain ⟨place, -, hmatch, -⟩ := find?_eq_some_iff.mp hfound
  obtain ⟨way, hway, rfl⟩ := exists_way_of_matchAt? hmatch
  refine Option.eq_none_iff_forall_not_mem.mpr fun capture hcapture => ?_
  obtain ⟨hmem, rfl⟩ := mem_of_capture? hcapture
  obtain ⟨body, hbody, -⟩ := capturesAre_bodies pattern place way hway capture hmem
  rw [hnone] at hbody
  cases hbody

end TurtleAssist.Pattern
