import Mathlib.Data.List.Basic
import Mathlib.Data.List.Induction
import TurtleAssist.Proofs.Server.Publication

/-!
# Diagnostics that outlive the language they were made for

A document that is opened in a language that is not enabled is not looked at, and nothing is
published for it. If the same address was open in an enabled language before, and has not been
closed, then the editor still has the diagnostics of that time, and keeps them
(`lastPublished_disabled`). They are those of the last text that was looked at. Only if that
text had none, or if no text has been looked at since the last closing, does the editor show
nothing.

The reason is a fact about sessions of every kind (`lastPublished_run_eq`): what an editor
shows are the diagnostics of the text at the *last look*, the last moment at which the document
was open in an enabled language, provided that it has not been closed after that. Events that
lead to no look publish nothing, unless they close the document, so the look before them still
counts.
-/

namespace TurtleAssist.Server

/-- A document is open with a text in one of the languages. -/
def IsLookedAt (languages : List String) (events : List Event) (uri text : String) : Prop :=
  ∃ language, IsOpen events uri language text ∧ language ∈ languages

/-- **The last look at a document**: with the text it was open in one of the languages at some
moment of the session, and since then it has neither been closed nor been open in one of them
again. -/
def IsLastLook (languages : List String) (events : List Event) (uri text : String) : Prop :=
  ∃ before after, events = before ++ after ∧ IsLookedAt languages before uri text
    ∧ .closed uri ∉ after
    ∧ ∀ part rest, after = part ++ rest → part ≠ [] →
        ∀ later, ¬ IsLookedAt languages (before ++ part) uri later

namespace IsLastLook

variable {languages : List String} {events : List Event} {event : Event} {uri text : String}

theorem not_nil : ¬ IsLastLook languages [] uri text := by
  rintro ⟨before, after, hevents, ⟨language, hopen, -⟩, -⟩
  obtain ⟨rfl, -⟩ := List.append_eq_nil_iff.mp hevents.symm
  exact IsOpen.not_nil hopen

/-- A document that is looked at is looked at for the last time. -/
theorem of_isLookedAt (h : IsLookedAt languages events uri text) :
    IsLastLook languages events uri text := by
  refine ⟨events, [], (List.append_nil events).symm, h, List.not_mem_nil, ?_⟩
  intro part rest hpart hne
  exact absurd (List.append_eq_nil_iff.mp hpart.symm).1 hne

/-- **One more event.** The document is looked at after it, or the last look is the one before
it, and the event does not close the document. -/
theorem concat_iff :
    IsLastLook languages (events ++ [event]) uri text
      ↔ IsLookedAt languages (events ++ [event]) uri text
        ∨ event ≠ .closed uri
          ∧ (∀ later, ¬ IsLookedAt languages (events ++ [event]) uri later)
          ∧ IsLastLook languages events uri text := by
  constructor
  · rintro ⟨before, after, hevents, hlook, hclosed, hlast⟩
    rcases List.eq_nil_or_concat' after with rfl | ⟨rest, last, rfl⟩
    · rw [List.append_nil] at hevents
      exact Or.inl (hevents ▸ hlook)
    · refine Or.inr ?_
      have hwhole := hlast _ [] (List.append_nil _).symm (List.concat_ne_nil last rest)
      rw [← List.append_assoc] at hevents hwhole
      obtain ⟨rfl, hevent⟩ := List.append_inj' hevents rfl
      obtain rfl : event = last := List.singleton_inj.mp hevent
      rw [List.mem_append, List.mem_singleton, not_or] at hclosed
      refine ⟨Ne.symm hclosed.2, hwhole, before, rest, rfl, hlook, hclosed.1, ?_⟩
      rintro part tail rfl
      exact hlast part (tail ++ [event]) (List.append_assoc _ _ _)
  · rintro (hlook | ⟨hne, hnone, before, after, rfl, hlook, hclosed, hlast⟩)
    · exact of_isLookedAt hlook
    · refine ⟨before, after ++ [event], List.append_assoc _ _ _, hlook, ?_, ?_⟩
      · rw [List.mem_append, List.mem_singleton, not_or]
        exact ⟨hclosed, Ne.symm hne⟩
      · intro part rest hpart hpartne
        rcases List.eq_nil_or_concat' rest with rfl | ⟨tail, last, rfl⟩
        · rw [List.append_nil] at hpart
          rw [← hpart, ← List.append_assoc]
          exact hnone
        · rw [← List.append_assoc] at hpart
          exact hlast part tail (List.append_inj' hpart rfl).1 hpartne

/-- What was looked at and not closed is still open. -/
theorem exists_isOpen (h : IsLastLook languages events uri text) :
    ∃ language text', IsOpen events uri language text' := by
  induction events using List.reverseRecOn with
  | nil => exact absurd h not_nil
  | append_singleton events event ih =>
    rcases concat_iff.mp h with ⟨language, hopen, -⟩ | ⟨hne, -, hbefore⟩
    · exact ⟨language, text, hopen⟩
    · obtain ⟨language, text', hopen⟩ := ih hbefore
      by_cases hopens : event.Opens uri
      · cases event with
        | opened other language' version text' =>
          obtain rfl : other = uri := hopens
          exact ⟨language', text', IsOpen.concat_opened.mpr ⟨rfl, rfl⟩⟩
        | _ => cases hopens
      · exact ⟨language, _, IsOpen.concat_iff.mpr (Or.inr ⟨hopens, hne, text', hopen, rfl⟩)⟩

end IsLastLook

section Sessions

variable {engine : Engine} {config : Config} {events : List Event} {event : Event}
  {uri text : String}

/-- What is shown after one more event is what it publishes, and what was shown before if it
publishes nothing. -/
theorem lastPublished_run_concat (state : State) (events : List Event) (event : Event)
    (uri : String) :
    lastPublished (state.run (events ++ [event])) uri
      = ((((state.after events).step event).publications uri).map Prod.fst).getLast?.getD
          (lastPublished (state.run events) uri) := by
  rw [State.run_append, map_fst_publications]
  exact lastPublished_concat _ _ uri

/-- **An event that leads to a look** publishes the diagnostics of the text, or it is about
another document and the text was looked at before it. -/
theorem publications_of_isLookedAt (engine : Engine)
    (h : IsLookedAt config.languages (events ++ [event]) uri text) :
    (((((State.start engine config).after events).step event).publications uri).map Prod.fst
        = [publishedDiagnostics engine text])
      ∨ (((State.start engine config).after events).step event).publications uri = []
        ∧ IsLookedAt config.languages events uri text := by
  have hsettings := State.after_settings (State.start engine config) events
  obtain ⟨language, hopen, hlanguage⟩ := h
  by_cases haddress : event.address? = some uri
  · refine Or.inl ?_
    cases event with
    | opened other language' version text' =>
      obtain rfl : other = uri := Option.some.inj haddress
      obtain ⟨rfl, rfl⟩ := IsOpen.concat_opened.mp hopen
      rw [publications_step_opened, hsettings.1, hsettings.2]
      exact congrArg (List.map Prod.fst) (if_pos hlanguage)
    | changed other version texts =>
      obtain rfl : other = uri := Option.some.inj haddress
      obtain ⟨earlier, hearlier, rfl⟩ := IsOpen.concat_changed.mp hopen
      obtain ⟨document, hdocument, rfl⟩ := exists_enabled?_of_isOpen engine hearlier hlanguage
      rw [publications_step_changed, hdocument, hsettings.1]
      rfl
    | closed other =>
      obtain rfl : other = uri := Option.some.inj haddress
      exact absurd hopen IsOpen.not_concat_closed
    | _ => cases haddress
  · exact Or.inr ⟨publications_step_of_address_ne haddress, language,
      (IsOpen.concat_of_address_ne haddress).mp hopen, hlanguage⟩

/-- **An event that leads to no look** publishes nothing, unless it closes the document. -/
theorem publications_of_not_isLookedAt (hne : event ≠ .closed uri)
    (h : ∀ text, ¬ IsLookedAt config.languages (events ++ [event]) uri text) :
    (((State.start engine config).after events).step event).publications uri = [] := by
  by_cases haddress : event.address? = some uri
  · cases event with
    | opened other language version text =>
      obtain rfl : other = uri := Option.some.inj haddress
      rw [publications_step_opened, (State.after_settings _ events).2]
      exact if_neg fun hlanguage =>
        h text ⟨language, IsOpen.concat_opened.mpr ⟨rfl, rfl⟩, hlanguage⟩
    | changed other version texts =>
      obtain rfl : other = uri := Option.some.inj haddress
      rw [publications_step_changed, enabled?_eq_none_of_not_isOpen]
      · rfl
      · rintro ⟨language, earlier, hopen, hlanguage⟩
        exact h _ ⟨language, IsOpen.concat_changed.mpr ⟨earlier, hopen, rfl⟩, hlanguage⟩
    | closed other =>
      obtain rfl : other = uri := Option.some.inj haddress
      exact absurd rfl hne
    | _ => cases haddress
  · exact publications_step_of_address_ne haddress

/-- **A closing** leaves nothing to be shown, if what was not looked at showed nothing. -/
theorem getD_publications_closed {earlier : List PublishedDiagnostic}
    (h : (∀ text, ¬ IsLastLook config.languages events uri text) → earlier = []) :
    (((((State.start engine config).after events).step (.closed uri)).publications uri).map
        Prod.fst).getLast?.getD earlier = [] := by
  rw [publications_step_closed]
  cases hdocument : ((State.start engine config).after events).documents.get? uri with
  | some document => rfl
  | none =>
    refine h fun text hlook => ?_
    obtain ⟨language, text', hopen⟩ := hlook.exists_isOpen
    obtain ⟨document, hget, -⟩ := (Agrees.after engine config events uri _ _).mp hopen
    cases hdocument.symm.trans hget

/-- **What an editor shows after a session** are the diagnostics of the text at the last look,
and nothing if there was none. -/
theorem lastPublished_run_eq (engine : Engine) (config : Config) (events : List Event)
    (uri : String) :
    (∀ text, IsLastLook config.languages events uri text →
        lastPublished ((State.start engine config).run events) uri
          = publishedDiagnostics engine text)
      ∧ ((∀ text, ¬ IsLastLook config.languages events uri text) →
        lastPublished ((State.start engine config).run events) uri = []) := by
  induction events using List.reverseRecOn with
  | nil => exact ⟨fun text hlook => absurd hlook IsLastLook.not_nil, fun _ => rfl⟩
  | append_singleton events event ih =>
    obtain ⟨hshown, hempty⟩ := ih
    rw [lastPublished_run_concat]
    constructor
    · intro text hlook
      rcases IsLastLook.concat_iff.mp hlook with hlook | ⟨hne, hnone, hbefore⟩
      · rcases publications_of_isLookedAt engine hlook with hpublished | ⟨hnone, hbefore⟩
        · rw [hpublished]
          rfl
        · rw [hnone]
          exact hshown text (.of_isLookedAt hbefore)
      · rw [publications_of_not_isLookedAt hne hnone]
        exact hshown text hbefore
    · intro hnone
      by_cases hclosed : event = .closed uri
      · rw [hclosed]
        exact getD_publications_closed hempty
      · have hlooks : ∀ text, ¬ IsLookedAt config.languages (events ++ [event]) uri text :=
          fun text hlook => hnone text (.of_isLookedAt hlook)
        rw [publications_of_not_isLookedAt hclosed hlooks]
        exact hempty fun text hbefore =>
          hnone text (IsLastLook.concat_iff.mpr (Or.inr ⟨hclosed, hlooks, hbefore⟩))

end Sessions

/-- **An opening in a language that is not enabled leaves on show what was shown before**: the
diagnostics of the text at the last look. Nothing is shown after it exactly if there was no look
since the document was last closed, or if the text at the last look has no diagnostics. -/
theorem lastPublished_disabled {engine : Engine} {config : Config} {language : String}
    (h : language ∉ config.languages) (events : List Event) (uri text : String) (version : Int) :
    let start := State.start engine config
    let shown :=
      lastPublished (start.run (events ++ [.opened uri language version text])) uri
    shown = lastPublished (start.run events) uri
      ∧ (∀ last, IsLastLook config.languages events uri last →
          shown = publishedDiagnostics engine last)
      ∧ (shown = [] ↔ ∀ last, IsLastLook config.languages events uri last →
          publishedDiagnostics engine last = []) := by
  intro start shown
  obtain ⟨hlooked, hempty⟩ := lastPublished_run_eq engine config events uri
  have hsame : shown = lastPublished (start.run events) uri := by
    show lastPublished (start.run (events ++ [_])) uri = _
    rw [lastPublished_run_concat, publications_step_opened, (State.after_settings _ events).2]
    exact congrArg (fun publications => ((List.map Prod.fst publications).getLast?).getD _)
      (if_neg h)
  rw [hsame]
  refine ⟨rfl, hlooked, ?_, ?_⟩
  · intro hnothing last hlook
    exact (hlooked last hlook).symm.trans hnothing
  · intro hnothing
    by_cases hlook : ∃ last, IsLastLook config.languages events uri last
    · obtain ⟨last, hlook⟩ := hlook
      exact (hlooked last hlook).trans (hnothing last hlook)
    · exact hempty fun last hlast => hlook ⟨last, hlast⟩

/-- Two documents that are opened in a language that is not enabled. One was open in an enabled
language before, the other one was closed in between. -/
theorem lastPublished_disabled_two_documents :
    let engine : Engine := ⟨walkCatalog, Rule.ofCatalog walkCatalog, .bounded⟩
    let config : Config := { languages := ["scheme"] }
    let events : List Event :=
      [ .opened "a" "scheme" 1 "", .changed "a" 2 ["( up)"], .opened "b" "scheme" 1 "( up)",
        .closed "b" ]
    let shown (uri : String) :=
      lastPublished ((State.start engine config).run
        (events ++ [.opened uri "plaintext" 3 "x"])) uri
    Engine.ofCatalog walkCatalog = .ok engine ∧ "plaintext" ∉ config.languages
      ∧ shown "a" = publishedDiagnostics engine "( up)"
      ∧ shown "b" = [] := by
  intro engine config events shown
  have hplain : "plaintext" ∉ config.languages := by decide
  obtain ⟨-, hlooked, -⟩ := @lastPublished_disabled engine config _ hplain events "a" "x" 3
  obtain ⟨-, -, hnothing⟩ := @lastPublished_disabled engine config _ hplain events "b" "x" 3
  have hopen : IsOpen events "a" "scheme" "( up)" := ⟨[], 1, "", _, rfl, by decide, rfl⟩
  refine ⟨ofCatalog_walkCatalog, hplain, hlooked _ (.of_isLookedAt ⟨"scheme", hopen, List.mem_cons_self⟩),
    hnothing.mpr fun last hlook => ?_⟩
  obtain ⟨language, text, hopen⟩ := hlook.exists_isOpen
  exact absurd hopen (@IsOpen.not_concat_closed events.dropLast "b" language text)

/-- **Diagnostics that stay on show.** The document is opened once more, in a language that is not
enabled. -/
theorem lastPublished_plaintext :
    let engine : Engine := ⟨walkCatalog, Rule.ofCatalog walkCatalog, .bounded⟩
    let config : Config := { languages := ["scheme"] }
    let events : List Event := [.opened "a" "scheme" 1 "( up)"]
    let outcomes :=
      (State.start engine config).run (events ++ [.opened "a" "plaintext" 2 "( up)"])
    Engine.ofCatalog walkCatalog = .ok engine ∧ "plaintext" ∉ config.languages
      ∧ lastPublished outcomes "a" ≠ [] := by
  intro engine config events outcomes
  exact ⟨ofCatalog_walkCatalog, by decide, by decide +kernel⟩

end TurtleAssist.Server
