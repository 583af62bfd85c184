import Mathlib.Data.List.Basic
import Mathlib.Data.List.Induction
import TurtleAssist.Proofs.Server.Publication

/-!
# The versions under which diagnostics are published

An editor numbers the versions of a document, and each opening and each change announces the
number of the next one. The diagnostics that are published in answer carry a version too, so
that the editor can tell for which text they were made.

The versions that are published for an address are the announced ones in their order, with one
exception (`versions_published`). A change may come without any text. Nothing is put into the
document then, and the document keeps the version of the last change that was applied. Its
diagnostics are published nevertheless, once more under that version. `versions_emptyChange`
is a session in which this happens.

What is announced is said of the events alone (`announcements`). For that one has to know
which changes concern an enabled document, and this depends on the events before them
(`openLanguage?`).
-/

namespace TurtleAssist.Server

/-! ## What an editor announces -/

/-- The language of the document at an address after one more event, if it is open then. -/
def Event.languageAfter (uri : String) (language : Option String) : Event → Option String
  | .opened other language' _ _ => if other = uri then some language' else language
  | .closed other => if other = uri then none else language
  | _ => language

/-- The language in which the document at an address is open after the events. -/
def openLanguage? (uri : String) (events : List Event) : Option String :=
  events.foldl (Event.languageAfter uri) none

/-- A version that is announced, with the texts that come along with it. -/
structure Announcement where
  version : Int
  texts : List String
deriving DecidableEq, Repr

/-- What an event announces for the document at an address, after the events played before it:
an opening in one of the languages, or a change while it is open in one of them. -/
def Event.announcement? (languages : List String) (uri : String) (played : List Event) :
    Event → Option Announcement
  | .opened other language version text =>
    if other = uri ∧ language ∈ languages then some ⟨version, [text]⟩ else none
  | .changed other version texts =>
    if other = uri ∧ (openLanguage? uri played).any (· ∈ languages) = true then
      some ⟨version, texts⟩
    else none
  | _ => none

/-- What events announce for an address, after those played before them. -/
def announcementsAfter (languages : List String) (uri : String) (played : List Event) :
    List Event → List Announcement
  | [] => []
  | event :: events =>
    (event.announcement? languages uri played).toList
      ++ announcementsAfter languages uri (played ++ [event]) events

/-- **What a session announces for an address**, in order. -/
def announcements (languages : List String) (uri : String) (events : List Event) :
    List Announcement :=
  announcementsAfter languages uri [] events

/-- The version of the last change that is applied, after those with the versions before: the
announced one if a text comes along with it, and otherwise the one before it. -/
def Announcement.appliedAfter (announcement : Announcement) (versions : List Int) : Int :=
  if announcement.texts = [] then versions.getLast?.getD announcement.version
  else announcement.version

/-- **The versions that are applied**: each announcement without a text repeats the version
before it. -/
def appliedVersions (announced : List Announcement) : List Int :=
  announced.foldl (fun versions announcement =>
    versions ++ [announcement.appliedAfter versions]) []

/-- **The versions published for an address**, in order. A closing publishes without one. -/
def publishedVersions (outcomes : List Outcome) (uri : String) : List Int :=
  (outcomes.flatMap (·.publications uri)).filterMap Prod.snd

section Announcements

variable {languages : List String} {uri language : String} {events : List Event} {event : Event}

/-- An event at another address, or at none, does not change the language. -/
theorem Event.languageAfter_of_address_ne (h : event.address? ≠ some uri)
    (language : Option String) : event.languageAfter uri language = language := by
  cases event with
  | opened other language' version text => exact if_neg fun hsame => h (congrArg some hsame)
  | closed other => exact if_neg fun hsame => h (congrArg some hsame)
  | _ => rfl

/-- An event at another address, or at none, announces nothing. -/
theorem Event.announcement?_of_address_ne (h : event.address? ≠ some uri) (played : List Event) :
    event.announcement? languages uri played = none := by
  cases event with
  | opened other language version text => exact if_neg fun hboth => h (congrArg some hboth.1)
  | changed other version texts => exact if_neg fun hboth => h (congrArg some hboth.1)
  | _ => rfl

theorem openLanguage?_concat (events : List Event) (event : Event) :
    openLanguage? uri (events ++ [event]) = event.languageAfter uri (openLanguage? uri events) := by
  rw [openLanguage?, List.foldl_append]
  rfl

/-- A document is open in the language that the events say. -/
theorem openLanguage?_eq_some_iff :
    openLanguage? uri events = some language ↔ ∃ text, IsOpen events uri language text := by
  induction events using List.reverseRecOn with
  | nil =>
    refine iff_of_false nofun ?_
    rintro ⟨text, hopen⟩
    exact IsOpen.not_nil hopen
  | append_singleton events event ih =>
    rw [openLanguage?_concat]
    by_cases haddress : event.address? = some uri
    · cases event with
      | opened other language' version text =>
        obtain rfl : other = uri := Option.some.inj haddress
        simp only [IsOpen.concat_opened, Event.languageAfter, if_pos, Option.some.injEq]
        constructor
        · rintro rfl
          exact ⟨text, rfl, rfl⟩
        · rintro ⟨_, hlanguage, -⟩
          exact hlanguage.symm
      | changed other version texts =>
        obtain rfl : other = uri := Option.some.inj haddress
        simp only [IsOpen.concat_changed]
        refine ih.trans ⟨?_, ?_⟩
        · rintro ⟨earlier, hopen⟩
          exact ⟨_, earlier, hopen, rfl⟩
        · rintro ⟨_, earlier, hopen, rfl⟩
          exact ⟨earlier, hopen⟩
      | closed other =>
        obtain rfl : other = uri := Option.some.inj haddress
        refine iff_of_false ?_ ?_
        · rw [Event.languageAfter, if_pos rfl]
          exact nofun
        · rintro ⟨text, hopen⟩
          exact IsOpen.not_concat_closed hopen
      | _ => cases haddress
    · rw [Event.languageAfter_of_address_ne haddress]
      simp only [IsOpen.concat_of_address_ne haddress]
      exact ih

theorem any_openLanguage?_iff :
    (openLanguage? uri events).any (· ∈ languages) = true
      ↔ ∃ language text, IsOpen events uri language text ∧ language ∈ languages := by
  rw [Option.any_eq_true]
  simp only [openLanguage?_eq_some_iff, decide_eq_true_eq, exists_and_right]

/-- One more event may announce one more version. -/
theorem announcements_concat (event : Event) :
    announcements languages uri (events ++ [event])
      = announcements languages uri events
        ++ (event.announcement? languages uri events).toList := by
  have hafter : ∀ (events played : List Event),
      announcementsAfter languages uri played (events ++ [event])
        = announcementsAfter languages uri played events
          ++ (event.announcement? languages uri (played ++ events)).toList := by
    intro events
    induction events with
    | nil =>
      intro played
      show _ ++ [] = [] ++ _
      rw [List.append_nil, List.append_nil]
      rfl
    | cons first events ih =>
      intro played
      show _ ++ announcementsAfter languages uri (played ++ [first]) (events ++ [event])
        = (_ ++ announcementsAfter languages uri (played ++ [first]) events) ++ _
      rw [ih, List.append_assoc, List.append_assoc]
      rfl
  exact hafter events []

theorem appliedVersions_concat (announced : List Announcement) (announcement : Announcement) :
    appliedVersions (announced ++ [announcement])
      = appliedVersions announced
        ++ [announcement.appliedAfter (appliedVersions announced)] := by
  rw [appliedVersions, List.foldl_append]
  rfl

theorem publishedVersions_concat (outcomes : List Outcome) (outcome : Outcome) :
    publishedVersions (outcomes ++ [outcome]) uri
      = publishedVersions outcomes uri ++ (outcome.publications uri).filterMap Prod.snd := by
  rw [publishedVersions, List.flatMap_append, List.filterMap_append, List.flatMap_singleton]
  rfl

end Announcements

/-! ## What is published -/

section Sessions

variable {engine : Engine} {config : Config} {events : List Event} {uri : String}

/-- **An opening in an enabled language** publishes once, with its version. -/
theorem publications_opened {language : String} (hlanguage : language ∈ config.languages)
    (version : Int) (text : String) :
    (((State.start engine config).after events).step
        (.opened uri language version text)).publications uri
      = [(publishedDiagnostics engine text, some version)] := by
  obtain ⟨hengine, hconfig⟩ := State.after_settings (State.start engine config) events
  rw [publications_step_opened, hengine, hconfig]
  exact if_pos hlanguage

/-- A change is announced exactly if the server has an enabled document at the address. -/
theorem any_openLanguage?_eq_isSome (engine : Engine) :
    (openLanguage? uri events).any (· ∈ config.languages)
      = (((State.start engine config).after events).enabled? uri).isSome := by
  rw [Bool.eq_iff_iff, any_openLanguage?_iff]
  constructor
  · rintro ⟨language, text, hopen, hlanguage⟩
    obtain ⟨document, hdocument, -⟩ := exists_enabled?_of_isOpen engine hopen hlanguage
    rw [hdocument]
    rfl
  · intro hsome
    by_contra hnone
    rw [enabled?_eq_none_of_not_isOpen hnone] at hsome
    cases hsome

/-- A document has the last of the versions. -/
def IsCurrent (state : State) (uri : String) (versions : List Int) : Prop :=
  ∀ document, state.enabled? uri = some document → versions.getLast? = some document.version

/-- Where no document is enabled, nothing can be outdated. -/
theorem isCurrent_of_enabled?_eq_none {state : State} {versions : List Int}
    (h : state.enabled? uri = none) : IsCurrent state uri versions := by
  intro document hdocument
  cases h.symm.trans hdocument

/-- **An event publishes what it announces**: after those played before it, which have published
the versions, its outcome publishes the announced version as far as it is applied, and no other
one, and the document has that version. -/
structure PublishesAnnounced (languages : List String) (uri : String) (played : List Event)
    (versions : List Int) (event : Event) (outcome : Outcome) : Prop where
  published : (outcome.publications uri).filterMap Prod.snd
    = ((event.announcement? languages uri played).map (·.appliedAfter versions)).toList
  isCurrent : IsCurrent outcome.state uri
    (versions ++ (outcome.publications uri).filterMap Prod.snd)

section Steps

variable {versions : List Int}

theorem publishesAnnounced_opened (language : String) (version : Int) (text : String) :
    PublishesAnnounced config.languages uri events versions (.opened uri language version text)
      (((State.start engine config).after events).step (.opened uri language version text)) := by
  have hconfig : ((State.start engine config).after events).config = config :=
    (State.after_settings _ events).2
  have henabled := @enabled?_openDocument ((State.start engine config).after events) uri
    ⟨text, language, version⟩
  rw [hconfig] at henabled
  by_cases hlanguage : language ∈ config.languages
  · rw [if_pos hlanguage] at henabled
    constructor
    · rw [publications_opened hlanguage]
      simp [Event.announcement?, hlanguage, Announcement.appliedAfter]
    · intro document hdocument
      cases henabled.symm.trans hdocument
      rw [publications_opened hlanguage]
      exact List.getLast?_concat
  · rw [if_neg hlanguage] at henabled
    refine ⟨?_, isCurrent_of_enabled?_eq_none henabled⟩
    rw [publications_step_opened, hconfig, if_neg hlanguage]
    simp [Event.announcement?, hlanguage]

theorem publishesAnnounced_changed (version : Int) (texts : List String)
    (h : IsCurrent ((State.start engine config).after events) uri versions) :
    PublishesAnnounced config.languages uri events versions (.changed uri version texts)
      (((State.start engine config).after events).step (.changed uri version texts)) := by
  have hpublications := @publications_step_changed ((State.start engine config).after events) uri
    version texts
  have henabled := @enabled?_changeDocument ((State.start engine config).after events) uri
    version texts
  have hany := @any_openLanguage?_eq_isSome config events uri engine
  cases hdocument : ((State.start engine config).after events).enabled? uri with
  | none =>
    rw [hdocument] at hpublications henabled hany
    refine ⟨?_, isCurrent_of_enabled?_eq_none henabled⟩
    rw [hpublications]
    simp [Event.announcement?, hany]
  | some document =>
    -- without a text the document keeps its version, and that is the last one
    have hversion : Announcement.appliedAfter ⟨version, texts⟩ versions
        = if texts = [] then document.version else version := by
      rw [Announcement.appliedAfter, h document hdocument]
      rfl
    rw [hdocument] at hpublications henabled hany
    constructor
    · rw [hpublications]
      simp [Event.announcement?, hany, hversion]
    · intro document' hdocument'
      cases henabled.symm.trans hdocument'
      rw [hpublications, Document.version_foldl_update]
      exact List.getLast?_concat

theorem publishesAnnounced_closed :
    PublishesAnnounced config.languages uri events versions (.closed uri)
      (((State.start engine config).after events).step (.closed uri)) := by
  refine ⟨?_, isCurrent_of_enabled?_eq_none enabled?_closeDocument⟩
  rw [publications_step_closed]
  cases (((State.start engine config).after events).documents.get? uri).isSome with
  | true => rfl
  | false => rfl

theorem publishesAnnounced_of_address_ne {event : Event} (haddress : event.address? ≠ some uri)
    (h : IsCurrent ((State.start engine config).after events) uri versions) :
    PublishesAnnounced config.languages uri events versions event
      (((State.start engine config).after events).step event) := by
  constructor
  · rw [publications_step_of_address_ne haddress, Event.announcement?_of_address_ne haddress]
    rfl
  · intro document hdocument
    rw [enabled?_step_of_address_ne haddress] at hdocument
    rw [publications_step_of_address_ne haddress]
    show (versions ++ []).getLast? = _
    rw [List.append_nil]
    exact h document hdocument

/-- **Every event publishes what it announces**, if the document is up to date before it. -/
theorem publishesAnnounced (event : Event)
    (h : IsCurrent ((State.start engine config).after events) uri versions) :
    PublishesAnnounced config.languages uri events versions event
      (((State.start engine config).after events).step event) := by
  by_cases haddress : event.address? = some uri
  · cases event with
    | opened other language version text =>
      obtain rfl : other = uri := Option.some.inj haddress
      exact publishesAnnounced_opened language version text
    | changed other version texts =>
      obtain rfl : other = uri := Option.some.inj haddress
      exact publishesAnnounced_changed version texts h
    | closed other =>
      obtain rfl : other = uri := Option.some.inj haddress
      exact publishesAnnounced_closed
    | _ => cases haddress
  · exact publishesAnnounced_of_address_ne haddress h

end Steps

/-- **What is published carries the versions that are applied**, and an enabled document has
the version that was last published for it. -/
theorem publishedVersions_run (engine : Engine) (config : Config) (events : List Event)
    (uri : String) :
    publishedVersions ((State.start engine config).run events) uri
        = appliedVersions (announcements config.languages uri events)
      ∧ IsCurrent ((State.start engine config).after events) uri
          (publishedVersions ((State.start engine config).run events) uri) := by
  induction events using List.reverseRecOn with
  | nil => exact ⟨rfl, nofun⟩
  | append_singleton events event ih =>
    obtain ⟨hversions, hcurrent⟩ := ih
    obtain ⟨hpublished, hnext⟩ := publishesAnnounced event hcurrent
    rw [State.run_append, State.after_concat, announcements_concat]
    show publishedVersions (_ ++ [((State.start engine config).after events).step event]) uri = _
      ∧ IsCurrent _ uri (publishedVersions
          (_ ++ [((State.start engine config).after events).step event]) uri)
    rw [publishedVersions_concat]
    refine ⟨?_, hnext⟩
    rw [hpublished, hversions]
    cases event.announcement? config.languages uri events with
    | none =>
      show appliedVersions _ ++ [] = appliedVersions (_ ++ [])
      rw [List.append_nil, List.append_nil]
    | some announcement => exact (appliedVersions_concat _ announcement).symm

end Sessions

/-- **Published versions are announced versions.** For each address the versions that are
published in a session are those that are announced for it, in order, where an announcement
without a text counts with the version before it. Each opening in an enabled language publishes
once, under its own version. Each change of a document that is open in an enabled language
publishes once too: under its own version if it comes with a text, and otherwise under the last
version that has been published for the address. -/
theorem versions_published {engine : Engine} {config : Config} {events played rest : List Event}
    {event : Event} (h : events = played ++ event :: rest) (uri : String) :
    let outcomes := (State.start engine config).run events
    publishedVersions outcomes uri = appliedVersions (announcements config.languages uri events)
      ∧ ∃ outcome, outcomes[played.length]? = some outcome
        ∧ (∀ language version text, event = .opened uri language version text →
            language ∈ config.languages →
              outcome.publications uri = [(publishedDiagnostics engine text, some version)])
        ∧ ∀ language text version texts, event = .changed uri version texts →
            IsOpen played uri language text → language ∈ config.languages →
              ∃ applied, outcome.publications uri
                  = [(publishedDiagnostics engine (texts.getLast?.getD text), some applied)]
                ∧ (texts ≠ [] → applied = version)
                ∧ (texts = [] →
                    (publishedVersions (outcomes.take played.length) uri).getLast?
                      = some applied) := by
  intro outcomes
  refine ⟨(publishedVersions_run engine config events uri).1,
    ((State.start engine config).after played).step event, ?_, ?_, ?_⟩
  · rw [show outcomes = _ from congrArg _ h, State.run_append,
      List.getElem?_append_right (Nat.le_of_eq (State.length_run _ _)), State.length_run,
      Nat.sub_self]
    rfl
  · rintro language version text rfl hlanguage
    exact publications_opened hlanguage version text
  · rintro language text version texts rfl hopen hlanguage
    obtain ⟨document, hdocument, rfl⟩ := exists_enabled?_of_isOpen engine hopen hlanguage
    have hcurrent := (publishedVersions_run engine config played uri).2 document hdocument
    have hengine : ((State.start engine config).after played).engine = engine :=
      (State.after_settings _ played).1
    refine ⟨if texts = [] then document.version else version, ?_, fun hne => if_neg hne, ?_⟩
    · rw [publications_step_changed, hdocument, hengine]
      rfl
    · intro hnil
      rw [if_pos hnil, show outcomes = _ from congrArg _ h, State.run_append,
        List.take_left' (State.length_run _ _)]
      exact hcurrent

/-- A session with a change that comes without a text, between two that come with one. -/
theorem versions_published_three_changes :
    let engine : Engine := ⟨walkCatalog, Rule.ofCatalog walkCatalog, .bounded⟩
    let config : Config := { languages := ["scheme"] }
    let played : List Event := [.opened "a" "scheme" 4 "", .changed "b" 5 ["("]]
    let rest : List Event := [.changed "a" 9 ["(", ""], .closed "a"]
    let events := played ++ .changed "a" 7 [] :: rest
    let outcomes := (State.start engine config).run events
    Engine.ofCatalog walkCatalog = .ok engine ∧ IsOpen played "a" "scheme" ""
      ∧ publishedVersions outcomes "a" = [4, 4, 9]
      ∧ ∃ outcome, outcomes[2]? = some outcome
        ∧ outcome.publications "a" = [(publishedDiagnostics engine "", some 4)] := by
  intro engine config played rest events outcomes
  have hopen : IsOpen played "a" "scheme" "" := ⟨[], 4, "", _, rfl, by decide, rfl⟩
  obtain ⟨hversions, outcome, houtcome, -, hchanged⟩ :=
    @versions_published engine config events played rest _ rfl "a"
  obtain ⟨applied, hpublications, -, hlast⟩ :=
    hchanged "scheme" "" 7 [] rfl hopen List.mem_cons_self
  have hbefore : (publishedVersions (outcomes.take 2) "a").getLast? = some 4 := by
    decide +kernel
  obtain rfl : 4 = applied := Option.some.inj (hbefore.symm.trans (hlast rfl))
  exact ⟨ofCatalog_walkCatalog, hopen, hversions, outcome, houtcome, hpublications⟩

/-- **A version that is announced and not published.** The change comes without a text, and the
diagnostics are published under the version before. -/
theorem versions_emptyChange :
    let engine : Engine := ⟨walkCatalog, Rule.ofCatalog walkCatalog, .bounded⟩
    let config : Config := { languages := ["scheme"] }
    let events : List Event := [.opened "a" "scheme" 1 "", .changed "a" 2 []]
    let outcomes := (State.start engine config).run events
    Engine.ofCatalog walkCatalog = .ok engine
      ∧ IsOpen [.opened "a" "scheme" 1 ""] "a" "scheme" ""
      ∧ outcomes.map (·.publications "a") = [[([], some 1)], [([], some 1)]]
      ∧ publishedVersions outcomes "a" = [1, 1]
      ∧ (announcements config.languages "a" events).map (·.version) = [1, 2] := by
  intro engine config events outcomes
  exact ⟨ofCatalog_walkCatalog, ⟨[], 1, "", _, rfl, by decide, rfl⟩, by decide +kernel,
    by decide +kernel, by decide⟩

end TurtleAssist.Server
