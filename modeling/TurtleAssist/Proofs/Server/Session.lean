import Mathlib.Data.List.Basic
import Mathlib.Data.List.Induction
import TurtleAssist.Proofs.Diagnostic.Fallback
import TurtleAssist.Proofs.Server.History

/-!
# The server keeps what the editor shows in step with the documents

An editor shows the diagnostics that were last published for a document. This module
proves that they are those of its current text, after every event of a session
(`session_in_step`).

Two facts carry this through a session, each kept by one event and hence by all. The table
of documents agrees with the history: it holds the open documents with their languages and
texts (`Agrees`). And what was last published for an address is what its document asks for
in the present state (`State.shown`). An event publishes for its own address only, and it
publishes the new diagnostics wherever they can differ from the old ones, with one
exception. A document that is opened anew in a language that is not enabled, without having
been closed, keeps its old diagnostics. Sessions in which this happens are left out
(`Orderly`).
-/

namespace TurtleAssist

/-! ## Texts put into a document -/

namespace Document

variable {document : Document} {version : Int} {texts : List String}

/-- New texts leave the language. -/
theorem language_foldl_update :
    (texts.foldl (·.update version ·) document).language = document.language := by
  induction texts generalizing document with
  | nil => rfl
  | cons text texts ih => exact ih

/-- Of several new texts the last one stays. -/
theorem text_foldl_update :
    (texts.foldl (·.update version ·) document).text = texts.getLast?.getD document.text := by
  induction texts generalizing document with
  | nil => rfl
  | cons text texts ih =>
    rw [List.foldl_cons, ih, List.getLast?_cons]
    rfl

end Document

namespace Server

/-! ## Sessions event by event -/

namespace State

variable {state : State} {event : Event}

/-- The state after the events of a session. -/
def after (state : State) (events : List Event) : State :=
  events.foldl (fun state event => (state.step event).state) state

theorem after_concat (state : State) (events : List Event) (event : Event) :
    state.after (events ++ [event]) = ((state.after events).step event).state := by
  rw [after, List.foldl_append]
  rfl

/-- A session goes on from the state that its first part leads to. -/
theorem run_append (state : State) (played rest : List Event) :
    state.run (played ++ rest) = state.run played ++ (state.after played).run rest := by
  induction played generalizing state with
  | nil => rfl
  | cons event played ih => exact congrArg (_ :: ·) (ih _)

theorem length_run (state : State) (events : List Event) :
    (state.run events).length = events.length := by
  induction events generalizing state with
  | nil => rfl
  | cons event events ih => exact congrArg (· + 1) (ih _)

/-- No event changes the engine or the configuration. -/
theorem step_settings (state : State) (event : Event) :
    (state.step event).state.engine = state.engine
      ∧ (state.step event).state.config = state.config := by
  cases event with
  | changed uri version texts =>
    show (state.changeDocument uri version texts).engine = _
      ∧ (state.changeDocument uri version texts).config = _
    unfold changeDocument
    cases state.documents.get? uri with
    | none => exact ⟨rfl, rfl⟩
    | some document => exact ⟨rfl, rfl⟩
  | _ => exact ⟨rfl, rfl⟩

theorem after_settings (state : State) (events : List Event) :
    (state.after events).engine = state.engine
      ∧ (state.after events).config = state.config := by
  induction events using List.reverseRecOn with
  | nil => exact ⟨rfl, rfl⟩
  | append_singleton events event ih =>
    obtain ⟨hengine, hconfig⟩ := step_settings (state.after events) event
    rw [after_concat]
    exact ⟨hengine.trans ih.1, hconfig.trans ih.2⟩

end State

/-! ## The table of documents and the history -/

/-- **The table of documents agrees with the history**: it holds the open documents, with
their languages and texts. -/
def Agrees (state : State) (events : List Event) : Prop :=
  ∀ uri language text, IsOpen events uri language text
    ↔ ∃ document, state.documents.get? uri = some document ∧ document.language = language
        ∧ document.text = text

theorem agrees_start (engine : Engine) (config : Config) :
    Agrees (State.start engine config) [] := by
  intro uri language text
  refine iff_of_false IsOpen.not_nil ?_
  rintro ⟨document, hdocument, -⟩
  cases hdocument

namespace Agrees

variable {state : State} {events : List Event}

/-- An event at another address changes neither the history nor the table at an address. -/
theorem get?_step_of_address_ne {event : Event} {uri : String} (h : event.address? ≠ some uri) :
    (state.step event).state.documents.get? uri = state.documents.get? uri := by
  cases event with
  | opened other language version text =>
    show (state.documents.insert other _).get? uri = _
    rw [Documents.get?_insert, if_neg]
    rintro rfl
    exact h rfl
  | changed other version texts =>
    show (state.changeDocument other version texts).documents.get? uri = _
    unfold State.changeDocument
    cases state.documents.get? other with
    | none => rfl
    | some document =>
      show (state.documents.insert other _).get? uri = _
      rw [Documents.get?_insert, if_neg]
      rintro rfl
      exact h rfl
  | closed other =>
    show (state.documents.erase other).get? uri = _
    rw [Documents.get?_erase, if_neg]
    rintro rfl
    exact h rfl
  | _ => rfl

/-- **Every event keeps the table in agreement with the history.** -/
theorem step (h : Agrees state events) (event : Event) :
    Agrees (state.step event).state (events ++ [event]) := by
  intro uri language text
  by_cases haddress : event.address? = some uri
  · cases event with
    | opened other language' version text' =>
      obtain rfl : other = uri := Option.some.inj haddress
      show _ ↔ ∃ document, (state.documents.insert other _).get? other = some document ∧ _
      rw [IsOpen.concat_opened, Documents.get?_insert, if_pos rfl]
      simp only [Option.some.injEq, exists_eq_left']
      exact and_congr eq_comm eq_comm
    | changed other version texts =>
      obtain rfl : other = uri := Option.some.inj haddress
      show _ ↔ ∃ document, (state.changeDocument other version texts).documents.get? other
        = some document ∧ _
      rw [IsOpen.concat_changed]
      simp only [h other language]
      unfold State.changeDocument
      cases hdocument : state.documents.get? other with
      | none => simp [hdocument]
      | some document =>
        show _ ↔ ∃ document, (state.documents.insert other _).get? other = some document ∧ _
        rw [Documents.get?_insert, if_pos rfl]
        simp only [Option.some.injEq, exists_eq_left', Document.language_foldl_update,
          Document.text_foldl_update]
        constructor
        · rintro ⟨_, ⟨hlanguage, rfl⟩, rfl⟩
          exact ⟨hlanguage, rfl⟩
        · rintro ⟨hlanguage, rfl⟩
          exact ⟨_, ⟨hlanguage, rfl⟩, rfl⟩
    | closed other =>
      obtain rfl : other = uri := Option.some.inj haddress
      refine iff_of_false IsOpen.not_concat_closed ?_
      rintro ⟨document, hdocument, -⟩
      have hnone : (state.documents.erase other).get? other = some document := hdocument
      rw [Documents.get?_erase, if_pos rfl] at hnone
      cases hnone
    | _ => cases haddress
  · rw [IsOpen.concat_of_address_ne haddress, get?_step_of_address_ne haddress]
    exact h uri language text

/-- The table agrees with the history throughout a session. -/
theorem after (engine : Engine) (config : Config) (events : List Event) :
    Agrees ((State.start engine config).after events) events := by
  induction events using List.reverseRecOn with
  | nil => exact agrees_start engine config
  | append_singleton events event ih =>
    rw [State.after_concat]
    exact ih.step event

end Agrees

/-! ## What an editor shows -/

/-- What a notification publishes for an address. -/
def Notification.publishedFor? (uri : String) : Notification → Option (List PublishedDiagnostic)
  | .publish other diagnostics _ => if other = uri then some diagnostics else none
  | .log _ => none

/-- **What an editor shows for an address**: the diagnostics last published for it, and none
if there are none. -/
def lastPublished (outcomes : List Outcome) (uri : String) : List PublishedDiagnostic :=
  ((outcomes.flatMap (·.notifications)).filterMap (Notification.publishedFor? uri)).getLast?.getD []

/-- What the document at an address asks to be shown, in a state of the server. -/
def State.shown (state : State) (uri : String) : List PublishedDiagnostic :=
  match state.enabled? uri with
  | some document => publishedDiagnostics state.engine document.text
  | none => []

/-- No document is opened anew in a language that is not enabled while it is open in one
that is. -/
def Orderly (languages : List String) (events : List Event) : Prop :=
  ∀ before uri language version text after,
    events = before ++ .opened uri language version text :: after → language ∉ languages →
      ∀ language' text', IsOpen before uri language' text' → language' ∉ languages

section Publications

variable {state : State} {uri : String}

theorem enabled?_eq_some_iff {document : Document} :
    state.enabled? uri = some document
      ↔ state.documents.get? uri = some document ∧ document.language ∈ state.config.languages := by
  rw [State.enabled?, Option.filter_eq_some_iff, Document.isEnabled, List.contains_iff_mem]

theorem enabled?_eq_none_iff :
    state.enabled? uri = none
      ↔ ∀ document, state.documents.get? uri = some document →
          document.language ∉ state.config.languages := by
  rw [Option.eq_none_iff_forall_ne_some]
  simp only [ne_eq, enabled?_eq_some_iff, not_and]

/-- A document that is not looked at asks for nothing. -/
theorem shown_of_enabled?_eq_none (h : state.enabled? uri = none) : state.shown uri = [] := by
  rw [State.shown, h]

/-- A line for the log publishes nothing. -/
theorem filterMap_debugLog (message : String) :
    (state.debugLog message).filterMap (Notification.publishedFor? uri) = [] := by
  unfold State.debugLog
  by_cases h : state.config.debug = true
  · rw [if_pos h]
    rfl
  · rw [if_neg h]
    rfl

/-- Publishing anew publishes for one address only. -/
theorem filterMap_refresh_of_ne {other : String} (h : other ≠ uri) :
    (state.refresh other).filterMap (Notification.publishedFor? uri) = [] := by
  unfold State.refresh
  cases state.enabled? other with
  | none => rfl
  | some document =>
    simp [Notification.publishedFor?, h]

/-- Publishing anew shows what the document asks for. If the document is not enabled it
asks for nothing, and nothing is published. -/
theorem getD_refresh {earlier : List PublishedDiagnostic}
    (h : state.enabled? uri = none → earlier = []) :
    ((state.refresh uri).filterMap (Notification.publishedFor? uri)).getLast?.getD earlier
      = state.shown uri := by
  unfold State.refresh State.shown
  cases hdocument : state.enabled? uri with
  | none => exact h hdocument
  | some document =>
    simp [Notification.publishedFor?]

/-- What a document asks for depends on the document, the engine and the configuration. -/
theorem shown_congr {other : State} (hget : other.documents.get? uri = state.documents.get? uri)
    (hengine : other.engine = state.engine) (hconfig : other.config = state.config) :
    other.shown uri = state.shown uri := by
  unfold State.shown State.enabled?
  rw [hget, hengine, hconfig]

/-- An event at another address, or at none, publishes nothing for an address. -/
theorem filterMap_step_of_address_ne {event : Event} (h : event.address? ≠ some uri) :
    (state.step event).notifications.filterMap (Notification.publishedFor? uri) = [] := by
  cases event with
  | connected => rfl
  | opened other language version text =>
    have hne : other ≠ uri := fun hsame => h (congrArg some hsame)
    show List.filterMap _ (state.debugLog _ ++ State.refresh _ other) = []
    rw [List.filterMap_append, filterMap_debugLog, filterMap_refresh_of_ne hne]
    rfl
  | changed other version texts =>
    have hne : other ≠ uri := fun hsame => h (congrArg some hsame)
    show List.filterMap _ (state.debugLog _ ++ State.refresh _ other) = []
    rw [List.filterMap_append, filterMap_debugLog, filterMap_refresh_of_ne hne]
    rfl
  | closed other =>
    have hne : other ≠ uri := fun hsame => h (congrArg some hsame)
    show List.filterMap _ (state.debugLog _ ++ _) = []
    rw [List.filterMap_append, filterMap_debugLog]
    cases state.documents.get? other with
    | none => rfl
    | some document => simp [Notification.publishedFor?, hne]
  | _ => exact filterMap_debugLog _

/-- **Each event keeps what is shown for an address up to date**, provided that it does not
open an enabled document anew in a language that is not enabled. -/
theorem shown_step {event : Event}
    (h : ∀ language version text, event = .opened uri language version text →
      language ∉ state.config.languages → state.enabled? uri = none) :
    (((state.step event).notifications.filterMap (Notification.publishedFor? uri)).getLast?).getD
        (state.shown uri)
      = (state.step event).state.shown uri := by
  by_cases haddress : event.address? = some uri
  · cases event with
    | opened other language version text =>
      obtain rfl : other = uri := Option.some.inj haddress
      show ((List.filterMap _ (state.debugLog _ ++ State.refresh _ other)).getLast?).getD _ = _
      rw [List.filterMap_append, filterMap_debugLog, List.nil_append]
      refine getD_refresh fun hnone => ?_
      have hget := state.documents.get?_insert other other ⟨text, language, version⟩
      rw [if_pos rfl] at hget
      exact shown_of_enabled?_eq_none
        (h language version text rfl (enabled?_eq_none_iff.mp hnone _ hget))
    | changed other version texts =>
      obtain rfl : other = uri := Option.some.inj haddress
      show ((List.filterMap _ (state.debugLog _ ++ State.refresh _ other)).getLast?).getD _ = _
      rw [List.filterMap_append, filterMap_debugLog, List.nil_append]
      refine getD_refresh fun hnone => shown_of_enabled?_eq_none ?_
      rw [enabled?_eq_none_iff] at hnone ⊢
      intro document hdocument
      have hget := state.documents.get?_insert other other
        (texts.foldl (·.update version ·) document)
      rw [if_pos rfl] at hget
      unfold State.changeDocument at hnone
      rw [hdocument] at hnone
      exact Document.language_foldl_update ▸ hnone _ hget
    | closed other =>
      obtain rfl : other = uri := Option.some.inj haddress
      show ((List.filterMap _ (state.debugLog _ ++ _)).getLast?).getD _ = _
      rw [List.filterMap_append, filterMap_debugLog, List.nil_append]
      have hget := state.documents.get?_erase other other
      rw [if_pos rfl] at hget
      have hshown : (state.closeDocument other).shown other = [] :=
        shown_of_enabled?_eq_none (enabled?_eq_none_iff.mpr fun document hdocument =>
          nomatch hget.symm.trans hdocument)
      show _ = (state.closeDocument other).shown other
      rw [hshown]
      cases hdocument : state.documents.get? other with
      | none =>
        exact shown_of_enabled?_eq_none (enabled?_eq_none_iff.mpr fun document hsome =>
          nomatch hdocument.symm.trans hsome)
      | some document => simp [Notification.publishedFor?]
    | _ => cases haddress
  · obtain ⟨hengine, hconfig⟩ := state.step_settings event
    rw [filterMap_step_of_address_ne haddress]
    exact (shown_congr (Agrees.get?_step_of_address_ne haddress) hengine hconfig).symm

end Publications

theorem lastPublished_concat (outcomes : List Outcome) (outcome : Outcome) (uri : String) :
    lastPublished (outcomes ++ [outcome]) uri
      = ((outcome.notifications.filterMap (Notification.publishedFor? uri)).getLast?).getD
          (lastPublished outcomes uri) := by
  unfold lastPublished
  rw [List.flatMap_append, List.filterMap_append, List.getLast?_append, List.flatMap_singleton]
  cases (outcome.notifications.filterMap (Notification.publishedFor? uri)).getLast? with
  | none => rfl
  | some diagnostics => rfl

namespace Orderly

variable {languages : List String} {events : List Event}

theorem of_append {rest : List Event} (h : Orderly languages (events ++ rest)) :
    Orderly languages events := by
  intro before uri language version text after hevents
  refine h before uri language version text (after ++ rest) ?_
  rw [hevents, List.append_assoc, List.cons_append]

/-- One more event leaves a session orderly if it does not open a document in this way. -/
theorem concat_iff {event : Event} :
    Orderly languages (events ++ [event])
      ↔ Orderly languages events
        ∧ ∀ uri language version text, event = .opened uri language version text →
            language ∉ languages →
              ∀ language' text', IsOpen events uri language' text' → language' ∉ languages := by
  constructor
  · intro h
    refine ⟨h.of_append, ?_⟩
    rintro uri language version text rfl
    exact h events uri language version text [] rfl
  · rintro ⟨hevents, hevent⟩ before uri language version text after heq
    rcases List.eq_nil_or_concat' after with rfl | ⟨rest, last, rfl⟩
    · obtain ⟨rfl, hlast⟩ := List.append_inj' heq rfl
      exact hevent uri language version text (List.singleton_inj.mp hlast)
    · rw [← List.cons_append, ← List.append_assoc] at heq
      obtain ⟨hearlier, -⟩ := List.append_inj' heq rfl
      exact hevents before uri language version text rest hearlier

end Orderly

section Sessions

variable {engine : Engine} {config : Config} {events : List Event} {uri language text : String}

/-- A document that is open in an enabled language is looked at. -/
theorem exists_enabled?_of_isOpen (engine : Engine) (hopen : IsOpen events uri language text)
    (hlanguage : language ∈ config.languages) :
    ∃ document, ((State.start engine config).after events).enabled? uri = some document
      ∧ document.text = text := by
  obtain ⟨document, hget, rfl, rfl⟩ := (Agrees.after engine config events uri _ _).mp hopen
  refine ⟨document, enabled?_eq_some_iff.mpr ⟨hget, ?_⟩, rfl⟩
  rw [(State.after_settings _ events).2]
  exact hlanguage

/-- A document that is not open in an enabled language is not looked at. -/
theorem enabled?_eq_none_of_not_isOpen
    (h : ¬ ∃ language text, IsOpen events uri language text ∧ language ∈ config.languages) :
    ((State.start engine config).after events).enabled? uri = none := by
  refine enabled?_eq_none_iff.mpr fun document hget hlanguage =>
    h ⟨document.language, document.text, ?_, ?_⟩
  · exact (Agrees.after engine config events uri _ _).mpr ⟨document, hget, rfl, rfl⟩
  · rw [(State.after_settings _ events).2] at hlanguage
    exact hlanguage

/-- A document that is not open is not in the table. -/
theorem get?_eq_none_of_not_isOpen (h : ¬ ∃ language text, IsOpen events uri language text) :
    ((State.start engine config).after events).documents.get? uri = none := by
  rw [Option.eq_none_iff_forall_ne_some]
  intro document hget
  exact h ⟨_, _, (Agrees.after engine config events uri _ _).mpr ⟨document, hget, rfl, rfl⟩⟩

/-- A document that is open in an enabled language asks for the diagnostics of its text. -/
theorem shown_of_isOpen (hopen : IsOpen events uri language text)
    (hlanguage : language ∈ config.languages) :
    ((State.start engine config).after events).shown uri = publishedDiagnostics engine text := by
  obtain ⟨document, hdocument, rfl⟩ := exists_enabled?_of_isOpen engine hopen hlanguage
  rw [State.shown, hdocument, (State.after_settings _ events).1]
  rfl

/-- A request for completions is answered from the text of such a document. -/
theorem reply_of_isOpen (hopen : IsOpen events uri language text)
    (hlanguage : language ∈ config.languages) (line character : Nat) :
    (((State.start engine config).after events).step (.completion uri line character)).reply
      = .completions (some ((complete engine.catalog text).zipIdx.map fun item =>
          .ofEntry item.1 item.2)) := by
  obtain ⟨document, hdocument, rfl⟩ := exists_enabled?_of_isOpen engine hopen hlanguage
  show Reply.completions ((State.enabled? _ uri).map _) = _
  rw [hdocument, (State.after_settings _ events).1]
  rfl

/-- Without such a document it is answered with nothing. -/
theorem reply_of_not_isOpen
    (h : ¬ ∃ language text, IsOpen events uri language text ∧ language ∈ config.languages)
    (line character : Nat) :
    (((State.start engine config).after events).step (.completion uri line character)).reply
      = .completions none := by
  show Reply.completions ((State.enabled? _ uri).map _) = _
  rw [enabled?_eq_none_of_not_isOpen h]
  rfl

/-- **What is shown after a session** is what the documents ask for in its last state. -/
theorem lastPublished_run (h : Orderly config.languages events) :
    lastPublished ((State.start engine config).run events) uri
      = ((State.start engine config).after events).shown uri := by
  induction events using List.reverseRecOn with
  | nil => rfl
  | append_singleton events event ih =>
    obtain ⟨hevents, hevent⟩ := Orderly.concat_iff.mp h
    rw [State.run_append, State.after_concat]
    show lastPublished (_ ++ [((State.start engine config).after events).step event]) uri = _
    rw [lastPublished_concat, ih hevents]
    refine shown_step fun language version text hopened hlanguage => ?_
    rw [(State.after_settings _ events).2] at hlanguage
    refine enabled?_eq_none_of_not_isOpen ?_
    rintro ⟨language', text', hopen, henabled⟩
    exact hevent uri language version text hopened hlanguage language' text' hopen henabled

end Sessions

/-! ## Events at documents that are not open -/

/-- Erasing an address at which there is nothing changes nothing. -/
theorem erase_of_get?_eq_none {documents : Documents} {uri : String}
    (h : documents.get? uri = none) : documents.erase uri = documents := by
  have hkeys : ∀ entry ∈ documents.entries, (!(entry.1 == uri)) = true := by
    intro entry hentry
    have hne := List.lookup_eq_none_iff.mp h entry hentry
    rw [Bool.not_eq_true', beq_eq_false_iff_ne]
    exact (bne_iff_ne.mp hne).symm
  exact congrArg Documents.mk (List.filter_eq_self.mpr hkeys)

theorem not_mem_debugLog {state : State} {message uri : String}
    {diagnostics : List PublishedDiagnostic} {version : Option Int} :
    Notification.publish uri diagnostics version ∉ state.debugLog message := by
  unfold State.debugLog
  by_cases h : state.config.debug = true
  · simp [h]
  · simp [h]

/-- **A change or a closing at an address where no document is open** leaves the state as it
was, and nothing is published. -/
theorem step_of_get?_eq_none {state : State} {uri : String} {event : Event}
    (h : state.documents.get? uri = none)
    (hevent : (∃ version texts, event = .changed uri version texts) ∨ event = .closed uri) :
    (state.step event).state = state
      ∧ ∀ other diagnostics version,
          Notification.publish other diagnostics version ∉ (state.step event).notifications := by
  have hdisabled : state.enabled? uri = none :=
    enabled?_eq_none_iff.mpr fun document hsome => nomatch h.symm.trans hsome
  rcases hevent with ⟨version, texts, rfl⟩ | rfl
  · have hstate : state.changeDocument uri version texts = state := by
      unfold State.changeDocument
      rw [h]
    refine ⟨hstate, fun other diagnostics version' hmem => ?_⟩
    have hmem : Notification.publish other diagnostics version'
        ∈ state.debugLog ("Document changed: " ++ uri)
          ++ (state.changeDocument uri version texts).refresh uri := hmem
    rw [hstate, State.refresh, hdisabled, List.append_nil] at hmem
    exact not_mem_debugLog hmem
  · refine ⟨?_, fun other diagnostics version' hmem => ?_⟩
    · exact congrArg (State.mk state.engine state.config) (erase_of_get?_eq_none h)
    · have hmem : Notification.publish other diagnostics version'
          ∈ state.debugLog ("Document closed: " ++ uri)
            ++ if (state.documents.get? uri).isSome then [.publish uri [] none] else [] := hmem
      rw [h, Option.isSome_none, if_neg Bool.false_ne_true, List.append_nil] at hmem
      exact not_mem_debugLog hmem

/-- **A session stays in step.** After every part of an orderly session, what was last
published for an address are the diagnostics of the current text, if a document is open
there in an enabled language, and nothing otherwise. Changing or closing a document that is
not open leaves the state as it was and publishes nothing. A request for completions is
answered with the entries that are offered for the current text of a document that is open in an
enabled language, each as the item of its place, and with nothing exactly if there is no such
document. -/
theorem session_in_step {engine : Engine} {config : Config} {events played rest : List Event}
    (h : Orderly config.languages events) (hplayed : events = played ++ rest) :
    let start := State.start engine config
    let outcomes := start.run events
    (∀ uri,
        (∀ language text, IsOpen played uri language text → language ∈ config.languages →
          lastPublished (outcomes.take played.length) uri = publishedDiagnostics engine text)
        ∧ ((¬ ∃ language text, IsOpen played uri language text ∧ language ∈ config.languages) →
          lastPublished (outcomes.take played.length) uri = []))
      ∧ ∀ event later, rest = event :: later →
          ∃ outcome, outcomes[played.length]? = some outcome
            ∧ outcome = (start.after played).step event
            ∧ (∀ uri, (∃ version texts, event = .changed uri version texts) ∨ event = .closed uri →
                (¬ ∃ language text, IsOpen played uri language text) →
                  outcome.state = start.after played
                    ∧ ∀ other diagnostics version,
                        .publish other diagnostics version ∉ outcome.notifications)
            ∧ ∀ uri line character, event = .completion uri line character →
                (outcome.reply = .completions none
                  ↔ ¬ ∃ language text, IsOpen played uri language text
                      ∧ language ∈ config.languages)
                ∧ ∀ language text, IsOpen played uri language text →
                    language ∈ config.languages →
                      outcome.reply
                        = .completions (some ((complete engine.catalog text).zipIdx.map
                            fun item => .ofEntry item.1 item.2)) := by
  intro start outcomes
  subst hplayed
  have hrun : outcomes = start.run played ++ (start.after played).run rest :=
    start.run_append played rest
  have hlength : (start.run played).length = played.length := start.length_run played
  constructor
  · intro uri
    rw [hrun, List.take_left' hlength, lastPublished_run h.of_append]
    constructor
    · exact fun language text hopen hlanguage => shown_of_isOpen hopen hlanguage
    · exact fun hnone => shown_of_enabled?_eq_none (enabled?_eq_none_of_not_isOpen hnone)
  · rintro event later rfl
    refine ⟨(start.after played).step event, ?_, rfl, ?_, ?_⟩
    · rw [hrun, List.getElem?_append_right (Nat.le_of_eq hlength), hlength, Nat.sub_self]
      rfl
    · intro uri hevent hnone
      exact step_of_get?_eq_none (get?_eq_none_of_not_isOpen hnone) hevent
    · rintro uri line character rfl
      refine ⟨⟨?_, fun hnone => reply_of_not_isOpen hnone line character⟩,
        fun language text hopen hlanguage => reply_of_isOpen hopen hlanguage line character⟩
      rintro hreply ⟨language, text, hopen, hlanguage⟩
      rw [reply_of_isOpen hopen hlanguage] at hreply
      cases hreply

/-- A session with two documents, of which one is in a language that is not enabled. It is
changed before it is opened, and the other one is changed twice at once before completions are
asked for. -/
theorem session_in_step_two_documents :
    let engine : Engine := ⟨walkCatalog, Rule.ofCatalog walkCatalog, .bounded⟩
    let config : Config := { languages := ["scheme"] }
    let played : List Event :=
      [ .opened "a" "scheme" 1 "( up)", .changed "b" 1 ["x"], .opened "b" "plaintext" 2 "y",
        .changed "a" 3 ["(up)", "( down)"], .closed "c" ]
    let events := played ++ [.completion "a" 0 0]
    Engine.ofCatalog walkCatalog = .ok engine ∧ Orderly config.languages events
      ∧ lastPublished (((State.start engine config).run events).take 5) "a"
          = publishedDiagnostics engine "( down)"
      ∧ lastPublished (((State.start engine config).run events).take 5) "b" = []
      ∧ ∃ outcome, ((State.start engine config).run events)[5]? = some outcome
          ∧ outcome.reply = .completions (some ((complete walkCatalog "( down)").zipIdx.map
              fun item => .ofEntry item.1 item.2)) := by
  intro engine config played events
  have hlanguages : ∀ uri language version text,
      .opened uri language version text ∈ events → uri = "b" → language = "plaintext" := by
    rintro uri language version text hmem rfl
    simp [events, played] at hmem
    exact hmem.1
  have hplain : "plaintext" ∉ config.languages := by decide
  have horderly : Orderly config.languages events := by
    intro before uri language version text after hevents hlanguage language' text' hopen
    obtain ⟨version', first, hmem⟩ := hopen.exists_mem
    have hopened : Event.opened uri language version text ∈ events :=
      hevents ▸ List.mem_append_right before List.mem_cons_self
    have huri : uri = "b" := by
      simp [events, played] at hopened
      rcases hopened with ⟨-, rfl, -⟩ | ⟨rfl, -⟩
      · exact absurd List.mem_cons_self hlanguage
      · rfl
    rw [hlanguages uri language' version' first (hevents ▸ List.mem_append_left _ hmem) huri]
    exact hplain
  obtain ⟨hshown, hanswered⟩ := @session_in_step engine config _ _ _ horderly rfl
  obtain ⟨outcome, houtcome, -, -, hreply⟩ := hanswered (.completion "a" 0 0) [] rfl
  have ha : IsOpen played "a" "scheme" "( down)" :=
    ⟨[], 1, "( up)", _, rfl, by decide, rfl⟩
  have hb : ¬ ∃ language text, IsOpen played "b" language text ∧ language ∈ config.languages := by
    rintro ⟨language, text, hopen, hlanguage⟩
    obtain ⟨version, first, hmem⟩ := hopen.exists_mem
    rw [hlanguages "b" language version first (List.mem_append_left _ hmem) rfl] at hlanguage
    exact hplain hlanguage
  exact ⟨ofCatalog_walkCatalog, horderly, (hshown "a").1 _ _ ha List.mem_cons_self,
    (hshown "b").2 hb, outcome, houtcome,
    (hreply "a" 0 0 rfl).2 _ _ ha List.mem_cons_self⟩

end Server

end TurtleAssist
