import Mathlib.Data.List.Basic
import TurtleAssist.Proofs.Server.Session

/-!
# What one event publishes

An event publishes at most once, and only for its own address. An opening and a change
publish the diagnostics and the version of the document as it is after them, provided that it
is enabled then. A closing publishes the empty list without a version, provided that there was
a document to be closed. Nothing else publishes at all.

The text of the document after a change is the last of the new texts. Its version is that of
the change, unless there is no new text, since the version is entered along with the texts.
-/

namespace TurtleAssist

/-- The version is that of the new texts, if there are any. -/
theorem Document.version_foldl_update {document : Document} {version : Int} {texts : List String} :
    (texts.foldl (·.update version ·) document).version
      = if texts = [] then document.version else version := by
  have hkept : ∀ (texts : List String) (document : Document), document.version = version →
      (texts.foldl (·.update version ·) document).version = version := by
    intro texts
    induction texts with
    | nil => exact fun _ h => h
    | cons text texts ih => exact fun document _ => ih (document.update version text) rfl
  cases texts with
  | nil => rfl
  | cons text texts =>
    rw [if_neg (List.cons_ne_nil _ _)]
    exact hkept texts (document.update version text) rfl

namespace Server

/-- The diagnostics and the version that a notification publishes for an address. -/
def Notification.publication? (uri : String) :
    Notification → Option (List PublishedDiagnostic × Option Int)
  | .publish other diagnostics version => if other = uri then some (diagnostics, version) else none
  | .log _ => none

/-- **What is published for an address** by an event, in order. -/
def Outcome.publications (outcome : Outcome) (uri : String) :
    List (List PublishedDiagnostic × Option Int) :=
  outcome.notifications.filterMap (Notification.publication? uri)

section Publications

variable {state : State} {uri : String}

/-- Without the versions, these are the published diagnostics. -/
theorem map_fst_publications (outcome : Outcome) (uri : String) :
    (outcome.publications uri).map Prod.fst
      = outcome.notifications.filterMap (Notification.publishedFor? uri) := by
  rw [Outcome.publications, List.map_filterMap]
  refine List.filterMap_congr fun notification _ => ?_
  cases notification with
  | log message => rfl
  | publish other diagnostics version =>
    show (if other = uri then some (diagnostics, version) else none).map Prod.fst
      = if other = uri then some diagnostics else none
    by_cases h : other = uri
    · rw [if_pos h, if_pos h]
      rfl
    · rw [if_neg h, if_neg h]
      rfl

/-- **An event at another address**, or at none, publishes nothing for an address. -/
theorem publications_step_of_address_ne {event : Event} (h : event.address? ≠ some uri) :
    (state.step event).publications uri = [] := by
  have hnone := map_fst_publications (state.step event) uri
  rw [filterMap_step_of_address_ne h] at hnone
  exact List.map_eq_nil_iff.mp hnone

theorem filterMap_publication?_debugLog (message : String) :
    (state.debugLog message).filterMap (Notification.publication? uri) = [] := by
  unfold State.debugLog
  by_cases h : state.config.debug = true
  · rw [if_pos h]
    rfl
  · rw [if_neg h]
    rfl

/-- Publishing anew publishes once if the document is enabled, with its version. -/
theorem filterMap_publication?_refresh :
    (state.refresh uri).filterMap (Notification.publication? uri)
      = ((state.enabled? uri).map fun document =>
          (publishedDiagnostics state.engine document.text, some document.version)).toList := by
  unfold State.refresh
  cases state.enabled? uri with
  | none => rfl
  | some document => simp [Notification.publication?]

/-- The document that has been opened is enabled if its language is. -/
theorem enabled?_openDocument (document : Document) :
    (state.openDocument uri document).enabled? uri
      = if document.language ∈ state.config.languages then some document else none := by
  show Option.filter _ ((state.documents.insert uri document).get? uri) = _
  rw [Documents.get?_insert, if_pos rfl]
  simp [Option.filter, Document.isEnabled, State.openDocument]

/-- The document that has been changed is enabled if it was before. -/
theorem enabled?_changeDocument (version : Int) (texts : List String) :
    (state.changeDocument uri version texts).enabled? uri
      = (state.enabled? uri).map fun document => texts.foldl (·.update version ·) document := by
  unfold State.changeDocument
  cases hdocument : state.documents.get? uri with
  | none => simp [State.enabled?, hdocument]
  | some document =>
    show (state.openDocument uri _).enabled? uri = _
    rw [enabled?_openDocument, Document.language_foldl_update, State.enabled?, hdocument]
    by_cases h : document.language ∈ state.config.languages
    · simp [Option.filter, Document.isEnabled, h]
    · simp [Option.filter, Document.isEnabled, h]

/-- A document that has been closed is not enabled. -/
theorem enabled?_closeDocument : (state.closeDocument uri).enabled? uri = none := by
  show Option.filter _ ((state.documents.erase uri).get? uri) = none
  rw [Documents.get?_erase, if_pos rfl]
  rfl

/-- An event at another address, or at none, leaves the document as it was. -/
theorem enabled?_step_of_address_ne {event : Event} (h : event.address? ≠ some uri) :
    (state.step event).state.enabled? uri = state.enabled? uri := by
  rw [State.enabled?, State.enabled?, Agrees.get?_step_of_address_ne h,
    (state.step_settings event).2]

/-- **An opening** publishes once if the language is enabled, and nothing otherwise. -/
theorem publications_step_opened (language : String) (version : Int) (text : String) :
    (state.step (.opened uri language version text)).publications uri
      = if language ∈ state.config.languages then
          [(publishedDiagnostics state.engine text, some version)]
        else [] := by
  show List.filterMap _ (state.debugLog _ ++ State.refresh _ uri) = _
  rw [List.filterMap_append, filterMap_publication?_debugLog, List.nil_append,
    filterMap_publication?_refresh, enabled?_openDocument]
  by_cases h : language ∈ state.config.languages
  · rw [if_pos h, if_pos h]
    rfl
  · rw [if_neg h, if_neg h]
    rfl

/-- **A change** publishes once if the document is open and enabled, and nothing otherwise. -/
theorem publications_step_changed (version : Int) (texts : List String) :
    (state.step (.changed uri version texts)).publications uri
      = ((state.enabled? uri).map fun document =>
          (publishedDiagnostics state.engine (texts.getLast?.getD document.text),
            some (if texts = [] then document.version else version))).toList := by
  have hengine : (state.changeDocument uri version texts).engine = state.engine :=
    (state.step_settings (.changed uri version texts)).1
  show List.filterMap _ (state.debugLog _ ++ (state.changeDocument uri version texts).refresh uri)
    = _
  rw [List.filterMap_append, filterMap_publication?_debugLog, List.nil_append,
    filterMap_publication?_refresh, enabled?_changeDocument, hengine, Option.map_map]
  simp only [Function.comp_def, Document.text_foldl_update, Document.version_foldl_update]

/-- **A closing** publishes the empty list if the document is open, and nothing otherwise. -/
theorem publications_step_closed :
    (state.step (.closed uri)).publications uri
      = if (state.documents.get? uri).isSome then [([], none)] else [] := by
  show List.filterMap _ (state.debugLog _ ++ _) = _
  rw [List.filterMap_append, filterMap_publication?_debugLog, List.nil_append]
  by_cases h : (state.documents.get? uri).isSome = true
  · rw [if_pos h, if_pos h]
    simp [Notification.publication?]
  · rw [if_neg h, if_neg h]
    rfl

end Publications

end Server

end TurtleAssist
