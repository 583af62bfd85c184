import Mathlib.Data.List.Basic
import TurtleAssist.Proofs.Server.Session

/-!
# Documents do not disturb each other

Whoever edits one document is served as if no other were open. Take out of a session all
events that are about other documents: each event that is left gets the same answer and
sends the same notifications as before (`session_isolated`). What an event on another
document sends is never published for this one.

The reason is that of all the table of documents only one place is looked at. Two states
are the same for a document if they have the same engine, the same configuration and the
same document at its address (`State.SameFor`). An event on another document leads to a
state that is the same for this one, and all other events do the same in states that are
the same.
-/

namespace TurtleAssist.Server

/-- The address of the document that an event is about. A request for completions is about
a document too, although it leaves it as it is. -/
def Event.subject? : Event → Option String
  | .completion uri _ _ => some uri
  | event => event.address?

/-- Whether an event is about a document other than the one at an address. -/
def Event.isForeign (uri : String) (event : Event) : Bool :=
  event.subject?.any (· != uri)

/-- What an editor gets to see of an outcome. -/
def Outcome.visible (outcome : Outcome) : Reply × List Notification :=
  (outcome.reply, outcome.notifications)

theorem Event.isForeign_iff {uri : String} {event : Event} :
    event.isForeign uri = true ↔ ∃ other, event.subject? = some other ∧ other ≠ uri := by
  rw [isForeign, Option.any_eq_true]
  simp only [bne_iff_ne]

/-- An event on another document is at another address, or at none. -/
theorem Event.address?_ne_of_isForeign {uri : String} {event : Event}
    (h : event.isForeign uri = true) : event.address? ≠ some uri := by
  obtain ⟨other, hsubject, hne⟩ := isForeign_iff.mp h
  cases event with
  | completion => exact nofun
  | _ =>
    intro haddress
    exact hne (Option.some.inj (hsubject.symm.trans haddress))

namespace State

variable {state other : State} {uri : String} {event : Event}

/-- **Two states are the same for a document**: they have it at its address, or both have
not, and they have the same engine and the same configuration. -/
structure SameFor (uri : String) (state other : State) : Prop where
  engine : other.engine = state.engine
  config : other.config = state.config
  document : other.documents.get? uri = state.documents.get? uri

namespace SameFor

theorem refl (uri : String) (state : State) : SameFor uri state state :=
  ⟨rfl, rfl, rfl⟩

theorem symm (h : SameFor uri state other) : SameFor uri other state :=
  ⟨h.engine.symm, h.config.symm, h.document.symm⟩

theorem trans {third : State} (h : SameFor uri state other) (h' : SameFor uri other third) :
    SameFor uri state third :=
  ⟨h'.engine.trans h.engine, h'.config.trans h.config, h'.document.trans h.document⟩

/-! ## What is read of a state -/

theorem debugLog (h : SameFor uri state other) (message : String) :
    other.debugLog message = state.debugLog message := by
  rw [State.debugLog, State.debugLog, h.config]

theorem enabled? (h : SameFor uri state other) : other.enabled? uri = state.enabled? uri := by
  rw [State.enabled?, State.enabled?, h.config, h.document]

theorem refresh (h : SameFor uri state other) : other.refresh uri = state.refresh uri := by
  rw [State.refresh, State.refresh, h.enabled?, h.engine]

/-! ## What becomes of a state -/

theorem openDocument (h : SameFor uri state other) (document : Document) :
    SameFor uri (state.openDocument uri document) (other.openDocument uri document) where
  engine := h.engine
  config := h.config
  document := by
    show (other.documents.insert uri _).get? uri = (state.documents.insert uri _).get? uri
    rw [Documents.get?_insert, Documents.get?_insert, if_pos rfl, if_pos rfl]

theorem changeDocument (h : SameFor uri state other) (version : Int) (texts : List String) :
    SameFor uri (state.changeDocument uri version texts)
      (other.changeDocument uri version texts) := by
  unfold State.changeDocument
  rw [h.document]
  cases state.documents.get? uri with
  | none => exact h
  | some document => exact h.openDocument _

theorem closeDocument (h : SameFor uri state other) :
    SameFor uri (state.closeDocument uri) (other.closeDocument uri) where
  engine := h.engine
  config := h.config
  document := by
    show (other.documents.erase uri).get? uri = (state.documents.erase uri).get? uri
    rw [Documents.get?_erase, Documents.get?_erase, if_pos rfl, if_pos rfl]

/-! ## One event -/

/-- **An event on another document** leads to a state that is the same for this one. -/
theorem step_of_isForeign (h : event.isForeign uri = true) :
    SameFor uri state (state.step event).state where
  engine := (state.step_settings event).1
  config := (state.step_settings event).2
  document := Agrees.get?_step_of_address_ne (Event.address?_ne_of_isForeign h)

/-- **Every other event** shows the same in states that are the same, and leads to states
that are the same again. -/
theorem step (h : SameFor uri state other) (hevent : event.isForeign uri = false) :
    (other.step event).visible = (state.step event).visible
      ∧ SameFor uri (state.step event).state (other.step event).state := by
  have hsubject : ∀ subject, event.subject? = some subject → subject = uri := by
    intro subject hsome
    by_contra hne
    rw [Event.isForeign_iff.mpr ⟨subject, hsome, hne⟩] at hevent
    cases hevent
  cases event with
  | connect => exact ⟨congrArg (Reply.description, ·) (h.debugLog _), h⟩
  | connected => exact ⟨rfl, h⟩
  | shutdown => exact ⟨congrArg (Reply.done, ·) (h.debugLog _), h⟩
  | opened subject language version text =>
    obtain rfl := hsubject subject rfl
    have hnext := h.openDocument ⟨text, language, version⟩
    exact ⟨congrArg (Reply.done, ·) (congrArg₂ (· ++ ·) (h.debugLog _) hnext.refresh), hnext⟩
  | changed subject version texts =>
    obtain rfl := hsubject subject rfl
    have hnext := h.changeDocument version texts
    exact ⟨congrArg (Reply.done, ·) (congrArg₂ (· ++ ·) (h.debugLog _) hnext.refresh), hnext⟩
  | closed subject =>
    obtain rfl := hsubject subject rfl
    refine ⟨congrArg (Reply.done, ·) (congrArg₂ (· ++ ·) (h.debugLog _) ?_), h.closeDocument⟩
    rw [h.document]
  | completion subject line character =>
    obtain rfl := hsubject subject rfl
    refine ⟨?_, h⟩
    show (Reply.completions ((other.enabled? subject).map _), other.debugLog _)
      = (Reply.completions ((state.enabled? subject).map _), state.debugLog _)
    rw [h.enabled?, h.engine, h.debugLog]

/-! ## A whole session -/

/-- Without the events on other documents a session shows the same of those that are
left. -/
theorem run (h : SameFor uri state other) (events : List Event) :
    ((events.zip (state.run events)).filter (!·.1.isForeign uri)).map (·.2.visible)
      = (other.run (events.filter (!·.isForeign uri))).map Outcome.visible := by
  induction events generalizing state other with
  | nil => rfl
  | cons event events ih =>
    show List.map _ (List.filter _
      ((event, state.step event) :: events.zip ((state.step event).state.run events))) = _
    cases hforeign : event.isForeign uri with
    | true =>
      rw [List.filter_cons_of_neg (by simp [hforeign]),
        List.filter_cons_of_neg (by simp [hforeign])]
      exact ih ((step_of_isForeign hforeign).symm.trans h)
    | false =>
      obtain ⟨hvisible, hnext⟩ := h.step hforeign
      rw [List.filter_cons_of_pos (by simp [hforeign]),
        List.filter_cons_of_pos (by simp [hforeign])]
      exact congrArg₂ List.cons hvisible.symm (ih hnext)

end SameFor

/-- Each outcome of a session is that of its event in some state. -/
theorem exists_eq_step_of_mem_zip_run {events : List Event} {played : Event × Outcome}
    (h : played ∈ events.zip (state.run events)) :
    ∃ before : State, played.2 = before.step played.1 := by
  induction events generalizing state with
  | nil => cases h
  | cons event events ih =>
    rcases List.mem_cons.mp h with rfl | hrest
    · exact ⟨state, rfl⟩
    · exact ih hrest

end State

/-- **Documents are isolated from each other.** Without the events on other documents, each
event of a session that is left is answered as before and sends the same notifications. No
event on another document publishes anything for the one at the address. -/
theorem session_isolated (engine : Engine) (config : Config) (events : List Event)
    (uri : String) :
    let start := State.start engine config
    let played := events.zip (start.run events)
    (played.filter (!·.1.isForeign uri)).map (·.2.visible)
        = (start.run (events.filter (!·.isForeign uri))).map Outcome.visible
      ∧ ∀ one ∈ played, one.1.isForeign uri = true → ∀ diagnostics version,
          .publish uri diagnostics version ∉ one.2.notifications := by
  intro start played
  refine ⟨(State.SameFor.refl uri start).run events, ?_⟩
  intro one hone hforeign diagnostics version hmem
  obtain ⟨before, houtcome⟩ := State.exists_eq_step_of_mem_zip_run hone
  have hpublished : diagnostics
      ∈ one.2.notifications.filterMap (Notification.publishedFor? uri) :=
    List.mem_filterMap.mpr ⟨_, hmem, if_pos rfl⟩
  rw [houtcome,
    filterMap_step_of_address_ne (Event.address?_ne_of_isForeign hforeign)] at hpublished
  cases hpublished

end TurtleAssist.Server
