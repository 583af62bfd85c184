import Mathlib.Data.List.Basic
import TurtleAssist.Server.Session

/-!
# What the events of a session say

Which documents are open, in which language and with which text, can be said of the events
alone, with no server. A document is open if it was opened and not closed after that, it
has the language with which it was last opened, and its text is the last one given since
then (`IsOpen`).

Each event changes that in one way, and the four laws of this module say how: a document
that is opened is open with what is given, a changed one gets the last of the new texts, a
closed one is not open, and everything else stays as it was.
-/

namespace TurtleAssist.Server

/-- The texts that an event gives to the document at an address by changing it. -/
def Event.textsFor (uri : String) : Event → List String
  | .changed other _ texts => if other = uri then texts else []
  | _ => []

/-- An event that opens the document at an address. -/
def Event.Opens (uri : String) : Event → Prop
  | .opened other _ _ _ => other = uri
  | _ => False

instance (uri : String) : (event : Event) → Decidable (event.Opens uri)
  | .opened .. => inferInstanceAs (Decidable (_ = _))
  | .connect | .connected | .shutdown | .changed .. | .closed _ | .completion .. =>
    isFalse not_false

/-- The address of the document that an event opens, changes or closes. -/
def Event.address? : Event → Option String
  | .opened uri _ _ _ => some uri
  | .changed uri _ _ => some uri
  | .closed uri => some uri
  | _ => none

/-- **The document at an address is open** after the events, with a language and a text: it
was opened in that language, neither opened nor closed since then, and the text is the last
one that the opening or a later change has given. -/
def IsOpen (events : List Event) (uri language text : String) : Prop :=
  ∃ before version first after, events = before ++ .opened uri language version first :: after
    ∧ (∀ event ∈ after, ¬ event.Opens uri ∧ event ≠ .closed uri)
    ∧ text = ((after.flatMap (Event.textsFor uri)).getLast?).getD first

namespace IsOpen

variable {events : List Event} {event : Event} {uri language text : String}

theorem not_nil : ¬ IsOpen [] uri language text := by
  rintro ⟨before, version, first, after, hevents, -⟩
  exact List.append_ne_nil_of_right_ne_nil before (List.cons_ne_nil _ _) hevents.symm

/-- An open document was opened. -/
theorem exists_mem (h : IsOpen events uri language text) :
    ∃ version first, .opened uri language version first ∈ events := by
  obtain ⟨before, version, first, after, rfl, -⟩ := h
  exact ⟨version, first, List.mem_append_right before List.mem_cons_self⟩

/-- **One more event.** It opens the document itself, or it neither opens nor closes the
document and gives it the last of its texts. -/
theorem concat_iff :
    IsOpen (events ++ [event]) uri language text
      ↔ (∃ version, event = .opened uri language version text)
        ∨ (¬ event.Opens uri ∧ event ≠ .closed uri
            ∧ ∃ earlier, IsOpen events uri language earlier
                ∧ text = ((event.textsFor uri).getLast?).getD earlier) := by
  constructor
  · rintro ⟨before, version, first, after, hevents, hafter, htext⟩
    rcases List.eq_nil_or_concat' after with rfl | ⟨rest, last, rfl⟩
    · obtain ⟨-, hlast⟩ := List.append_inj' hevents rfl
      obtain rfl : event = _ := List.singleton_inj.mp hlast
      exact Or.inl ⟨version, congrArg _ htext.symm⟩
    · rw [← List.cons_append, ← List.append_assoc] at hevents
      obtain ⟨hearlier, hlast⟩ := List.append_inj' hevents rfl
      obtain rfl : event = last := List.singleton_inj.mp hlast
      rw [List.forall_mem_append, List.forall_mem_singleton] at hafter
      refine Or.inr ⟨hafter.2.1, hafter.2.2, _, ⟨before, version, first, rest, hearlier,
        hafter.1, rfl⟩, ?_⟩
      rw [htext, List.flatMap_append, List.getLast?_append, List.flatMap_singleton]
      cases (event.textsFor uri).getLast? <;> rfl
  · rintro (⟨version, rfl⟩ | ⟨hopens, hcloses, _, ⟨before, version, first, after, rfl, hafter,
      rfl⟩, rfl⟩)
    · exact ⟨events, version, text, [], rfl, List.forall_mem_nil _, rfl⟩
    · refine ⟨before, version, first, after ++ [event], ?_, ?_, ?_⟩
      · rw [List.append_assoc, List.cons_append]
      · rw [List.forall_mem_append, List.forall_mem_singleton]
        exact ⟨hafter, hopens, hcloses⟩
      · rw [List.flatMap_append, List.getLast?_append, List.flatMap_singleton]
        cases (event.textsFor uri).getLast? <;> rfl

/-- A document that is opened is open with what is given. -/
theorem concat_opened {version : Int} {language' text' : String} :
    IsOpen (events ++ [.opened uri language version text]) uri language' text'
      ↔ language' = language ∧ text' = text := by
  rw [concat_iff]
  constructor
  · rintro (⟨version', h⟩ | ⟨h, -⟩)
    · cases h
      exact ⟨rfl, rfl⟩
    · exact absurd rfl h
  · rintro ⟨rfl, rfl⟩
    exact Or.inl ⟨version, rfl⟩

/-- A changed document has the last of the new texts, and its own if there is none. -/
theorem concat_changed {version : Int} {texts : List String} :
    IsOpen (events ++ [.changed uri version texts]) uri language text
      ↔ ∃ earlier, IsOpen events uri language earlier ∧ text = texts.getLast?.getD earlier := by
  rw [concat_iff]
  constructor
  · rintro (⟨_, h⟩ | ⟨-, -, earlier, hearlier, htext⟩)
    · cases h
    · exact ⟨earlier, hearlier, by rw [htext, Event.textsFor, if_pos rfl]⟩
  · rintro ⟨earlier, hearlier, htext⟩
    exact Or.inr ⟨not_false, by simp, earlier, hearlier,
      by rw [htext, Event.textsFor, if_pos rfl]⟩

/-- A closed document is not open. -/
theorem not_concat_closed : ¬ IsOpen (events ++ [.closed uri]) uri language text := by
  rw [concat_iff]
  rintro (⟨_, h⟩ | ⟨-, h, -⟩)
  · cases h
  · exact h rfl

/-- An event at another address, or at none, leaves the document as it was. -/
theorem concat_of_address_ne (h : event.address? ≠ some uri) :
    IsOpen (events ++ [event]) uri language text ↔ IsOpen events uri language text := by
  have hopens : ¬ event.Opens uri := by
    cases event with
    | opened other language version text => exact fun hsame => h (congrArg some hsame)
    | _ => exact not_false
  have hcloses : event ≠ .closed uri := by
    rintro rfl
    exact h rfl
  have htexts : event.textsFor uri = [] := by
    cases event with
    | changed other version texts =>
      rw [Event.textsFor, if_neg]
      rintro rfl
      exact h rfl
    | _ => rfl
  rw [concat_iff]
  constructor
  · rintro (⟨version, rfl⟩ | ⟨-, -, earlier, hearlier, htext⟩)
    · exact absurd rfl h
    · rw [htexts] at htext
      exact htext ▸ hearlier
  · intro hopen
    exact Or.inr ⟨hopens, hcloses, text, hopen, by rw [htexts]; rfl⟩

end IsOpen

end TurtleAssist.Server
