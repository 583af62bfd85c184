import TurtleAssist.Proofs.Json.Decoding

/-!
# Records in trees

A record is read member by member into a draft, and the draft is finished at the end. The
same can be done with the tree: `Tree.draft?` goes through the members of an object, or
through the items of an array beside the fields in order, and enters what the fields take
from them. The reader of a record does with every written form what this does with the tree
(`reads_record`).
-/

namespace TurtleAssist.Json

/-- **A field in drafts of the type `σ`**: how its value is read, what it takes from a tree,
and where the draft keeps it. -/
structure Slot (σ : Type) where
  {β : Type}
  key : String
  reader : Reader β
  value? : Tree → Option β
  enter : β → σ → σ
  get : σ → Option β
  reads : reader.Reads value?
  get_enter : ∀ value draft, get (enter value draft) = some value

/-- The field, as a schema has it. -/
def Slot.field {σ : Type} (slot : Slot σ) : Field σ :=
  .of slot.key slot.reader slot.enter fun draft => (slot.get draft).isSome

variable {σ α : Type}

/-- Enters the members of an object into a draft, unless there is a key of a field that has
its value already, or a value that the field does not take. -/
def enterMembers (slots : List (Slot σ)) : List (String × Tree) → σ → Option σ
  | [], draft => some draft
  | (key, tree) :: members, draft =>
    match slots.find? (·.key == key) with
    | some slot =>
      if (slot.get draft).isSome then none
      else (slot.value? tree).bind fun value => enterMembers slots members (slot.enter value draft)
    | none => enterMembers slots members draft

/-- Enters the items of an array into a draft, one for each field. -/
def enterItems : List (Slot σ) → List Tree → σ → Option σ
  | slot :: slots, tree :: items, draft =>
    (slot.value? tree).bind fun value => enterItems slots items (slot.enter value draft)
  | _, _, draft => some draft

/-- The draft of a record, if the tree is an object or an array of the fields. -/
def Tree.draft? (slots : List (Slot σ)) (blank : σ) : Tree → Option σ
  | .object members => enterMembers slots members blank
  | .array items => if items.length ≤ slots.length then enterItems slots items blank else none
  | _ => none

theorem Tree.draft?_eq_none_of_begins {tree : Tree} {c : Char} (slots : List (Slot σ)) (blank : σ)
    (h : tree.begins c = true) (hobject : c ≠ '\x7b') (harray : c ≠ '[') :
    tree.draft? slots blank = none := by
  cases tree with
  | object members => exact absurd (beq_iff_eq.mp h) hobject
  | array items => exact absurd (beq_iff_eq.mp h) harray
  | _ => rfl

namespace Reader

variable {s t u : List Char}

/-- Before the end of an object there is no member. -/
theorem yields_beforeKey_close (first : Bool) (h : Blanks s ('\x7d' :: t)) :
    Yields (beforeKey first) s false ('\x7d' :: t) :=
  (yields_next h fun _ hx => Option.some.inj hx ▸ rfl).bind (yields_pure false _)

/-- Before a member, what separates it from the one before is passed over, and the opening
quote of its key. -/
theorem yields_beforeKey {first : Bool} (h : Separated first s ('"' :: t)) :
    Yields (beforeKey first) s true t := by
  cases h with
  | first h =>
    refine (yields_next h fun _ hx => Option.some.inj hx ▸ rfl).bind ?_
    exact (yields_skip '"' t).bind (yields_pure true t)
  | comma hcomma h =>
    refine (yields_next hcomma fun _ hx => Option.some.inj hx ▸ rfl).bind ?_
    refine (yields_skip ',' _).bind ?_
    refine (yields_next h fun _ hx => Option.some.inj hx ▸ rfl).bind ?_
    exact (yields_skip '"' t).bind (yields_pure true t)

theorem yields_colon (h : Blanks s (':' :: t)) : Yields colon s () t :=
  (yields_next h fun _ hx => Option.some.inj hx ▸ rfl).bind (yields_skip ':' t)

theorem refuses_duplicateField (key : String) (s : List Char) :
    Refuses (duplicateField key : Reader α) s := by
  refine refuses_bind fun c t => ?_
  dsimp only
  split
  · exact refuses_bind fun _ _ => refuses_failHere _ _
  · exact refuses_failHere _ _

/-- **The members of an object are entered** one after another. -/
theorem answers_members {slots : List (Slot σ)} {first : Bool} {members : List (String × Tree)}
    (h : WritesMembers first members s t) {bound : List Char} (hbound : s.length ≤ bound.length)
    (draft : σ) :
    Answers (Reader.members (slots.map Slot.field) bound first draft) s
      (enterMembers slots members draft) ('\x7d' :: t) := by
  induction members generalizing first s bound draft with
  | nil =>
    cases bound with
    | nil => exact absurd (Nat.lt_of_lt_of_le h.length_lt hbound) (Nat.not_lt_zero _)
    | cons b bound =>
      cases h with
      | close h => exact (yields_beforeKey_close first h).bind (yields_pure draft _)
  | cons member members ih =>
    cases bound with
    | nil => exact absurd (Nat.lt_of_lt_of_le h.length_lt hbound) (Nat.not_lt_zero _)
    | cons b bound =>
      cases h with
      | @member _ key tree _ _ t' u' v' w' x' _ hbefore hkey hcolon hblank hvalue h =>
        have hshorter : x'.length ≤ bound.length := by
          have hbefore := hbefore.length_le
          have hkey := hkey.length_lt
          have hcolon := hcolon.length_le
          have hblank := hblank.length_le
          have hvalue := hvalue.length_lt
          simp only [List.length_cons] at hbefore hcolon hbound
          omega
        refine (yields_beforeKey hbefore).bind_answers ((yields_string hkey).bind_answers ?_)
        unfold enterMembers
        have hfind : (slots.map Slot.field).find? (·.key == key)
            = (slots.find? (·.key == key)).map Slot.field := List.find?_map
        rw [hfind]
        cases slots.find? (·.key == key) with
        | none =>
          refine (yields_colon hcolon).bind_answers ?_
          exact (yields_skipValue hblank hvalue h.followsValue).bind_answers (ih h hshorter draft)
        | some slot =>
          show Answers (if (slot.get draft).isSome then _ else _) _
            (if (slot.get draft).isSome then _ else _) _
          by_cases hset : (slot.get draft).isSome
          · rw [if_pos hset, if_pos hset]
            exact refuses_duplicateField key _
          · rw [if_neg hset, if_neg hset]
            refine (yields_colon hcolon).bind_answers ?_
            have hread : Answers slot.field.read v' ((slot.value? tree).map slot.enter) x' :=
              slot.reads.map slot.enter hblank hvalue h.followsValue
            cases htree : slot.value? tree with
            | none =>
              rw [htree] at hread
              exact hread.bind
            | some value =>
              rw [htree] at hread
              exact Yields.bind_answers hread (ih h hshorter _)

/-- **The items of an array are entered** one for each field. What is left are the items
for which there is no field. -/
theorem answers_elements {slots : List (Slot σ)} {items : List Tree} {taken : Nat}
    (h : WritesItems (taken == 0) items s t) (draft : σ) :
    ∃ first u taken', WritesItems first (items.drop slots.length) u t
      ∧ Answers (elements (slots.map Slot.field) taken draft) s
          ((enterItems slots items draft).map (·, taken')) u := by
  induction slots generalizing items s taken draft with
  | nil => exact ⟨taken == 0, s, taken, h, yields_pure _ s⟩
  | cons slot slots ih =>
    cases h with
    | close h =>
      refine ⟨true, ']' :: t, taken, .close (.none _), ?_⟩
      exact (yields_beforeItem_close _ h).bind (yields_pure _ _)
    | @item _ tree items _ v w _ hbefore htree h =>
      obtain ⟨c, r, rfl, hbegins⟩ := htree.exists_begins
      have hread : Answers slot.field.read (c :: r) ((slot.value? tree).map slot.enter) w :=
        slot.reads.map slot.enter (.none _) htree h.followsValue
      have hrest : WritesItems (taken + 1 == 0) items w t := h
      cases hvalue : slot.value? tree with
      | none =>
        rw [hvalue] at hread
        obtain ⟨first, u, taken', hleft, -⟩ := ih hrest draft
        refine ⟨first, u, taken', hleft, ?_⟩
        rw [enterItems, hvalue]
        exact (yields_beforeItem hbefore hbegins).bind_refuses hread.bind
      | some value =>
        rw [hvalue] at hread
        obtain ⟨first, u, taken', hleft, hanswers⟩ := ih hrest (slot.enter value draft)
        refine ⟨first, u, taken', hleft, ?_⟩
        rw [enterItems, hvalue]
        exact (yields_beforeItem hbefore hbegins).bind_answers (Yields.bind_answers hread hanswers)

/-- The end of an array is passed over if no items are left. -/
theorem yields_endOfElements {first : Bool} (h : WritesItems first [] s t) :
    Yields endOfElements s () t := by
  cases h with
  | close h => exact (yields_next h fun _ hx => Option.some.inj hx ▸ rfl).bind (yields_skip ']' t)

/-- Items that are left are not. -/
theorem refuses_endOfElements {first : Bool} {item : Tree} {items : List Tree}
    (h : WritesItems first (item :: items) s t) : Refuses endOfElements s := by
  have hother : ∀ {c : Char} {s r : List Char}, Blanks s (c :: r) → isBlank c = false → c ≠ ']' →
      Refuses endOfElements s := by
    intro c s r hblank hc hclosing
    refine (yields_next hblank fun _ hx => Option.some.inj hx ▸ hc).bind_refuses ?_
    split
    · next hnone => cases hnone
    · next hsome => exact absurd (Option.some.inj hsome) hclosing
    · refine refuses_bind fun _ _ => refuses_bind fun next _ => ?_
      split
      · exact refuses_failAhead _ _
      · exact refuses_failAhead _ _
    · exact refuses_failAhead _ _
  cases h with
  | item hbefore hitem =>
    obtain ⟨c, r, rfl, hbegins⟩ := hitem.exists_begins
    cases hbefore with
    | first hblank =>
      obtain ⟨hc, hclosing⟩ := Tree.isBlank_eq_false_of_begins hbegins
      exact hother hblank hc hclosing
    | comma hcomma => exact hother hcomma rfl (by decide)

/-- So the end of an array is found if there are no more items than fields. -/
theorem answers_endOfElements {first : Bool} {items : List Tree} {n : Nat}
    (h : WritesItems first (items.drop n) s t) (value : α) :
    Answers (do endOfElements; return value) s (if items.length ≤ n then some value else none)
      t := by
  by_cases hlength : items.length ≤ n
  · rw [List.drop_eq_nil_of_le hlength] at h
    rw [if_pos hlength]
    exact (yields_endOfElements h).bind (yields_pure value t)
  · rw [List.drop_eq_getElem_cons (Nat.lt_of_not_le hlength)] at h
    rw [if_neg hlength]
    exact (refuses_endOfElements h).bind

/-- **A record is read** as its draft is made from the tree and then finished. -/
theorem reads_record {schema : Schema σ α} {slots : List (Slot σ)}
    (hfields : schema.fields = slots.map Slot.field) :
    Reads (record schema) fun tree =>
      (tree.draft? slots schema.blank).bind fun draft => (schema.finish draft).toOption := by
  intro tree s t u hblank h hu
  obtain ⟨c, r, rfl, hbegins⟩ := h.exists_begins
  refine (yields_next hblank (Tree.startsToken_of_begins hbegins r)).bind_answers ?_
  dsimp only
  split
  · next hnone => cases hnone
  · next hopen =>
    cases hopen
    obtain ⟨members, rfl⟩ := Tree.exists_object_of_begins hbegins
    cases h with
    | object h =>
      have hread : Answers (Reader.members (slots.map Slot.field) r true schema.blank) r
          (enterMembers slots members schema.blank) ('\x7d' :: u) :=
        answers_members h (Nat.le_refl r.length) schema.blank
      rw [← hfields] at hread
      refine (yields_skip '\x7b' r).bind_answers ((yields_remaining r).bind_answers ?_)
      show Answers _ r ((enterMembers slots members schema.blank).bind _) u
      cases hdraft : enterMembers slots members schema.blank with
      | none =>
        rw [hdraft] at hread
        exact hread.bind
      | some draft =>
        rw [hdraft] at hread
        refine Yields.bind_answers hread ((yields_skip '\x7d' u).bind_answers ?_)
        show Answers _ u (schema.finish draft).toOption u
        cases schema.finish draft with
        | ok value => exact yields_pure value u
        | error key => exact refuses_failHere _ u
  · next hopen =>
    cases hopen
    obtain ⟨items, rfl⟩ := Tree.exists_array_of_begins hbegins
    cases h with
    | array h =>
      have h : WritesItems ((0 : Nat) == 0) items r u := h
      obtain ⟨first, v, taken, hleft, hread⟩ : ∃ first v taken,
          WritesItems first (items.drop slots.length) v u
            ∧ Answers (elements (slots.map Slot.field) 0 schema.blank) r
                ((enterItems slots items schema.blank).map (·, taken)) v :=
        answers_elements h schema.blank
      rw [← hfields] at hread
      refine (yields_skip '[' r).bind_answers ?_
      show Answers _ r ((if items.length ≤ slots.length then enterItems slots items schema.blank
        else none).bind _) u
      cases hdraft : enterItems slots items schema.blank with
      | none =>
        rw [hdraft] at hread
        rw [ite_self]
        exact hread.bind
      | some draft =>
        rw [hdraft] at hread
        have hanswer : ((if items.length ≤ slots.length then some draft else none).bind
            fun draft => (schema.finish draft).toOption)
            = if items.length ≤ slots.length then (schema.finish draft).toOption else none := by
          split
          · rfl
          · rfl
        rw [hanswer]
        refine Yields.bind_answers hread ?_
        dsimp only
        cases schema.finish draft with
        | ok value => exact answers_endOfElements hleft value
        | error key =>
          show Answers _ v (if items.length ≤ slots.length then none else none) u
          rw [ite_self]
          exact refuses_bind fun _ _ => refuses_failHere _ _
  · next hobject harray hsome =>
    obtain rfl := Option.some.inj hsome
    show Answers _ _ ((tree.draft? slots schema.blank).bind _) _
    rw [Tree.draft?_eq_none_of_begins slots schema.blank hbegins hobject harray]
    exact refuses_wrongType _ _ _

end Reader

end TurtleAssist.Json
