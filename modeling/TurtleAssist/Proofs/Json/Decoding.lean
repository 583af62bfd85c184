import TurtleAssist.Json.Record
import TurtleAssist.Proofs.Json.Skipping

/-!
# Readers that decode trees

A reader of a value that is wanted decodes a tree if it does the same with every written
form of the tree: it takes what the tree is decoded to, or it refuses the form if the tree
is not decoded to anything (`Reads`). The readers of strings and Booleans are such readers,
and lists of values are read so if the values are (`Reads.list`).

Where the tree is not of the kind that is wanted, the first character tells. Whatever the
reader then finds out about the text, it refuses it in the end (`refuses_wrongType`).
-/

namespace TurtleAssist.Json

namespace Tree

variable {α : Type}

/-- The string that a tree is. -/
def text? : Tree → Option String
  | .string value => some value
  | _ => none

/-- The string that a tree is, or its absence if the tree is `null`. -/
def textOrNull? : Tree → Option (Option String)
  | .null => some none
  | .string value => some (some value)
  | _ => none

/-- The Boolean that a tree is. -/
def boolean? : Tree → Option Bool
  | .bool value => some value
  | _ => none

/-- The list that a tree is, if all its items can be decoded. -/
def list? (item : Tree → Option α) : Tree → Option (List α)
  | .array items => items.mapM item
  | _ => none

/-! ## The kind of a tree -/

variable {tree : Tree} {c : Char}

theorem eq_null_of_begins (h : tree.begins 'n' = true) : tree = .null := by
  cases tree with
  | null => rfl
  | bool value => cases value <;> cases h
  | _ => cases h

theorem eq_bool_of_begins (value : Bool)
    (h : tree.begins (if value then 't' else 'f') = true) : tree = .bool value := by
  cases tree with
  | bool other => cases value <;> cases other <;> first | rfl | cases h
  | _ => cases value <;> cases h

theorem exists_string_of_begins (h : tree.begins '"' = true) :
    ∃ value, tree = .string value := by
  cases tree with
  | string value => exact ⟨value, rfl⟩
  | bool value => cases value <;> cases h
  | _ => cases h

theorem exists_array_of_begins (h : tree.begins '[' = true) : ∃ items, tree = .array items := by
  cases tree with
  | array items => exact ⟨items, rfl⟩
  | bool value => cases value <;> cases h
  | _ => cases h

theorem exists_object_of_begins (h : tree.begins '\x7b' = true) :
    ∃ members, tree = .object members := by
  cases tree with
  | object members => exact ⟨members, rfl⟩
  | bool value => cases value <;> cases h
  | _ => cases h

/-! ## Trees of another kind -/

theorem text?_eq_none_of_begins (h : tree.begins c = true) (hc : c ≠ '"') :
    tree.text? = none := by
  cases tree with
  | string value => exact absurd (beq_iff_eq.mp h) hc
  | _ => rfl

theorem textOrNull?_eq_map_of_begins (h : tree.begins c = true) (hc : c ≠ 'n') :
    tree.textOrNull? = tree.text?.map some := by
  cases tree with
  | null => exact absurd (beq_iff_eq.mp h) hc
  | _ => rfl

theorem boolean?_eq_none_of_begins (h : tree.begins c = true) (htrue : c ≠ 't')
    (hfalse : c ≠ 'f') : tree.boolean? = none := by
  cases tree with
  | bool value =>
    cases value with
    | true => exact absurd (beq_iff_eq.mp h) htrue
    | false => exact absurd (beq_iff_eq.mp h) hfalse
  | _ => rfl

theorem list?_eq_none_of_begins (item : Tree → Option α) (h : tree.begins c = true)
    (hc : c ≠ '[') : tree.list? item = none := by
  cases tree with
  | array items => exact absurd (beq_iff_eq.mp h) hc
  | _ => rfl

end Tree

namespace Reader

variable {α β : Type} {s t u : List Char} {c : Char} {tree : Tree}

/-- **The reader decodes trees** as a function does: it takes from each written form of a
tree what the tree is decoded to, and it refuses those that are not decoded. -/
def Reads (reader : Reader α) (decode : Tree → Option α) : Prop :=
  ∀ ⦃tree s t u⦄, Blanks s t → Writes tree t u → FollowsValue u → Answers reader s (decode tree) u

theorem Reads.map {reader : Reader α} {decode : Tree → Option α} (h : Reads reader decode)
    (f : α → β) : Reads (f <$> reader) fun tree => (decode tree).map f :=
  fun _ _ _ _ hblank hwrites hu => (h hblank hwrites hu).map f

/-- **A text of one value** is read as a whole, or refused. -/
theorem Reads.run {reader : Reader α} {decode : Tree → Option α} (h : Reads reader decode)
    {text : List Char} (hwritten : IsWritten tree text) :
    match decode tree with
    | some value => reader.run text = .ok value
    | none => ∃ failure, reader.run text = .error failure := by
  obtain ⟨s, t, hblank, hwrites, hend⟩ := hwritten
  have hread := h hblank hwrites (hend.followsValue followsValue_nil)
  show match decode tree with
    | some value => (reader (Input.ofText text) >>= fun read => _) = Except.ok value
    | none => ∃ failure, (reader (Input.ofText text) >>= fun read => _) = Except.error failure
  cases hvalue : decode tree with
  | none =>
    rw [hvalue] at hread
    obtain ⟨failure, hfailure⟩ := hread ⟨1, 0⟩
    refine ⟨failure, ?_⟩
    rw [Input.ofText, hfailure]
    rfl
  | some value =>
    rw [hvalue] at hread
    obtain ⟨position, hposition⟩ := hread ⟨1, 0⟩
    obtain ⟨position', hleft⟩ := yields_blanks hend (fun _ hc => nomatch hc) position
    have hempty : (Input.dropWhile ⟨t, position⟩ isBlank).rest = [] :=
      congrArg (fun read => read.2.rest) (Except.ok.inj hleft)
    rw [Input.ofText, hposition]
    show (if (Input.dropWhile ⟨t, position⟩ isBlank).rest.isEmpty then _ else _) = _
    rw [hempty]
    rfl

/-! ## Values of another kind -/

/-- **A value of another kind is refused** in the end, whatever is found out about it. -/
theorem refuses_wrongType (c : Char) (wanted : String) (s : List Char) :
    Refuses (wrongType c wanted : Reader α) s := by
  have hlast : ∀ (found : Found) (t : List Char),
      Refuses (failHere (.wrongType found wanted) : Reader α) t := fun _ _ => refuses_failHere _ _
  have hthen : ∀ (name t : List Char) (found : Found), Refuses (do
      literal name
      let found ← pure found
      failHere (.wrongType found wanted) : Reader α) t :=
    fun _ _ _ => refuses_bind fun _ _ => refuses_bind hlast
  unfold wrongType
  dsimp only
  split
  · exact refuses_bind fun _ t => hthen _ t _
  split
  · exact refuses_bind fun _ t => hthen _ t _
  split
  · exact refuses_bind fun _ t => hthen _ t _
  split
  · exact refuses_bind fun _ _ => refuses_bind hlast
  split
  · exact refuses_bind hlast
  split
  · exact refuses_bind fun _ _ => refuses_bind hlast
  split
  · exact refuses_bind hlast
  split
  · exact refuses_bind hlast
  · exact refuses_bind hlast

/-! ## Strings and Booleans -/

theorem reads_text : Reads text Tree.text? := by
  intro tree s t u hblank h hu
  obtain ⟨c, r, rfl, hbegins⟩ := h.exists_begins
  refine (yields_next hblank (Tree.startsToken_of_begins hbegins r)).bind_answers ?_
  split
  · next hnone => cases hnone
  · next hquote =>
    cases hquote
    obtain ⟨value, rfl⟩ := Tree.exists_string_of_begins hbegins
    cases h with
    | string h => exact (yields_skip '"' r).bind (yields_string h)
  · next hother hsome =>
    obtain rfl := Option.some.inj hsome
    rw [Tree.text?_eq_none_of_begins hbegins hother]
    exact refuses_wrongType _ _ _

theorem reads_textOrNull : Reads textOrNull Tree.textOrNull? := by
  intro tree s t u hblank h hu
  obtain ⟨c, r, rfl, hbegins⟩ := h.exists_begins
  have hstarts := Tree.startsToken_of_begins hbegins r
  refine (yields_next hblank hstarts).bind_answers ?_
  split
  · next hn =>
    cases hn
    obtain rfl := Tree.eq_null_of_begins hbegins
    cases h with
    | null => exact (yields_skip 'n' _).bind ((yields_literal _ u).bind (yields_pure none u))
  · next hother =>
    rw [Tree.textOrNull?_eq_map_of_begins hbegins fun heq => hother (congrArg some heq)]
    exact reads_text.map some (.none _) h hu

theorem reads_boolean : Reads boolean Tree.boolean? := by
  intro tree s t u hblank h hu
  obtain ⟨c, r, rfl, hbegins⟩ := h.exists_begins
  refine (yields_next hblank (Tree.startsToken_of_begins hbegins r)).bind_answers ?_
  split
  · next hnone => cases hnone
  · next ht =>
    cases ht
    obtain rfl := Tree.eq_bool_of_begins true hbegins
    cases h with
    | yes => exact (yields_skip 't' _).bind ((yields_literal _ u).bind (yields_pure true u))
  · next hf =>
    cases hf
    obtain rfl := Tree.eq_bool_of_begins false hbegins
    cases h with
    | no => exact (yields_skip 'f' _).bind ((yields_literal _ u).bind (yields_pure false u))
  · next htrue hfalse hsome =>
    obtain rfl := Option.some.inj hsome
    rw [Tree.boolean?_eq_none_of_begins hbegins htrue hfalse]
    exact refuses_wrongType _ _ _

/-! ## Lists -/

/-- Before the end of an array there is no item. -/
theorem yields_beforeItem_close (first : Bool) (h : Blanks s (']' :: t)) :
    Yields (beforeItem first) s false (']' :: t) :=
  (yields_next h fun _ hx => Option.some.inj hx ▸ rfl).bind (yields_pure false _)

/-- Before an item, what separates it from the one before is passed over. -/
theorem yields_beforeItem {first : Bool} {r : List Char} (h : Separated first s (c :: r))
    (hbegins : tree.begins c = true) : Yields (beforeItem first) s true (c :: r) := by
  have hstarts := Tree.startsToken_of_begins hbegins r
  have hclosing := (Tree.isBlank_eq_false_of_begins hbegins).2
  cases h with
  | first h =>
    refine (yields_next h hstarts).bind ?_
    show Yields (if c = ']' then _ else _) _ _ _
    rw [if_neg hclosing]
    exact yields_pure true _
  | comma hcomma h =>
    refine (yields_next hcomma fun _ hx => Option.some.inj hx ▸ rfl).bind ?_
    refine (yields_skip ',' _).bind ((yields_next h hstarts).bind ?_)
    split
    · next hnone => cases hnone
    · next hsome => exact absurd (Option.some.inj hsome) hclosing
    · exact yields_pure true _

variable {item : Reader α} {decode : Tree → Option α}

/-- The items of an array are taken one after another, as long as they can be decoded. -/
theorem answers_items (hitem : Reads item decode) {first : Bool} {items : List Tree}
    (h : WritesItems first items s t) {bound : List Char} (hbound : s.length ≤ bound.length)
    (taken : List α) :
    Answers (Reader.items item bound first taken) s
      ((items.mapM decode).map (taken.reverse ++ ·)) t := by
  induction items generalizing first s bound taken with
  | nil =>
    cases bound with
    | nil => exact absurd (Nat.lt_of_lt_of_le h.length_lt hbound) (Nat.not_lt_zero _)
    | cons b bound =>
      cases h with
      | close h =>
        rw [List.mapM_nil]
        show Yields _ s (taken.reverse ++ []) t
        rw [List.append_nil]
        exact (yields_beforeItem_close first h).bind ((yields_skip ']' t).bind (yields_pure _ t))
  | cons tree items ih =>
    cases bound with
    | nil => exact absurd (Nat.lt_of_lt_of_le h.length_lt hbound) (Nat.not_lt_zero _)
    | cons b bound =>
      cases h with
      | @item _ _ _ _ v w _ hbefore htree h =>
        have hlength := Nat.lt_of_lt_of_le htree.length_lt hbefore.length_le
        obtain ⟨c, r, rfl, hbegins⟩ := htree.exists_begins
        refine (yields_beforeItem hbefore hbegins).bind_answers ?_
        have hread := hitem (.none _) htree h.followsValue
        rw [List.mapM_cons]
        cases hvalue : decode tree with
        | none =>
          rw [hvalue] at hread
          exact hread.bind
        | some value =>
          rw [hvalue] at hread
          refine Yields.bind_answers hread ?_
          have hshorter := Nat.le_of_lt_succ (Nat.lt_of_lt_of_le hlength hbound)
          have hrest := ih h hshorter (value :: taken)
          cases hvalues : items.mapM decode with
          | none =>
            rw [hvalues] at hrest
            exact hrest
          | some values =>
            rw [hvalues, Option.map_some, List.reverse_cons, List.append_assoc] at hrest
            exact hrest

/-- **A list is read if its items are.** -/
theorem Reads.list (hitem : Reads item decode) : Reads (list item) (Tree.list? decode) := by
  intro tree s t u hblank h hu
  obtain ⟨c, r, rfl, hbegins⟩ := h.exists_begins
  refine (yields_next hblank (Tree.startsToken_of_begins hbegins r)).bind_answers ?_
  split
  · next hnone => cases hnone
  · next hopen =>
    cases hopen
    obtain ⟨items, rfl⟩ := Tree.exists_array_of_begins hbegins
    cases h with
    | array h =>
      have hread := answers_items hitem h (Nat.le_refl r.length) []
      have hwhole : (fun values : List α => ([] : List α).reverse ++ values) = id := rfl
      rw [hwhole, Option.map_id] at hread
      exact (yields_skip '[' r).bind_answers ((yields_remaining r).bind_answers hread)
  · next hother hsome =>
    obtain rfl := Option.some.inj hsome
    rw [Tree.list?_eq_none_of_begins decode hbegins hother]
    exact refuses_wrongType _ _ _

end Reader

end TurtleAssist.Json
