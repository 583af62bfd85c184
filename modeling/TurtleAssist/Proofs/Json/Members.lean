import Mathlib.Data.List.Nodup
import Mathlib.Data.List.Pairwise
import TurtleAssist.Proofs.Json.Records

/-!
# What the members of a record say

Going through the members of an object one by one comes to what one would look up in the
object as a whole. No field may come twice. Of each field the draft then holds what the
members say about it, which is nothing if they do not name it (`given?_of_draft?`). And the
draft is given up only if some field does not take what the members say
(`exists_given?_eq_none`). An array is an object whose members have lost their keys, so
`Tree.members?` gives them back and the two forms are treated alike.

For this the fields must be kept apart in the drafts (`Slot.Apart`). The order of the
members plays no part.
-/

namespace TurtleAssist.Json

variable {σ β : Type}

/-- **The members of a record**: those of an object, in which none of the keys comes twice,
or the items of an array under the keys in order, of which there must be enough. -/
def Tree.members? (keys : List String) : Tree → Option (List (String × Tree))
  | .object members =>
    if ∀ key ∈ keys, (members.map Prod.fst).count key ≤ 1 then some members else none
  | .array items => if items.length ≤ keys.length then some (keys.zip items) else none
  | _ => none

/-- The value of a field that must be there. -/
def required? (value? : Tree → Option β) (key : String) (members : List (String × Tree)) :
    Option β :=
  (members.lookup key).bind value?

/-- The value of a field that has a default. -/
def optional? (value? : Tree → Option β) (default : β) (key : String)
    (members : List (String × Tree)) : Option β :=
  match members.lookup key with
  | some tree => value? tree
  | none => some default

namespace Slot

/-- What the members say about a field: nothing, or its value, if the field takes it. -/
def given? (slot : Slot σ) (members : List (String × Tree)) : Option (Option slot.β) :=
  match members.lookup slot.key with
  | some tree => (slot.value? tree).map some
  | none => some none

variable {slot : Slot σ} {members : List (String × Tree)}

/-- A field that must be there has the value that is given. -/
theorem required?_eq_bind (slot : Slot σ) (members : List (String × Tree)) :
    required? slot.value? slot.key members = (slot.given? members).bind id := by
  unfold required? given?
  cases members.lookup slot.key with
  | none => rfl
  | some tree =>
    show slot.value? tree = ((slot.value? tree).map some).bind id
    cases slot.value? tree with
    | none => rfl
    | some value => rfl

/-- A field that has a default has the value that is given, or else the default. -/
theorem optional?_eq_map (slot : Slot σ) (default : slot.β) (members : List (String × Tree)) :
    optional? slot.value? default slot.key members
      = (slot.given? members).map (·.getD default) := by
  unfold optional? given?
  cases members.lookup slot.key with
  | none => rfl
  | some tree =>
    show slot.value? tree = ((slot.value? tree).map some).map (·.getD default)
    cases slot.value? tree with
    | none => rfl
    | some value => rfl

theorem required?_eq {given : Option slot.β} (h : slot.given? members = some given) :
    required? slot.value? slot.key members = given := by
  rw [required?_eq_bind, h]
  rfl

theorem optional?_eq {given : Option slot.β} (h : slot.given? members = some given)
    (default : slot.β) :
    optional? slot.value? default slot.key members = some (given.getD default) := by
  rw [optional?_eq_map, h]
  rfl

/-- A field that has a value takes what is given. -/
theorem given?_ne_none_of_required? {value : slot.β}
    (h : required? slot.value? slot.key members = some value) : slot.given? members ≠ none := by
  intro hnone
  rw [required?_eq_bind, hnone] at h
  cases h

theorem given?_ne_none_of_optional? {default value : slot.β}
    (h : optional? slot.value? default slot.key members = some value) :
    slot.given? members ≠ none := by
  intro hnone
  rw [optional?_eq_map, hnone] at h
  cases h

/-- **Two fields are kept apart**: they have different keys, and entering the value of one
leaves the other as it is. -/
structure Apart (a b : Slot σ) : Prop where
  key_ne : a.key ≠ b.key
  get_enter_left : ∀ value draft, b.get (a.enter value draft) = b.get draft
  get_enter_right : ∀ value draft, a.get (b.enter value draft) = a.get draft

theorem Apart.symm {a b : Slot σ} (h : Apart a b) : Apart b a :=
  ⟨h.key_ne.symm, h.get_enter_right, h.get_enter_left⟩

/-! ## How members enter a draft -/

/-- What entering members does to a field: it stays, or it gets its only value. -/
inductive Entered (slot : Slot σ) (members : List (String × Tree)) (before after : Option slot.β) :
    Prop
  | absent (hkey : slot.key ∉ members.map Prod.fst) (h : after = before)
  | once {tree : Tree} {value : slot.β} (hbefore : before = none)
      (hcount : (members.map Prod.fst).count slot.key = 1)
      (hlookup : members.lookup slot.key = some tree) (hvalue : slot.value? tree = some value)
      (h : after = some value)

/-- Why members cannot be entered: a field has its value already, comes twice, or does not
take the value. -/
inductive Barred (slot : Slot σ) (members : List (String × Tree)) (before : Option slot.β) : Prop
  | set (hbefore : before ≠ none) (hkey : slot.key ∈ members.map Prod.fst)
  | twice (hcount : 1 < (members.map Prod.fst).count slot.key)
  | value {tree : Tree} (hlookup : members.lookup slot.key = some tree)
      (hvalue : slot.value? tree = none)

variable {key : String} {tree : Tree} {before after : Option slot.β}

theorem lookup_cons_of_ne (hne : slot.key ≠ key) :
    ((key, tree) :: members).lookup slot.key = members.lookup slot.key := by
  rw [List.lookup_cons, beq_false_of_ne hne]

theorem lookup_eq_none (hkey : slot.key ∉ members.map Prod.fst) :
    members.lookup slot.key = none :=
  List.lookup_eq_none_iff.mpr fun _ hp =>
    bne_iff_ne.mpr fun heq => hkey (List.mem_map.mpr ⟨_, hp, heq.symm⟩)

/-- A member of another key changes nothing. -/
theorem Entered.cons_of_ne (hne : slot.key ≠ key) (h : slot.Entered members before after) :
    slot.Entered ((key, tree) :: members) before after := by
  cases h with
  | absent hkey h =>
    refine .absent (fun hmem => ?_) h
    exact (List.mem_cons.mp hmem).elim hne hkey
  | once hbefore hcount hlookup hvalue h =>
    refine .once hbefore ?_ ((lookup_cons_of_ne hne).trans hlookup) hvalue h
    rw [List.map_cons, List.count_cons_of_ne hne.symm]
    exact hcount

theorem Barred.cons_of_ne (hne : slot.key ≠ key) (h : slot.Barred members before) :
    slot.Barred ((key, tree) :: members) before := by
  cases h with
  | set hbefore hkey => exact .set hbefore (List.mem_cons_of_mem _ hkey)
  | twice hcount =>
    refine .twice ?_
    rw [List.map_cons, List.count_cons_of_ne hne.symm]
    exact hcount
  | value hlookup hvalue => exact .value ((lookup_cons_of_ne hne).trans hlookup) hvalue

/-- A field is barred only from what names it. -/
theorem Barred.mem_keys (h : slot.Barred members before) : slot.key ∈ members.map Prod.fst := by
  cases h with
  | set _ hkey => exact hkey
  | twice hcount => exact List.one_le_count_iff.mp (Nat.le_of_lt hcount)
  | value hlookup =>
    refine Classical.byContradiction fun hkey => ?_
    rw [lookup_eq_none hkey] at hlookup
    cases hlookup

end Slot

variable {slots : List (Slot σ)} {slot slot' : Slot σ} {members : List (String × Tree)}
  {draft draft' : σ}

/-- The field that is found for a key. -/
theorem mem_of_find?_key {key : String} (h : slots.find? (·.key == key) = some slot) :
    slot ∈ slots ∧ slot.key = key :=
  ⟨List.mem_of_find?_eq_some h,
    beq_iff_eq.mp (List.find?_some (p := fun slot : Slot σ => slot.key == key) h)⟩

/-- Fields that are kept apart are known by their keys. -/
theorem eq_of_key_eq (hapart : slots.Pairwise Slot.Apart) (hslot : slot ∈ slots)
    (hslot' : slot' ∈ slots) (hkey : slot.key = slot'.key) : slot = slot' := by
  have : Std.Symm (Slot.Apart (σ := σ)) := ⟨fun _ _ => Slot.Apart.symm⟩
  exact Classical.byContradiction fun hne => (hapart.forall hslot hslot' hne).key_ne hkey

/-- And entering one of them leaves those of other keys as they are. -/
theorem get_enter_of_key_ne (hapart : slots.Pairwise Slot.Apart) (hslot : slot ∈ slots)
    (hslot' : slot' ∈ slots) (hkey : slot.key ≠ slot'.key) (value : slot'.β) (draft : σ) :
    slot.get (slot'.enter value draft) = slot.get draft := by
  have : Std.Symm (Slot.Apart (σ := σ)) := ⟨fun _ _ => Slot.Apart.symm⟩
  exact (hapart.forall hslot hslot' fun heq => hkey (congrArg Slot.key heq)).get_enter_right _ _

/-- **Members that are entered** say of each field what the draft holds. -/
theorem entered_of_enterMembers (hapart : slots.Pairwise Slot.Apart)
    (h : enterMembers slots members draft = some draft') (hslot : slot ∈ slots) :
    slot.Entered members (slot.get draft) (slot.get draft') := by
  induction members generalizing draft with
  | nil =>
    obtain rfl := Option.some.inj h
    exact .absent List.not_mem_nil rfl
  | cons member members ih =>
    obtain ⟨key, tree⟩ := member
    unfold enterMembers at h
    cases hfound : slots.find? (·.key == key) with
    | none =>
      rw [hfound] at h
      have hne := fun heq => List.find?_eq_none.mp hfound slot hslot (beq_iff_eq.mpr heq)
      exact (ih h).cons_of_ne hne
    | some found =>
      rw [hfound] at h
      obtain ⟨hmem, rfl⟩ := mem_of_find?_key hfound
      dsimp only at h
      split at h
      · cases h
      next hunset =>
      obtain ⟨value, hvalue, h⟩ := Option.bind_eq_some_iff.mp h
      have hrest := ih h
      by_cases hkey : slot.key = found.key
      · obtain rfl := eq_of_key_eq hapart hslot hmem hkey
        rw [slot.get_enter] at hrest
        cases hrest with
        | absent hkey hget =>
          refine .once ?_ ?_ List.lookup_cons_self hvalue hget
          · exact Option.not_isSome_iff_eq_none.mp hunset
          · rw [List.map_cons, List.count_cons_self, List.count_eq_zero.mpr hkey]
        | once hbefore => cases hbefore
      · rw [get_enter_of_key_ne hapart hslot hmem hkey] at hrest
        exact hrest.cons_of_ne hkey

/-- **Members that cannot be entered** say something that a field does not take. -/
theorem exists_barred_of_enterMembers (hapart : slots.Pairwise Slot.Apart)
    (h : enterMembers slots members draft = none) :
    ∃ slot ∈ slots, slot.Barred members (slot.get draft) := by
  induction members generalizing draft with
  | nil => cases h
  | cons member members ih =>
    obtain ⟨key, tree⟩ := member
    unfold enterMembers at h
    cases hfound : slots.find? (·.key == key) with
    | none =>
      rw [hfound] at h
      obtain ⟨slot, hslot, hbarred⟩ := ih h
      have hne := fun heq => List.find?_eq_none.mp hfound slot hslot (beq_iff_eq.mpr heq)
      exact ⟨slot, hslot, hbarred.cons_of_ne hne⟩
    | some found =>
      rw [hfound] at h
      obtain ⟨hmem, rfl⟩ := mem_of_find?_key hfound
      dsimp only at h
      split at h
      next hset =>
        refine ⟨found, hmem, .set (fun hnone => ?_) List.mem_cons_self⟩
        rw [hnone] at hset
        cases hset
      cases hvalue : found.value? tree with
      | none => exact ⟨found, hmem, .value List.lookup_cons_self hvalue⟩
      | some value =>
        rw [hvalue, Option.bind_some] at h
        obtain ⟨slot, hslot, hbarred⟩ := ih h
        by_cases hkey : slot.key = found.key
        · obtain rfl := eq_of_key_eq hapart hslot hmem hkey
          refine ⟨slot, hslot, .twice ?_⟩
          rw [List.map_cons, List.count_cons_self]
          exact Nat.succ_lt_succ (List.one_le_count_iff.mpr hbarred.mem_keys)
        · rw [get_enter_of_key_ne hapart hslot hmem hkey] at hbarred
          exact ⟨slot, hslot, hbarred.cons_of_ne hkey⟩

/-- **The items of an array** are entered like members with the keys in order. -/
theorem enterItems_eq_enterMembers {fields : List (Slot σ)} {items : List Tree}
    (hapart : slots.Pairwise Slot.Apart) (hfields : fields.Sublist slots)
    (hunset : ∀ slot ∈ fields, slot.get draft = none) :
    enterItems fields items draft
      = enterMembers slots ((fields.map Slot.key).zip items) draft := by
  induction fields generalizing items draft with
  | nil => rfl
  | cons field fields ih =>
    cases items with
    | nil => rfl
    | cons tree items =>
      have hmem : field ∈ slots := hfields.subset List.mem_cons_self
      have hfound : slots.find? (·.key == field.key) = some field := by
        cases hfound : slots.find? (·.key == field.key) with
        | none => exact absurd (beq_iff_eq.mpr rfl) (List.find?_eq_none.mp hfound field hmem)
        | some found =>
          obtain ⟨hmem', hkey⟩ := mem_of_find?_key hfound
          rw [eq_of_key_eq hapart hmem' hmem hkey]
      show (field.value? tree).bind _ = enterMembers slots ((field.key, tree) :: _) draft
      unfold enterMembers
      rw [hfound]
      dsimp only
      rw [hunset field List.mem_cons_self]
      show _ = (field.value? tree).bind _
      congr 1
      funext value
      refine ih (List.sublist_of_cons_sublist hfields) fun slot hslot => ?_
      have hne := (List.pairwise_cons.mp (hapart.sublist hfields)).1 slot hslot
      rw [hne.get_enter_left]
      exact hunset slot (List.mem_cons_of_mem _ hslot)

/-! ## Drafts -/

variable {tree : Tree} {blank : σ}

/-- A list of keys in which none comes twice, as far as there are items. -/
theorem count_zip_le_one {keys : List String} (hkeys : keys.Nodup) {items : List Tree}
    (hlength : items.length ≤ keys.length) (key : String) :
    ((keys.zip items).map Prod.fst).count key ≤ 1 := by
  rw [List.zip_eq_zip_take_min, Nat.min_eq_right hlength, List.map_fst_zip]
  · exact List.nodup_iff_count_le_one.mp (hkeys.sublist (List.take_sublist _ _)) key
  · rw [List.take_length]
    exact List.length_take_le _ _

/-- **A draft is made** by entering the members of the record. -/
theorem draft?_eq_bind (hapart : slots.Pairwise Slot.Apart)
    (hblank : ∀ slot ∈ slots, slot.get blank = none) :
    tree.draft? slots blank
      = (tree.members? (slots.map Slot.key)).bind (enterMembers slots · blank) := by
  cases tree with
  | object members =>
    show enterMembers slots members blank = (if ∀ key ∈ slots.map Slot.key,
      (members.map Prod.fst).count key ≤ 1 then some members else none).bind _
    split
    · rfl
    next hcount =>
    cases h : enterMembers slots members blank with
    | none => rfl
    | some draft =>
      refine absurd (fun key hkey => ?_) hcount
      obtain ⟨slot, hslot, rfl⟩ := List.mem_map.mp hkey
      cases entered_of_enterMembers hapart h hslot with
      | absent hkey => exact Nat.le_succ_of_le (Nat.le_of_eq (List.count_eq_zero.mpr hkey))
      | once _ hcount => exact Nat.le_of_eq hcount
  | array items =>
    show (if items.length ≤ slots.length then _ else _) = (if items.length
      ≤ (slots.map Slot.key).length then some ((slots.map Slot.key).zip items) else none).bind _
    rw [List.length_map]
    split
    · exact enterItems_eq_enterMembers hapart (List.Sublist.refl slots) hblank
    · rfl
  | _ => rfl

/-- The keys of the fields come at most once in the members of a record. -/
theorem count_le_one_of_members? {keys : List String} (hkeys : keys.Nodup)
    (h : tree.members? keys = some members) {key : String} (hkey : key ∈ keys) :
    (members.map Prod.fst).count key ≤ 1 := by
  unfold Tree.members? at h
  split at h
  · split at h
    next hcount =>
      obtain rfl := Option.some.inj h
      exact hcount key hkey
    · cases h
  · split at h
    next hlength =>
      obtain rfl := Option.some.inj h
      exact count_zip_le_one hkeys hlength key
    · cases h
  · cases h

/-- **What the draft holds** of a field is what the members say about it. -/
theorem given?_of_enterMembers (hapart : slots.Pairwise Slot.Apart)
    (hblank : ∀ slot ∈ slots, slot.get blank = none)
    (h : enterMembers slots members blank = some draft) (hslot : slot ∈ slots) :
    slot.given? members = some (slot.get draft) := by
  unfold Slot.given?
  cases entered_of_enterMembers hapart h hslot with
  | absent hkey hget => rw [Slot.lookup_eq_none hkey, hget, hblank slot hslot]
  | once _ _ hlookup hvalue hget =>
    rw [hlookup, hget]
    show (slot.value? _).map some = _
    rw [hvalue, Option.map_some]

/-- **If there is no draft**, some field does not take what the members say about it. -/
theorem exists_given?_eq_none (hapart : slots.Pairwise Slot.Apart)
    (hblank : ∀ slot ∈ slots, slot.get blank = none)
    (hcount : ∀ key ∈ slots.map Slot.key, (members.map Prod.fst).count key ≤ 1)
    (h : enterMembers slots members blank = none) :
    ∃ slot ∈ slots, slot.given? members = none := by
  obtain ⟨slot, hslot, hbarred⟩ := exists_barred_of_enterMembers hapart h
  refine ⟨slot, hslot, ?_⟩
  cases hbarred with
  | set hbefore => exact absurd (hblank slot hslot) hbefore
  | twice h => exact absurd (hcount slot.key (List.mem_map_of_mem hslot)) (Nat.not_le_of_lt h)
  | value hlookup hvalue =>
    unfold Slot.given?
    rw [hlookup]
    show (slot.value? _).map some = none
    rw [hvalue, Option.map_none]

/-- **A record is read** as it is decoded from its members, if decoding them comes to
finishing the draft that holds what they say, and is done only where every field takes what
they say about it. -/
theorem Reader.reads_record_of_members {α : Type} {schema : Schema σ α}
    {decode : List (String × Tree) → Option α} (slots : List (Slot σ))
    (hfields : schema.fields = slots.map Slot.field) (hapart : slots.Pairwise Slot.Apart)
    (hblank : ∀ slot ∈ slots, slot.get schema.blank = none)
    (hsome : ∀ members draft, (∀ slot ∈ slots, slot.given? members = some (slot.get draft)) →
      decode members = (schema.finish draft).toOption)
    (htakes : ∀ members record, decode members = some record →
      ∀ slot ∈ slots, slot.given? members ≠ none) :
    Reads (record schema) fun tree => (tree.members? (slots.map Slot.key)).bind decode := by
  have hkeys : (slots.map Slot.key).Nodup :=
    List.pairwise_map.mpr (hapart.imp fun h => h.key_ne)
  have hdecode : ∀ tree : Tree, (tree.draft? slots schema.blank).bind
      (fun draft => (schema.finish draft).toOption)
      = (tree.members? (slots.map Slot.key)).bind decode := by
    intro tree
    rw [draft?_eq_bind hapart hblank]
    cases hmembers : tree.members? (slots.map Slot.key) with
    | none => rfl
    | some members =>
      show (enterMembers slots members schema.blank).bind _ = decode members
      cases hdraft : enterMembers slots members schema.blank with
      | none =>
        have hcount : ∀ key ∈ slots.map Slot.key, (members.map Prod.fst).count key ≤ 1 :=
          fun _ => count_le_one_of_members? hkeys hmembers
        obtain ⟨slot, hslot, hnone⟩ := exists_given?_eq_none hapart hblank hcount hdraft
        refine (Option.eq_none_iff_forall_ne_some.mpr fun record hrecord => ?_).symm
        exact htakes members record hrecord slot hslot hnone
      | some draft =>
        exact (hsome members draft fun _ => given?_of_enterMembers hapart hblank hdraft).symm
  rw [← funext hdecode]
  exact reads_record hfields

end TurtleAssist.Json
