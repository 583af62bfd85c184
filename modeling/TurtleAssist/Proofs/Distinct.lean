import Mathlib.Data.List.Induction
import Mathlib.Data.List.Nodup
import TurtleAssist.Distinct

/-!
# What remains when repetitions are dropped

Keeping the first entry of each key keeps entries of the list only, and loses no key
(`exists_mem_distinctBy_iff`). Entries with different keys all stay. Each of these follows
the two equations of `distinctBy` along the list; the set of keys is not looked at again.

What is kept is a part of the list in its order, with one entry for each key, the first that
the list has (`sublist_distinctBy`, `nodup_map_distinctBy`, `mem_distinctBy_iff`), so what is kept
stands in the order in which the keys first appear (`pairwise_distinctBy`). A list can be gone
through from its front with the keys of what has been passed: `distinctBy_append` is the
step, and with it goes that dropping repetitions early does no harm
(`distinctBy_filterMap_distinctBy`).
-/

namespace TurtleAssist

variable {α κ : Type} [BEq κ] [Hashable κ] [LawfulBEq κ] [LawfulHashable κ] {key : α → κ}
  {entries : List α}

/-- What is kept was there. -/
theorem mem_of_mem_distinctBy {entry : α} (h : entry ∈ distinctBy key entries) :
    entry ∈ entries := by
  induction entries with
  | nil => exact h
  | cons head tail ih =>
    rw [distinctBy_cons] at h
    rcases List.mem_cons.mp h with rfl | h
    · exact List.mem_cons_self
    · exact List.mem_cons_of_mem head (ih (List.mem_filter.mp h).1)

/-- **No key is lost.** -/
theorem exists_mem_distinctBy_iff {k : κ} :
    (∃ entry ∈ distinctBy key entries, key entry = k) ↔ ∃ entry ∈ entries, key entry = k := by
  constructor
  · rintro ⟨entry, hentry, rfl⟩
    exact ⟨entry, mem_of_mem_distinctBy hentry, rfl⟩
  · rintro ⟨entry, hentry, rfl⟩
    induction entries with
    | nil => cases hentry
    | cons head tail ih =>
      rw [distinctBy_cons]
      by_cases hkey : key head = key entry
      · exact ⟨head, List.mem_cons_self, hkey⟩
      · have htail : entry ∈ tail :=
          (List.mem_cons.mp hentry).resolve_left fun h => hkey (congrArg key h.symm)
        obtain ⟨kept, hkept, hsame⟩ := ih htail
        refine ⟨kept, List.mem_cons_of_mem head (List.mem_filter.mpr ⟨hkept, ?_⟩), hsame⟩
        rw [hsame, beq_false_of_ne hkey]
        rfl

/-- Entries with different keys are all kept. -/
theorem distinctBy_eq_self (h : (entries.map key).Nodup) : distinctBy key entries = entries := by
  induction entries with
  | nil => rfl
  | cons head tail ih =>
    rw [List.map_cons, List.nodup_cons] at h
    rw [distinctBy_cons, ih h.2, List.filter_eq_self.mpr]
    intro entry hentry
    rw [beq_false_of_ne fun hkey => h.1 (List.mem_map.mpr ⟨entry, hentry, hkey.symm⟩)]
    rfl

/-! ## The first entry of each key -/

/-- What is kept stands in the order of the list. -/
theorem sublist_distinctBy (key : α → κ) (entries : List α) :
    (distinctBy key entries).Sublist entries := by
  induction entries with
  | nil => exact List.Sublist.refl _
  | cons head tail ih =>
    rw [distinctBy_cons]
    exact (List.filter_sublist.trans ih).cons_cons head

/-- **No key is kept twice.** -/
theorem nodup_map_distinctBy (key : α → κ) (entries : List α) :
    ((distinctBy key entries).map key).Nodup := by
  induction entries with
  | nil => exact List.nodup_nil
  | cons head tail ih =>
    rw [distinctBy_cons, List.map_cons, List.nodup_cons]
    refine ⟨fun hmem => ?_, ih.sublist (List.filter_sublist.map key)⟩
    obtain ⟨entry, hentry, hkey⟩ := List.mem_map.mp hmem
    simp [hkey] at hentry

/-- **The entry that is kept for a key is the first one.** -/
theorem find?_distinctBy (key : α → κ) (entries : List α) (k : κ) :
    (distinctBy key entries).find? (key · == k) = entries.find? (key · == k) := by
  induction entries with
  | nil => rfl
  | cons head tail ih =>
    rw [distinctBy_cons, List.find?_cons, List.find?_cons]
    by_cases hkey : key head = k
    · simp [hkey]
    · -- no entry with the key is filtered out
      rw [beq_false_of_ne hkey, List.find?_filter, ← ih]
      refine congrArg (List.find? · (distinctBy key tail)) (funext fun entry => ?_)
      by_cases hsame : key entry = k
      · simp [hsame, hkey]
      · simp [hsame]

/-- **An entry is kept if no entry before it has its key.** -/
theorem mem_distinctBy_iff {entry : α} :
    entry ∈ distinctBy key entries
      ↔ ∃ before after, entries = before ++ entry :: after
          ∧ ∀ other ∈ before, key other ≠ key entry := by
  have hfind : ∀ list : List α, list.find? (key · == key entry) = some entry
      ↔ ∃ before after, list = before ++ entry :: after
          ∧ ∀ other ∈ before, key other ≠ key entry := by
    intro list
    rw [List.find?_eq_some_iff_append]
    simp
  rw [← hfind, ← find?_distinctBy]
  constructor
  · intro hentry
    -- no other entry that is kept has the key
    obtain ⟨before, after, hkept⟩ := List.append_of_mem hentry
    have hnodup := nodup_map_distinctBy key entries
    rw [hkept, List.map_append, List.map_cons, List.nodup_middle, List.nodup_cons] at hnodup
    refine (hfind _).mpr ⟨before, after, hkept, fun other hother hkey => hnodup.1 ?_⟩
    exact List.mem_append_left _ (List.mem_map.mpr ⟨other, hother, hkey⟩)
  · exact List.mem_of_find?_eq_some

/-- **Of two entries that are kept, the first one comes before every entry with the key of the
second.** -/
theorem pairwise_distinctBy {R : α → α → Prop} (h : entries.Pairwise R) :
    (distinctBy key entries).Pairwise fun one two =>
      ∀ other ∈ entries, key other = key two → R one other := by
  induction entries with
  | nil => exact List.Pairwise.nil
  | cons head tail ih =>
    obtain ⟨hhead, htail⟩ := List.pairwise_cons.mp h
    -- what is kept of the tail has another key than the head
    have hnew : ∀ two ∈ (distinctBy key tail).filter fun entry => !(key head == key entry),
        key head ≠ key two := by
      intro two htwo
      simpa using (List.mem_filter.mp htwo).2
    rw [distinctBy_cons]
    refine List.pairwise_cons.mpr ⟨fun two htwo => List.forall_mem_cons.mpr ⟨fun hkey => ?_,
      fun other hother _ => hhead other hother⟩, ?_⟩
    · exact absurd hkey (hnew two htwo)
    · refine ((ih htail).filter _).imp_of_mem fun _ htwo hbefore => ?_
      exact List.forall_mem_cons.mpr ⟨fun hkey => absurd hkey (hnew _ htwo), hbefore⟩

/-- Entries may be renamed before or after repetitions are dropped. -/
theorem distinctBy_map {β : Type} (name : β → κ) (f : α → β) (entries : List α) :
    distinctBy name (entries.map f) = (distinctBy (fun entry => name (f entry)) entries).map f := by
  induction entries with
  | nil => rfl
  | cons head tail ih =>
    rw [List.map_cons, distinctBy_cons, distinctBy_cons, ih, List.map_cons, List.filter_map]
    rfl

/-! ## From front to back -/

/-- **What is kept of a second list** are its own first entries, less those with a key of the
first list. -/
theorem distinctBy_append (key : α → κ) (entries others : List α) :
    distinctBy key (entries ++ others)
      = distinctBy key entries
        ++ (distinctBy key others).filter fun entry => !(entries.map key).contains (key entry) := by
  induction entries with
  | nil => simp
  | cons head tail ih =>
    rw [List.cons_append, distinctBy_cons, distinctBy_cons, ih, List.filter_append,
      List.filter_filter, List.cons_append]
    refine congrArg (fun rest => head :: (_ ++ rest)) (List.filter_congr fun entry _ => ?_)
    rw [List.map_cons, List.contains_cons, Bool.not_or, Bool.beq_comm]

/-- What is kept under a key of the first list comes from there. -/
theorem mem_of_mem_distinctBy_append {others : List α} {entry : α}
    (h : entry ∈ distinctBy key (entries ++ others)) (hkey : key entry ∈ entries.map key) :
    entry ∈ entries := by
  rw [distinctBy_append, List.mem_append] at h
  rcases h with h | h
  · exact mem_of_mem_distinctBy h
  · have hnew := (List.mem_filter.mp h).2
    rw [List.contains_iff_mem.mpr hkey] at hnew
    exact absurd hnew Bool.false_ne_true

/-- An entry at the end is kept if its key is new. -/
theorem distinctBy_concat (key : α → κ) (entries : List α) (last : α) :
    distinctBy key (entries ++ [last])
      = distinctBy key entries
        ++ if (entries.map key).contains (key last) then [] else [last] := by
  rw [distinctBy_append, distinctBy_cons, distinctBy_nil, List.filter_nil, List.filter_cons]
  by_cases h : (entries.map key).contains (key last) = true
  · rw [h]; rfl
  · rw [Bool.eq_false_iff.mpr h]; rfl

theorem contains_map_distinctBy (key : α → κ) (entries : List α) (k : κ) :
    ((distinctBy key entries).map key).contains k = (entries.map key).contains k := by
  rw [Bool.eq_iff_iff, List.contains_iff_mem, List.contains_iff_mem, List.mem_map, List.mem_map]
  exact exists_mem_distinctBy_iff

/-- **Dropping repetitions early does no harm**: if entries with the same key have the same
name, then those that repeat a key have nothing to add to the names. -/
theorem distinctBy_filterMap_distinctBy {β ν : Type} [BEq ν] [Hashable ν] [LawfulBEq ν]
    [LawfulHashable ν] {f : α → Option β} {name : β → ν}
    (h : ∀ one two, key one = key two → (f one).map name = (f two).map name) :
    distinctBy name ((distinctBy key entries).filterMap f)
      = distinctBy name (entries.filterMap f) := by
  induction entries using List.reverseRecOn with
  | nil => rfl
  | append_singleton entries last ih =>
    have hnames : ∀ k, (((distinctBy key entries).filterMap f).map name).contains k
        = ((entries.filterMap f).map name).contains k := fun k => by
      rw [← contains_map_distinctBy, ih, contains_map_distinctBy]
    rw [distinctBy_concat, List.filterMap_append, List.filterMap_append]
    cases hlast : f last with
    | none =>
      rw [List.filterMap_cons_none hlast, List.filterMap_nil, List.append_nil, ← ih]
      split <;> simp [hlast]
    | some found =>
      rw [List.filterMap_cons_some hlast, List.filterMap_nil]
      split
      next hseen =>
        -- an earlier entry has the key, and its name is the one that is found here
        obtain ⟨entry, hentry, hkey⟩ := List.mem_map.mp (List.contains_iff_mem.mp hseen)
        have hsame := h entry last hkey
        rw [hlast, Option.map_some, Option.map_eq_some_iff] at hsame
        obtain ⟨earlier, hearlier, hname⟩ := hsame
        have hcontains : ((entries.filterMap f).map name).contains (name found) = true :=
          List.contains_iff_mem.mpr
            (List.mem_map.mpr ⟨earlier, List.mem_filterMap.mpr ⟨entry, hentry, hearlier⟩, hname⟩)
        rw [List.filterMap_nil, List.append_nil, distinctBy_concat, if_pos hcontains,
          List.append_nil, ih]
      next =>
        rw [List.filterMap_cons_some hlast, List.filterMap_nil, distinctBy_concat,
          distinctBy_concat, ih, hnames]

end TurtleAssist
