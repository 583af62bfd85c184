import Mathlib.Data.List.Basic
import TurtleAssist.Proofs.Text.Token

/-!
# Runs as maximal stretches

The runs of a text are found by a pass over its characters. What they are can be said without
that pass: a run is a stretch of the text that lies in the class, is not empty, and cannot be made
longer on either side (`IsRunAt`). `exists_placed_runs` says that the pass finds exactly these
stretches, from left to right, so none is split, none is lost at an end of the text, and no two
become one.

A text is read run by run (`runs_induction`), so all that has to be known of maximal stretches is
what a run in front of a text adds to them: itself, and nothing else (`isRunAt_append_iff`).

Splitting a text gives the same stretches in another way. The pieces between the separators are
the runs of the other characters, apart from those without a character (`filter_pieces`).
-/

namespace TurtleAssist.Text

variable {inClass : Char → Bool} {text space run rest : List Char} {start : Nat}

/-- **A run of the class stands at a place of the text**: a stretch with characters of the class
only, at least one, before and after which no character of the class stands. -/
def IsRunAt (inClass : Char → Bool) (text : List Char) (start : Nat) (run : List Char) : Prop :=
  ∃ before after, text = before ++ (run ++ after) ∧ before.length = start ∧ run ≠ []
    ∧ (∀ c ∈ run, inClass c = true) ∧ (∀ c ∈ before.getLast?, inClass c = false)
    ∧ ∀ c ∈ after.head?, inClass c = false

theorem IsRunAt.ne_nil (h : IsRunAt inClass text start run) : run ≠ [] := by
  obtain ⟨-, -, -, -, hne, -⟩ := h
  exact hne

/-- A run begins with a character of the class. -/
theorem IsRunAt.exists_mem (h : IsRunAt inClass text start run) :
    ∃ c ∈ text, inClass c = true := by
  obtain ⟨before, after, rfl, -, hne, hrun, -⟩ := h
  obtain ⟨c, hc⟩ := List.exists_mem_of_ne_nil run hne
  exact ⟨c, List.mem_append_right before (List.mem_append_left after hc), hrun c hc⟩

/-- No run begins where a character outside the class stands. -/
theorem IsRunAt.pos_of_head? (h : IsRunAt inClass text start run)
    (hhead : ∀ c ∈ text.head?, inClass c = false) : 0 < start := by
  obtain ⟨before, after, rfl, rfl, hne, hrun, -⟩ := h
  refine List.length_pos_iff.mpr fun hnil => ?_
  subst hnil
  obtain ⟨c, run, rfl⟩ := List.exists_cons_of_ne_nil hne
  have hc : inClass c = true := hrun c List.mem_cons_self
  rw [hhead c rfl] at hc
  cases hc

/-- **A run in front of a text**, with other characters before it, is a run, and the others are
those of the text after it. -/
theorem isRunAt_append_iff {word : List Char} (hspace : ∀ c ∈ space, inClass c = false)
    (hne : word ≠ []) (hword : ∀ c ∈ word, inClass c = true)
    (hrest : ∀ c ∈ rest.head?, inClass c = false) :
    IsRunAt inClass (space ++ (word ++ rest)) start run
      ↔ start = space.length ∧ run = word
        ∨ ∃ further, start = space.length + word.length + further
            ∧ IsRunAt inClass rest further run := by
  constructor
  · rintro ⟨before, after, htext, rfl, hrun, hinside, hbefore, hafter⟩
    rcases List.append_eq_append_iff.mp htext with ⟨more, rfl, htail⟩ | ⟨skipped, rfl, htail⟩
    · -- the stretch begins after the characters that are skipped
      rcases List.append_eq_append_iff.mp htail with ⟨passed, rfl, rfl⟩ | ⟨left, rfl, hstretch⟩
      · refine Or.inr ⟨passed.length, by simp [Nat.add_assoc], passed, after, rfl, rfl, hrun,
          hinside, ?_, hafter⟩
        intro c hc
        refine hbefore c ?_
        rw [← List.append_assoc, List.getLast?_append_of_ne_nil _ (List.ne_nil_of_mem
          (List.mem_of_getLast? hc))]
        exact hc
      · -- it would begin inside the run, with a character of the class before it
        by_cases hmore : more = []
        · subst hmore
          obtain ⟨rfl, -⟩ := run_append_inj hinside hword hafter hrest hstretch
          exact Or.inl ⟨by simp, rfl⟩
        · obtain ⟨c, hc⟩ := Option.isSome_iff_exists.mp (List.getLast?_isSome.mpr hmore)
          have hin : inClass c = true :=
            hword c (List.mem_append_left left (List.mem_of_getLast? hc))
          rw [hbefore c (by rw [List.getLast?_append_of_ne_nil _ hmore]; exact hc)] at hin
          cases hin
    · cases skipped with
      | nil =>
        obtain ⟨rfl, -⟩ := run_append_inj hinside hword hafter hrest htail
        exact Or.inl ⟨by simp, rfl⟩
      | cons x skipped =>
        -- it would begin with a character that is skipped
        obtain ⟨c, run, rfl⟩ := List.exists_cons_of_ne_nil hrun
        have hx : c = x := (List.cons.inj htail).1
        have hin : inClass c = true := hinside c List.mem_cons_self
        rw [hspace c (List.mem_append_right before (hx ▸ List.mem_cons_self))] at hin
        cases hin
  · rintro (⟨rfl, rfl⟩ | ⟨further, rfl, hrun⟩)
    · exact ⟨space, rest, rfl, rfl, hne, hword,
        fun c hc => hspace c (List.mem_of_getLast? hc), hrest⟩
    · have hpos := hrun.pos_of_head? hrest
      obtain ⟨before, after, rfl, rfl, hne', hinside, hbefore, hafter⟩ := hrun
      refine ⟨space ++ (word ++ before), after, by simp, by simp [Nat.add_assoc], hne', hinside,
        ?_, hafter⟩
      rw [← List.append_assoc, List.getLast?_append_of_ne_nil _ (List.length_pos_iff.mp hpos)]
      exact hbefore

/-- **The runs of a text are its maximal stretches**, each one once and from left to right. -/
theorem exists_placed_runs (inClass : Char → Bool) (text : List Char) :
    ∃ placed : List (Nat × List Char), placed.map Prod.snd = runs inClass text
      ∧ placed.Pairwise (fun one two => one.1 < two.1)
      ∧ ∀ start run, (start, run) ∈ placed ↔ IsRunAt inClass text start run := by
  induction text using runs_induction inClass with
  | outside space hspace =>
    refine ⟨[], ?_, List.Pairwise.nil, fun start run => iff_of_false List.not_mem_nil ?_⟩
    · rw [← List.append_nil space, runs_append_of_not hspace]
      rfl
    · intro hrun
      obtain ⟨c, hc, hin⟩ := hrun.exists_mem
      rw [hspace c hc] at hin
      cases hin
  | run space word rest hspace hne hword hrest ih =>
    obtain ⟨placed, hruns, hsorted, hmem⟩ := ih
    refine ⟨(space.length, word)
        :: placed.map fun entry => (space.length + word.length + entry.1, entry.2),
      ?_, ?_, fun start run => ?_⟩
    · rw [runs_append_of_not hspace, runs_append_of_forall hne hword hrest, ← hruns,
        List.map_cons, List.map_map]
      rfl
    · refine List.pairwise_cons.mpr ⟨fun later hlater => ?_, ?_⟩
      · obtain ⟨entry, -, rfl⟩ := List.mem_map.mp hlater
        have hpos := List.length_pos_iff.mpr hne
        show space.length < space.length + word.length + entry.1
        omega
      · exact List.pairwise_map.mpr (hsorted.imp fun hlt => Nat.add_lt_add_left hlt _)
    · rw [isRunAt_append_iff hspace hne hword hrest, List.mem_cons, Prod.mk.injEq]
      refine or_congr Iff.rfl ?_
      rw [List.mem_map]
      constructor
      · rintro ⟨⟨further, run⟩, hentry, heq⟩
        obtain ⟨rfl, rfl⟩ := Prod.mk.inj heq
        exact ⟨further, rfl, (hmem further run).mp hentry⟩
      · rintro ⟨further, rfl, hrun⟩
        exact ⟨(further, run), (hmem further run).mpr hrun, rfl⟩

/-! ## Runs as pieces of a split text -/

/-- The first piece is the run that is open, if it has a character. The others have been closed
by a separator. -/
theorem pieces_state (separates : Char → Bool) (text : List Char) :
    ∃ first others, (text.foldr (addToPieces separates) (false, [[]])).2 = first :: others
      ∧ ((text.foldr (addToPieces separates) (false, [[]])).1 = true → first = [])
      ∧ text.foldr (addToRun fun c => !separates c) (false, [])
        = (!first.isEmpty, (first :: others).filter fun piece => !piece.isEmpty) := by
  induction text with
  | nil => exact ⟨[], [], rfl, nofun, rfl⟩
  | cons c text ih =>
    obtain ⟨first, others, hpieces, hclosed, hruns⟩ := ih
    simp only [List.foldr_cons]
    rw [hruns]
    by_cases hc : separates c = true
    · cases hlast : (text.foldr (addToPieces separates) (false, [[]])).1 with
      | true =>
        obtain rfl := hclosed hlast
        exact ⟨[], others, by simp [addToPieces, hc, hlast, hpieces], fun _ => rfl,
          by simp [addToRun, hc]⟩
      | false =>
        exact ⟨[], first :: others, by simp [addToPieces, hc, hlast, hpieces], fun _ => rfl,
          by simp [addToRun, hc]⟩
    · refine ⟨c :: first, others, by simp [addToPieces, hc, hpieces],
        fun htrue => by simp [addToPieces, hc] at htrue, ?_⟩
      cases first with
      | nil => simp [addToRun, hc]
      | cons x first => simp [addToRun, hc]

/-- **A text falls into its runs** when it is split at all other characters. The pieces that have
no character are those between the separators and the ends of the text. -/
theorem filter_pieces (separates : Char → Bool) (text : List Char) :
    (pieces separates text).filter (fun piece => !piece.isEmpty)
      = runs (fun c => !separates c) text := by
  obtain ⟨first, others, hpieces, -, hruns⟩ := pieces_state separates text
  unfold pieces runs
  rw [hpieces, hruns]

end TurtleAssist.Text
