import TurtleAssist.Json.Reader

/-!
# What a reader does with a text

A reader takes a value from the front of a text and leaves the rest (`Yields`), or it
refuses the text (`Refuses`). Where it stands in the whole text decides only about the
position of a failure, so both are said of the characters that are left, for every
position.

Readers are put together by running one on what another has left. `Yields.bind` and its
companions say the same of what they do, and the statements on the small readers follow.
After these no reader has to be run on a position again.
-/

namespace TurtleAssist.Json

/-- White space stands between the beginning of a text and the rest. -/
inductive Blanks : List Char → List Char → Prop
  | none (s : List Char) : Blanks s s
  | cons {c : Char} {s t : List Char} (hc : isBlank c = true) (h : Blanks s t) : Blanks (c :: s) t

/-- A text that does not begin with white space. -/
def StartsToken (s : List Char) : Prop :=
  ∀ c ∈ s.head?, isBlank c = false

/-- White space makes a text longer. -/
theorem Blanks.length_le {s t : List Char} (h : Blanks s t) : t.length ≤ s.length := by
  induction h with
  | none => exact Nat.le_refl _
  | cons _ _ ih => exact Nat.le_succ_of_le ih

namespace Reader

variable {α β : Type} {s t u : List Char} {a : α} {b : β}

/-- **The reader takes a value** from the front of a text and leaves the rest. -/
def Yields (reader : Reader α) (s : List Char) (a : α) (t : List Char) : Prop :=
  ∀ position, ∃ position', reader ⟨s, position⟩ = .ok (a, ⟨t, position'⟩)

/-- **The reader refuses** a text. -/
def Refuses (reader : Reader α) (s : List Char) : Prop :=
  ∀ position, ∃ failure, reader ⟨s, position⟩ = .error failure

/-- The reader takes the value and leaves the rest, or refuses the text if there is no
value. -/
def Answers (reader : Reader α) (s : List Char) (answer : Option α) (t : List Char) : Prop :=
  match answer with
  | some a => Yields reader s a t
  | none => Refuses reader s

/-! ## Readers put together -/

theorem yields_pure (a : α) (s : List Char) : Yields (pure a) s a s :=
  fun position => ⟨position, rfl⟩

/-- What is read first is left to the second reader. -/
theorem Yields.bind {reader : Reader α} {next : α → Reader β} (h : Yields reader s a t)
    (h' : Yields (next a) t b u) : Yields (reader >>= next) s b u := by
  intro position
  obtain ⟨position', hfirst⟩ := h position
  obtain ⟨position'', hsecond⟩ := h' position'
  refine ⟨position'', ?_⟩
  show (reader ⟨s, position⟩ >>= fun read => next read.1 read.2) = _
  rw [hfirst]
  exact hsecond

/-- A failure of the second reader is one of both. -/
theorem Yields.bind_refuses {reader : Reader α} {next : α → Reader β} (h : Yields reader s a t)
    (h' : Refuses (next a) t) : Refuses (reader >>= next) s := by
  intro position
  obtain ⟨position', hfirst⟩ := h position
  obtain ⟨failure, hsecond⟩ := h' position'
  refine ⟨failure, ?_⟩
  show (reader ⟨s, position⟩ >>= fun read => next read.1 read.2) = _
  rw [hfirst]
  exact hsecond

/-- And so is a failure of the first one. -/
theorem Refuses.bind {reader : Reader α} {next : α → Reader β} (h : Refuses reader s) :
    Refuses (reader >>= next) s := by
  intro position
  obtain ⟨failure, hfirst⟩ := h position
  refine ⟨failure, ?_⟩
  show (reader ⟨s, position⟩ >>= fun read => next read.1 read.2) = _
  rw [hfirst]
  rfl

/-- Readers that go on with the value of a first one. -/
theorem Yields.bind_answers {reader : Reader α} {next : α → Reader β} {answer : Option β}
    (h : Yields reader s a t) (h' : Answers (next a) t answer u) :
    Answers (reader >>= next) s answer u := by
  cases answer with
  | none => exact h.bind_refuses h'
  | some b => exact h.bind h'

/-- A reader after which only readers come that refuse whatever is left. -/
theorem refuses_bind {reader : Reader α} {next : α → Reader β}
    (h : ∀ a t, Refuses (next a) t) : Refuses (reader >>= next) s := by
  intro position
  show ∃ failure, (reader ⟨s, position⟩ >>= fun read => next read.1 read.2) = _
  cases hread : reader ⟨s, position⟩ with
  | error failure => exact ⟨failure, rfl⟩
  | ok read =>
    obtain ⟨a, rest, position'⟩ := read
    exact h a rest position'

theorem Answers.map {reader : Reader α} {answer : Option α} (h : Answers reader s answer t)
    (f : α → β) : Answers (f <$> reader) s (answer.map f) t := by
  cases answer with
  | none =>
    intro position
    obtain ⟨failure, hread⟩ := h position
    refine ⟨failure, ?_⟩
    show (reader ⟨s, position⟩ >>= fun read => pure (f read.1, read.2)) = _
    rw [hread]
    rfl
  | some a =>
    intro position
    obtain ⟨position', hread⟩ := h position
    refine ⟨position', ?_⟩
    show (reader ⟨s, position⟩ >>= fun read => pure (f read.1, read.2)) = _
    rw [hread]
    rfl

/-! ## Small readers -/

theorem refuses_failHere (cause : Cause) (s : List Char) :
    Refuses (failHere cause : Reader α) s :=
  fun _ => ⟨_, rfl⟩

theorem refuses_failAhead (cause : Cause) (s : List Char) :
    Refuses (failAhead cause : Reader α) s :=
  fun _ => ⟨_, rfl⟩

theorem yields_peek (s : List Char) : Yields peek s s.head? s :=
  fun position => ⟨position, rfl⟩

theorem yields_skip (c : Char) (s : List Char) : Yields skip (c :: s) () s :=
  fun _ => ⟨_, rfl⟩

theorem yields_remaining (s : List Char) : Yields remaining s s s :=
  fun position => ⟨position, rfl⟩

/-- A literal name is read to its end. -/
theorem yields_literal (name s : List Char) : Yields (literal name) (name ++ s) () s := by
  induction name with
  | nil => exact yields_pure () s
  | cons c name ih =>
    intro position
    obtain ⟨position', hread⟩ := ih (position.after c)
    exact ⟨position', (if_pos rfl).trans hread⟩

/-- White space is passed over, up to something else. -/
theorem yields_blanks (h : Blanks s t) (ht : StartsToken t) : Yields blanks s () t := by
  intro position
  show ∃ position', Except.ok ((), dropWhileFrom isBlank position s) = _
  induction h generalizing position with
  | none s =>
    refine ⟨position, ?_⟩
    cases s with
    | nil => rfl
    | cons c s => rw [dropWhileFrom, ht c rfl, if_neg Bool.false_ne_true]
  | cons hc _ ih =>
    rw [dropWhileFrom, hc, if_pos rfl]
    exact ih ht _

/-- So the next character is the first one that is not white space. -/
theorem yields_next (h : Blanks s t) (ht : StartsToken t) : Yields next s t.head? t :=
  (yields_blanks h ht).bind (yields_peek t)

end Reader

end TurtleAssist.Json
