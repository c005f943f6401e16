import RadioRelay.Proofs.Router.Surroundings

/-!
# From one accept to the next

The system gives the number of a closed connection to a later one. What a
connection lived through is the part of the trace from the accept that gave it
its number up to the next accept that gives the same number: its tenure.
-/

namespace RadioRelay

/-- The part of a trace before a number is given to another client. -/
def tenure (client : ClientId) (later : Trace) : Trace :=
  later.takeWhile fun exchange => !exchange.accepts client

/-- The client was accepted, and this is all that happened since. -/
def Since (client : ClientId) (history since : Trace) : Prop :=
  ∃ before accepting, history = before ++ accepting :: since
    ∧ accepting.accepts client = true ∧ ∀ exchange ∈ since, exchange.accepts client = false

theorem append_eq_append_cons {α : Type} {first second before later : List α} {element : α}
    (split : first ++ second = before ++ element :: later) :
    (∃ rest, before = first ++ rest ∧ second = rest ++ element :: later)
      ∨ ∃ rest, first = before ++ element :: rest ∧ later = rest ++ second := by
  rcases List.append_eq_append_iff.mp split with ⟨rest, rfl, inner⟩ | ⟨rest, rfl, inner⟩
  · exact Or.inl ⟨rest, rfl, inner⟩
  · cases rest with
    | nil => exact Or.inl ⟨[], by simp, inner.symm⟩
    | cons head rest =>
      rcases List.cons.inj inner with ⟨rfl, rest_append⟩
      exact Or.inr ⟨rest, rfl, rest_append⟩

theorem eq_append_of_accepts (client : ClientId) (history : Trace)
    (accepted : history.any (·.accepts client) = true) :
    ∃ accepting, accepting.accepts client = true
      ∧ history = history.takeWhile (!·.accepts client)
        ++ accepting :: (history.dropWhile (!·.accepts client)).tail := by
  induction history with
  | nil => cases accepted
  | cons exchange history ih =>
    by_cases accepts : exchange.accepts client = true
    · exact ⟨exchange, accepts, by simp [accepts]⟩
    · have later : history.any (·.accepts client) = true := by simpa [accepts] using accepted
      rcases ih later with ⟨accepting, acceptsLater, split⟩
      refine ⟨accepting, acceptsLater, ?_⟩
      simpa [accepts] using split

section Tenures

variable {fixed : Fixtures} {first standing after : Standing} {history past trace since : Trace}
  {client : ClientId}

/-- Clients are only accepted at the beginning of a move. -/
theorem Move.eq_nil_of_accepts {before later : Trace} {accepting : Exchange}
    (move : Move fixed standing trace after) (split : trace = before ++ accepting :: later)
    (accepts : accepting.accepts client = true) :
    before = [] ∧ accepting = ⟨.accept fixed.listener, .ok client⟩ := by
  have notQuiet : ∀ {rest : Trace}, (∀ exchange ∈ rest, exchange.opens = []) →
      accepting ∉ rest := by
    intro rest nothing accepted
    rw [accepts_eq_false (nothing _ accepted)] at accepts
    cases accepts
  have begins : ∀ {number : ClientId} {rest : Trace},
      trace = ⟨.accept fixed.listener, .ok number⟩ :: rest →
      (∀ exchange ∈ rest, exchange.opens = []) →
        before = [] ∧ accepting = ⟨.accept fixed.listener, .ok client⟩ := by
    intro number rest head nothing
    rw [split] at head
    cases before with
    | nil =>
      rcases List.cons.inj head with ⟨rfl, -⟩
      refine ⟨rfl, ?_⟩
      rw [of_decide_eq_true accepts]
    | cons exchange before =>
      rcases List.cons.inj head with ⟨-, rfl⟩
      exact absurd (by simp) (notQuiet nothing)
  rcases move.opens_or with nothing | ⟨number, errno, head, -⟩ | ⟨number, head, -⟩
  · refine absurd ?_ (notQuiet nothing)
    simp [split]
  · exact begins head opens_refusal
  · exact begins head opens_admission

/-- After another move a tenure goes on, or the move began it. -/
theorem Since.of_append (move : Move fixed standing trace after)
    (accepted : Since client (past ++ trace) since) :
    (∃ earlier, Since client past earlier ∧ since = earlier ++ trace
        ∧ ∀ exchange ∈ trace, exchange.accepts client = false)
      ∨ trace = ⟨.accept fixed.listener, .ok client⟩ :: since := by
  rcases accepted with ⟨before, accepting, split, accepts, none⟩
  rcases append_eq_append_cons split with ⟨rest, rfl, inner⟩ | ⟨rest, rfl, rfl⟩
  · rcases move.eq_nil_of_accepts inner accepts with ⟨rfl, rfl⟩
    exact Or.inr inner
  · rw [List.forall_mem_append] at none
    exact Or.inl ⟨rest, ⟨before, accepting, rfl, accepts, none.1⟩, rfl, none.2⟩

/-- What was before an accept is a course of its own. -/
theorem Course.before_accept {before later : Trace} {accepting : Exchange}
    (course : Course (Move fixed) first history after)
    (split : history = before ++ accepting :: later) (accepts : accepting.accepts client = true) :
    ∃ middle, Course (Move fixed) first before middle := by
  induction course generalizing later with
  | start => simp at split
  | @next past trace state after earlier move ih =>
    rcases append_eq_append_cons split with ⟨rest, rfl, inner⟩ | ⟨rest, rfl, rfl⟩
    · rcases move.eq_nil_of_accepts inner accepts with ⟨rfl, -⟩
      exact ⟨state, by simpa using earlier⟩
    · exact ih rfl

/-- What was until the end of a tenure is a course of its own. The tenure is over at the end of
the whole course or at the next accept. -/
theorem Course.exists_since {before later : Trace} {accepting : Exchange}
    (course : Course (Move fixed) first history after)
    (split : history = before ++ accepting :: later) (accepts : accepting.accepts client = true) :
    ∃ middle, Course (Move fixed) first (before ++ accepting :: tenure client later) middle
      ∧ Since client (before ++ accepting :: tenure client later) (tenure client later)
      ∧ ((tenure client later = later ∧ middle = after)
        ∨ ∃ again rest, later = tenure client later ++ again :: rest
          ∧ again.accepts client = true) := by
  have none : ∀ exchange ∈ tenure client later, exchange.accepts client = false := by
    intro exchange exchangeMem
    have kept := List.all_eq_true.mp List.all_takeWhile exchange exchangeMem
    simpa using kept
  have accepted : Since client (before ++ accepting :: tenure client later) (tenure client later) :=
    ⟨before, accepting, rfl, accepts, none⟩
  have parts : tenure client later ++ later.dropWhile (fun exchange => !exchange.accepts client)
      = later := List.takeWhile_append_dropWhile
  cases rest : later.dropWhile (fun exchange => !exchange.accepts client) with
  | nil =>
    rw [rest, List.append_nil] at parts
    refine ⟨after, ?_, accepted, Or.inl ⟨parts, rfl⟩⟩
    rw [parts, ← split]
    exact course
  | cons again rest' =>
    have acceptsAgain : again.accepts client = true := by
      have head := List.head?_dropWhile_not (fun exchange => !exchange.accepts client) later
      rw [rest] at head
      simpa using head
    rw [rest] at parts
    have whole : history = (before ++ accepting :: tenure client later) ++ again :: rest' := by
      rw [split, List.append_assoc, List.cons_append, parts]
    rcases course.before_accept whole acceptsAgain with ⟨middle, earlier⟩
    exact ⟨middle, earlier, accepted, Or.inr ⟨again, rest', parts.symm, acceptsAgain⟩⟩

/-- What follows on an accept is the rest of the move that it began. -/
theorem Course.after_accept {before later : Trace}
    (course : Course (Move fixed) first history after)
    (split : history = before ++ ⟨.accept fixed.listener, .ok client⟩ :: later) :
    ∃ rest more, later = rest ++ more
      ∧ ((∃ errno, rest = refusal fixed client errno) ∨ ∃ known, rest = admission fixed client known) := by
  have accepts : Exchange.accepts client ⟨.accept fixed.listener, .ok client⟩ = true := by
    simp [Exchange.accepts]
  induction course generalizing later with
  | start => simp at split
  | @next past trace state after earlier move ih =>
    rcases append_eq_append_cons split with ⟨rest, rfl, inner⟩ | ⟨rest, rfl, rfl⟩
    · rcases move.eq_nil_of_accepts inner accepts with ⟨rfl, -⟩
      refine ⟨later, [], (List.append_nil _).symm, ?_⟩
      rcases move.opens_or with nothing | ⟨number, errno, head, -⟩ | ⟨number, head, -⟩
      · rw [inner] at nothing
        simp [Exchange.opens] at nothing
      · rw [inner] at head
        cases head
        exact Or.inl ⟨errno, rfl⟩
      · rw [inner] at head
        cases head
        exact Or.inr ⟨_, rfl⟩
    · rcases ih rfl with ⟨begun, more, rfl, either⟩
      exact ⟨begun, more ++ trace, List.append_assoc .., either⟩

end Tenures

end RadioRelay
