import Mathlib.Data.List.Infix
import RadioRelay.System.Program

/-!
# What a program may do

A program is run by somebody who answers its calls. Whoever that is, what can be
seen of a run are the calls with their answers, one after the other: its trace.
`Program.Runs` says which traces a program may leave behind, and with which
result; `Program.Begins` says the same of a run that is not over yet. The
answers are arbitrary, so what is proved of all traces holds whatever the
system does.

The main statements are that an execution with a handler leaves such a trace
(`runs_of_runWith`) and that a program which gives up when the system refuses
everything can be brought to an end at any moment (`Begins.completes`).
-/

namespace RadioRelay

/-- A system call with the answer it was given. -/
structure Exchange where
  call : Call
  answer : call.Answer

/-- Calls with their answers, the first one first. -/
abbrev Trace := List Exchange

/-- For as long as the same is called, the same is answered. -/
def PartAtCalls : Trace → Trace → Prop
  | first :: rest, second :: others =>
    first.call = second.call → first = second ∧ PartAtCalls rest others
  | _, _ => True

theorem partAtCalls_self (trace : Trace) : PartAtCalls trace trace := by
  induction trace with
  | nil => trivial
  | cons exchange trace ih => exact fun _ => ⟨rfl, ih⟩

theorem PartAtCalls.of_append {first second restFirst restSecond : Trace}
    (part : PartAtCalls (first ++ restFirst) (second ++ restSecond)) : PartAtCalls first second := by
  induction first generalizing second with
  | nil => cases second <;> trivial
  | cons exchange first ih =>
    cases second with
    | nil => trivial
    | cons other second =>
      intro same
      exact ⟨(part same).1, ih (part same).2⟩

theorem PartAtCalls.append (past : Trace) {first second : Trace} (part : PartAtCalls first second) :
    PartAtCalls (past ++ first) (past ++ second) := by
  induction past with
  | nil => exact part
  | cons exchange past ih => exact fun _ => ⟨rfl, ih⟩

section Rounds

variable {σ β : Type} (step : σ → Trace → σ ⊕ β → Prop) (within : σ → Trace → Prop)

/-- Rounds of a step that is repeated until it gives a result. -/
inductive Rounds : σ → Trace → β → Prop
  | last {state : σ} {trace : Trace} {result : β} (ends : step state trace (.inr result)) :
    Rounds state trace result
  | again {state next : σ} {first rest : Trace} {result : β}
    (goesOn : step state first (.inl next)) (later : Rounds next rest result) :
    Rounds state (first ++ rest) result

/-- Rounds of a step of which the last one is still going on. -/
inductive RoundsBegin : σ → Trace → Prop
  | within {state : σ} {trace : Trace} (begun : within state trace) : RoundsBegin state trace
  | again {state next : σ} {first rest : Trace} (goesOn : step state first (.inl next))
    (later : RoundsBegin next rest) : RoundsBegin state (first ++ rest)

variable {step}

theorem Rounds.forall_mem {P : Exchange → Prop} {state : σ} {trace : Trace} {result : β}
    (rounds : Rounds step state trace result)
    (each : ∀ state trace outcome, step state trace outcome → ∀ exchange ∈ trace, P exchange) :
    ∀ exchange ∈ trace, P exchange := by
  induction rounds with
  | last ends => exact each _ _ _ ends
  | again goesOn _ ih =>
    intro exchange exchangeMem
    rcases List.mem_append.mp exchangeMem with early | late
    · exact each _ _ _ goesOn exchange early
    · exact ih exchange late

/-- If calls and answers tell where a round ends and how, so they do for all rounds. -/
theorem Rounds.unique_of_partAtCalls {state : σ} {first second restFirst restSecond : Trace}
    {result other : β} (rounds : Rounds step state first result)
    (again : Rounds step state second other)
    (each : ∀ state {first second restFirst restSecond : Trace} {outcome another : σ ⊕ β},
      step state first outcome → step state second another →
      PartAtCalls (first ++ restFirst) (second ++ restSecond) →
      first = second ∧ outcome = another ∧ PartAtCalls restFirst restSecond)
    (part : PartAtCalls (first ++ restFirst) (second ++ restSecond)) :
    first = second ∧ result = other ∧ PartAtCalls restFirst restSecond := by
  induction rounds generalizing second restFirst restSecond with
  | last ends =>
    cases again with
    | last endsAgain =>
      rcases each _ ends endsAgain part with ⟨rfl, outcome, partLater⟩
      exact ⟨rfl, Sum.inr.inj outcome, partLater⟩
    | again goesOn =>
      rw [List.append_assoc] at part
      cases (each _ ends goesOn part).2.1
  | again goesOn _ ih =>
    rw [List.append_assoc] at part
    cases again with
    | last ends => cases (each _ goesOn ends part).2.1
    | again goesOnAgain later =>
      rw [List.append_assoc] at part
      rcases each _ goesOn goesOnAgain part with ⟨rfl, outcome, partLater⟩
      cases outcome
      rcases ih later partLater with ⟨rfl, rfl, partLast⟩
      exact ⟨rfl, rfl, partLast⟩

theorem Rounds.begins {state : σ} {early late : Trace} {result : β}
    (rounds : Rounds step state (early ++ late) result)
    (each : ∀ state early late outcome, step state (early ++ late) outcome → within state early) :
    RoundsBegin step within state early := by
  generalize whole : early ++ late = trace at rounds
  induction rounds generalizing early late with
  | last ends =>
    subst whole
    exact .within (each _ _ _ _ ends)
  | again goesOn _ ih =>
    rcases List.append_eq_append_iff.mp whole with ⟨rest, rfl, rfl⟩ | ⟨rest, rfl, rfl⟩
    · exact .within (each _ _ _ _ goesOn)
    · exact .again goesOn (ih rfl)

/-- If calls and answers tell how a step goes on, rounds that are going on have done a part of all
the rounds. -/
theorem RoundsBegin.isPrefix {state : σ} {early first restFirst restSecond : Trace} {result : β}
    (begun : RoundsBegin step within state early) (rounds : Rounds step state first result)
    (each : ∀ state early whole outcome, within state early → step state whole outcome →
      PartAtCalls early whole → early <+: whole)
    (unique : ∀ state {first second restFirst restSecond : Trace} {outcome another : σ ⊕ β},
      step state first outcome → step state second another →
      PartAtCalls (first ++ restFirst) (second ++ restSecond) →
      first = second ∧ outcome = another ∧ PartAtCalls restFirst restSecond)
    (part : PartAtCalls (early ++ restFirst) (first ++ restSecond)) : early <+: first := by
  induction begun generalizing first with
  | within begun =>
    cases rounds with
    | last ends => exact each _ _ _ _ begun ends part.of_append
    | again goesOn later =>
      rw [List.append_assoc] at part
      exact (each _ _ _ _ begun goesOn part.of_append).trans (List.prefix_append ..)
  | again goesOn _ ih =>
    rw [List.append_assoc] at part
    cases rounds with
    | last ends => cases (unique _ goesOn ends part).2.1
    | again goesOnAgain later =>
      rw [List.append_assoc] at part
      rcases unique _ goesOn goesOnAgain part with ⟨rfl, same, partLater⟩
      cases same
      exact (List.prefix_append_right_inj _).mpr (ih later partLater)

end Rounds

section Courses

variable {σ τ : Type} {step : σ → Trace → σ → Prop} {first last : σ} {trace : Trace}

/-- One step after the other, with all that they leave in the trace. -/
inductive Course (step : σ → Trace → σ → Prop) (first : σ) : Trace → σ → Prop
  | start : Course step first [] first
  | next {past trace : Trace} {state after : σ} (earlier : Course step first past state)
    (last : step state trace after) : Course step first (past ++ trace) after

theorem Course.single (taken : step first trace last) : Course step first trace last :=
  .next .start taken

theorem Course.append {past : Trace} {middle : σ} (early : Course step first past middle)
    (late : Course step middle trace last) : Course step first (past ++ trace) last := by
  induction late with
  | start => simpa using early
  | next _ taken ih =>
    rw [← List.append_assoc]
    exact ih.next taken

/-- What every step preserves holds at the end if it held at the beginning. -/
theorem Course.preserves {P : σ → Prop} (course : Course step first trace last)
    (each : ∀ state trace after, P state → step state trace after → P after)
    (initially : P first) : P last := by
  induction course with
  | start => exact initially
  | next _ taken ih => exact each _ _ _ ih taken

/-- A repetition is a course of rounds that go on, and then one that gives a result. -/
theorem Rounds.exists_course {β : Type} {step : σ → Trace → σ ⊕ β → Prop} {result : β}
    (rounds : Rounds step first trace result) : ∃ past part last, trace = past ++ part
      ∧ Course (fun state trace next => step state trace (.inl next)) first past last
      ∧ step last part (.inr result) := by
  induction rounds with
  | last ends => exact ⟨[], _, _, rfl, .start, ends⟩
  | again goesOn _ ih =>
    rcases ih with ⟨past, part, last, rfl, course, ends⟩
    exact ⟨_, part, last, (List.append_assoc ..).symm, (Course.single goesOn).append course, ends⟩

theorem RoundsBegin.exists_course {β : Type} {step : σ → Trace → σ ⊕ β → Prop}
    {within : σ → Trace → Prop} (begun : RoundsBegin step within first trace) :
    ∃ past part last, trace = past ++ part
      ∧ Course (fun state trace next => step state trace (.inl next)) first past last
      ∧ within last part := by
  induction begun with
  | within begun => exact ⟨[], _, _, rfl, .start, begun⟩
  | again goesOn _ ih =>
    rcases ih with ⟨past, part, last, rfl, course, begun⟩
    exact ⟨_, part, last, (List.append_assoc ..).symm, (Course.single goesOn).append course, begun⟩

theorem Course.rounds {β : Type} {step : σ → Trace → σ ⊕ β → Prop} {part : Trace} {result : β}
    (course : Course (fun state trace next => step state trace (.inl next)) first trace last)
    (later : Rounds step last part result) : Rounds step first (trace ++ part) result := by
  induction course generalizing part with
  | start => exact later
  | next _ taken ih =>
    rw [List.append_assoc]
    exact ih (.again taken later)

/-- Steps one after the other, of which the last one is still going on. -/
def Ongoing (step : σ → Trace → σ → Prop) (begun : σ → Trace → Prop) (first : σ)
    (past : Trace) : Prop :=
  ∃ done part state, past = done ++ part ∧ Course step first done state ∧ begun state part

theorem Course.ongoing {begun : σ → Trace → Prop} {early late : Trace}
    (course : Course step first (early ++ late) last)
    (each : ∀ state early late after, step state (early ++ late) after → begun state early)
    (initially : begun first []) : Ongoing step begun first early := by
  generalize whole : early ++ late = trace at course
  induction course generalizing late with
  | start =>
    rcases List.append_eq_nil_iff.mp whole with ⟨rfl, rfl⟩
    exact ⟨[], [], first, rfl, .start, initially⟩
  | @next past trace state after earlier taken ih =>
    rcases List.append_eq_append_iff.mp whole with ⟨rest, rfl, -⟩ | ⟨rest, rfl, rfl⟩
    · exact ih rfl
    · exact ⟨past, rest, state, rfl, earlier, each state rest late after taken⟩

/-- If every step that is going on can be brought to an end, so can what is going on. -/
theorem Ongoing.completes {begun : σ → Trace → Prop} {P : Exchange → Prop} {past : Trace}
    (ongoing : Ongoing step begun first past)
    (each : ∀ state part, begun state part →
      ∃ rest after, step state (part ++ rest) after ∧ ∀ exchange ∈ rest, P exchange) :
    ∃ rest last, Course step first (past ++ rest) last ∧ ∀ exchange ∈ rest, P exchange := by
  rcases ongoing with ⟨done, part, state, rfl, earlier, going⟩
  rcases each state part going with ⟨rest, after, taken, holds⟩
  refine ⟨rest, after, ?_, holds⟩
  rw [List.append_assoc]
  exact earlier.next taken

/-- If every step is, seen in another way, a course of other steps, so is the whole course. -/
theorem Course.refine (P : σ → Prop) (view : σ → τ) {other : τ → Trace → τ → Prop}
    (course : Course step first trace last)
    (each : ∀ state trace after, P state → step state trace after →
      P after ∧ Course other (view state) trace (view after))
    (initially : P first) : P last ∧ Course other (view first) trace (view last) := by
  induction course with
  | start => exact ⟨initially, .start⟩
  | next _ taken ih =>
    rcases each _ _ _ ih.1 taken with ⟨holds, course⟩
    exact ⟨holds, ih.2.append course⟩

end Courses

/-- The answer of a system that lets nothing be done. -/
def Call.refusal : (call : Call) → call.Answer
  | .openSocket _ _ | .openPoller | .openEvent | .accept _ | .openPair | .bind _ _
  | .listen _ _ | .connect _ _ | .setReceiveTimeout _ _ _ | .watch _ _ _ | .unwatch _ _
  | .writeEvent _ | .handleSignals _ | .localPort _ | .send _ _ | .readEvent _
  | .receive _ _ | .receiveReply _ | .receiveInBackground _ _ | .wait _ _ _
  | .readFile _ => .error .wouldBlock
  | .close _ | .startLog _ | .log _ => ()
  | .currentTime => (0 : Nat)
  | .processId => (0 : UInt32)
  | .pageSize => (0 : Int)
  | .fileExists _ => false

/-- The system let nothing be done. -/
def Exchange.Refused (exchange : Exchange) : Prop := exchange.answer = exchange.call.refusal

namespace Program

/-- A run of the program may leave this trace and give this result. -/
def Runs : {α : Type} → Program α → Trace → α → Prop
  | _, .done value, trace, result => trace = [] ∧ result = value
  | _, .request call next, trace, result =>
    ∃ answer rest, trace = ⟨call, answer⟩ :: rest ∧ (next answer).Runs rest result
  | _, .iterate state body next, trace, result =>
    ∃ first rest outcome, trace = first ++ rest
      ∧ Rounds (fun state trace outcome => (body state).Runs trace outcome) state first outcome
      ∧ (next outcome).Runs rest result

/-- A run of the program may have left this trace so far. -/
def Begins : {α : Type} → Program α → Trace → Prop
  | _, .done _, trace => trace = []
  | _, .request call next, trace =>
    trace = [] ∨ ∃ answer rest, trace = ⟨call, answer⟩ :: rest ∧ (next answer).Begins rest
  | _, .iterate state body next, trace =>
    RoundsBegin (fun state trace outcome => (body state).Runs trace outcome)
        (fun state trace => (body state).Begins trace) state trace
      ∨ ∃ first rest outcome, trace = first ++ rest
        ∧ Rounds (fun state trace outcome => (body state).Runs trace outcome) state first outcome
        ∧ (next outcome).Begins rest

section Composition

variable {α β σ : Type}

@[simp]
theorem runs_pure {value result : α} {trace : Trace} :
    (pure value : Program α).Runs trace result ↔ trace = [] ∧ result = value := Iff.rfl

@[simp]
theorem runs_call {request : Call} {trace : Trace} {result : request.Answer} :
    (call request).Runs trace result ↔ trace = [⟨request, result⟩] := by
  constructor
  · rintro ⟨answer, rest, rfl, rfl, rfl⟩
    rfl
  · rintro rfl
    exact ⟨result, [], rfl, rfl, rfl⟩

/-- The trace of a composition is that of the first part and then that of the second. -/
theorem runs_bind {first : Program α} {second : α → Program β} {trace : Trace} {result : β} :
    (first >>= second).Runs trace result ↔
      ∃ early late middle, trace = early ++ late ∧ first.Runs early middle
        ∧ (second middle).Runs late result := by
  change (first.bind second).Runs trace result ↔ _
  induction first generalizing trace with
  | done value =>
    constructor
    · intro runs
      exact ⟨[], trace, value, rfl, ⟨rfl, rfl⟩, runs⟩
    · rintro ⟨_, late, _, rfl, ⟨rfl, rfl⟩, runs⟩
      exact runs
  | request call next ih =>
    constructor
    · rintro ⟨answer, rest, rfl, runs⟩
      rcases (ih answer).mp runs with ⟨early, late, middle, rfl, firstRuns, secondRuns⟩
      exact ⟨⟨call, answer⟩ :: early, late, middle, rfl, ⟨answer, early, rfl, firstRuns⟩,
        secondRuns⟩
    · rintro ⟨_, late, middle, rfl, ⟨answer, early, rfl, firstRuns⟩, secondRuns⟩
      exact ⟨answer, early ++ late, rfl,
        (ih answer).mpr ⟨early, late, middle, rfl, firstRuns, secondRuns⟩⟩
  | iterate state body next _ ih =>
    constructor
    · rintro ⟨rounds, rest, outcome, rfl, repeats, runs⟩
      rcases (ih outcome).mp runs with ⟨early, late, middle, rfl, firstRuns, secondRuns⟩
      exact ⟨rounds ++ early, late, middle, (List.append_assoc ..).symm,
        ⟨rounds, early, outcome, rfl, repeats, firstRuns⟩, secondRuns⟩
    · rintro ⟨_, late, middle, rfl, ⟨rounds, early, outcome, rfl, repeats, firstRuns⟩,
        secondRuns⟩
      exact ⟨rounds, early ++ late, outcome, List.append_assoc .., repeats,
        (ih outcome).mpr ⟨early, late, middle, rfl, firstRuns, secondRuns⟩⟩

theorem runs_call_bind {request : Call} {second : request.Answer → Program β} {trace : Trace}
    {result : β} :
    (call request >>= second).Runs trace result ↔
      ∃ answer rest, trace = ⟨request, answer⟩ :: rest ∧ (second answer).Runs rest result :=
  Iff.rfl

theorem runs_repeatUntil {state : σ} {body : σ → Program (σ ⊕ β)} {trace : Trace} {result : β} :
    (repeatUntil state body).Runs trace result ↔
      Rounds (fun state trace outcome => (body state).Runs trace outcome) state trace result := by
  constructor
  · rintro ⟨first, rest, outcome, rfl, repeats, rfl, rfl⟩
    simpa using repeats
  · intro repeats
    exact ⟨trace, [], result, (List.append_nil trace).symm, repeats, rfl, rfl⟩

theorem begins_call_bind {request : Call} {second : request.Answer → Program β} {trace : Trace} :
    (call request >>= second).Begins trace ↔
      trace = [] ∨ ∃ answer rest, trace = ⟨request, answer⟩ :: rest ∧ (second answer).Begins rest :=
  Iff.rfl

theorem begins_repeatUntil {state : σ} {body : σ → Program (σ ⊕ β)} {trace : Trace} :
    (repeatUntil state body).Begins trace ↔
      RoundsBegin (fun state trace outcome => (body state).Runs trace outcome)
          (fun state trace => (body state).Begins trace) state trace
        ∨ ∃ result, (repeatUntil state body).Runs trace result := by
  refine or_congr_right ?_
  constructor
  · rintro ⟨first, _, outcome, rfl, rounds, rfl⟩
    exact ⟨outcome, first, [], outcome, rfl, rounds, rfl, rfl⟩
  · rintro ⟨_, first, _, outcome, rfl, rounds, rfl, -⟩
    exact ⟨first, [], outcome, rfl, rounds, rfl⟩

theorem begins_nil {program : Program α} : program.Begins [] := by
  induction program with
  | done value => rfl
  | request call next => exact Or.inl rfl
  | iterate state body next ihBody => exact Or.inl (.within (ihBody state))

theorem Runs.begins {program : Program α} {early late : Trace} {result : α}
    (runs : program.Runs (early ++ late) result) : program.Begins early := by
  induction program generalizing early late with
  | done value => exact (List.append_eq_nil_iff.mp runs.1).1
  | request call next ih =>
    rcases runs with ⟨answer, rest, whole, runs⟩
    rcases List.append_eq_cons_iff.mp whole with ⟨rfl, -⟩ | ⟨made, rfl, rfl⟩
    · exact Or.inl rfl
    · exact Or.inr ⟨answer, made, rfl, ih answer runs⟩
  | iterate state body next ihBody ih =>
    rcases runs with ⟨first, rest, outcome, whole, rounds, runs⟩
    rcases List.append_eq_append_iff.mp whole with ⟨made, rfl, rfl⟩ | ⟨made, rfl, rfl⟩
    · exact Or.inl (rounds.begins _ fun state _ _ _ ends => ihBody state ends)
    · exact Or.inr ⟨first, made, outcome, rfl, rounds, ih outcome runs⟩

theorem Begins.of_bind {first : Program α} {second : α → Program β} {trace : Trace}
    (begun : (first >>= second).Begins trace) :
    first.Begins trace ∨ ∃ early late middle, trace = early ++ late ∧ first.Runs early middle
      ∧ (second middle).Begins late := by
  change (first.bind second).Begins trace at begun
  induction first generalizing trace with
  | done value => exact Or.inr ⟨[], trace, value, rfl, ⟨rfl, rfl⟩, begun⟩
  | request call next ih =>
    rcases begun with rfl | ⟨answer, rest, rfl, begun⟩
    · exact Or.inl begins_nil
    · rcases ih answer begun with inFirst | ⟨early, late, middle, rfl, runs, inSecond⟩
      · exact Or.inl (Or.inr ⟨answer, rest, rfl, inFirst⟩)
      · exact Or.inr ⟨⟨call, answer⟩ :: early, late, middle, rfl, ⟨answer, early, rfl, runs⟩,
          inSecond⟩
  | iterate state body next _ ih =>
    rcases begun with begun | ⟨rounds, rest, outcome, rfl, repeats, begun⟩
    · exact Or.inl (Or.inl begun)
    · rcases ih outcome begun with inFirst | ⟨early, late, middle, rfl, runs, inSecond⟩
      · exact Or.inl (Or.inr ⟨rounds, rest, outcome, rfl, repeats, inFirst⟩)
      · exact Or.inr ⟨rounds ++ early, late, middle, (List.append_assoc ..).symm,
          ⟨rounds, early, outcome, rfl, repeats, runs⟩, inSecond⟩

theorem Begins.of_bind_pure {first : Program α} {second : α → Program β} {trace : Trace}
    {P : Prop} (begun : (first >>= second).Begins trace)
    (ends : ∀ value, ∃ result, second value = pure result)
    (split : first.Begins trace → P ∨ ∃ value, first.Runs trace value) :
    P ∨ ∃ result, (first >>= second).Runs trace result := by
  have inFirst : first.Begins trace := by
    rcases begun.of_bind with inFirst | ⟨early, late, middle, rfl, runs, inSecond⟩
    · exact inFirst
    · rcases ends middle with ⟨result, same⟩
      rw [same] at inSecond
      rcases inSecond with rfl
      rw [List.append_nil]
      rw [← List.append_nil early] at runs
      exact runs.begins
  rcases split inFirst with holds | ⟨value, runs⟩
  · exact Or.inl holds
  · rcases ends value with ⟨result, same⟩
    refine Or.inr ⟨result, runs_bind.mpr ⟨trace, [], value, (List.append_nil trace).symm, runs, ?_⟩⟩
    rw [same]
    exact ⟨rfl, rfl⟩

/-- Calls and answers tell where a run ends and how. -/
theorem Runs.unique_of_partAtCalls {program : Program α}
    {first second restFirst restSecond : Trace} {result other : α}
    (runs : program.Runs first result) (again : program.Runs second other)
    (part : PartAtCalls (first ++ restFirst) (second ++ restSecond)) :
    first = second ∧ result = other ∧ PartAtCalls restFirst restSecond := by
  induction program generalizing first second restFirst restSecond with
  | done value =>
    rcases runs with ⟨rfl, rfl⟩
    rcases again with ⟨rfl, rfl⟩
    exact ⟨rfl, rfl, part⟩
  | request call next ih =>
    rcases runs with ⟨answer, made, rfl, runs⟩
    rcases again with ⟨_, others, rfl, again⟩
    rcases part rfl with ⟨same, partLater⟩
    cases same
    rcases ih answer runs again partLater with ⟨rfl, rfl, partLast⟩
    exact ⟨rfl, rfl, partLast⟩
  | iterate state body next ihBody ih =>
    rcases runs with ⟨first, rest, outcome, rfl, rounds, runs⟩
    rcases again with ⟨second, others, another, rfl, roundsAgain, again⟩
    rw [List.append_assoc, List.append_assoc] at part
    rcases rounds.unique_of_partAtCalls roundsAgain ihBody part with ⟨rfl, rfl, partLater⟩
    rcases ih outcome runs again partLater with ⟨rfl, rfl, partLast⟩
    exact ⟨rfl, rfl, partLast⟩

theorem Runs.unique {program : Program α} {trace : Trace} {result other : α}
    (runs : program.Runs trace result) (again : program.Runs trace other) : result = other := by
  have part : PartAtCalls (trace ++ []) (trace ++ []) := partAtCalls_self _
  exact (runs.unique_of_partAtCalls again part).2.1

/-- A run that is going on has done a part of what any run does that is answered alike. -/
theorem Begins.isPrefix {program : Program α} {early whole : Trace} {result : α}
    (begun : program.Begins early) (runs : program.Runs whole result)
    (part : PartAtCalls early whole) : early <+: whole := by
  induction program generalizing early whole with
  | done value =>
    rcases begun with rfl
    exact List.nil_prefix
  | request call next ih =>
    rcases runs with ⟨answer, rest, rfl, runs⟩
    rcases begun with rfl | ⟨_, made, rfl, begun⟩
    · exact List.nil_prefix
    · rcases part rfl with ⟨same, partLater⟩
      cases same
      exact List.cons_prefix_cons.mpr ⟨rfl, ih answer begun runs partLater⟩
  | iterate state body next ihBody ih =>
    rcases runs with ⟨first, rest, outcome, rfl, rounds, runs⟩
    rcases begun with begun | ⟨others, made, another, rfl, again, begun⟩
    · have partRounds : PartAtCalls (early ++ []) (first ++ rest) := by
        rw [List.append_nil]
        exact part
      refine (begun.isPrefix _ rounds ?_ ?_ partRounds).trans (List.prefix_append first rest)
      · exact fun state _ _ _ within ends => ihBody state within ends
      · exact fun state _ _ _ _ _ _ ends => ends.unique_of_partAtCalls
    · rcases again.unique_of_partAtCalls rounds
        (fun state _ _ _ _ _ _ ends => ends.unique_of_partAtCalls) part with ⟨rfl, rfl, partLater⟩
      exact (List.prefix_append_right_inj others).mpr (ih another begun runs partLater)

end Composition

section Repetitions

variable {α β σ : Type} {P : ∀ σ β : Type, (σ → Program (σ ⊕ β)) → Prop}

/-- Whatever the program repeats is of some kind. -/
def Repeats (P : ∀ σ β : Type, (σ → Program (σ ⊕ β)) → Prop) : {α : Type} → Program α → Prop
  | _, .done _ => True
  | _, .request _ next => ∀ answer, (next answer).Repeats P
  | _, .iterate _ body next =>
    P _ _ body ∧ (∀ state, (body state).Repeats P) ∧ ∀ outcome, (next outcome).Repeats P

theorem Repeats.bind {first : Program α} {second : α → Program β} (repeats : first.Repeats P)
    (repeatsNext : ∀ value, (second value).Repeats P) : (first >>= second).Repeats P := by
  change (first.bind second).Repeats P
  induction first with
  | done value => exact repeatsNext value
  | request call next ih =>
    intro answer
    exact ih answer (repeats answer) repeatsNext
  | iterate state body next _ ih =>
    rcases repeats with ⟨holds, inBody, inNext⟩
    refine ⟨holds, inBody, ?_⟩
    intro outcome
    exact ih outcome (inNext outcome) repeatsNext

theorem repeats_repeatUntil {state : σ} {body : σ → Program (σ ⊕ β)} (holds : P σ β body)
    (inBody : ∀ state, (body state).Repeats P) : (repeatUntil state body).Repeats P :=
  ⟨holds, inBody, fun _ => trivial⟩

/-- The program repeats nothing. -/
def Straight : {α : Type} → Program α → Prop
  | _, .done _ => True
  | _, .request _ next => ∀ answer, (next answer).Straight
  | _, .iterate _ _ _ => False

theorem Straight.bind {first : Program α} {second : α → Program β} (straight : first.Straight)
    (straightNext : ∀ value, (second value).Straight) : (first >>= second).Straight := by
  change (first.bind second).Straight
  induction first with
  | done value => exact straightNext value
  | request call next ih =>
    intro answer
    exact ih answer (straight answer) straightNext
  | iterate => cases straight

theorem Straight.repeats {program : Program α} (straight : program.Straight) :
    program.Repeats P := by
  induction program with
  | done value => trivial
  | request call next ih => exact fun answer => ih answer (straight answer)
  | iterate => cases straight

end Repetitions

section Endings

variable {α β σ : Type}

/-- Whatever was answered so far, the program ends if from now on everything is refused. -/
def Settles : {α : Type} → Program α → Prop
  | _, .done _ => True
  | _, .request _ next => ∀ answer, (next answer).Settles
  | _, .iterate _ body next =>
    (∀ state, (body state).Settles)
      ∧ (∀ state, ∃ trace result, (∀ exchange ∈ trace, exchange.Refused)
        ∧ (body state).Runs trace (.inr result))
      ∧ ∀ outcome, (next outcome).Settles

/-- The body gives a result if it is refused everything. -/
def Quits (body : σ → Program (σ ⊕ β)) : Prop :=
  ∀ state, ∃ trace result, (∀ exchange ∈ trace, exchange.Refused)
    ∧ (body state).Runs trace (.inr result)

theorem Repeats.settles {program : Program α} (repeats : program.Repeats fun _ _ => Quits) :
    program.Settles := by
  induction program with
  | done value => trivial
  | request call next ih => exact fun answer => ih answer (repeats answer)
  | iterate state body next ihBody ihNext =>
    rcases repeats with ⟨quits, inBody, inNext⟩
    exact ⟨fun state => ihBody state (inBody state), quits,
      fun outcome => ihNext outcome (inNext outcome)⟩

theorem Settles.finishes {program : Program α} (settles : program.Settles) :
    ∃ trace result, program.Runs trace result ∧ ∀ exchange ∈ trace, exchange.Refused := by
  induction program with
  | done value => exact ⟨[], value, ⟨rfl, rfl⟩, by simp⟩
  | request call next ih =>
    rcases ih call.refusal (settles call.refusal) with ⟨trace, result, runs, refused⟩
    refine ⟨⟨call, call.refusal⟩ :: trace, result, ⟨_, trace, rfl, runs⟩, ?_⟩
    intro exchange exchangeMem
    rcases List.mem_cons.mp exchangeMem with rfl | later
    · rfl
    · exact refused exchange later
  | iterate state body next _ ih =>
    rcases settles with ⟨_, bodyEnds, nextSettles⟩
    rcases bodyEnds state with ⟨first, outcome, firstRefused, ends⟩
    rcases ih outcome (nextSettles outcome) with ⟨rest, result, runs, restRefused⟩
    refine ⟨first ++ rest, result, ⟨first, rest, outcome, rfl, .last ends, runs⟩, ?_⟩
    intro exchange exchangeMem
    rcases List.mem_append.mp exchangeMem with early | late
    · exact firstRefused exchange early
    · exact restRefused exchange late

/-- A run that is going on can be brought to an end by refusing everything. -/
theorem Begins.completes {program : Program α} {trace : Trace} (begun : program.Begins trace)
    (settles : program.Settles) :
    ∃ rest result, program.Runs (trace ++ rest) result
      ∧ ∀ exchange ∈ rest, exchange.Refused := by
  induction program generalizing trace with
  | done value =>
    rcases begun with rfl
    exact ⟨[], value, ⟨rfl, rfl⟩, by simp⟩
  | request call next ih =>
    rcases begun with rfl | ⟨answer, made, rfl, begun⟩
    · exact settles.finishes
    · rcases ih answer begun (settles answer) with ⟨rest, result, runs, refused⟩
      exact ⟨rest, result, ⟨answer, made ++ rest, rfl, runs⟩, refused⟩
  | iterate state body next ihBody ihNext =>
    rcases settles with ⟨bodySettles, bodyEnds, nextSettles⟩
    rcases begun with begun | ⟨first, made, outcome, rfl, rounds, begun⟩
    · -- The round that is going on is completed, one more round gives the result.
      obtain ⟨rest, outcome, rounds, refused⟩ : ∃ rest outcome,
          Rounds (fun state trace outcome => (body state).Runs trace outcome) state
            (trace ++ rest) outcome ∧ ∀ exchange ∈ rest, exchange.Refused := by
        induction begun with
        | @within state trace begun =>
          obtain ⟨rest, outcome | outcome, runs, refused⟩ :=
            ihBody state begun (bodySettles state)
          · obtain ⟨last, result, lastRefused, ends⟩ := bodyEnds outcome
            refine ⟨rest ++ last, result, ?_, ?_⟩
            · rw [← List.append_assoc]
              exact .again runs (.last ends)
            · intro exchange exchangeMem
              rcases List.mem_append.mp exchangeMem with early | late
              · exact refused exchange early
              · exact lastRefused exchange late
          · exact ⟨rest, outcome, .last runs, refused⟩
        | again goesOn _ ih =>
          obtain ⟨rest, outcome, rounds, refused⟩ := ih
          refine ⟨rest, outcome, ?_, refused⟩
          rw [List.append_assoc]
          exact .again goesOn rounds
      rcases (nextSettles outcome).finishes with ⟨last, result, runs, lastRefused⟩
      refine ⟨rest ++ last, result, ⟨trace ++ rest, last, outcome, ?_, rounds, runs⟩, ?_⟩
      · rw [List.append_assoc]
      · intro exchange exchangeMem
        rcases List.mem_append.mp exchangeMem with early | late
        · exact refused exchange early
        · exact lastRefused exchange late
    · rcases ihNext outcome begun (nextSettles outcome) with ⟨rest, result, runs, refused⟩
      refine ⟨rest, result, ⟨first, made ++ rest, outcome, ?_, rounds, runs⟩, refused⟩
      rw [List.append_assoc]

end Endings

section Handlers

variable {World : Type} (handler : (call : Call) → StateM World call.Answer)

/-- The handler gives the answers of the trace, one after the other. -/
def Answers : World → Trace → World → Prop
  | world, [], final => final = world
  | world, exchange :: rest, final =>
    ∃ next, (handler exchange.call).run world = (exchange.answer, next) ∧ Answers next rest final

variable {handler}

theorem Answers.append {world middle final : World} {first rest : Trace}
    (early : Answers handler world first middle) (late : Answers handler middle rest final) :
    Answers handler world (first ++ rest) final := by
  induction first generalizing world with
  | nil =>
    rcases early with rfl
    exact late
  | cons exchange first ih =>
    rcases early with ⟨next, answered, others⟩
    exact ⟨next, answered, ih others⟩

/-- What the same handler answers from the same state differs only after different calls. -/
theorem Answers.partAtCalls {world final last : World} {first second : Trace}
    (answered : Answers handler world first final) (again : Answers handler world second last) :
    PartAtCalls first second := by
  induction first generalizing world second with
  | nil => cases second <;> trivial
  | cons exchange first ih =>
    cases second with
    | nil => trivial
    | cons other second =>
      rcases exchange with ⟨call, answer⟩
      rcases other with ⟨_, another⟩
      rintro rfl
      rcases answered with ⟨next, taken, answered⟩
      rcases again with ⟨_, takenAgain, again⟩
      cases taken.symm.trans takenAgain
      exact ⟨rfl, ih answered again⟩

theorem rounds_of_repeatWithin {σ β : Type} {step : σ → StateM World (Option (σ ⊕ β))}
    (runs : σ → Trace → σ ⊕ β → Prop)
    (sound : ∀ {state world outcome next}, (step state).run world = (some outcome, next) →
      ∃ trace, runs state trace outcome ∧ Answers handler world trace next)
    {limit : Nat} {state : σ} {world final : World} {result : β}
    (executed : (repeatWithin step limit state).run world = (some result, final)) :
    ∃ trace, Rounds runs state trace result ∧ Answers handler world trace final := by
  induction limit generalizing state world with
  | zero => cases executed
  | succ limit ih =>
    simp only [repeatWithin, StateT.run_bind] at executed
    rcases stepped : (step state).run world with ⟨_ | (next | outcome), middle⟩
    all_goals rw [stepped] at executed
    · cases executed
    · rcases sound stepped with ⟨first, goesOn, early⟩
      rcases ih executed with ⟨rest, later, late⟩
      exact ⟨first ++ rest, .again goesOn later, early.append late⟩
    · cases executed
      rcases sound stepped with ⟨trace, ends, answered⟩
      exact ⟨trace, .last ends, answered⟩

/-- An execution with a handler leaves a trace that the handler answered. -/
theorem runs_of_runWith {α : Type} {limit : Nat} {program : Program α} {world final : World}
    {result : α} (executed : (program.runWith handler limit).run world = (some result, final)) :
    ∃ trace, program.Runs trace result ∧ Answers handler world trace final := by
  induction program generalizing world final with
  | done value =>
    cases executed
    exact ⟨[], ⟨rfl, rfl⟩, rfl⟩
  | request call next ih =>
    simp only [runWith, StateT.run_bind] at executed
    rcases ih _ executed with ⟨trace, runs, answered⟩
    exact ⟨⟨call, _⟩ :: trace, ⟨_, trace, rfl, runs⟩, _, rfl, answered⟩
  | iterate state body next ihBody ihNext =>
    simp only [runWith, StateT.run_bind] at executed
    rcases repeated : (repeatWithin (fun state => runWith handler limit (body state)) limit
      state).run world with ⟨_ | outcome, middle⟩
    all_goals rw [repeated] at executed
    · cases executed
    · obtain ⟨first, rounds, early⟩ := rounds_of_repeatWithin
        (fun state trace outcome => (body state).Runs trace outcome)
        (fun stepped => ihBody _ stepped) repeated
      rcases ihNext outcome executed with ⟨rest, runs, late⟩
      exact ⟨first ++ rest, ⟨first, rest, outcome, rfl, rounds, runs⟩, early.append late⟩

end Handlers

section Recording

variable (script : Trace → (call : Call) → call.Answer)

/-- Answers by a script, which knows what was called before, and notes what it answered. -/
def recorder (call : Call) : StateM Trace call.Answer :=
  fun past => (script past call, past ++ [⟨call, script past call⟩])

/-- What comes of a program whose calls a script answers, and the trace it leaves. -/
def rehearse {α : Type} (program : Program α) (limit : Nat) : Option α × Trace :=
  (program.runWith (recorder script) limit).run []

variable {script}

theorem eq_append_of_answers {past trace final : Trace}
    (answered : Answers (recorder script) past trace final) : final = past ++ trace := by
  induction trace generalizing past with
  | nil =>
    rw [List.append_nil]
    exact answered
  | cons exchange trace ih =>
    rcases exchange with ⟨call, answer⟩
    rcases answered with ⟨next, same, others⟩
    have scripted : script past call = answer := congrArg Prod.fst same
    have noted : past ++ [⟨call, script past call⟩] = next := congrArg Prod.snd same
    rw [ih others, ← noted, scripted, List.append_assoc, List.singleton_append]

/-- A rehearsal that comes to an end is a run of the program, with the answers of the script. -/
theorem rehearsed {α : Type} {program : Program α} {limit : Nat}
    (ends : (program.rehearse script limit).1.isSome) :
    program.Runs (program.rehearse script limit).2 ((program.rehearse script limit).1.get ends)
      ∧ Answers (recorder script) [] (program.rehearse script limit).2
        (program.rehearse script limit).2 := by
  have executed : (program.runWith (recorder script) limit).run []
      = (some ((program.rehearse script limit).1.get ends), (program.rehearse script limit).2) := by
    rw [Option.some_get]
    rfl
  rcases runs_of_runWith executed with ⟨trace, runs, answered⟩
  have whole : (program.rehearse script limit).2 = trace := eq_append_of_answers answered
  rw [whole] at answered ⊢
  exact ⟨runs, answered⟩

theorem runs_rehearse {α : Type} {program : Program α} {limit : Nat}
    (ends : (program.rehearse script limit).1.isSome) :
    program.Runs (program.rehearse script limit).2
      ((program.rehearse script limit).1.get ends) :=
  (rehearsed ends).1

theorem exists_runs_of_any {α : Type} {program : Program α} {limit : Nat} {holds : α → Bool}
    (comes : (program.rehearse script limit).1.any holds) :
    ∃ result, program.Runs (program.rehearse script limit).2 result ∧ holds result := by
  rcases (Option.any_eq_true_iff_get _ _).mp comes with ⟨ends, result⟩
  exact ⟨_, runs_rehearse ends, result⟩

theorem answer_of_rehearsal {α : Type} {program : Program α} {limit : Nat} {call : Call}
    {answer : call.Answer} {rest : Trace} (ends : (program.rehearse script limit).1.isSome)
    (head : (program.rehearse script limit).2 = ⟨call, answer⟩ :: rest) :
    answer = script [] call := by
  have answered := (rehearsed ends).2
  rw [head] at answered
  rcases answered with ⟨_, same, -⟩
  exact (congrArg Prod.fst same).symm

theorem runs_rehearse_isOk {ε α σ : Type} {program : Program (Except ε α × σ)}
    {limit : Nat}
    (ends : (program.rehearse script limit).1.isSome)
    (succeeds : (((program.rehearse script limit).1.get ends).1).isOk = true) :
    ∃ value, program.Runs (program.rehearse script limit).2
      (.ok value, ((program.rehearse script limit).1.get ends).2) := by
  have runs := runs_rehearse ends
  rcases outcome : (program.rehearse script limit).1.get ends with ⟨failure | value, after⟩
  · rw [outcome] at succeeds
    cases succeeds
  · rw [outcome] at runs
    exact ⟨value, runs⟩

/-- A program that repeats nothing comes to an end, whatever it is answered. -/
theorem Straight.ends {α : Type} {program : Program α} (straight : program.Straight)
    (limit : Nat) : (program.rehearse script limit).1.isSome := by
  unfold rehearse
  generalize ([] : Trace) = past
  induction program generalizing past with
  | done value => rfl
  | request call next ih =>
    simp only [runWith, StateT.run_bind]
    exact ih _ (straight _) _
  | iterate => cases straight

/-- A round of the body that is not the last one takes an answer of some kind. -/
def Paced (pays : Exchange → Bool) {σ β : Type} (body : σ → Program (σ ⊕ β)) : Prop :=
  ∀ state trace next, (body state).Runs trace (.inl next) → 0 < trace.countP pays

/-- A script gives so many answers of some kind, and then no more. -/
def Sparing (pays : Exchange → Bool) (script : Trace → (call : Call) → call.Answer)
    (bound : Nat) : Prop :=
  ∀ past call, bound ≤ past.countP pays → pays ⟨call, script past call⟩ = false

section Pace

variable {pays : Exchange → Bool} {bound : Nat}

theorem Sparing.countP_append (sparing : Sparing pays script bound) {past : Trace}
    (few : past.countP pays ≤ bound) (call : Call) :
    (past ++ [(⟨call, script past call⟩ : Exchange)]).countP pays ≤ bound := by
  rw [List.countP_append, List.countP_singleton]
  rcases Nat.lt_or_ge (past.countP pays) bound with less | spent
  · split <;> omega
  · simpa [sparing past call spent] using few

/-- If every round but the last one takes an answer of which there are only so many, more rounds
than that are enough. -/
theorem repeatWithin_of_paced {σ β : Type} {step : σ → StateM Trace (Option (σ ⊕ β))}
    (each : ∀ state past, past.countP pays ≤ bound → ∃ outcome final,
      (step state).run past = (some outcome, final) ∧ final.countP pays ≤ bound
        ∧ ∀ next, outcome = .inl next → past.countP pays < final.countP pays)
    {rounds : Nat} (state : σ) {past : Trace} (few : past.countP pays ≤ bound)
    (enough : bound < past.countP pays + rounds) :
    ∃ result final, (repeatWithin step rounds state).run past = (some result, final)
      ∧ final.countP pays ≤ bound := by
  induction rounds generalizing state past with
  | zero => omega
  | succ rounds ih =>
    rcases each state past few with ⟨next | result, final, stepped, fewer, takes⟩
    · have more := takes next rfl
      rcases ih next fewer (by omega) with ⟨result, last, repeated, still⟩
      refine ⟨result, last, ?_, still⟩
      simp only [repeatWithin, StateT.run_bind, stepped]
      exact repeated
    · refine ⟨result, final, ?_, fewer⟩
      simp only [repeatWithin, StateT.run_bind, stepped]
      rfl

theorem executes_of_paced {α : Type} {program : Program α} {limit : Nat}
    (repeats : program.Repeats fun _ _ => Paced pays) (sparing : Sparing pays script bound)
    (enough : bound < limit) {past : Trace} (few : past.countP pays ≤ bound) :
    ∃ result final, (program.runWith (recorder script) limit).run past = (some result, final)
      ∧ final.countP pays ≤ bound := by
  induction program generalizing past with
  | done value => exact ⟨value, past, rfl, few⟩
  | request call next ih =>
    simp only [runWith, StateT.run_bind]
    exact ih _ (repeats _) (sparing.countP_append few call)
  | iterate state body next ihBody ihNext =>
    rcases repeats with ⟨paced, inBody, inNext⟩
    have each : ∀ state past, past.countP pays ≤ bound → ∃ outcome final,
        (runWith (recorder script) limit (body state)).run past = (some outcome, final)
          ∧ final.countP pays ≤ bound
          ∧ ∀ next, outcome = .inl next → past.countP pays < final.countP pays := by
      intro state past few
      rcases ihBody state (inBody state) few with ⟨outcome, final, executed, fewer⟩
      refine ⟨outcome, final, executed, fewer, ?_⟩
      rintro later rfl
      rcases runs_of_runWith executed with ⟨trace, runs, answered⟩
      have takes := paced state trace later runs
      rw [eq_append_of_answers answered, List.countP_append]
      omega
    have enoughNow : bound < past.countP pays + limit := by omega
    rcases repeatWithin_of_paced each state few enoughNow with ⟨outcome, middle, repeated, fewer⟩
    rcases ihNext outcome (inNext outcome) fewer with ⟨result, final, executed, still⟩
    refine ⟨result, final, ?_, still⟩
    simp only [runWith, StateT.run_bind, repeated]
    exact executed

/-- A program that goes on repeating only while it is given answers of some kind comes to an end if
there are only so many of them. -/
theorem ends_of_paced {α : Type} {program : Program α} {limit : Nat}
    (repeats : program.Repeats fun _ _ => Paced pays) (sparing : Sparing pays script bound)
    (enough : bound < limit) : (program.rehearse script limit).1.isSome := by
  have few : ([] : Trace).countP pays ≤ bound := Nat.zero_le _
  rcases executes_of_paced repeats sparing enough few with ⟨result, final, executed, -⟩
  rw [rehearse, executed]
  rfl

end Pace

end Recording

end Program
end RadioRelay
