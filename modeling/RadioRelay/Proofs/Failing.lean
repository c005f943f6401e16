import RadioRelay.Proofs.Execution

/-!
# Actions that may fail

An action that may fail is careful if it repeats nothing, makes only calls of some kind, and does
not succeed after a call that failed. An action put together from careful ones is careful, so what
a large action may do is read off its parts. What a failing action leaves behind is what it did
before, and the descriptor that it was to take over is closed (`Fallible.runs_closingOnFailure`).
-/

namespace RadioRelay

open Program

def Exchange.failed : Exchange → Bool
  | ⟨.openSocket _ _, .error _⟩ | ⟨.openPair, .error _⟩ | ⟨.bind _ _, .error _⟩
  | ⟨.listen _ _, .error _⟩ | ⟨.accept _, .error _⟩ | ⟨.connect _ _, .error _⟩
  | ⟨.localPort _, .error _⟩ | ⟨.setReceiveTimeout _ _ _, .error _⟩ | ⟨.send _ _, .error _⟩
  | ⟨.receive _ _, .error _⟩ | ⟨.receiveReply _, .error _⟩ | ⟨.receiveInBackground _ _, .error _⟩
  | ⟨.openPoller, .error _⟩ | ⟨.watch _ _ _, .error _⟩ | ⟨.unwatch _ _, .error _⟩
  | ⟨.wait _ _ _, .error _⟩ | ⟨.openEvent, .error _⟩ | ⟨.readEvent _, .error _⟩
  | ⟨.writeEvent _, .error _⟩ | ⟨.handleSignals _, .error _⟩ | ⟨.readFile _, .error _⟩ => true
  | _ => false

instance : LawfulMonad Program := by
  refine LawfulMonad.mk' Program ?_ ?_ ?_
  · intro α program
    change program.bind .done = program
    induction program with
    | done value => rfl
    | request call next ih => exact congrArg (Program.request call) (funext ih)
    | iterate state body next _ ih => exact congrArg (Program.iterate state body) (funext ih)
  · exact fun _ _ => rfl
  · intro α β γ first second third
    change (first.bind second).bind third = first.bind fun value => (second value).bind third
    induction first with
    | done value => rfl
    | request call next ih =>
      exact congrArg (Program.request call) (funext fun answer => ih answer _)
    | iterate state body next _ ih =>
      exact congrArg (Program.iterate state body) (funext fun outcome => ih outcome _)

/-! ### What is done before and after a failure -/

namespace Fallible

variable {α β : Type} {action : Fallible α} {next : α → Fallible β} {trace : Trace}
  {outcome : Except Failure β}

theorem runs_bind :
    (action >>= next).run.Runs trace outcome ↔
      (∃ failure, action.run.Runs trace (.error failure) ∧ outcome = .error failure)
      ∨ ∃ early late value, trace = early ++ late ∧ action.run.Runs early (.ok value)
        ∧ (next value).run.Runs late outcome := by
  refine Program.runs_bind.trans ?_
  constructor
  · rintro ⟨early, late, failure | value, rfl, runs, later⟩
    · rcases later with ⟨rfl, rfl⟩
      rw [List.append_nil]
      exact Or.inl ⟨failure, runs, rfl⟩
    · exact Or.inr ⟨early, late, value, rfl, runs, later⟩
  · rintro (⟨failure, runs, rfl⟩ | ⟨early, late, value, rfl, runs, later⟩)
    · exact ⟨trace, [], .error failure, (List.append_nil _).symm, runs, rfl, rfl⟩
    · exact ⟨early, late, .ok value, rfl, runs, later⟩

theorem runs_bind_ok {result : β} :
    (action >>= next).run.Runs trace (.ok result) ↔
      ∃ early late value, trace = early ++ late ∧ action.run.Runs early (.ok value)
        ∧ (next value).run.Runs late (.ok result) := by
  rw [runs_bind]
  constructor
  · rintro (⟨_, -, same⟩ | parts)
    · cases same
    · exact parts
  · exact Or.inr

theorem begins_bind (begun : (action >>= next).run.Begins trace) :
    action.run.Begins trace
      ∨ ∃ early late value, trace = early ++ late ∧ action.run.Runs early (.ok value)
        ∧ (next value).run.Begins late := by
  rcases Begins.of_bind begun with inFirst | ⟨early, late, failure | value, rfl, runs, later⟩
  · exact Or.inl inFirst
  · rcases later with rfl
    rw [List.append_nil]
    exact Or.inl (Runs.begins ((List.append_nil early).symm ▸ runs))
  · exact Or.inr ⟨early, late, value, rfl, runs, later⟩

theorem runs_bind_iff_of_runs {early late : Trace} {value : α}
    (first : action.run.Runs early (.ok value)) :
    (action >>= next).run.Runs (early ++ late) outcome ↔ (next value).run.Runs late outcome := by
  constructor
  · intro runs
    rcases runs_bind.mp runs with ⟨failure, fails, -⟩ | ⟨other, later, again, same, runs, ends⟩
    · have part : PartAtCalls ((early ++ late) ++ []) (early ++ late) := by
        rw [List.append_nil]
        exact partAtCalls_self _
      cases (fails.unique_of_partAtCalls first part).2.1
    · have part : PartAtCalls (other ++ later) (early ++ late) := same ▸ partAtCalls_self _
      rcases runs.unique_of_partAtCalls first part with ⟨rfl, sameValue, -⟩
      cases sameValue
      rwa [List.append_cancel_left same]
  · exact fun runs => runs_bind.mpr (Or.inr ⟨early, late, value, rfl, first, runs⟩)

/-- If an action fails, the descriptor that it was to take over is closed at last. -/
theorem runs_closingOnFailure {descriptor : Descriptor} {outcome : Except Failure α} :
    (closingOnFailure descriptor action).run.Runs trace outcome ↔
      (∃ value, outcome = .ok value ∧ action.run.Runs trace (.ok value))
      ∨ ∃ failure early, outcome = .error failure ∧ action.run.Runs early (.error failure)
        ∧ trace = early ++ [⟨.close descriptor, ()⟩] := by
  refine Program.runs_bind.trans ?_
  constructor
  · rintro ⟨early, late, failure | value, rfl, runs, later⟩
    · rcases later with ⟨_, _, rfl, rfl, rfl⟩
      exact Or.inr ⟨failure, early, rfl, runs, rfl⟩
    · rcases later with ⟨rfl, rfl⟩
      rw [List.append_nil]
      exact Or.inl ⟨value, rfl, runs⟩
  · rintro (⟨value, rfl, runs⟩ | ⟨failure, early, rfl, runs, rfl⟩)
    · exact ⟨trace, [], .ok value, (List.append_nil _).symm, runs, rfl, rfl⟩
    · exact ⟨early, _, .error failure, rfl, runs, (), [], rfl, rfl, rfl⟩

theorem runs_closingOnFailure_ok {descriptor : Descriptor} {value : α} :
    (closingOnFailure descriptor action).run.Runs trace (.ok value) ↔
      action.run.Runs trace (.ok value) := by
  rw [runs_closingOnFailure]
  constructor
  · rintro (⟨_, same, runs⟩ | ⟨_, _, same, -⟩)
    · cases same
      exact runs
    · cases same
  · exact fun runs => Or.inl ⟨value, rfl, runs⟩

/-- Wording a failure in another way changes nothing about success. -/
theorem runs_bind_iff_of_keeps {ε : Type} {attempt : Program (Except ε α)}
    {word : Except ε α → Program (Except Failure α)} {value : α}
    (keeps : ∀ result, word (.ok result) = pure (.ok result))
    (fails : ∀ error, ∃ failure, word (.error error) = pure (.error failure)) :
    (attempt >>= word).Runs trace (.ok value) ↔ attempt.Runs trace (.ok value) := by
  refine Program.runs_bind.trans ?_
  constructor
  · rintro ⟨early, late, error | result, rfl, runs, later⟩
    · rcases fails error with ⟨failure, worded⟩
      rw [worded] at later
      cases later.2
    · rw [keeps] at later
      rcases later with ⟨rfl, same⟩
      cases same
      rwa [List.append_nil]
  · intro runs
    refine ⟨trace, [], .ok value, (List.append_nil _).symm, runs, ?_⟩
    rw [keeps]
    exact ⟨rfl, rfl⟩

theorem runs_attempting_ok {activity : Activity} {attempt : Program (Attempt α)} {value : α} :
    (attempting activity attempt).run.Runs trace (.ok value) ↔ attempt.Runs trace (.ok value) :=
  runs_bind_iff_of_keeps (fun _ => rfl) fun _ => ⟨_, rfl⟩

theorem runs_attemptingOr_ok {cause : Cause} {attempt : Program (Attempt α)} {value : α} :
    (attemptingOr cause attempt).run.Runs trace (.ok value) ↔ attempt.Runs trace (.ok value) :=
  runs_bind_iff_of_keeps (fun _ => rfl) fun _ => ⟨_, rfl⟩

theorem runs_during_ok {activity : Activity} {value : α} :
    (during activity action).run.Runs trace (.ok value) ↔ action.run.Runs trace (.ok value) :=
  runs_bind_iff_of_keeps (fun _ => rfl) fun _ => ⟨_, rfl⟩

theorem runs_lift_ok {program : Program α} {value : α} :
    (ExceptT.lift program : Fallible α).run.Runs trace (.ok value) ↔ program.Runs trace value := by
  refine Program.runs_bind.trans ?_
  constructor
  · rintro ⟨early, _, result, rfl, runs, rfl, same⟩
    cases same
    rwa [List.append_nil]
  · exact fun runs => ⟨trace, [], value, (List.append_nil _).symm, runs, rfl, rfl⟩

end Fallible

/-! ### Careful actions -/

/-- The program repeats nothing, makes only calls of some kind, and succeeds only if no call
failed. -/
structure Program.Careful (P : Call → Prop) {ε α : Type} (program : Program (Except ε α)) :
    Prop where
  straight : program.Straight
  calls : ∀ trace, program.Begins trace → ∀ exchange ∈ trace, P exchange.call
  strict : ∀ trace value, program.Runs trace (.ok value) →
    ∀ exchange ∈ trace, exchange.failed = false

section Careful

variable {P Q : Call → Prop} {ε α β : Type}

theorem Program.Careful.mono {program : Program (Except ε α)} (careful : program.Careful P)
    (weaker : ∀ call, P call → Q call) : program.Careful Q where
  straight := careful.straight
  calls trace begun exchange exchangeMem :=
    weaker _ (careful.calls trace begun exchange exchangeMem)
  strict := careful.strict

theorem Program.Careful.calls_of_runs {program : Program (Except ε α)} {trace : Trace}
    {outcome : Except ε α} (careful : program.Careful P) (runs : program.Runs trace outcome) :
    ∀ exchange ∈ trace, P exchange.call :=
  careful.calls trace (Runs.begins ((List.append_nil trace).symm ▸ runs))

theorem careful_pure {outcome : Except ε α} : (pure outcome : Program (Except ε α)).Careful P where
  straight := trivial
  calls trace begun exchange exchangeMem := by
    rcases begun with rfl
    cases exchangeMem
  strict trace value runs exchange exchangeMem := by
    rcases runs with ⟨rfl, -⟩
    cases exchangeMem

/-- The result of the second program tells whether the first one succeeded. -/
theorem careful_bind_of {γ : Type} {first : Program γ} {second : γ → Program (Except ε α)}
    (straight : first.Straight)
    (calls : ∀ trace, first.Begins trace → ∀ exchange ∈ trace, P exchange.call)
    (later : ∀ value, (second value).Careful P)
    (strict : ∀ early late value result, first.Runs early value →
      (second value).Runs late (.ok result) → ∀ exchange ∈ early, exchange.failed = false) :
    (first >>= second).Careful P where
  straight := straight.bind fun value => (later value).straight
  calls trace begun := by
    rcases begun.of_bind with inFirst | ⟨early, late, value, rfl, runs, inSecond⟩
    · exact calls trace inFirst
    · rw [List.forall_mem_append]
      exact ⟨calls early (Runs.begins ((List.append_nil early).symm ▸ runs)),
        (later value).calls late inSecond⟩
  strict trace result runs := by
    rcases Program.runs_bind.mp runs with ⟨early, late, value, rfl, firstRuns, secondRuns⟩
    rw [List.forall_mem_append]
    exact ⟨strict early late value result firstRuns secondRuns,
      (later value).strict late result secondRuns⟩

/-- A program goes on after another one, but not to succeed if that one failed. -/
theorem careful_bind_except {first : Program (Except ε α)} {ε' : Type}
    {second : Except ε α → Program (Except ε' β)} (careful : first.Careful P)
    (later : ∀ outcome, (second outcome).Careful P)
    (fails : ∀ error trace result, ¬ (second (.error error)).Runs trace (.ok result)) :
    (first >>= second).Careful P := by
  refine careful_bind_of careful.straight careful.calls later ?_
  rintro early late (error | value) result firstRuns secondRuns
  · exact absurd secondRuns (fails error late result)
  · exact careful.strict early value firstRuns

theorem calls_of_call {call : Call} (allowed : P call) :
    ∀ trace, (Program.call call).Begins trace → ∀ exchange ∈ trace, P exchange.call := by
  rintro _ (rfl | ⟨answer, _, rfl, rfl⟩)
  · simp
  · simpa using allowed

theorem careful_call_bind {call : Call} {second : call.Answer → Program (Except ε α)}
    (allowed : P call) (succeeds : ∀ answer, Exchange.failed ⟨call, answer⟩ = false)
    (later : ∀ answer, (second answer).Careful P) : (Program.call call >>= second).Careful P := by
  refine careful_bind_of (fun _ => trivial) (calls_of_call allowed) later ?_
  intro early late answer result firstRuns _
  rcases runs_call.mp firstRuns with rfl
  simpa using succeeds answer

/-- A call that may fail. Its answer has the type of an attempt, which only the call tells. -/
theorem careful_call (call : Call) (same : call.Answer = Except ε α) (allowed : P call)
    (succeeds : ∀ value, Exchange.failed ⟨call, cast same.symm (.ok value)⟩ = false) :
    (cast (congrArg Program same) (Program.call call) : Program (Except ε α)).Careful P := by
  have shape : ∀ {γ : Type} (type : call.Answer = γ),
      (cast (congrArg Program type) (Program.call call)).Straight
        ∧ (∀ trace, (cast (congrArg Program type) (Program.call call)).Begins trace →
          ∀ exchange ∈ trace, P exchange.call)
        ∧ ∀ trace value, (cast (congrArg Program type) (Program.call call)).Runs trace value →
          trace = [⟨call, cast type.symm value⟩] := by
    rintro γ rfl
    exact ⟨fun _ => trivial, calls_of_call allowed, fun _ _ => runs_call.mp⟩
  rcases shape same with ⟨straight, calls, single⟩
  refine ⟨straight, calls, ?_⟩
  intro trace value runs exchange exchangeMem
  rw [single trace _ runs, List.mem_singleton] at exchangeMem
  rw [exchangeMem]
  exact succeeds value

namespace Fallible

variable {action : Fallible α} {next : α → Fallible β} {attempt : Program (Attempt α)}

theorem careful_bind (careful : action.run.Careful P)
    (later : ∀ value, (next value).run.Careful P) : (action >>= next).run.Careful P := by
  refine careful_bind_except careful ?_ ?_
  · rintro (failure | value)
    · exact careful_pure
    · exact later value
  · rintro failure trace result ⟨-, same⟩
    cases same

theorem careful_attempting {activity : Activity} (careful : attempt.Careful P) :
    (attempting activity attempt).run.Careful P := by
  refine careful_bind_except careful ?_ ?_
  · rintro (errno | value) <;> exact careful_pure
  · rintro errno trace result ⟨-, same⟩
    cases same

theorem careful_attemptingOr {cause : Cause} (careful : attempt.Careful P) :
    (attemptingOr cause attempt).run.Careful P := by
  refine careful_bind_except careful ?_ ?_
  · rintro (errno | value) <;> exact careful_pure
  · rintro errno trace result ⟨-, same⟩
    cases same

theorem careful_during {activity : Activity} (careful : action.run.Careful P) :
    (during activity action).run.Careful P := by
  refine careful_bind_except careful ?_ ?_
  · rintro (failure | value) <;> exact careful_pure
  · rintro failure trace result ⟨-, same⟩
    cases same

theorem careful_closingOnFailure {descriptor : Descriptor} (careful : action.run.Careful P)
    (closes : P (.close descriptor)) :
    (closingOnFailure descriptor action).run.Careful P := by
  refine careful_bind_except careful ?_ ?_
  · rintro (failure | value)
    · exact careful_call_bind closes (fun _ => rfl) fun _ => careful_pure
    · exact careful_pure
  · rintro failure trace result ⟨_, _, -, -, same⟩
    cases same

theorem careful_lift {call : Call} (allowed : P call)
    (succeeds : ∀ answer, Exchange.failed ⟨call, answer⟩ = false) :
    (ExceptT.lift (Program.call call) : Fallible call.Answer).run.Careful P :=
  careful_call_bind allowed succeeds fun _ => careful_pure

end Fallible

end Careful

end RadioRelay
