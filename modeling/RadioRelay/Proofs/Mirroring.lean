import RadioRelay.Proofs.Execution

/-!
# Programs that make the same calls

One program mirrors another one if it can leave every trace that the other one
leaves, with a result that belongs to the other one's result. A script decides
what is answered to a call from what was called before. Where a script looks
only at part of what was called before, that part of a trace is answered by the
same script.
-/

namespace RadioRelay

/-- What is answered to a call, depending on what was called before. -/
abbrev Script := Trace → (call : Call) → call.Answer

/-- After some past, a trace has the answers of a script. -/
def Scripted (script : Script) : Trace → Trace → Prop
  | _, [] => True
  | past, exchange :: later =>
    exchange.answer = script past exchange.call ∧ Scripted script (past ++ [exchange]) later

section Scripts

variable {script other : Script} {past early late trace again : Trace}

theorem scripted_append :
    Scripted script past (early ++ late) ↔
      Scripted script past early ∧ Scripted script (past ++ early) late := by
  induction early generalizing past with
  | nil => simp [Scripted]
  | cons exchange early ih => simp [Scripted, ih, and_assoc]

theorem Scripted.forall_mem {P : Exchange → Prop} (scripted : Scripted script past trace)
    (each : ∀ (past : Trace) (call : Call), P ⟨call, script past call⟩) :
    ∀ exchange ∈ trace, P exchange := by
  induction trace generalizing past with
  | nil => simp
  | cons exchange trace ih =>
    rcases exchange with ⟨call, answer⟩
    rcases scripted with ⟨answered, later⟩
    obtain rfl : answer = script past call := answered
    rw [List.forall_mem_cons]
    exact ⟨each past call, ih later⟩

/-- If some calls are answered by what was said in such calls alone, they are answered as if nothing
else had been called. -/
theorem Scripted.filter {kind : Exchange → Bool}
    (apart : ∀ past (exchange : Exchange), kind exchange →
      script past exchange.call = script (past.filter kind) exchange.call)
    (scripted : Scripted script past trace) :
    Scripted script (past.filter kind) (trace.filter kind) := by
  induction trace generalizing past with
  | nil => trivial
  | cons exchange trace ih =>
    rcases scripted with ⟨answered, later⟩
    have laterOwn := ih later
    rw [List.filter_append] at laterOwn
    by_cases own : kind exchange
    · rw [List.filter_cons_of_pos own]
      rw [List.filter_cons_of_pos own, List.filter_nil] at laterOwn
      exact ⟨answered.trans (apart past exchange own), laterOwn⟩
    · rw [List.filter_cons_of_neg own]
      rw [List.filter_cons_of_neg own, List.filter_nil, List.append_nil] at laterOwn
      exact laterOwn

/-- Scripts that answer the calls of a trace alike are followed alike. -/
theorem Scripted.congr (scripted : Scripted script past trace) {pastAgain : Trace}
    (alike : ∀ before exchange after, trace = before ++ exchange :: after →
      script (past ++ before) exchange.call = other (pastAgain ++ before) exchange.call) :
    Scripted other pastAgain trace := by
  induction trace generalizing past pastAgain with
  | nil => trivial
  | cons exchange trace ih =>
    rcases scripted with ⟨answered, later⟩
    refine ⟨?_, ih later ?_⟩
    · have now := alike [] exchange trace rfl
      rw [List.append_nil, List.append_nil] at now
      exact answered.trans now
    · rintro before following after rfl
      have afterwards := alike (exchange :: before) following after rfl
      simpa using afterwards

theorem Scripted.partAtCalls (scripted : Scripted script past trace)
    (scriptedAgain : Scripted script past again) : PartAtCalls trace again := by
  induction trace generalizing past again with
  | nil => trivial
  | cons exchange trace ih =>
    cases again with
    | nil => trivial
    | cons exchangeAgain again =>
      rcases exchange with ⟨call, answer⟩
      rcases exchangeAgain with ⟨_, answerAgain⟩
      rintro ⟨⟩
      rcases scripted with ⟨answered, later⟩
      rcases scriptedAgain with ⟨answeredAgain, laterAgain⟩
      obtain rfl : answer = answerAgain := answered.trans answeredAgain.symm
      exact ⟨rfl, ih later laterAgain⟩

end Scripts

namespace Program

variable {α β γ δ σ τ : Type} {related : α → β → Prop} {relatedNext : γ → δ → Prop}

/-- The second program can do whatever the first one does, and the results belong together. -/
def Mirrors (related : α → β → Prop) (first : Program α) (second : Program β) : Prop :=
  ∀ trace result, first.Runs trace result → ∃ other, second.Runs trace other ∧ related result other

theorem Mirrors.refl (program : Program α) : Mirrors Eq program program :=
  fun _ result runs => ⟨result, runs, rfl⟩

theorem mirrors_pure {result : α} {other : β} (holds : related result other) :
    Mirrors related (pure result) (pure other) := by
  rintro _ _ ⟨rfl, rfl⟩
  exact ⟨other, ⟨rfl, rfl⟩, holds⟩

theorem Mirrors.bind {first : Program α} {second : Program β} {next : α → Program γ}
    {nextAgain : β → Program δ} (mirrors : Mirrors related first second)
    (mirrorsNext : ∀ result other, related result other →
      Mirrors relatedNext (next result) (nextAgain other)) :
    Mirrors relatedNext (first >>= next) (second >>= nextAgain) := by
  intro trace result runs
  rcases runs_bind.mp runs with ⟨early, late, middle, rfl, runsFirst, runsNext⟩
  rcases mirrors early middle runsFirst with ⟨middleAgain, runsSecond, holds⟩
  rcases mirrorsNext middle middleAgain holds late result runsNext with ⟨other, runsLast, holdsLast⟩
  exact ⟨other, runs_bind.mpr ⟨early, late, middleAgain, rfl, runsSecond, runsLast⟩, holdsLast⟩

theorem mirrors_call_bind {call : Call} {next : call.Answer → Program γ}
    {nextAgain : call.Answer → Program δ}
    (mirrors : ∀ answer, Mirrors relatedNext (next answer) (nextAgain answer)) :
    Mirrors relatedNext (Program.call call >>= next) (Program.call call >>= nextAgain) := by
  refine (Mirrors.refl _).bind ?_
  rintro answer _ rfl
  exact mirrors answer

theorem mirrors_ite_of_iff {condition other : Prop} [Decidable condition] [Decidable other]
    {first one : Program α} {second another : Program β} (alike : condition ↔ other)
    (holds : condition → Mirrors related first second)
    (fails : ¬ condition → Mirrors related one another) :
    Mirrors related (if condition then first else one) (if other then second else another) := by
  by_cases yes : condition
  · rw [if_pos yes, if_pos (alike.mp yes)]
    exact holds yes
  · rw [if_neg yes, if_neg (mt alike.mpr yes)]
    exact fails yes

theorem mirrors_ite {condition : Prop} [Decidable condition] {first one : Program α}
    {second another : Program β} (holds : condition → Mirrors related first second)
    (fails : ¬ condition → Mirrors related one another) :
    Mirrors related (if condition then first else one) (if condition then second else another) :=
  mirrors_ite_of_iff Iff.rfl holds fails

theorem mirrors_repeatUntil (alike : σ → τ → Prop) {body : σ → Program (σ ⊕ α)}
    {bodyAgain : τ → Program (τ ⊕ β)}
    (each : ∀ state twin, alike state twin →
      Mirrors (Sum.LiftRel alike related) (body state) (bodyAgain twin))
    {state : σ} {twin : τ} (starts : alike state twin) :
    Mirrors related (repeatUntil state body) (repeatUntil twin bodyAgain) := by
  intro trace result runs
  have rounds := runs_repeatUntil.mp runs
  clear runs
  induction rounds generalizing twin with
  | last ends =>
    rcases each _ twin starts _ _ ends with ⟨_, endsAgain, holds⟩
    cases holds with
    | inr holds => exact ⟨_, runs_repeatUntil.mpr (.last endsAgain), holds⟩
  | again goesOn _ ih =>
    rcases each _ twin starts _ _ goesOn with ⟨_, goesOnAgain, holds⟩
    cases holds with
    | inl holds =>
      rcases ih holds with ⟨other, later, belongs⟩
      exact ⟨other, runs_repeatUntil.mpr (.again goesOnAgain (runs_repeatUntil.mp later)), belongs⟩

theorem Straight.scripted {program : Program α} (straight : program.Straight) (script : Script)
    (past : Trace) : ∃ trace result, program.Runs trace result ∧ Scripted script past trace := by
  induction program generalizing past with
  | done value => exact ⟨[], value, ⟨rfl, rfl⟩, trivial⟩
  | request call next ih =>
    rcases ih (script past call) (straight _) (past ++ [⟨call, script past call⟩]) with
      ⟨trace, result, runs, scripted⟩
    exact ⟨⟨call, script past call⟩ :: trace, result, ⟨_, trace, rfl, runs⟩, rfl, scripted⟩
  | iterate => cases straight

/-- A program can leave a trace in which its calls are answered by a script. -/
def Performs (program : Program α) (script : Script) (trace : Trace) (result : α) : Prop :=
  program.Runs trace result ∧ Scripted script [] trace

/-- A script leaves no choice. -/
theorem Performs.unique {script : Script} {program : Program α} {trace again : Trace}
    {result other : α} (performs : program.Performs script trace result)
    (performsAgain : program.Performs script again other) : trace = again ∧ result = other := by
  have part := performs.2.partAtCalls performsAgain.2
  rw [← List.append_nil trace, ← List.append_nil again] at part
  rcases performs.1.unique_of_partAtCalls performsAgain.1 part with ⟨sameTrace, sameResult, -⟩
  exact ⟨sameTrace, sameResult⟩

theorem scripted_of_answers {script : Script} {past trace final : Trace}
    (answered : Answers (recorder script) past trace final) : Scripted script past trace := by
  induction trace generalizing past with
  | nil => trivial
  | cons exchange trace ih =>
    rcases exchange with ⟨call, answer⟩
    rcases answered with ⟨next, same, others⟩
    obtain rfl : script past call = answer := congrArg Prod.fst same
    have noted : past ++ [⟨call, script past call⟩] = next := congrArg Prod.snd same
    rw [← noted] at others
    exact ⟨rfl, ih others⟩

theorem performs_rehearse {script : Script} {program : Program α} {limit : Nat}
    (ends : (program.rehearse script limit).1.isSome) :
    program.Performs script (program.rehearse script limit).2
      ((program.rehearse script limit).1.get ends) :=
  ⟨runs_rehearse ends, scripted_of_answers (rehearsed ends).2⟩

end Program

end RadioRelay
