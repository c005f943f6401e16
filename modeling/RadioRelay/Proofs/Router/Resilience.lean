import RadioRelay.Proofs.Router.Settling

/-!
# What stops the loop

A turn of the loop comes to an end as soon as nobody else waits to be accepted and
no signals are left. If the wait itself does not fail, the turn succeeds whatever
becomes of all other calls, with one exception: a listener that was taken out of
the poller has to go back, and if the poller does not take it the turn fails.
-/

namespace RadioRelay

open Program

namespace Exchange

/-- A wait is interrupted at most, and the wake event is a counter that reading it resets. -/
def isDependable : Exchange → Bool
  | ⟨.wait _ _ _, .error errno⟩ => errno = .interrupted
  | ⟨.readEvent _, .ok count⟩ => count = 8
  | ⟨.readEvent _, .error errno⟩ => errno = .wouldBlock
  | _ => true

/-- An answer on which a turn goes on: somebody was accepted, or signals were taken back. -/
def prolongs : Exchange → Bool
  | ⟨.accept _, .ok _⟩ | ⟨.readEvent _, .ok (_ + 1)⟩ => true
  | _ => false

end Exchange

namespace Router

variable {router after : Router} {trace : Trace} {errno : Errno}

/-! ### Turns come to an end -/

theorem paced_acceptOnce : Paced Exchange.prolongs acceptOnce := by
  intro router trace next runs
  rcases runs_acceptOnce runs with
    ⟨_, -, -, same⟩ | ⟨_, _, _, -, -, -, same⟩ | ⟨number, rest, _, rfl, -, -⟩
  · cases same
  · cases same
  · simp [Exchange.prolongs]

theorem paced_drainOnce (wake : WakeEvent) : Paced Exchange.prolongs wake.drainOnce := by
  intro _ trace next runs
  rcases runs_drainOnce runs with ⟨errno | _ | count, rfl, same⟩
  · cases same
  · cases same
  · simp [Exchange.prolongs]

/-- A turn takes as many rounds as people are accepted or signals are taken back, and one more. -/
theorem pollOnce_ends {script : Trace → (call : Call) → call.Answer} {bound limit : Nat}
    (sparing : Sparing Exchange.prolongs script bound) (enough : bound < limit) (router : Router)
    (timeout : Int) : ((router.pollOnce timeout).rehearse script limit).1.isSome := by
  apply ends_of_paced _ sparing enough
  exact repeats_pollOnce paced_acceptOnce paced_drainOnce router timeout

/-! ### What they come to -/

/-- The pause of the listener is over, and the poller does not take it back. -/
def FailsToResume (router : Router) (errno : Errno) (trace : Trace) : Prop :=
  ∃ deadline now : Nat, router.pausedUntil = some deadline ∧ deadline ≤ now
    ∧ trace = [⟨.currentTime, now⟩,
      ⟨.watch router.poller.descriptor router.listener.descriptor readable, .error errno⟩]

theorem runs_of_failsToResume (fails : router.FailsToResume errno trace) (timeout : Int) :
    (router.pollOnce timeout).Runs trace
      (.error ((Failure.system errno).during .watchingListener), router) := by
  rcases fails with ⟨deadline, now, paused, elapsed, rfl⟩
  have resumes : router.resumeAccept.Runs [⟨.currentTime, now⟩,
      ⟨.watch router.poller.descriptor router.listener.descriptor readable, .error errno⟩]
      (.error ((Failure.system errno).during .watchingListener)) := by
    unfold resumeAccept
    rw [paused]
    refine runs_call_bind.mpr ⟨now, _, rfl, ?_⟩
    rw [if_neg (Nat.not_lt.mpr elapsed)]
    exact runs_call_bind.mpr ⟨_, [], rfl, rfl, rfl⟩
  exact pollOnce_of_failure resumes

theorem failsToResume_of_runs {failure : Failure}
    (runs : router.resumeAccept.Runs trace (.error failure)) :
    ∃ errno, router.FailsToResume errno trace := by
  rcases runs_resumeAccept runs with
    ⟨-, -, same⟩ | ⟨deadline, now, paused, ⟨-, -, same⟩ | ⟨elapsed, errno | _, rfl, same⟩⟩
  · cases same
  · cases same
  · exact ⟨errno, deadline, now, paused, elapsed, rfl⟩
  · cases same

theorem isOk_of_wait {timeout : Int} {events : Except Failure (List Readiness)} {poller : Poller}
    (room : router.poller.capacity ≤ Poller.maxCapacity)
    (dependable : ∀ exchange ∈ trace, exchange.isDependable)
    (runs : (router.poller.wait timeout).Runs trace (events, poller)) :
    ∃ ready, events = .ok ready := by
  rcases runs_wait runs with ⟨tooMany, -, -⟩ | ⟨errno | reported, rfl, same⟩
  · omega
  · have interrupted : errno = .interrupted :=
      of_decide_eq_true (dependable _ (List.mem_singleton_self _))
    rw [Poller.waited, if_pos interrupted] at same
    exact ⟨[], congrArg Prod.fst same⟩
  · exact ⟨_, congrArg Prod.fst same⟩

/-- A read of a dependable event finds signals, or it finds nothing, which is the end. -/
theorem isOk_of_drain {wake : WakeEvent} {drained : Attempt Unit}
    (dependable : ∀ exchange ∈ trace, exchange.isDependable)
    (runs : wake.drain.Runs trace drained) : drained = .ok () := by
  rcases (runs_drain runs).exists_course with ⟨past, part, last, rfl, -, ends⟩
  rcases runs_drainOnce ends with ⟨errno | _ | count, rfl, same⟩
  · have nothing : errno = .wouldBlock :=
      of_decide_eq_true (dependable ⟨.readEvent wake.descriptor, .error errno⟩ (by simp))
    rw [WakeEvent.counted, if_pos nothing] at same
    exact Sum.inr.inj same
  · exact Sum.inr.inj same
  · cases same

theorem isOk_of_dispatch {batch : Batch} {outcome : Except Failure Bool}
    (dependable : ∀ exchange ∈ trace, exchange.isDependable)
    (runs : (router.dispatch batch).Runs trace (outcome, after)) :
    ∃ goesOn, outcome = .ok goesOn := by
  rcases runs_dispatch runs with
    ⟨-, -, drained, _, drains, ⟨errno, failed, rfl, -⟩ | ⟨-, -, rfl⟩⟩ | ⟨-, rfl, -⟩
  · rw [isOk_of_drain dependable drains] at failed
    cases failed
  · exact ⟨false, rfl⟩
  · exact ⟨true, rfl⟩

theorem isOk_or_failsToResume {timeout : Int} {outcome : Except Failure Bool}
    (room : router.poller.capacity ≤ Poller.maxCapacity)
    (dependable : ∀ exchange ∈ trace, exchange.isDependable)
    (runs : (router.pollOnce timeout).Runs trace (outcome, after)) :
    (∃ goesOn, outcome = .ok goesOn) ∨ ∃ errno, router.FailsToResume errno trace := by
  rcases runs_pollOnce runs with
    ⟨failure, resumes, -, -⟩
      | ⟨resuming, bounding, waiting, rest, resumed, _, events, poller, rfl, resumes, bounds,
        waits, ends⟩
  · exact Or.inr (failsToResume_of_runs resumes)
  · left
    simp only [List.forall_mem_append] at dependable
    have steady := (Stage.resumes resumes).steady_eq
    have capacity : resumed.poller.capacity = router.poller.capacity := congrArg Prod.snd steady
    rcases isOk_of_wait (capacity ▸ room) dependable.2.2.1 waits with ⟨ready, rfl⟩
    exact isOk_of_dispatch dependable.2.2.2 ends

theorem capacity_of_turns {listener : Listener} {kernel : Descriptor} {options : RouterOptions}
    {created history : Trace} {start : Router}
    (puts : (create listener kernel options).run.Runs created (.ok start))
    (turns : Course Turn start history router) : router.poller.capacity = maxEvents := by
  rcases runs_create puts with ⟨poller, wake, -, rfl⟩
  exact congrArg Prod.snd (steady_course (course_of_turns turns))

theorem room_of_turns {listener : Listener} {kernel : Descriptor} {options : RouterOptions}
    {created history : Trace} {start : Router}
    (puts : (create listener kernel options).run.Runs created (.ok start))
    (turns : Course Turn start history router) :
    router.poller.capacity ≤ Poller.maxCapacity := by
  rw [capacity_of_turns puts turns]
  decide

/-- Whatever becomes of its calls, a turn ends when nobody else waits to be accepted and no signals
are left. Apart from a failing wait, it fails only if the listener cannot be put back, and then
nothing else has happened. -/
theorem pollOnce_succeeds_iff {listener : Listener} {kernel : Descriptor} {options : RouterOptions}
    {created history : Trace} {start : Router}
    (puts : (create listener kernel options).run.Runs created (.ok start))
    (turns : Course Turn start history router) (timeout : Int) :
    (∀ script bound, Sparing Exchange.prolongs script bound → ∀ limit, bound < limit →
        ((router.pollOnce timeout).rehearse script limit).1.isSome)
      ∧ ∀ trace outcome after, (router.pollOnce timeout).Runs trace (outcome, after) →
        (∀ exchange ∈ trace, exchange.isDependable) →
          ((∃ goesOn, outcome = .ok goesOn) ↔ ∀ errno, ¬ router.FailsToResume errno trace)
            ∧ ∀ errno, router.FailsToResume errno trace →
              outcome = .error ((Failure.system errno).during .watchingListener)
                ∧ after = router := by
  constructor
  · intro script bound sparing limit enough
    exact pollOnce_ends sparing enough router timeout
  intro trace outcome after runs dependable
  have room := room_of_turns puts turns
  have failing : ∀ errno, router.FailsToResume errno trace →
      outcome = .error ((Failure.system errno).during .watchingListener) ∧ after = router := by
    intro errno fails
    exact Prod.mk.inj (runs.unique (runs_of_failsToResume fails timeout))
  refine ⟨⟨?_, ?_⟩, failing⟩
  · rintro ⟨goesOn, rfl⟩ errno fails
    cases (failing errno fails).1
  · intro resumes
    rcases isOk_or_failsToResume room dependable runs with succeeds | ⟨errno, fails⟩
    · exact succeeds
    · exact absurd fails (resumes errno)

/-- Somebody always knocks, but nothing can be accepted, and the poller takes nobody in. -/
def strained (now : Nat) (_ : Trace) : (call : Call) → call.Answer
  | .currentTime => now
  | .wait _ _ _ => .ok ⟨1, [⟨⟨3⟩, readable⟩]⟩
  | .accept _ => .error ⟨24⟩
  | .watch _ _ _ => .error ⟨12⟩
  | .unwatch _ _ => .ok ()
  | call => call.refusal

theorem strained_sparing (now : Nat) : Sparing Exchange.prolongs (strained now) 0 := by
  intro past call _
  cases call <;> rfl

theorem vacant_strained : ((vacant.pollOnce (-1)).rehearse (strained 0) 1).1.isSome :=
  pollOnce_ends (strained_sparing 0) Nat.one_pos vacant (-1)

/-- The router after an accept failed. Its listener is not watched until the pause is over. -/
def hushed : Router := (((vacant.pollOnce (-1)).rehearse (strained 0) 1).1.get vacant_strained).2

theorem hushed_turns : ∃ history, Course Turn vacant history hushed :=
  ⟨_, .single (turn_rehearse vacant_strained)⟩

/-- Although accepting fails, the first turn succeeds. -/
theorem pollOnce_succeeds_of_strain : ∃ trace goesOn,
    (vacant.pollOnce (-1)).Runs trace (.ok goesOn, hushed) ∧ hushed.statistics.acceptErrors = 1 := by
  have succeeds := pollOnce_succeeds_iff creates_vacant .start (-1)
  have ends := succeeds.1 (strained 0) 0 (strained_sparing 0) 1 Nat.one_pos
  have runs := runs_rehearse ends
  have dependable : ∀ exchange ∈ ((vacant.pollOnce (-1)).rehearse (strained 0) 1).2,
      exchange.isDependable := by decide +kernel
  have resumes : ∀ errno, ¬ vacant.FailsToResume errno
      ((vacant.pollOnce (-1)).rehearse (strained 0) 1).2 := by
    rintro errno ⟨deadline, now, paused, -⟩
    cases paused
  rcases (succeeds.2 _ _ _ runs dependable).1.mpr resumes with ⟨goesOn, same⟩
  refine ⟨((vacant.pollOnce (-1)).rehearse (strained 0) 1).2, goesOn, ?_, by decide +kernel⟩
  rw [← same]
  exact runs

/-- When the pause is over and the poller does not take the listener back, the turn fails. -/
theorem not_succeeds_of_hushed : ∃ created history trace,
    (create ⟨⟨3⟩, "radio"⟩ ⟨4⟩ ⟨28, 4096, 4096⟩).run.Runs created (.ok vacant)
      ∧ Course Turn vacant history hushed
      ∧ (hushed.pollOnce 0).Runs trace
        (.error ((Failure.system ⟨12⟩).during .watchingListener), hushed)
      ∧ ∀ exchange ∈ trace, exchange.isDependable := by
  rcases hushed_turns with ⟨history, turns⟩
  have paused : hushed.pausedUntil = some acceptPause := by decide +kernel
  have fails : hushed.FailsToResume ⟨12⟩ [⟨.currentTime, acceptPause⟩,
      ⟨.watch hushed.poller.descriptor hushed.listener.descriptor readable, .error ⟨12⟩⟩] :=
    ⟨acceptPause, acceptPause, paused, le_rfl, rfl⟩
  refine ⟨_, history, _, creates_vacant, turns, runs_of_failsToResume fails 0, ?_⟩
  simp [Exchange.isDependable]

end Router

end RadioRelay
