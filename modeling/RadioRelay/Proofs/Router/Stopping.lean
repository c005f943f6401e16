import RadioRelay.Proofs.Router.Interchange
import RadioRelay.Proofs.Router.Running
import RadioRelay.Proofs.Router.Settling
import RadioRelay.Proofs.Signals

/-!
# Stopping a router

Whoever signals the wake event stops the loop. The turn in which the event is reported takes all
signals back and is the last one, no turn is the last one without a signal, and a run that ends
well leaves nobody behind (`Router.stops_of_story`).
-/

namespace RadioRelay

/-- A wait of the trace reported the wake event. -/
def Wakes (wake : Descriptor) (trace : Trace) : Prop :=
  ∃ event ∈ trace.flatMap Exchange.reported, event.descriptor = wake

/-! ### Who is watched -/

/-- The poller watches nobody but the clients and the router's own sockets. -/
def Standing.WatchesKnown (fixed : Fixtures) (watched : List Descriptor) (standing : Standing) :
    Prop :=
  ∀ number ∈ watched, number ∈ standing.registry.ids ∨ number = fixed.listener
    ∨ number = fixed.kernel ∨ number = fixed.wake

section Watching

variable {fixed : Fixtures} {first standing after last : Standing} {history trace : Trace}
  {watched opened : List Descriptor}

theorem Standing.Watched.known (exactly : standing.Watched fixed watched) :
    standing.WatchesKnown fixed watched := by
  intro number numberMem
  rcases (exactly number).mp numberMem with connected | kernel | wake | ⟨listener, -⟩
  · exact Or.inl connected
  · exact Or.inr (Or.inr (Or.inl kernel))
  · exact Or.inr (Or.inr (Or.inr wake))
  · exact Or.inr (Or.inl listener)

theorem Standing.WatchesKnown.of_left (gone : List ClientId) {kept : List Descriptor}
    (known : standing.WatchesKnown fixed watched)
    (remaining : ∀ number, number ∈ standing.registry.ids → number ∉ gone →
      number ∈ after.registry.ids)
    (unwatched : ∀ number, number ∈ kept → number ∈ watched ∧ number ∉ gone) :
    after.WatchesKnown fixed kept := by
  intro number numberMem
  rcases unwatched number numberMem with ⟨wasWatched, stayed⟩
  rcases known number wasWatched with connected | own
  · exact Or.inl (remaining number connected stayed)
  · exact Or.inr own

theorem Move.keeps_known (move : Move fixed standing trace after)
    (secure : standing.Secure fixed opened) (fresh : AcceptsFresh opened trace)
    (known : standing.WatchesKnown fixed watched) :
    after.WatchesKnown fixed (watchedAfter fixed.poller watched trace) := by
  cases move with
  | aside quiet =>
    rw [watchedAfter_eq_self fun exchange exchangeMem _ => (quiet exchange exchangeMem).nowWatched]
    exact known
  | pauses =>
    refine known.of_left [fixed.listener] (fun _ connected _ => connected) ?_
    simp [watchedAfter, Exchange.nowWatched]
  | resumes =>
    intro number numberMem
    have added : number = fixed.listener ∨ number ∈ watched := by
      simpa [watchedAfter, Exchange.nowWatched] using numberMem
    rcases added with listener | wasWatched
    · exact Or.inr (Or.inl listener)
    · exact known number wasWatched
  | turnsAway client errno =>
    refine known.of_left [client] (fun _ connected _ => connected) ?_
    simp [watchedAfter, refusal, Exchange.nowWatched]
  | admits client =>
    have unknown := secure.unknown fresh.not_mem
    intro number numberMem
    have added : number = client ∨ number ∈ watched := by
      simpa [watchedAfter, admission, unknown, Exchange.nowWatched] using numberMem
    simp only [Registry.ids_add, if_neg (secure.absent fresh.not_mem), List.mem_append,
      List.mem_singleton]
    rcases added with joins | wasWatched
    · exact Or.inl (Or.inr joins)
    · exact (known number wasWatched).imp_left Or.inl
  | retires client =>
    refine known.of_left [client] ?_ ?_
    · intro number connected stayed
      exact Registry.mem_ids_remove.mpr ⟨connected, by simpa using stayed⟩
    · intro number numberMem
      simpa using mem_watchedAfter_farewell.mp numberMem
  | answers client message =>
    intro number numberMem
    rw [Registry.ids_grant]
    exact known number numberMem
  | failsToAnswer client message reason =>
    refine known.of_left [client] ?_ ?_
    · intro number connected stayed
      refine Registry.mem_ids_remove.mpr ⟨?_, by simpa using stayed⟩
      rw [Registry.ids_grant]
      exact connected
    · intro number numberMem
      change number ∈ watchedAfter fixed.poller watched (farewell fixed reason (client, _))
        at numberMem
      simpa using mem_watchedAfter_farewell.mp numberMem
  | withholds => exact known
  | forwards notification message sendings leaving heard encoded addressed dropped =>
    refine known.of_left (failing message sendings) ?_ ?_
    · intro number connected stayed
      simp [Registry.ids_removeAll, connected, stayed]
    · intro number numberMem
      have sent : watchedAfter fixed.poller watched (sendings.map (posted message)) = watched :=
        watchedAfter_eq_self (List.forall_mem_map.mpr fun _ _ _ => rfl)
      change number ∈ watchedAfter fixed.poller watched
        (sendings.map (posted message) ++ leaving.flatMap (farewell fixed .deliveryFailed))
        at numberMem
      rw [watchedAfter_append, sent, mem_watchedAfter_farewells, dropped] at numberMem
      exact numberMem

theorem known_of_course (course : Course (Move fixed) first history last)
    (secure : first.Secure fixed opened) (fresh : AcceptsFresh opened history)
    (known : first.WatchesKnown fixed watched) :
    last.WatchesKnown fixed (watchedAfter fixed.poller watched history) := by
  induction course with
  | start => exact known
  | next earlier move ih =>
    rw [acceptsFresh_append] at fresh
    rw [watchedAfter_append]
    exact move.keeps_known (secure_of_course earlier secure fresh.1) fresh.2 (ih fresh.1)

theorem accepting_eq {before later : Trace} {accepting : Exchange} {client : ClientId}
    (course : Course (Move fixed) first history last)
    (split : history = before ++ accepting :: later) (accepts : accepting.accepts client = true) :
    accepting = ⟨.accept fixed.listener, .ok client⟩ := by
  induction course generalizing later with
  | start => simp at split
  | next _ move ih =>
    rcases append_eq_append_cons split with ⟨rest, rfl, inner⟩ | ⟨rest, rfl, rfl⟩
    · exact (move.eq_nil_of_accepts inner accepts).2
    · exact ih rfl

theorem apart_of_accept {before later : Trace} {client : ClientId}
    (course : Course (Move fixed) first history last) (secure : first.Secure fixed opened)
    (fresh : AcceptsFresh opened history)
    (split : history = before ++ ⟨.accept fixed.listener, .ok client⟩ :: later) :
    client ≠ fixed.listener ∧ client ≠ fixed.kernel ∧ client ≠ fixed.wake := by
  have accepts : Exchange.accepts client ⟨.accept fixed.listener, .ok client⟩ = true := by
    simp [Exchange.accepts]
  rcases course.before_accept split accepts with ⟨_, earlier⟩
  rw [split, acceptsFresh_append] at fresh
  exact (secure_of_course earlier secure fresh.1).apart_of_new fresh.2.not_mem

/-- Where nobody is connected any more, everybody who was ever accepted was closed once and is no
longer watched. -/
theorem left_of_course {before later : Trace} {accepting : Exchange} {client : ClientId}
    (course : Course (Move fixed) first history last) (secure : first.Secure fixed opened)
    (fresh : AcceptsFresh opened history) (known : first.WatchesKnown fixed watched)
    (nobody : last.registry.ids = []) (split : history = before ++ accepting :: later)
    (accepts : accepting.accepts client = true) :
    (tenure client later).countP (·.closes client) = 1
      ∧ client ∉ watchedAfter fixed.poller watched history := by
  obtain rfl := accepting_eq course split accepts
  constructor
  · rcases kept_or_closed course secure fresh split with ⟨-, connected, -⟩ | ⟨once, -⟩
    · rw [nobody] at connected
      cases connected
    · exact once
  · intro stillWatched
    rcases apart_of_accept course secure fresh split with ⟨listener, kernel, wake⟩
    rcases known_of_course course secure fresh known client stillWatched with
      connected | same | same | same
    · rw [nobody] at connected
      cases connected
    · exact listener same
    · exact kernel same
    · exact wake same

end Watching

/-! ### The turn in which the router is woken -/

theorem Exchange.Refused.reportsAll {exchange : Exchange} (refused : exchange.Refused) :
    exchange.ReportsAll := by
  rcases exchange with ⟨call, answer⟩
  cases call with
  | wait =>
    have nothing : answer = .error .wouldBlock := refused
    rw [nothing]
    trivial
  | _ => trivial

namespace Router

open Program

variable {router after : Router} {trace : Trace}

theorem reads_of_runs_drain {wake : WakeEvent} {drained : Attempt Unit}
    (drains : wake.drain.Runs trace drained) :
    ∃ reads answer, trace = reads ++ [⟨.readEvent wake.descriptor, answer⟩]
      ∧ WakeEvent.counted answer = .inr drained
      ∧ ∀ exchange ∈ reads, exchange.takesBack wake.descriptor = true := by
  rcases (runs_drain drains).exists_course with ⟨reads, part, last, rfl, goesOn, ends⟩
  rcases runs_drainOnce ends with ⟨answer, rfl, counted⟩
  refine ⟨reads, answer, rfl, counted.symm, ?_⟩
  clear ends counted drains
  induction goesOn with
  | start => simp
  | next _ round ih =>
    rcases runs_drainOnce round with ⟨errno | size, rfl, counts⟩
    · cases counts
    · rw [List.forall_mem_append]
      exact ⟨ih, by simp [Exchange.takesBack]⟩

/-- The calls of a turn in which the wake event is reported, and what comes of it. -/
structure WokenBy (router : Router) (opening : Trace) (waiting : Exchange) (reads : Trace)
    (answer : Attempt Nat) (closing trace : Trace) (outcome : Except Failure Bool)
    (after : Router) : Prop where
  calls : trace = opening
    ++ waiting :: (reads ++ ⟨.readEvent router.wake.descriptor, answer⟩ :: closing)
  few : opening.length ≤ 3 ∧ closing.length ≤ 1
  reported : Wakes router.wake.descriptor [waiting]
  taken : ∀ exchange ∈ reads, exchange.takesBack router.wake.descriptor = true
  ends : (∃ errno, WakeEvent.counted answer = .inr (.error errno)
      ∧ outcome = .error (.system errno))
    ∨ (WakeEvent.counted answer = .inr (.ok ()) ∧ closing = [⟨.log .shutdownRequested, ()⟩]
      ∧ outcome = .ok false)
  registry : after.registry = router.registry
  statistics : after.statistics = router.statistics

theorem length_opening_le {resumed : Router} {timeout bounded : Int} {resuming bounding : Trace}
    (resumes : router.resumeAccept.Runs resuming (.ok resumed))
    (bounds : (resumed.boundedTimeout timeout).Runs bounding bounded) :
    (resuming ++ bounding).length ≤ 3 := by
  have first : resuming.length ≤ 2 := by
    rcases runs_resumeAccept resumes with ⟨-, rfl, -⟩ | ⟨_, _, -, ⟨-, rfl, -⟩ | ⟨-, _, rfl, -⟩⟩
    all_goals simp
  have second : bounding.length ≤ 1 := by
    rcases runs_boundedTimeout bounds with ⟨-, rfl, -⟩ | ⟨_, _, -, rfl, -⟩
    all_goals simp
  rw [List.length_append]
  exact Nat.add_le_add first second

theorem reported_opening {resumed : Router} {timeout bounded : Int} {resuming bounding : Trace}
    (resumes : router.resumeAccept.Runs resuming (.ok resumed))
    (bounds : (resumed.boundedTimeout timeout).Runs bounding bounded) :
    (resuming ++ bounding).flatMap Exchange.reported = [] := by
  rw [List.flatMap_append, (aside_of_door (door_resumeAccept resumes)).1,
    (aside_of_door (door_boundedTimeout bounds)).1]
  rfl

/-- A turn in which the wake event is not reported is not the last one. -/
theorem awake_or_woken {timeout : Int} {outcome : Except Failure Bool}
    (consistent : router.standing.Consistent)
    (reports : ∀ exchange ∈ trace, exchange.ReportsAll)
    (runs : (router.pollOnce timeout).Runs trace (outcome, after)) :
    (¬ Wakes router.wake.descriptor trace ∧ outcome ≠ .ok false)
      ∨ ∃ opening waiting reads answer closing,
        router.WokenBy opening waiting reads answer closing trace outcome after := by
  rcases runs_pollOnce runs with
    ⟨failure, resumes, rfl, rfl⟩
      | ⟨resuming, bounding, waiting, rest, resumed, bounded, events, poller, rfl, resumes, bounds,
        waits, ends⟩
  · refine Or.inl ⟨?_, by simp⟩
    simp [Wakes, (aside_of_door (door_resumeAccept resumes)).1]
  simp only [List.forall_mem_append] at reports
  -- Only the wait reports events, so what it reported decides.
  have told := reported_of_wait reports.2.2.1 waits
  have quiet := reported_opening resumes bounds
  rcases events with failure | events
  · rcases ends with ⟨rfl, rfl, -⟩
    have nothing : waiting.flatMap Exchange.reported = [] := told
    refine Or.inl ⟨?_, by simp⟩
    rw [Wakes, ← List.append_assoc, List.flatMap_append, quiet, List.append_nil, nothing]
    simp
  dsimp only at ends
  rw [classify_congr (Stage.resumes resumes).fixtures_eq] at ends
  have all : waiting.flatMap Exchange.reported = events := told
  rcases runs_dispatch ends with ⟨woken, rfl, drained, draining, drains, stops⟩ | ⟨awake, rfl, -⟩
  · right
    obtain ⟨exchange, rfl⟩ : ∃ exchange, waiting = [exchange] := by
      rcases runs_wait waits with ⟨-, -, same⟩ | ⟨_, rfl, -⟩
      · cases same
      · exact ⟨_, rfl⟩
    have wake : resumed.wake = router.wake :=
      congrArg (WakeEvent.mk ∘ Fixtures.wake) (Stage.resumes resumes).fixtures_eq
    have reported : Wakes router.wake.descriptor [exchange] := by
      rw [Wakes, all]
      rcases List.any_eq_true.mp woken with ⟨event, eventMem, isWake⟩
      exact ⟨event, eventMem, of_decide_eq_true isWake⟩
    rcases reads_of_runs_drain drains with ⟨reads, answer, rfl, counted, taken⟩
    change ∀ exchange ∈ reads, exchange.takesBack resumed.wake.descriptor = true at taken
    rw [wake] at taken
    rcases (idle_resumeAccept resumes).2 resumed rfl with ⟨registry, statistics⟩
    have few := length_opening_le resumes bounds
    rcases stops with ⟨errno, rfl, rfl, rfl⟩ | ⟨rfl, rfl, rfl⟩
    · refine ⟨resuming ++ bounding, exchange, reads, answer, [], ?_, ⟨few, Nat.zero_le 1⟩, reported,
        taken, Or.inl ⟨errno, counted, rfl⟩, registry, statistics⟩
      simp [wake]
    · refine ⟨resuming ++ bounding, exchange, reads, answer, _, ?_, ⟨few, le_refl 1⟩, reported,
        taken, Or.inr ⟨counted, rfl, rfl⟩, registry, statistics⟩
      simp [wake]
  · have consistentReady :
        ({ resumed with poller := poller } : Router).standing.Consistent :=
      (moves_of_course (.single (.resumes resumes)) consistent).1
    have kernel : resumed.kernel = router.kernel :=
      congrArg Fixtures.kernel (Stage.resumes resumes).fixtures_eq
    have still := quiet_of_dispatch consistentReady (kernel ▸ clients_ne_kernel) ends
    refine Or.inl ⟨?_, by simp⟩
    rintro ⟨event, eventMem, isWake⟩
    rw [← List.append_assoc, List.flatMap_append, quiet, List.flatMap_append, all, still,
      List.nil_append, List.append_nil] at eventMem
    have woken : (router.classify events).wake = true :=
      List.any_eq_true.mpr ⟨event, eventMem, decide_eq_true isWake⟩
    rw [awake] at woken
    cases woken

theorem WokenBy.wakes {opening reads closing : Trace} {waiting : Exchange} {answer : Attempt Nat}
    {outcome : Except Failure Bool}
    (woken : router.WokenBy opening waiting reads answer closing trace outcome after) :
    Wakes router.wake.descriptor trace := by
  rcases woken.reported with ⟨event, eventMem, isWake⟩
  refine ⟨event, ?_, isWake⟩
  rw [woken.calls, List.flatMap_append, List.flatMap_cons]
  simp only [List.flatMap_singleton] at eventMem
  exact List.mem_append_right _ (List.mem_append_left _ eventMem)

/-! ### Signals that stop the loop -/

/-- The turn is the last one. It found signals when it waited, took all of them back, and nothing
has changed for the clients. -/
structure Stops (router : Router) (past turn : Story) (after : Router) : Prop where
  drains : ∃ before waiting drainage late,
    turn = before ++ .called waiting
        :: (drainage ++ .called ⟨.readEvent router.wake.descriptor, .error .wouldBlock⟩ :: late)
      ∧ Wakes router.wake.descriptor [waiting]
      ∧ Happening.signalled ∈ past ++ before
      ∧ (∀ exchange ∈ callsOf drainage, exchange.takesBack router.wake.descriptor = true)
      ∧ counterAfter router.wake.descriptor 0 (past ++ (before ++ .called waiting :: drainage)) = 0
      ∧ callsOf late = [⟨.log .shutdownRequested, ()⟩]
  registry : after.registry = router.registry
  statistics : after.statistics = router.statistics

theorem count_ne_zero_of_wakes {wake : Descriptor} {count : Nat} {waiting : Exchange}
    (obeys : (Happening.called waiting).Obeys wake count) (wakes : Wakes wake [waiting]) :
    count ≠ 0 := by
  rcases wakes with ⟨event, eventMem, isWake⟩
  rw [List.flatMap_singleton] at eventMem
  unfold Exchange.reported at eventMem
  split at eventMem
  next => exact obeys ⟨event, eventMem, isWake⟩
  next => cases eventMem

/-- A read finds nothing exactly if there are no signals, and then no more is read. -/
theorem nothing_of_counted {wake : Descriptor} {count : Nat} {answer : Attempt Nat}
    {drained : Attempt Unit} (obeys : (Happening.called ⟨.readEvent wake, answer⟩).Obeys wake count)
    (counted : WakeEvent.counted answer = .inr drained) :
    count = 0 ∧ answer = .error .wouldBlock ∧ drained = .ok () := by
  have read := obeys rfl
  by_cases none : count = 0
  · rw [if_pos none] at read
    rcases read with rfl
    exact ⟨none, rfl, (Sum.inr.inj counted).symm⟩
  · rw [if_neg none] at read
    rcases read with rfl
    cases counted

theorem stops_of_wokenBy {past turn : Story} {opening reads closing : Trace} {waiting : Exchange}
    {answer : Attempt Nat} {outcome : Except Failure Bool}
    (obeys : EventObeys router.wake.descriptor 0 (past ++ turn))
    (woken : router.WokenBy opening waiting reads answer closing (callsOf turn) outcome after) :
    outcome = .ok false ∧ router.Stops past turn after := by
  rcases exists_called woken.calls with ⟨before, rest, rfl, -, restCalls⟩
  rcases exists_called restCalls with ⟨drainage, late, rfl, rfl, rfl⟩
  have waits := obeys
  rw [← List.append_assoc, eventObeys_append] at waits
  have found := count_ne_zero_of_wakes waits.2.1 woken.reported
  have whole : past ++ (before ++ .called waiting
        :: (drainage ++ .called ⟨.readEvent router.wake.descriptor, answer⟩ :: late))
      = (past ++ (before ++ .called waiting :: drainage))
        ++ .called ⟨.readEvent router.wake.descriptor, answer⟩ :: late := by
    simp
  rw [whole, eventObeys_append] at obeys
  have last := obeys.2.1
  rcases woken.ends with ⟨errno, counted, -⟩ | ⟨counted, noted, rfl⟩
  · cases (nothing_of_counted last counted).2.2
  · rcases nothing_of_counted last counted with ⟨none, rfl, -⟩
    refine ⟨rfl, ⟨before, waiting, drainage, late, rfl, woken.reported,
      signalled_of_counterAfter found, woken.taken, none, noted⟩, woken.registry, woken.statistics⟩

/-- As the event is a counter, the turn in which it is reported is the last one, and no other is. -/
theorem stops_of_pollOnce {past turn : Story} {timeout : Int} {outcome : Except Failure Bool}
    (consistent : router.standing.Consistent)
    (obeys : EventObeys router.wake.descriptor 0 (past ++ turn))
    (reports : ∀ exchange ∈ callsOf turn, exchange.ReportsAll)
    (runs : (router.pollOnce timeout).Runs (callsOf turn) (outcome, after)) :
    (outcome = .ok false ↔ Wakes router.wake.descriptor (callsOf turn))
      ∧ (outcome = .ok false → router.Stops past turn after) := by
  rcases awake_or_woken consistent reports runs with
    ⟨awake, goesOn⟩ | ⟨opening, waiting, reads, answer, closing, woken⟩
  · exact ⟨⟨fun last => absurd last goesOn, fun wakes => absurd wakes awake⟩,
      fun last => absurd last goesOn⟩
  · rcases stops_of_wokenBy obeys woken with ⟨last, stops⟩
    exact ⟨⟨fun _ => woken.wakes, fun _ => last⟩, fun _ => stops⟩

/-- A router that is woken reads at most as often as there were signals, and makes at most six more
calls. -/
theorem length_le_of_begins {past turn : Story} {timeout : Int}
    (consistent : router.standing.Consistent)
    (obeys : EventObeys router.wake.descriptor 0 (past ++ turn))
    (reports : ∀ exchange ∈ callsOf turn, exchange.ReportsAll)
    (begun : (router.pollOnce timeout).Begins (callsOf turn))
    (wakes : Wakes router.wake.descriptor (callsOf turn)) :
    (callsOf turn).length ≤ (past ++ turn).countP Happening.isSignal + 6 := by
  let takes : Exchange → Bool := Exchange.takesBack router.wake.descriptor
  -- What is known of whole turns carries over, as the rest of the turn can be refused.
  rcases begun.completes (settles_pollOnce router timeout) with
    ⟨rest, ⟨outcome, last⟩, runs, refused⟩
  have reportsWhole : ∀ exchange ∈ callsOf turn ++ rest, exchange.ReportsAll :=
    List.forall_mem_append.mpr
      ⟨reports, fun exchange exchangeMem => (refused exchange exchangeMem).reportsAll⟩
  have others : (callsOf turn).countP (fun exchange => ¬ takes exchange) ≤ 6 := by
    rcases awake_or_woken consistent reportsWhole runs with
      ⟨awake, -⟩ | ⟨opening, waiting, reads, answer, closing, woken⟩
    · rcases wakes with ⟨event, eventMem, isWake⟩
      refine absurd ⟨event, ?_, isWake⟩ awake
      rw [List.flatMap_append]
      exact List.mem_append_left _ eventMem
    · have whole : (callsOf turn ++ rest).countP (fun exchange => ¬ takes exchange) ≤ 6 := by
        have none : reads.countP (fun exchange => ¬ takes exchange) = 0 := by
          rw [List.countP_eq_zero]
          intro exchange exchangeMem
          simpa using woken.taken exchange exchangeMem
        have first : opening.countP (fun exchange => ¬ takes exchange) ≤ 3 :=
          List.countP_le_length.trans woken.few.1
        have last : closing.countP (fun exchange => ¬ takes exchange) ≤ 1 :=
          List.countP_le_length.trans woken.few.2
        rw [woken.calls, List.countP_append, List.countP_cons, List.countP_append, List.countP_cons,
          none]
        split <;> split <;> omega
      rw [List.countP_append] at whole
      omega
  have taken : (callsOf turn).countP takes ≤ (past ++ turn).countP Happening.isSignal := by
    have all := countP_takesBack_le obeys
    rw [callsOf_append, List.countP_append, if_pos rfl] at all
    change _ + (callsOf turn).countP takes + _ ≤ _ at all
    omega
  rw [List.length_eq_countP_add_countP takes]
  omega

theorem awake_of_goingOn (going : Course GoesOn router trace after)
    (consistent : router.standing.Consistent)
    (reports : ∀ exchange ∈ trace, exchange.ReportsAll) :
    ¬ Wakes router.wake.descriptor trace := by
  induction going with
  | start => simp [Wakes]
  | @next past turn state after earlier polls ih =>
    rw [List.forall_mem_append] at reports
    have moved := moved_of_goingOn earlier consistent
    have wake : state.wake.descriptor = router.wake.descriptor :=
      congrArg Fixtures.wake moved.fixtures
    rintro ⟨event, eventMem, isWake⟩
    rw [List.flatMap_append] at eventMem
    rcases List.mem_append.mp eventMem with before | now
    · exact ih reports.1 ⟨event, before, isWake⟩
    · rcases awake_or_woken moved.consistent reports.2 polls with
        ⟨awake, -⟩ | ⟨_, _, _, _, _, woken⟩
      · exact awake ⟨event, now, isWake.trans wake.symm⟩
      · rcases woken.ends with ⟨_, -, same⟩ | ⟨-, -, same⟩ <;> cases same

theorem activities_of_goingOn (going : Course GoesOn router trace after) :
    Course Activity router trace after := by
  induction going with
  | start => exact .start
  | next _ polls ih => exact ih.next (.turn ⟨-1, _, polls⟩)

/-- A run that ends well: turns in which the wake event is not reported, one in which it is, and a
farewell to everybody. -/
structure EndsWell (router : Router) (past running : Story) (last : Router) : Prop where
  parts : ∃ opening turn closing stopping stopped, running = opening ++ (turn ++ closing)
    ∧ Course Activity router (callsOf opening) stopping
    ∧ ¬ Wakes router.wake.descriptor (callsOf opening)
    ∧ (stopping.pollOnce (-1)).Runs (callsOf turn) (.ok false, stopped)
    ∧ stopping.Stops (past ++ opening) turn stopped
    ∧ last = stopped.vacated

/-- A run ends well exactly if it was woken. -/
theorem endsWell_of_run {past running : Story} {last : Router} {outcome : Except Failure Unit}
    (consistent : router.standing.Consistent)
    (obeys : EventObeys router.wake.descriptor 0 (past ++ running))
    (reports : ∀ exchange ∈ callsOf running, exchange.ReportsAll)
    (runs : router.run.Runs (callsOf running) (outcome, last)) :
    (outcome = .ok () ↔ Wakes router.wake.descriptor (callsOf running))
      ∧ (outcome = .ok () → router.EndsWell past running last) := by
  rcases runs_run runs with
    ⟨going, _, _, stopping, ending, stopped, calls, goesOn, ends, lasts⟩
  rcases List.filterMap_eq_append_iff.mp calls with ⟨opening, rest, rfl, openingCalls, restCalls⟩
  rcases List.filterMap_eq_append_iff.mp restCalls with ⟨turn, closing, rfl, rfl, rfl⟩
  change callsOf opening = _ at openingCalls
  change (stopping.pollOnce (-1)).Runs (callsOf turn) (ending, stopped) at ends
  have moved := moved_of_goingOn goesOn consistent
  have wake : stopping.wake.descriptor = router.wake.descriptor :=
    congrArg Fixtures.wake moved.fixtures
  simp only [callsOf_append, List.forall_mem_append] at reports
  have awake : ¬ Wakes router.wake.descriptor (callsOf opening) := by
    rw [openingCalls, List.forall_mem_cons] at reports
    rw [openingCalls]
    change ¬ Wakes router.wake.descriptor going
    exact awake_of_goingOn goesOn consistent reports.1.2
  -- Until the last turn no signal is taken back, so it finds all that were given.
  have obeysTurn : EventObeys stopping.wake.descriptor 0 ((past ++ opening) ++ turn) := by
    rw [← List.append_assoc, ← List.append_assoc, eventObeys_append] at obeys
    rw [wake]
    exact obeys.1
  have stops := stops_of_pollOnce moved.consistent obeysTurn reports.2.1 ends
  rw [wake] at stops
  have wakes : Wakes router.wake.descriptor (callsOf turn) →
      Wakes router.wake.descriptor (callsOf (opening ++ (turn ++ closing))) := by
    rintro ⟨event, eventMem, isWake⟩
    refine ⟨event, ?_, isWake⟩
    simp only [callsOf_append, List.flatMap_append, List.mem_append]
    exact Or.inr (Or.inl eventMem)
  rcases lasts with ⟨failure, rfl, rfl, nothing, rfl⟩ | ⟨retired, rfl, rfl, -, -, rfl⟩
  -- A run that fails was not woken: the turns before the last one do not report the wake event,
  -- and the last one would have ended well.
  · refine ⟨⟨fun same => (by cases same), ?_⟩, fun same => (by cases same)⟩
    rintro ⟨event, eventMem, isWake⟩
    change callsOf closing = [] at nothing
    rw [callsOf_append, callsOf_append, nothing, List.append_nil, List.flatMap_append] at eventMem
    rcases List.mem_append.mp eventMem with before | now
    · exact absurd ⟨event, before, isWake⟩ awake
    · cases stops.1.mpr ⟨event, now, isWake⟩
  · refine ⟨⟨fun _ => wakes (stops.1.mp rfl), fun _ => rfl⟩, fun _ => ?_⟩
    refine ⟨opening, turn, closing, stopping, stopped, rfl, ?_, awake, ends, stops.2 rfl, rfl⟩
    rw [openingCalls]
    exact (Course.single (.notes _)).append (activities_of_goingOn goesOn)

/-- Whoever signals the wake event stops the loop, at any time and as often as they like. The turn
in which the event is reported takes all signals back and is the last one; no turn is the last one
without a signal. A run that ends well has closed every client that was ever accepted, once, and
watches none of them any more. -/
theorem stops_of_story {listener : Listener} {kernel : Descriptor} {options : RouterOptions}
    {created : Trace} {start : Router} {story : Story}
    (puts : (create listener kernel options).run.Runs created (.ok start))
    (obeys : EventObeys start.wake.descriptor 0 story)
    (fresh : AcceptsFresh [listener.descriptor, kernel] (created ++ callsOf story))
    (reports : ∀ exchange ∈ callsOf story, exchange.ReportsAll) :
    (∀ past turn later router timeout, story = past ++ turn ++ later →
      Course Activity start (callsOf past) router →
        ((router.pollOnce timeout).Begins (callsOf turn) →
          Wakes start.wake.descriptor (callsOf turn) →
            (callsOf turn).length ≤ (past ++ turn).countP Happening.isSignal + 6)
        ∧ ∀ outcome after, (router.pollOnce timeout).Runs (callsOf turn) (outcome, after) →
          (outcome = .ok false ↔ Wakes start.wake.descriptor (callsOf turn))
            ∧ (outcome = .ok false → router.Stops past turn after))
      ∧ ∀ past running later router outcome last, story = past ++ running ++ later →
        Course Activity start (callsOf past) router →
        router.run.Runs (callsOf running) (outcome, last) →
          (outcome = .ok () ↔ Wakes start.wake.descriptor (callsOf running))
            ∧ (outcome = .ok () → router.EndsWell past running last
              ∧ last.registry = ∅
              ∧ last.statistics.removed = last.statistics.accepted
              ∧ ∀ before accepting client since,
                callsOf (past ++ running) = before ++ accepting :: since →
                accepting.accepts client = true →
                  (tenure client since).countP (·.closes client) = 1
                    ∧ client ∉ watchedAfter start.poller.descriptor []
                      (created ++ callsOf (past ++ running))) := by
  have secureFirst := secure_create puts
  rcases runs_create puts with ⟨poller, wake, rfl, rfl⟩
  constructor
  · rintro past turn later router timeout rfl activities
    have moved := moved_of_activities activities consistent_assembled
    have sameWake : router.wake.descriptor = wake := congrArg Fixtures.wake moved.fixtures
    rw [eventObeys_append] at obeys
    simp only [callsOf_append, List.forall_mem_append] at reports
    have obeysNow : EventObeys router.wake.descriptor 0 (past ++ turn) := by
      rw [sameWake]
      exact obeys.1
    refine ⟨?_, ?_⟩
    · intro begun wakes
      exact length_le_of_begins moved.consistent obeysNow reports.1.2 begun (sameWake.symm ▸ wakes)
    · intro outcome after runs
      have stops := stops_of_pollOnce moved.consistent obeysNow reports.1.2 runs
      rw [sameWake] at stops
      exact stops
  · rintro past running later router outcome last rfl activities runs
    have moved := moved_of_activities activities consistent_assembled
    have sameWake : router.wake.descriptor = wake := congrArg Fixtures.wake moved.fixtures
    rw [eventObeys_append] at obeys
    rw [callsOf_append, ← List.append_assoc, acceptsFresh_append, acceptsFresh_append] at fresh
    simp only [callsOf_append, List.forall_mem_append] at reports
    have obeysNow : EventObeys router.wake.descriptor 0 (past ++ running) := by
      rw [sameWake]
      exact obeys.1
    rcases endsWell_of_run moved.consistent obeysNow reports.1.2 runs with ⟨woken, endsWell⟩
    rw [sameWake] at woken
    refine ⟨woken, ?_⟩
    rintro rfl
    have ending := endsWell rfl
    refine ⟨ending, ?_⟩
    rcases ending.parts with ⟨_, _, _, _, stopped, -, -, -, -, -, rfl⟩
    have whole := moved.append (moved_of_run runs moved.consistent)
    rw [← callsOf_append] at whole
    have balance := balance_of_course whole.course secureFirst fresh.1.2 rfl
    refine ⟨rfl, ?_, ?_⟩
    · exact balance.symm
    · intro before accepting client since split accepts
      rw [watchedAfter_append]
      exact left_of_course whole.course secureFirst fresh.1.2 watched_assembled.known rfl split
        accepts

/-- A client comes. As the router waits again, it is woken by two signals that were given in the
meantime. -/
def beckoning (past : Trace) : (call : Call) → call.Answer
  | .wait _ _ _ =>
    if past.length = 1 then .ok ⟨1, [⟨⟨3⟩, readable⟩]⟩
    else .ok ⟨2, [⟨⟨7⟩, readable⟩, ⟨⟨6⟩, readable⟩]⟩
  | .accept _ => if past.length = 2 then .ok ⟨7⟩ else .error .wouldBlock
  | .readEvent _ => if past.any (·.takesBack ⟨6⟩) then .error .wouldBlock else .ok (8 : Nat)
  | .watch _ _ _ => .ok ()
  | .unwatch _ _ => .ok ()
  | call => call.refusal

theorem vacant_stops : (vacant.run.rehearse beckoning 8).1.isSome := by
  decide +kernel

/-- What happened, and when the signals were given. -/
def beckoned : Story :=
  let calls : Story := (vacant.run.rehearse beckoning 8).2.map .called
  calls.take 3 ++ .signalled :: ((calls.drop 3).take 2 ++ .signalled :: (calls.drop 3).drop 2)

theorem callsOf_beckoned : callsOf beckoned = (vacant.run.rehearse beckoning 8).2 := by
  have silent : ∀ story, callsOf (.signalled :: story) = callsOf story := fun _ => rfl
  rw [beckoned, callsOf_append, silent, callsOf_append, silent, ← callsOf_append,
    List.take_append_drop, ← callsOf_append, List.take_append_drop, callsOf_called]

theorem stops_of_beckoned : ∃ last, vacant.run.Runs (callsOf beckoned) (.ok (), last)
    ∧ beckoned.countP Happening.isSignal = 2
    ∧ vacant.EndsWell [] beckoned last ∧ last.registry = ∅
    ∧ last.statistics.removed = last.statistics.accepted ∧ last.statistics.accepted = 1
    ∧ (⟨7⟩ : Descriptor) ∉ watchedAfter ⟨5⟩ [] (assembly ⟨3⟩ ⟨4⟩ ⟨5⟩ ⟨6⟩ ++ callsOf beckoned) := by
  obtain ⟨⟨outcome, last⟩, runs, succeeds, accepted⟩ : ∃ result,
      vacant.run.Runs (callsOf beckoned) result ∧ result.1 = .ok ()
        ∧ result.2.statistics.accepted = 1 := by
    rw [callsOf_beckoned]
    exact ⟨_, runs_rehearse vacant_stops, by decide +kernel, by decide +kernel⟩
  rcases succeeds with rfl
  have obeys : EventObeys ⟨6⟩ 0 beckoned := by decide +kernel
  have fresh : AcceptsFresh [⟨3⟩, ⟨4⟩] (assembly ⟨3⟩ ⟨4⟩ ⟨5⟩ ⟨6⟩ ++ callsOf beckoned) := by
    decide +kernel
  have reports : ∀ exchange ∈ callsOf beckoned, exchange.ReportsAll := by decide +kernel
  have stops := (stops_of_story creates_vacant obeys fresh reports).2 [] beckoned [] vacant (.ok ())
    last (by simp) .start runs
  rcases stops.2 rfl with ⟨endsWell, nobody, balance, left⟩
  rcases eq_append_of_accepts ⟨7⟩ (callsOf beckoned) (by decide +kernel) with
    ⟨accepting, accepts, split⟩
  exact ⟨last, runs, by decide +kernel, endsWell, nobody, balance, accepted,
    (left _ accepting ⟨7⟩ _ split accepts).2⟩

end Router

end RadioRelay
