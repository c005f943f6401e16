import RadioRelay.Proofs.Router.Stages

/-!
# The two halves of a turn

A turn of the loop is a course of stages, and all accepts come first: nothing is
sent before they are over, and nothing is opened afterwards. Whoever is sent
something and leaves in a turn does not come back in the same turn.
-/

namespace RadioRelay

/-- A call at the door: nothing is received from anybody, and nothing is sent. -/
def Exchange.AtDoor (exchange : Exchange) : Prop :=
  match exchange.call with
  | .currentTime | .readEvent _ | .accept _ | .watch _ _ _ | .unwatch _ _ | .close _ | .log _ =>
    True
  | _ => False

theorem Exchange.AtDoor.sent? {exchange : Exchange} (door : exchange.AtDoor) :
    exchange.sent? = none := by
  unfold Exchange.sent?
  split
  · cases door
  · rfl

namespace Router

open Program

variable {router after : Router} {trace : Trace} {client : ClientId}

/-! ### The first half -/

theorem door_resumeAccept {outcome : Except Failure Router}
    (runs : router.resumeAccept.Runs trace outcome) : ∀ exchange ∈ trace, exchange.AtDoor := by
  rcases runs_resumeAccept runs with
    ⟨-, rfl, -⟩ | ⟨_, _, -, ⟨-, rfl, -⟩ | ⟨-, _, rfl, -⟩⟩
  all_goals simp [Exchange.AtDoor]

theorem door_boundedTimeout {timeout bounded : Int}
    (runs : (router.boundedTimeout timeout).Runs trace bounded) :
    ∀ exchange ∈ trace, exchange.AtDoor := by
  rcases runs_boundedTimeout runs with ⟨-, rfl, -⟩ | ⟨_, _, -, rfl, -⟩
  all_goals simp [Exchange.AtDoor]

theorem door_drain {outcome : Attempt Unit} (runs : router.wake.drain.Runs trace outcome) :
    ∀ exchange ∈ trace, exchange.AtDoor := by
  intro exchange exchangeMem
  rcases reads_of_drain runs exchange exchangeMem with ⟨answer, rfl⟩
  trivial

theorem door_welcome {connection : Connection}
    (runs : (router.welcome connection).Runs trace after) :
    ∀ exchange ∈ trace, exchange.AtDoor := by
  rcases runs_welcome runs with ⟨_, rfl, -⟩ | ⟨_, rfl, rfl, -⟩
  · simp [Exchange.AtDoor]
  · split <;> simp [Exchange.AtDoor]

theorem door_pauseAccept {errno : Errno} (runs : (router.pauseAccept errno).Runs trace after) :
    ∀ exchange ∈ trace, exchange.AtDoor := by
  have report : ∀ now : Nat, ∀ exchange ∈ router.acceptReport errno now, exchange.AtDoor := by
    intro now
    unfold acceptReport
    split <;> simp [Exchange.AtDoor]
  rcases runs_pauseAccept runs with ⟨now, ⟨-, rfl, -⟩ | ⟨-, _, rfl, -⟩⟩
  · rw [List.forall_mem_cons]
    exact ⟨trivial, report now⟩
  · rw [List.forall_mem_cons, List.forall_mem_append]
    exact ⟨trivial, report now, by simp [Exchange.AtDoor]⟩

theorem door_acceptClients (runs : router.acceptClients.Runs trace after) :
    ∀ exchange ∈ trace, exchange.AtDoor := by
  refine Rounds.forall_mem (runs_acceptClients runs) ?_
  intro state trace outcome round
  rcases runs_acceptOnce round with
    ⟨_, -, rfl, -⟩ | ⟨_, rest, _, -, rfl, pauses, -⟩ | ⟨_, rest, _, rfl, welcomes, -⟩
  · simp [Exchange.AtDoor]
  · rw [List.forall_mem_cons]
    exact ⟨trivial, door_pauseAccept pauses⟩
  · rw [List.forall_mem_cons]
    exact ⟨trivial, door_welcome welcomes⟩

theorem unsent_wait {timeout : Int} {events : Except Failure (List Readiness)} {poller : Poller}
    (runs : (router.poller.wait timeout).Runs trace (events, poller)) :
    ∀ exchange ∈ trace, exchange.sent? = none := by
  intro exchange exchangeMem
  rcases (kept_of_wait runs).1 exchange exchangeMem with ⟨answer, rfl⟩
  rfl

theorem unsent_of_door (door : ∀ exchange ∈ trace, exchange.AtDoor) :
    ∀ exchange ∈ trace, exchange.sent? = none :=
  fun exchange exchangeMem => (door exchange exchangeMem).sent?

/-! ### The second half -/

theorem opens_removeClient {reason : RemovalReason}
    (runs : (router.removeClient client reason).Runs trace after) :
    ∀ exchange ∈ trace, exchange.opens = [] := by
  rcases runs_removeClient runs with ⟨-, rfl, -⟩ | ⟨_, _, -, rfl, -⟩
  all_goals simp [retirement, Exchange.opens]

theorem opens_handleClient (connected : router.registry.contains client)
    (runs : (router.handleClient client).Runs trace after) :
    ∀ exchange ∈ trace, exchange.opens = [] := by
  rcases Option.isSome_iff_exists.mp connected with ⟨connection, found⟩
  rcases runs_handleClient found runs with
    ⟨_, rest, rfl, ends⟩ | ⟨received, rest, rfl, ends⟩
  · rw [List.forall_mem_cons]
    refine ⟨rfl, ?_⟩
    rcases ends with ⟨-, rfl, -⟩ | ⟨-, _, removes⟩
    · simp
    · exact opens_removeClient removes
  · rw [List.forall_mem_cons]
    refine ⟨rfl, ?_⟩
    rcases ends with ⟨-, _, removes⟩ | ⟨-, -, _, removes⟩ | ⟨-, bytes, -, answers⟩
    · exact opens_removeClient removes
    · exact opens_removeClient removes
    · have stillFound : (router.withMessage received).registry.get? client = some connection :=
        found
      rcases runs_answer stillFound answers with
        ⟨_, _, -, removes⟩ | ⟨_, _, _, -, rfl, ⟨-, rfl, -⟩ | ⟨-, _, removes⟩⟩
      · exact opens_removeClient removes
      · simp [Exchange.opens]
      · simp only [List.forall_mem_cons]
        exact ⟨rfl, rfl, opens_removeClient removes⟩

theorem opens_handleKernel (runs : router.handleKernel.Runs trace after) :
    ∀ exchange ∈ trace, exchange.opens = [] := by
  have notices : ∀ {rest : Trace}, (∀ exchange ∈ rest, ∃ notice, exchange = ⟨.log notice, ()⟩) →
      ∀ exchange ∈ rest, exchange.opens = [] := by
    intro rest each exchange exchangeMem
    rcases each exchange exchangeMem with ⟨notice, rfl⟩
    rfl
  rcases runs_handleKernel runs with
    ⟨_, rest, rfl, each, -⟩ | ⟨_, rest, rfl, ⟨-, each, -⟩ | ⟨_, -, forwards⟩⟩
  · rw [List.forall_mem_cons]
    exact ⟨rfl, notices each⟩
  · rw [List.forall_mem_cons]
    exact ⟨rfl, notices each⟩
  · rcases runs_forward forwards with ⟨sent, closed, _, _, rfl, routes, retires⟩
    rcases runs_retireAll retires with ⟨retired, -, rfl, -⟩
    have closing : ∀ exchange ∈ retirements router.poller .deliveryFailed retired,
        exchange.opens = [] := by
      simp only [retirements, List.forall_mem_flatMap]
      simp [retirement, Exchange.opens]
    rw [List.forall_mem_cons, List.forall_mem_append]
    refine ⟨rfl, ?_, closing⟩
    rcases runs_route routes with ⟨rfl, -⟩ | ⟨_, sends, -, -, rfl, -⟩
    · simp
    · simp only [mailing, List.forall_mem_map]
      exact fun _ _ => rfl

theorem opens_serveClients {events : List Readiness}
    (runs : (router.serveClients events).Runs trace after) :
    ∀ exchange ∈ trace, exchange.opens = [] := by
  induction events generalizing router trace with
  | nil =>
    rcases runs with ⟨rfl, -⟩
    simp
  | cons event rest ih =>
    rw [serveClients_cons] at runs
    rcases runs_bind.mp runs with ⟨early, late, middle, rfl, serves, later⟩
    rw [List.forall_mem_append]
    refine ⟨?_, ih later⟩
    rcases runs_serveOne serves with
      ⟨connected, -, handles⟩ | ⟨-, -, -, hangsUp⟩ | ⟨-, rfl, -⟩
    · exact opens_handleClient connected handles
    · exact opens_removeClient hangsUp
    · simp

/-! ### Both halves -/

/-- A turn accepts clients before it sends anything. -/
def Halved (router : Router) (trace : Trace) (after : Router) : Prop :=
  ∃ early late middle, trace = early ++ late
    ∧ Course Stage router early middle ∧ Course Stage middle late after
    ∧ (∀ exchange ∈ early, exchange.sent? = none) ∧ ∀ exchange ∈ late, exchange.opens = []

/-- What neither sends nor opens anything belongs to either half. -/
theorem halved_of_unsent (course : Course Stage router trace after)
    (unsent : ∀ exchange ∈ trace, exchange.sent? = none) : Halved router trace after :=
  ⟨trace, [], after, (List.append_nil trace).symm, course, .start, unsent, by simp⟩

theorem Halved.prepend {early late : Trace} {middle : Router}
    (course : Course Stage router early middle)
    (unsent : ∀ exchange ∈ early, exchange.sent? = none) (halved : Halved middle late after) :
    Halved router (early ++ late) after := by
  rcases halved with ⟨first, last, between, rfl, firstCourse, lastCourse, firstUnsent, nothing⟩
  refine ⟨early ++ first, last, between, (List.append_assoc ..).symm, course.append firstCourse,
    lastCourse, ?_, nothing⟩
  rw [List.forall_mem_append]
  exact ⟨unsent, firstUnsent⟩

theorem course_of_comes {knocked : Bool}
    (comes : if knocked then router.acceptClients.Runs trace after
      else trace = [] ∧ after = router) :
    Course Stage router trace after ∧ ∀ exchange ∈ trace, exchange.AtDoor := by
  split at comes
  · exact ⟨course_of_acceptClients comes, door_acceptClients comes⟩
  · rcases comes with ⟨rfl, rfl⟩
    exact ⟨.start, by simp⟩

theorem course_of_hears {framed : Bool}
    (hears : if framed then router.handleKernel.Runs trace after
      else trace = [] ∧ after = router) :
    Course Stage router trace after ∧ ∀ exchange ∈ trace, exchange.opens = [] := by
  split at hears
  · exact ⟨.single (.hears hears), opens_handleKernel hears⟩
  · rcases hears with ⟨rfl, rfl⟩
    exact ⟨.start, by simp⟩

/-- Whoever acts does so in three parts, and is in order at the beginning of each. -/
structure InParts (router : Router) (batch : Batch) (coming hearing serving : Trace)
    (entered heard after : Router) : Prop where
  comes : if batch.listener then router.acceptClients.Runs coming entered
    else coming = [] ∧ entered = router
  hears : if batch.kernel then entered.handleKernel.Runs hearing heard
    else hearing = [] ∧ heard = entered
  serves : (heard.serveClients batch.clients).Runs serving after
  course : Course Stage router (coming ++ hearing) heard
  consistentEntered : entered.standing.Consistent
  consistentHeard : heard.standing.Consistent
  others : ∀ event ∈ batch.clients, event.descriptor ≠ heard.kernel

theorem inParts_of_acts {batch : Batch} (consistent : router.standing.Consistent)
    (others : ∀ event ∈ batch.clients, event.descriptor ≠ router.kernel)
    (acts : router.Acts batch trace after) :
    ∃ coming hearing serving entered heard, trace = coming ++ (hearing ++ serving)
      ∧ InParts router batch coming hearing serving entered heard after := by
  rcases acts with ⟨coming, hearing, serving, entered, heard, rfl, comes, hears, serves⟩
  have entering := (course_of_comes comes).1
  have course := entering.append (course_of_hears hears).1
  have kernel : heard.kernel = router.kernel := congrArg Fixtures.kernel (fixtures_course course)
  refine ⟨coming, hearing, serving, entered, heard, rfl, comes, hears, serves, course,
    (moves_of_course entering consistent).1, (moves_of_course course consistent).1, ?_⟩
  rw [kernel]
  exact others

theorem halved_of_acts {batch : Batch}
    (others : ∀ event ∈ batch.clients, event.descriptor ≠ router.kernel)
    (acts : router.Acts batch trace after) : Halved router trace after := by
  rcases acts with ⟨coming, hearing, serving, entered, heard, rfl, comes, hears, serves⟩
  have opening := course_of_comes comes
  have middle := course_of_hears hears
  have kernel : heard.kernel = router.kernel :=
    congrArg Fixtures.kernel (fixtures_course (opening.1.append middle.1))
  refine ⟨coming, hearing ++ serving, entered, rfl, opening.1,
    middle.1.append (course_of_serveClients (kernel ▸ others) serves), unsent_of_door opening.2, ?_⟩
  rw [List.forall_mem_append]
  exact ⟨middle.2, opens_serveClients serves⟩

theorem halved_of_dispatch {batch : Batch} {outcome : Except Failure Bool}
    (others : ∀ event ∈ batch.clients, event.descriptor ≠ router.kernel)
    (runs : (router.dispatch batch).Runs trace (outcome, after)) : Halved router trace after := by
  rcases runs_dispatch runs with ⟨-, rfl, _, draining, drains, ends⟩ | ⟨-, -, acts⟩
  · have wakes : Course Stage after draining after := .single (.wakes drains)
    have unsent := unsent_of_door (door_drain drains)
    rcases ends with ⟨_, -, rfl, -⟩ | ⟨-, rfl, -⟩
    · exact halved_of_unsent wakes unsent
    · have stops := halved_of_unsent (.single (@Stage.stops after)) (by simp [Exchange.sent?])
      exact Halved.prepend wakes unsent stops
  · exact halved_of_acts others acts

theorem clients_ne_kernel {events : List Readiness} :
    ∀ event ∈ (router.classify events).clients, event.descriptor ≠ router.kernel := by
  intro event eventMem
  have sorted := (List.mem_filter.mp eventMem).2
  simp only [decide_eq_true_eq] at sorted
  exact sorted.2.2

theorem halved_of_pollOnce {timeout : Int} {outcome : Except Failure Bool}
    (runs : (router.pollOnce timeout).Runs trace (outcome, after)) :
    Halved router trace after := by
  rcases runs_pollOnce runs with
    ⟨failure, resumes, -, rfl⟩
      | ⟨resuming, bounding, waiting, rest, resumed, _, events, poller, rfl, resumes, bounds,
        waits, ends⟩
  · exact halved_of_unsent (.single (.failsToResume resumes))
      (unsent_of_door (door_resumeAccept resumes))
  · apply Halved.prepend (.single (.resumes resumes)) (unsent_of_door (door_resumeAccept resumes))
    apply Halved.prepend (.single (.bounds bounds)) (unsent_of_door (door_boundedTimeout bounds))
    apply Halved.prepend (.single (.waits waits)) (unsent_wait waits)
    rcases events with failure | events
    · rcases ends with ⟨rfl, -, rfl⟩
      exact halved_of_unsent .start (by simp)
    · exact halved_of_dispatch clients_ne_kernel ends

theorem Halved.course (halved : Halved router trace after) : Course Stage router trace after := by
  rcases halved with ⟨_, _, _, rfl, early, late, -, -⟩
  exact early.append late

/-- One turn of the loop, with any time to wait and whatever comes of it. -/
def Turn (router : Router) (trace : Trace) (after : Router) : Prop :=
  ∃ timeout outcome, (router.pollOnce timeout).Runs trace (outcome, after)

theorem turn_rehearse {script : Trace → (call : Call) → call.Answer} {limit : Nat}
    (ends : ((router.pollOnce (-1)).rehearse script limit).1.isSome) :
    Turn router ((router.pollOnce (-1)).rehearse script limit).2
      (((router.pollOnce (-1)).rehearse script limit).1.get ends).2 :=
  ⟨-1, _, runs_rehearse ends⟩

theorem course_of_turns (turns : Course Turn router trace after) :
    Course Stage router trace after := by
  induction turns with
  | start => exact .start
  | next _ turn ih =>
    rcases turn with ⟨_, _, runs⟩
    exact ih.append (halved_of_pollOnce runs).course

end Router
end RadioRelay
