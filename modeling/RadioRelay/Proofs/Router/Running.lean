import RadioRelay.Proofs.Router.Bookkeeping
import RadioRelay.Proofs.Router.Settling

/-!
# Runs of the loop

A run of the loop is turns that go on, then one that does not, and, unless that one failed, a
farewell to every client. All of this is a course of moves (`Router.moves_of_activities`), so
what every move preserves holds in any run and after it.
-/

namespace RadioRelay

/-! ### A farewell to everybody -/

theorem Registry.Sound.eq_empty {Connection : Type} {registry : Registry Connection}
    (sound : registry.Sound) (nobody : registry.ids = []) : registry = ∅ := by
  have noSubscriptions : registry.subscriptions = [] := by
    rw [List.eq_nil_iff_forall_not_mem]
    intro entry entryMem
    rcases List.exists_mem_of_ne_nil _ (sound.subscribers_ne_nil entry entryMem) with ⟨id, idMem⟩
    have connected := sound.subscribers_connected entry entryMem id idMem
    rw [nobody] at connected
    cases connected
  rcases registry with ⟨clients, subscriptions⟩
  rcases List.map_eq_nil_iff.mp nobody with rfl
  rcases noSubscriptions with rfl
  rfl

theorem Move.course_of_farewells {fixed : Fixtures} {reason : RemovalReason}
    {leaving : List (ClientId × Attempt Unit)} {standing : Standing}
    (distinct : (leaving.map (·.1)).Nodup)
    (connected : ∀ client ∈ leaving.map (·.1), client ∈ standing.registry.ids) :
    Course (Move fixed) standing (leaving.flatMap (farewell fixed reason))
      { standing with
        registry := (standing.registry.removeAll (leaving.map (·.1))).2
        removed := standing.removed + leaving.length } := by
  induction leaving generalizing standing with
  | nil => exact .start
  | cons entry leaving ih =>
    simp only [List.map_cons, List.nodup_cons, List.forall_mem_cons] at distinct connected
    have first : Move fixed standing (farewell fixed reason entry) _ :=
      .retires entry.1 connected.1
    have still : ∀ client ∈ leaving.map (·.1),
        client ∈ (standing.registry.remove entry.1).2.ids := by
      intro client left
      refine Registry.mem_ids_remove.mpr ⟨connected.2 client left, ?_⟩
      rintro rfl
      exact distinct.1 left
    have later := (Course.single first).append (ih distinct.2 still)
    simp only [Nat.add_assoc, Nat.add_comm 1] at later
    rw [List.flatMap_cons, List.map_cons, Registry.removeAll_cons_snd, List.length_cons]
    exact later

/-! ### Nobody takes a name -/

theorem Exchange.Quiet.unbound {fixed : Fixtures} {exchange : Exchange}
    (quiet : exchange.Quiet fixed) (socket : Descriptor) (target : BindTarget) :
    exchange.call ≠ .bind socket target := by
  rcases exchange with ⟨call, answer⟩
  rintro rfl
  cases quiet

theorem Move.unbound {fixed : Fixtures} {standing after : Standing} {trace : Trace}
    (move : Move fixed standing trace after) :
    ∀ exchange ∈ trace, ∀ socket target, exchange.call ≠ .bind socket target := by
  cases move with
  | aside quiet => exact fun exchange exchangeMem => (quiet exchange exchangeMem).unbound
  | admits client =>
    rcases standing.registry.contains client <;> simp [admission]
  | forwards =>
    rw [List.forall_mem_cons, forall_mem_forwarding]
    simp [forall_mem_farewell, posted]
  | _ => simp [farewell, refusal, posted]

theorem unbound_of_course {fixed : Fixtures} {first last : Standing} {history : Trace}
    (course : Course (Move fixed) first history last) :
    ∀ exchange ∈ history, ∀ socket target, exchange.call ≠ .bind socket target := by
  induction course with
  | start => simp
  | next _ move ih =>
    rw [List.forall_mem_append]
    exact ⟨ih, move.unbound⟩

namespace Router

open Program

variable {router after last : Router} {trace : Trace}

theorem moves_of_retirements {reason : RemovalReason}
    {retired : List ((ClientId × Connection) × Attempt Unit)}
    (consistent : router.standing.Consistent)
    (everyone : retired.map (·.1) = router.registry.clients) :
    Course (Move router.fixtures) router.standing (retirements router.poller reason retired)
      { router.standing with
        registry := ∅
        removed := router.statistics.removed + router.registry.clients.length } := by
  let leaving : List (ClientId × Attempt Unit) := retired.map fun entry => (entry.1.1, entry.2)
  have numbers : leaving.map (·.1) = router.registry.ids := by
    rw [Registry.ids, ← everyone, List.map_map, List.map_map]
    rfl
  have calls : retirements router.poller reason retired
      = leaving.flatMap (farewell router.fixtures reason) := by
    rw [retirements, List.flatMap_map]
    apply List.flatMap_congr
    intro entry entryMem
    have connected : entry.1 ∈ router.registry.clients := everyone ▸ List.mem_map_of_mem entryMem
    have own : entry.1.2 = ⟨entry.1.1⟩ :=
      consistent.own (consistent.sound.get?_eq_some_iff.mpr connected)
    rw [retirement, own]
    rfl
  have nobody : (router.registry.removeAll (leaving.map (·.1))).2 = ∅ := by
    apply (consistent.sound.removeAll _).eq_empty
    rw [Registry.ids_removeAll, numbers, List.filter_eq_nil_iff]
    simp [standing]
  have count : leaving.length = router.registry.clients.length := by
    rw [← everyone, List.length_map, List.length_map]
  rw [calls, ← nobody, ← count]
  apply Move.course_of_farewells
  · rw [numbers]
    exact consistent.sound.ids_nodup
  · intro client left
    rw [numbers] at left
    exact left

/-! ### The parts of a run -/

/-- A turn after which the loop goes on. -/
def GoesOn (router : Router) (trace : Trace) (after : Router) : Prop :=
  (router.pollOnce (-1)).Runs trace (.ok true, after)

/-- What the loop makes of a turn. -/
def afterTurn : Except Failure Bool × Router → Router ⊕ (Except Failure Unit × Router)
  | (.ok true, router) => .inl router
  | (.ok false, router) => .inr (.ok (), router)
  | (.error failure, router) => .inr (.error failure, router)

def turnOnce (router : Router) : Program (Router ⊕ (Except Failure Unit × Router)) := do
  let result ← router.pollOnce (-1)
  return afterTurn result

theorem pollUntilWoken_eq (router : Router) :
    router.pollUntilWoken = repeatUntil router turnOnce := by
  unfold pollUntilWoken
  congr 1
  funext state
  unfold turnOnce
  congr 1
  funext result
  rcases result with ⟨_ | _ | _, _⟩ <;> rfl

theorem runs_turnOnce {outcome : Router ⊕ (Except Failure Unit × Router)}
    (runs : router.turnOnce.Runs trace outcome) :
    ∃ result, (router.pollOnce (-1)).Runs trace result ∧ outcome = afterTurn result := by
  rcases runs_bind.mp runs with ⟨_, _, result, rfl, polls, rfl, rfl⟩
  rw [List.append_nil]
  exact ⟨result, polls, rfl⟩

theorem runs_pollUntilWoken {outcome : Except Failure Unit}
    (runs : router.pollUntilWoken.Runs trace (outcome, last)) :
    ∃ going turn stopping ending, trace = going ++ turn ∧ Course GoesOn router going stopping
      ∧ (stopping.pollOnce (-1)).Runs turn (ending, last)
      ∧ ((ending = .ok false ∧ outcome = .ok ())
        ∨ ∃ failure, ending = .error failure ∧ outcome = .error failure) := by
  rw [pollUntilWoken_eq] at runs
  rcases (runs_repeatUntil.mp runs).exists_course with ⟨going, turn, stopping, rfl, course, ends⟩
  have goesOn : Course GoesOn router going stopping := by
    refine (course.refine (fun _ => True) id ?_ trivial).2
    intro state trace next _ round
    rcases runs_turnOnce round with ⟨⟨_ | _ | _, _⟩, polls, same⟩
    all_goals cases same
    exact ⟨trivial, .single polls⟩
  rcases runs_turnOnce ends with ⟨⟨failure | _ | _, stopped⟩, polls, same⟩
  all_goals cases same
  · exact ⟨going, turn, stopping, _, rfl, goesOn, polls, Or.inr ⟨failure, rfl, rfl⟩⟩
  · exact ⟨going, turn, stopping, _, rfl, goesOn, polls, Or.inl ⟨rfl, rfl⟩⟩

def vacated (router : Router) : Router :=
  { router with
    registry := ∅
    statistics.removed := router.statistics.removed + router.registry.clients.length }

/-- The calls with which a run that was woken ends: everybody is given up. -/
def closing (router : Router) (retired : List ((ClientId × Connection) × Attempt Unit)) : Trace :=
  retirements router.poller .shuttingDown retired
    ++ [⟨.log (.stopped router.vacated.statistics), ()⟩]

/-- A run is turns that go on, and then one that fails or one after which everybody is given up. -/
theorem runs_run {outcome : Except Failure Unit} (runs : router.run.Runs trace (outcome, last)) :
    ∃ going turn rest stopping ending stopped,
      trace = (⟨.log (.routing router.listener.name), ()⟩ :: going) ++ (turn ++ rest)
        ∧ Course GoesOn router going stopping
        ∧ (stopping.pollOnce (-1)).Runs turn (ending, stopped)
        ∧ ((∃ failure, ending = .error failure ∧ outcome = .error failure ∧ rest = []
            ∧ last = stopped)
          ∨ ∃ retired, ending = .ok false ∧ outcome = .ok () ∧ rest = stopped.closing retired
            ∧ retired.map (·.1) = stopped.registry.clients ∧ last = stopped.vacated) := by
  rcases runs_call_bind.mp runs with ⟨_, _, rfl, following⟩
  rcases runs_bind.mp following with ⟨_, late, ⟨polled, stopped⟩, rfl, polls, runs⟩
  rcases runs_pollUntilWoken polls with
    ⟨going, turn, stopping, ending, rfl, goesOn, ends, ⟨rfl, rfl⟩ | ⟨failure, rfl, rfl⟩⟩
  · rcases runs_bind.mp runs with ⟨_, _, vacated, rfl, retires, ⟨_, _, rfl, rfl, same⟩⟩
    rcases runs_retireAll retires with ⟨retired, everyone, rfl, rfl⟩
    cases same
    refine ⟨going, turn, _, stopping, _, stopped, ?_, goesOn, ends,
      Or.inr ⟨retired, rfl, rfl, rfl, everyone, rfl⟩⟩
    rw [List.append_assoc]
    rfl
  · rcases runs with ⟨rfl, same⟩
    cases same
    refine ⟨going, turn, [], stopping, _, last, ?_, goesOn, ends,
      Or.inl ⟨failure, rfl, rfl, rfl, rfl⟩⟩
    rw [List.append_nil, List.append_nil]
    rfl

/-! ### Everything a router does is a course of moves -/

/-- What is done with a router that was put together. -/
inductive Activity : Router → Trace → Router → Prop
  | notes {router : Router} (notice : Notice) : Activity router [⟨.log notice, ()⟩] router
  | turn {router after : Router} {trace : Trace} (turn : Turn router trace after) :
    Activity router trace after
  | run {router after : Router} {trace : Trace} {outcome : Except Failure Unit}
    (runs : router.run.Runs trace (outcome, after)) : Activity router trace after

/-- What was done is a course of moves, and the registry is in order afterwards. -/
structure Moved (router : Router) (trace : Trace) (after : Router) : Prop where
  fixtures : after.fixtures = router.fixtures
  consistent : after.standing.Consistent
  course : Course (Move router.fixtures) router.standing trace after.standing

theorem Moved.append {middle : Router} {early late : Trace} (first : Moved router early middle)
    (second : Moved middle late after) : Moved router (early ++ late) after where
  fixtures := second.fixtures.trans first.fixtures
  consistent := second.consistent
  course := first.course.append (first.fixtures ▸ second.course)

theorem moved_of_stages (course : Course Stage router trace after)
    (consistent : router.standing.Consistent) : Moved router trace after := by
  rcases moves_of_course course consistent with ⟨still, moves⟩
  exact ⟨fixtures_course course, still, moves⟩

theorem moved_of_turn (turn : Turn router trace after)
    (consistent : router.standing.Consistent) : Moved router trace after :=
  moved_of_stages (course_of_turns (.single turn)) consistent

theorem moved_of_goingOn (going : Course GoesOn router trace after)
    (consistent : router.standing.Consistent) : Moved router trace after := by
  induction going with
  | start => exact ⟨rfl, consistent, .start⟩
  | next _ polls ih => exact ih.append (moved_of_turn ⟨-1, _, polls⟩ ih.consistent)

theorem moved_of_notice (notice : Notice) (consistent : router.standing.Consistent) :
    Moved router [⟨.log notice, ()⟩] router :=
  ⟨rfl, consistent, .single (.aside (by simp [Exchange.Quiet]))⟩

theorem moved_of_closing {retired : List ((ClientId × Connection) × Attempt Unit)}
    (consistent : router.standing.Consistent)
    (everyone : retired.map (·.1) = router.registry.clients) :
    Moved router (router.closing retired) router.vacated := by
  have vacant : router.vacated.standing.Consistent := by
    refine ⟨Registry.sound_empty, ?_⟩
    simp [standing, vacated]
  have retires : Moved router (retirements router.poller .shuttingDown retired) router.vacated :=
    ⟨rfl, vacant, moves_of_retirements consistent everyone⟩
  exact retires.append (moved_of_notice _ vacant)

theorem moved_of_run {outcome : Except Failure Unit}
    (runs : router.run.Runs trace (outcome, after)) (consistent : router.standing.Consistent) :
    Moved router trace after := by
  have begins := moved_of_notice (.routing router.listener.name) consistent
  rcases runs_run runs with ⟨going, turn, rest, stopping, _, stopped, rfl, goesOn, ends, last⟩
  have moved := moved_of_goingOn goesOn consistent
  have turned := moved_of_turn ⟨-1, _, ends⟩ moved.consistent
  refine (begins.append moved).append ?_
  rcases last with ⟨_, -, -, rfl, rfl⟩ | ⟨retired, -, -, rfl, everyone, rfl⟩
  · rw [List.append_nil]
    exact turned
  · exact turned.append (moved_of_closing turned.consistent everyone)

theorem moved_of_activities (activities : Course Activity router trace after)
    (consistent : router.standing.Consistent) : Moved router trace after := by
  induction activities with
  | start => exact ⟨rfl, consistent, .start⟩
  | next _ activity ih =>
    refine ih.append ?_
    cases activity with
    | notes notice => exact moved_of_notice notice ih.consistent
    | turn turn => exact moved_of_turn turn ih.consistent
    | run runs => exact moved_of_run runs ih.consistent

/-! ### A run can be brought to an end -/

theorem quits_turnOnce : Quits turnOnce := by
  intro router
  rcases (settles_pollOnce router (-1)).finishes with ⟨trace, ⟨outcome, after⟩, runs, refused⟩
  obtain ⟨failure, rfl⟩ : ∃ failure, outcome = .error failure := by
    rcases runs_pollOnce runs with
      ⟨failure, -, same, -⟩
        | ⟨_, _, waiting, _, resumed, bounded, events, poller, rfl, -, -, waits, ends⟩
    · exact ⟨failure, same⟩
    · rcases events with failure | events
      · exact ⟨failure, ends.2.1⟩
      · rcases runs_wait waits with ⟨-, -, same⟩ | ⟨answer, rfl, same⟩
        · cases same
        · have refusal : answer = .error .wouldBlock := refused
            ⟨.wait resumed.poller.descriptor resumed.poller.capacity bounded, answer⟩ (by simp)
          rw [refusal] at same
          cases same
  exact ⟨trace, (.error failure, after), refused,
    runs_bind.mpr ⟨trace, [], _, (List.append_nil _).symm, runs, rfl, rfl⟩⟩

theorem repeats_run (router : Router) : router.run.Repeats fun _ _ => Quits := by
  have turns : ∀ state : Router, state.turnOnce.Repeats fun _ _ => Quits := fun state =>
    Repeats.bind (repeats_pollOnce quits_acceptOnce quits_drainOnce state (-1)) fun _ => trivial
  refine Repeats.bind (fun _ => trivial) fun _ => ?_
  rw [pollUntilWoken_eq]
  refine Repeats.bind (repeats_repeatUntil quits_turnOnce turns) ?_
  rintro ⟨failure | _, stopped⟩
  · trivial
  · exact Repeats.bind (straight_retireAll ..).repeats fun _ _ => trivial

end Router

end RadioRelay
