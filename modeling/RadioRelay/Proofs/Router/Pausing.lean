import RadioRelay.Proofs.Router.Attribution
import RadioRelay.Proofs.Router.Clock
import RadioRelay.Proofs.Router.Entrance

/-!
# How long the listener is paused

If an accept fails and the poller gives the listener up, nobody is accepted for a
tenth of a second, while all who have come in stay. The first turn that begins after
that asks the poller to watch the listener again, and no wait is so long that this
would be late by more than a millisecond (`Router.backs_off`).
-/

namespace RadioRelay

/-- The milliseconds until a deadline, rounded up. -/
def millisecondsLeft (deadline now : Nat) : Nat := (deadline - now) / 1000 + 1

/-- A time to wait, cut to what is left. A negative one is for ever. -/
def cutTo (left : Nat) (timeout : Int) : Int := if timeout < 0 then left else min timeout left

/-- A turn of the loop with the times that belong to it, in microseconds. -/
structure TimedTurn where
  before : Router
  /-- How many milliseconds the caller wants to wait. -/
  timeout : Int
  begun : Nat
  ended : Nat
  trace : Trace
  outcome : Except Failure Bool
  after : Router

namespace TimedTurn

/-- The turn happens after some time, and everybody who asks is told the time. -/
structure Happens (turn : TimedTurn) (past : Nat) : Prop where
  runs : (turn.before.pollOnce turn.timeout).Runs turn.trace (turn.outcome, turn.after)
  past_le : past ≤ turn.begun
  begun_le : turn.begun ≤ turn.ended
  onClock : OnClock turn.begun turn.ended turn.trace

/-- The time after some calls of the turn. -/
def clock (turn : TimedTurn) (past : Trace) : Nat := clockAfter turn.begun turn.ended past

/-- Before the turn waits, it asks the poller to watch the listener again. If the poller does, the
pause is over and the turn goes on like any other one. If not, the turn fails and nothing else has
happened. -/
def Resumes (turn : TimedTurn) : Prop :=
  ∃ answer rest,
    turn.trace = ⟨.currentTime, turn.begun⟩ :: ⟨.watch turn.before.poller.descriptor
      turn.before.listener.descriptor readable, answer⟩ :: rest
    ∧ match answer with
      | .ok _ => (Router.pollOnce { turn.before with pausedUntil := none } turn.timeout).Runs rest
        (turn.outcome, turn.after)
      | .error errno => rest = []
        ∧ turn.outcome = .error ((Failure.system errno).during .watchingListener)
        ∧ turn.after = turn.before

/-- What it means for a turn, and for those after it, that an accept fails at some time. -/
structure BacksOff (turn : TimedTurn) (time : Nat) (front back : Trace) (later : List TimedTurn) :
    Prop where
  paused : turn.after.pausedUntil = some (time + Router.acceptPause)
  nobody : ∀ exchange ∈ back, exchange.call.isAccept = false
  deaf : ∀ next ∈ later, ∀ before exchange rest, next.trace = before ++ exchange :: rest →
    exchange.call.isAccept = true → time + Router.acceptPause ≤ next.clock before
  admitted : ∀ before client rest,
    front = before ++ ⟨.accept turn.before.listener.descriptor, .ok client⟩ :: rest →
      ∃ answer more,
        rest = ⟨.watch turn.before.poller.descriptor client readable, answer⟩ :: more
          ∧ (answer = .ok () → client ∈ turn.after.registry.ids)
  resumes : ∀ between next rest, later = between ++ next :: rest →
    (∀ one ∈ between, one.begun < time + Router.acceptPause) →
      time + Router.acceptPause ≤ next.begun → next.Resumes

/-- So many milliseconds are left until a deadline: the turn waits for no longer, and if it waits
for so long the next one resumes. They fit a machine word. -/
structure WaitsOut (turn : TimedTurn) (deadline left : Nat) (later : List TimedTurn) : Prop where
  range : 1 ≤ left ∧ left ≤ 101
  reaches : deadline ≤ turn.begun + 1000 * left ∧ turn.begun + 1000 * left ≤ deadline + 1000
  fits : (Int32.ofNat ((deadline - turn.begun) / 1000)).toInt
      = ((deadline - turn.begun) / 1000 : Nat)
    ∧ (Int32.ofNat ((deadline - turn.begun) / 1000) + 1).toInt = left
  waits : ∃ answer rest,
    turn.trace = ⟨.currentTime, turn.begun⟩ :: ⟨.currentTime, turn.begun⟩
      :: ⟨.wait turn.before.poller.descriptor turn.before.poller.capacity
        (cutTo left turn.timeout), answer⟩ :: rest
  resumes : turn.begun + 1000 * left ≤ turn.ended → ∀ next ∈ later.head?, next.Resumes

/-- Turns that follow one another, the first of them after some time. -/
def Successive : Router → Nat → List TimedTurn → Prop
  | _, _, [] => True
  | router, past, turn :: later =>
    turn.before = router ∧ turn.Happens past ∧ Successive turn.after turn.ended later

end TimedTurn

/-- Before anybody is let in, the poller may watch the listener again, and nobody else. -/
theorem reported_of_idle {fixed : Fixtures} {poller : Descriptor} {watched : List Descriptor}
    {trace : Trace} (idle : ∀ exchange ∈ trace, exchange.Idle fixed)
    (reportsWatched : ReportsWatched poller watched trace) :
    ∀ event ∈ trace.flatMap Exchange.reported,
      event.descriptor = fixed.listener ∨ event.descriptor ∈ watched := by
  induction trace generalizing watched with
  | nil => simp
  | cons exchange trace ih =>
    rw [List.forall_mem_cons] at idle
    have still : ∀ number ∈ exchange.nowWatched poller watched,
        number = fixed.listener ∨ number ∈ watched := by
      have now := idle.1
      unfold Exchange.nowWatched
      split
      all_goals try split
      all_goals simp_all [Exchange.Idle]
    intro event eventMem
    rcases List.mem_append.mp eventMem with now | later
    · exact Or.inr (reportsWatched.1 event now)
    · rcases ih idle.2 reportsWatched.2 event later with listener | known
      · exact Or.inl listener
      · exact still _ known

namespace Router

open Program

variable {router after start : Router} {trace later : Trace} {deadline : Nat}
  {opened watched : List Descriptor}

/-! ### The pause of a turn -/

/-- The deadline of a pause is not far away. -/
def PausesBriefly (router : Router) (now : Nat) : Prop :=
  ∀ deadline ∈ router.pausedUntil, deadline ≤ now + acceptPause

/-- A turn fails to resume, or only afterwards the pause changes again. -/
theorem pausedIn_of_pollOnce {timeout : Int} {outcome : Except Failure Bool}
    (runs : (router.pollOnce timeout).Runs trace (outcome, after)) :
    (∃ failure, router.resumeAccept.Runs trace (.error failure)
        ∧ outcome = .error failure ∧ after = router)
      ∨ ∃ resuming rest resumed, trace = resuming ++ rest
        ∧ router.resumeAccept.Runs resuming (.ok resumed) ∧ resumed.PausedIn rest after := by
  rcases runs_pollOnce runs with
    fails
      | ⟨resuming, bounding, waiting, rest, resumed, _, events, poller, rfl, resumes, -, -, ends⟩
  · exact Or.inl fails
  refine Or.inr ⟨resuming, _, resumed, rfl, resumes, ?_⟩
  rcases events with failure | events
  · rcases ends with ⟨-, -, rfl⟩
    exact Or.inl rfl
  · rcases runs_dispatch ends with ⟨-, rfl, -⟩ | ⟨-, -, acts⟩
    · exact Or.inl rfl
    · refine (pausedIn_of_acts acts).imp_right ?_
      rintro ⟨listening, now, asked, paused⟩
      exact ⟨listening, now, by simp [asked], paused⟩

theorem resumeAccept_of_early {outcome : Except Failure Router} {begun ended : Nat}
    (paused : router.pausedUntil = some deadline) (early : begun < deadline)
    (onClock : OnClock begun ended trace) (runs : router.resumeAccept.Runs trace outcome) :
    trace = [⟨.currentTime, begun⟩] ∧ outcome = .ok router := by
  rcases runs_resumeAccept runs with
    ⟨listening, -, -⟩ | ⟨_, now, same, ⟨-, rfl, rfl⟩ | ⟨elapsed, _, rfl, -⟩⟩
  · rw [listening] at paused
    cases paused
  · rcases onClock with ⟨rfl, -⟩
    exact ⟨rfl, rfl⟩
  · rcases onClock with ⟨rfl, -⟩
    rw [paused] at same
    cases same
    omega

/-! ### Between two turns -/

/-- A router between two turns, and a disciplined system for what comes later. -/
structure Poised (router : Router) (opened watched : List Descriptor) (later : Trace) : Prop where
  room : router.poller.capacity ≤ Poller.maxCapacity
  distinct : router.fixtures.Distinct
  secure : router.standing.Secure router.fixtures opened
  watching : router.standing.Watched router.fixtures watched
  disciplined : Disciplined router.poller.descriptor opened watched later

theorem poised_create {listener : Listener} {kernel : Descriptor} {options : RouterOptions}
    {created : Trace} (puts : (create listener kernel options).run.Runs created (.ok start))
    (disciplined : Disciplined start.poller.descriptor [listener.descriptor, kernel] []
      (created ++ later)) :
    start.Poised (openAfter [listener.descriptor, kernel] created)
      (watchedAfter start.poller.descriptor [] created) later := by
  have secure := secure_create puts
  have distinct := distinct_created puts disciplined.obeys
  rcases runs_create puts with ⟨poller, wake, rfl, rfl⟩
  have room : maxEvents ≤ Poller.maxCapacity := by decide
  exact ⟨room, distinct, secure, watched_assembled, disciplined.of_append.2⟩

theorem Poised.next (poised : router.Poised opened watched (trace ++ later))
    (turn : Turn router trace after) :
    after.Poised (openAfter opened trace) (watchedAfter router.poller.descriptor watched trace)
      later := by
  have stages := course_of_turns (.single turn)
  have fixtures := fixtures_course stages
  have poller : after.poller.descriptor = router.poller.descriptor :=
    congrArg Fixtures.poller fixtures
  have capacity : after.poller.capacity = router.poller.capacity :=
    congrArg Prod.snd (steady_course stages)
  have fresh := poised.disciplined.of_append.1.fresh
  have moves := (moves_of_course stages poised.secure.consistent).2
  refine ⟨capacity ▸ poised.room, fixtures ▸ poised.distinct,
    secure_of_stages stages poised.secure fresh, ?_, poller ▸ poised.disciplined.of_append.2⟩
  rw [fixtures]
  exact watched_of_course moves poised.distinct poised.secure fresh poised.watching

theorem Poised.listener_notMem (poised : router.Poised opened watched later)
    (paused : router.pausedUntil = some deadline) : router.listener.descriptor ∉ watched := by
  rw [poised.watching]
  rintro (client | kernel | wake | ⟨-, listening⟩)
  · exact (poised.secure.apart _ client).1 rfl
  · exact poised.distinct.kernel_ne_listener kernel.symm
  · exact poised.distinct.wake_ne_listener wake.symm
  · simp [standing, paused] at listening

end Router

namespace TimedTurn

open Program

variable {turn : TimedTurn} {past deadline : Nat}

theorem Happens.toTurn (happens : turn.Happens past) :
    Router.Turn turn.before turn.trace turn.after :=
  ⟨turn.timeout, turn.outcome, happens.runs⟩

theorem Happens.pausedUntil_of_early (happens : turn.Happens past)
    (paused : turn.before.pausedUntil = some deadline) (early : turn.begun < deadline) :
    turn.after.pausedUntil = some deadline := by
  have onClock := happens.onClock
  rcases Router.pausedIn_of_pollOnce happens.runs with
    ⟨_, -, -, same⟩ | ⟨resuming, rest, resumed, whole, resumes, same | ⟨listening, -⟩⟩
  · rw [same, paused]
  all_goals
    rw [whole, onClock_append] at onClock
    cases (Router.resumeAccept_of_early paused early onClock.1 resumes).2
  · rw [same, paused]
  · rw [listening] at paused
    cases paused

/-- No turn begins a pause that is longer than others. -/
theorem Happens.pausesBriefly (happens : turn.Happens past)
    (brief : turn.before.PausesBriefly past) : turn.after.PausesBriefly turn.ended := by
  have le : past ≤ turn.ended := happens.past_le.trans happens.begun_le
  have still : ∀ deadline ∈ turn.before.pausedUntil,
      deadline ≤ turn.ended + Router.acceptPause := by
    intro deadline paused
    have := brief deadline paused
    omega
  rcases Router.pausedIn_of_pollOnce happens.runs with
    ⟨_, -, -, same⟩ | ⟨resuming, rest, resumed, whole, resumes, same | ⟨-, now, asked, same⟩⟩
  · rw [same]
    exact still
  · rw [Router.PausesBriefly, same]
    rcases Router.runs_resumeAccept resumes with
      ⟨-, -, same⟩ | ⟨_, _, -, ⟨-, -, same⟩ | ⟨-, _ | _, -, same⟩⟩
    all_goals cases same
    · exact still
    · exact still
    · simp
  · intro deadline paused
    rw [same] at paused
    cases paused
    have := happens.onClock.le_of_mem happens.begun_le
      (whole ▸ List.mem_append_right resuming asked)
    omega

theorem Happens.resumes (happens : turn.Happens past)
    (paused : turn.before.pausedUntil = some deadline) (elapsed : deadline ≤ turn.begun) :
    turn.Resumes := by
  rcases runs_bind.mp happens.runs with ⟨resuming, rest, resumed, whole, resumes, ends⟩
  have onClock := happens.onClock
  rw [whole, onClock_append] at onClock
  rcases Router.runs_resumeAccept resumes with
    ⟨listening, -, -⟩ | ⟨_, now, same, ⟨early, rfl, -⟩ | ⟨-, answer, rfl, rfl⟩⟩
  · rw [listening] at paused
    cases paused
  · rcases onClock.1 with ⟨rfl, -⟩
    rw [paused] at same
    cases same
    omega
  · rcases onClock.1 with ⟨rfl, -⟩
    refine ⟨answer, rest, whole, ?_⟩
    rcases answer with errno | _
    · rcases ends with ⟨rfl, same⟩
      exact ⟨rfl, (Prod.mk.inj same).1, (Prod.mk.inj same).2⟩
    · exact runs_bind.mpr ⟨[], rest, _, rfl, ⟨rfl, rfl⟩, ends⟩

/-- Before its deadline a pause bounds the wait. Then the turn acts on what was reported, if it
does anything at all. -/
theorem Happens.parts_of_early (happens : turn.Happens past)
    (paused : turn.before.pausedUntil = some deadline) (early : turn.begun < deadline)
    (room : turn.before.poller.capacity ≤ Poller.maxCapacity) :
    ∃ answer rest,
      turn.trace = ⟨.currentTime, turn.begun⟩ :: ⟨.currentTime, turn.begun⟩
        :: ⟨.wait turn.before.poller.descriptor turn.before.poller.capacity
          (cutTo (millisecondsLeft deadline turn.begun) turn.timeout), answer⟩ :: rest
      ∧ ((∀ exchange ∈ rest, exchange.Idle turn.before.fixtures)
        ∨ ∃ events poller, turn.before.poller.waited answer = (.ok events, poller)
          ∧ Router.Acts { turn.before with poller := poller } (turn.before.classify events) rest
            turn.after) := by
  have onClock := happens.onClock
  rcases Router.runs_pollOnce happens.runs with
    ⟨_, resumes, -, -⟩
      | ⟨resuming, bounding, waiting, rest, resumed, _, events, poller, whole, resumes, bounds,
        waits, ends⟩
  · cases (Router.resumeAccept_of_early paused early onClock resumes).2
  rw [whole, onClock_append, onClock_append] at onClock
  rcases Router.resumeAccept_of_early paused early onClock.1 resumes with ⟨rfl, same⟩
  cases same
  rcases Router.runs_boundedTimeout bounds with ⟨listening, -, -⟩ | ⟨_, now, same, rfl, rfl⟩
  · rw [listening] at paused
    cases paused
  rw [paused] at same
  cases same
  rcases onClock.2.1 with ⟨rfl, -⟩
  rcases Router.runs_wait waits with ⟨tooMany, -, -⟩ | ⟨answer, rfl, answered⟩
  · omega
  refine ⟨answer, rest, whole, ?_⟩
  rcases events with failure | events
  · simp [ends.1]
  · rcases Router.runs_dispatch ends with
      ⟨-, -, drained, draining, drains, ⟨_, -, rfl, -⟩ | ⟨-, rfl, -⟩⟩ | ⟨-, -, acts⟩
    · exact Or.inl (Router.idle_of_woken drains (Or.inl rfl)).1
    · exact Or.inl (Router.idle_of_woken drains (Or.inr rfl)).1
    · exact Or.inr ⟨events, poller, answered.symm, acts⟩

/-- While the listener is not watched, nobody is accepted. -/
theorem Happens.deaf_of_early {opened watched : List Descriptor} {rest : Trace}
    (happens : turn.Happens past) (poised : turn.before.Poised opened watched (turn.trace ++ rest))
    (paused : turn.before.pausedUntil = some deadline) (early : turn.begun < deadline) :
    ∀ exchange ∈ turn.trace, exchange.call.isAccept = false := by
  have disciplined := poised.disciplined.of_append.1
  have reportsWatched := disciplined.reportsWatched
  have reportsAll := disciplined.reportsAll
  rcases happens.parts_of_early paused early poised.room with ⟨answer, rest, whole, ends⟩
  rw [whole] at reportsWatched reportsAll ⊢
  simp only [List.forall_mem_cons] at reportsAll ⊢
  refine ⟨rfl, rfl, rfl, ?_⟩
  rcases ends with idle | ⟨events, poller, answered, acts⟩
  · exact fun exchange exchangeMem => (idle exchange exchangeMem).isAccept
  have waits := Router.wait_of_answer poised.room
    (cutTo (millisecondsLeft deadline turn.begun) turn.timeout) answer
  rw [answered] at waits
  have reported := Router.reported_of_wait (by simpa using reportsAll.2.2.1) waits
  rw [List.flatMap_singleton] at reported
  -- A listener that is not watched is not reported.
  have silent : (turn.before.classify events).listener = false := by
    rw [Router.classify, List.any_eq_false]
    intro event eventMem
    have known := reportsWatched.2.2.1 event (by rw [reported]; exact eventMem)
    simp only [decide_eq_true_eq]
    rintro same
    exact poised.listener_notMem paused (same ▸ known)
  rcases Router.exists_indoors_of_acts acts with ⟨coming, late, entered, rfl, comes, indoors⟩
  rw [silent] at comes
  rcases comes with ⟨rfl, rfl⟩
  have spares := indoors.spares poised.secure.consistent
    (fun client connected => (poised.secure.apart client connected).1) Router.classify_apart
  exact fun exchange exchangeMem => (spares exchange exchangeMem).isAccept

theorem millisecondsLeft_spec {now : Nat} (early : now < deadline)
    (brief : deadline ≤ now + Router.acceptPause) :
    (1 ≤ millisecondsLeft deadline now ∧ millisecondsLeft deadline now ≤ 101)
      ∧ deadline ≤ now + 1000 * millisecondsLeft deadline now
      ∧ now + 1000 * millisecondsLeft deadline now ≤ deadline + 1000 := by
  unfold millisecondsLeft
  unfold Router.acceptPause at brief
  omega

theorem toInt_millisecondsLeft {now : Nat} (few : millisecondsLeft deadline now ≤ 101) :
    (Int32.ofNat ((deadline - now) / 1000)).toInt = ((deadline - now) / 1000 : Nat)
      ∧ (Int32.ofNat ((deadline - now) / 1000) + 1).toInt = millisecondsLeft deadline now := by
  have sum : Int32.ofNat ((deadline - now) / 1000) + 1
      = Int32.ofNat (millisecondsLeft deadline now) := (Int32.ofNat_add _ _).symm
  rw [sum]
  unfold millisecondsLeft at few ⊢
  exact ⟨Int32.toInt_ofNat_of_lt (by omega), Int32.toInt_ofNat_of_lt (by omega)⟩

theorem Happens.waitsOut {later : List TimedTurn} (happens : turn.Happens past)
    (paused : turn.before.pausedUntil = some deadline) (early : turn.begun < deadline)
    (room : turn.before.poller.capacity ≤ Poller.maxCapacity)
    (brief : turn.before.PausesBriefly past)
    (successive : Successive turn.after turn.ended later) :
    turn.WaitsOut deadline (millisecondsLeft deadline turn.begun) later := by
  have near : deadline ≤ turn.begun + Router.acceptPause := by
    have := brief deadline paused
    have := happens.past_le
    omega
  rcases millisecondsLeft_spec early near with ⟨range, reaches⟩
  rcases happens.parts_of_early paused early room with ⟨answer, rest, whole, -⟩
  refine ⟨range, reaches, toInt_millisecondsLeft range.2, ⟨answer, rest, whole⟩, ?_⟩
  intro elapsed next nextMem
  cases later with
  | nil => cases nextMem
  | cons head later =>
    cases nextMem
    rcases successive with ⟨same, happensNext, -⟩
    have stillPaused := happens.pausedUntil_of_early paused early
    rw [← same] at stillPaused
    have := happensNext.past_le
    exact happensNext.resumes stillPaused (by omega)

/-! ### An accept that fails -/

/-- The parts of a turn in which an accept fails: before anybody is let in, until the accept fails,
until the listener is paused, and indoors. -/
structure FailsIn (turn : TimedTurn) (errno : Errno) (opening door closing late : Trace)
    (ready entered : Router) : Prop where
  idle : ∀ exchange ∈ opening, exchange.Idle turn.before.fixtures
  course : Course Router.Stage turn.before opening ready
  registry : ready.registry = turn.before.registry
  comes : ready.acceptClients.Runs
    (door ++ ⟨.accept turn.before.listener.descriptor, .error errno⟩ :: closing) entered
  pauses : ∃ state : Router, state.fixtures = turn.before.fixtures
    ∧ (state.pauseAccept errno).Runs closing entered
  indoors : entered.Indoors (turn.before.classify (opening.flatMap Exchange.reported)) late
    turn.after
  spares : ∀ exchange ∈ late, exchange.Spares turn.before.listener.descriptor

theorem Happens.exists_failsIn {opened : List Descriptor} {errno : Errno} {front back : Trace}
    (happens : turn.Happens past)
    (secure : turn.before.standing.Secure turn.before.fixtures opened)
    (fresh : AcceptsFresh opened turn.trace)
    (reportsAll : ∀ exchange ∈ turn.trace, exchange.ReportsAll)
    (split : turn.trace
      = front ++ ⟨.accept turn.before.listener.descriptor, .error errno⟩ :: back)
    (lasting : errno.isTransient = false) :
    ∃ opening door closing late ready entered, front = opening ++ door ∧ back = closing ++ late
      ∧ turn.FailsIn errno opening door closing late ready entered := by
  have notIdle : ∀ {part : Trace}, (∀ exchange ∈ part, exchange.Idle turn.before.fixtures) →
      ⟨.accept turn.before.listener.descriptor, .error errno⟩ ∉ part :=
    fun idle asked => idle _ asked
  rcases Router.parts_of_turn happens.toTurn with
    ⟨opening, rest, ready, events, whole, course, idle, ⟨registry, -⟩, reported, ends⟩
  rw [whole] at split fresh reportsAll
  rw [acceptsFresh_append] at fresh
  obtain rfl := reported (List.forall_mem_append.mp reportsAll).1
  -- Neither before the listener is looked at nor after that is anybody accepted, so the accept that
  -- fails is one at the door.
  rcases append_eq_append_cons split with ⟨after, rfl, inner⟩ | ⟨_, rfl, -⟩
  swap
  · exact absurd (by simp) (notIdle idle)
  rcases ends with ⟨-, -, idleRest, -⟩ | ⟨-, acts⟩
  · exact absurd (by simp [inner]) (notIdle idleRest)
  rcases Router.exists_indoors_of_acts acts with ⟨coming, late, entered, rfl, comes, indoors⟩
  have stages := (Router.course_of_comes comes).1
  have secureReady := Router.secure_of_stages course secure fresh.1
  have secureEntered :=
    Router.secure_of_stages stages secureReady (acceptsFresh_append.mp fresh.2).1
  have fixturesReady := Router.fixtures_course course
  have fixtures := Router.fixtures_course (course.append stages)
  have listener : entered.listener.descriptor = turn.before.listener.descriptor :=
    congrArg Fixtures.listener fixtures
  have kernel : entered.kernel = turn.before.kernel := congrArg Fixtures.kernel fixtures
  have others := @Router.classify_apart turn.before (opening.flatMap Exchange.reported)
  rw [← listener, ← kernel] at others
  have spares := indoors.spares secureEntered.consistent
    (fun client connected => (secureEntered.apart client connected).1) others
  rw [listener] at spares
  rcases append_eq_append_cons inner with ⟨_, rfl, inLate⟩ | ⟨closing, rfl, rfl⟩
  · have asked : ⟨.accept turn.before.listener.descriptor, .error errno⟩ ∈ late := by simp [inLate]
    exact (spares _ asked).elim
  split at comes
  swap
  · cases (List.append_eq_nil_iff.mp comes.1).2
  rcases Router.rounds_split comes rfl rfl with ⟨state, admits, runs⟩
  have same := Router.fixtures_course (Router.course_of_admits admits)
  have listenerState : state.listener.descriptor = turn.before.listener.descriptor :=
    congrArg Fixtures.listener (same.trans fixturesReady)
  rw [← listenerState] at runs
  exact ⟨opening, after, closing, late, ready, entered, rfl, rfl, idle, course, registry, comes,
    ⟨state, same.trans fixturesReady, Router.pauses_of_failure lasting runs⟩, indoors, spares⟩

namespace FailsIn

variable {errno : Errno} {opening door closing late : Trace} {ready entered : Router}

theorem nobody (fails : turn.FailsIn errno opening door closing late ready entered) :
    ∀ exchange ∈ closing ++ late, exchange.call.isAccept = false := by
  rcases fails.pauses with ⟨state, -, pauses⟩
  rw [List.forall_mem_append]
  exact ⟨fun exchange exchangeMem => (Router.idle_pauseAccept pauses exchange exchangeMem).isAccept,
    fun exchange exchangeMem => (fails.spares exchange exchangeMem).isAccept⟩

/-- If the poller gives the listener up, a pause begins at the time of the failed accept. -/
theorem paused (fails : turn.FailsIn errno opening door closing late ready entered)
    (onClock : OnClock turn.begun turn.ended turn.trace)
    (split : turn.trace = (opening ++ door)
      ++ ⟨.accept turn.before.listener.descriptor, .error errno⟩ :: (closing ++ late))
    (givenUp : ⟨.unwatch turn.before.poller.descriptor turn.before.listener.descriptor, .ok ()⟩
      ∈ closing ++ late) :
    turn.after.pausedUntil = some (turn.clock (opening ++ door) + Router.acceptPause) := by
  have unreported : ∀ (state : Router) (now : Nat),
      ⟨.unwatch turn.before.poller.descriptor turn.before.listener.descriptor, .ok ()⟩
        ∉ state.acceptReport errno now := by
    intro state now
    unfold Router.acceptReport
    split <;> simp
  rcases fails.pauses with ⟨state, -, pauses⟩
  rw [split, onClock_append] at onClock
  rw [fails.indoors.pausedUntil]
  rcases List.mem_append.mp givenUp with inClosing | inLate
  swap
  · exact absurd rfl (fails.spares _ inLate)
  rcases Router.runs_pauseAccept pauses with
    ⟨now, ⟨-, rfl, -⟩ | ⟨-, _ | _, rfl, rfl⟩⟩
  · exact absurd inClosing (by simpa using unreported state now)
  · exact absurd inClosing (by simpa using unreported state now)
  · rcases onClock.2.2.1 with rfl
    rfl

/-- Whoever came in before the accept failed is connected when the turn is over. -/
theorem admitted {opened watched : List Descriptor} {before rest : Trace} {client : ClientId}
    (fails : turn.FailsIn errno opening door closing late ready entered)
    (secure : turn.before.standing.Secure turn.before.fixtures opened)
    (fresh : AcceptsFresh opened (opening ++ (door
      ++ ⟨.accept turn.before.listener.descriptor, .error errno⟩ :: closing)))
    (watching : turn.before.standing.Watched turn.before.fixtures watched)
    (reportsWatched : ReportsWatched turn.before.poller.descriptor watched opening)
    (split : opening ++ door
      = before ++ ⟨.accept turn.before.listener.descriptor, .ok client⟩ :: rest) :
    ∃ answer more,
      rest = ⟨.watch turn.before.poller.descriptor client readable, answer⟩ :: more
        ∧ (answer = .ok () → client ∈ turn.after.registry.ids) := by
  have fixturesReady := Router.fixtures_course fails.course
  have listener : ready.listener.descriptor = turn.before.listener.descriptor :=
    congrArg Fixtures.listener fixturesReady
  have poller : ready.poller.descriptor = turn.before.poller.descriptor :=
    congrArg Fixtures.poller fixturesReady
  have stages := Router.course_of_acceptClients fails.comes
  have fixtures := Router.fixtures_course (fails.course.append stages)
  have kernel : entered.kernel = turn.before.kernel := congrArg Fixtures.kernel fixtures
  rw [acceptsFresh_append] at fresh
  have secureReady := Router.secure_of_stages fails.course secure fresh.1
  rcases append_eq_append_cons split with ⟨part, rfl, rfl⟩ | ⟨_, whole, -⟩
  swap
  · have asked : ⟨.accept turn.before.listener.descriptor, .ok client⟩ ∈ opening := by simp [whole]
    exact (fails.idle _ asked).elim
  have parts : part ++ ⟨.accept turn.before.listener.descriptor, .ok client⟩ :: rest
        ++ ⟨.accept turn.before.listener.descriptor, .error errno⟩ :: closing
      = part ++ ⟨.accept ready.listener.descriptor, .ok client⟩
        :: (rest ++ ⟨.accept turn.before.listener.descriptor, .error errno⟩ :: closing) := by
    simp [listener]
  -- Whoever came in was not connected, so no event of this turn is about it: it stays indoors.
  rcases Router.seat_of_newcomer secureReady fresh.2 fails.comes parts with
    ⟨new, answer, more, offered, seat⟩
  rw [fails.registry] at new
  rw [poller] at offered
  cases rest with
  | nil => cases offered
  | cons first rest =>
    rcases List.cons.inj offered with ⟨rfl, -⟩
    refine ⟨answer, rest, rfl, ?_⟩
    intro taken
    have connected := Router.connected_of_watched watching
      (reported_of_idle fails.idle reportsWatched)
    have stays := fails.indoors.stays (Router.secure_of_stages stages secureReady
      fresh.2).consistent (fun event eventMem => kernel ▸ (Router.classify_apart event eventMem).2)
      (by
        rintro event eventMem rfl
        exact new (connected event eventMem)) (seat taken)
    by_contra absent
    rw [Registry.seat_eq_none absent] at stays
    cases stays

end FailsIn

/-! ### Turns that follow one another -/

variable {router : Router} {earlier later between : List TimedTurn}
  {opened watched : List Descriptor}

/-- Every one of the turns finds the router poised. -/
theorem Successive.split
    (successive : Successive router past (earlier ++ turn :: later))
    (poised : router.Poised opened watched ((earlier ++ turn :: later).flatMap TimedTurn.trace))
    (brief : router.PausesBriefly past) :
    ∃ now openedNow watchedNow, turn.Happens now ∧ turn.before.PausesBriefly now
      ∧ turn.before.Poised openedNow watchedNow (turn.trace ++ later.flatMap TimedTurn.trace)
      ∧ Successive turn.after turn.ended later := by
  induction earlier generalizing router past opened watched with
  | nil =>
    rcases successive with ⟨rfl, happens, following⟩
    exact ⟨past, opened, watched, happens, brief, poised, following⟩
  | cons one earlier ih =>
    rcases successive with ⟨rfl, happens, following⟩
    exact ih following (poised.next happens.toTurn) (happens.pausesBriefly brief)

/-- A pause stays through all turns that begin before its deadline. -/
theorem Successive.resumes (successive : Successive router past (between ++ turn :: later))
    (paused : router.pausedUntil = some deadline) (early : ∀ one ∈ between, one.begun < deadline)
    (elapsed : deadline ≤ turn.begun) : turn.Resumes := by
  induction between generalizing router past with
  | nil =>
    rcases successive with ⟨rfl, happens, -⟩
    exact happens.resumes paused elapsed
  | cons one between ih =>
    rw [List.forall_mem_cons] at early
    rcases successive with ⟨rfl, happens, following⟩
    exact ih following (happens.pausedUntil_of_early paused early.1) early.2

theorem Successive.deaf (successive : Successive router past later)
    (poised : router.Poised opened watched (later.flatMap TimedTurn.trace))
    (held : router.pausedUntil = some deadline ∨ deadline ≤ past) :
    ∀ next ∈ later, ∀ before exchange rest, next.trace = before ++ exchange :: rest →
      exchange.call.isAccept = true → deadline ≤ next.clock before := by
  induction later generalizing router past opened watched with
  | nil => simp
  | cons one later ih =>
    rcases successive with ⟨rfl, happens, following⟩
    have poisedNext := poised.next happens.toTurn
    rw [List.forall_mem_cons]
    rcases Nat.lt_or_ge one.begun deadline with early | elapsed
    · rcases held with paused | expired
      swap
      · have := happens.past_le
        omega
      constructor
      · intro before exchange rest whole accepts
        rw [happens.deaf_of_early poised paused early exchange (by simp [whole])] at accepts
        cases accepts
      · exact ih following poisedNext (Or.inl (happens.pausedUntil_of_early paused early))
    · constructor
      · intro before exchange rest _ _
        exact elapsed.trans (clockAfter_mem happens.begun_le before).1
      · exact ih following poisedNext (Or.inr (elapsed.trans happens.begun_le))

/-- If an accept fails and the poller gives the listener up, the router backs off. -/
theorem Happens.backsOff {errno : Errno} {front back : Trace} (happens : turn.Happens past)
    (poised : turn.before.Poised opened watched
      (turn.trace ++ later.flatMap TimedTurn.trace))
    (following : Successive turn.after turn.ended later)
    (split : turn.trace
      = front ++ ⟨.accept turn.before.listener.descriptor, .error errno⟩ :: back)
    (lasting : errno.isTransient = false)
    (givenUp : ⟨.unwatch turn.before.poller.descriptor turn.before.listener.descriptor, .ok ()⟩
      ∈ back) : turn.BacksOff (turn.clock front) front back later := by
  have disciplined := poised.disciplined.of_append.1
  rcases happens.exists_failsIn poised.secure disciplined.fresh disciplined.reportsAll split
    lasting with
    ⟨opening, door, closing, late, ready, entered, rfl, rfl, fails⟩
  have paused := fails.paused happens.onClock split givenUp
  have parts : turn.trace = opening ++ ((door
      ++ ⟨.accept turn.before.listener.descriptor, .error errno⟩ :: closing) ++ late) := by
    simp [split]
  have fresh := disciplined.fresh
  have reportsWatched := disciplined.reportsWatched
  rw [parts, ← List.append_assoc, acceptsFresh_append] at fresh
  rw [parts, reportsWatched_append] at reportsWatched
  refine ⟨paused, fails.nobody, ?_, ?_, ?_⟩
  · exact following.deaf (poised.next happens.toTurn) (Or.inl paused)
  · intro before client rest cameIn
    exact fails.admitted poised.secure fresh.1 poised.watching reportsWatched.1 cameIn
  · rintro between next rest rfl early elapsed
    exact following.resumes paused early elapsed

end TimedTurn

namespace Router

open Program TimedTurn

/-- If an accept fails at some time and the poller gives the listener up, nobody is accepted for a
tenth of a second. All who came in before stay, and the first turn that begins afterwards asks the
poller to watch the listener again. As long as the pause lasts, a turn waits until its end at most,
rounded up to a millisecond. -/
theorem backs_off {listener : Listener} {kernel : Descriptor} {options : RouterOptions}
    {created : Trace} {start : Router} {begun : Nat} {turns : List TimedTurn}
    (puts : (create listener kernel options).run.Runs created (.ok start))
    (successive : Successive start begun turns)
    (disciplined : Disciplined start.poller.descriptor [listener.descriptor, kernel] []
      (created ++ turns.flatMap TimedTurn.trace)) :
    ∀ earlier turn later, turns = earlier ++ turn :: later →
      (∀ front errno back,
        turn.trace = front ++ ⟨.accept turn.before.listener.descriptor, .error errno⟩ :: back →
        errno.isTransient = false →
        ⟨.unwatch turn.before.poller.descriptor turn.before.listener.descriptor, .ok ()⟩ ∈ back →
          turn.BacksOff (turn.clock front) front back later)
      ∧ ∀ deadline, turn.before.pausedUntil = some deadline →
        (turn.begun < deadline → ∃ left, turn.WaitsOut deadline left later)
          ∧ (deadline ≤ turn.begun → turn.Resumes) := by
  rintro earlier turn later rfl
  have brief : start.PausesBriefly begun := by
    rcases runs_create puts with ⟨_, _, -, rfl⟩
    exact nofun
  rcases successive.split (poised_create puts disciplined) brief with
    ⟨now, opened, watched, happens, briefNow, poised, following⟩
  constructor
  · intro front errno back split lasting givenUp
    exact happens.backsOff poised following split lasting givenUp
  · intro deadline paused
    exact ⟨fun early => ⟨_, happens.waitsOut paused early poised.room briefNow following⟩,
      happens.resumes paused⟩

/-! ### A pause from its beginning to its end -/

def timed (router : Router) (begun ended : Nat) (script : Script)
    (ends : ((router.pollOnce (-1)).rehearse (clockwork begun ended script) 8).1.isSome) :
    TimedTurn where
  before := router
  timeout := -1
  begun := begun
  ended := ended
  trace := ((router.pollOnce (-1)).rehearse (clockwork begun ended script) 8).2
  outcome := (((router.pollOnce (-1)).rehearse (clockwork begun ended script) 8).1.get ends).1
  after := (((router.pollOnce (-1)).rehearse (clockwork begun ended script) 8).1.get ends).2

theorem happens_timed {router : Router} {begun ended past : Nat} {script : Script}
    {ends : ((router.pollOnce (-1)).rehearse (clockwork begun ended script) 8).1.isSome}
    (past_le : past ≤ begun) (begun_le : begun ≤ ended) :
    (timed router begun ended script ends).Happens past :=
  ⟨runs_rehearse ends, past_le, begun_le, onClock_of_scripted (performs_rehearse ends).2⟩

/-- While nobody comes and nothing is ready, every turn ends. -/
theorem hosting_ends (router : Router) (begun ended : Nat) :
    ((router.pollOnce (-1)).rehearse (clockwork begun ended (hosting [] [] [])) 8).1.isSome := by
  refine pollOnce_ends ?_ (by decide : 0 < 8) router (-1)
  intro past call _
  cases call <;> rfl

theorem clockwork_crowding_ends :
    ((vacant.pollOnce (-1)).rehearse (clockwork 500 700 crowding) 8).1.isSome := by
  decide +kernel

/-- After two clients were accepted, one of which could be watched, an accept fails. -/
def crowdedTurn : TimedTurn := timed vacant 500 700 crowding clockwork_crowding_ends

/-- Nothing happens until all the time is over that the turn may wait. -/
def waitingTurn : TimedTurn :=
  timed crowdedTurn.after 700 101700 (hosting [] [] []) (hosting_ends ..)

def resumingTurn : TimedTurn :=
  timed waitingTurn.after 101700 101800 (hosting [] [] []) (hosting_ends ..)

theorem successive_crowding :
    Successive vacant 0 [crowdedTurn, waitingTurn, resumingTurn] :=
  ⟨rfl, happens_timed (by decide) (by decide), rfl, happens_timed (by decide) (by decide), rfl,
    happens_timed (by decide) (by decide), trivial⟩

def isExhausted : Exchange → Bool
  | ⟨.accept socket, .error errno⟩ => socket = ⟨3⟩ ∧ errno = ⟨24⟩
  | _ => false

def givesUp : Exchange → Bool
  | ⟨.unwatch source target, .ok _⟩ => source = ⟨5⟩ ∧ target = ⟨3⟩
  | _ => false

theorem eq_of_isExhausted {exchange : Exchange} (exhausted : isExhausted exchange = true) :
    exchange = ⟨.accept ⟨3⟩, .error ⟨24⟩⟩ := by
  unfold isExhausted at exhausted
  split at exhausted
  · simp_all
  · cases exhausted

theorem eq_of_givesUp {exchange : Exchange} (givesUp : givesUp exchange = true) :
    exchange = ⟨.unwatch ⟨5⟩ ⟨3⟩, .ok ()⟩ := by
  unfold Router.givesUp at givesUp
  split at givesUp
  · simp_all
  · cases givesUp

theorem exists_eq_append_of_any {kind : Exchange → Bool} {whole : Trace} {position : Nat}
    (found : whole[position]?.any kind = true) :
    ∃ exchange, kind exchange = true
      ∧ whole = whole.take position ++ exchange :: whole.drop (position + 1) := by
  rcases entry : whole[position]? with _ | exchange
  · rw [entry] at found
    cases found
  · rw [entry] at found
    rcases List.getElem?_eq_some_iff.mp entry with ⟨inside, same⟩
    refine ⟨exchange, found, ?_⟩
    rw [← same, ← List.drop_eq_getElem_cons inside, List.take_append_drop]

theorem crowdedTurn_exhausted :
    crowdedTurn.trace[8]?.any isExhausted = true
      ∧ (crowdedTurn.trace.drop 9).any givesUp = true
      ∧ crowdedTurn.clock (crowdedTurn.trace.take 8) = 700
      ∧ crowdedTurn.after.registry.ids = [⟨7⟩] := by
  decide +kernel

theorem disciplined_crowding : Disciplined ⟨5⟩ [⟨3⟩, ⟨4⟩] [] (assembly ⟨3⟩ ⟨4⟩ ⟨5⟩ ⟨6⟩
    ++ [crowdedTurn, waitingTurn, resumingTurn].flatMap TimedTurn.trace) :=
  ⟨by decide +kernel, by decide +kernel, by decide +kernel, by decide +kernel⟩

/-- The pause begins after 0.7 ms, one of the two clients stays, the next turn waits for as long as
the pause lasts, and the one after it resumes. -/
theorem backs_off_of_crowding :
    (∃ front errno back,
        crowdedTurn.trace = front ++ ⟨.accept ⟨3⟩, .error errno⟩ :: back
          ∧ crowdedTurn.BacksOff 700 front back [waitingTurn, resumingTurn])
      ∧ crowdedTurn.after.registry.ids = [⟨7⟩]
      ∧ (∃ left, waitingTurn.WaitsOut 100700 left [resumingTurn])
      ∧ resumingTurn.Resumes := by
  rcases crowdedTurn_exhausted with ⟨exhausted, gaveUp, clock, ids⟩
  rcases exists_eq_append_of_any exhausted with ⟨_, isFailure, split⟩
  rcases eq_of_isExhausted isFailure with rfl
  rcases List.any_eq_true.mp gaveUp with ⟨_, givenUp, isGivenUp⟩
  rcases eq_of_givesUp isGivenUp with rfl
  have each := backs_off creates_vacant successive_crowding disciplined_crowding
  have backsOff := (each [] crowdedTurn _ rfl).1 _ ⟨24⟩ _ split rfl givenUp
  rw [clock] at backsOff
  have waits := (each [crowdedTurn] waitingTurn _ rfl).2 100700 backsOff.paused
  have resumes := backsOff.resumes [waitingTurn] resumingTurn [] rfl (by simp [waitingTurn, timed,
    acceptPause]) (by decide)
  exact ⟨⟨_, _, _, split, backsOff⟩, ids, waits.1 (by decide), resumes⟩

end Router

end RadioRelay
