import RadioRelay.Proofs.Router.Laps
import RadioRelay.Proofs.Router.Reports

/-!
# Who is let in, and what follows indoors

A turn lets in whoever waits, one after the other, until nobody waits any more or an
accept fails. Where somebody is accepted, another round begins (`Router.rounds_split`).
Afterwards the turn leaves the listener alone, and whoever has just come in stays:
nobody sends anything to a newcomer, and nothing is read from it.
-/

namespace RadioRelay

/-! ### The listener -/

def Call.isAccept : Call → Bool
  | .accept _ => true
  | _ => false

/-- The call leaves the listener alone: nobody is accepted, and it stays watched or unwatched. -/
def Exchange.Spares (listener : Descriptor) (exchange : Exchange) : Prop :=
  match exchange.call with
  | .accept _ => False
  | .watch _ target _ | .unwatch _ target => target ≠ listener
  | _ => True

section Listening

variable {exchange : Exchange} {listener client : Descriptor} {fixed : Fixtures}

theorem Exchange.Spares.isAccept (spares : exchange.Spares listener) :
    exchange.call.isAccept = false := by
  rcases exchange with ⟨call, answer⟩
  cases call with
  | accept => cases spares
  | _ => rfl

theorem Exchange.Idle.isAccept (idle : exchange.Idle fixed) : exchange.call.isAccept = false := by
  rcases exchange with ⟨call, answer⟩
  cases call with
  | accept => cases idle
  | _ => rfl

theorem Exchange.Serves.spares (serves : exchange.Serves client) (other : client ≠ listener) :
    exchange.Spares listener := by
  rcases exchange with ⟨call, answer⟩
  cases call with
  | unwatch => exact serves ▸ other
  | receive | send | close | log => trivial
  | _ => cases serves

end Listening

namespace Router

open Program

variable {router after : Router} {trace : Trace} {client : ClientId}

/-! ### What accepting does to the pause -/

theorem pausedUntil_welcome {connection : Connection}
    (runs : (router.welcome connection).Runs trace after) :
    after.pausedUntil = router.pausedUntil := by
  rcases runs_welcome runs with ⟨_, -, rfl⟩ | ⟨_, -, -, rfl⟩
  all_goals rfl

/-- The pause stays as it was, or a pause begins at the time that the trace shows. -/
def PausedIn (router : Router) (trace : Trace) (after : Router) : Prop :=
  after.pausedUntil = router.pausedUntil
    ∨ (router.pausedUntil = none ∧ ∃ now : Nat, ⟨.currentTime, now⟩ ∈ trace
      ∧ after.pausedUntil = some (now + acceptPause))

theorem pausedIn_acceptClients (runs : router.acceptClients.Runs trace after) :
    router.PausedIn trace after := by
  have rounds := runs_acceptClients runs
  clear runs
  induction rounds with
  | last ends =>
    rcases runs_acceptOnce ends with
      ⟨_, -, -, same⟩ | ⟨_, rest, _, -, rfl, pauses, same⟩ | ⟨_, _, _, -, -, same⟩
    · cases same
      exact Or.inl rfl
    · cases same
      rcases runs_pauseAccept pauses with ⟨now, ⟨-, -, rfl⟩ | ⟨listening, _ | _, rfl, rfl⟩⟩
      · exact Or.inl rfl
      · exact Or.inl listening.symm
      · exact Or.inr ⟨listening, now, by simp, rfl⟩
    · cases same
  | again goesOn _ ih =>
    rcases runs_acceptOnce goesOn with
      ⟨_, -, -, same⟩ | ⟨_, _, _, -, -, -, same⟩ | ⟨_, rest, _, rfl, welcomes, same⟩
    · cases same
    · cases same
    · cases same
      rw [PausedIn, pausedUntil_welcome welcomes] at ih
      refine ih.imp_right ?_
      rintro ⟨listening, now, asked, paused⟩
      exact ⟨listening, now, List.mem_append_right _ asked, paused⟩

/-! ### Once nobody else is let in -/

/-- A datagram is forwarded, and ready clients are served. -/
def Indoors (router : Router) (batch : Batch) (trace : Trace) (after : Router) : Prop :=
  ∃ hearing serving heard, trace = hearing ++ serving
    ∧ (if batch.kernel then router.handleKernel.Runs hearing heard
        else hearing = [] ∧ heard = router)
    ∧ (heard.serveClients batch.clients).Runs serving after

theorem exists_indoors_of_acts {batch : Batch} (acts : router.Acts batch trace after) :
    ∃ coming late entered, trace = coming ++ late
      ∧ (if batch.listener then router.acceptClients.Runs coming entered
          else coming = [] ∧ entered = router)
      ∧ entered.Indoors batch late after := by
  rcases acts with ⟨coming, hearing, serving, entered, heard, rfl, comes, hears, serves⟩
  exact ⟨coming, _, entered, rfl, comes, hearing, serving, heard, rfl, hears, serves⟩

theorem Indoors.setting_eq {batch : Batch} (indoors : router.Indoors batch trace after) :
    after.setting = router.setting := by
  rcases indoors with ⟨hearing, serving, heard, rfl, hears, serves⟩
  refine (setting_serveClients serves).trans ?_
  split at hears
  · exact setting_handleKernel hears
  · rw [hears.2]

theorem Indoors.pausedUntil {batch : Batch} (indoors : router.Indoors batch trace after) :
    after.pausedUntil = router.pausedUntil :=
  congrArg Setting.pausedUntil indoors.setting_eq

theorem spares_handleKernel (consistent : router.standing.Consistent)
    (apart : ∀ client ∈ router.registry.ids, client ≠ router.listener.descriptor)
    (runs : router.handleKernel.Runs trace after) :
    ∀ exchange ∈ trace, exchange.Spares router.listener.descriptor := by
  have logged : ∀ {notices : Trace},
      (∀ exchange ∈ notices, ∃ notice, exchange = ⟨.log notice, ()⟩) →
        ∀ exchange ∈ notices, exchange.Spares router.listener.descriptor := by
    intro notices each exchange exchangeMem
    rcases each exchange exchangeMem with ⟨notice, rfl⟩
    trivial
  rcases runs_handleKernel runs with
    ⟨_, _, rfl, notices, -⟩ | ⟨_, _, rfl, ⟨-, notices, -⟩ | ⟨_, -, forwards⟩⟩
  all_goals
    rw [List.forall_mem_cons]
    refine ⟨trivial, ?_⟩
  · exact logged notices
  · exact logged notices
  · intro exchange exchangeMem
    rcases tends_forward consistent forwards exchange exchangeMem with ⟨client, connected, tends⟩
    exact tends.serves.spares (apart client connected)

theorem classify_apart {events : List Readiness} :
    ∀ event ∈ (router.classify events).clients,
      event.descriptor ≠ router.listener.descriptor ∧ event.descriptor ≠ router.kernel := by
  intro event eventMem
  have sorted := (List.mem_filter.mp eventMem).2
  simp only [decide_eq_true_eq] at sorted
  exact sorted.2

theorem Indoors.spares {batch : Batch} (indoors : router.Indoors batch trace after)
    (consistent : router.standing.Consistent)
    (apart : ∀ client ∈ router.registry.ids, client ≠ router.listener.descriptor)
    (others : ∀ event ∈ batch.clients, event.descriptor ≠ router.listener.descriptor
      ∧ event.descriptor ≠ router.kernel) :
    ∀ exchange ∈ trace, exchange.Spares router.listener.descriptor := by
  rcases indoors with ⟨hearing, serving, heard, rfl, hears, serves⟩
  have course := (course_of_hears hears).1
  have kernel : heard.kernel = router.kernel := congrArg Fixtures.kernel (fixtures_course course)
  have served := serves_of_serveClients (moves_of_course course consistent).1
    (fun event eventMem => kernel ▸ (others event eventMem).2) serves
  rw [List.forall_mem_append]
  constructor
  · split at hears
    · exact spares_handleKernel consistent apart hears
    · simp [hears.1]
  · intro exchange exchangeMem
    rcases served exchange exchangeMem with ⟨event, eventMem, servesNow⟩
    exact servesNow.spares (others event eventMem).1

theorem pausedIn_of_acts {batch : Batch} (acts : router.Acts batch trace after) :
    router.PausedIn trace after := by
  rcases exists_indoors_of_acts acts with ⟨coming, late, entered, rfl, comes, indoors⟩
  rw [PausedIn, indoors.pausedUntil]
  split at comes
  · refine (pausedIn_acceptClients comes).imp_right ?_
    rintro ⟨listening, now, asked, paused⟩
    exact ⟨listening, now, List.mem_append_left _ asked, paused⟩
  · rw [comes.2]
    exact Or.inl rfl

/-! ### One round after the other -/

/-- A round in which somebody is accepted, so that another one follows. -/
def Admits (router : Router) (trace : Trace) (next : Router) : Prop :=
  router.acceptOnce.Runs trace (.inl next)

theorem exists_welcome_of_admits (admits : router.Admits trace after) :
    ∃ number rest, trace = ⟨.accept router.listener.descriptor, .ok number⟩ :: rest
      ∧ (router.welcome ⟨number⟩).Runs rest after := by
  rcases runs_acceptOnce admits with
    ⟨_, -, -, same⟩ | ⟨_, _, _, -, -, -, same⟩ | ⟨number, rest, _, rfl, welcomes, same⟩
  · cases same
  · cases same
  · cases same
    exact ⟨number, rest, rfl, welcomes⟩

theorem Admits.stage (admits : router.Admits trace after) : Stage router trace after := by
  rcases exists_welcome_of_admits admits with ⟨number, rest, rfl, welcomes⟩
  have accepts : router.listener.accept.Runs
      [⟨.accept router.listener.descriptor, .ok number⟩] (.ok (some ⟨number⟩)) :=
    runs_accept.mpr (Or.inl ⟨number, rfl, rfl⟩)
  exact .welcomes accepts welcomes

theorem course_of_admits (course : Course Admits router trace after) :
    Course Stage router trace after := by
  induction course with
  | start => exact .start
  | next _ admits ih => exact ih.next admits.stage

/-- A round begins with an accept, and there is no other one in it. -/
theorem eq_nil_of_acceptOnce {outcome : Router ⊕ Router} {front back : Trace}
    {accepting : Exchange} (runs : router.acceptOnce.Runs trace outcome)
    (split : trace = front ++ accepting :: back) (accepts : accepting.call.isAccept = true) :
    front = [] := by
  have only : ∃ first rest, trace = first :: rest
      ∧ ∀ exchange ∈ rest, exchange.call.isAccept = false := by
    rcases runs_acceptOnce runs with
      ⟨_, -, rfl, -⟩ | ⟨_, rest, _, -, rfl, pauses, -⟩ | ⟨_, rest, _, rfl, welcomes, -⟩
    · exact ⟨_, [], rfl, by simp⟩
    · exact ⟨_, rest, rfl, fun exchange exchangeMem =>
        (idle_pauseAccept pauses exchange exchangeMem).isAccept⟩
    · refine ⟨_, rest, rfl, ?_⟩
      rcases runs_welcome welcomes with ⟨_, rfl, -⟩ | ⟨_, rfl, rfl, -⟩
      · simp [Call.isAccept]
      · split <;> simp [Call.isAccept]
  rcases only with ⟨first, rest, rfl, none⟩
  cases front with
  | nil => rfl
  | cons head front =>
    rcases List.cons.inj split with ⟨-, rfl⟩
    rw [none accepting (by simp)] at accepts
    cases accepts

/-- What follows on an accept is what a router does that begins with it. -/
theorem rounds_split {front back : Trace} {accepting : Exchange}
    (runs : router.acceptClients.Runs trace after) (split : trace = front ++ accepting :: back)
    (accepts : accepting.call.isAccept = true) :
    ∃ state, Course Admits router front state
      ∧ state.acceptClients.Runs (accepting :: back) after := by
  have rounds := runs_acceptClients runs
  clear runs
  induction rounds generalizing front back with
  | @last state trace result ends =>
    rcases eq_nil_of_acceptOnce ends split accepts with rfl
    subst split
    exact ⟨state, .start, runs_repeatUntil.mpr (.last ends)⟩
  | @again state next part later result goesOn others ih =>
    rcases append_eq_append_cons split with ⟨rest, rfl, inner⟩ | ⟨rest, inner, rfl⟩
    · rcases ih inner with ⟨last, course, runs⟩
      exact ⟨last, (Course.single goesOn).append course, runs⟩
    · rcases eq_nil_of_acceptOnce goesOn inner accepts with rfl
      rw [List.nil_append] at split
      rw [← split]
      exact ⟨state, .start, runs_repeatUntil.mpr (.again goesOn others)⟩

/-- A failed accept is the last one. -/
theorem pauses_of_failure {errno : Errno} {back : Trace} (lasting : errno.isTransient = false)
    (runs : router.acceptClients.Runs
      (⟨.accept router.listener.descriptor, .error errno⟩ :: back) after) :
    (router.pauseAccept errno).Runs back after := by
  generalize whole : (⟨.accept router.listener.descriptor, .error errno⟩ :: back : Trace) = trace
    at runs
  cases runs_acceptClients runs with
  | last ends =>
    rcases runs_acceptOnce ends with
      ⟨_, transient, rfl, -⟩ | ⟨_, rest, last, -, rfl, pauses, same⟩ | ⟨_, _, _, -, -, same⟩
    · cases whole
      rw [transient] at lasting
      cases lasting
    · cases whole
      cases same
      exact pauses
    · cases same
  | again goesOn _ =>
    rcases exists_welcome_of_admits goesOn with ⟨_, _, rfl, -⟩
    cases whole

/-! ### Newcomers -/

theorem mem_ids_of_admits (course : Course Admits router trace after)
    (connected : client ∈ router.registry.ids) : client ∈ after.registry.ids := by
  refine @Course.preserves _ _ _ _ _ (fun state => client ∈ state.registry.ids) course ?_ connected
  intro state trace next connected admits
  rcases exists_welcome_of_admits admits with ⟨number, rest, -, welcomes⟩
  rcases runs_welcome welcomes with ⟨_, -, rfl⟩ | ⟨_, -, -, rfl⟩
  · exact connected
  · rw [Registry.ids_add]
    split
    · exact connected
    · exact List.mem_append_left _ connected

theorem seat_of_acceptClients {opened : List Descriptor}
    (secure : router.standing.Secure router.fixtures opened) (fresh : AcceptsFresh opened trace)
    (connected : client ∈ router.registry.ids) (runs : router.acceptClients.Runs trace after) :
    after.registry.seat client = router.registry.seat client := by
  have rounds := runs_acceptClients runs
  clear runs
  induction rounds generalizing opened with
  | last ends =>
    rcases runs_acceptOnce ends with
      ⟨_, -, -, same⟩ | ⟨_, _, _, -, -, pauses, same⟩ | ⟨_, _, _, -, -, same⟩
    · cases same
      rfl
    · cases same
      rcases runs_pauseAccept pauses with ⟨_, ⟨-, -, rfl⟩ | ⟨-, _, -, rfl⟩⟩
      all_goals rfl
    · cases same
  | @again state next _ _ _ goesOn _ ih =>
    rcases exists_welcome_of_admits goesOn with ⟨number, rest, rfl, welcomes⟩
    rw [acceptsFresh_append] at fresh
    have absent : number ∉ state.registry.ids := secure.absent fresh.1.not_mem
    have other : client ≠ number := by
      rintro rfl
      exact absent connected
    refine (ih (secure_of_welcome secure fresh.1 welcomes).2 fresh.2
      (mem_ids_of_admits (.single goesOn) connected)).trans ?_
    rcases runs_welcome welcomes with ⟨_, -, rfl⟩ | ⟨_, -, -, rfl⟩
    · rfl
    · exact seat_add_of_ne absent other

/-- Whoever is accepted was not connected, and is watched from now on. If that succeeds the
newcomer is connected in the end, and does not subscribe to anything yet. -/
theorem seat_of_newcomer {opened : List Descriptor} {front back : Trace}
    (secure : router.standing.Secure router.fixtures opened) (fresh : AcceptsFresh opened trace)
    (runs : router.acceptClients.Runs trace after)
    (split : trace = front ++ ⟨.accept router.listener.descriptor, .ok client⟩ :: back) :
    client ∉ router.registry.ids ∧ ∃ answer rest,
      back = ⟨.watch router.poller.descriptor client readable, answer⟩ :: rest
        ∧ (answer = .ok () → after.registry.seat client = some ∅) := by
  rcases rounds_split runs split rfl with ⟨state, course, runs⟩
  have stages := course_of_admits course
  have fixtures := fixtures_course stages
  have listener : state.listener.descriptor = router.listener.descriptor :=
    congrArg Fixtures.listener fixtures
  have poller : state.poller.descriptor = router.poller.descriptor :=
    congrArg Fixtures.poller fixtures
  rw [split, acceptsFresh_append] at fresh
  have secureNow := secure_of_stages stages secure fresh.1
  have absent : client ∉ state.registry.ids := secureNow.absent fresh.2.not_mem
  refine ⟨fun connected => absent (mem_ids_of_admits course connected), ?_⟩
  rw [← listener] at fresh runs
  generalize whole : (⟨.accept state.listener.descriptor, .ok client⟩ :: back : Trace) = trace
    at runs fresh
  -- The newcomer is taken in by the next round, and later rounds leave it alone.
  cases runs_acceptClients runs with
  | last ends =>
    rcases runs_acceptOnce ends with
      ⟨_, -, rfl, -⟩ | ⟨_, _, _, -, rfl, -, -⟩ | ⟨_, _, _, -, -, same⟩
    all_goals cases whole
    cases same
  | @again _ next _ later _ goesOn others =>
    rcases exists_welcome_of_admits goesOn with ⟨number, rest, rfl, welcomes⟩
    rcases List.cons.inj whole with ⟨same, rfl⟩
    cases same
    rw [← poller]
    rcases runs_welcome welcomes with ⟨errno, rfl, rfl⟩ | ⟨closing, rfl, -, rfl⟩
    · exact ⟨_, _, rfl, nofun⟩
    · refine ⟨_, _, rfl, fun _ => ?_⟩
      rw [acceptsFresh_append] at fresh
      have secureNext := secure_of_welcome secureNow fresh.2.1 welcomes
      have joined : client ∈ (state.registry.add client ⟨client⟩).2.ids := by
        simp [Registry.ids_add, absent]
      refine (seat_of_acceptClients secureNext.2 fresh.2.2 joined
        (runs_repeatUntil.mpr others)).trans ?_
      exact seat_add secureNow.consistent.sound absent

/-- No frame concerns a client that does not subscribe to anything. -/
theorem seat_of_handleKernel (consistent : router.standing.Consistent)
    (unsubscribed : router.registry.seat client = some ∅)
    (runs : router.handleKernel.Runs trace after) : after.registry.seat client = some ∅ := by
  have untouched : ∀ (received : Received) (message : Bytes)
      (sendings : List (ClientId × Attempt Nat)), client ∉ sendings.map (·.1) →
        ((router.withDatagram received).withSent message sendings).registry.seat client
          = some ∅ := by
    intro received message sendings unaddressed
    have took : client ∉ failing message sendings :=
      fun failed => unaddressed ((failing_sublist message sendings).subset failed)
    rw [seat_withSent consistent.sound, if_neg took, unsubscribed]
  rcases forwarded_of_runs consistent runs with ⟨errno | received, rest, -, forwarded⟩
  · rw [forwarded.2]
    exact unsubscribed
  · simp only [Forwarded] at forwarded
    split at forwarded
    · rw [forwarded.2]
      exact unsubscribed
    · split at forwarded
      · rw [forwarded.2]
        exact untouched _ _ _ (by simp)
      · rcases forwarded with ⟨sendings, addressed, -, rfl⟩
        refine untouched _ _ _ ?_
        rw [addressed]
        intro subscribed
        have connected : client ∈ router.registry.ids :=
          consistent.sound.mem_ids_of_mem_subscribers subscribed
        rw [Registry.seat_eq_some connected] at unsubscribed
        have member := Set.eq_empty_iff_forall_notMem.mp (Option.some.inj unsubscribed)
        exact member _ subscribed

theorem seat_of_serveClients {events : List Readiness} (consistent : router.standing.Consistent)
    (others : ∀ event ∈ events, event.descriptor ≠ router.kernel)
    (silent : ∀ event ∈ events, event.descriptor ≠ client)
    (runs : (router.serveClients events).Runs trace after) :
    after.registry.seat client = router.registry.seat client := by
  induction events generalizing router trace with
  | nil =>
    rcases runs with ⟨-, rfl⟩
    rfl
  | cons event events ih =>
    rw [List.forall_mem_cons] at silent
    rcases runs_serveClients_cons consistent others runs with
      ⟨_, _, middle, -, serves, later, consistentNow, -, othersNow⟩
    refine (ih consistentNow othersNow silent.2 later).trans ?_
    exact (confined_of_serveOne consistent serves).others.seat (Ne.symm silent.1)

theorem Indoors.stays {batch : Batch} (indoors : router.Indoors batch trace after)
    (consistent : router.standing.Consistent)
    (others : ∀ event ∈ batch.clients, event.descriptor ≠ router.kernel)
    (silent : ∀ event ∈ batch.clients, event.descriptor ≠ client)
    (newcomer : router.registry.seat client = some ∅) : after.registry.seat client = some ∅ := by
  rcases indoors with ⟨hearing, serving, heard, rfl, hears, serves⟩
  have course := (course_of_hears hears).1
  have kernel : heard.kernel = router.kernel := congrArg Fixtures.kernel (fixtures_course course)
  rw [seat_of_serveClients (moves_of_course course consistent).1 (kernel ▸ others) silent serves]
  split at hears
  · exact seat_of_handleKernel consistent newcomer hears
  · rw [hears.2]
    exact newcomer

end Router

end RadioRelay
