import RadioRelay.Proofs.Router.Moves

/-!
# From stages to moves

A turn of the loop goes through stages, each a call of one of the router's
functions. Every stage is a course of moves (`Router.Stage.moves`).
-/

namespace RadioRelay.Router

open Program

/-- A part of a turn of the loop. -/
inductive Stage : Router → Trace → Router → Prop
  | resumes {router after : Router} {trace : Trace}
    (runs : router.resumeAccept.Runs trace (.ok after)) : Stage router trace after
  | failsToResume {router : Router} {trace : Trace} {failure : Failure}
    (runs : router.resumeAccept.Runs trace (.error failure)) : Stage router trace router
  | bounds {router : Router} {trace : Trace} {timeout bounded : Int}
    (runs : (router.boundedTimeout timeout).Runs trace bounded) : Stage router trace router
  | waits {router : Router} {trace : Trace} {timeout : Int}
    {events : Except Failure (List Readiness)} {poller : Poller}
    (runs : (router.poller.wait timeout).Runs trace (events, poller)) :
    Stage router trace { router with poller := poller }
  | wakes {router : Router} {trace : Trace} {outcome : Attempt Unit}
    (runs : router.wake.drain.Runs trace outcome) : Stage router trace router
  | stops {router : Router} : Stage router [⟨.log .shutdownRequested, ()⟩] router
  | findsNobody {router : Router} {trace : Trace}
    (runs : router.listener.accept.Runs trace (.ok none)) : Stage router trace router
  | welcomes {router after : Router} {early late : Trace} {connection : Connection}
    (accepts : router.listener.accept.Runs early (.ok (some connection)))
    (runs : (router.welcome connection).Runs late after) : Stage router (early ++ late) after
  | failsToAccept {router after : Router} {early late : Trace} (errno : Errno)
    (fails : router.listener.accept.Runs early (.error errno))
    (runs : (router.pauseAccept errno).Runs late after) : Stage router (early ++ late) after
  | hears {router after : Router} {trace : Trace}
    (runs : router.handleKernel.Runs trace after) : Stage router trace after
  | serves {router after : Router} {trace : Trace} {client : ClientId}
    (connected : router.registry.contains client) (other : client ≠ router.kernel)
    (runs : (router.handleClient client).Runs trace after) : Stage router trace after
  | hangsUp {router after : Router} {trace : Trace} {client : ClientId}
    (connected : router.registry.contains client)
    (runs : (router.removeClient client .hangUp).Runs trace after) : Stage router trace after

variable {router after : Router} {trace : Trace} {client : ClientId}

/-! ### What stays the same -/

/-- What a router leaves as it is while it serves: not its registry, what its buffers hold and the
counters of its clients and frames. -/
structure Setting where
  fixtures : Fixtures
  poller : Poller
  listener : Listener
  pausedUntil : Option Nat
  lastAcceptNotice : Option Nat
  acceptErrors : Nat

def setting (router : Router) : Setting where
  fixtures := router.fixtures
  poller := router.poller
  listener := router.listener
  pausedUntil := router.pausedUntil
  lastAcceptNotice := router.lastAcceptNotice
  acceptErrors := router.statistics.acceptErrors

theorem setting_removeClient {reason : RemovalReason}
    (runs : (router.removeClient client reason).Runs trace after) :
    after.setting = router.setting := by
  rcases runs_removeClient runs with ⟨-, -, rfl⟩ | ⟨_, _, -, -, rfl⟩
  all_goals rfl

theorem setting_handleClient (connected : router.registry.contains client)
    (runs : (router.handleClient client).Runs trace after) : after.setting = router.setting := by
  rcases Option.isSome_iff_exists.mp connected with ⟨connection, found⟩
  rcases runs_handleClient found runs with
    ⟨_, _, -, ⟨-, -, rfl⟩ | ⟨-, _, removes⟩⟩
      | ⟨received, _, -, ⟨-, _, removes⟩ | ⟨-, -, _, removes⟩ | ⟨-, bytes, -, answers⟩⟩
  · rfl
  · exact setting_removeClient removes
  · exact (setting_removeClient removes).trans rfl
  · exact (setting_removeClient removes).trans rfl
  · have stillFound : (router.withMessage received).registry.get? client = some connection := found
    rcases runs_answer stillFound answers with
      ⟨_, _, -, removes⟩ | ⟨_, _, _, -, -, ⟨-, -, rfl⟩ | ⟨-, _, removes⟩⟩
    · exact (setting_removeClient removes).trans rfl
    · rfl
    · exact (setting_removeClient removes).trans rfl

theorem setting_serveClients {events : List Readiness}
    (runs : (router.serveClients events).Runs trace after) : after.setting = router.setting := by
  induction events generalizing router trace with
  | nil =>
    rcases runs with ⟨-, rfl⟩
    rfl
  | cons event events ih =>
    rw [serveClients_cons] at runs
    rcases runs_bind.mp runs with ⟨_, _, middle, -, serves, later⟩
    refine (ih later).trans ?_
    rcases runs_serveOne serves with ⟨connected, -, handles⟩ | ⟨-, -, -, hangsUp⟩ | ⟨-, -, rfl⟩
    · exact setting_handleClient connected handles
    · exact setting_removeClient hangsUp
    · rfl

theorem setting_handleKernel (runs : router.handleKernel.Runs trace after) :
    after.setting = router.setting := by
  rcases runs_handleKernel runs with
    ⟨_, _, -, -, rfl⟩ | ⟨_, _, -, ⟨-, -, rfl⟩ | ⟨_, -, forwards⟩⟩
  · rfl
  · rfl
  · rcases runs_forward forwards with ⟨_, _, _, _, -, -, retires⟩
    rcases runs_retireAll retires with ⟨_, -, -, rfl⟩
    rfl

/-- The fixtures of a router, and how many events it waits for at once. -/
def steady (router : Router) : Fixtures × Nat := (router.fixtures, router.poller.capacity)

theorem steady_of_setting (same : after.setting = router.setting) :
    after.steady = router.steady :=
  congrArg (fun setting : Setting => (setting.fixtures, setting.poller.capacity)) same

theorem Stage.steady_eq (stage : Stage router trace after) : after.steady = router.steady := by
  cases stage with
  | resumes runs =>
    rcases runs_resumeAccept runs with
      ⟨-, -, same⟩ | ⟨_, _, -, ⟨-, -, same⟩ | ⟨-, _ | _, -, same⟩⟩
    all_goals cases same
    all_goals rfl
  | failsToResume | bounds | wakes | stops | findsNobody => rfl
  | waits runs => simp [steady, fixtures, (kept_of_wait runs).2]
  | welcomes _ runs =>
    rcases runs_welcome runs with ⟨_, -, rfl⟩ | ⟨_, -, -, rfl⟩
    all_goals rfl
  | failsToAccept _ _ runs =>
    rcases runs_pauseAccept runs with ⟨_, ⟨-, -, rfl⟩ | ⟨-, _, -, rfl⟩⟩
    all_goals rfl
  | hears runs => exact steady_of_setting (setting_handleKernel runs)
  | serves connected _ runs => exact steady_of_setting (setting_handleClient connected runs)
  | hangsUp _ runs => exact steady_of_setting (setting_removeClient runs)

theorem steady_course (course : Course Stage router trace after) : after.steady = router.steady :=
  course.preserves (fun _ _ _ same stage => stage.steady_eq.trans same) rfl

theorem Stage.fixtures_eq (stage : Stage router trace after) : after.fixtures = router.fixtures :=
  congrArg Prod.fst stage.steady_eq

theorem fixtures_course (course : Course Stage router trace after) :
    after.fixtures = router.fixtures :=
  congrArg Prod.fst (steady_course course)

/-! ### Parts of a turn are courses of stages -/

theorem course_of_acceptClients (runs : router.acceptClients.Runs trace after) :
    Course Stage router trace after := by
  have rounds := runs_acceptClients runs
  clear runs
  induction rounds with
  | @last state _ _ ends =>
    rcases runs_acceptOnce ends with
      ⟨errno, transient, rfl, same⟩ | ⟨errno, rest, _, lasting, rfl, pauses, same⟩
        | ⟨_, _, _, -, -, same⟩
    · cases same
      refine .single (.findsNobody (runs_accept.mpr (Or.inr ⟨errno, rfl, ?_⟩)))
      rw [if_pos transient]
    · cases same
      have fails : state.listener.accept.Runs
          [⟨.accept state.listener.descriptor, .error errno⟩] (.error errno) :=
        runs_accept.mpr (Or.inr ⟨errno, rfl, by simp [lasting]⟩)
      exact .single (.failsToAccept errno fails pauses)
    · cases same
  | @again state _ _ _ _ goesOn _ ih =>
    rcases runs_acceptOnce goesOn with
      ⟨_, -, -, same⟩ | ⟨_, _, _, -, -, -, same⟩ | ⟨number, rest, _, rfl, welcomes, same⟩
    · cases same
    · cases same
    · cases same
      have accepts : state.listener.accept.Runs
          [⟨.accept state.listener.descriptor, .ok number⟩] (.ok (some ⟨number⟩)) :=
        runs_accept.mpr (Or.inl ⟨number, rfl, rfl⟩)
      exact (Course.single (.welcomes accepts welcomes)).append ih

theorem course_of_serveOne {event : Readiness} (other : event.descriptor ≠ router.kernel)
    (runs : (router.serveOne event).Runs trace after) : Course Stage router trace after := by
  rcases runs_serveOne runs with
    ⟨connected, -, serves⟩ | ⟨connected, -, -, hangsUp⟩ | ⟨-, rfl, rfl⟩
  · exact .single (.serves connected other serves)
  · exact .single (.hangsUp connected hangsUp)
  · exact .start

theorem course_of_serveClients {events : List Readiness}
    (others : ∀ event ∈ events, event.descriptor ≠ router.kernel)
    (runs : (router.serveClients events).Runs trace after) : Course Stage router trace after := by
  induction events generalizing router trace with
  | nil =>
    rcases runs with ⟨rfl, rfl⟩
    exact .start
  | cons event rest ih =>
    rw [List.forall_mem_cons] at others
    rw [serveClients_cons] at runs
    rcases runs_bind.mp runs with ⟨early, late, middle, rfl, serves, later⟩
    have course := course_of_serveOne others.1 serves
    have kernel : middle.kernel = router.kernel := congrArg Fixtures.kernel (fixtures_course course)
    exact course.append (ih (kernel ▸ others.2) later)

/-! ### A stage is a course of moves -/

theorem slice?_store_received {buffer : Buffer} {received : Received}
    (faithful : received.stored.length = min received.size buffer.capacity) :
    (buffer.store received.stored).slice? received.size =
      if received.size ≤ buffer.capacity then some received.stored else none := by
  split
  next fits =>
    have whole : received.size = received.stored.length := by omega
    rw [whole]
    exact Buffer.slice?_store_length buffer received.stored (by omega)
  next oversized => exact Buffer.slice?_eq_none_iff.mpr (Nat.lt_of_not_le oversized)

theorem frame?_received {received : Received}
    (faithful : Exchange.Faithful
      ⟨.receive router.kernel router.kernelBuffer.capacity, .ok received⟩) :
    Exchange.frame? router.kernel router.kernelBuffer.capacity router.family
      ⟨.receive router.kernel router.kernelBuffer.capacity, .ok received⟩
        = router.heard? received := by
  rw [heard?, slice?_store_received faithful]
  simp [Exchange.frame?, Exchange.whole?]

theorem message?_received {received : Received}
    (faithful : Exchange.Faithful
      ⟨.receive client router.clientBuffer.capacity, .ok received⟩) :
    Exchange.message? client router.clientBuffer.capacity
      ⟨.receive client router.clientBuffer.capacity, .ok received⟩
        = ((router.withMessage received).clientBuffer.slice? received.size).bind
          fun bytes => (ClientMessage.decode bytes).toOption := by
  rw [withMessage, slice?_store_received faithful]
  simp [Exchange.message?, Exchange.whole?]

theorem moves_removeClient {changed : Router} {reason : RemovalReason}
    (runs : (changed.removeClient client reason).Runs trace after)
    (sameFixtures : changed.fixtures = router.fixtures)
    (sameStanding : changed.standing = router.standing) (consistent : router.standing.Consistent)
    (connected : client ∈ router.registry.ids) :
    Move router.fixtures router.standing trace after.standing := by
  have registry : changed.registry = router.registry := congrArg Standing.registry sameStanding
  rw [← sameStanding] at consistent ⊢
  rw [← sameFixtures]
  rw [← registry] at connected
  rcases runs_removeClient runs with ⟨absent, -, -⟩ | ⟨connection, unwatched, found, rfl, rfl⟩
  · exact absurd connected (Registry.get?_eq_none_iff.mp absent)
  · rcases consistent.own found with rfl
    exact .retires client connected

theorem quiet_of_message?_eq_none {received : Received} (other : client ≠ router.kernel)
    (nothing : Exchange.Faithful ⟨.receive client router.clientBuffer.capacity, .ok received⟩ →
      Exchange.message? client router.clientBuffer.capacity
        ⟨.receive client router.clientBuffer.capacity, .ok received⟩ = none) :
    Exchange.Quiet router.fixtures
      ⟨.receive client router.clientBuffer.capacity, .ok received⟩ := by
  intro faithful
  rw [if_neg (show ¬ client = router.fixtures.kernel from other)]
  exact nothing faithful

theorem quiet_append {fixed : Fixtures} {standing last : Standing} {early : Trace}
    (quiet : ∀ exchange ∈ early, exchange.Quiet fixed) (move : Move fixed standing trace last) :
    Course (Move fixed) standing (early ++ trace) last :=
  (Course.single (.aside quiet)).append (.single move)

theorem quiet_cons {fixed : Fixtures} {standing last : Standing} {exchange : Exchange}
    (quiet : exchange.Quiet fixed) (move : Move fixed standing trace last) :
    Course (Move fixed) standing (exchange :: trace) last := by
  have early : ∀ other ∈ [exchange], other.Quiet fixed := by simpa using quiet
  exact quiet_append early move

theorem quiet_of_notices {fixed : Fixtures}
    (notices : ∀ exchange ∈ trace, ∃ notice, exchange = ⟨.log notice, ()⟩) :
    ∀ exchange ∈ trace, exchange.Quiet fixed := by
  intro exchange exchangeMem
  rcases notices exchange exchangeMem with ⟨notice, rfl⟩
  trivial

theorem quiet_acceptReport {errno : Errno} {now : Nat} :
    ∀ exchange ∈ router.acceptReport errno now, exchange.Quiet router.fixtures := by
  unfold acceptReport
  split <;> simp [Exchange.Quiet]

theorem moves_handleClient (consistent : router.standing.Consistent)
    (connected : client ∈ router.registry.ids) (other : client ≠ router.kernel)
    (runs : (router.handleClient client).Runs trace after) :
    Course (Move router.fixtures) router.standing trace after.standing := by
  have found : router.registry.get? client = some ⟨client⟩ := consistent.get?_of_mem connected
  rcases runs_handleClient found runs with
    ⟨errno, _, rfl, ⟨-, rfl, rfl⟩ | ⟨-, _, removes⟩⟩ | ⟨received, rest, rfl, ends⟩
  · apply Course.single
    apply Move.aside
    simp [Exchange.Quiet]
  · exact quiet_cons (by simp [Exchange.Quiet])
      (moves_removeClient removes rfl rfl consistent connected)
  rcases ends with ⟨ended, _, removes⟩ | ⟨-, oversized, _, removes⟩ | ⟨-, bytes, whole, answers⟩
  · refine quiet_cons (quiet_of_message?_eq_none other ?_)
      (moves_removeClient removes rfl rfl consistent connected)
    intro faithful
    have nothing : received.stored = [] := by
      apply List.eq_nil_of_length_eq_zero
      have stored : received.stored.length = min received.size router.clientBuffer.capacity :=
        faithful
      rw [stored, ended, Nat.zero_min]
    have undecoded : ClientMessage.decode [] = .error (.truncated 0) := rfl
    simp [Exchange.message?, Exchange.whole?, nothing, undecoded, Except.toOption]
  · refine quiet_cons (quiet_of_message?_eq_none other ?_)
      (moves_removeClient removes rfl rfl consistent connected)
    intro faithful
    have beyond : (router.withMessage received).clientBuffer.slice? received.size = none :=
      Buffer.slice?_eq_none_iff.mpr oversized
    rw [message?_received faithful, beyond]
    rfl
  · have stillFound : (router.withMessage received).registry.get? client = some ⟨client⟩ := found
    rcases runs_answer stillFound answers with
      ⟨error, _, undecoded, removes⟩ | ⟨message, outcome, _, decoded, rfl, ends⟩
    · refine quiet_cons (quiet_of_message?_eq_none other ?_)
        (moves_removeClient removes rfl rfl consistent connected)
      intro faithful
      rw [message?_received faithful, whole, Option.bind_some, undecoded]
      rfl
    have understood : Exchange.Faithful
          ⟨.receive client router.clientBuffer.capacity, .ok received⟩ →
        Exchange.message? client router.clientBuffer.capacity
          ⟨.receive client router.clientBuffer.capacity, .ok received⟩ = some message := by
      intro faithful
      rw [message?_received faithful, whole, Option.bind_some, decoded]
      rfl
    rcases ends with ⟨taken, rfl, rfl⟩ | ⟨refused, reason, removes⟩
    · exact .single (.answers client message connected other understood taken)
    · rcases runs_removeClient removes with
        ⟨absent, -, -⟩ | ⟨connection, unwatched, found, rfl, rfl⟩
      · rw [Registry.get?_grant] at absent
        exact absurd connected (Registry.get?_eq_none_iff.mp absent)
      · rw [Registry.get?_grant] at found
        rcases consistent.own found with rfl
        exact .single (.failsToAnswer client message reason connected other understood refused)

/-- As every client has the connection it is known by, the numbers of the clients tell the sends
and the removals. -/
theorem exists_sendings (consistent : router.standing.Consistent) (reason : RemovalReason)
    {mac : MacAddress} {message : Bytes} {sends : List ((ClientId × Connection) × Attempt Nat)}
    {retired : List ((ClientId × Connection) × Attempt Unit)}
    (targets : sends.map (·.1)
      = router.registry.connectionsOf (router.registry.subscribers mac))
    (dropped : retired.map (·.1) = (router.registry.removeAll (failures message sends)).1) :
    ∃ (sendings : List (ClientId × Attempt Nat)) (leaving : List (ClientId × Attempt Unit)),
      sendings.map (·.1) = router.registry.subscribers mac
        ∧ leaving.map (·.1) = failing message sendings
        ∧ failures message sends = failing message sendings
        ∧ leaving.length = retired.length
        ∧ mailing message sends = sendings.map (posted message)
        ∧ retirements router.poller reason retired
          = leaving.flatMap (farewell router.fixtures reason) := by
  have addressed : sends.map (·.1.1) = router.registry.subscribers mac := by
    have ids := consistent.sound.map_connectionsOf_subscribers mac
    change (router.registry.connectionsOf (router.registry.subscribers mac)).map (·.1) = _ at ids
    rw [← targets, List.map_map] at ids
    exact ids
  have fallen : failures message sends
      = failing message (sends.map fun entry => (entry.1.1, entry.2)) := by
    simp [failures, failing, List.filter_map, Function.comp_def]
  have sublist : (failures message sends).Sublist (router.registry.subscribers mac) := by
    rw [← addressed]
    exact List.Sublist.map _ List.filter_sublist
  have nodup := (consistent.sound.nodup_subscribers mac).sublist sublist
  rw [Registry.removeAll_fst nodup] at dropped
  refine ⟨sends.map fun entry => (entry.1.1, entry.2), retired.map fun entry => (entry.1.1, entry.2),
    ?_, ?_, fallen, List.length_map _, ?_, ?_⟩
  · rw [List.map_map]
    exact addressed
  · rw [← fallen, List.map_map]
    have clients := congrArg (List.map (·.1)) dropped
    rw [List.map_map, Registry.map_connectionsOf, List.filter_eq_self.mpr] at clients
    · exact clients
    · intro client failed
      exact Registry.mem_ids_iff.mp
        (consistent.sound.mem_ids_of_mem_subscribers (sublist.subset failed))
  · rw [List.map_map]
    apply List.map_congr_left
    intro entry entryMem
    have target : entry.1 ∈ sends.map (·.1) := List.mem_map_of_mem entryMem
    rw [targets] at target
    simp [posted, consistent.descriptor_eq target]
  · rw [retirements, List.flatMap_map]
    apply List.flatMap_congr
    intro entry entryMem
    have target : entry.1 ∈ retired.map (·.1) := List.mem_map_of_mem entryMem
    rw [dropped] at target
    simp [retirement, farewell, fixtures, consistent.descriptor_eq target]

theorem moves_forward {notification : Notification} {received : Received}
    (consistent : router.standing.Consistent) (heard : router.heard? received = some notification)
    (runs : ((router.withDatagram received).forward notification).Runs trace after) :
    Move router.fixtures router.standing
      (⟨.receive router.kernel router.kernelBuffer.capacity, .ok received⟩ :: trace)
      after.standing := by
  have framed : Exchange.Faithful
        ⟨.receive router.kernel router.kernelBuffer.capacity, .ok received⟩ →
      Exchange.frame? router.kernel router.kernelBuffer.capacity router.family
        ⟨.receive router.kernel router.kernelBuffer.capacity, .ok received⟩
          = some notification := by
    intro faithful
    rw [frame?_received faithful, heard]
  rcases runs_forward runs with ⟨sent, closed, report, left, rfl, routes, retires⟩
  rcases runs_retireAll retires with ⟨retired, dropped, rfl, rfl⟩
  rcases runs_route routes with
    ⟨rfl, nobody, rfl, noReason, -⟩ | ⟨message, sends, encoded, targets, rfl, -, fallen, rfl⟩
  · rw [nobody] at dropped ⊢
    rcases List.map_eq_nil_iff.mp dropped with rfl
    rcases noReason with nobodySubscribed | ⟨error, refused⟩
    · cases encoded : Delivery.encode ⟨notification.transmitter, notification.frame⟩ with
      | error error => exact .withholds notification framed encoded
      | ok message => exact .forwards notification message [] [] framed encoded nobodySubscribed.symm rfl
    · exact .withholds notification framed refused
  · rw [fallen] at dropped
    rcases exists_sendings consistent .deliveryFailed targets dropped with
      ⟨sendings, leaving, addressed, left, failed, length, sent, closed⟩
    have number : report.dropped.length = leaving.length := by
      rw [length, fallen, ← dropped, List.length_map]
    change Move router.fixtures router.standing
      (_ :: (mailing message sends ++ retirements router.poller .deliveryFailed retired))
      { router.standing with
        registry := (router.registry.removeAll (failures message sends)).2
        removed := router.statistics.removed + report.dropped.length }
    rw [sent, closed, failed, number]
    exact .forwards notification message sendings leaving framed encoded addressed left

theorem moves_handleKernel (consistent : router.standing.Consistent)
    (runs : router.handleKernel.Runs trace after) :
    Move router.fixtures router.standing trace after.standing := by
  rcases runs_handleKernel runs with
    ⟨errno, rest, rfl, notices, rfl⟩
      | ⟨received, rest, rfl, ⟨unheard, notices, rfl⟩ | ⟨notification, heard, forwards⟩⟩
  · refine .aside ?_
    rw [List.forall_mem_cons]
    exact ⟨trivial, quiet_of_notices notices⟩
  · refine .aside ?_
    rw [List.forall_mem_cons]
    refine ⟨?_, quiet_of_notices notices⟩
    intro faithful
    rw [if_pos (show router.kernel = router.fixtures.kernel from rfl)]
    exact (frame?_received faithful).trans unheard
  · exact moves_forward consistent heard forwards

theorem moves_resumeAccept {outcome : Except Failure Router}
    (runs : router.resumeAccept.Runs trace outcome) :
    Course (Move router.fixtures) router.standing trace
      (outcome.toOption.getD router).standing := by
  rcases runs_resumeAccept runs with
    ⟨-, rfl, rfl⟩ | ⟨_, now, paused, ⟨-, rfl, rfl⟩ | ⟨-, _ | _, rfl, rfl⟩⟩
  · exact .start
  · exact .single (.aside (by simp [Exchange.Quiet]))
  · exact .single (.aside (by simp [Exchange.Quiet]))
  · have move : Move router.fixtures router.standing _ _ := .resumes (by simp [standing, paused])
    exact quiet_cons (by simp [Exchange.Quiet]) move

theorem moves_pauseAccept {errno : Errno} (runs : (router.pauseAccept errno).Runs trace after) :
    Course (Move router.fixtures) router.standing trace after.standing := by
  have told : ∀ now : Nat, ∀ exchange ∈ ⟨.currentTime, now⟩ :: router.acceptReport errno now,
      exchange.Quiet router.fixtures := by
    intro now
    rw [List.forall_mem_cons]
    exact ⟨trivial, quiet_acceptReport⟩
  rcases runs_pauseAccept runs with
    ⟨now, ⟨-, rfl, rfl⟩ | ⟨listening, reason | _, rfl, afterwards⟩⟩
  · exact .single (.aside (told now))
  · have same : after.standing = router.standing := by
      simp [afterwards, standing, withAcceptError, Except.toOption, listening]
    have still : Move router.fixtures router.standing
        [⟨.unwatch router.poller.descriptor router.listener.descriptor, .error reason⟩]
        after.standing := by
      rw [same]
      exact .aside (by simp [Exchange.Quiet])
    have course := quiet_append (told now) still
    exact course
  · have paused : after.standing = { router.standing with paused := true } := by
      simp [afterwards, standing, withAcceptError, Except.toOption]
    rw [paused]
    have move : Move router.fixtures router.standing _ _ :=
      .pauses (by simp [standing, listening])
    have course := quiet_append (told now) move
    exact course

/-- A stage keeps the registry in order and is a course of moves. -/
theorem Stage.moves (stage : Stage router trace after) (consistent : router.standing.Consistent) :
    Course (Move router.fixtures) router.standing trace after.standing := by
  cases stage with
  | resumes runs => exact moves_resumeAccept runs
  | failsToResume runs => exact moves_resumeAccept runs
  | bounds runs =>
    rcases runs_boundedTimeout runs with ⟨-, rfl, -⟩ | ⟨_, _, -, rfl, -⟩
    all_goals exact .single (.aside (by simp [Exchange.Quiet]))
  | waits runs =>
    refine .single (.aside ?_)
    intro exchange exchangeMem
    rcases (kept_of_wait runs).1 exchange exchangeMem with ⟨answer, rfl⟩
    trivial
  | wakes runs =>
    refine .single (.aside ?_)
    intro exchange exchangeMem
    rcases reads_of_drain runs exchange exchangeMem with ⟨answer, rfl⟩
    trivial
  | stops => exact .single (.aside (by simp [Exchange.Quiet]))
  | findsNobody runs =>
    rcases runs_accept.mp runs with ⟨_, -, same⟩ | ⟨errno, rfl, -⟩
    · cases same
    · exact .single (.aside (by simp [Exchange.Quiet]))
  | welcomes accepts runs =>
    rcases runs_accept.mp accepts with ⟨client, rfl, same⟩ | ⟨errno, -, same⟩
    · cases same
      rcases runs_welcome runs with ⟨errno, rfl, rfl⟩ | ⟨_, rfl, rfl, rfl⟩
      · exact .single (.turnsAway client errno)
      · exact .single (.admits client)
    · split at same <;> cases same
  | failsToAccept reported fails runs =>
    rcases runs_accept.mp fails with ⟨client, -, same⟩ | ⟨errno, rfl, -⟩
    · cases same
    · exact (Course.single (.aside (by simp [Exchange.Quiet]))).append (moves_pauseAccept runs)
  | hears runs => exact .single (moves_handleKernel consistent runs)
  | serves connected other runs =>
    exact moves_handleClient consistent (Registry.mem_ids_iff.mpr connected) other runs
  | hangsUp connected runs =>
    exact .single
      (moves_removeClient runs rfl rfl consistent (Registry.mem_ids_iff.mpr connected))

theorem moves_of_course (course : Course Stage router trace after)
    (consistent : router.standing.Consistent) :
    after.standing.Consistent
      ∧ Course (Move router.fixtures) router.standing trace after.standing := by
  have refined : (after.fixtures = router.fixtures ∧ after.standing.Consistent)
      ∧ Course (Move router.fixtures) router.standing trace after.standing := by
    refine Course.refine
      (fun state => state.fixtures = router.fixtures ∧ state.standing.Consistent) standing course
      ?_ ?_
    · rintro state trace next ⟨sameFixtures, consistent⟩ stage
      have moves := stage.moves consistent
      rw [sameFixtures] at moves
      refine ⟨⟨stage.fixtures_eq.trans sameFixtures, ?_⟩, moves⟩
      exact moves.preserves (fun _ _ _ before move => move.consistent before) consistent
    · exact ⟨rfl, consistent⟩
  exact ⟨refined.1.2, refined.2⟩

/-- The first of several clients is served, and then the others are by a router in order. -/
theorem runs_serveClients_cons {event : Readiness} {events : List Readiness}
    (consistent : router.standing.Consistent)
    (others : ∀ one ∈ event :: events, one.descriptor ≠ router.kernel)
    (runs : (router.serveClients (event :: events)).Runs trace after) :
    ∃ early late middle, trace = early ++ late
      ∧ (router.serveOne event).Runs early middle ∧ (middle.serveClients events).Runs late after
      ∧ middle.standing.Consistent ∧ middle.fixtures = router.fixtures
      ∧ ∀ one ∈ events, one.descriptor ≠ middle.kernel := by
  rw [List.forall_mem_cons] at others
  rw [serveClients_cons] at runs
  rcases runs_bind.mp runs with ⟨early, late, middle, rfl, serves, later⟩
  have course := course_of_serveOne others.1 serves
  have fixtures := fixtures_course course
  have kernel : middle.kernel = router.kernel := congrArg Fixtures.kernel fixtures
  exact ⟨early, late, middle, rfl, serves, later, (moves_of_course course consistent).1, fixtures,
    kernel ▸ others.2⟩

theorem consistent_assembled {listener : Listener} {kernel poller wake : Descriptor}
    {options : RouterOptions} :
    (assembled listener kernel options poller wake).standing.Consistent :=
  ⟨Registry.sound_empty, by simp [standing, assembled]⟩

end RadioRelay.Router
