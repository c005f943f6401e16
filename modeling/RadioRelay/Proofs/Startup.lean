import RadioRelay.Proofs.Configuring
import RadioRelay.Proofs.Handshake
import RadioRelay.Proofs.Router.Running

/-!
# How the daemon starts

Before the control name is taken, the daemon has found and checked its configuration, it knows the
number of the family, and the kernel has acknowledged its subscription (`Daemon.Prepared`). All
parts of the start are careful, and only the last of them does something that clients could notice.
So a name is taken only when everything before is done (`Daemon.prepared_of_begins`), and a start
that fails leaves no name behind (`Daemon.namedAfter_of_start`).
-/

namespace RadioRelay

open Program Fallible

/-- The call opens nothing: it looks for a file, reads it, or has to do with the log. -/
def Call.Looks : Call → Prop
  | .fileExists _ | .readFile _ | .pageSize | .startLog _ | .log _ => True
  | _ => False

/-- The call accepts nobody, and takes no name but those that are allowed. -/
def Call.TakesOnly (allowed : LocalAddress → Prop) : Call → Prop
  | .accept _ => False
  | .bind _ (.address address) => allowed address
  | _ => True

/-- The call is not one that clients could notice. -/
abbrev Call.Private : Call → Prop := Call.TakesOnly fun _ => False

theorem Call.TakesOnly.mono {allowed wider : LocalAddress → Prop} {call : Call}
    (takes : call.TakesOnly allowed) (weaker : ∀ address, allowed address → wider address) :
    call.TakesOnly wider := by
  unfold TakesOnly at takes ⊢
  split at takes
  next => exact takes
  next => exact weaker _ takes
  next => trivial

theorem Call.Private.takesOnly {allowed : LocalAddress → Prop} {call : Call}
    (isPrivate : call.Private) : call.TakesOnly allowed :=
  isPrivate.mono fun _ impossible => impossible.elim

theorem Call.Looks.takesOnly {allowed : LocalAddress → Prop} {call : Call} (looks : call.Looks) :
    call.TakesOnly allowed := by
  cases call with
  | bind | accept => cases looks
  | _ => trivial

/-! ### The parts of the start are careful -/

namespace Daemon

theorem careful_firstExisting {α : Type} {next : Option String → Program (Except Failure α)}
    (paths : List String) (later : ∀ path, (next path).Careful Call.Looks) :
    (Configuration.firstExisting paths >>= next).Careful Call.Looks := by
  induction paths with
  | nil => exact later none
  | cons path paths ih =>
    refine @careful_call_bind Call.Looks _ _ (.fileExists path) _ trivial (fun _ => rfl) ?_
    intro found
    cases found with
    | true => exact later (some path)
    | false => exact ih

theorem careful_resolvePath (config : Option String) :
    (Configuration.resolvePath config).run.Careful Call.Looks := by
  cases config with
  | none => exact careful_firstExisting _ fun _ => careful_pure
  | some path =>
    refine careful_bind (careful_lift trivial fun _ => rfl) ?_
    intro found
    cases found with
    | true => exact careful_pure
    | false => exact careful_pure

theorem careful_load (path : String) : (Configuration.load path).run.Careful Call.Looks := by
  refine careful_bind
    (careful_attempting (careful_call (.readFile path) rfl trivial fun _ => rfl)) ?_
  intro bytes
  split
  · exact careful_pure
  · refine careful_bind (careful_lift trivial fun _ => rfl) ?_
    intro pageSize
    split <;> exact careful_pure

theorem careful_loadOrStandard (path : Option String) :
    (loadOrStandard path).run.Careful Call.Looks := by
  cases path with
  | none => exact careful_bind (careful_lift trivial fun _ => rfl) fun _ => careful_pure
  | some path => exact careful_load path

theorem careful_check (configuration : Configuration) :
    (check configuration).run.Careful Call.Looks := by
  unfold check
  split <;> exact careful_pure

theorem careful_configure (config socketName : Option String) :
    (configure config socketName).run.Careful Call.Looks := by
  refine careful_bind (careful_resolvePath config) fun path => ?_
  refine careful_bind (careful_loadOrStandard path) fun loaded => ?_
  refine careful_bind (careful_check _) fun _ => ?_
  refine careful_bind (careful_lift trivial fun _ => rfl) fun _ => ?_
  exact careful_bind (careful_lift trivial fun _ => rfl) fun _ => careful_pure

end Daemon

namespace Family

theorem careful_ask (socket event : Descriptor) (name : String) (port : UInt32) :
    (ask socket event name port).run.Careful Call.Private := by
  unfold ask
  split
  · exact careful_pure
  next message _ =>
    refine careful_bind
      (careful_attemptingOr (careful_call (.send socket message) rfl trivial fun _ => rfl)) ?_
    intro _
    refine careful_bind (careful_attemptingOr
      (careful_call (.receiveInBackground socket event) rfl trivial fun _ => rfl)) ?_
    intro answer
    split <;> exact careful_pure

theorem careful_resolve (name : String) : (resolve name).run.Careful Call.Private := by
  refine careful_bind (careful_attemptingOr
    (careful_call (.openSocket .kernel true) rfl trivial fun _ => rfl)) fun socket => ?_
  refine careful_bind (careful_closingOnFailure ?_ trivial) fun number => ?_
  · refine careful_bind (careful_attemptingOr
      (careful_call (.bind socket .kernelPort) rfl trivial fun _ => rfl)) fun _ => ?_
    refine careful_bind (careful_attemptingOr
      (careful_call (.localPort socket) rfl trivial fun _ => rfl)) fun port => ?_
    refine careful_bind (careful_attemptingOr
      (careful_call .openEvent rfl trivial fun _ => rfl)) fun event => ?_
    refine careful_closingOnFailure ?_ trivial
    refine careful_bind (careful_ask socket event name port) fun number => ?_
    exact careful_bind (careful_lift trivial fun _ => rfl) fun _ => careful_pure
  · refine careful_bind (careful_lift trivial fun _ => rfl) fun _ => ?_
    exact careful_bind (careful_lift trivial fun _ => rfl) fun _ => careful_pure

end Family

namespace Channel

theorem careful_connect : connect.run.Careful Call.Private := by
  refine careful_bind (careful_attemptingOr
    (careful_call (.openSocket .kernel true) rfl trivial fun _ => rfl)) fun socket => ?_
  refine careful_closingOnFailure ?_ trivial
  refine careful_bind (careful_attemptingOr
    (careful_call (.bind socket .kernelPort) rfl trivial fun _ => rfl)) fun _ => ?_
  refine careful_bind (careful_attemptingOr
    (careful_call (.localPort socket) rfl trivial fun _ => rfl)) fun _ => ?_
  exact careful_bind (careful_attempting
    (careful_call (.localPort socket) rfl trivial fun _ => rfl)) fun _ => careful_pure

theorem careful_awaitVerdict (channel : Channel) (datagrams : Nat) :
    (channel.awaitVerdict datagrams).run.Careful Call.Private := by
  induction datagrams with
  | zero => exact careful_pure
  | succ datagrams ih =>
    refine careful_bind (careful_attemptingOr
      (careful_call (.receiveReply channel.socket) rfl trivial fun _ => rfl)) fun datagram => ?_
    split
    · exact careful_pure
    · split
      · exact careful_pure
      · exact careful_pure
      · exact ih

theorem careful_requestFrames (channel : Channel) (family : UInt16) :
    (channel.requestFrames family).run.Careful Call.Private := by
  refine careful_bind (careful_attemptingOr (careful_call
    (.send channel.socket (channel.subscription family)) rfl trivial fun _ => rfl)) fun _ => ?_
  refine careful_bind (careful_during (careful_awaitVerdict channel _)) fun _ => ?_
  exact careful_lift trivial fun _ => rfl

end Channel

namespace Daemon

theorem careful_openChannel (family : UInt16) :
    (openChannel family).run.Careful Call.Private := by
  rw [openChannel_eq]
  refine careful_bind Channel.careful_connect fun channel => ?_
  refine careful_closingOnFailure ?_ trivial
  exact careful_bind (Channel.careful_requestFrames channel.next family) fun _ => careful_pure

end Daemon

namespace LocalAddress

variable {name : String} {address : LocalAddress}

theorem ofName_eq_ok_iff :
    ofName name = .ok address ↔
      (0 < name.utf8ByteSize ∧ name.utf8ByteSize ≤ maxSocketName)
        ∧ address = ⟨0 :: name.toUTF8.toList
            ++ List.replicate (pathCapacity - 1 - name.utf8ByteSize) 0,
          2 + 1 + name.utf8ByteSize⟩ := by
  have nothing : name.toUTF8.toList.isEmpty ↔ name.utf8ByteSize = 0 := by
    rw [List.isEmpty_iff, ← List.length_eq_zero_iff, length_toUTF8]
  unfold ofName
  dsimp only
  rw [length_toUTF8]
  simp only [nothing]
  split_ifs with empty long
  · simp [empty]
  · simp [long]
  · constructor
    · intro same
      cases same
      exact ⟨⟨Nat.pos_of_ne_zero empty, Nat.not_lt.mp long⟩, rfl⟩
    · rintro ⟨-, rfl⟩
      rfl

/-- The system looks at a zero and at the bytes of the name. -/
theorem key_of_ofName (named : ofName name = .ok address) :
    address.key = 0 :: name.toUTF8.toList := by
  rcases ofName_eq_ok_iff.mp named with ⟨-, rfl⟩
  refine List.take_left' ?_
  have length := length_toUTF8 name
  dsimp only
  rw [List.length_cons, length]
  omega

end LocalAddress

namespace Listener

theorem bind_of_error {name : String} {failure : Failure} (backlog : Int)
    (refused : LocalAddress.ofName name = .error failure) :
    Listener.bind name backlog = throw failure := by
  unfold Listener.bind
  rw [refused]
  rfl

theorem bind_of_ok {name : String} {address : LocalAddress} (backlog : Int)
    (named : LocalAddress.ofName name = .ok address) :
    Listener.bind name backlog = (do
      let descriptor ← attempting .creatingSocket (Program.call (.openSocket .process false))
      closingOnFailure descriptor (do
        attempting (.binding name) (Program.call (.bind descriptor (.address address)))
        attempting (.listening name) (Program.call (.listen descriptor backlog))
        return ⟨descriptor, name⟩)) := by
  unfold Listener.bind
  rw [named]
  rfl

theorem careful_bind (name : String) (backlog : Int) :
    (Listener.bind name backlog).run.Careful
      (Call.TakesOnly fun address => LocalAddress.ofName name = .ok address) := by
  cases named : LocalAddress.ofName name with
  | error failure =>
    rw [bind_of_error backlog named]
    exact careful_pure
  | ok address =>
    rw [bind_of_ok backlog named]
    refine Fallible.careful_bind (careful_attempting
      (careful_call (.openSocket .process false) rfl trivial fun _ => rfl)) fun descriptor => ?_
    refine careful_closingOnFailure ?_ trivial
    refine Fallible.careful_bind (careful_attempting
      (careful_call (.bind descriptor (.address address)) rfl rfl fun _ => rfl)) fun _ => ?_
    exact Fallible.careful_bind (careful_attempting
      (careful_call (.listen descriptor backlog) rfl trivial fun _ => rfl)) fun _ => careful_pure

end Listener

namespace Router

theorem careful_createWake : WakeEvent.create.Careful Call.Private := by
  refine careful_bind_except (careful_call .openEvent rfl trivial fun _ => rfl) ?_ ?_
  · rintro (errno | descriptor) <;> exact careful_pure
  · rintro errno trace result ⟨-, same⟩
    cases same

theorem careful_create (listener : Listener) (kernel : Descriptor) (options : RouterOptions) :
    (create listener kernel options).run.Careful Call.Private := by
  have watches : ∀ (poller : Poller) (target : Descriptor),
      (poller.watch target readable).Careful Call.Private := fun poller target =>
    careful_call (.watch poller.descriptor target readable) rfl trivial fun _ => rfl
  have opens : (Poller.create maxEvents).run.Careful Call.Private := by
    refine careful_bind_except (careful_call .openPoller rfl trivial fun _ => rfl) ?_ ?_
    · rintro (errno | descriptor) <;> exact careful_pure
    · rintro errno trace result ⟨-, same⟩
      cases same
  refine careful_bind opens fun poller => careful_closingOnFailure ?_ trivial
  refine careful_bind (careful_attempting careful_createWake) fun wake => ?_
  refine careful_closingOnFailure ?_ trivial
  refine careful_bind (careful_attempting (watches poller _)) fun _ => ?_
  refine careful_bind (careful_attempting (watches poller _)) fun _ => ?_
  exact careful_bind (careful_attempting (watches poller _)) fun _ => careful_pure

end Router

namespace Daemon

/-- The calls that hand the termination signals to a router. -/
def hook (router : Router) : Fallible Router :=
  closingOnFailure router.poller.descriptor (closingOnFailure router.wake.descriptor (do
    attemptingOr .signalHandler (Program.call (.handleSignals router.wake.descriptor))
    return router))

theorem careful_hook (router : Router) : (hook router).run.Careful Call.Private := by
  refine careful_closingOnFailure (careful_closingOnFailure ?_ trivial) trivial
  exact careful_bind (careful_attemptingOr
    (careful_call (.handleSignals router.wake.descriptor) rfl trivial fun _ => rfl))
    fun _ => careful_pure

theorem careful_openRouter (configuration : Configuration) (family : UInt16) (channel : Channel) :
    (openRouter configuration family channel).run.Careful
      (Call.TakesOnly fun address =>
        LocalAddress.ofName configuration.socketName = .ok address) := by
  refine careful_bind (Listener.careful_bind _ _) fun listener => ?_
  refine careful_closingOnFailure ?_ trivial
  refine careful_bind ((Router.careful_create _ _ _).mono fun _ => Call.Private.takesOnly) ?_
  exact fun router => (careful_hook router).mono fun _ => Call.Private.takesOnly

theorem careful_start (config socketName : Option String) :
    (start config socketName).run.Careful (Call.TakesOnly fun _ => True) := by
  refine careful_bind ((careful_configure config socketName).mono fun _ => Call.Looks.takesOnly) ?_
  intro configuration
  refine careful_bind ((Family.careful_resolve _).mono fun _ => Call.Private.takesOnly) ?_
  intro family
  refine careful_bind ((careful_openChannel family).mono fun _ => Call.Private.takesOnly) ?_
  intro channel
  refine careful_closingOnFailure ?_ trivial
  exact (careful_openRouter configuration family channel).mono
    fun _ takes => takes.mono fun _ _ => trivial

end Daemon

/-! ### Which names are taken -/

/-- The sockets that have a name afterwards. A socket that is closed gives its name up. -/
def Exchange.nowNamed (named : List (Descriptor × LocalAddress)) :
    Exchange → List (Descriptor × LocalAddress)
  | ⟨.bind socket (.address address), .ok _⟩ => (socket, address) :: named
  | ⟨.close closed, _⟩ => named.filter (·.1 ≠ closed)
  | _ => named

/-- The sockets that have a name after a trace. -/
def namedAfter (named : List (Descriptor × LocalAddress)) (trace : Trace) :
    List (Descriptor × LocalAddress) :=
  trace.foldl Exchange.nowNamed named

section Names

variable {named : List (Descriptor × LocalAddress)} {early late trace : Trace}

theorem namedAfter_append :
    namedAfter named (early ++ late) = namedAfter (namedAfter named early) late :=
  List.foldl_append

theorem namedAfter_subset (quiet : ∀ exchange ∈ trace, exchange.call.Private) :
    namedAfter named trace ⊆ named := by
  induction trace generalizing named with
  | nil => exact fun _ entryMem => entryMem
  | cons exchange trace ih =>
    rw [List.forall_mem_cons] at quiet
    have now : exchange.nowNamed named ⊆ named := by
      unfold Exchange.nowNamed
      split
      · exact quiet.1.elim
      · exact List.filter_subset_self _
      · exact fun _ entryMem => entryMem
    exact fun entry entryMem => now (ih quiet.2 entryMem)

theorem namedAfter_private (quiet : ∀ exchange ∈ trace, exchange.call.Private) :
    namedAfter [] trace = [] :=
  List.eq_nil_of_subset_nil (namedAfter_subset quiet)

end Names

namespace Listener

theorem namedAfter_of_failure {name : String} {backlog : Int} {trace : Trace} {failure : Failure}
    (runs : (Listener.bind name backlog).run.Runs trace (.error failure)) :
    namedAfter [] trace = [] := by
  cases named : LocalAddress.ofName name with
  | error refusal =>
    rw [bind_of_error backlog named] at runs
    rcases runs with ⟨rfl, -⟩
    rfl
  | ok address =>
    rw [bind_of_ok backlog named] at runs
    rcases runs with ⟨_ | descriptor, _, rfl, runs⟩
    · rcases runs with ⟨rfl, -⟩
      rfl
    rcases runs with ⟨_ | _, _, rfl, runs⟩
    · rcases runs with ⟨_, _, rfl, rfl, -⟩
      rfl
    rcases runs with ⟨_ | _, _, rfl, runs⟩
    · rcases runs with ⟨_, _, rfl, rfl, -⟩
      simp [namedAfter, Exchange.nowNamed]
    · cases runs.2

theorem runs_bind_ok {name : String} {backlog : Int} {trace : Trace} {listener : Listener}
    (runs : (Listener.bind name backlog).run.Runs trace (.ok listener)) :
    ∃ address descriptor, LocalAddress.ofName name = .ok address ∧ listener = ⟨descriptor, name⟩
      ∧ trace = [⟨.openSocket .process false, .ok descriptor⟩,
        ⟨.bind descriptor (.address address), .ok ()⟩, ⟨.listen descriptor backlog, .ok ()⟩] := by
  cases named : LocalAddress.ofName name with
  | error refusal =>
    rw [bind_of_error backlog named] at runs
    cases runs.2
  | ok address =>
    rw [bind_of_ok backlog named] at runs
    rcases runs with ⟨_ | descriptor, _, rfl, runs⟩
    · cases runs.2
    rcases runs with ⟨_ | _, _, rfl, runs⟩
    · rcases runs with ⟨_, _, -, -, same⟩
      cases same
    rcases runs with ⟨_ | _, _, rfl, runs⟩
    · rcases runs with ⟨_, _, -, -, same⟩
      cases same
    · rcases runs with ⟨rfl, same⟩
      cases same
      exact ⟨address, descriptor, rfl, rfl, rfl⟩

end Listener

namespace Daemon

variable {configuration : Configuration} {family : UInt16} {channel : Channel} {trace : Trace}

/-- If the router cannot be opened, no name stays taken. -/
theorem namedAfter_of_openRouter {failure : Failure}
    (runs : (openRouter configuration family channel).run.Runs trace (.error failure)) :
    namedAfter [] trace = [] := by
  rcases Fallible.runs_bind.mp runs with
    ⟨_, fails, -⟩ | ⟨binding, rest, listener, rfl, binds, later⟩
  · exact Listener.namedAfter_of_failure fails
  rcases Listener.runs_bind_ok binds with ⟨address, descriptor, -, rfl, rfl⟩
  rcases runs_closingOnFailure.mp later with ⟨_, same, -⟩ | ⟨_, early, -, fails, rfl⟩
  · cases same
  have quiet : ∀ exchange ∈ early, exchange.call.Private :=
    Program.Careful.calls_of_runs (careful_bind (Router.careful_create _ _ _) careful_hook) fails
  have still : namedAfter [(descriptor, address)] early ⊆ [(descriptor, address)] :=
    namedAfter_subset quiet
  rw [namedAfter_append, namedAfter_append]
  change (namedAfter [(descriptor, address)] early).filter (·.1 ≠ descriptor) = []
  rw [List.filter_eq_nil_iff]
  intro entry entryMem
  rcases List.mem_singleton.mp (still entryMem) with rfl
  simp

/-! ### The parts of the start, one after the other -/

/-- The configuration of the file or the standard one, with the name that was asked for instead,
passed its check. Then the log was started. -/
structure Configured (config socketName : Option String) (trace : Trace)
    (configuration : Configuration) : Prop where
  merged : ∃ looking loading path loaded,
    trace = looking ++ (loading ++ [⟨.startLog configuration.logLevel, ()⟩,
        ⟨.log (path.elim .noConfig .loadedConfig), ()⟩])
      ∧ Configuration.Located config looking path
      ∧ Configuration.Loaded path loading loaded
      ∧ configuration = { loaded with socketName := socketName.getD loaded.socketName }
  valid : configuration.validate = .ok ()
  limits : configuration.WithinLimits

theorem runs_check {trace : Trace} {outcome : Except Failure Unit} :
    (check configuration).run.Runs trace outcome ↔ trace = [] ∧ outcome =
      (configuration.validate.mapError fun violation =>
        (Failure.of (.invalidConfiguration violation)).during .validating) := by
  unfold check
  split
  next valid => simp only [valid]; exact Iff.rfl
  next violation invalid => simp only [invalid]; exact Iff.rfl

theorem configured_of_runs {config socketName : Option String}
    (runs : (configure config socketName).run.Runs trace (.ok configuration)) :
    Configured config socketName trace configuration := by
  rcases Fallible.runs_bind_ok.mp runs with ⟨looking, _, path, rfl, looks, looked⟩
  rcases Fallible.runs_bind_ok.mp looked with ⟨loading, _, loaded, rfl, loads, read⟩
  rcases Fallible.runs_bind_ok.mp read with ⟨_, _, _, rfl, checks, checked⟩
  rcases Fallible.runs_bind_ok.mp checked with ⟨_, _, _, rfl, starts, started⟩
  rcases runs_call.mp (runs_lift_ok.mp starts) with rfl
  rcases Fallible.runs_bind_ok.mp started with ⟨_, _, _, rfl, logs, rfl, same⟩
  rcases runs_call.mp (runs_lift_ok.mp logs) with rfl
  cases same
  rcases runs_check.mp checks with ⟨rfl, passed⟩
  have valid : (overrideName socketName loaded).validate = .ok () := by
    cases outcome : (overrideName socketName loaded).validate with
    | error violation =>
      rw [outcome] at passed
      cases passed
    | ok _ => rfl
  refine ⟨⟨looking, loading, path, loaded, ?_, Configuration.runs_resolvePath_iff.mp looks,
    runs_loadOrStandard_iff.mp loads, rfl⟩, valid, Configuration.validate_eq_ok_iff.mp valid⟩
  cases path <;> rfl

/-- All that has to be done before the control name is taken, in its order. -/
structure Prepared (config socketName : Option String) (past : Trace)
    (configuration : Configuration) (family : UInt16) (channel : Channel) : Prop where
  parts : ∃ configuring resolving subscribing rest,
    past = configuring ++ (resolving ++ (subscribing ++ rest))
      ∧ Configured config socketName configuring configuration
      ∧ Family.Resolved configuration.familyName resolving family
      ∧ Channel.Subscribed family channel subscribing

/-- A call that clients could notice comes after an action that makes none. -/
theorem later_of_begins {α β : Type} {action : Fallible α} {next : α → Fallible β}
    {past later : Trace} {exchange : Exchange} (careful : action.run.Careful Call.Private)
    (noticed : ¬ exchange.call.Private)
    (begun : (action >>= next).run.Begins (past ++ exchange :: later)) :
    ∃ early rest value, past = early ++ rest ∧ action.run.Runs early (.ok value)
      ∧ (next value).run.Begins (rest ++ exchange :: later) := by
  rcases Fallible.begins_bind begun with inFirst | ⟨early, late, value, split, runs, begun⟩
  · exact absurd (careful.calls _ inFirst exchange (by simp)) noticed
  rcases append_eq_append_cons split.symm with ⟨rest, rfl, rfl⟩ | ⟨rest, rfl, -⟩
  · exact ⟨early, rest, value, rfl, runs, begun⟩
  · exact absurd (careful.calls_of_runs runs exchange (by simp)) noticed

/-- While the daemon starts, it takes a name only when everything else is in place, and it is the
name of the configuration. -/
theorem prepared_of_begins {config socketName : Option String} {past later : Trace}
    {socket : Descriptor} {address : LocalAddress} {answer : Attempt Unit}
    (begun : (start config socketName).run.Begins
      (past ++ ⟨.bind socket (.address address), answer⟩ :: later)) :
    ∃ configuration family channel, Prepared config socketName past configuration family channel
      ∧ LocalAddress.ofName configuration.socketName = .ok address := by
  have noticed : ¬ Call.Private (.bind socket (.address address)) := id
  have quiet : (configure config socketName).run.Careful Call.Private :=
    (careful_configure config socketName).mono fun _ => Call.Looks.takesOnly
  rcases later_of_begins quiet noticed begun with
    ⟨configuring, rest, configuration, rfl, configures, begun⟩
  rcases later_of_begins (Family.careful_resolve _) noticed begun with
    ⟨resolving, rest, family, rfl, resolves, begun⟩
  rcases later_of_begins (careful_openChannel family) noticed begun with
    ⟨subscribing, rest, channel, rfl, opens, begun⟩
  have named := (careful_closingOnFailure (careful_openRouter configuration family channel)
    trivial).calls _ begun ⟨.bind socket (.address address), answer⟩ (by simp)
  exact ⟨configuration, family, channel, ⟨configuring, resolving, subscribing, rest, rfl,
    configured_of_runs configures, Family.resolved_of_runs resolves, subscribed_of_runs opens⟩,
    named⟩

/-! ### What a start comes to -/

variable {config socketName : Option String}

/-- A start that succeeds did all of it, and gives a router that is made for the family and the
configuration. -/
theorem prepared_of_runs {router : Router}
    (runs : (start config socketName).run.Runs trace (.ok router)) :
    ∃ configuration family channel descriptor address poller wake,
      Prepared config socketName trace configuration family channel
        ∧ LocalAddress.ofName configuration.socketName = .ok address
        ∧ ⟨.bind descriptor (.address address), .ok ()⟩ ∈ trace
        ∧ router = Router.assembled ⟨descriptor, configuration.socketName⟩ channel.socket
          (.ofConfiguration family configuration) poller wake := by
  rcases Fallible.runs_bind_ok.mp runs with ⟨configuring, _, configuration, rfl, configures, runs⟩
  rcases Fallible.runs_bind_ok.mp runs with ⟨resolving, _, family, rfl, resolves, runs⟩
  rcases Fallible.runs_bind_ok.mp runs with ⟨subscribing, opening, channel, rfl, opens, runs⟩
  rcases Fallible.runs_bind_ok.mp (runs_closingOnFailure_ok.mp runs) with
    ⟨_, _, listener, rfl, binds, routes⟩
  rcases Listener.runs_bind_ok binds with ⟨address, descriptor, named, rfl, rfl⟩
  rcases Fallible.runs_bind_ok.mp (runs_closingOnFailure_ok.mp routes) with
    ⟨_, _, assembled, rfl, puts, hooks⟩
  rcases Router.runs_create puts with ⟨poller, wake, rfl, rfl⟩
  rcases Fallible.runs_bind_ok.mp (runs_closingOnFailure_ok.mp (runs_closingOnFailure_ok.mp hooks))
    with ⟨_, _, _, rfl, -, rfl, same⟩
  cases same
  exact ⟨configuration, family, channel, descriptor, address, poller, wake,
    ⟨configuring, resolving, subscribing, _, rfl, configured_of_runs configures,
      Family.resolved_of_runs resolves, subscribed_of_runs opens⟩, named, by simp, rfl⟩

/-- If what comes after a private action leaves no name taken when it fails, so does all. -/
theorem namedAfter_of_bind {α β : Type} {action : Fallible α} {next : α → Fallible β}
    {failure : Failure} (careful : action.run.Careful Call.Private)
    (later : ∀ value late, (next value).run.Runs late (.error failure) → namedAfter [] late = [])
    (runs : (action >>= next).run.Runs trace (.error failure)) : namedAfter [] trace = [] := by
  rcases Fallible.runs_bind.mp runs with ⟨_, fails, -⟩ | ⟨early, late, value, rfl, first, second⟩
  · exact namedAfter_private (careful.calls_of_runs fails)
  · rw [namedAfter_append, namedAfter_private (careful.calls_of_runs first)]
    exact later value late second

/-- A start that fails leaves no name taken. -/
theorem namedAfter_of_start {failure : Failure}
    (runs : (start config socketName).run.Runs trace (.error failure)) :
    namedAfter [] trace = [] := by
  have quiet : (configure config socketName).run.Careful Call.Private :=
    (careful_configure config socketName).mono fun _ => Call.Looks.takesOnly
  refine namedAfter_of_bind quiet ?_ runs
  intro configuration _ runs
  refine namedAfter_of_bind (Family.careful_resolve _) ?_ runs
  intro family _ runs
  refine namedAfter_of_bind (careful_openChannel family) ?_ runs
  intro channel _ runs
  rcases runs_closingOnFailure.mp runs with ⟨_, same, -⟩ | ⟨_, early, -, fails, rfl⟩
  · cases same
  · rw [namedAfter_append, namedAfter_of_openRouter fails]
    rfl

end Daemon

end RadioRelay
