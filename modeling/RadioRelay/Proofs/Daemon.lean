import RadioRelay.Proofs.Signals
import RadioRelay.Proofs.Startup

/-!
# The daemon from its start to its end

The daemon finds out its configuration, checks it, and then starts; what comes after is the loop,
which takes no name any more (`Daemon.unbound_of_looping`). The check sees the configuration with
the name that was asked for, so what a file says about the name has then no influence at all
(`Daemon.interpreted_of_alike`).
-/

namespace RadioRelay

open Program Fallible

/-! ### What a file says about the name -/

/-- Two entries set the same thing, and to the same value unless it is the socket name. -/
def Yaml.Entry.Alike (first second : Yaml.Entry) : Prop :=
  first.key.text = second.key.text
    ∧ (first.key.text ≠ "socket_name" → first.value = second.value)

/-- Two files say the same but for the socket name. -/
def AlikeFiles (first second : Bytes) : Prop :=
  ∃ firstText secondText firstEntries secondEntries,
    first = firstText.toUTF8.toList ∧ second = secondText.toUTF8.toList
      ∧ Yaml.entries? firstText = some firstEntries
      ∧ Yaml.entries? secondText = some secondEntries
      ∧ List.Forall₂ Yaml.Entry.Alike firstEntries secondEntries

namespace Daemon

variable {config socketName : Option String} {name path : String}
  {configuration first second : Configuration}

theorem assign_of_alike {setting : Setting} {value other : Yaml.Scalar}
    (same : overrideName (some name) first = overrideName (some name) second)
    (agree : setting ≠ .socketName → value = other) :
    (setting.assign? first value).map (overrideName (some name))
      = (setting.assign? second other).map (overrideName (some name)) := by
  rcases first with ⟨_, _, _, _, _, _⟩
  rcases second with ⟨_, _, _, _, _, _⟩
  cases same
  cases setting with
  | socketName => rfl
  | _ =>
    rcases agree (by decide) with rfl
    simp [Setting.assign?, overrideName, Function.comp_def]

theorem ofEntries_of_alike {entries others : List Yaml.Entry} {given : List Setting}
    (alike : List.Forall₂ Yaml.Entry.Alike entries others)
    (same : overrideName (some name) first = overrideName (some name) second) :
    (Configuration.ofEntries? given first entries).map (overrideName (some name))
      = (Configuration.ofEntries? given second others).map (overrideName (some name)) := by
  induction alike generalizing given first second with
  | nil => exact congrArg some same
  | @cons entry other entries others head _ ih =>
    unfold Configuration.ofEntries?
    rw [← head.1]
    rcases known : Setting.ofKey? entry.key.text with _ | setting
    · rfl
    by_cases already : setting ∈ given
    · simp [already]
    have agree : setting ≠ .socketName → entry.value = other.value := by
      intro isOther
      apply head.2
      intro named
      exact isOther (Setting.key_inj ((Setting.ofKey?_eq_some_iff.mp known).symm.trans named))
    have assigned := assign_of_alike same agree
    rcases firstly : setting.assign? first entry.value with _ | next
    · rcases secondly : setting.assign? second other.value with _ | next
      · simp [already, firstly, secondly]
      · rw [firstly, secondly] at assigned
        cases assigned
    · rcases secondly : setting.assign? second other.value with _ | another
      · rw [firstly, secondly] at assigned
        cases assigned
      · rw [firstly, secondly] at assigned
        simpa [already, firstly, secondly] using ih (Option.some.inj assigned)

/-- Files that say the same but for the name come to the same under another name. -/
theorem interpreted_of_alike {α : Type} {bytes others : Bytes} (alike : AlikeFiles bytes others)
    (next : Configuration → Fallible α) :
    (interpreted path bytes >>= fun loaded => next (overrideName (some name) loaded))
      = interpreted path others >>= fun loaded => next (overrideName (some name) loaded) := by
  rcases alike with
    ⟨text, otherText, entries, otherEntries, rfl, rfl, parses, othersParse, alike⟩
  have same : ∀ pageSize, (Configuration.ofText? pageSize text).map (overrideName (some name))
      = (Configuration.ofText? pageSize otherText).map (overrideName (some name)) := by
    intro pageSize
    simpa [Configuration.ofText?, parses, othersParse] using ofEntries_of_alike alike rfl
  simp only [interpreted, Configuration.decodeText?_eq_some_iff.mpr rfl, bind_assoc]
  congr 1
  funext pageSize
  specialize same pageSize
  rcases first : Configuration.ofText? pageSize text with _ | configuration
  · rcases second : Configuration.ofText? pageSize otherText with _ | other
    · rfl
    · simp [first, second] at same
  · rcases second : Configuration.ofText? pageSize otherText with _ | other
    · simp [first, second] at same
    · simp only [first, second, Option.map_some, Option.some.injEq] at same
      simp only [pure_bind, same]

/-! ### The whole daemon -/

/-- The loop, and closing all that the router holds. -/
def looping (router : Router) : Program (Except Failure Unit) := do
  let (outcome, router) ← router.run
  router.close
  return outcome

def proceed (path : Option String) (configuration : Configuration) : Fallible Unit := do
  check configuration
  ExceptT.lift (Program.call (.startLog configuration.logLevel))
  ExceptT.lift (Program.call (.log (sourceNotice path)))
  let family ← Family.resolve configuration.familyName
  let channel ← openChannel family
  let router ← closingOnFailure channel.socket (openRouter configuration family channel)
  ExceptT.mk (looping router)

theorem serve_eq (config socketName : Option String) :
    serve config socketName
      = (start config socketName >>= fun router => ExceptT.mk (looping router)) :=
  rfl

theorem serve_eq_proceed (config socketName : Option String) :
    serve config socketName = (do
      let path ← Configuration.resolvePath config
      let loaded ← loadOrStandard path
      proceed path (overrideName socketName loaded)) := by
  simp only [serve_eq, start, configure, proceed, bind_assoc, pure_bind]

variable {trace : Trace} {outcome : Except Failure Unit}

def Fits (name : String) : Prop := 0 < name.utf8ByteSize ∧ name.utf8ByteSize ≤ 106

/-- The configuration is within its limits if it has another name. -/
def Passes (name : String) (loaded : Configuration) : Prop :=
  ({ loaded with socketName := name } : Configuration).WithinLimits

theorem runs_proceed_of_passes {path : Option String}
    (valid : configuration.validate = .ok ())
    (runs : (proceed path configuration).run.Runs trace outcome) :
    ∃ later, trace = ⟨.startLog configuration.logLevel, ()⟩ :: later := by
  rcases Fallible.runs_bind.mp runs with ⟨failure, checks, -⟩ | ⟨_, _, _, rfl, checks, later⟩
  · have passed := (runs_check.mp checks).2
    rw [valid] at passed
    cases passed
  · rcases runs_check.mp checks with ⟨rfl, -⟩
    rcases later with ⟨_, _, rfl, -⟩
    exact ⟨_, rfl⟩

theorem runs_proceed_of_violation {path : Option String} {violation : Violation}
    (invalid : configuration.validate = .error violation)
    (runs : (proceed path configuration).run.Runs trace outcome) :
    trace = [] ∧ outcome
      = .error ((Failure.of (.invalidConfiguration violation)).during .validating) := by
  rcases Fallible.runs_bind.mp runs with ⟨failure, checks, rfl⟩ | ⟨_, _, _, rfl, checks, -⟩
  all_goals
    rcases runs_check.mp checks with ⟨rfl, same⟩
    rw [invalid] at same
    cases same
  exact ⟨rfl, rfl⟩

/-- A daemon that is asked for a name that does not fit opens nothing and fails. -/
theorem refuses_of_not_fits {name : String} (unfit : ¬ Fits name)
    (runs : (serve config (some name)).run.Runs trace outcome) :
    (∃ failure, outcome = .error failure) ∧ ∀ exchange ∈ trace, exchange.call.Looks := by
  have looks := careful_configure config (some name)
  have never : ∀ configuring configuration,
      ¬ (configure config (some name)).run.Runs configuring (.ok configuration) := by
    intro configuring configuration configures
    rcases configured_of_runs configures with ⟨⟨_, _, _, loaded, -, -, -, rfl⟩, -, limits⟩
    exact unfit limits.socketName
  rcases Fallible.runs_bind.mp runs with ⟨failure, fails, rfl⟩ | ⟨starting, _, _, -, starts, -⟩
  · refine ⟨⟨failure, rfl⟩, ?_⟩
    rcases Fallible.runs_bind.mp fails with ⟨_, configures, -⟩ | ⟨_, _, _, -, configures, -⟩
    · exact looks.calls_of_runs configures
    · exact absurd configures (never _ _)
  · rcases Fallible.runs_bind_ok.mp starts with ⟨_, _, _, -, configures, -⟩
    exact absurd configures (never _ _)

/-! ### The loop -/

theorem straight_closeAll (connections : List (ClientId × Connection)) :
    (Router.closeAll connections).Straight := by
  induction connections with
  | nil => trivial
  | cons entry connections ih => exact fun _ => ih

theorem closes_of_closeAll {connections : List (ClientId × Connection)} {result : Unit}
    (runs : (Router.closeAll connections).Runs trace result) :
    ∀ exchange ∈ trace, ∃ descriptor, exchange = ⟨.close descriptor, ()⟩ := by
  induction connections generalizing trace with
  | nil =>
    rcases runs with ⟨rfl, -⟩
    simp
  | cons entry connections ih =>
    rcases runs with ⟨_, rest, rfl, later⟩
    rw [List.forall_mem_cons]
    exact ⟨⟨_, rfl⟩, ih later⟩

theorem closes_of_runs {router : Router} {result : Unit} (runs : router.close.Runs trace result) :
    ∀ exchange ∈ trace, ∃ descriptor, exchange = ⟨.close descriptor, ()⟩ := by
  rcases Program.runs_bind.mp runs with
    ⟨_, _, _, rfl, closes, _, _, rfl, _, _, rfl, _, _, rfl, _, _, rfl, rfl, -⟩
  rw [List.forall_mem_append]
  refine ⟨closes_of_closeAll closes, ?_⟩
  simp only [List.forall_mem_cons]
  exact ⟨⟨_, rfl⟩, ⟨_, rfl⟩, ⟨_, rfl⟩, ⟨_, rfl⟩, List.forall_mem_nil _⟩

theorem runs_looping {router : Router} (runs : (looping router).Runs trace outcome) :
    ∃ running closing last, trace = running ++ closing
      ∧ router.run.Runs running (outcome, last)
      ∧ ∀ exchange ∈ closing, ∃ descriptor, exchange = ⟨.close descriptor, ()⟩ := by
  rcases Program.runs_bind.mp runs with ⟨running, _, ⟨ending, last⟩, rfl, routes, later⟩
  rcases Program.runs_bind.mp later with ⟨closing, _, _, rfl, closes, rfl, rfl⟩
  rw [List.append_nil]
  exact ⟨running, closing, last, rfl, routes, closes_of_runs closes⟩

theorem settles_looping (router : Router) : (looping router).Settles := by
  apply Repeats.settles
  refine Repeats.bind (Router.repeats_run router) ?_
  rintro ⟨ending, last⟩
  refine Repeats.bind (Straight.repeats ?_) fun _ => trivial
  exact (straight_closeAll _).bind fun _ _ _ _ _ => trivial

/-- A router that is at work takes no name. -/
theorem unbound_of_looping {router : Router} (begun : (looping router).Begins trace)
    (consistent : router.standing.Consistent) :
    ∀ exchange ∈ trace, ∀ socket target, exchange.call ≠ .bind socket target := by
  rcases begun.completes (settles_looping router) with ⟨rest, outcome, runs, -⟩
  rcases runs_looping runs with ⟨running, closing, last, split, routes, closes⟩
  have moved := (Router.moved_of_run routes consistent).course
  have unbound : ∀ exchange ∈ running ++ closing, ∀ socket target,
      exchange.call ≠ .bind socket target := by
    rw [List.forall_mem_append]
    refine ⟨unbound_of_course moved, ?_⟩
    intro exchange exchangeMem
    rcases closes exchange exchangeMem with ⟨descriptor, rfl⟩
    simp
  intro exchange exchangeMem
  exact unbound exchange (split ▸ List.mem_append_left _ exchangeMem)

/-- The router works for a family and a channel, with buffers of the sizes of a configuration. -/
structure WorksFor (family : UInt16) (channel : Channel) (configuration : Configuration)
    (router : Router) : Prop where
  family : router.family = family
  kernel : router.kernel = channel.socket
  kernelBuffer : router.kernelBuffer.capacity = configuration.kernelBuffer
  clientBuffer : router.clientBuffer.capacity = configuration.maxClientMessage

theorem worksFor_of_course {family : UInt16} {channel : Channel} {listener : Listener}
    {poller wake : Descriptor} {state : Router}
    (course : Course Router.GoesOn (Router.assembled listener channel.socket
      (.ofConfiguration family configuration) poller wake) trace state) :
    WorksFor family channel configuration state := by
  have same := (Router.moved_of_goingOn course Router.consistent_assembled).fixtures
  constructor
  · exact congrArg Fixtures.family same
  · exact congrArg Fixtures.kernel same
  · exact congrArg Fixtures.kernelCapacity same
  · exact congrArg Fixtures.clientCapacity same

/-! ### The order -/

/-- Nobody was accepted, and no name stays taken. -/
structure Abandoned (trace : Trace) : Prop where
  nobody : ∀ exchange ∈ trace, ∀ listener, exchange.call ≠ .accept listener
  nameless : namedAfter [] trace = []

/-- Everything was got ready and nothing of it failed, also the listener of the configured name. The
loop ran with the family that was resolved and the buffers that were configured, and all was closed
in the end. -/
structure Operated (config socketName : Option String) (trace : Trace)
    (outcome : Except Failure Unit) : Prop where
  parts : ∃ starting running closing configuration family channel router address last,
    trace = starting ++ (running ++ closing)
      ∧ (start config socketName).run.Runs starting (.ok router)
      ∧ (∀ exchange ∈ starting, exchange.failed = false)
      ∧ Prepared config socketName starting configuration family channel
      ∧ address.key = 0 :: configuration.socketName.toUTF8.toList
      ∧ ⟨.bind router.listener.descriptor (.address address), .ok ()⟩ ∈ starting
      ∧ router.run.Runs running (outcome, last)
      ∧ (∀ past state, Course Router.GoesOn router past state →
        WorksFor family channel configuration state)
      ∧ ∀ exchange ∈ closing, ∃ descriptor, exchange = ⟨.close descriptor, ()⟩

/-- The name is taken only when everything else is in place, also while the loop is running. -/
theorem prepared_of_binding {past later : Trace} {socket : Descriptor} {address : LocalAddress}
    {answer : Attempt Unit}
    (begun : (serve config socketName).run.Begins
      (past ++ ⟨.bind socket (.address address), answer⟩ :: later)) :
    ∃ configuration family channel, Prepared config socketName past configuration family channel
      ∧ LocalAddress.ofName configuration.socketName = .ok address := by
  rcases Fallible.begins_bind begun with inStart | ⟨starting, late, router, split, starts, loops⟩
  · exact prepared_of_begins inStart
  rcases append_eq_append_cons split.symm with ⟨rest, rfl, rfl⟩ | ⟨rest, rfl, -⟩
  · rcases prepared_of_runs starts with ⟨_, _, _, _, _, _, _, -, -, -, rfl⟩
    have unbound := unbound_of_looping loops Router.consistent_assembled
    exact absurd rfl (unbound ⟨.bind socket (.address address), answer⟩ (by simp) socket _)
  · apply prepared_of_begins
    apply Runs.begins
    rw [List.append_nil]
    exact starts

theorem abandoned_of_runs {failure : Failure}
    (fails : (start config socketName).run.Runs trace (.error failure)) : Abandoned trace where
  nobody := by
    intro exchange exchangeMem listener
    have takes := (careful_start config socketName).calls_of_runs fails exchange exchangeMem
    intro accepts
    rw [accepts] at takes
    exact takes
  nameless := namedAfter_of_start fails

theorem operated_of_runs {starting late : Trace} {router : Router}
    (starts : (start config socketName).run.Runs starting (.ok router))
    (loops : (looping router).Runs late outcome) :
    Operated config socketName (starting ++ late) outcome := by
  rcases prepared_of_runs starts with
    ⟨configuration, family, channel, descriptor, address, poller, wake, prepared, named, binds, rfl⟩
  rcases runs_looping loops with ⟨running, closing, last, rfl, routes, closes⟩
  exact ⟨starting, running, closing, configuration, family, channel, _, address, last, rfl, starts,
    (careful_start config socketName).strict _ _ starts, prepared,
    LocalAddress.key_of_ofName named, binds, routes,
    fun _ _ course => worksFor_of_course course, closes⟩

/-- After the file was found and read, the check decides whether the daemon goes on. -/
theorem proceeds_of_runs {looking loading rest : Trace} {path : Option String}
    {loaded : Configuration}
    (looks : Configuration.Located config looking path)
    (loads : Configuration.Loaded path loading loaded) :
    (serve config socketName).run.Runs (looking ++ (loading ++ rest)) outcome
      ↔ (proceed path (overrideName socketName loaded)).run.Runs rest outcome := by
  rw [serve_eq_proceed, runs_bind_iff_of_runs (Configuration.runs_resolvePath_iff.mpr looks),
    runs_bind_iff_of_runs (runs_loadOrStandard_iff.mpr loads)]

/-- What a file says about the name changes nothing if another name is asked for. -/
theorem runs_iff_of_alike {looking rest : Trace} {bytes others : Bytes}
    (looks : Configuration.Located config looking (some path))
    (alike : AlikeFiles bytes others) :
    (serve config (some name)).run.Runs (looking ++ ⟨.readFile path, .ok bytes⟩ :: rest) outcome
      ↔ (serve config (some name)).run.Runs (looking ++ ⟨.readFile path, .ok others⟩ :: rest)
        outcome := by
  have reads : ∀ read : Bytes, (attempting (.readingConfig path)
      (Program.call (.readFile path))).run.Runs [⟨.readFile path, .ok read⟩] (.ok read) :=
    fun read => ⟨.ok read, [], rfl, rfl, rfl⟩
  have reading : ∀ read : Bytes,
      (serve config (some name)).run.Runs (looking ++ ⟨.readFile path, .ok read⟩ :: rest) outcome
        ↔ (interpreted path read >>= fun loaded =>
          proceed (some path) (overrideName (some name) loaded)).run.Runs rest outcome := by
    intro read
    rw [serve_eq_proceed, runs_bind_iff_of_runs (Configuration.runs_resolvePath_iff.mpr looks),
      loadOrStandard_eq, bind_assoc]
    exact runs_bind_iff_of_runs (reads read)
  rw [reading bytes, reading others, interpreted_of_alike alike]

/-- What can be relied on when the daemon runs, whatever is asked for and whatever is answered. -/
structure InOrder (config socketName : Option String) : Prop where
  /-- A name is taken only when everything else is in place, and it is that of the configuration. -/
  binds : ∀ past socket address answer later,
    (serve config socketName).run.Begins
      (past ++ ⟨.bind socket (.address address), answer⟩ :: later) →
    ∃ configuration family channel, Prepared config socketName past configuration family channel
      ∧ LocalAddress.ofName configuration.socketName = .ok address
      ∧ address.key = 0 :: configuration.socketName.toUTF8.toList
  /-- A configuration that was read is checked with the name that was asked for. -/
  checks : ∀ looking loading rest path loaded outcome,
    Configuration.Located config looking path → Configuration.Loaded path loading loaded →
    (serve config socketName).run.Runs (looking ++ (loading ++ rest)) outcome →
    (Passes (socketName.getD loaded.socketName) loaded →
      ∃ later, rest = ⟨.startLog loaded.logLevel, ()⟩ :: later)
    ∧ (¬ Passes (socketName.getD loaded.socketName) loaded → rest = [] ∧ ∃ violation,
      outcome = .error ((Failure.of (.invalidConfiguration violation)).during .validating))
  /-- If a name is asked for, it does not matter which one the file gives. -/
  overrides : ∀ name looking path bytes others rest outcome, socketName = some name →
    Configuration.Located config looking (some path) → AlikeFiles bytes others →
    ((serve config socketName).run.Runs (looking ++ ⟨.readFile path, .ok bytes⟩ :: rest) outcome
      ↔ (serve config socketName).run.Runs (looking ++ ⟨.readFile path, .ok others⟩ :: rest)
        outcome)
  /-- If a name is asked for that does not fit, nothing is opened. -/
  refuses : ∀ name trace outcome, socketName = some name → ¬ Fits name →
    (serve config socketName).run.Runs trace outcome →
    (∃ failure, outcome = .error failure) ∧ ∀ exchange ∈ trace, exchange.call.Looks
  /-- The start comes to an end. -/
  ends : ∀ script limit, ((start config socketName).run.rehearse script limit).1.isSome
  /-- If the start fails, the daemon fails and leaves nothing behind. -/
  abandons : ∀ trace failure, (start config socketName).run.Runs trace (.error failure) →
    (serve config socketName).run.Runs trace (.error failure) ∧ Abandoned trace
  /-- If it does not, the loop runs with what was found out. -/
  operates : ∀ trace outcome, (serve config socketName).run.Runs trace outcome →
    (∃ failure, (start config socketName).run.Runs trace (.error failure)
      ∧ outcome = .error failure)
    ∨ Operated config socketName trace outcome

/-- The daemon takes its name last. It checks the configuration with the name that was asked for, so
that the name in a file does not matter then, while a name that does not fit is always refused. If
anything fails before the loop, the daemon fails, nobody was accepted and no name stays taken.
Otherwise the loop runs with the family and the buffers that were found out. -/
theorem serve_in_order (config socketName : Option String) : InOrder config socketName := by
  constructor
  case binds =>
    intro past socket address answer later begun
    rcases prepared_of_binding begun with ⟨configuration, family, channel, prepared, named⟩
    exact ⟨configuration, family, channel, prepared, named, LocalAddress.key_of_ofName named⟩
  case checks =>
    intro looking loading rest path loaded outcome looks loads runs
    have proceeds := (proceeds_of_runs looks loads).mp runs
    have decides : (overrideName socketName loaded).validate = .ok ()
        ↔ Passes (socketName.getD loaded.socketName) loaded := Configuration.validate_eq_ok_iff
    rw [← decides]
    constructor
    · intro valid
      have goesOn := runs_proceed_of_passes valid proceeds
      exact goesOn
    · intro invalid
      rcases checked : (overrideName socketName loaded).validate with violation | _
      · rcases runs_proceed_of_violation checked proceeds with ⟨nothing, fails⟩
        exact ⟨nothing, violation, fails⟩
      · exact absurd checked invalid
  case overrides =>
    rintro name looking path bytes others rest outcome rfl looks alike
    exact runs_iff_of_alike looks alike
  case refuses =>
    rintro name trace outcome rfl unfit runs
    exact refuses_of_not_fits unfit runs
  case ends =>
    intro script limit
    exact (careful_start config socketName).straight.ends limit
  case abandons =>
    intro trace failure fails
    exact ⟨Fallible.runs_bind.mpr (Or.inl ⟨failure, fails, rfl⟩), abandoned_of_runs fails⟩
  case operates =>
    intro trace outcome runs
    rcases Fallible.runs_bind.mp runs with failed | ⟨starting, late, router, rfl, starts, loops⟩
    · exact Or.inl failed
    · exact Or.inr (operated_of_runs starts loops)

/-- A file with an empty name is found, and everything is granted. Whether termination signals can
be handled is open; the first wait finds that one came. -/
def launching (handled : Attempt Unit) (past : Trace) : (call : Call) → call.Answer
  | .fileExists path => path = "wifirouter.yml"
  | .readFile _ => .ok "socket_name: ''\nkernel_buffer: 8192\n".toUTF8.toList
  | .pageSize => (4096 : Int)
  | .openSocket .kernel _ => .ok ⟨3⟩
  | .openSocket .process _ => .ok ⟨4⟩
  | .openPoller => .ok ⟨5⟩
  | .openEvent => .ok ⟨6⟩
  | .localPort _ => .ok (77 : UInt32)
  | .send _ message => .ok message.length
  -- the number of the family is 24
  | .receiveInBackground _ _ => .ok [28, 0, 0, 0, 16, 0, 0, 0, 0, 0, 0, 0, 77, 0, 0, 0,
      1, 2, 0, 0, 6, 0, 1, 0, 24, 0, 0, 0]
  | .receiveReply _ =>
    .ok ([36, 0, 0, 0, 2, 0, 0, 0, 1, 0, 0, 0, 77, 0, 0, 0] ++ List.replicate 20 0)
  | .bind _ _ | .listen _ _ | .watch _ _ _ => .ok ()
  | .handleSignals _ => handled
  | .wait _ _ _ => .ok ⟨1, [⟨⟨6⟩, readable⟩]⟩
  | .readEvent _ => if past.any (·.takesBack ⟨6⟩) then .error .wouldBlock else .ok (8 : Nat)
  | call => call.refusal

/-- With another name the file is good, and the daemon works until the signal comes. It has asked for
the number of the family by its name, and then it has asked for the frames of that number. The
buffers are those of the file and of the standard. If signals cannot be handled, the name that was
taken is given up again. An empty name is refused. -/
theorem serve_in_order_launching :
    (∃ trace, (serve none (some "radio")).run.Runs trace (.ok ())
      ∧ Operated none (some "radio") trace (.ok ())
      ∧ trace.filterMap Exchange.sent? = [
        (⟨3⟩, [40, 0, 0, 0, 16, 0, 5, 0, 0, 0, 0, 0, 77, 0, 0, 0, 3, 2, 0, 0, 19, 0, 2, 0]
          ++ "MAC80211_HWSIM".toUTF8.toList ++ [0, 0], .ok 40),
        (⟨3⟩, [20, 0, 0, 0, 24, 0, 5, 0, 1, 0, 0, 0, 77, 0, 0, 0, 1, 0, 0, 0], .ok 20)])
    ∧ (∃ starting router, (start none (some "radio")).run.Runs starting (.ok router)
      ∧ router.family = 24 ∧ router.kernelBuffer.capacity = 8192
      ∧ router.clientBuffer.capacity = 4096)
    ∧ (∃ past later failure, (serve none (some "radio")).run.Runs (past ++ later) (.error failure)
      ∧ namedAfter [] past ≠ [] ∧ Abandoned (past ++ later))
    ∧ ∃ trace failure, (serve none (some "")).run.Runs trace (.error failure) ∧ trace.length = 3
      ∧ ∀ exchange ∈ trace, exchange.call.Looks := by
  have order := serve_in_order none (some "radio")
  refine ⟨?_, ?_, ?_, ?_⟩
  · obtain ⟨failure | _, runs, succeeds⟩ : ∃ outcome, (serve none (some "radio")).run.Runs
        ((serve none (some "radio")).run.rehearse (launching (.ok ())) 8).2 outcome
          ∧ outcome.isOk := exists_runs_of_any (by decide +kernel)
    · cases succeeds
    · rcases order.operates _ _ runs with ⟨_, -, same⟩ | operated
      · cases same
      · exact ⟨_, runs, operated, by decide +kernel⟩
  · obtain ⟨failure | router, runs, made⟩ : ∃ outcome, (start none (some "radio")).run.Runs
        ((start none (some "radio")).run.rehearse (launching (.ok ())) 8).2 outcome
          ∧ outcome.toOption.any (fun router => router.family = 24
            ∧ router.kernelBuffer.capacity = 8192 ∧ router.clientBuffer.capacity = 4096) :=
      exists_runs_of_any (by decide +kernel)
    · cases made
    · exact ⟨_, router, runs, of_decide_eq_true made⟩
  · obtain ⟨failure | _, runs, fails⟩ : ∃ outcome, (start none (some "radio")).run.Runs
        ((start none (some "radio")).run.rehearse (launching (.error .wouldBlock)) 8).2 outcome
          ∧ !outcome.isOk := exists_runs_of_any (by decide +kernel)
    · have named : namedAfter [] (((start none (some "radio")).run.rehearse
          (launching (.error .wouldBlock)) 8).2.take 24) ≠ [] := by
        decide +kernel
      rw [← List.take_append_drop 24 (Prod.snd _)] at runs
      rcases order.abandons _ _ runs with ⟨serves, abandoned⟩
      exact ⟨_, _, failure, serves, named, abandoned⟩
    · cases fails
  · obtain ⟨outcome, runs, -⟩ : ∃ outcome, (serve none (some "")).run.Runs
        ((serve none (some "")).run.rehearse (launching (.ok ())) 8).2 outcome
          ∧ true := exists_runs_of_any (by decide +kernel)
    have unfit : ¬ Fits "" := by
      unfold Fits
      decide
    have length : ((serve none (some "")).run.rehearse (launching (.ok ())) 8).2.length = 3 := by
      decide +kernel
    rcases (serve_in_order none (some "")).refuses "" _ _ rfl unfit runs with
      ⟨⟨failure, rfl⟩, looks⟩
    exact ⟨_, failure, runs, length, looks⟩

end Daemon

end RadioRelay
