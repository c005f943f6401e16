import RadioRelay.Proofs.Mirroring
import RadioRelay.Proofs.Handshake

/-!
# The answer to a subscription

A subscription waits for a reply that acknowledges or refuses its request, in at most so many
datagrams. A datagram counts only as a whole: what cannot be received or read ends the wait. Over
every stream of datagrams, the subscription succeeds exactly if an acknowledgement of its own comes
in time and no refusal before it, and it fails with the kernel's error number exactly if a refusal
comes first. All other replies make no difference (`Channel.subscribe_on_stream`). A stream may hold
any batches at all: each of them is what some datagram says (`Reply.parseAll_compose`).
-/

namespace RadioRelay

open Program Fallible

def Exchange.awaited : Exchange → Bool
  | ⟨.receiveReply _, _⟩ => true
  | _ => false

/-! ### The verdict of a stream of datagrams -/

namespace Channel

/-- What comes of one receive: the replies of a datagram, or why there are none. -/
abbrev Reading := Except Cause (List Reply)

/-- Reads what was received as a whole. -/
def read : Attempt Bytes → Reading
  | .error _ => .error .netlinkReceive
  | .ok datagram =>
    match Reply.parseAll datagram with
    | none => .error .unreadableReply
    | some replies => .ok replies

/-- The failure of a request that the kernel refused. -/
def refusal (errno : Errno) : Failure := (Failure.system errno).during .requestingFromKernel

/-- What comes of a stream within so many datagrams, and how many of them it takes. -/
def judge (sequence port : UInt32) : Nat → (Nat → Reading) → Nat × Except Failure Unit
  | 0, _ => (0, .error (.of .noReply))
  | datagrams + 1, readings =>
    match readings 0 with
    | .error cause => (1, .error (.of cause))
    | .ok replies =>
      match Reply.verdict? sequence port replies with
      | some verdict => (1, verdict.mapError refusal)
      | none =>
        let later := judge sequence port datagrams fun number => readings (number + 1)
        (later.1 + 1, later.2)

/-- All that the datagrams before one of them say. -/
def said (readings : Nat → Reading) (index : Nat) : List Reply :=
  (List.range index).flatMap fun number => (readings number).toOption.getD []

/-- A reply comes within so many datagrams, after other replies. Its datagram and all before it were
received and read as a whole. -/
def Reaches (readings : Nat → Reading) (datagrams : Nat) (earlier : List Reply) (reply : Reply) :
    Prop :=
  ∃ index < datagrams, (∀ number ≤ index, (readings number).isOk)
    ∧ ∃ before after, readings index = .ok (before ++ reply :: after)
      ∧ earlier = said readings index ++ before

section Streams

variable {sequence port : UInt32} {readings others : Nat → Reading} {datagrams : Nat}
  {earlier : List Reply} {reply : Reply}

theorem said_succ {first : List Reply} {index : Nat} (whole : readings 0 = .ok first) :
    said readings (index + 1) = first ++ said (fun number => readings (number + 1)) index := by
  simp [said, List.range_succ_eq_map, List.flatMap_map, whole, Except.toOption]

theorem reaches_succ :
    Reaches readings (datagrams + 1) earlier reply ↔ ∃ first, readings 0 = .ok first
      ∧ ((∃ after, first = earlier ++ reply :: after)
        ∨ ∃ rest, earlier = first ++ rest
          ∧ Reaches (fun number => readings (number + 1)) datagrams rest reply) := by
  constructor
  · rintro ⟨_ | index, inTime, whole, before, after, inside, rfl⟩
    · exact ⟨_, inside, Or.inl ⟨after, rfl⟩⟩
    · have firstWhole := whole 0 (Nat.zero_le _)
      cases first : readings 0 with
      | error cause =>
        rw [first] at firstWhole
        cases firstWhole
      | ok replies =>
        refine ⟨replies, rfl, Or.inr ⟨_, ?_, index, by omega, ?_, before, after, inside, rfl⟩⟩
        · rw [said_succ first, List.append_assoc]
        · exact fun number early => whole (number + 1) (by omega)
  · rintro ⟨first, whole, ⟨after, rfl⟩ | ⟨rest, rfl, index, inTime, wholeLater, before, after,
      inside, rfl⟩⟩
    · refine ⟨0, Nat.zero_lt_succ _, ?_, earlier, after, whole, rfl⟩
      intro number early
      rw [Nat.le_zero.mp early, whole]
      rfl
    · refine ⟨index + 1, by omega, ?_, before, after, inside, ?_⟩
      · rintro (_ | number) early
        · rw [whole]
          rfl
        · exact wholeLater number (by omega)
      · rw [said_succ whole, List.append_assoc]

theorem judge_of_error {cause : Cause} (fails : readings 0 = .error cause) :
    judge sequence port (datagrams + 1) readings = (1, .error (.of cause)) := by
  simp only [judge, fails]

theorem judge_of_some {replies : List Reply} {verdict : Except Errno Unit}
    (whole : readings 0 = .ok replies)
    (decided : Reply.verdict? sequence port replies = some verdict) :
    judge sequence port (datagrams + 1) readings = (1, verdict.mapError refusal) := by
  simp only [judge, whole, decided]

theorem judge_of_none {replies : List Reply} (whole : readings 0 = .ok replies)
    (undecided : Reply.verdict? sequence port replies = none) :
    judge sequence port (datagrams + 1) readings =
      let later := judge sequence port datagrams fun number => readings (number + 1)
      (later.1 + 1, later.2) := by
  simp only [judge, whole, undecided]

theorem judge_taken_le : (judge sequence port datagrams readings).1 ≤ datagrams := by
  induction datagrams generalizing readings with
  | zero => exact Nat.le_refl 0
  | succ datagrams ih =>
    cases whole : readings 0 with
    | error cause => rw [judge_of_error whole]; simp
    | ok replies =>
      cases decided : Reply.verdict? sequence port replies with
      | some verdict => rw [judge_of_some whole decided]; simp
      | none => rw [judge_of_none whole decided]; exact Nat.succ_le_succ ih

/-- A verdict on what is said up to a reply that is reached is the verdict on the stream. -/
theorem judge_of_reaches {verdict : Except Errno Unit}
    (reached : Reaches readings datagrams earlier reply)
    (decided : Reply.verdict? sequence port (earlier ++ [reply]) = some verdict) :
    (judge sequence port datagrams readings).2 = verdict.mapError refusal := by
  induction datagrams generalizing readings earlier with
  | zero =>
    rcases reached with ⟨_, impossible, -⟩
    exact absurd impossible (Nat.not_lt_zero _)
  | succ datagrams ih =>
    rcases reaches_succ.mp reached with ⟨first, whole, ⟨after, rfl⟩ | ⟨rest, rfl, later⟩⟩
    · rw [List.append_cons] at whole
      rw [judge_of_some whole (by rw [Reply.verdict?_append, decided, Option.some_or])]
    · rw [List.append_assoc, Reply.verdict?_append] at decided
      cases early : Reply.verdict? sequence port first with
      | some other =>
        rw [early, Option.some_or] at decided
        rw [judge_of_some whole early, Option.some.inj decided]
      | none =>
        rw [early, Option.none_or] at decided
        rw [judge_of_none whole early]
        exact ih later decided

/-- A verdict on the stream is that of the first reply in it that decides. -/
theorem exists_reaches_of_judge {verdict : Except Errno Unit}
    (judged : (judge sequence port datagrams readings).2 = verdict.mapError refusal) :
    ∃ earlier reply, Reaches readings datagrams earlier reply
      ∧ (∀ other ∈ earlier, ¬ other.Decides sequence port)
      ∧ ((reply = ⟨sequence, port, .acknowledged⟩ ∧ verdict = .ok ())
        ∨ ∃ code, reply = ⟨sequence, port, .refused code⟩
          ∧ verdict = .error ⟨code.toInt.natAbs⟩) := by
  induction datagrams generalizing readings with
  | zero => cases verdict <;> cases judged
  | succ datagrams ih =>
    cases whole : readings 0 with
    | error cause =>
      rw [judge_of_error whole] at judged
      cases verdict <;> cases judged
    | ok replies =>
      cases decided : Reply.verdict? sequence port replies with
      | some other =>
        rw [judge_of_some whole decided] at judged
        obtain rfl : other = verdict := by
          rcases other with _ | _ <;> rcases verdict with _ | _ <;> cases judged <;> rfl
        rcases Reply.exists_first_of_verdict decided with
          ⟨before, reply, after, rfl, undecided, which⟩
        exact ⟨before, reply, reaches_succ.mpr ⟨_, whole, Or.inl ⟨after, rfl⟩⟩, undecided, which⟩
      | none =>
        rw [judge_of_none whole decided] at judged
        rcases ih judged with ⟨rest, reply, later, undecided, which⟩
        refine ⟨replies ++ rest, reply, reaches_succ.mpr ⟨_, whole, Or.inr ⟨rest, rfl, later⟩⟩,
          ?_, which⟩
        exact List.forall_mem_append.mpr ⟨Reply.verdict?_eq_none_iff.mp decided, undecided⟩

theorem judge_eq_ok_iff :
    (judge sequence port datagrams readings).2 = .ok () ↔
      ∃ earlier, Reaches readings datagrams earlier ⟨sequence, port, .acknowledged⟩
        ∧ ∀ code, ⟨sequence, port, .refused code⟩ ∉ earlier := by
  constructor
  · intro judged
    have decided : (judge sequence port datagrams readings).2
      = (Except.ok () : Except Errno Unit).mapError refusal := judged
    rcases exists_reaches_of_judge decided with
      ⟨earlier, _, reached, undecided, ⟨rfl, -⟩ | ⟨_, -, same⟩⟩
    · exact ⟨earlier, reached, fun code refused => undecided _ refused Reply.decides_refused⟩
    · cases same
  · rintro ⟨earlier, reached, unrefused⟩
    exact judge_of_reaches reached
      (Reply.verdict?_eq_ok_iff.mpr ⟨earlier, [], rfl, unrefused⟩)

theorem judge_eq_refusal_iff {errno : Errno} :
    (judge sequence port datagrams readings).2 = .error (refusal errno) ↔
      ∃ earlier code, Reaches readings datagrams earlier ⟨sequence, port, .refused code⟩
        ∧ (∀ other ∈ earlier, ¬ other.Decides sequence port) ∧ errno = ⟨code.toInt.natAbs⟩ := by
  constructor
  · intro judged
    have decided : (judge sequence port datagrams readings).2
      = (Except.error errno : Except Errno Unit).mapError refusal := judged
    rcases exists_reaches_of_judge decided with
      ⟨earlier, _, reached, undecided, ⟨-, same⟩ | ⟨code, rfl, same⟩⟩
    · cases same
    · exact ⟨earlier, code, reached, undecided, Except.error.inj same⟩
  · rintro ⟨earlier, code, reached, undecided, rfl⟩
    exact judge_of_reaches reached
      (Reply.verdict?_eq_error_iff.mpr ⟨earlier, code, [], rfl, undecided, rfl⟩)

theorem judge_congr
    (alike : ∀ number < datagrams,
      (readings number).map (List.filter (Reply.Decides sequence port))
        = (others number).map (List.filter (Reply.Decides sequence port))) :
    judge sequence port datagrams readings = judge sequence port datagrams others := by
  induction datagrams generalizing readings others with
  | zero => rfl
  | succ datagrams ih =>
    have alikeLater : ∀ number < datagrams,
        (readings (number + 1)).map (List.filter (Reply.Decides sequence port))
          = (others (number + 1)).map (List.filter (Reply.Decides sequence port)) :=
      fun number inTime => alike (number + 1) (Nat.succ_lt_succ inTime)
    have later := ih alikeLater
    have now := alike 0 (Nat.zero_lt_succ _)
    cases first : readings 0 with
    | error cause =>
      cases second : others 0 with
      | ok => rw [first, second] at now; cases now
      | error other =>
        rw [first, second] at now
        cases now
        rw [judge_of_error first, judge_of_error second]
    | ok replies =>
      cases second : others 0 with
      | error => rw [first, second] at now; cases now
      | ok otherReplies =>
        rw [first, second] at now
        -- Both datagrams hold the same replies that decide, so they come to the same verdict.
        have same : Reply.verdict? sequence port replies
            = Reply.verdict? sequence port otherReplies := by
          rw [← Reply.verdict?_filter, Except.ok.inj now, Reply.verdict?_filter]
        cases decided : Reply.verdict? sequence port replies with
        | some verdict => rw [judge_of_some first decided, judge_of_some second (same ▸ decided)]
        | none =>
          rw [judge_of_none first decided, judge_of_none second (same ▸ decided), later]

end Streams

/-! ### Runs of a subscription -/

section Runs

variable {channel : Channel} {arrivals : Nat → Attempt Bytes} {datagrams : Nat}

def receives (socket : Descriptor) (arrivals : Nat → Attempt Bytes) (count : Nat) : Trace :=
  (List.range count).map fun number => ⟨.receiveReply socket, arrivals number⟩

/-- A request is taken with this result, and answered by a stream of datagrams. -/
def replying (sent : Nat) (arrivals : Nat → Attempt Bytes) : Script := fun past call =>
  match call with
  | .send _ _ => .ok sent
  | .receiveReply _ => arrivals (past.countP Exchange.awaited)
  | other => other.refusal

theorem receives_succ {socket : Descriptor} {count : Nat} :
    receives socket arrivals (count + 1)
      = ⟨.receiveReply socket, arrivals 0⟩
        :: receives socket (fun number => arrivals (number + 1)) count := by
  simp [receives, List.range_succ_eq_map, Function.comp_def]

theorem read_eq_ok_iff {arrival : Attempt Bytes} {replies : List Reply} :
    read arrival = .ok replies ↔
      ∃ datagram, arrival = .ok datagram ∧ Reply.parseAll datagram = some replies := by
  cases arrival with
  | error errno => simp [read]
  | ok datagram => cases parsed : Reply.parseAll datagram <;> simp [read, parsed]

theorem runs_awaitVerdict_of_error {arrival : Attempt Bytes} {cause : Cause}
    (fails : read arrival = .error cause) :
    (channel.awaitVerdict (datagrams + 1)).run.Runs [⟨.receiveReply channel.socket, arrival⟩]
      (.error (.of cause)) := by
  cases arrival with
  | error errno =>
    cases fails
    exact ⟨.error errno, [], rfl, rfl, rfl⟩
  | ok datagram =>
    refine Fallible.runs_bind.mpr (Or.inr ⟨_, [], datagram, rfl, ⟨.ok datagram, [], rfl, rfl, rfl⟩,
      ?_⟩)
    cases parsed : Reply.parseAll datagram with
    | some replies => simp [read, parsed] at fails
    | none =>
      simp only [read, parsed] at fails
      cases fails
      exact ⟨rfl, rfl⟩

theorem runs_awaitVerdict_of_ok {arrival : Attempt Bytes} {replies : List Reply} {later : Trace}
    {outcome : Except Failure Unit} (whole : read arrival = .ok replies)
    (goesOn : match Reply.verdict? channel.sequence channel.port replies with
      | some verdict => later = [] ∧ outcome = verdict.mapError refusal
      | none => (channel.awaitVerdict datagrams).run.Runs later outcome) :
    (channel.awaitVerdict (datagrams + 1)).run.Runs
      (⟨.receiveReply channel.socket, arrival⟩ :: later) outcome := by
  rcases read_eq_ok_iff.mp whole with ⟨datagram, rfl, parsed⟩
  refine Fallible.runs_bind.mpr (Or.inr ⟨[_], later, datagram, rfl,
    ⟨.ok datagram, [], rfl, rfl, rfl⟩, ?_⟩)
  simp only [parsed]
  rcases decided : Reply.verdict? channel.sequence channel.port replies with _ | _ | _
  all_goals
    simp only [decided] at goesOn
    exact goesOn

theorem runs_awaitVerdict :
    (channel.awaitVerdict datagrams).run.Runs
      (receives channel.socket arrivals
        (judge channel.sequence channel.port datagrams fun number => read (arrivals number)).1)
      (judge channel.sequence channel.port datagrams fun number => read (arrivals number)).2 := by
  induction datagrams generalizing arrivals with
  | zero => exact ⟨rfl, rfl⟩
  | succ datagrams ih =>
    cases whole : read (arrivals 0) with
    | error cause =>
      rw [judge_of_error whole]
      exact runs_awaitVerdict_of_error whole
    | ok replies =>
      cases decided : Reply.verdict? channel.sequence channel.port replies with
      | some verdict =>
        rw [judge_of_some whole decided]
        refine runs_awaitVerdict_of_ok whole ?_
        rw [decided]
        exact ⟨rfl, rfl⟩
      | none =>
        rw [judge_of_none whole decided, receives_succ]
        refine runs_awaitVerdict_of_ok whole ?_
        rw [decided]
        exact ih

theorem scripted_receives {socket : Descriptor} {sent count : Nat} {past : Trace}
    {passed : Nat} (counted : past.countP Exchange.awaited = passed) :
    Scripted (replying sent arrivals) past
      (receives socket (fun number => arrivals (passed + number)) count) := by
  induction count generalizing past passed with
  | zero => trivial
  | succ count ih =>
    rw [receives_succ]
    refine ⟨congrArg arrivals counted.symm, ?_⟩
    have moved : (fun number => arrivals (passed + (number + 1)))
        = fun number => arrivals (passed + 1 + number) := by
      funext number
      rw [Nat.add_right_comm, Nat.add_assoc]
    rw [moved]
    exact ih (by rw [List.countP_append, counted]; rfl)

/-- The calls of a subscription that takes so many datagrams of a stream. -/
def subscribing (channel : Channel) (family : UInt16) (sent : Nat)
    (arrivals : Nat → Attempt Bytes) (taken : Nat) (outcome : Except Failure Unit) : Trace :=
  ⟨.send channel.socket (channel.subscription family), .ok sent⟩
    :: (receives channel.socket arrivals taken
      ++ if outcome.isOk then [⟨.log (.registeredForFrames family), ()⟩] else [])

theorem during_inj {activity : Activity} {failure other : Failure} :
    failure.during activity = other.during activity ↔ failure = other := by
  rcases failure with ⟨activities, cause⟩
  rcases other with ⟨others, another⟩
  simp [Failure.during]

theorem runs_during {α : Type} {activity : Activity} {action : Fallible α} {trace : Trace}
    {outcome : Except Failure α} (runs : action.run.Runs trace outcome) :
    (Fallible.during activity action).run.Runs trace
      (outcome.mapError (Failure.during activity)) := by
  refine Program.runs_bind.mpr ⟨trace, [], outcome, (List.append_nil _).symm, runs, ?_⟩
  cases outcome <;> exact ⟨rfl, rfl⟩

theorem runs_requestFrames {family : UInt16} {sent taken : Nat} {outcome : Except Failure Unit}
    (waits : (channel.awaitVerdict maxReplyDatagrams).run.Runs
      (receives channel.socket arrivals taken) outcome) :
    (channel.requestFrames family).run.Runs
      (channel.subscribing family sent arrivals taken
        (outcome.mapError (Failure.during .registeringForFrames)))
      (outcome.mapError (Failure.during .registeringForFrames)) := by
  have waited : (Fallible.during .registeringForFrames
      (channel.awaitVerdict maxReplyDatagrams)).run.Runs _ _ := runs_during waits
  rw [subscribing, ← List.singleton_append]
  refine Fallible.runs_bind.mpr (Or.inr ⟨_, _, sent, rfl, ⟨.ok sent, [], rfl, rfl, rfl⟩, ?_⟩)
  cases outcome with
  | error failure =>
    refine Fallible.runs_bind.mpr (Or.inl ⟨_, ?_, rfl⟩)
    exact (List.append_nil (receives channel.socket arrivals taken)).symm ▸ waited
  | ok result =>
    exact Fallible.runs_bind.mpr (Or.inr ⟨_, _, _, rfl, waited, (), [], rfl, rfl, rfl⟩)

theorem scripted_subscribing {family : UInt16} {sent taken : Nat}
    {outcome : Except Failure Unit} :
    Scripted (replying sent arrivals) []
      (channel.subscribing family sent arrivals taken outcome) := by
  refine ⟨rfl, scripted_append.mpr ⟨?_, ?_⟩⟩
  · have scripted : Scripted (replying sent arrivals)
        [⟨.send channel.socket (channel.subscription family), .ok sent⟩]
        (receives channel.socket (fun number => arrivals (0 + number)) taken) :=
      scripted_receives rfl
    simp only [Nat.zero_add] at scripted
    exact scripted
  · split
    · exact ⟨rfl, trivial⟩
    · trivial

/-- A subscription is the wait for a verdict on the stream, and nothing else. -/
theorem performs_subscribe_iff {family : UInt16} {sent taken : Nat} {trace : Trace}
    {outcome : Except Failure Unit} {result : Except Failure Unit × Channel}
    (judged : judge channel.next.sequence channel.port maxReplyDatagrams
      (fun number => read (arrivals number)) = (taken, outcome)) :
    (channel.subscribe family).Performs (replying sent arrivals) trace result ↔
      trace = channel.next.subscribing family sent arrivals taken
          (outcome.mapError (Failure.during .registeringForFrames))
        ∧ result = (outcome.mapError (Failure.during .registeringForFrames), channel.next) := by
  have waits : (channel.next.awaitVerdict maxReplyDatagrams).run.Runs
      (receives channel.socket arrivals taken) outcome := by
    have runs := @runs_awaitVerdict channel.next arrivals maxReplyDatagrams
    change (channel.next.awaitVerdict maxReplyDatagrams).run.Runs (receives channel.socket arrivals
      (judge channel.next.sequence channel.port maxReplyDatagrams _).1)
      (judge channel.next.sequence channel.port maxReplyDatagrams _).2 at runs
    rwa [judged] at runs
  have performs : (channel.subscribe family).Performs (replying sent arrivals)
      (channel.next.subscribing family sent arrivals taken
        (outcome.mapError (Failure.during .registeringForFrames)))
      (outcome.mapError (Failure.during .registeringForFrames), channel.next) :=
    ⟨Program.runs_bind.mpr ⟨_, [], _, (List.append_nil _).symm, runs_requestFrames waits, rfl, rfl⟩,
      scripted_subscribing⟩
  constructor
  · exact fun again => again.unique performs
  · rintro ⟨rfl, rfl⟩
    exact performs

/-- What comes of a subscription, over every stream of datagrams. It takes at most so many of them.
It succeeds exactly if one of these holds an acknowledgement of its request and no refusal came
before, and fails with the kernel's error number exactly if the first reply that decides is a
refusal; either way the datagram and all before it must have been received and read as a whole.
Replies that do not decide make no difference. -/
theorem subscribe_on_stream (channel : Channel) (family : UInt16) (sent : Nat)
    (arrivals : Nat → Attempt Bytes) :
    ∃ taken ≤ maxReplyDatagrams, ∃ outcome : Except Failure Unit,
      (∀ trace result, (channel.subscribe family).Performs (replying sent arrivals) trace result ↔
        trace = channel.next.subscribing family sent arrivals taken outcome
          ∧ result = (outcome, channel.next))
      ∧ (outcome = .ok () ↔
        ∃ earlier, Reaches (fun number => read (arrivals number)) maxReplyDatagrams earlier
            ⟨channel.next.sequence, channel.port, .acknowledged⟩
          ∧ ∀ code, ⟨channel.next.sequence, channel.port, .refused code⟩ ∉ earlier)
      ∧ (∀ errno, outcome = .error ((refusal errno).during .registeringForFrames) ↔
        ∃ earlier code, Reaches (fun number => read (arrivals number)) maxReplyDatagrams earlier
            ⟨channel.next.sequence, channel.port, .refused code⟩
          ∧ (∀ other ∈ earlier, ¬ other.Decides channel.next.sequence channel.port)
          ∧ errno = ⟨code.toInt.natAbs⟩)
      ∧ ∀ others : Nat → Attempt Bytes,
        (∀ number < maxReplyDatagrams,
          (read (arrivals number)).map
              (List.filter (Reply.Decides channel.next.sequence channel.port))
            = (read (others number)).map
              (List.filter (Reply.Decides channel.next.sequence channel.port))) →
        ∀ trace result, (channel.subscribe family).Performs (replying sent others) trace result →
          trace = channel.next.subscribing family sent others taken outcome
            ∧ result = (outcome, channel.next) := by
  rcases judged : judge channel.next.sequence channel.port maxReplyDatagrams
    (fun number => read (arrivals number)) with ⟨taken, outcome⟩
  refine ⟨taken, ?_, outcome.mapError (Failure.during .registeringForFrames), ?_, ?_, ?_, ?_⟩
  · have bounded : (judge channel.next.sequence channel.port maxReplyDatagrams
      (fun number => read (arrivals number))).1 ≤ maxReplyDatagrams := judge_taken_le
    rwa [judged] at bounded
  · exact fun trace result => performs_subscribe_iff judged
  · rw [← judge_eq_ok_iff, judged]
    cases outcome <;> simp [Except.mapError]
  · intro errno
    rw [← judge_eq_refusal_iff, judged]
    cases outcome <;> simp [Except.mapError, during_inj]
  · intro others alike trace result performs
    rw [judge_congr alike] at judged
    exact (performs_subscribe_iff judged).mp performs

end Runs
end Channel

end RadioRelay
