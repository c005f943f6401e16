import RadioRelay.Proofs.Router.Attribution
import RadioRelay.Proofs.Router.Servings

/-!
# What the counters say

The calls with their answers tell who is connected and who is subscribed to
what: the registry can be replayed from them. They also tell how many datagrams
the kernel handed over, how many subscribers each frame had when it was routed,
which deliveries were taken in full, and which clients broke the format. These
are the numbers that the router's counters hold, and whoever is counted as a
failure is counted as removed too.
-/

namespace RadioRelay

/-! ### The registry as the calls tell it -/

/-- The registry after a call: whoever is watched has joined, whoever is closed has left, and
whoever was read is granted what it asked for. -/
def Exchange.enrolled (fixed : Fixtures) (registry : Registry Connection) (exchange : Exchange) :
    Registry Connection :=
  match exchange with
  | ⟨.watch _ client _, .ok _⟩ =>
    if client = fixed.listener then registry else (registry.add client ⟨client⟩).2
  | ⟨.close client, _⟩ => (registry.remove client).2
  | ⟨.receive source _, _⟩ =>
    if source = fixed.kernel then registry
    else
      match exchange.message? source fixed.clientCapacity with
      | some message => registry.grant source message.request
      | none => registry
  | _ => registry

def enrolledAfter (fixed : Fixtures) (registry : Registry Connection) (trace : Trace) :
    Registry Connection :=
  trace.foldl (Exchange.enrolled fixed) registry

section Replay

variable {fixed : Fixtures} {registry : Registry Connection} {early late trace : Trace}

theorem enrolledAfter_append :
    enrolledAfter fixed registry (early ++ late)
      = enrolledAfter fixed (enrolledAfter fixed registry early) late :=
  List.foldl_append

theorem enrolledAfter_eq_self
    (neutral : ∀ exchange ∈ trace, ∀ registry, exchange.enrolled fixed registry = registry) :
    enrolledAfter fixed registry trace = registry := by
  induction trace generalizing registry with
  | nil => rfl
  | cons exchange trace ih =>
    rw [List.forall_mem_cons] at neutral
    change enrolledAfter fixed (exchange.enrolled fixed registry) trace = registry
    rw [neutral.1, ih neutral.2]

theorem Exchange.Quiet.enrolled {exchange : Exchange} (quiet : exchange.Quiet fixed)
    (faithful : exchange.Faithful) : exchange.enrolled fixed registry = registry := by
  rcases exchange with ⟨call, answer⟩
  cases call with
  | receive source capacity =>
    cases answer with
    | error errno =>
      have unread : Exchange.message? source fixed.clientCapacity
          ⟨.receive source capacity, .error errno⟩ = none := rfl
      simp only [Exchange.enrolled, unread, ite_self]
    | ok received =>
      have nothing := quiet faithful
      by_cases same : source = fixed.kernel
      · simp [Exchange.enrolled, same]
      · rw [if_neg same] at nothing
        simp [Exchange.enrolled, same, nothing]
  | watch poller target interest =>
    cases answer with
    | error errno => rfl
    | ok _ => cases quiet
  | close => cases quiet
  | _ => rfl

theorem enrolled_of_read {client : ClientId} {capacity : Nat} {received : Received}
    {message : ClientMessage} (other : client ≠ fixed.kernel)
    (understood : Exchange.message? client fixed.clientCapacity
      ⟨.receive client capacity, .ok received⟩ = some message) :
    Exchange.enrolled fixed registry ⟨.receive client capacity, .ok received⟩
      = registry.grant client message.request := by
  simp only [Exchange.enrolled, if_neg other, understood]

theorem enrolled_of_heard {capacity : Nat} {answer : Attempt Received} :
    Exchange.enrolled fixed registry ⟨.receive fixed.kernel capacity, answer⟩ = registry := by
  simp [Exchange.enrolled]

theorem enrolledAfter_farewells {reason : RemovalReason}
    {leaving : List (ClientId × Attempt Unit)} :
    enrolledAfter fixed registry (leaving.flatMap (farewell fixed reason))
      = (registry.removeAll (leaving.map (·.1))).2 := by
  induction leaving generalizing registry with
  | nil => rfl
  | cons entry leaving ih =>
    rw [List.flatMap_cons, enrolledAfter_append, ih, List.map_cons, Registry.removeAll_cons_snd]
    rfl

end Replay

namespace Move

variable {fixed : Fixtures} {standing after : Standing} {trace : Trace} {opened : List Descriptor}

theorem registry_eq (move : Move fixed standing trace after) (secure : standing.Secure fixed opened)
    (fresh : AcceptsFresh opened trace) (faithful : ∀ exchange ∈ trace, exchange.Faithful) :
    after.registry = enrolledAfter fixed standing.registry trace := by
  cases move with
  | aside quiet =>
    refine (enrolledAfter_eq_self ?_).symm
    exact fun exchange exchangeMem _ =>
      (quiet exchange exchangeMem).enrolled (faithful exchange exchangeMem)
  | pauses => rfl
  | resumes => simp [enrolledAfter, Exchange.enrolled]
  | turnsAway client errno =>
    have left := secure.consistent.sound.remove_of_absent (secure.absent fresh.not_mem)
    exact left.symm
  | admits client =>
    have other : client ≠ fixed.listener := (secure.apart_of_new fresh.not_mem).1
    rw [secure.unknown fresh.not_mem]
    simp [enrolledAfter, admission, Exchange.enrolled, other]
  | retires => rfl
  | answers client message _ other understood =>
    have read := understood (faithful _ (List.mem_cons_self ..))
    change _ = enrolledAfter fixed (Exchange.enrolled fixed standing.registry _) _
    rw [enrolled_of_read other read]
    rfl
  | failsToAnswer client message _ _ other understood =>
    have read := understood (faithful _ (List.mem_cons_self ..))
    change _ = enrolledAfter fixed (Exchange.enrolled fixed standing.registry _) _
    rw [enrolled_of_read other read]
    rfl
  | withholds => exact enrolled_of_heard.symm
  | forwards notification message sendings leaving _ _ _ dropped =>
    have sent : enrolledAfter fixed standing.registry (sendings.map (posted message))
        = standing.registry :=
      enrolledAfter_eq_self (List.forall_mem_map.mpr fun _ _ _ => rfl)
    change _ = enrolledAfter fixed (Exchange.enrolled fixed standing.registry _) _
    rw [enrolled_of_heard, enrolledAfter_append, sent, enrolledAfter_farewells, dropped]

end Move

theorem registry_of_course {fixed : Fixtures} {opened : List Descriptor} {first last : Standing}
    {history : Trace} (course : Course (Move fixed) first history last)
    (secure : first.Secure fixed opened) (fresh : AcceptsFresh opened history)
    (faithful : ∀ exchange ∈ history, exchange.Faithful) :
    last.registry = enrolledAfter fixed first.registry history := by
  induction course with
  | start => rfl
  | next earlier move ih =>
    rw [acceptsFresh_append] at fresh
    rw [List.forall_mem_append] at faithful
    rw [enrolledAfter_append, ← ih fresh.1 faithful.1]
    exact move.registry_eq (secure_of_course earlier secure fresh.1) fresh.2 faithful.2

/-! ### Counting in a trace -/

def datagramCount (kernel : Descriptor) (trace : Trace) : Nat :=
  (trace.filterMap Exchange.received?).countP fun (source, answer) =>
    source = kernel ∧ answer.isOk

/-- How many messages of clients were too long, or not empty and yet no messages. -/
def violationCount (fixed : Fixtures) (trace : Trace) : Nat :=
  (trace.filterMap Exchange.received?).countP fun (source, answer) =>
    source ≠ fixed.kernel ∧ Router.breaches fixed.clientCapacity answer

/-- How many deliveries were sent that were taken in full, or that were not. -/
def deliveryCount (taken : Bool) (trace : Trace) : Nat :=
  (trace.filterMap Exchange.sent?).countP fun (_, message, outcome) =>
    (Delivery.decode message).isOk ∧ tookAll message outcome = taken

/-- How many subscribers a frame has that the kernel hands over. There are none to count if the
datagram does not fit a delivery. -/
def Exchange.addressees (fixed : Fixtures) (registry : Registry Connection) (exchange : Exchange) :
    Nat :=
  match exchange.frame? fixed.kernel fixed.kernelCapacity fixed.family with
  | some ⟨transmitter, frame⟩ =>
    if frame.length ≤ Attribute.maxPayload then (registry.subscribers transmitter).length else 0
  | none => 0

/-- How many subscribers all frames had together, each at the time when it was handed over. -/
def addresseeCount (fixed : Fixtures) : Registry Connection → Trace → Nat
  | _, [] => 0
  | registry, exchange :: later =>
    exchange.addressees fixed registry
      + addresseeCount fixed (exchange.enrolled fixed registry) later

section Counts

variable {fixed : Fixtures} {kernel : Descriptor} {registry : Registry Connection} {taken : Bool}
  {early late trace : Trace}

theorem datagramCount_append :
    datagramCount kernel (early ++ late)
      = datagramCount kernel early + datagramCount kernel late := by
  simp only [datagramCount, List.filterMap_append, List.countP_append]

theorem violationCount_append :
    violationCount fixed (early ++ late)
      = violationCount fixed early + violationCount fixed late := by
  simp only [violationCount, List.filterMap_append, List.countP_append]

theorem deliveryCount_append :
    deliveryCount taken (early ++ late) = deliveryCount taken early + deliveryCount taken late := by
  simp only [deliveryCount, List.filterMap_append, List.countP_append]

theorem addresseeCount_append :
    addresseeCount fixed registry (early ++ late)
      = addresseeCount fixed registry early
        + addresseeCount fixed (enrolledAfter fixed registry early) late := by
  induction early generalizing registry with
  | nil => exact (Nat.zero_add _).symm
  | cons exchange early ih =>
    rw [List.cons_append, addresseeCount, ih, addresseeCount, Nat.add_assoc]
    rfl

theorem addresseeCount_of_unheard
    (unheard : ∀ exchange ∈ trace,
      exchange.frame? fixed.kernel fixed.kernelCapacity fixed.family = none) :
    addresseeCount fixed registry trace = 0 := by
  induction trace generalizing registry with
  | nil => rfl
  | cons exchange trace ih =>
    rw [List.forall_mem_cons] at unheard
    rw [addresseeCount, ih unheard.2, Exchange.addressees, unheard.1]

theorem addressees_of_heard {exchange : Exchange} {notification : Notification}
    (heard : exchange.frame? fixed.kernel fixed.kernelCapacity fixed.family = some notification) :
    exchange.addressees fixed registry =
      if notification.frame.length ≤ Attribute.maxPayload then
        (registry.subscribers notification.transmitter).length
      else 0 := by
  rw [Exchange.addressees, heard]

theorem deliveryCount_of_reply {client : ClientId} {message : ClientMessage} {outcome : Attempt Nat}
    (sent : trace.filterMap Exchange.sent? = [(client, message.reply, outcome)]) :
    deliveryCount taken trace = 0 := by
  rw [deliveryCount, sent]
  simp [decode_reply]

theorem deliveryCount_of_unsent (unsent : trace.filterMap Exchange.sent? = []) :
    deliveryCount taken trace = 0 := by
  rw [deliveryCount, unsent]
  rfl

/-- Of the deliveries of a frame, those count as taken that were taken in full. -/
theorem deliveryCount_of_sendings {delivery : Delivery} {message : Bytes}
    {sendings : List (ClientId × Attempt Nat)} (encoded : delivery.encode = .ok message)
    (sent : trace.filterMap Exchange.sent?
      = sendings.map fun sending => (sending.1, message, sending.2)) :
    deliveryCount taken trace
      = sendings.countP fun sending => tookAll message sending.2 = taken := by
  have decoded : (Delivery.decode message).isOk = true := by
    rw [Delivery.decode_of_encode encoded]
    rfl
  rw [deliveryCount, sent, List.countP_map]
  simp [Function.comp_def, decoded]

theorem countP_taken_add {message : Bytes} {sendings : List (ClientId × Attempt Nat)} :
    (sendings.countP fun sending => tookAll message sending.2 = true)
        + (sendings.countP fun sending => tookAll message sending.2 = false) = sendings.length := by
  rw [List.length_eq_countP_add_countP fun sending => tookAll message sending.2 = true]
  simp

theorem length_failing {message : Bytes} {sendings : List (ClientId × Attempt Nat)} :
    (failing message sendings).length
      = sendings.countP fun sending => tookAll message sending.2 = false := by
  rw [failing, List.length_map, ← List.countP_eq_length_filter]
  simp

end Counts

/-! ### Every frame is sent to all its subscribers -/

/-- Each frame of a move is sent once to each of those who are subscribed to its transmitter. -/
theorem Move.addressees_eq {fixed : Fixtures} {standing after : Standing} {trace : Trace}
    (move : Move fixed standing trace after) (faithful : ∀ exchange ∈ trace, exchange.Faithful) :
    addresseeCount fixed standing.registry trace
      = deliveryCount true trace + deliveryCount false trace := by
  rcases move.hears_or faithful with
    ⟨unheard, nothing | ⟨sender, message, outcome, replied⟩⟩
      | ⟨received, rest, notification, rfl, heard, unheard, sent⟩
  · rw [addresseeCount_of_unheard unheard, deliveryCount_of_unsent nothing,
      deliveryCount_of_unsent nothing]
  · rw [addresseeCount_of_unheard unheard, deliveryCount_of_reply replied,
      deliveryCount_of_reply replied]
  rw [addresseeCount, addressees_of_heard heard, addresseeCount_of_unheard unheard]
  rcases sent with ⟨rfl, error, tooLarge⟩ | ⟨message, sendings, leaving, encoded, addressed, rfl⟩
  · have unfit := Nat.not_le.mpr (Delivery.unfit_of_encode tooLarge)
    rw [if_neg unfit, deliveryCount_of_unsent rfl, deliveryCount_of_unsent rfl]
  · have sent : (⟨.receive fixed.kernel fixed.kernelCapacity, .ok received⟩
        :: (sendings.map (posted message)
          ++ leaving.flatMap (farewell fixed .deliveryFailed))).filterMap Exchange.sent?
            = sendings.map fun sending => (sending.1, message, sending.2) :=
      Router.sent_forwarding
    rw [if_pos (Delivery.fits_of_encode encoded), deliveryCount_of_sendings encoded sent,
      deliveryCount_of_sendings encoded sent, countP_taken_add, ← addressed, List.length_map]
    rfl

theorem addressees_of_course {fixed : Fixtures} {opened : List Descriptor} {first last : Standing}
    {history : Trace} (course : Course (Move fixed) first history last)
    (secure : first.Secure fixed opened) (fresh : AcceptsFresh opened history)
    (faithful : ∀ exchange ∈ history, exchange.Faithful) :
    addresseeCount fixed first.registry history
      = deliveryCount true history + deliveryCount false history := by
  induction course with
  | start => rfl
  | next earlier move ih =>
    rw [acceptsFresh_append] at fresh
    rw [List.forall_mem_append] at faithful
    have registry := registry_of_course earlier secure fresh.1 faithful.1
    rw [addresseeCount_append, ih fresh.1 faithful.1, ← registry, move.addressees_eq faithful.2,
      deliveryCount_append, deliveryCount_append]
    omega

/-! ### The counters follow the calls -/

/-- Counters go up by what a trace tells, and whoever is counted as a failure is counted as removed
too. -/
structure Statistics.Counts (fixed : Fixtures) (before : Statistics) (trace : Trace)
    (after : Statistics) : Prop where
  datagrams : after.notifications + after.ignoredNotifications
    = before.notifications + before.ignoredNotifications + datagramCount fixed.kernel trace
  taken : after.deliveries = before.deliveries + deliveryCount true trace
  untaken : after.failedDeliveries = before.failedDeliveries + deliveryCount false trace
  violations : after.protocolErrors = before.protocolErrors + violationCount fixed trace
  left : after.protocolErrors + after.failedDeliveries + before.removed
    ≤ before.protocolErrors + before.failedDeliveries + after.removed

namespace Router

open Program

variable {router after : Router} {trace : Trace} {client : ClientId}

theorem counts_append {fixed : Fixtures} {before middle last : Statistics} {early late : Trace}
    (first : before.Counts fixed early middle) (second : middle.Counts fixed late last) :
    before.Counts fixed (early ++ late) last where
  datagrams := by rw [datagramCount_append, second.datagrams, first.datagrams, Nat.add_assoc]
  taken := by rw [deliveryCount_append, second.taken, first.taken, Nat.add_assoc]
  untaken := by rw [deliveryCount_append, second.untaken, first.untaken, Nat.add_assoc]
  violations := by rw [violationCount_append, second.violations, first.violations, Nat.add_assoc]
  left := by
    have earlier := first.left
    have later := second.left
    omega

theorem counts_of_silent {fixed : Fixtures} {before : Statistics} {accepted errors : Nat}
    (leaving : Nat) (unread : trace.filterMap Exchange.received? = [])
    (unsent : trace.filterMap Exchange.sent? = []) :
    before.Counts fixed trace { before with
      accepted := accepted, removed := before.removed + leaving, acceptErrors := errors } where
  datagrams := by rw [datagramCount, unread]; rfl
  taken := by rw [deliveryCount_of_unsent unsent]; rfl
  untaken := by rw [deliveryCount_of_unsent unsent]; rfl
  violations := by rw [violationCount, unread]; rfl
  left := by dsimp only; omega

theorem counts_of_door {fixed : Fixtures} {before : Statistics} {accepted errors : Nat}
    (door : ∀ exchange ∈ trace, exchange.AtDoor) :
    before.Counts fixed trace
      { before with accepted := accepted, acceptErrors := errors } := by
  refine counts_of_silent 0 ?_ ?_
  all_goals
    rw [List.filterMap_eq_nil_iff]
    intro exchange exchangeMem
  · rcases exchange with ⟨call, answer⟩
    cases call with
    | receive => cases door _ exchangeMem
    | _ => rfl
  · exact (door exchange exchangeMem).sent?

theorem counts_of_accept {fixed : Fixtures} {before : Statistics} {listener : Listener}
    {outcome : Attempt (Option Connection)} (runs : listener.accept.Runs trace outcome) :
    before.Counts fixed trace before := by
  rcases runs_accept.mp runs with ⟨_, rfl, -⟩ | ⟨_, rfl, -⟩
  all_goals exact counts_of_silent 0 rfl rfl

theorem unread_of_tending (tends : ∀ exchange ∈ trace, ∃ client, exchange.Tends client) :
    trace.filterMap Exchange.received? = [] := by
  rw [List.filterMap_eq_nil_iff]
  rintro ⟨call, answer⟩ exchangeMem
  cases call with
  | receive =>
    rcases tends _ exchangeMem with ⟨_, tends⟩
    cases tends
  | _ => rfl

theorem counts_of_removeClient {fixed : Fixtures} {reason : RemovalReason}
    (runs : (router.removeClient client reason).Runs trace after) :
    router.statistics.Counts fixed trace after.statistics := by
  rcases runs_removeClient runs with ⟨-, rfl, rfl⟩ | ⟨_, _, -, rfl, rfl⟩
  · exact counts_of_silent 0 rfl rfl
  · exact counts_of_silent 1 rfl rfl

/-- What one receive counts, and what is sent after it. -/
theorem counts_of_read {fixed : Fixtures} {before last : Statistics} {source : Descriptor}
    {capacity : Nat} {answer : Attempt Received} {rest : Trace}
    (tends : ∀ exchange ∈ rest, ∃ client, exchange.Tends client)
    (datagrams : last.notifications + last.ignoredNotifications
      = before.notifications + before.ignoredNotifications
        + if source = fixed.kernel ∧ answer.isOk then 1 else 0)
    (taken : last.deliveries = before.deliveries + deliveryCount true rest)
    (untaken : last.failedDeliveries = before.failedDeliveries + deliveryCount false rest)
    (violations : last.protocolErrors = before.protocolErrors
      + if source ≠ fixed.kernel ∧ breaches fixed.clientCapacity answer then 1 else 0)
    (left : last.protocolErrors + last.failedDeliveries + before.removed
      ≤ before.protocolErrors + before.failedDeliveries + last.removed) :
    before.Counts fixed (⟨.receive source capacity, answer⟩ :: rest) last := by
  have read : (⟨.receive source capacity, answer⟩ :: rest).filterMap Exchange.received?
      = [(source, answer)] := by
    have first : Exchange.received? ⟨.receive source capacity, answer⟩ = some (source, answer) :=
      rfl
    rw [List.filterMap_cons_some first, unread_of_tending tends]
  refine ⟨?_, taken, untaken, ?_, left⟩
  · rw [datagrams, datagramCount, read, List.countP_singleton]
    simp
  · rw [violations, violationCount, read, List.countP_singleton]
    simp

theorem counts_of_unforwarded {fixed : Fixtures} {before : Statistics} {capacity : Nat}
    {notifications ignored : Nat} {answer : Attempt Received} {rest : Trace}
    (tends : ∀ exchange ∈ rest, ∃ client, exchange.Tends client)
    (unsent : rest.filterMap Exchange.sent? = [])
    (datagrams : notifications + ignored
      = before.notifications + before.ignoredNotifications + if answer.isOk then 1 else 0) :
    before.Counts fixed (⟨.receive fixed.kernel capacity, answer⟩ :: rest)
      { before with notifications := notifications, ignoredNotifications := ignored } := by
  refine counts_of_read tends ?_ ?_ ?_ ?_ (le_refl _)
  · simpa using datagrams
  · rw [deliveryCount_of_unsent unsent]
    rfl
  · rw [deliveryCount_of_unsent unsent]
    rfl
  · simp

/-- A datagram is counted once, and so is every delivery of its frame. -/
theorem counts_of_handleKernel (consistent : router.standing.Consistent)
    (runs : router.handleKernel.Runs trace after) :
    router.statistics.Counts router.fixtures trace after.statistics := by
  rcases forwarded_of_runs consistent runs with ⟨answer, rest, rfl, forwarded⟩
  have tends := tends_handleKernel consistent runs
  rcases answer with errno | received
  · rcases forwarded with ⟨silent, rfl⟩
    exact counts_of_unforwarded tends silent rfl
  simp only [Forwarded] at forwarded
  split at forwarded
  next =>
    rcases forwarded with ⟨silent, rfl⟩
    exact counts_of_unforwarded tends silent (Nat.add_assoc ..).symm
  next notification _ =>
    split at forwarded
    next =>
      rcases forwarded with ⟨silent, rfl⟩
      exact counts_of_unforwarded tends silent (Nat.add_right_comm ..)
    next message encoded =>
      rcases forwarded with ⟨sendings, -, sent, rfl⟩
      -- Whoever did not take the frame is counted twice, as a failed delivery and as removed.
      refine counts_of_read tends ?_ ?_ ?_ ?_ ?_
      · rw [if_pos ⟨rfl, rfl⟩]
        exact Nat.add_right_comm ..
      · rw [deliveryCount_of_sendings encoded sent]
        simp [withSent, withDatagram]
      · rw [deliveryCount_of_sendings encoded sent, ← length_failing]
        rfl
      · rw [if_neg fun broken => broken.1 rfl]
        rfl
      · simp only [withSent, withDatagram]
        omega

theorem breaches_received {received : Received}
    (faithful : Exchange.Faithful ⟨.receive client router.clientBuffer.capacity, .ok received⟩)
    (more : received.size ≠ 0) :
    breaches router.clientBuffer.capacity (.ok received)
      = (router.understood? received).isNone := by
  rw [understood?, withMessage, slice?_store_received faithful]
  by_cases fits : received.size ≤ router.clientBuffer.capacity
  · cases decoded : ClientMessage.decode received.stored <;>
      simp [breaches, more, fits, Nat.not_lt.mpr fits, decoded, Except.toOption]
  · simp [breaches, more, fits, Nat.lt_of_not_le fits]

/-- A client that breaks the format is counted once and removed, and nothing else is counted of
what it sends. -/
theorem counts_of_handleClient (consistent : router.standing.Consistent)
    (connected : client ∈ router.registry.ids) (other : client ≠ router.kernel)
    (faithful : ∀ exchange ∈ trace, exchange.Faithful)
    (runs : (router.handleClient client).Runs trace after) :
    router.statistics.Counts router.fixtures trace after.statistics := by
  rcases handled_of_runs consistent connected runs with ⟨answer, rest, rfl, handled, -⟩
  have tends : ∀ exchange ∈ rest, ∃ client, exchange.Tends client := by
    have found : router.registry.get? client = some ⟨client⟩ := consistent.get?_of_mem connected
    exact fun exchange exchangeMem =>
      ⟨client, tends_handleClient consistent found runs _ exchangeMem⟩
  have unheard : ¬ (client = router.fixtures.kernel ∧ answer.isOk = true) :=
    fun heard => other heard.1
  have broken : (if client ≠ router.fixtures.kernel
        ∧ breaches router.fixtures.clientCapacity answer = true then 1 else 0)
      = if breaches router.clientBuffer.capacity answer = true then 1 else 0 := by
    simp [fixtures, other]
  -- Whatever is sent is no delivery, so all that is left to compare is who left, and why.
  have ends : (∀ taken, deliveryCount taken rest = 0) →
      after.statistics = router.statistics ∧ breaches router.clientBuffer.capacity answer = false
        ∨ Gone client (if breaches router.clientBuffer.capacity answer then 1 else 0) router after →
      router.statistics.Counts router.fixtures
        (⟨.receive client router.clientBuffer.capacity, answer⟩ :: rest) after.statistics := by
    rintro undelivered (⟨same, unbroken⟩ | gone)
    · rw [same]
      refine counts_of_read tends ?_ ?_ ?_ ?_ (le_refl _)
      · rw [if_neg unheard, Nat.add_zero]
      · rw [undelivered, Nat.add_zero]
      · rw [undelivered, Nat.add_zero]
      · rw [broken, unbroken]
        rfl
    · rw [gone.statistics]
      refine counts_of_read tends ?_ ?_ ?_ ?_ ?_
      · rw [if_neg unheard]
        rfl
      · rw [undelivered]
        rfl
      · rw [undelivered]
        rfl
      · rw [broken]
      · dsimp only
        split <;> omega
  rcases answer with errno | received
  · simp only [Handled] at handled
    split at handled
    next =>
      rcases handled with ⟨rfl, rfl⟩
      exact ends (fun _ => rfl) (Or.inl ⟨rfl, rfl⟩)
    next => exact ends (fun _ => deliveryCount_of_unsent handled.1) (Or.inr handled.2)
  simp only [Handled] at handled
  split at handled
  next ended =>
    have unbroken : breaches router.clientBuffer.capacity (.ok received) = false := by
      simp [breaches, ended]
    refine ends (fun _ => deliveryCount_of_unsent handled.1) (Or.inr ?_)
    rw [unbroken]
    exact handled.2
  next more =>
    have judged := breaches_received (faithful _ (List.mem_cons_self ..)) more
    split at handled
    next nothing =>
      rw [nothing] at judged
      refine ends (fun _ => deliveryCount_of_unsent handled.1) (Or.inr ?_)
      rw [judged]
      exact handled.2
    next message understood =>
      rw [understood] at judged
      rcases handled with ⟨result, outcome, sent, answered⟩
      rw [answered.result_eq] at sent
      refine ends (fun _ => deliveryCount_of_reply sent) ?_
      by_cases taken : outcome = .ok (Acknowledgement.encode result message.header).length
      · exact Or.inl ⟨(answered.stays taken).2.1, judged⟩
      · rw [judged]
        exact Or.inr (answered.leaves taken)

theorem Stage.counts (stage : Stage router trace after) (consistent : router.standing.Consistent)
    (faithful : ∀ exchange ∈ trace, exchange.Faithful) :
    router.statistics.Counts router.fixtures trace after.statistics := by
  cases stage with
  | resumes runs =>
    have same : after.statistics = router.statistics := by
      rcases runs_resumeAccept runs with
        ⟨-, -, same⟩ | ⟨_, _, -, ⟨-, -, same⟩ | ⟨-, _ | _, -, same⟩⟩
      all_goals cases same
      all_goals rfl
    rw [same]
    exact counts_of_door (door_resumeAccept runs)
  | failsToResume runs => exact counts_of_door (door_resumeAccept runs)
  | bounds runs => exact counts_of_door (door_boundedTimeout runs)
  | waits runs =>
    refine counts_of_silent 0 ?_ ?_
    all_goals
      rw [List.filterMap_eq_nil_iff]
      intro exchange exchangeMem
      rcases (kept_of_wait runs).1 exchange exchangeMem with ⟨answer, rfl⟩
      rfl
  | wakes runs => exact counts_of_door (door_drain runs)
  | stops => exact counts_of_silent 0 rfl rfl
  | findsNobody runs => exact counts_of_accept runs
  | welcomes accepts runs =>
    have door := door_welcome runs
    refine counts_append (counts_of_accept accepts) ?_
    rcases runs_welcome runs with ⟨_, -, rfl⟩ | ⟨_, -, -, rfl⟩
    all_goals exact counts_of_door door
  | failsToAccept _ fails runs =>
    have door := door_pauseAccept runs
    refine counts_append (counts_of_accept fails) ?_
    rcases runs_pauseAccept runs with ⟨_, ⟨-, -, rfl⟩ | ⟨-, _, -, rfl⟩⟩
    all_goals exact counts_of_door door
  | hears runs => exact counts_of_handleKernel consistent runs
  | serves connected other runs =>
    exact counts_of_handleClient consistent (Registry.mem_ids_iff.mpr connected) other faithful runs
  | hangsUp _ runs => exact counts_of_removeClient runs

theorem counts_of_course (course : Course Stage router trace after)
    (consistent : router.standing.Consistent) (faithful : ∀ exchange ∈ trace, exchange.Faithful) :
    router.statistics.Counts router.fixtures trace after.statistics := by
  induction course with
  | start => exact ⟨rfl, rfl, rfl, rfl, le_refl _⟩
  | next earlier stage ih =>
    rw [List.forall_mem_append] at faithful
    have counts := stage.counts (moves_of_course earlier consistent).1 faithful.2
    rw [fixtures_course earlier] at counts
    exact counts_append (ih faithful.1) counts

/-- The counters account for everything that happened since the router was put together: every
datagram of the kernel, every subscriber of a frame at the time when it was routed, every delivery
that was taken in full, and every message that broke the format. Whoever is counted as a failure was
removed, and whoever was removed was accepted. The registry by which the subscribers are counted is
the one that the router has at each stage of its turns. -/
theorem counters_of_turns {listener : Listener} {kernel : Descriptor} {options : RouterOptions}
    {created history : Trace} {start : Router}
    (puts : (create listener kernel options).run.Runs created (.ok start))
    (turns : Course Turn start history router)
    (fresh : AcceptsFresh [listener.descriptor, kernel] (created ++ history))
    (faithful : ∀ exchange ∈ history, exchange.Faithful) :
    router.statistics.notifications + router.statistics.ignoredNotifications
        = datagramCount kernel history
      ∧ router.statistics.deliveries + router.statistics.failedDeliveries
        = addresseeCount start.fixtures ∅ history
      ∧ router.statistics.deliveries = deliveryCount true history
      ∧ router.statistics.protocolErrors = violationCount start.fixtures history
      ∧ router.statistics.protocolErrors + router.statistics.failedDeliveries
        ≤ router.statistics.removed
      ∧ router.statistics.removed ≤ router.statistics.accepted
      ∧ ∀ earlier later middle, history = earlier ++ later → Course Stage start earlier middle →
        middle.registry = enrolledAfter start.fixtures ∅ earlier := by
  have secureFirst := secure_create puts
  rcases runs_create puts with ⟨poller, wake, rfl, rfl⟩
  rw [acceptsFresh_append] at fresh
  have stages := course_of_turns turns
  have course := (moves_of_course stages consistent_assembled).2
  have counts := counts_of_course stages consistent_assembled faithful
  have addressees := addressees_of_course course secureFirst fresh.2 faithful
  have balance := balance_of_course course secureFirst fresh.2 rfl
  refine ⟨?_, ?_, ?_, ?_, ?_, ?_, ?_⟩
  · exact counts.datagrams.trans (Nat.zero_add _)
  · rw [counts.taken, counts.untaken]
    refine Eq.trans ?_ addressees.symm
    exact congrArg₂ (· + ·) (Nat.zero_add _) (Nat.zero_add _)
  · exact counts.taken.trans (Nat.zero_add _)
  · exact counts.violations.trans (Nat.zero_add _)
  · exact counts.left.trans_eq (Nat.zero_add _)
  · exact (Nat.le_add_right ..).trans_eq balance.symm
  · intro earlier later middle split stagesEarlier
    rw [split, acceptsFresh_append] at fresh
    rw [split, List.forall_mem_append] at faithful
    exact registry_of_course (moves_of_course stagesEarlier consistent_assembled).2 secureFirst
      fresh.2.1 faithful.1

/-- The kernel hands over a frame that the first of its two subscribers does not take. The second
one does, and sends something that is no message. -/
def unruly (past : Trace) : (call : Call) → call.Answer
  | .receive socket capacity =>
    if socket = ⟨8⟩ then .ok ⟨3, [1, 2, 3]⟩
    else snubbing [⟨7⟩] [] [] past (.receive socket capacity)
  | call => snubbing [⟨7⟩] [] [⟨⟨4⟩, readable⟩, ⟨⟨8⟩, readable⟩] past call

theorem shared_upset : ((shared.pollOnce (-1)).rehearse unruly 8).1.isSome := by
  decide +kernel

/-- The turns in which two clients come, register the same address, and leave. -/
def uproar : Trace :=
  ((vacant.pollOnce (-1)).rehearse (snubbing [] [⟨7⟩, ⟨8⟩] [⟨⟨3⟩, readable⟩]) 8).2
    ++ ((paired.pollOnce (-1)).rehearse
      (snubbing [] [] [⟨⟨7⟩, readable⟩, ⟨⟨8⟩, readable⟩]) 8).2
    ++ ((shared.pollOnce (-1)).rehearse unruly 8).2

theorem uproar_turns : ∃ router, Course Turn vacant uproar router :=
  ⟨_, ((Course.single (turn_rehearse vacant_hosts)).next (turn_rehearse paired_serves)).next
    (turn_rehearse shared_upset)⟩

theorem counters_of_uproar : ∃ router, Course Turn vacant uproar router
    ∧ router.statistics.notifications + router.statistics.ignoredNotifications = 1
    ∧ router.statistics.deliveries + router.statistics.failedDeliveries = 2
    ∧ router.statistics.deliveries = 1 ∧ router.statistics.protocolErrors = 1
    ∧ router.statistics.protocolErrors + router.statistics.failedDeliveries
      ≤ router.statistics.removed := by
  rcases uproar_turns with ⟨router, turns⟩
  rcases counters_of_turns runs_create_assembled turns (by decide +kernel) (by decide +kernel) with
    ⟨datagrams, addressees, taken, violations, left, -⟩
  exact ⟨router, turns, datagrams.trans (by decide +kernel), addressees.trans (by decide +kernel),
    taken.trans (by decide +kernel), violations.trans (by decide +kernel), left⟩

end Router

end RadioRelay
