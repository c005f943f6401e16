import RadioRelay.Proofs.Router.Attribution
import RadioRelay.Proofs.Router.Hearing
import RadioRelay.Proofs.Router.Reports

/-!
# The order in which events are reported and clients are listed

A poller may report what is ready in any order, and the tables may list clients
and subscribers in any order. If all that is sent and received over a connection
is answered according to this connection, then a turn comes to the same in every
order: accepting and forwarding come first whatever was reported first, and after
that the clients are served, each on its own.
-/

namespace RadioRelay

/-! ### The same books -/

namespace Registry

variable {first second : Registry Connection} {client : ClientId}

/-- Who is subscribed to an address that anybody is subscribed to. -/
def index (registry : Registry Connection) (mac : MacAddress) : Option (Set ClientId) :=
  (registry.subscriptions.lookup mac).map fun clients => {client | client ∈ clients}

theorem Sound.index_eq (sound : first.Sound) (mac : MacAddress) :
    first.index mac = if first.subscribers mac = [] then none
      else some {client | client ∈ first.subscribers mac} := by
  unfold index subscribers
  cases found : first.subscriptions.lookup mac with
  | none => simp
  | some clients =>
    have filled : clients ≠ [] := sound.subscribers_ne_nil _ (mem_of_lookup_eq_some found)
    simp [filled]

theorem Sound.index_congr (sound : first.Sound) (soundToo : second.Sound) {mac : MacAddress}
    (alike : ∀ client, client ∈ first.subscribers mac ↔ client ∈ second.subscribers mac) :
    first.index mac = second.index mac := by
  have empty : first.subscribers mac = [] ↔ second.subscribers mac = [] := by
    simp only [List.eq_nil_iff_forall_not_mem, alike]
  simp only [sound.index_eq, soundToo.index_eq, empty, alike]

theorem mem_ids_iff_of_seat (same : first.seat client = second.seat client) :
    client ∈ first.ids ↔ client ∈ second.ids := by
  unfold seat at same
  by_cases connected : client ∈ first.ids
  · by_cases connectedToo : client ∈ second.ids
    · simp [connected, connectedToo]
    · simp [connected, connectedToo] at same
  · by_cases connectedToo : client ∈ second.ids
    · simp [connected, connectedToo] at same
    · simp [connected, connectedToo]

theorem mem_subscribers_iff_of_seat (sound : first.Sound) (soundToo : second.Sound)
    (same : first.seat client = second.seat client) (mac : MacAddress) :
    client ∈ first.subscribers mac ↔ client ∈ second.subscribers mac := by
  have connectedBoth := mem_ids_iff_of_seat same
  by_cases connected : client ∈ first.ids
  · rw [seat_eq_some connected, seat_eq_some (connectedBoth.mp connected)] at same
    exact Set.ext_iff.mp (Option.some.inj same) mac
  · apply iff_of_false
    · exact fun subscribed => connected (sound.mem_ids_of_mem_subscribers subscribed)
    · intro subscribed
      exact connected (connectedBoth.mpr (soundToo.mem_ids_of_mem_subscribers subscribed))

end Registry

namespace Router

open Program

/-- Two routers have the same clients, the same subscriptions and the same counters. -/
structure SameBooks (first second : Router) : Prop where
  connections : ∀ client, first.registry.get? client = second.registry.get? client
  index : ∀ mac, first.registry.index mac = second.registry.index mac
  statistics : first.statistics = second.statistics

variable {router other after twin : Router} {trace again early : Trace} {poller : Descriptor}

theorem sameBooks_of_seats (consistent : after.standing.Consistent)
    (consistentTwin : twin.standing.Consistent)
    (seats : ∀ client, after.registry.seat client = twin.registry.seat client)
    (statistics : after.statistics = twin.statistics) : after.SameBooks twin := by
  refine ⟨?_, ?_, statistics⟩
  · intro client
    have connectedBoth := Registry.mem_ids_iff_of_seat (seats client)
    cases found : after.registry.get? client with
    | none =>
      rw [Registry.get?_eq_none_iff, connectedBoth, ← Registry.get?_eq_none_iff] at found
      exact found.symm
    | some connection =>
      have connected := Registry.mem_ids_iff.mp (connectedBoth.mp (Registry.mem_ids_of_get? found))
      rcases Option.isSome_iff_exists.mp connected with ⟨other, foundToo⟩
      rw [foundToo, consistent.own found, consistentTwin.own foundToo]
  · intro mac
    have sound : after.registry.Sound := consistent.sound
    have soundTwin : twin.registry.Sound := consistentTwin.sound
    exact sound.index_congr soundTwin fun client =>
      Registry.mem_subscribers_iff_of_seat sound soundTwin (seats client) mac

theorem Twin.sameBooks (alike : router.Twin other) : router.SameBooks other := by
  cases alike with
  | intro sound same =>
    refine ⟨sound.get?_of_rearranges same, ?_, rfl⟩
    exact fun mac =>
      sound.index_congr (sound.of_rearranges same) fun _ => (same.subscribers mac).mem_iff

/-- Two traces come to the same: the same books, the same watched descriptors, and the same messages
to every socket. -/
structure Interchanged (poller : Descriptor) (trace : Trace) (after : Router) (again : Trace)
    (twin : Router) : Prop where
  books : after.SameBooks twin
  watched : ∀ watched number, number ∈ watchedAfter poller watched trace ↔
    number ∈ watchedAfter poller watched again
  sent : ∀ socket, trace.filterMap (Exchange.sentTo? socket)
    = again.filterMap (Exchange.sentTo? socket)

theorem Twin.interchanged (alike : router.Twin other) (poller : Descriptor) (trace : Trace) :
    Interchanged poller trace router trace other :=
  ⟨alike.sameBooks, fun _ _ => Iff.rfl, fun _ => rfl⟩

theorem Interchanged.append {earlyAgain : Trace}
    (earlier : Interchanged poller early router earlyAgain other)
    (interchanged : Interchanged poller trace after again twin) :
    Interchanged poller (early ++ trace) after (earlyAgain ++ again) twin := by
  refine ⟨interchanged.books, ?_, ?_⟩
  · intro watched number
    rw [watchedAfter_append, watchedAfter_append, interchanged.watched]
    exact mem_watchedAfter_congr (earlier.watched watched)
  · intro socket
    rw [List.filterMap_append, List.filterMap_append, earlier.sent socket, interchanged.sent socket]

theorem Interchanged.waited (interchanged : Interchanged poller trace after again twin)
    {source : Descriptor} {capacity : Nat} {timeout : Int} (answer answerAgain : Attempt Reported) :
    Interchanged poller (⟨.wait source capacity timeout, answer⟩ :: trace) after
      (⟨.wait source capacity timeout, answerAgain⟩ :: again) twin :=
  ⟨interchanged.books, interchanged.watched, interchanged.sent⟩

/-! ### Serving in another order -/

section Serving

variable {events eventsAgain : List Readiness}

theorem eq_of_perm_of_length_le_one {α : Type} {first second : List α} (perm : first.Perm second)
    (short : second.length ≤ 1) : first = second := by
  rcases second with _ | ⟨entry, _ | ⟨another, rest⟩⟩
  · exact perm.eq_nil
  · exact List.perm_singleton.mp perm
  · simp at short

/-- A client shows the same sign in every order, as it is reported once. -/
theorem signs_of_perm (perm : events.Perm eventsAgain)
    (distinct : (events.map Readiness.descriptor).Nodup) (client : ClientId) :
    ((events.filter (·.descriptor = client)).map Readiness.sign).length ≤ 1
      ∧ (eventsAgain.filter (·.descriptor = client)).map Readiness.sign
        = (events.filter (·.descriptor = client)).map Readiness.sign := by
  have once : (events.filter (·.descriptor = client)).length ≤ 1 := by
    rw [← List.countP_eq_length_filter]
    have counted := List.nodup_iff_count_le_one.mp distinct client
    rw [List.count, List.countP_map] at counted
    exact counted
  have own := (perm.filter (·.descriptor = client)).symm
  rw [List.length_map]
  exact ⟨once, congrArg _ (eq_of_perm_of_length_le_one own once)⟩

/-- A router in order serves clients that are reported once. -/
structure Serving (router : Router) (events : List Readiness) (trace : Trace) (after : Router) :
    Prop where
  consistent : router.standing.Consistent
  others : ∀ event ∈ events, event.descriptor ≠ router.kernel
  distinct : (events.map Readiness.descriptor).Nodup
  faithful : ∀ exchange ∈ trace, exchange.Faithful
  runs : (router.serveClients events).Runs trace after

theorem Serving.consistent_after (serving : Serving router events trace after) :
    after.standing.Consistent :=
  (moves_of_course (course_of_serveClients serving.others serving.runs) serving.consistent).1

/-- A twin serves the same clients in another order. -/
theorem Serving.reorder (serving : Serving router events trace after) (alike : router.Twin other)
    (perm : events.Perm eventsAgain) (faithful : ∀ exchange ∈ again, exchange.Faithful)
    (runs : (other.serveClients eventsAgain).Runs again twin) :
    Serving other eventsAgain again twin := by
  have kernel : other.kernel = router.kernel := congrArg Fixtures.kernel alike.fixtures_eq
  refine ⟨alike.consistent serving.consistent, ?_, (perm.map _).nodup_iff.mp serving.distinct,
    faithful, runs⟩
  intro event eventMem
  rw [kernel]
  exact serving.others event (perm.mem_iff.mpr eventMem)

/-- Whoever is answered the same to the same is read the same, sent the same and left in the same
place. -/
theorem Serving.dealt (serving : Serving router events trace after) (alike : router.Twin other)
    (servingAgain : Serving other eventsAgain again twin) (perm : events.Perm eventsAgain)
    {client : ClientId}
    (part : PartAtCalls (trace.filter (Exchange.isOf client))
      (again.filter (Exchange.isOf client))) :
    trace.filterMap (Exchange.brought? client) = again.filterMap (Exchange.brought? client)
      ∧ trace.filterMap (Exchange.sentTo? client) = again.filterMap (Exchange.sentTo? client)
      ∧ after.registry.seat client = twin.registry.seat client := by
  rcases serving with ⟨consistent, others, distinct, faithful, runs⟩
  rcases servingAgain with ⟨consistentAgain, othersAgain, distinctAgain, faithfulAgain, runsAgain⟩
  rcases signs_of_perm perm distinct client with ⟨once, signs⟩
  have attended := (attended_of_serveClients consistent others faithful runs).2.2 client
  have attendedAgain :=
    (attended_of_serveClients consistentAgain othersAgain faithfulAgain runsAgain).2.2 client
  have capacity : other.clientBuffer.capacity = router.clientBuffer.capacity :=
    congrArg Fixtures.clientCapacity alike.fixtures_eq
  rw [signs, alike.seat_eq, capacity] at attendedAgain
  rw [own_of_serveClients consistent others distinct runs,
    own_of_serveClients consistentAgain othersAgain distinctAgain runsAgain, capacity] at part
  exact attended.unique_of_once once attendedAgain part

/-- Clients that are answered alike over their connections can be served in any order. -/
theorem Serving.interchanged (serving : Serving router events trace after)
    (alike : router.Twin other) (servingAgain : Serving other eventsAgain again twin)
    (perm : events.Perm eventsAgain)
    (part : ∀ socket, PartAtCalls (trace.filter (Exchange.isOf socket))
      (again.filter (Exchange.isOf socket))) :
    Interchanged router.poller.descriptor trace after again twin := by
  have dealt := fun client => serving.dealt alike servingAgain perm (part client)
  rcases accounts_of_serveClients serving.consistent serving.others serving.faithful serving.runs with
    ⟨accounts, -⟩
  rcases accounts_of_serveClients servingAgain.consistent servingAgain.others servingAgain.faithful
    servingAgain.runs with ⟨accountsAgain, -⟩
  have ids : ∀ client, client ∈ after.registry.ids ↔ client ∈ twin.registry.ids :=
    fun client => Registry.mem_ids_iff_of_seat (dealt client).2.2
  -- As many clients are left, so as many were removed.
  have removed : after.statistics.removed = twin.statistics.removed := by
    have nodup : after.registry.ids.Nodup := serving.consistent_after.sound.ids_nodup
    have nodupTwin : twin.registry.ids.Nodup := servingAgain.consistent_after.sound.ids_nodup
    have length := ((List.perm_ext_iff_of_nodup nodup nodupTwin).mpr ids).length_eq
    have balance := accounts.balance
    have balanceAgain := accountsAgain.balance
    rw [← alike.sameBooks.statistics, ← alike.rearranges.ids.length_eq] at balanceAgain
    omega
  have capacity : other.clientBuffer.capacity = router.clientBuffer.capacity :=
    congrArg Fixtures.clientCapacity alike.fixtures_eq
  have poller : other.poller.descriptor = router.poller.descriptor :=
    congrArg Fixtures.poller alike.fixtures_eq
  have breached : breachCount router.clientBuffer.capacity trace
      = breachCount router.clientBuffer.capacity again :=
    (received_perm fun socket => (dealt socket).1).countP_eq _
  refine ⟨sameBooks_of_seats serving.consistent_after servingAgain.consistent_after
    (fun client => (dealt client).2.2) ?_, ?_, fun socket => (dealt socket).2.1⟩
  · rw [accounts.statistics, accountsAgain.statistics, removed, breached, capacity,
      alike.sameBooks.statistics]
  · intro watched number
    have watchedAgain := accountsAgain.watched watched number
    rw [poller] at watchedAgain
    rw [accounts.watched, watchedAgain, ids number, alike.rearranges.ids.mem_iff]

end Serving

/-! ### A turn with another order of events -/

section Turns

variable {script : Script} {events eventsAgain clients : List Readiness} {past pastAgain : Trace}
  {outcome : Except Failure Bool} {timeout : Int}

/-- The datagram of the kernel, if one was reported, is heard by a twin with the same effect. -/
theorem interchanged_of_hears {framed : Bool} (alike : router.Twin other)
    (consistent : router.standing.Consistent) (separate : Separate script)
    (same : ∀ socket, past.filter (Exchange.isOf socket) = pastAgain.filter (Exchange.isOf socket))
    (hears : if framed then router.handleKernel.Runs trace after
      else trace = [] ∧ after = router)
    (scripted : Scripted (reporting events script) past trace) :
    ∃ again twin,
      (if framed then other.handleKernel.Runs again twin else again = [] ∧ twin = other)
        ∧ Scripted (reporting eventsAgain script) pastAgain again
        ∧ after.Twin twin
        ∧ (∀ socket, trace.filter (Exchange.isOf socket) = again.filter (Exchange.isOf socket))
        ∧ Interchanged router.poller.descriptor trace after again twin := by
  cases framed with
  | true =>
    rcases (straight_handleKernel other).scripted (reporting eventsAgain script) pastAgain with
      ⟨again, twin, hearsAgain, scriptedAgain⟩
    rcases alike.handleKernel consistent hears hearsAgain fun socket =>
        separate.partAtCalls scripted scriptedAgain (same socket) with
      ⟨stillAlike, own, watched⟩
    refine ⟨again, twin, hearsAgain, scriptedAgain, stillAlike, own, stillAlike.sameBooks,
      watched, ?_⟩
    intro socket
    rw [sentTo_own, own, ← sentTo_own]
  | false =>
    rcases hears with ⟨rfl, rfl⟩
    exact ⟨[], other, ⟨rfl, rfl⟩, trivial, alike, fun _ => rfl, alike.interchanged ..⟩

/-- Whoever acts on the same events in another order, or with tables in another order, comes to the
same. -/
theorem interchanged_of_acts {batch : Batch} (alike : router.Twin other)
    (consistent : router.standing.Consistent)
    (others : ∀ event ∈ batch.clients, event.descriptor ≠ router.kernel)
    (separate : Separate script)
    (faithful : ∀ past call, Exchange.Faithful ⟨call, script past call⟩)
    (perm : batch.clients.Perm clients) (distinct : (batch.clients.map Readiness.descriptor).Nodup)
    (same : unwaited past = unwaited pastAgain)
    (acts : router.Acts batch trace after)
    (scripted : Scripted (reporting events script) past trace) :
    ∃ again twin, other.Acts { batch with clients := clients } again twin
      ∧ Scripted (reporting eventsAgain script) pastAgain again
      ∧ Interchanged router.poller.descriptor trace after again twin := by
  rcases inParts_of_acts consistent others acts with
    ⟨coming, hearing, serving, entered, heard, rfl, comes, hears, serves, course, consistentEntered,
      consistentHeard, othersHeard⟩
  rw [scripted_append, scripted_append] at scripted
  rcases scripted with ⟨scriptedComing, scriptedHearing, scriptedServing⟩
  rcases course_of_comes comes with ⟨entering, door⟩
  have pollerEntered : entered.poller.descriptor = router.poller.descriptor :=
    congrArg Fixtures.poller (fixtures_course entering)
  have poller : heard.poller.descriptor = router.poller.descriptor :=
    congrArg Fixtures.poller (fixtures_course course)
  -- Nobody looks at the tables to accept, so the same calls are made again.
  rcases twin_of_comes alike comes with ⟨enteredAgain, alikeEntered, comesAgain⟩
  have comingAgain : Scripted (reporting eventsAgain script) pastAgain coming :=
    scriptedComing.reported same fun exchange exchangeMem => (door exchange exchangeMem).isWait
  have sameEntered := own_congr (unwaited_append_congr same coming)
  -- From here on only what is called on each socket is the same.
  rcases interchanged_of_hears alikeEntered consistentEntered separate sameEntered hears
      scriptedHearing with
    ⟨hearingAgain, heardAgain, hearsAgain, scriptedHearingAgain, alikeHeard, own, interchangedHeard⟩
  have sameHeard : ∀ socket, (past ++ coming ++ hearing).filter (Exchange.isOf socket)
      = (pastAgain ++ coming ++ hearingAgain).filter (Exchange.isOf socket) := by
    intro socket
    rw [List.filter_append, sameEntered socket, own socket, ← List.filter_append]
  rcases (straight_serveClients heardAgain clients).scripted (reporting eventsAgain script)
      (pastAgain ++ coming ++ hearingAgain) with
    ⟨servingAgain, twin, servesAgain, scriptedAgain⟩
  have first : Serving heard batch.clients serving after :=
    ⟨consistentHeard, othersHeard, distinct,
      scriptedServing.forall_mem (faithful_reporting faithful), serves⟩
  have second := first.reorder alikeHeard perm
    (scriptedAgain.forall_mem (faithful_reporting faithful)) servesAgain
  have interchanged := first.interchanged alikeHeard second perm fun socket =>
    separate.partAtCalls scriptedServing scriptedAgain (sameHeard socket)
  rw [poller] at interchanged
  rw [pollerEntered] at interchangedHeard
  refine ⟨coming ++ (hearingAgain ++ servingAgain), twin, ?_, ?_,
    (alikeEntered.interchanged _ coming).append (interchangedHeard.append interchanged)⟩
  · exact ⟨coming, hearingAgain, servingAgain, enteredAgain, heardAgain, rfl, comesAgain,
      hearsAgain, servesAgain⟩
  · rw [scripted_append, scripted_append]
    exact ⟨comingAgain, scriptedHearingAgain, scriptedAgain⟩

theorem classify_perm (perm : events.Perm eventsAgain) :
    router.classify eventsAgain
        = { router.classify events with clients := (router.classify eventsAgain).clients }
      ∧ (router.classify events).clients.Perm (router.classify eventsAgain).clients := by
  constructor
  · simp only [classify, perm.any_eq]
  · exact perm.filter _

theorem interchanged_of_dispatch (alike : router.Twin other) (consistent : router.standing.Consistent)
    (separate : Separate script)
    (faithful : ∀ past call, Exchange.Faithful ⟨call, script past call⟩)
    (perm : events.Perm eventsAgain) (distinct : (events.map Readiness.descriptor).Nodup)
    (same : unwaited past = unwaited pastAgain)
    (runs : (router.dispatch (router.classify events)).Runs trace (outcome, after))
    (scripted : Scripted (reporting events script) past trace) :
    ∃ again twin,
      (other.dispatch (router.classify eventsAgain)).Runs again (outcome, twin)
        ∧ Scripted (reporting eventsAgain script) pastAgain again
        ∧ Interchanged router.poller.descriptor trace after again twin := by
  rcases @classify_perm router _ _ perm with ⟨sorted, clients⟩
  rcases runs_dispatch runs with ⟨woken, -, _, draining, drains, ends⟩ | ⟨awake, rfl, acts⟩
  · have wokenAgain : (router.classify eventsAgain).wake = true := by
      rw [sorted]
      exact woken
    have unheard : ∀ exchange ∈ draining, exchange.call.isWait = false :=
      fun exchange exchangeMem => (door_drain drains exchange exchangeMem).isWait
    have scriptedAgain : Scripted (reporting eventsAgain script) pastAgain trace := by
      apply scripted.reported same
      rcases ends with ⟨_, -, rfl, -⟩ | ⟨-, rfl, -⟩
      · exact unheard
      · rw [List.forall_mem_append]
        exact ⟨unheard, by simp [Call.isWait]⟩
    rcases mirrors_dispatch_of_wake alike woken wokenAgain trace _ runs with
      ⟨⟨_, twin⟩, runsAgain, rfl, stillAlike⟩
    exact ⟨trace, twin, runsAgain, scriptedAgain, stillAlike.interchanged ..⟩
  · have distinctClients :
        ((router.classify events).clients.map Readiness.descriptor).Nodup :=
      (List.filter_sublist.map Readiness.descriptor).nodup distinct
    rcases interchanged_of_acts alike consistent clients_ne_kernel separate faithful clients
        distinctClients same acts scripted with
      ⟨again, twin, actsAgain, scriptedAgain, interchanged⟩
    rw [← sorted] at actsAgain
    have awakeAgain : (router.classify eventsAgain).wake = false := by
      rw [sorted]
      exact awake
    exact ⟨again, twin, dispatch_of_acts awakeAgain actsAgain, scriptedAgain, interchanged⟩

/-- If the listener can be put back, or need not be, the events are reported and acted on. -/
theorem parts_of_reporting (room : router.poller.capacity ≤ Poller.maxCapacity)
    (fits : events.length ≤ router.poller.capacity)
    (runs : (router.pollOnce timeout).Runs trace (outcome, after))
    (scripted : Scripted (reporting events script) past trace) :
    (∃ failure, router.resumeAccept.Runs trace (.error failure) ∧ outcome = .error failure
        ∧ after = router)
      ∨ ∃ resuming bounding rest resumed bounded,
        trace = resuming ++ (bounding ++
            (⟨.wait resumed.poller.descriptor resumed.poller.capacity bounded,
              .ok ⟨events.length, events⟩⟩ :: rest))
          ∧ router.resumeAccept.Runs resuming (.ok resumed)
          ∧ (resumed.boundedTimeout timeout).Runs bounding bounded
          ∧ (dispatch { resumed with poller := resumed.poller.store events }
            (resumed.classify events)).Runs rest (outcome, after) := by
  rcases runs_pollOnce runs with
    failing | ⟨resuming, bounding, waiting, rest, resumed, bounded, ready, poller, rfl, resumes,
      bounds, waits, ends⟩
  · exact Or.inl failing
  right
  have steady := (Stage.resumes resumes).steady_eq
  have capacity : resumed.poller.capacity = router.poller.capacity := congrArg Prod.snd steady
  rcases runs_wait waits with ⟨tooMany, -, -⟩ | ⟨answer, rfl, result⟩
  · omega
  rw [scripted_append, scripted_append] at scripted
  obtain rfl : answer = .ok ⟨events.length, events⟩ := scripted.2.2.1
  dsimp only [Poller.waited] at result
  rw [events_store (capacity ▸ fits)] at result
  cases result
  exact ⟨resuming, bounding, rest, resumed, bounded, rfl, resumes, bounds, ends⟩

/-- The poller of a twin is asked the same, and reports what it is told to report. -/
theorem Twin.waits (alike : router.Twin other) (room : router.poller.capacity ≤ Poller.maxCapacity)
    (fits : events.length ≤ router.poller.capacity) (timeout : Int) :
    (other.poller.wait timeout).Runs
      [⟨.wait router.poller.descriptor router.poller.capacity timeout,
        .ok ⟨events.length, events⟩⟩] (.ok events, other.poller.store events) := by
  have descriptor : other.poller.descriptor = router.poller.descriptor :=
    congrArg Fixtures.poller alike.fixtures_eq
  have capacity := alike.capacity_eq
  have waits := wait_of_answer (capacity ▸ room) timeout
    (.ok ⟨events.length, events⟩ : Attempt Reported)
  dsimp only [Poller.waited] at waits
  rwa [events_store (capacity ▸ fits), descriptor, capacity] at waits

/-- A turn can be taken again with the same events in another order, and with tables in another order,
and comes to the same. -/
theorem interchanged_of_pollOnce (alike : router.Twin other)
    (consistent : router.standing.Consistent)
    (room : router.poller.capacity ≤ Poller.maxCapacity)
    (fits : events.length ≤ router.poller.capacity) (separate : Separate script)
    (faithful : ∀ past call, Exchange.Faithful ⟨call, script past call⟩)
    (perm : events.Perm eventsAgain) (distinct : (events.map Readiness.descriptor).Nodup)
    (performs : (router.pollOnce timeout).Performs (reporting events script) trace
      (outcome, after)) :
    ∃ again twin,
      (other.pollOnce timeout).Performs (reporting eventsAgain script) again (outcome, twin)
        ∧ Interchanged router.poller.descriptor trace after again twin := by
  rcases performs with ⟨runs, scripted⟩
  rcases parts_of_reporting room fits runs scripted with
    ⟨failure, resumes, rfl, rfl⟩
      | ⟨resuming, bounding, rest, resumed, bounded, rfl, resumes, bounds, ends⟩
  · have door := door_resumeAccept resumes
    rcases mirrors_resumeAccept alike trace _ resumes with ⟨_, resumesAgain, ⟨⟩⟩
    refine ⟨trace, other, ⟨pollOnce_of_failure resumesAgain, ?_⟩, alike.interchanged ..⟩
    exact scripted.reported rfl fun exchange exchangeMem => (door exchange exchangeMem).isWait
  rcases mirrors_resumeAccept alike resuming _ resumes with ⟨_, resumesAgain, resumedAlike⟩
  rcases resumedAlike.of_ok with ⟨resumedAgain, rfl, alikeResumed⟩
  have steady := (Stage.resumes resumes).steady_eq
  have fixtures : resumed.fixtures = router.fixtures := congrArg Prod.fst steady
  have capacity : resumed.poller.capacity = router.poller.capacity := congrArg Prod.snd steady
  have poller : resumed.poller.descriptor = router.poller.descriptor :=
    congrArg Fixtures.poller fixtures
  have consistentReady :
      ({ resumed with poller := resumed.poller.store events } : Router).standing.Consistent :=
    (moves_of_course (.single (.resumes resumes)) consistent).1
  rw [scripted_append, scripted_append] at scripted
  rcases scripted with ⟨scriptedResuming, scriptedBounding, -, scriptedRest⟩
  have resumingAgain : Scripted (reporting eventsAgain script) [] resuming :=
    scriptedResuming.reported rfl fun exchange exchangeMem =>
      (door_resumeAccept resumes exchange exchangeMem).isWait
  have boundingAgain : Scripted (reporting eventsAgain script) ([] ++ resuming) bounding :=
    scriptedBounding.reported rfl fun exchange exchangeMem =>
      (door_boundedTimeout bounds exchange exchangeMem).isWait
  -- The twin waits for the same time, and finds the other order in the slots of its poller.
  have boundsAgain := bounds
  rw [← alikeResumed.boundedTimeout_eq] at boundsAgain
  have fitsAgain : eventsAgain.length ≤ resumed.poller.capacity := by
    rw [capacity, ← perm.length_eq]
    exact fits
  have waits := alikeResumed.waits (capacity ▸ room) fitsAgain bounded
  rcases interchanged_of_dispatch (alikeResumed.store events eventsAgain) consistentReady separate
      faithful perm distinct unwaited_wait ends scriptedRest with
    ⟨restAgain, twin, endsAgain, scriptedAgain, interchanged⟩
  change (Router.dispatch _ (resumed.classify eventsAgain)).Runs restAgain _ at endsAgain
  rw [← classify_congr alikeResumed.fixtures_eq] at endsAgain
  refine ⟨resuming ++ (bounding ++ (_ :: restAgain)), twin,
    ⟨pollOnce_of_wait resumesAgain boundsAgain waits endsAgain, ?_⟩, ?_⟩
  · rw [scripted_append, scripted_append]
    exact ⟨resumingAgain, boundingAgain, rfl, scriptedAgain⟩
  · rw [← poller]
    have alikeStill := fun part => alikeResumed.interchanged resumed.poller.descriptor part
    exact (alikeStill resuming).append ((alikeStill bounding).append (interchanged.waited _ _))

/-- A woken router takes the signals back, and the turn fails exactly if that fails. It accepts
nobody, receives nothing and sends nothing, and nothing has changed for the clients. -/
structure Woken (router : Router) (trace : Trace) (outcome : Except Failure Bool)
    (after : Router) : Prop where
  drains : ∃ early draining late drained, trace = early ++ (draining ++ late)
    ∧ router.wake.drain.Runs draining drained
    ∧ outcome = match drained with
      | .ok _ => .ok false
      | .error errno => .error (.system errno)
  idle : ∀ exchange ∈ trace, exchange.Idle router.fixtures
  registry : after.registry = router.registry
  statistics : after.statistics = router.statistics

theorem woken_of_dispatch {batch : Batch} (woken : batch.wake = true)
    (runs : (router.dispatch batch).Runs trace (outcome, after)) :
    router.Woken trace outcome after := by
  rcases runs_dispatch runs with
    ⟨-, rfl, drained, draining, drains, ⟨errno, rfl, rfl, rfl⟩ | ⟨rfl, rfl, rfl⟩⟩ | ⟨awake, -, -⟩
  · exact ⟨⟨[], trace, [], .error errno, by simp, drains, rfl⟩,
      (idle_of_woken drains (Or.inl rfl)).1, rfl, rfl⟩
  · exact ⟨⟨[], draining, _, .ok (), rfl, drains, rfl⟩,
      (idle_of_woken drains (Or.inr rfl)).1, rfl, rfl⟩
  · rw [woken] at awake
    cases awake

theorem Woken.prepend {ready : Router} (woken : ready.Woken trace outcome after)
    (idle : ∀ exchange ∈ early, exchange.Idle router.fixtures)
    (fixtures : ready.fixtures = router.fixtures) (registry : ready.registry = router.registry)
    (statistics : ready.statistics = router.statistics) :
    router.Woken (early ++ trace) outcome after := by
  rcases woken with ⟨⟨before, draining, late, drained, rfl, drains, stops⟩, idleLater, sameRegistry,
    sameStatistics⟩
  have wake : ready.wake = router.wake := congrArg (WakeEvent.mk ∘ Fixtures.wake) fixtures
  rw [wake] at drains
  rw [fixtures] at idleLater
  refine ⟨⟨early ++ before, draining, late, drained, by simp, drains, stops⟩, ?_,
    sameRegistry.trans registry, sameStatistics.trans statistics⟩
  rw [List.forall_mem_append]
  exact ⟨idle, idleLater⟩

theorem quiet_of_dispatch {batch : Batch} (consistent : router.standing.Consistent)
    (others : ∀ event ∈ batch.clients, event.descriptor ≠ router.kernel)
    (runs : (router.dispatch batch).Runs trace (outcome, after)) :
    trace.flatMap Exchange.reported = [] := by
  rcases runs_dispatch runs with
    ⟨-, -, _, draining, drains, ⟨_, -, rfl, -⟩ | ⟨-, rfl, -⟩⟩ | ⟨-, -, acts⟩
  · exact (aside_of_door (door_drain drains)).1
  · simp [(aside_of_door (door_drain drains)).1, Exchange.reported]
  · exact quiet_of_acts consistent others acts

/-- Wherever the wake event stands among the events that are reported, it is all that counts. -/
theorem woken_of_pollOnce (consistent : router.standing.Consistent)
    (room : router.poller.capacity ≤ Poller.maxCapacity)
    (fits : events.length ≤ router.poller.capacity)
    (performs : (router.pollOnce timeout).Performs (reporting events script) trace
      (outcome, after))
    (wakes : ∃ event ∈ trace.flatMap Exchange.reported,
      event.descriptor = router.wake.descriptor) :
    router.Woken trace outcome after := by
  rcases performs with ⟨runs, scripted⟩
  rcases parts_of_reporting room fits runs scripted with
    ⟨failure, resumes, rfl, rfl⟩
      | ⟨resuming, bounding, rest, resumed, bounded, rfl, resumes, bounds, ends⟩
  · rw [(aside_of_door (door_resumeAccept resumes)).1] at wakes
    simp at wakes
  have consistentReady :
      ({ resumed with poller := resumed.poller.store events } : Router).standing.Consistent :=
    (moves_of_course (.single (.resumes resumes)) consistent).1
  have fixtures : ({ resumed with poller := resumed.poller.store events } : Router).fixtures
      = router.fixtures := (Stage.resumes resumes).fixtures_eq
  rcases (idle_resumeAccept resumes).2 resumed rfl with ⟨registry, statistics⟩
  simp only [List.flatMap_append, List.flatMap_cons,
    (aside_of_door (door_resumeAccept resumes)).1, (aside_of_door (door_boundedTimeout bounds)).1,
    quiet_of_dispatch consistentReady clients_ne_kernel ends, List.nil_append,
    List.append_nil] at wakes
  have woken : (resumed.classify events).wake = true := by
    rw [classify_congr (Stage.resumes resumes).fixtures_eq]
    rcases wakes with ⟨event, reported, isWake⟩
    exact List.any_eq_true.mpr ⟨event, reported, decide_eq_true isWake⟩
  have idle : ∀ exchange ∈ resuming ++ (bounding ++
      [(⟨.wait resumed.poller.descriptor resumed.poller.capacity bounded,
        .ok ⟨events.length, events⟩⟩ : Exchange)]), exchange.Idle router.fixtures := by
    rw [List.forall_mem_append, List.forall_mem_append]
    exact ⟨(idle_resumeAccept resumes).1, idle_boundedTimeout bounds, by simp [Exchange.Idle]⟩
  have wokenRouter := (woken_of_dispatch woken ends).prepend idle fixtures registry statistics
  simpa using wokenRouter

/-- In whatever order the tables list the clients, the addresses and the subscribers, and in whatever
order the events are reported, a turn can be taken, returns the same and comes to the same. -/
theorem interchanged_of_turns {listener : Listener} {kernel : Descriptor} {options : RouterOptions}
    {created history : Trace} {start : Router} {arranged : Registry Connection}
    (puts : (create listener kernel options).run.Runs created (.ok start))
    (turns : Course Turn start history router) (same : router.registry.Rearranges arranged)
    (separate : Separate script)
    (faithful : ∀ past call, Exchange.Faithful ⟨call, script past call⟩)
    (perm : events.Perm eventsAgain) (distinct : (events.map Readiness.descriptor).Nodup)
    (fits : events.length ≤ maxEvents)
    (performs : (router.pollOnce timeout).Performs (reporting events script) trace
      (outcome, after)) :
    ∃ again twin,
      (pollOnce { router with registry := arranged } timeout).Performs
          (reporting eventsAgain script) again (outcome, twin)
        ∧ Interchanged router.poller.descriptor trace after again twin := by
  have consistent := (moves_of_course (course_of_turns turns) (secure_create puts).consistent).1
  rw [← capacity_of_turns puts turns] at fits
  exact interchanged_of_pollOnce ⟨consistent.sound, same⟩ consistent (room_of_turns puts turns) fits
    separate faithful perm distinct performs

/-- In whatever order the events of a batch are reported, a turn returns the same, and leaves the same
clients, subscriptions and counters, the same watched descriptors and the same messages to every
socket. If the wake event is among them, nothing else is done. A batch has at most one event for a
descriptor, and at most as many as one wait may report. -/
theorem interchangeable_of_turns {listener : Listener} {kernel : Descriptor}
    {options : RouterOptions} {created history : Trace} {start : Router}
    (puts : (create listener kernel options).run.Runs created (.ok start))
    (turns : Course Turn start history router) (separate : Separate script)
    (faithful : ∀ past call, Exchange.Faithful ⟨call, script past call⟩)
    (perm : events.Perm eventsAgain) (distinct : (events.map Readiness.descriptor).Nodup)
    (fits : events.length ≤ maxEvents) (timeout : Int) :
    (∀ bound, Sparing Exchange.prolongs script bound →
        ∃ trace result, (router.pollOnce timeout).Performs (reporting events script) trace result)
      ∧ ∀ trace outcome after,
        (router.pollOnce timeout).Performs (reporting events script) trace (outcome, after) →
          (∃ again result,
              (router.pollOnce timeout).Performs (reporting eventsAgain script) again result)
            ∧ (∀ again outcomeAgain twin,
              (router.pollOnce timeout).Performs (reporting eventsAgain script) again
                  (outcomeAgain, twin) →
                outcomeAgain = outcome
                  ∧ Interchanged router.poller.descriptor trace after again twin)
            ∧ ((∃ event ∈ trace.flatMap Exchange.reported,
                event.descriptor = router.wake.descriptor) →
              router.Woken trace outcome after) := by
  have consistent := (moves_of_course (course_of_turns turns) (secure_create puts).consistent).1
  constructor
  · intro bound sparing
    exact ⟨_, _, performs_rehearse
      (pollOnce_ends (sparing_reporting sparing) (Nat.lt_succ_self bound) router timeout)⟩
  intro trace outcome after performs
  rcases interchanged_of_turns puts turns (.refl _) separate faithful perm distinct fits performs with
    ⟨again, twin, performsAgain, interchanged⟩
  rw [← capacity_of_turns puts turns] at fits
  refine ⟨⟨again, _, performsAgain⟩, ?_,
    woken_of_pollOnce consistent (room_of_turns puts turns) fits performs⟩
  intro other outcomeAgain last performsOther
  rcases performsOther.unique performsAgain with ⟨rfl, same⟩
  cases same
  exact ⟨rfl, interchanged⟩

/-- The same as `snubbing`, but what is received is cut to the capacity. -/
def curtailed (deaf newcomers : List Descriptor) (past : Trace) : (call : Call) → call.Answer
  | .receive socket capacity =>
    (snubbing deaf newcomers [] past (.receive socket capacity)).map fun received =>
      ⟨received.size, received.stored.take capacity⟩
  | call => snubbing deaf newcomers [] past call

theorem separate_curtailed (deaf newcomers : List Descriptor) :
    Separate (curtailed deaf newcomers) := by
  intro socket past call own
  cases call with
  | send | receive => rfl
  | _ => cases own

theorem faithful_curtailed (deaf newcomers : List Descriptor) (past : Trace) (call : Call) :
    Exchange.Faithful ⟨call, curtailed deaf newcomers past call⟩ := by
  cases call with
  | receive socket capacity =>
    have registers : (Request.encodeRegister ⟨1, 2, 3, 4, 5, 6⟩ 1 9).length = 32 :=
      Request.length_encodeRegister ..
    by_cases kernel : socket = ⟨4⟩ <;>
      simp [Exchange.Faithful, curtailed, snubbing, hosting, kernel, Except.map, registers,
        Nat.min_comm]
  | _ => trivial

theorem shared_interchanges : ((shared.pollOnce (-1)).rehearse
    (reporting [⟨⟨7⟩, readable⟩, ⟨⟨8⟩, readable⟩, ⟨⟨4⟩, readable⟩, ⟨⟨3⟩, readable⟩]
      (curtailed [⟨7⟩] [⟨9⟩])) 8).1.isSome := by
  decide +kernel

theorem shared_stops : ((shared.pollOnce (-1)).rehearse
    (reporting [⟨⟨7⟩, readable⟩, ⟨⟨3⟩, readable⟩, ⟨⟨6⟩, readable⟩] (curtailed [] [⟨9⟩])) 8).1.isSome := by
  decide +kernel

/-- A client that waits, a frame that the first of two clients does not take, and both clients can be
reported in another order. In another turn the router is woken, although a client is ready. -/
theorem interchangeable_of_curtailed : ∃ history, Course Turn vacant history shared
    ∧ (∃ trace after again twin,
      (shared.pollOnce (-1)).Performs
          (reporting [⟨⟨7⟩, readable⟩, ⟨⟨8⟩, readable⟩, ⟨⟨4⟩, readable⟩, ⟨⟨3⟩, readable⟩]
            (curtailed [⟨7⟩] [⟨9⟩])) trace (.ok true, after)
        ∧ (shared.pollOnce (-1)).Performs
          (reporting [⟨⟨8⟩, readable⟩, ⟨⟨3⟩, readable⟩, ⟨⟨7⟩, readable⟩, ⟨⟨4⟩, readable⟩]
            (curtailed [⟨7⟩] [⟨9⟩])) again (.ok true, twin)
        ∧ Interchanged shared.poller.descriptor trace after again twin
        ∧ after.registry.ids = [⟨8⟩, ⟨9⟩])
    ∧ ∃ trace outcome after,
      (shared.pollOnce (-1)).Performs
          (reporting [⟨⟨7⟩, readable⟩, ⟨⟨3⟩, readable⟩, ⟨⟨6⟩, readable⟩] (curtailed [] [⟨9⟩])) trace
          (outcome, after)
        ∧ shared.Woken trace outcome after := by
  have turns := (Course.single (turn_rehearse vacant_hosts)).next (turn_rehearse paired_serves)
  refine ⟨_, turns, ?_, ?_⟩
  · obtain ⟨trace, ⟨_, after⟩, performs, rfl, ids⟩ : ∃ trace result,
        (shared.pollOnce (-1)).Performs
          (reporting [⟨⟨7⟩, readable⟩, ⟨⟨8⟩, readable⟩, ⟨⟨4⟩, readable⟩, ⟨⟨3⟩, readable⟩]
            (curtailed [⟨7⟩] [⟨9⟩])) trace result
          ∧ result.1 = .ok true ∧ result.2.registry.ids = [⟨8⟩, ⟨9⟩] :=
      ⟨_, _, performs_rehearse shared_interchanges, by decide +kernel, by decide +kernel⟩
    have perm : [(⟨⟨7⟩, readable⟩ : Readiness), ⟨⟨8⟩, readable⟩, ⟨⟨4⟩, readable⟩,
        ⟨⟨3⟩, readable⟩].Perm [⟨⟨8⟩, readable⟩, ⟨⟨3⟩, readable⟩, ⟨⟨7⟩, readable⟩,
        ⟨⟨4⟩, readable⟩] := by
      decide
    rcases (interchangeable_of_turns creates_vacant turns (separate_curtailed [⟨7⟩] [⟨9⟩])
        (faithful_curtailed [⟨7⟩] [⟨9⟩]) perm (by decide) (by decide) (-1)).2 trace _ after
        performs with
      ⟨⟨again, ⟨outcome, twin⟩, performsAgain⟩, each, -⟩
    rcases each again outcome twin performsAgain with ⟨rfl, interchanged⟩
    exact ⟨trace, after, again, twin, performs, performsAgain, interchanged, ids⟩
  · obtain ⟨trace, ⟨outcome, after⟩, performs, wakes⟩ : ∃ trace result,
        (shared.pollOnce (-1)).Performs
          (reporting [⟨⟨7⟩, readable⟩, ⟨⟨3⟩, readable⟩, ⟨⟨6⟩, readable⟩] (curtailed [] [⟨9⟩]))
          trace result
          ∧ ∃ event ∈ trace.flatMap Exchange.reported,
            event.descriptor = shared.wake.descriptor :=
      ⟨_, _, performs_rehearse shared_stops, by decide +kernel⟩
    have stops := (interchangeable_of_turns creates_vacant turns (separate_curtailed [] [⟨9⟩])
      (faithful_curtailed [] [⟨9⟩]) (.refl _) (by decide) (by decide) (-1)).2 trace outcome after
      performs
    exact ⟨trace, outcome, after, performs, stops.2.2 wakes⟩

end Turns

end Router

end RadioRelay
