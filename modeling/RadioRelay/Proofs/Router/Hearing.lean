import RadioRelay.Proofs.Router.Forwarding
import RadioRelay.Proofs.Router.Laps
import RadioRelay.Proofs.Router.Servings
import RadioRelay.Proofs.Router.Twins

/-!
# Forwarding with tables in another order

A frame goes to the subscribers in the order in which the table lists them. If all that is sent over
a connection is answered according to this connection, the order makes no difference: everybody is
sent the same and leaves or stays as before, and the routers still differ in nothing but the order
of their tables (`Router.Twin.handleKernel`).
-/

namespace RadioRelay

open Program

variable {client : ClientId}

theorem PartAtCalls.of_filter_cons {kind : Exchange → Bool} {exchange : Exchange}
    {trace again : Trace}
    (part : PartAtCalls ((exchange :: trace).filter kind) ((exchange :: again).filter kind)) :
    PartAtCalls (trace.filter kind) (again.filter kind) := by
  rw [List.filter_cons, List.filter_cons] at part
  split at part
  · exact (part rfl).2
  · exact part

/-- What is sent to a socket is among the calls on this socket. -/
theorem sentTo_own {trace : Trace} {socket : Descriptor} :
    trace.filterMap (Exchange.sentTo? socket)
      = (trace.filter (Exchange.isOf socket)).filterMap (Exchange.sentTo? socket) := by
  rw [List.filterMap_filter]
  apply List.filterMap_congr
  rintro ⟨call, answer⟩ -
  cases call <;> simp [Exchange.sentTo?, Exchange.sent?, Exchange.isOf, Call.isOf]

/-- Reading a socket leads to what leaves everybody watched who stays. -/
theorem Move.mem_watchedAfter_of_receive {fixed : Fixtures} {standing after : Standing}
    {trace rest : Trace} {source : Descriptor} {capacity : Nat} {answer : Attempt Received}
    (move : Move fixed standing trace after) (consistent : standing.Consistent)
    (reads : trace = ⟨.receive source capacity, answer⟩ :: rest) (watched : List Descriptor)
    (number : Descriptor) :
    number ∈ watchedAfter fixed.poller watched trace ↔
      number ∈ watched ∧ (number ∈ standing.registry.ids → number ∈ after.registry.ids) := by
  cases move with
  | pauses | resumes | turnsAway | admits | retires => cases reads
  | aside quiet =>
    rw [watchedAfter_eq_self fun exchange exchangeMem _ => (quiet exchange exchangeMem).nowWatched]
    simp
  | withholds => simp [watchedAfter, Exchange.nowWatched]
  | answers => simp [watchedAfter, posted, Exchange.nowWatched]
  | failsToAnswer client message reason connected =>
    change number ∈ watchedAfter fixed.poller watched (farewell fixed reason (client, _)) ↔ _
    rw [mem_watchedAfter_farewell, Registry.mem_ids_remove, Registry.ids_grant]
    by_cases same : number = client
    · subst same
      simp [connected]
    · simp [same]
  | forwards notification message sendings leaving heard encoded addressed dropped =>
    have connected := (consistent.failing_connected message addressed).2
    change number ∈ watchedAfter fixed.poller watched (sendings.map (posted message)
      ++ leaving.flatMap (farewell fixed .deliveryFailed)) ↔ _
    rw [mem_watchedAfter_forwarding, dropped, Registry.ids_removeAll]
    by_cases failed : number ∈ failing message sendings
    · simp [failed, connected number failed]
    · simp [failed]

section Sendings

variable {message : Bytes} {capacity : Nat} {sendings sendingsAgain : List (ClientId × Attempt Nat)}

/-- In both orders a client is sent the message once or not at all, and takes the same of it. -/
theorem sentTo_of_partAtCalls (distinct : (sendings.map (·.1)).Nodup)
    (perm : (sendings.map (·.1)).Perm (sendingsAgain.map (·.1)))
    (part : PartAtCalls
      (dealings client capacity [] ((sendings.map (posted message)).filterMap
        (Exchange.sentTo? client)))
      (dealings client capacity [] ((sendingsAgain.map (posted message)).filterMap
        (Exchange.sentTo? client)))) :
    (client ∉ sendings.map (·.1) ∧ client ∉ sendingsAgain.map (·.1)
        ∧ (sendings.map (posted message)).filterMap (Exchange.sentTo? client) = []
        ∧ (sendingsAgain.map (posted message)).filterMap (Exchange.sentTo? client) = [])
      ∨ ∃ outcome, (client, outcome) ∈ sendings ∧ (client, outcome) ∈ sendingsAgain
        ∧ (sendings.map (posted message)).filterMap (Exchange.sentTo? client)
          = [(message, outcome)]
        ∧ (sendingsAgain.map (posted message)).filterMap (Exchange.sentTo? client)
          = [(message, outcome)] := by
  have distinctAgain := perm.nodup_iff.mp distinct
  rcases @sentTo_sendings client message _ distinct with
    ⟨absent, nothing⟩ | ⟨outcome, sending, sent⟩
  · have absentAgain := mt perm.mem_iff.mpr absent
    rcases @sentTo_sendings client message _ distinctAgain with
      ⟨-, nothingAgain⟩ | ⟨_, sending, -⟩
    · exact Or.inl ⟨absent, absentAgain, nothing, nothingAgain⟩
    · exact absurd (List.mem_map_of_mem sending) absentAgain
  · have present := perm.mem_iff.mp (List.mem_map_of_mem sending)
    rcases @sentTo_sendings client message _ distinctAgain with
      ⟨absent, -⟩ | ⟨outcomeAgain, sendingAgain, sentAgain⟩
    · exact absurd present absent
    · rw [sent, sentAgain] at part
      have alike := (part rfl).1
      cases alike
      exact Or.inr ⟨outcome, sending, sendingAgain, sent, sentAgain⟩

/-- Whoever is answered alike to the same message took the same of it, in every order. -/
theorem perm_of_partAtCalls (distinct : (sendings.map (·.1)).Nodup)
    (perm : (sendings.map (·.1)).Perm (sendingsAgain.map (·.1)))
    (part : ∀ client : ClientId, PartAtCalls
      (dealings client capacity [] ((sendings.map (posted message)).filterMap
        (Exchange.sentTo? client)))
      (dealings client capacity [] ((sendingsAgain.map (posted message)).filterMap
        (Exchange.sentTo? client)))) :
    sendings.Perm sendingsAgain ∧ ∀ client : ClientId,
      (sendings.map (posted message)).filterMap (Exchange.sentTo? client)
        = (sendingsAgain.map (posted message)).filterMap (Exchange.sentTo? client) := by
  have distinctAgain := perm.nodup_iff.mp distinct
  have each := fun client => sentTo_of_partAtCalls distinct perm (part client)
  constructor
  · rw [List.perm_ext_iff_of_nodup distinct.of_map distinctAgain.of_map]
    rintro ⟨client, outcome⟩
    rcases each client with ⟨absent, absentAgain, -⟩ | ⟨taken, sending, sendingAgain, -⟩
    · exact iff_of_false (fun member => absent (List.mem_map_of_mem member))
        fun member => absentAgain (List.mem_map_of_mem member)
    · constructor
      · intro member
        have same := List.inj_on_of_nodup_map distinct member sending rfl
        exact same ▸ sendingAgain
      · intro member
        have same := List.inj_on_of_nodup_map distinctAgain member sendingAgain rfl
        exact same ▸ sending
  · intro client
    rcases each client with ⟨-, -, nothing, nothingAgain⟩ | ⟨_, -, -, sent, sentAgain⟩
    · rw [nothing, nothingAgain]
    · rw [sent, sentAgain]

end Sendings

namespace Router

variable {router other after last : Router} {trace again rest restAgain : Trace}
  {answer : Attempt Received}

theorem Twin.withSent (twin : router.Twin other) (received : Received) (message : Bytes)
    {sendings sendingsAgain : List (ClientId × Attempt Nat)} (perm : sendings.Perm sendingsAgain) :
    ((router.withDatagram received).withSent message sendings).Twin
      ((other.withDatagram received).withSent message sendingsAgain) := by
  have failed : (failing message sendings).Perm (failing message sendingsAgain) :=
    (perm.filter _).map _
  cases twin with
  | intro sound same =>
    unfold Router.withSent
    rw [perm.countP_eq, failed.length_eq]
    exact ⟨sound.removeAll _, sound.rearranges_removeAll same failed⟩

theorem Twin.ignoreDatagram (twin : router.Twin other) (received : Received) :
    (router.withDatagram received).ignoreDatagram.Twin
      (other.withDatagram received).ignoreDatagram := by
  cases twin with
  | intro sound same => exact ⟨sound, same⟩

/-- What follows on the same datagram is the same for everybody. -/
theorem Twin.forwarded (twin : router.Twin other) (consistent : router.standing.Consistent)
    {capacity : Nat} (forwarded : Forwarded router answer rest after)
    (forwardedAgain : Forwarded other answer restAgain last)
    (part : ∀ client : ClientId, PartAtCalls
      (dealings client capacity [] (rest.filterMap (Exchange.sentTo? client)))
      (dealings client capacity [] (restAgain.filterMap (Exchange.sentTo? client)))) :
    after.Twin last ∧ ∀ client : ClientId,
      rest.filterMap (Exchange.sentTo? client) = restAgain.filterMap (Exchange.sentTo? client) := by
  cases answer with
  | error errno =>
    rcases forwarded with ⟨nothing, rfl⟩
    rcases forwardedAgain with ⟨nothingAgain, rfl⟩
    exact ⟨twin, fun client => sentTo_congr (nothing.trans nothingAgain.symm)⟩
  | ok received =>
    have heard : other.heard? received = router.heard? received := by
      cases twin with
      | intro sound same => rfl
    simp only [Forwarded, heard] at forwarded forwardedAgain
    cases found : router.heard? received with
    | none =>
      rw [found] at forwarded forwardedAgain
      rcases forwarded with ⟨nothing, rfl⟩
      rcases forwardedAgain with ⟨nothingAgain, rfl⟩
      exact ⟨twin.ignoreDatagram received,
        fun client => sentTo_congr (nothing.trans nothingAgain.symm)⟩
    | some notification =>
      rw [found] at forwarded forwardedAgain
      dsimp only at forwarded forwardedAgain
      cases encoded : Delivery.encode ⟨notification.transmitter, notification.frame⟩ with
      | error error =>
        rw [encoded] at forwarded forwardedAgain
        rcases forwarded with ⟨nothing, rfl⟩
        rcases forwardedAgain with ⟨nothingAgain, rfl⟩
        exact ⟨twin.withSent received [] (.refl _),
          fun client => sentTo_congr (nothing.trans nothingAgain.symm)⟩
      | ok message =>
        rw [encoded] at forwarded forwardedAgain
        rcases forwarded with ⟨sendings, clients, sent, rfl⟩
        rcases forwardedAgain with ⟨sendingsAgain, clientsAgain, sentAgain, rfl⟩
        have posts : ∀ client : ClientId, rest.filterMap (Exchange.sentTo? client)
            = (sendings.map (posted message)).filterMap (Exchange.sentTo? client) :=
          fun client => sentTo_congr (sent.trans sent_posted.symm)
        have postsAgain : ∀ client : ClientId, restAgain.filterMap (Exchange.sentTo? client)
            = (sendingsAgain.map (posted message)).filterMap (Exchange.sentTo? client) :=
          fun client => sentTo_congr (sentAgain.trans sent_posted.symm)
        have distinct : (sendings.map (·.1)).Nodup :=
          clients ▸ consistent.sound.nodup_subscribers notification.transmitter
        have subscribers : (sendings.map (·.1)).Perm (sendingsAgain.map (·.1)) := by
          rw [clients, clientsAgain]
          exact twin.rearranges.subscribers notification.transmitter
        simp only [posts, postsAgain] at part ⊢
        rcases perm_of_partAtCalls distinct subscribers part with ⟨perm, each⟩
        exact ⟨twin.withSent received message perm, each⟩

/-- If every connection is answered alike, a frame is forwarded alike, in whatever order the tables
list the subscribers. -/
theorem Twin.handleKernel (twin : router.Twin other) (consistent : router.standing.Consistent)
    (runs : router.handleKernel.Runs trace after) (runsAgain : other.handleKernel.Runs again last)
    (part : ∀ socket, PartAtCalls (trace.filter (Exchange.isOf socket))
      (again.filter (Exchange.isOf socket))) :
    after.Twin last
      ∧ (∀ socket, trace.filter (Exchange.isOf socket) = again.filter (Exchange.isOf socket))
      ∧ ∀ watched number, number ∈ watchedAfter router.poller.descriptor watched trace ↔
        number ∈ watchedAfter router.poller.descriptor watched again := by
  have fixtures := twin.fixtures_eq
  have kernel : other.kernel = router.kernel := congrArg Fixtures.kernel fixtures
  have capacity : other.kernelBuffer.capacity = router.kernelBuffer.capacity :=
    congrArg Fixtures.kernelCapacity fixtures
  have consistentAgain := twin.consistent consistent
  have moves := moves_handleKernel consistent runs
  have movesAgain := moves_handleKernel consistentAgain runsAgain
  rcases forwarded_of_runs consistent runs with ⟨answer, rest, rfl, forwarded⟩
  rcases forwarded_of_runs consistentAgain runsAgain with
    ⟨answerAgain, restAgain, rfl, forwardedAgain⟩
  have own := fun socket : Descriptor => @own_of_tends _ socket router.kernelBuffer.capacity
    (tends_handleKernel consistent runs)
  have ownAgain := fun socket : Descriptor => @own_of_tends _ socket router.kernelBuffer.capacity
    (tends_handleKernel consistentAgain runsAgain)
  rw [kernel, capacity] at part ⊢
  -- The datagram is the same, as nothing was called on the socket of the kernel before.
  have reads : ∀ answer : Attempt Received, Exchange.isOf router.kernel
      ⟨.receive router.kernel router.kernelBuffer.capacity, answer⟩ = true :=
    fun _ => decide_eq_true rfl
  have heard := part router.kernel
  rw [List.filter_cons_of_pos (reads _), List.filter_cons_of_pos (reads _)] at heard
  have same := (heard rfl).1
  cases same
  have partRest := fun socket => (part socket).of_filter_cons
  simp only [own, ownAgain] at partRest
  rcases twin.forwarded consistent forwarded forwardedAgain partRest with ⟨twins, sent⟩
  refine ⟨twins, ?_, ?_⟩
  · intro socket
    rw [List.filter_cons, List.filter_cons, own, ownAgain, sent]
  · intro watched number
    have poller : other.fixtures.poller = router.poller.descriptor :=
      congrArg Fixtures.poller fixtures
    have now := moves.mem_watchedAfter_of_receive consistent rfl watched number
    have nowAgain := movesAgain.mem_watchedAfter_of_receive consistentAgain rfl watched number
    rw [poller, kernel, capacity] at nowAgain
    change number ∈ watchedAfter router.poller.descriptor watched _ ↔ _ at now
    rw [now, nowAgain]
    change _ ∧ (number ∈ router.registry.ids → number ∈ after.registry.ids) ↔
      _ ∧ (number ∈ other.registry.ids → number ∈ last.registry.ids)
    rw [twin.rearranges.ids.mem_iff, twins.rearranges.ids.mem_iff]

end Router

end RadioRelay
