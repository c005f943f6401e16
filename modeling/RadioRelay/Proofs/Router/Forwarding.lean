import RadioRelay.Proofs.Router.Delivery

/-!
# What comes of a datagram

The outcome of the receive from the kernel says all that follows on it: what is
sent to whom, who leaves, and how the router stands afterwards.
-/

namespace RadioRelay.Router

open Program

variable {router after : Router} {trace : Trace} {client : ClientId}

/-- The router after it sent a frame. Whoever did not take it is gone. -/
def withSent (router : Router) (message : Bytes) (sendings : List (ClientId × Attempt Nat)) :
    Router :=
  { router with
    registry := (router.registry.removeAll (failing message sendings)).2
    statistics := { router.statistics with
      removed := router.statistics.removed + (failing message sendings).length
      notifications := router.statistics.notifications + 1
      deliveries := router.statistics.deliveries
        + sendings.countP fun sending => tookAll message sending.2
      failedDeliveries := router.statistics.failedDeliveries
        + (failing message sendings).length } }

/-- What follows on what the kernel handed over. -/
def Forwarded (before : Router) (answer : Attempt Received) (rest : Trace) (after : Router) :
    Prop :=
  match answer with
  | .error _ => rest.filterMap Exchange.sent? = [] ∧ after = before
  | .ok received =>
    match before.heard? received with
    | none =>
      rest.filterMap Exchange.sent? = [] ∧ after = (before.withDatagram received).ignoreDatagram
    | some notification =>
      match Delivery.encode ⟨notification.transmitter, notification.frame⟩ with
      | .error _ =>
        rest.filterMap Exchange.sent? = [] ∧ after = (before.withDatagram received).withSent [] []
      | .ok message => ∃ sendings,
        sendings.map (·.1) = before.registry.subscribers notification.transmitter
          ∧ rest.filterMap Exchange.sent?
            = sendings.map (fun sending => (sending.1, message, sending.2))
          ∧ after = (before.withDatagram received).withSent message sendings

theorem sent_of_notices (notices : ∀ exchange ∈ trace, ∃ notice, exchange = ⟨.log notice, ()⟩) :
    trace.filterMap Exchange.sent? = [] := by
  rw [List.filterMap_eq_nil_iff]
  intro exchange exchangeMem
  rcases notices exchange exchangeMem with ⟨notice, rfl⟩
  rfl

theorem sent_posted {message : Bytes} {sendings : List (ClientId × Attempt Nat)} :
    (sendings.map (posted message)).filterMap Exchange.sent?
      = sendings.map fun sending => (sending.1, message, sending.2) := by
  rw [List.filterMap_map, ← List.filterMap_eq_map]
  rfl

theorem sentTo_congr {other : Trace}
    (same : trace.filterMap Exchange.sent? = other.filterMap Exchange.sent?) :
    trace.filterMap (Exchange.sentTo? client) = other.filterMap (Exchange.sentTo? client) := by
  rw [sentTo_eq_filterMap, sentTo_eq_filterMap, same]

theorem sent_forwarding {fixed : Fixtures} {reason : RemovalReason} {message : Bytes}
    {sendings : List (ClientId × Attempt Nat)} {leaving : List (ClientId × Attempt Unit)} :
    (sendings.map (posted message) ++ leaving.flatMap (farewell fixed reason)).filterMap
        Exchange.sent?
      = sendings.map fun sending => (sending.1, message, sending.2) := by
  have silent : (leaving.flatMap (farewell fixed reason)).filterMap Exchange.sent? = [] := by
    rw [List.filterMap_eq_nil_iff, List.forall_mem_flatMap]
    simp only [forall_mem_farewell]
    exact fun _ _ => ⟨rfl, rfl, rfl⟩
  rw [List.filterMap_append, silent, List.append_nil, sent_posted]

def tookWhole : Exchange → Bool
  | ⟨.send _ message, outcome⟩ => tookAll message outcome
  | _ => false

theorem countP_of_mailing {message : Bytes} {sends : List ((ClientId × Connection) × Attempt Nat)}
    {sendings : List (ClientId × Attempt Nat)}
    (same : mailing message sends = sendings.map (posted message)) :
    (sends.countP fun entry => tookAll message entry.2)
      = sendings.countP fun sending => tookAll message sending.2 := by
  have counts := congrArg (List.countP tookWhole) same
  rw [mailing, List.countP_map, List.countP_map] at counts
  exact counts

/-- What follows on a frame that was heard is sent, if it can be encoded, to all its subscribers,
once to each of them. -/
theorem runs_forwarded {notification : Notification} {received : Received}
    (consistent : router.standing.Consistent)
    (heard : router.heard? received = some notification)
    (runs : ((router.withDatagram received).forward notification).Runs trace after) :
    Forwarded router (.ok received) trace after := by
  rcases runs_forward runs with ⟨sent, closed, report, left, rfl, routes, retires⟩
  rcases runs_retireAll retires with ⟨retired, dropped, rfl, rfl⟩
  simp only [Forwarded, heard]
  rcases runs_route routes with
    ⟨rfl, nobody, rfl, noReason, none⟩
      | ⟨message, sends, encoded, targets, rfl, delivered, fallen, rfl⟩
  · rw [nobody] at dropped
    rcases List.map_eq_nil_iff.mp dropped with rfl
    have counted : (router.withDatagram received).withRouted report
        (router.withDatagram received).registry = (router.withDatagram received).withSent [] [] := by
      simp [withRouted, withSent, nobody, none, failing, Registry.removeAll]
    rw [nobody, counted]
    cases encoded : Delivery.encode ⟨notification.transmitter, notification.frame⟩ with
    | error error => exact ⟨rfl, rfl⟩
    | ok message =>
      rcases noReason with nobodySubscribed | ⟨error, refused⟩
      · exact ⟨[], nobodySubscribed.symm, rfl, rfl⟩
      · rw [refused] at encoded
        cases encoded
  · rw [fallen] at dropped
    rcases exists_sendings consistent .deliveryFailed targets dropped with
      ⟨sendings, leaving, addressed, left, failed, length, sent, closed⟩
    have number : report.dropped.length = (failing message sendings).length := by
      rw [← left, List.length_map, length, fallen, ← dropped, List.length_map]
    rw [encoded]
    refine ⟨sendings, addressed, ?_, ?_⟩
    · change (mailing message sends ++ retirements router.poller .deliveryFailed retired).filterMap
        Exchange.sent? = _
      rw [sent, closed, sent_forwarding]
    · have taken := countP_of_mailing sent
      simp only [withRouted, withSent, number, delivered, taken, failed]

theorem forwarded_of_runs (consistent : router.standing.Consistent)
    (runs : router.handleKernel.Runs trace after) :
    ∃ answer rest, trace = ⟨.receive router.kernel router.kernelBuffer.capacity, answer⟩ :: rest
      ∧ Forwarded router answer rest after := by
  rcases runs_handleKernel runs with
    ⟨errno, rest, rfl, notices, rfl⟩
      | ⟨received, rest, rfl, ⟨unheard, notices, rfl⟩ | ⟨notification, heard, forwards⟩⟩
  · exact ⟨.error errno, rest, rfl, sent_of_notices notices, rfl⟩
  · refine ⟨.ok received, rest, rfl, ?_⟩
    simpa only [Forwarded, unheard, and_true] using sent_of_notices notices
  · exact ⟨.ok received, rest, rfl, runs_forwarded consistent heard forwards⟩

end RadioRelay.Router
