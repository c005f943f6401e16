import RadioRelay.Proofs.Registry.History
import RadioRelay.Proofs.Registry.Rearrangement
import RadioRelay.Proofs.Wire.RoundTrip

/-!
# Fanning out one frame

A frame goes to every subscriber of its transmitter, each once, whatever became
of the sends before. Who did not take the whole message leaves the registry
together with all its subscriptions, and nobody else is touched. Nothing depends
on the order in which the subscribers are visited: the registry may list them in
any order, and if what a connection makes of a message depends on both alone,
every order comes to the same.
-/

namespace RadioRelay

variable {Connection World : Type}

/-- A send that was made: to whom, and what became of it. -/
structure Posting (Connection : Type) where
  client : ClientId
  connection : Connection
  outcome : Attempt Nat

section Posting

variable {send : Connection → Bytes → StateM World (Attempt Nat)} {message : Bytes}
  {postings : List (Posting Connection)} {world after : World}

/-- The sends of one message, one after the other, and what they make of the world. -/
inductive Posts (send : Connection → Bytes → StateM World (Attempt Nat)) (message : Bytes) :
    World → List (Posting Connection) → World → Prop
  | done {world : World} : Posts send message world [] world
  | next {before between after : World} {posting : Posting Connection}
      {postings : List (Posting Connection)}
      (sent : (send posting.connection message).run before = (posting.outcome, between))
      (later : Posts send message between postings after) :
      Posts send message before (posting :: postings) after

namespace Posting

/-- The clients that did not take the whole message. -/
def failing (message : Bytes) (postings : List (Posting Connection)) : List ClientId :=
  (postings.filter fun posting => !tookAll message posting.outcome).map (·.client)

theorem mem_failing_iff {id : ClientId} : id ∈ failing message postings ↔
    ∃ posting ∈ postings, posting.client = id ∧ posting.outcome ≠ .ok message.length := by
  simp only [failing, List.mem_map, List.mem_filter, Bool.not_eq_true', ← Bool.not_eq_true,
    tookAll_iff]
  constructor
  · rintro ⟨posting, ⟨postingMem, untaken⟩, same⟩
    exact ⟨posting, postingMem, same, untaken⟩
  · rintro ⟨posting, postingMem, same, untaken⟩
    exact ⟨posting, ⟨postingMem, untaken⟩, same⟩

theorem countP_add_length_failing (message : Bytes) (postings : List (Posting Connection)) :
    postings.countP (fun posting => tookAll message posting.outcome)
      + (failing message postings).length = postings.length := by
  rw [failing, List.length_map, ← List.countP_eq_length_filter]
  simpa using (List.length_eq_countP_add_countP
    (fun posting => tookAll message posting.outcome) (l := postings)).symm

end Posting

/-- If what a connection makes of a message is fixed, this is what becomes of every send. -/
theorem Posts.outcome_eq {respond : Connection → Bytes → Attempt Nat}
    (fixed : ∀ connection message world, ((send connection message).run world).1
      = respond connection message)
    (posts : Posts send message world postings after) :
    ∀ posting ∈ postings, posting.outcome = respond posting.connection message := by
  induction posts with
  | done => simp
  | next sent later ih =>
    rw [List.forall_mem_cons]
    refine ⟨?_, ih⟩
    rw [← fixed _ _ _, sent]

theorem posts_of_deliverAll (send : Connection → Bytes → StateM World (Attempt Nat))
    (message : Bytes) (connections : List (ClientId × Connection)) (world : World) :
    ∃ postings after, Posts send message world postings after
      ∧ postings.map (fun posting => (posting.client, posting.connection)) = connections
      ∧ (deliverAll send message connections).run world = (postings.map fun posting =>
        (posting.client, tookAll message posting.outcome), after) := by
  induction connections generalizing world with
  | nil => exact ⟨[], world, .done, rfl, rfl⟩
  | cons entry rest ih =>
    rcases entry with ⟨id, connection⟩
    rcases sent : (send connection message).run world with ⟨outcome, between⟩
    rcases ih between with ⟨postings, after, posts, rfl, delivers⟩
    refine ⟨⟨id, connection, outcome⟩ :: postings, after, .next sent posts, rfl, ?_⟩
    rw [deliverAll, StateT.run_bind, sent]
    change (do
      let outcomes ← deliverAll send message _
      return (id, tookAll message outcome) :: outcomes : StateM World _).run between = _
    rw [StateT.run_bind, delivers]
    rfl

end Posting

section Route

variable {send : Connection → Bytes → StateM World (Attempt Nat)} {notification : Notification}
  {registry left : Registry Connection} {report : RouteReport Connection} {message : Bytes}
  {postings : List (Posting Connection)} {world after : World}

/-- A frame that nobody subscribed to, or that fits no attribute, is not sent. -/
theorem run_route_of_undelivered
    (undelivered : registry.subscribers notification.transmitter = []
      ∨ Attribute.maxPayload < notification.frame.length) :
    (route send notification registry).run world
      = ((⟨(registry.subscribers notification.transmitter).length, 0, []⟩, registry), world) := by
  dsimp only [route]
  split
  case isTrue nobody =>
    rw [List.isEmpty_iff.mp nobody]
    rfl
  case isFalse somebody =>
    have tooLong := undelivered.resolve_left (mt List.isEmpty_iff.mpr somebody)
    have refused : Delivery.encode ⟨notification.transmitter, notification.frame⟩
        = .error (.attributeTooLarge notification.frame.length) :=
      Delivery.encode_eq_error tooLong
    rw [refused]
    rfl

/-- A frame that is sent is sent to all subscribers, and then those leave that did not take it. -/
theorem run_route_of_encode
    (somebody : registry.subscribers notification.transmitter ≠ [])
    (encoded : Delivery.encode ⟨notification.transmitter, notification.frame⟩ = .ok message)
    (send : Connection → Bytes → StateM World (Attempt Nat)) (world : World) :
    ∃ postings after, Posts send message world postings after
      ∧ postings.map (fun posting => (posting.client, posting.connection))
        = registry.connectionsOf (registry.subscribers notification.transmitter)
      ∧ (route send notification registry).run world
        = ((⟨(registry.subscribers notification.transmitter).length,
            postings.countP fun posting => tookAll message posting.outcome,
            (registry.removeAll (Posting.failing message postings)).1⟩,
          (registry.removeAll (Posting.failing message postings)).2), after) := by
  rcases posts_of_deliverAll send message
    (registry.connectionsOf (registry.subscribers notification.transmitter)) world with
    ⟨postings, after, posts, targets, delivers⟩
  refine ⟨postings, after, posts, targets, ?_⟩
  dsimp only [route]
  rw [if_neg (mt List.isEmpty_iff.mp somebody), encoded, StateT.run_bind, delivers]
  have failed : ((postings.map fun posting =>
      (posting.client, tookAll message posting.outcome)).filter (!·.2)).map (·.1)
        = Posting.failing message postings := by
    simp [Posting.failing, List.filter_map, Function.comp_def]
  have counted : (postings.map fun posting =>
      (posting.client, tookAll message posting.outcome)).countP (·.2)
        = postings.countP fun posting => tookAll message posting.outcome := by
    simp [List.countP_map, Function.comp_def]
  rw [← failed, ← counted]
  rfl

/-- A frame reached every subscriber of its transmitter, and those who did not take it are gone. -/
structure FansOut (send : Connection → Bytes → StateM World (Attempt Nat))
    (notification : Notification) (registry : Registry Connection) (world : World)
    (message : Bytes) (postings : List (Posting Connection)) (report : RouteReport Connection)
    (left : Registry Connection) (after : World) : Prop where
  encoded : Delivery.encode ⟨notification.transmitter, notification.frame⟩ = .ok message
  decoded : Delivery.decode message = .ok ⟨notification.transmitter, notification.frame⟩
  /-- These sends were made, and nothing else was done. -/
  posts : Posts send message world postings after
  clients : postings.map (·.client) = registry.subscribers notification.transmitter
  nodup_clients : (postings.map (·.client)).Nodup
  connections : ∀ posting ∈ postings, registry.get? posting.client = some posting.connection
  delivered_add : report.delivered + report.dropped.length = report.subscribers
  nodup_dropped : (report.dropped.map (·.1)).Nodup
  mem_dropped_iff (id : ClientId) (connection : Connection) : (id, connection) ∈ report.dropped ↔
    ∃ posting ∈ postings, posting.client = id ∧ posting.connection = connection
      ∧ posting.outcome ≠ .ok message.length
  get?_left (id : ClientId) :
    left.get? id = if id ∈ report.dropped.map (·.1) then none else registry.get? id
  subscribers_left (mac : MacAddress) :
    left.subscribers mac = (registry.subscribers mac).filter (· ∉ report.dropped.map (·.1))
  sound_left : left.Sound

theorem fansOut_of_posts (sound : registry.Sound)
    (encoded : Delivery.encode ⟨notification.transmitter, notification.frame⟩ = .ok message)
    (posts : Posts send message world postings after)
    (targets : postings.map (fun posting => (posting.client, posting.connection))
      = registry.connectionsOf (registry.subscribers notification.transmitter)) :
    FansOut send notification registry world message postings
      ⟨(registry.subscribers notification.transmitter).length,
        postings.countP fun posting => tookAll message posting.outcome,
        (registry.removeAll (Posting.failing message postings)).1⟩
      (registry.removeAll (Posting.failing message postings)).2 after := by
  have clients : postings.map (·.client) = registry.subscribers notification.transmitter := by
    rw [← sound.map_connectionsOf_subscribers, ← targets, List.map_map]
    rfl
  have nodup : (postings.map (·.client)).Nodup := clients ▸ sound.nodup_subscribers _
  have connections : ∀ posting ∈ postings,
      registry.get? posting.client = some posting.connection := by
    intro posting postingMem
    have target : (posting.client, posting.connection)
        ∈ registry.connectionsOf (registry.subscribers notification.transmitter) :=
      targets ▸ List.mem_map_of_mem postingMem
    exact (Registry.mem_connectionsOf.mp target).2
  -- Those who failed are different clients that are connected, so each of them is handed back once.
  have failingNodup : (Posting.failing message postings).Nodup :=
    nodup.sublist (List.filter_sublist.map _)
  have dropped : (registry.removeAll (Posting.failing message postings)).1
      = registry.connectionsOf (Posting.failing message postings) :=
    Registry.removeAll_fst failingNodup
  have leaving : ((registry.removeAll (Posting.failing message postings)).1).map (·.1)
      = Posting.failing message postings := by
    rw [dropped, Registry.map_connectionsOf, List.filter_eq_self]
    intro id failed
    rcases Posting.mem_failing_iff.mp failed with ⟨posting, postingMem, rfl, -⟩
    rw [← Registry.mem_ids_iff]
    exact Registry.mem_ids_of_get? (connections posting postingMem)
  constructor
  case encoded => exact encoded
  case decoded => exact Delivery.decode_of_encode encoded
  case posts => exact posts
  case clients => exact clients
  case nodup_clients => exact nodup
  case connections => exact connections
  case delivered_add =>
    have parts := Posting.countP_add_length_failing message postings
    rw [← leaving, List.length_map] at parts
    rw [parts, ← clients, List.length_map]
  case nodup_dropped => rwa [leaving]
  case mem_dropped_iff =>
    intro id connection
    rw [dropped, Registry.mem_connectionsOf, Posting.mem_failing_iff]
    constructor
    · rintro ⟨⟨posting, postingMem, rfl, untaken⟩, found⟩
      have same := (connections posting postingMem).symm.trans found
      exact ⟨posting, postingMem, rfl, Option.some.inj same, untaken⟩
    · rintro ⟨posting, postingMem, rfl, rfl, untaken⟩
      exact ⟨⟨posting, postingMem, rfl, untaken⟩, connections posting postingMem⟩
  case get?_left =>
    intro id
    rw [Registry.get?_removeAll, leaving]
  case subscribers_left =>
    intro mac
    rw [sound.subscribers_removeAll, leaving]
  case sound_left => exact sound.removeAll _

/-- What routing a frame comes to. -/
structure Routed (send : Connection → Bytes → StateM World (Attempt Nat))
    (notification : Notification) (registry : Registry Connection) (world : World)
    (report : RouteReport Connection) (left : Registry Connection) (after : World) : Prop where
  subscribers_eq : report.subscribers = (registry.subscribers notification.transmitter).length
  unsent (undelivered : registry.subscribers notification.transmitter = []
      ∨ Attribute.maxPayload < notification.frame.length) :
    report.delivered = 0 ∧ report.dropped = [] ∧ left = registry ∧ after = world
  fansOut (somebody : registry.subscribers notification.transmitter ≠ [])
      (fits : notification.frame.length ≤ Attribute.maxPayload) :
    ∃ message postings,
      FansOut send notification registry world message postings report left after

theorem routed (sound : registry.Sound) (send : Connection → Bytes → StateM World (Attempt Nat))
    (notification : Notification) (world : World) :
    ∃ report left after, (route send notification registry).run world = ((report, left), after)
      ∧ Routed send notification registry world report left after := by
  by_cases undelivered : registry.subscribers notification.transmitter = []
      ∨ Attribute.maxPayload < notification.frame.length
  · refine ⟨_, _, _, run_route_of_undelivered undelivered, rfl, ?_, ?_⟩
    · exact fun _ => ⟨rfl, rfl, rfl, rfl⟩
    · intro somebody fits
      exact absurd undelivered (not_or.mpr ⟨somebody, Nat.not_lt.mpr fits⟩)
  · rw [not_or, Nat.not_lt] at undelivered
    rcases undelivered with ⟨somebody, fits⟩
    obtain ⟨message, encoded⟩ :
        ∃ message, Delivery.encode ⟨notification.transmitter, notification.frame⟩ = .ok message :=
      Delivery.exists_encode fits
    rcases run_route_of_encode somebody encoded send world with
      ⟨postings, after, posts, targets, runs⟩
    refine ⟨_, _, _, runs, rfl, ?_, ?_⟩
    · rintro (nobody | tooLong)
      · exact absurd nobody somebody
      · exact absurd fits (Nat.not_le.mpr tooLong)
    · exact fun _ _ => ⟨message, postings, fansOut_of_posts sound encoded posts targets⟩

/-! ### Another order -/

/-- Routing a frame came to the same, but for the order in which tables and reports list it. -/
structure SameRoute (report reportToo : RouteReport Connection)
    (left leftToo : Registry Connection) : Prop where
  subscribers : report.subscribers = reportToo.subscribers
  delivered : report.delivered = reportToo.delivered
  dropped : report.dropped.Perm reportToo.dropped
  left : left.Rearranges leftToo

section Order

variable {respond : Connection → Bytes → Attempt Nat} {other leftToo : Registry Connection}
  {reportToo : RouteReport Connection} {postingsToo : List (Posting Connection)}
  {worldToo afterToo : World}

/-- If what a connection makes of a message is fixed, so is who leaves. -/
theorem FansOut.mem_dropped_of_fixed
    (fansOut : FansOut send notification registry world message postings report left after)
    (fixed : ∀ connection message world, ((send connection message).run world).1
      = respond connection message) {id : ClientId} {connection : Connection} :
    (id, connection) ∈ report.dropped ↔ id ∈ registry.subscribers notification.transmitter
      ∧ registry.get? id = some connection
      ∧ respond connection message ≠ .ok message.length := by
  have outcomes := fansOut.posts.outcome_eq fixed
  rw [fansOut.mem_dropped_iff, ← fansOut.clients]
  constructor
  · rintro ⟨posting, postingMem, rfl, rfl, untaken⟩
    rw [outcomes posting postingMem] at untaken
    exact ⟨List.mem_map_of_mem postingMem, fansOut.connections posting postingMem, untaken⟩
  · rintro ⟨clientMem, found, untaken⟩
    rcases List.mem_map.mp clientMem with ⟨posting, postingMem, rfl⟩
    rcases Option.some.inj ((fansOut.connections posting postingMem).symm.trans found) with rfl
    rw [← outcomes posting postingMem] at untaken
    exact ⟨posting, postingMem, rfl, rfl, untaken⟩

theorem FansOut.sameRoute
    (fansOut : FansOut send notification registry world message postings report left after)
    (fansOutToo : FansOut send notification other worldToo message postingsToo reportToo leftToo
      afterToo)
    (fixed : ∀ connection message world, ((send connection message).run world).1
      = respond connection message)
    (sound : registry.Sound) (same : registry.Rearranges other)
    (subscribers : report.subscribers = reportToo.subscribers) :
    SameRoute report reportToo left leftToo := by
  have connections := sound.get?_of_rearranges same
  have dropped : report.dropped.Perm reportToo.dropped := by
    rw [List.perm_ext_iff_of_nodup fansOut.nodup_dropped.of_map fansOutToo.nodup_dropped.of_map]
    rintro ⟨id, connection⟩
    rw [fansOut.mem_dropped_of_fixed fixed, fansOutToo.mem_dropped_of_fixed fixed,
      (same.subscribers _).mem_iff, connections]
  have leaving (id : ClientId) :
      id ∈ report.dropped.map (·.1) ↔ id ∈ reportToo.dropped.map (·.1) :=
    (dropped.map _).mem_iff
  refine ⟨subscribers, ?_, dropped, ?_⟩
  · have total := fansOut.delivered_add
    have totalToo := fansOutToo.delivered_add
    have lengths := dropped.length_eq
    omega
  · apply fansOut.sound_left.rearranges_of_views fansOutToo.sound_left
    · intro id
      rw [fansOut.get?_left, fansOutToo.get?_left, connections]
      simp only [leaving]
    · intro mac
      rw [fansOut.subscribers_left, fansOutToo.subscribers_left]
      simp only [leaving]
      exact (same.subscribers mac).filter _

theorem Routed.sameRoute
    (routed : Routed send notification registry world report left after)
    (routedToo : Routed send notification other worldToo reportToo leftToo afterToo)
    (fixed : ∀ connection message world, ((send connection message).run world).1
      = respond connection message)
    (sound : registry.Sound) (same : registry.Rearranges other) :
    SameRoute report reportToo left leftToo := by
  have counts := (same.subscribers notification.transmitter).length_eq
  have subscribers : report.subscribers = reportToo.subscribers := by
    rw [routed.subscribers_eq, routedToo.subscribers_eq, counts]
  have nobody : registry.subscribers notification.transmitter = []
      ↔ other.subscribers notification.transmitter = [] := by
    rw [← List.length_eq_zero_iff, ← List.length_eq_zero_iff, counts]
  by_cases undelivered : registry.subscribers notification.transmitter = []
      ∨ Attribute.maxPayload < notification.frame.length
  · obtain ⟨delivered, dropped, rfl, -⟩ := routed.unsent undelivered
    rw [nobody] at undelivered
    obtain ⟨deliveredToo, droppedToo, rfl, -⟩ := routedToo.unsent undelivered
    exact ⟨subscribers, delivered.trans deliveredToo.symm, dropped ▸ droppedToo ▸ .refl _, same⟩
  · rw [not_or, Nat.not_lt] at undelivered
    rcases undelivered with ⟨somebody, fits⟩
    rcases routed.fansOut somebody fits with ⟨message, postings, fansOut⟩
    rcases routedToo.fansOut (mt nobody.mpr somebody) fits with
      ⟨messageToo, postingsToo, fansOutToo⟩
    rcases Except.ok.inj (fansOut.encoded.symm.trans fansOutToo.encoded) with rfl
    exact fansOut.sameRoute fansOutToo fixed sound same subscribers

end Order

/-- Routing a frame in a registry that changes made of a new one, and that lists what it holds in
any order: either nothing is sent and nothing changes, or the frame reaches every subscriber. If
what a connection makes of a message is fixed, every other order comes to the same. -/
theorem fansOut_of_changes {changes : List (Registry.Change Connection)}
    (arranged : (Registry.ofChanges changes).Rearranges registry)
    (send : Connection → Bytes → StateM World (Attempt Nat)) (notification : Notification)
    (world : World) :
    ∃ report left after, (route send notification registry).run world = ((report, left), after)
      ∧ Routed send notification registry world report left after
      ∧ ∀ respond : Connection → Bytes → Attempt Nat,
        (∀ connection message world, ((send connection message).run world).1
          = respond connection message) →
        ∀ other worldToo, (Registry.ofChanges changes).Rearranges other →
          ∃ reportToo leftToo afterToo,
            (route send notification other).run worldToo = ((reportToo, leftToo), afterToo)
              ∧ SameRoute report reportToo left leftToo := by
  have reached := Registry.sound_ofChanges changes
  have sound := reached.of_rearranges arranged
  rcases routed sound send notification world with ⟨report, left, after, runs, result⟩
  refine ⟨report, left, after, runs, result, ?_⟩
  intro respond fixed other worldToo arrangedToo
  rcases routed (reached.of_rearranges arrangedToo) send notification worldToo with
    ⟨reportToo, leftToo, afterToo, runsToo, resultToo⟩
  exact ⟨reportToo, leftToo, afterToo, runsToo,
    result.sameRoute resultToo fixed sound (arranged.symm.trans arrangedToo)⟩

/-- A connection that takes at most so many bytes of a message, and fails if it takes none. What was
sent is noted. -/
def grudging (limit : Nat) (message : Bytes) : StateM (List (Nat × Bytes)) (Attempt Nat) := do
  modify (· ++ [(limit, message)])
  return if limit = 0 then .error .wouldBlock else .ok (min limit message.length)

/-- Three clients subscribe to one address, of which one takes all; one of the others and a fourth
client subscribe to another address. -/
def uneven : List (Registry.Change Nat) :=
  [.add ⟨1⟩ 99, .add ⟨2⟩ 5, .add ⟨3⟩ 0, .add ⟨4⟩ 0, .register ⟨1, 2, 3, 4, 5, 6⟩ ⟨1⟩,
    .register ⟨1, 2, 3, 4, 5, 6⟩ ⟨2⟩, .register ⟨1, 2, 3, 4, 5, 6⟩ ⟨3⟩,
    .register ⟨2, 0, 0, 0, 0, 2⟩ ⟨2⟩, .register ⟨2, 0, 0, 0, 0, 2⟩ ⟨4⟩]

def unevenShuffled : Registry Nat :=
  ⟨[(⟨4⟩, 0), (⟨2⟩, 5), (⟨1⟩, 99), (⟨3⟩, 0)],
    [(⟨2, 0, 0, 0, 0, 2⟩, [⟨4⟩, ⟨2⟩]), (⟨1, 2, 3, 4, 5, 6⟩, [⟨3⟩, ⟨1⟩, ⟨2⟩])]⟩

theorem uneven_rearranges : (Registry.ofChanges uneven).Rearranges unevenShuffled := by
  have index : (Registry.ofChanges uneven).subscriptions
      = [(⟨1, 2, 3, 4, 5, 6⟩, [⟨1⟩, ⟨2⟩, ⟨3⟩]), (⟨2, 0, 0, 0, 0, 2⟩, [⟨2⟩, ⟨4⟩])] := by
    decide
  refine ⟨by decide, by decide, ?_⟩
  intro mac
  rw [Registry.subscribers, Registry.subscribers, index]
  by_cases first : mac = ⟨1, 2, 3, 4, 5, 6⟩
  · subst first
    decide
  by_cases second : mac = ⟨2, 0, 0, 0, 0, 2⟩
  · subst second
    decide
  simp [unevenShuffled, List.lookup_cons, beq_false_of_ne first, beq_false_of_ne second]

def unevenRun : (RouteReport Nat × Registry Nat) × List (Nat × Bytes) :=
  (route grudging ⟨⟨1, 2, 3, 4, 5, 6⟩, [7, 8, 9]⟩ unevenShuffled).run []

theorem fansOut_of_uneven :
    ∃ report left after, unevenRun = ((report, left), after)
      ∧ Routed grudging ⟨⟨1, 2, 3, 4, 5, 6⟩, [7, 8, 9]⟩ unevenShuffled [] report left after
      ∧ (after.map (·.1) = [0, 99, 5] ∧ report.delivered = 1
        ∧ report.dropped = [(⟨3⟩, 0), (⟨2⟩, 5)] ∧ left.ids = [⟨4⟩, ⟨1⟩]
        ∧ left.subscribers ⟨2, 0, 0, 0, 0, 2⟩ = [⟨4⟩])
      ∧ ∃ reportToo leftToo afterToo,
        (route grudging ⟨⟨1, 2, 3, 4, 5, 6⟩, [7, 8, 9]⟩ (Registry.ofChanges uneven)).run []
          = ((reportToo, leftToo), afterToo)
        ∧ SameRoute report reportToo left leftToo := by
  rcases fansOut_of_changes uneven_rearranges grudging ⟨⟨1, 2, 3, 4, 5, 6⟩, [7, 8, 9]⟩ [] with
    ⟨report, left, after, runs, routed, anyOrder⟩
  have shown : unevenRun.2.map (·.1) = [0, 99, 5] ∧ unevenRun.1.1.delivered = 1
      ∧ unevenRun.1.1.dropped = [(⟨3⟩, 0), (⟨2⟩, 5)] ∧ unevenRun.1.2.ids = [⟨4⟩, ⟨1⟩]
      ∧ unevenRun.1.2.subscribers ⟨2, 0, 0, 0, 0, 2⟩ = [⟨4⟩] := by
    decide +kernel
  rw [unevenRun, runs] at shown
  have fixed : ∀ limit message sent, ((grudging limit message).run sent).1
      = if limit = 0 then .error .wouldBlock else .ok (min limit message.length) :=
    fun _ _ _ => rfl
  have same : (Registry.ofChanges uneven).Rearranges (Registry.ofChanges uneven) :=
    ⟨.refl _, .refl _, fun _ => .refl _⟩
  exact ⟨report, left, after, runs, routed, shown, anyOrder _ fixed _ [] same⟩

end Route

end RadioRelay
