import RadioRelay.Monitor
import RadioRelay.Proofs.Failing
import RadioRelay.Proofs.Network.Arrivals

/-!
# What a monitor reports

A monitor registers its addresses one after the other and then reports frames. Frames come at any
time: those that come between the acknowledgements are kept, and are reported before any other is
received. What the monitor finds on its connection decides its whole run (`Monitor.run_reports`):
whatever the mixture, it reports the first of the frames that are obtainable, in their order, as
many as are wanted.
-/

namespace RadioRelay

open Program

def Exchange.notice? : Exchange → Option Notice
  | ⟨.log notice, _⟩ => some notice
  | _ => none

/-- Whenever something is sent, all that was sent before has been acknowledged with success. -/
def InTurn (arrivals : List Arrival) (trace : Trace) : Prop :=
  ∀ front exchange back, trace = front ++ exchange :: back → exchange.sent?.isSome →
    (arrivals.take (front.filterMap Exchange.received?).length).filterMap Arrival.result?
      = List.replicate (front.filterMap Exchange.sent?).length 0

namespace InTurn

variable {arrivals : List Arrival} {early late : Trace}

theorem single (arrivals : List Arrival) (exchange : Exchange) : InTurn arrivals [exchange] := by
  intro front other back whole _
  rcases List.append_eq_singleton_iff.mp whole.symm with ⟨rfl, -⟩ | ⟨-, same⟩
  · rfl
  · cases same

theorem append (first : InTurn arrivals early)
    (answered : (arrivals.take (early.filterMap Exchange.received?).length).filterMap
        Arrival.result? = List.replicate (early.filterMap Exchange.sent?).length 0)
    (second : InTurn (arrivals.drop (early.filterMap Exchange.received?).length) late) :
    InTurn arrivals (early ++ late) := by
  intro front exchange back whole sent
  rcases append_eq_append_cons whole with ⟨part, rfl, rest⟩ | ⟨part, rfl, -⟩
  · rw [List.filterMap_append, List.filterMap_append, List.length_append, List.length_append,
      List.take_add, List.filterMap_append, answered, second part exchange back rest sent,
      List.replicate_append_replicate]
  · exact first front exchange part rfl sent

theorem append_unsent (first : InTurn arrivals early)
    (unsent : late.filterMap Exchange.sent? = []) :
    InTurn arrivals (early ++ late) := by
  intro front exchange back whole sent
  rcases append_eq_append_cons whole with ⟨part, rfl, rfl⟩ | ⟨part, rfl, -⟩
  · rw [List.filterMap_eq_nil_iff.mp unsent exchange (by simp)] at sent
    cases sent
  · exact first front exchange part rfl sent

end InTurn

namespace Monitor

variable {name : String} {client : Client} {macs : List MacAddress} {mac : MacAddress}

/-! ### Registrations -/

/-- Why the registration of each address would fail, if it would and those before it did not. -/
def rejections (macs : List MacAddress) (supply : Supply) : List (Option Failure) :=
  macs.mapIdx supply.rejection?

/-- The number of addresses that are registered before the first one that is rejected. -/
def accepted (macs : List MacAddress) (supply : Supply) : Nat :=
  ((rejections macs supply).takeWhile Option.isNone).length

def petitions (client : Client) (posted : Nat → Attempt Nat) (macs : List MacAddress) :
    List (Descriptor × Bytes × Attempt Nat) :=
  macs.mapIdx fun index mac => (client.connection.descriptor,
    Request.encodeRegister mac (client.sequence + UInt32.ofNat (index + 1)) client.port,
    posted index)

def headers (client : Client) (macs : List MacAddress) : List Header :=
  macs.mapIdx fun index mac =>
    (Draft.registration mac (client.sequence + UInt32.ofNat (index + 1)) client.port).header

theorem sequence_add (sequence : UInt32) (index : Nat) :
    sequence + 1 + UInt32.ofNat (index + 1) = sequence + UInt32.ofNat (index + 1 + 1) := by
  rw [UInt32.ofNat_add (index + 1) 1, UInt32.add_assoc, UInt32.add_comm 1]
  rfl

theorem headers_cons (client : Client) (mac : MacAddress) (macs : List MacAddress) :
    headers client (mac :: macs)
      = (Draft.registration mac (client.sequence + 1) client.port).header
        :: headers client.next macs := by
  simp only [headers, List.mapIdx_cons, Client.next, sequence_add]
  rfl

theorem headers_of_alike {after : Client} (alike : client.Alike after) :
    headers after macs = headers client macs := by
  rw [headers, headers, alike.sequence, alike.port]

theorem petitions_cons (client : Client) (posted : Nat → Attempt Nat) (mac : MacAddress)
    (macs : List MacAddress) :
    petitions client posted (mac :: macs)
      = (client.connection.descriptor,
          Request.encodeRegister mac (client.sequence + 1) client.port, posted 0)
        :: petitions client.next (fun index => posted (index + 1)) macs := by
  simp only [petitions, List.mapIdx_cons, Client.next, sequence_add]
  rfl

theorem petitions_of_alike {after : Client} (alike : client.Alike after)
    (posted : Nat → Attempt Nat) : petitions after posted macs = petitions client posted macs := by
  rw [petitions, petitions, alike.connection, alike.sequence, alike.port]

theorem rejections_cons (mac : MacAddress) (macs : List MacAddress) (supply : Supply) :
    rejections (mac :: macs) supply = supply.rejection? 0 mac
      :: macs.mapIdx fun index mac => supply.rejection? (index + 1) mac :=
  List.mapIdx_cons

/-- What comes of the other registrations does not depend on what the first one took up. -/
theorem rejections_of_taken {supply left : Supply} {taken : List Arrival} {result : Int32}
    (macs : List MacAddress) (posted : left.posted = fun index => supply.posted (index + 1))
    (arrivals : supply.arrivals = taken ++ left.arrivals)
    (intact : ∀ arrival ∈ taken, arrival.failure? = none)
    (answered : taken.filterMap Arrival.result? = [result]) :
    (macs.mapIdx fun index mac => supply.rejection? (index + 1) mac) = rejections macs left := by
  unfold rejections Supply.rejection?
  rw [arrivals, Arrival.results_append intact, Arrival.breakdown_append intact, answered, posted]
  rfl

/-- A run that registers addresses: the requests that are sent and the lines that are logged are
those up to the first rejection, and if there is none, all frames that came are kept. -/
structure Enrols (name : String) (client : Client) (macs : List MacAddress) (supply : Supply)
    (trace : Trace) (after : Client) (left : Supply) : Prop where
  runs : (registerAll name client macs).Runs trace
    (((rejections macs supply).findSome? id).elim (.ok ()) .error, after)
  answered : Answers Supply.answer supply trace left
  connection : after.connection = client.connection
  room : after.buffer.capacity = Delivery.maxSize
  sent : trace.filterMap Exchange.sent?
    = petitions client supply.posted (macs.take (accepted macs supply + 1))
  noted : trace.filterMap Exchange.notice?
    = (macs.take (accepted macs supply)).map (Notice.registered · name)
  inTurn : InTurn supply.arrivals trace
  takes : (rejections macs supply).findSome? id = none →
    left.arrivals.filterMap Arrival.request? = []
      ∧ ∃ taken, client.Takes supply trace after left taken

theorem Enrols.nil (name : String) (room : client.buffer.capacity = Delivery.maxSize)
    {supply : Supply} (unasked : supply.arrivals.filterMap Arrival.request? = []) :
    Enrols name client [] supply [] client supply where
  runs := ⟨rfl, rfl⟩
  answered := rfl
  connection := rfl
  room := room
  sent := rfl
  noted := rfl
  inTurn := by simp [InTurn]
  takes _ := ⟨unasked, [], rfl, by simp, rfl, (List.append_nil _).symm⟩

variable {after : Client} {supply left : Supply} {contents : List (Attempt Bytes)}

theorem sent_correspondence (client : Client) (mac : MacAddress) (posted : Attempt Nat)
    (contents : List (Attempt Bytes)) :
    (client.correspondence mac posted contents).filterMap Exchange.sent?
      = [(client.connection.descriptor,
          Request.encodeRegister mac (client.sequence + 1) client.port, posted)] :=
  congrArg (List.cons _) (client.sent_receipts contents)

theorem noted_correspondence (client : Client) (mac : MacAddress) (posted : Attempt Nat)
    (contents : List (Attempt Bytes)) :
    (client.correspondence mac posted contents).filterMap Exchange.notice? = [] := by
  rw [List.filterMap_eq_nil_iff, Client.correspondence, List.forall_mem_cons, List.forall_mem_map]
  exact ⟨rfl, fun _ _ => rfl⟩

theorem inTurn_correspondence (arrivals : List Arrival) (client : Client) (mac : MacAddress)
    (posted : Attempt Nat) (contents : List (Attempt Bytes)) :
    InTurn arrivals (client.correspondence mac posted contents) :=
  (InTurn.single arrivals _).append_unsent (client.sent_receipts contents)

/-- The first rejection ends the registrations. -/
theorem Enrols.of_rejection {failure : Failure} (name : String) (macs : List MacAddress)
    (room : client.buffer.capacity = Delivery.maxSize)
    (rejected : supply.rejection? 0 mac = some failure)
    (runs : (client.register mac).Runs (client.correspondence mac (supply.posted 0) contents)
      (.error failure, after))
    (answered : Answers Supply.answer supply
      (client.correspondence mac (supply.posted 0) contents) left)
    (alike : client.next.Alike after) :
    Enrols name client (mac :: macs) supply (client.correspondence mac (supply.posted 0) contents)
      after left := by
  have first := rejections_cons mac macs supply
  rw [rejected] at first
  have none : accepted (mac :: macs) supply = 0 := by rw [accepted, first]; rfl
  refine ⟨?_, answered, alike.connection, alike.capacity.trans room, ?_, ?_,
    inTurn_correspondence _ _ _ _ _, ?_⟩
  · rw [first]
    exact runs_bind.mpr ⟨_, [], _, (List.append_nil _).symm, runs, rfl, rfl⟩
  · rw [none, sent_correspondence]
    exact (petitions_cons client supply.posted mac []).symm
  · rw [none]
    exact noted_correspondence ..
  · rw [first]
    nofun

theorem Enrols.cons {middle : Client} {between : Supply} {trace : Trace} {taken : List Arrival}
    (accepts : supply.rejection? 0 mac = none)
    (runs : (client.register mac).Runs (client.correspondence mac (supply.posted 0) contents)
      (.ok (), middle))
    (answered : Answers Supply.answer supply
      (client.correspondence mac (supply.posted 0) contents) between)
    (alike : client.next.Alike middle)
    (posted : between.posted = fun index => supply.posted (index + 1))
    (takes : client.Takes supply (client.correspondence mac (supply.posted 0) contents) middle
      between taken)
    (granted : taken.filterMap Arrival.result? = [0])
    (enrols : Enrols name middle macs between trace after left) :
    Enrols name client (mac :: macs) supply (client.correspondence mac (supply.posted 0) contents
      ++ ⟨.log (.registered mac name), ()⟩ :: trace) after left := by
  have first := rejections_cons mac macs supply
  rw [accepts, rejections_of_taken macs posted takes.arrivals takes.intact granted] at first
  have count : accepted (mac :: macs) supply = accepted macs between + 1 := by
    rw [accepted, first]
    rfl
  -- The line about the registration belongs to it: nothing is taken up by writing it.
  have logs : middle.Takes between [⟨.log (.registered mac name), ()⟩] middle between [] :=
    ⟨rfl, by simp, rfl, (List.append_nil _).symm⟩
  have takesAll := takes.append logs
  rw [List.append_nil] at takesAll
  constructor
  · rw [first]
    exact runs_bind.mpr ⟨_, _, _, rfl, runs, runs_call_bind.mpr ⟨(), trace, rfl, enrols.runs⟩⟩
  · exact answered.append ⟨_, rfl, enrols.answered⟩
  · exact enrols.connection.trans alike.connection
  · exact enrols.room
  · rw [count, List.take_succ_cons, petitions_cons, ← posted, ← petitions_of_alike alike,
      ← enrols.sent, List.filterMap_append, sent_correspondence]
    rfl
  · rw [count, List.take_succ_cons, List.map_cons, ← enrols.noted, List.filterMap_append,
      noted_correspondence]
    rfl
  · rw [List.append_cons]
    rcases takesAll.take_received with ⟨now, later⟩
    refine ((inTurn_correspondence _ _ _ _ _).append_unsent rfl).append ?_ ?_
    · rw [now, granted, List.filterMap_append, sent_correspondence]
      rfl
    · rw [later]
      exact enrols.inTurn
  · intro content
    rw [first] at content
    rcases enrols.takes content with ⟨unasked, more, takesMore⟩
    rw [List.append_cons]
    exact ⟨unasked, taken ++ more, takesAll.append takesMore⟩

/-- What the client finds on its connection decides the registrations. -/
theorem exists_enrols (name : String) (macs : List MacAddress)
    (room : client.buffer.capacity = Delivery.maxSize) (supply : Supply)
    (correlated : supply.arrivals.filterMap Arrival.request? <+: headers client macs) :
    ∃ trace after left, Enrols name client macs supply trace after left := by
  induction macs generalizing client supply with
  | nil => exact ⟨[], client, supply, .nil name room (List.prefix_nil.mp correlated)⟩
  | cons mac macs ih =>
    rw [headers_cons] at correlated
    rcases Client.exists_registration room supply correlated with
      ⟨contents, middle, between, runs, answered, alike, takes⟩
    cases rejected : supply.rejection? 0 mac with
    | some failure =>
      rw [rejected] at runs
      exact ⟨_, middle, between, .of_rejection name macs room rejected runs answered alike⟩
    | none =>
      rw [rejected] at runs
      rcases takes rejected with ⟨posted, correlatedLater, taken, takes, granted⟩
      rw [← headers_of_alike alike] at correlatedLater
      rcases ih (alike.capacity.trans room) between correlatedLater with
        ⟨trace, after, left, enrols⟩
      exact ⟨_, after, left, enrols.cons rejected runs answered alike posted takes granted⟩

/-! ### Frames -/

def reportOnce (limit : Option Nat) :
    Client × Nat → Program ((Client × Nat) ⊕ (Except Failure Unit × Client)) :=
  fun ((client, seen) : Client × Nat) => do
    if limit.any (· ≤ seen) then return .inr (.ok (), client)
    match ← client.receiveFrame with
    | (.error failure, client) => return .inr (.error failure, client)
    | (.ok delivery, client) =>
      Program.call (.log (.frame (seen + 1) delivery.mac delivery.packet.length))
      return .inl (client, seen + 1)

theorem reportFrames_eq (client : Client) (limit : Option Nat) :
    reportFrames client limit = repeatUntil (client, 0) (reportOnce limit) := rfl

/-- The lines about frames that are reported after so many others, as many as are wanted. -/
def lines (limit : Option Nat) (seen : Nat) (frames : List Delivery) : List Notice :=
  (limit.elim frames fun count => frames.take (count - seen)).mapIdx fun index delivery =>
    .frame (seen + index + 1) delivery.mac delivery.packet.length

/-- How the reports end: well, if there were as many frames as wanted. -/
def ending (limit : Option Nat) (count : Nat) (failure : Failure) : Except Failure Unit :=
  if limit.any (· ≤ count) then .ok () else .error failure

variable {limit : Option Nat} {seen : Nat}

theorem lines_nil (limit : Option Nat) (seen : Nat) : lines limit seen [] = [] := by
  cases limit <;> simp [lines]

theorem lines_of_enough (enough : limit.any (· ≤ seen) = true) (frames : List Delivery) :
    lines limit seen frames = [] := by
  cases limit with
  | none => cases enough
  | some count =>
    have reached : count ≤ seen := of_decide_eq_true enough
    simp [lines, Nat.sub_eq_zero_of_le reached]

theorem lines_cons (wanted : limit.any (· ≤ seen) = false) (delivery : Delivery)
    (frames : List Delivery) : lines limit seen (delivery :: frames)
      = .frame (seen + 1) delivery.mac delivery.packet.length :: lines limit (seen + 1) frames := by
  have shift : (fun (index : Nat) (delivery : Delivery) =>
      Notice.frame (seen + (index + 1) + 1) delivery.mac delivery.packet.length)
        = fun index delivery =>
          Notice.frame (seen + 1 + index + 1) delivery.mac delivery.packet.length := by
    funext index delivery
    congr 2
    omega
  cases limit with
  | none => simp only [lines, Option.elim, List.mapIdx_cons, shift, Nat.add_zero]
  | some count =>
    have less : seen < count := Nat.lt_of_not_le (of_decide_eq_false wanted)
    have more : count - seen = count - (seen + 1) + 1 := by omega
    simp only [lines, Option.elim, more, List.take_succ_cons, List.mapIdx_cons, shift,
      Nat.add_zero]

theorem ending_of_enough (enough : limit.any (· ≤ seen) = true) (more : Nat) (failure : Failure) :
    ending limit (seen + more) failure = .ok () := by
  cases limit with
  | none => cases enough
  | some count =>
    have reached : count ≤ seen := of_decide_eq_true enough
    exact if_pos (decide_eq_true (Nat.le_add_right_of_le reached))

/-- What the client keeps and what it finds on its connection decide the reports. -/
structure Reports (limit : Option Nat) (client : Client) (seen : Nat) (supply : Supply)
    (trace : Trace) (after : Client) (left : Supply) : Prop where
  rounds : Rounds (fun state trace outcome => (reportOnce limit state).Runs trace outcome)
    (client, seen) trace
    (ending limit (seen + (client.pending ++ Arrival.frames supply.arrivals).length)
      (Arrival.breakdown supply.arrivals), after)
  answered : Answers Supply.answer supply trace left
  connection : after.connection = client.connection
  unsent : trace.filterMap Exchange.sent? = []
  noted : trace.filterMap Exchange.notice?
    = lines limit seen (client.pending ++ Arrival.frames supply.arrivals)

theorem Reports.of_enough (enough : limit.any (· ≤ seen) = true) (client : Client)
    (supply : Supply) : Reports limit client seen supply [] client supply where
  rounds := by
    refine .last ?_
    rw [ending_of_enough enough, reportOnce, if_pos enough]
    exact ⟨rfl, rfl⟩
  answered := rfl
  connection := rfl
  unsent := rfl
  noted := (lines_of_enough enough _).symm

theorem reportOnce_of_frame (wanted : limit.any (· ≤ seen) = false) {trace : Trace}
    {delivery : Delivery} (runs : client.receiveFrame.Runs trace (.ok delivery, after)) :
    (reportOnce limit (client, seen)).Runs
      (trace ++ [⟨.log (.frame (seen + 1) delivery.mac delivery.packet.length), ()⟩])
      (.inl (after, seen + 1)) := by
  simp only [reportOnce, wanted]
  exact runs_bind.mpr ⟨_, _, _, rfl, runs, (), [], rfl, rfl, rfl⟩

theorem reportOnce_of_failure (wanted : limit.any (· ≤ seen) = false) {trace : Trace}
    {failure : Failure} (runs : client.receiveFrame.Runs trace (.error failure, after)) :
    (reportOnce limit (client, seen)).Runs trace (.inr (.error failure, after)) := by
  simp only [reportOnce, wanted]
  exact runs_bind.mpr ⟨_, _, _, (List.append_nil _).symm, runs, rfl, rfl⟩

theorem reportOnce_of_interrupted (wanted : limit.any (· ≤ seen) = false)
    (nothing : client.pending = []) {trace : Trace}
    {outcome : (Client × Nat) ⊕ (Except Failure Unit × Client)}
    (runs : (reportOnce limit (client, seen)).Runs trace outcome) :
    (reportOnce limit (client, seen)).Runs (client.interruption :: trace) outcome := by
  simp only [reportOnce, wanted] at runs ⊢
  rcases runs_bind.mp runs with ⟨_, late, read, rfl, receives, meant⟩
  have longer := Client.receiveFrame_of_interrupted nothing receives
  exact runs_bind.mpr ⟨_, late, read, rfl, longer, meant⟩

theorem Reports.of_next {middle : Client} {between : Supply} {early trace : Trace}
    {delivery : Delivery} (wanted : limit.any (· ≤ seen) = false)
    (runs : client.receiveFrame.Runs early (.ok delivery, middle))
    (answered : Answers Supply.answer supply early between)
    (connection : middle.connection = client.connection)
    (silent : early.filterMap Exchange.sent? = [] ∧ early.filterMap Exchange.notice? = [])
    (frames : client.pending ++ Arrival.frames supply.arrivals
      = delivery :: (middle.pending ++ Arrival.frames between.arrivals))
    (breakdown : Arrival.breakdown between.arrivals = Arrival.breakdown supply.arrivals)
    (later : Reports limit middle (seen + 1) between trace after left) :
    Reports limit client seen supply
      (early ++ ⟨.log (.frame (seen + 1) delivery.mac delivery.packet.length), ()⟩ :: trace)
      after left where
  rounds := by
    have count : seen + (delivery :: (middle.pending ++ Arrival.frames between.arrivals)).length
        = seen + 1 + (middle.pending ++ Arrival.frames between.arrivals).length := by
      rw [List.length_cons]
      omega
    rw [frames, count, ← breakdown, List.append_cons]
    exact .again (reportOnce_of_frame wanted runs) later.rounds
  answered := answered.append ⟨_, rfl, later.answered⟩
  connection := later.connection.trans connection
  unsent := by
    rw [List.filterMap_append, silent.1]
    exact later.unsent
  noted := by
    rw [List.filterMap_append, silent.2, frames, lines_cons wanted, ← later.noted]
    rfl

theorem Reports.of_interrupted {posted : Nat → Attempt Nat} {arrivals : List Arrival}
    {trace : Trace} (wanted : limit.any (· ≤ seen) = false) (nothing : client.pending = [])
    (later : Reports limit client seen ⟨posted, arrivals⟩ trace after left) :
    Reports limit client seen ⟨posted, .failure .interrupted :: arrivals⟩
      (client.interruption :: trace) after left where
  rounds := by
    cases later.rounds with
    | last ends => exact .last (reportOnce_of_interrupted wanted nothing ends)
    | again goesOn rounds => exact .again (reportOnce_of_interrupted wanted nothing goesOn) rounds
  answered := ⟨_, rfl, later.answered⟩
  connection := later.connection
  unsent := later.unsent
  noted := later.noted

theorem exists_reports_of_failure {failure : Failure} (wanted : limit.any (· ≤ seen) = false)
    (nothing : client.pending = [])
    (fails : (supply.arrivals.headD .closing).failure? = some failure) :
    ∃ trace after left, Reports limit client seen supply trace after left := by
  rcases Client.receiveFrame_of_failing nothing fails with ⟨after, runs, connection⟩
  rcases Arrival.obtainable_of_failure? fails with ⟨none, breakdown⟩
  have frames : client.pending ++ Arrival.frames supply.arrivals = [] := by
    rw [nothing, Arrival.frames, none]
    rfl
  have ends : ending limit seen failure = .error failure := if_neg (ne_true_of_eq_false wanted)
  refine ⟨[client.receipt (supply.arrivals.headD .closing).content], after,
    { supply with arrivals := supply.arrivals.tail }, ?_, ⟨_, rfl, rfl⟩, connection, rfl, ?_⟩
  · rw [frames, breakdown, List.length_nil, Nat.add_zero, ends]
    exact .last (reportOnce_of_failure wanted runs)
  · rw [frames, lines_nil]
    rfl

/-- What is kept is reported first. Only then does it matter what arrives, and only if there were
not enough frames yet. -/
theorem exists_reports_of_pending (supply : Supply)
    (receives : ∀ (client : Client) (seen : Nat), client.buffer.capacity = Delivery.maxSize →
      client.pending = [] → limit.any (· ≤ seen) = false →
        ∃ trace after left, Reports limit client seen supply trace after left)
    (client : Client) (seen : Nat) (room : client.buffer.capacity = Delivery.maxSize) :
    ∃ trace after left, Reports limit client seen supply trace after left := by
  generalize kept : client.pending = pending
  induction pending generalizing client seen with
  | nil =>
    rcases Bool.eq_false_or_eq_true (limit.any (· ≤ seen)) with enough | wanted
    · exact ⟨[], client, supply, .of_enough enough client supply⟩
    · exact receives client seen room kept wanted
  | cons delivery pending ih =>
    rcases Bool.eq_false_or_eq_true (limit.any (· ≤ seen)) with enough | wanted
    · exact ⟨[], client, supply, .of_enough enough client supply⟩
    · rcases ih { client with pending := pending } (seen + 1) room rfl with
        ⟨trace, after, left, later⟩
      have runs :
          client.receiveFrame.Runs [] (.ok delivery, { client with pending := pending }) := by
        unfold Client.receiveFrame
        rw [kept]
        exact ⟨rfl, rfl⟩
      refine ⟨_, after, left, .of_next wanted runs rfl rfl ⟨rfl, rfl⟩ ?_ rfl later⟩
      rw [kept, List.cons_append]

theorem exists_reports (posted : Nat → Attempt Nat) {arrivals : List Arrival}
    (unasked : arrivals.filterMap Arrival.request? = []) (limit : Option Nat) (client : Client)
    (seen : Nat) (room : client.buffer.capacity = Delivery.maxSize) :
    ∃ trace after left, Reports limit client seen ⟨posted, arrivals⟩ trace after left := by
  induction arrivals generalizing client seen with
  | nil =>
    apply exists_reports_of_pending _ _ client seen room
    intro client seen _ nothing wanted
    exact exists_reports_of_failure wanted nothing rfl
  | cons arrival arrivals ih =>
    apply exists_reports_of_pending _ _ client seen room
    intro client seen room nothing wanted
    cases arrival with
    | answer result header => cases unasked
    | closing => exact exists_reports_of_failure wanted nothing rfl
    | frame delivery message encoded =>
      rcases ih unasked (client.keep [.ok message] []) (seen + 1) room with
        ⟨trace, after, left, later⟩
      have empty : (client.keep [.ok message] []).pending = [] := by simp [Client.keep, nothing]
      have runs := Client.receiveFrame_of_frame room nothing encoded
      refine ⟨_, after, left, .of_next wanted runs ⟨_, rfl, rfl⟩ rfl ⟨rfl, rfl⟩ ?_ rfl later⟩
      rw [empty, nothing]
      rfl
    | failure errno =>
      by_cases interrupted : errno = .interrupted
      · subst interrupted
        rcases ih unasked client seen room with ⟨trace, after, left, later⟩
        exact ⟨_, after, left, .of_interrupted wanted nothing later⟩
      · exact exists_reports_of_failure wanted nothing (if_neg interrupted)

/-! ### The whole run -/

theorem accepted_of_none (macs : List MacAddress) (supply : Supply)
    (content : (rejections macs supply).findSome? id = none) :
    accepted macs supply = macs.length := by
  have each := List.findSome?_eq_none_iff.mp content
  have whole : (rejections macs supply).takeWhile Option.isNone = rejections macs supply :=
    List.takeWhile_eq_self_iff.mpr fun rejected rejectedMem =>
      Option.isNone_iff_eq_none.mpr (each rejected rejectedMem)
  rw [accepted, whole, rejections, List.length_mapIdx]

/-- What comes of the registrations and the reports, and the lines that are logged. -/
def Comes (name : String) (macs : List MacAddress) (limit : Option Nat) (supply : Supply)
    (outcome : Except Failure Unit) (notices : List Notice) : Prop :=
  match (rejections macs supply).findSome? id with
  | some failure => outcome = .error failure
    ∧ notices = (macs.take (accepted macs supply)).map (.registered · name)
  | none =>
    outcome = ending limit (Arrival.frames supply.arrivals).length
        (Arrival.breakdown supply.arrivals)
      ∧ notices = macs.map (.registered · name) ++ lines limit 0 (Arrival.frames supply.arrivals)

theorem exists_watch (name : String) (macs : List MacAddress) (limit : Option Nat)
    (room : client.buffer.capacity = Delivery.maxSize) (empty : client.pending = [])
    (supply : Supply)
    (correlated : supply.arrivals.filterMap Arrival.request? <+: headers client macs) :
    ∃ trace outcome after left, (watch name client macs limit).Runs trace (outcome, after)
      ∧ Answers Supply.answer supply trace left ∧ after.connection = client.connection
      ∧ trace.filterMap Exchange.sent?
        = petitions client supply.posted (macs.take (accepted macs supply + 1))
      ∧ InTurn supply.arrivals trace
      ∧ Comes name macs limit supply outcome (trace.filterMap Exchange.notice?) := by
  rcases exists_enrols name macs room supply correlated with ⟨early, middle, between, enrols⟩
  have registers := enrols.runs
  unfold Comes
  split
  next failure stops =>
    rw [stops] at registers
    exact ⟨early, _, middle, between,
      runs_bind.mpr ⟨_, [], _, (List.append_nil _).symm, registers, rfl, rfl⟩,
      enrols.answered, enrols.connection, enrols.sent, enrols.inTurn, rfl, enrols.noted⟩
  next content =>
    rw [content] at registers
    rcases enrols.takes content with ⟨unasked, taken, takes⟩
    rcases exists_reports between.posted unasked limit middle 0 enrols.room with
      ⟨late, after, left, reports⟩
    have frames := takes.frames
    rw [empty, List.nil_append] at frames
    have runs := runs_repeatUntil.mpr reports.rounds
    have noted := reports.noted
    rw [frames, takes.breakdown, Nat.zero_add, ← reportFrames_eq] at runs
    rw [frames] at noted
    have everyone := accepted_of_none macs supply content
    have registered := enrols.noted
    rw [everyone, List.take_length] at registered
    refine ⟨early ++ late, _, after, left,
      runs_bind.mpr ⟨_, _, _, rfl, registers, runs⟩,
      enrols.answered.append reports.answered, reports.connection.trans enrols.connection, ?_,
      enrols.inTurn.append_unsent reports.unsent, rfl, ?_⟩
    · rw [List.filterMap_append, enrols.sent, reports.unsent, List.append_nil]
    · rw [List.filterMap_append, registered, noted]

/-- A monitor sends one request after the other, each one as soon as the one before is granted, and
stops at the first that is rejected. Then it reports the frames that come before the first receive
that fails, in the order in which they come and from the very first, whether they come before,
between or after the acknowledgements: the first ones, if only so many are wanted, and all of them
if more are wanted or if there is no limit, and then it fails as that receive does. There is no
other run, and none that goes on without an end. -/
theorem run_reports {name : String} {macs : List MacAddress} {limit : Option Nat}
    {created : Trace} {supply : Supply}
    (connects : (Client.connect name).run.Runs created (.ok client))
    (correlated : supply.arrivals.filterMap Arrival.request? <+: macs.mapIdx fun index mac =>
      (Draft.registration mac (UInt32.ofNat (index + 1)) client.port).header) :
    ∃ trace outcome left, (run name macs limit).run.Runs (created ++ trace) outcome
      ∧ Answers Supply.answer supply trace left
      ∧ trace.filterMap Exchange.sent?
        = (macs.take (accepted macs supply + 1)).mapIdx (fun index mac =>
          (client.connection.descriptor,
            Request.encodeRegister mac (UInt32.ofNat (index + 1)) client.port, supply.posted index))
      ∧ InTurn supply.arrivals trace
      ∧ (match (rejections macs supply).findSome? id with
        | some failure => outcome = .error failure ∧ trace.filterMap Exchange.notice?
          = (macs.take (accepted macs supply)).map (.registered · name)
        | none => outcome = (if limit.any (· ≤ (Arrival.frames supply.arrivals).length) then .ok ()
            else .error (Arrival.breakdown supply.arrivals))
          ∧ trace.filterMap Exchange.notice? = macs.map (.registered · name)
            ++ (limit.elim (Arrival.frames supply.arrivals)
              (Arrival.frames supply.arrivals).take).mapIdx fun index delivery =>
                .frame (index + 1) delivery.mac delivery.packet.length)
      ∧ ∀ other last, Answers Supply.answer supply other last →
        ((run name macs limit).run.Begins (created ++ other) → other <+: trace)
          ∧ ∀ result, (run name macs limit).run.Runs (created ++ other) result →
            other = trace ∧ result = outcome := by
  rcases Client.runs_connect connects with ⟨fresh, empty, room⟩
  have numbered : headers client macs = macs.mapIdx fun index mac =>
      (Draft.registration mac (UInt32.ofNat (index + 1)) client.port).header := by
    simp only [headers, fresh, UInt32.zero_add]
  rw [← numbered] at correlated
  rcases exists_watch name macs limit room empty supply correlated with
    ⟨trace, outcome, after, left, watches, answered, connection, sent, inTurn, comes⟩
  let closing : Exchange := ⟨.close after.connection.descriptor, ()⟩
  have closed : Answers Supply.answer supply (trace ++ [closing]) left :=
    answered.append ⟨_, rfl, rfl⟩
  have runs : (run name macs limit).run.Runs (created ++ (trace ++ [closing])) outcome :=
    (Fallible.runs_bind_iff_of_runs connects).mpr
      (runs_bind.mpr ⟨_, _, _, rfl, watches, (), [], rfl, rfl, rfl⟩)
  refine ⟨_, outcome, left, runs, closed, ?_, inTurn.append_unsent rfl, ?_, ?_⟩
  · rw [List.filterMap_append, sent]
    simp only [petitions, fresh, UInt32.zero_add]
    exact List.append_nil _
  · have noted : (trace ++ [closing]).filterMap Exchange.notice?
        = trace.filterMap Exchange.notice? := by
      rw [List.filterMap_append]
      exact List.append_nil _
    rw [noted]
    simp only [Comes, ending, lines, Nat.zero_add, Nat.sub_zero] at comes
    exact comes
  · intro other last answeredToo
    have part := (answeredToo.partAtCalls closed).append created
    constructor
    · intro begun
      exact (List.prefix_append_right_inj created).mp (begun.isPrefix runs part)
    · intro result again
      rw [← List.append_nil (created ++ other), ← List.append_nil (created ++ (trace ++ _))] at part
      rcases again.unique_of_partAtCalls runs part with ⟨same, rfl, -⟩
      exact ⟨List.append_cancel_left same, rfl⟩

section Mixture

def addressees : List MacAddress := [⟨1, 2, 3, 4, 5, 6⟩, ⟨1, 2, 3, 4, 5, 7⟩]

def bringing : Letter → Arrival
  | .frame delivery message encoded => .frame delivery message encoded
  | .answer result header _ => .answer result header

/-- Both addresses are granted. There is a frame before each acknowledgement, and more of them
after an interruption. -/
def mixture : Supply where
  posted := fun _ => .ok 32
  arrivals := [bringing (parcelled 1), .answer 0 (Draft.registration ⟨1, 2, 3, 4, 5, 6⟩ 1 9).header,
    bringing (parcelled 2), .answer 0 (Draft.registration ⟨1, 2, 3, 4, 5, 7⟩ 2 9).header,
    .failure .interrupted, bringing (parcelled 3), bringing (parcelled 4), .closing]

/-- Three frames are wanted, of which two are kept at first and one is received. -/
theorem run_reports_of_mixture : ∃ created trace,
    (run "radio" addressees (some 3)).run.Runs (created ++ trace) (.ok ())
      ∧ trace.filterMap Exchange.notice? = [.registered ⟨1, 2, 3, 4, 5, 6⟩ "radio",
        .registered ⟨1, 2, 3, 4, 5, 7⟩ "radio", .frame 1 ⟨1, 2, 3, 4, 5, 6⟩ 1,
        .frame 2 ⟨1, 2, 3, 4, 5, 6⟩ 1, .frame 3 ⟨1, 2, 3, 4, 5, 6⟩ 1] := by
  rcases Client.connects_radio ⟨5⟩ 9 with ⟨created, connects⟩
  have correlated : mixture.arrivals.filterMap Arrival.request? <+: addressees.mapIdx
      fun index mac => (Draft.registration mac (UInt32.ofNat (index + 1)) 9).header := by decide
  rcases @run_reports _ "radio" addressees (some 3) created mixture connects correlated with
    ⟨trace, outcome, -, runs, -, -, -, comes, -⟩
  have granted : (rejections addressees mixture).findSome? id = none := by decide
  rw [granted] at comes
  rcases comes with ⟨rfl, noted⟩
  exact ⟨created, trace, runs, noted⟩

end Mixture

end Monitor

end RadioRelay
