import RadioRelay.Proofs.Registering
import RadioRelay.Proofs.Router.Servings

/-!
# What a client's receives come to

A connection brings a client frames and acknowledgements, and some of its receives fail. An
interruption is tried again; whatever else fails, the client reports. What counts are therefore the
arrivals before the first one that fails in this way: the frames and results among them, in their
order.
-/

namespace RadioRelay

open Program

inductive Arrival
  | frame (delivery : Delivery) (message : Bytes) (encoded : delivery.encode = .ok message)
  | answer (result : Int32) (header : Header)
  | failure (errno : Errno)
  /-- The router has closed the connection. -/
  | closing

namespace Arrival

/-- The message, or the error instead of one. -/
def content : Arrival → Attempt Bytes
  | frame _ message _ => .ok message
  | answer result header => .ok (Acknowledgement.encode result header)
  | failure errno => .error errno
  | closing => .ok []

def frame? : Arrival → Option Delivery
  | frame delivery _ _ => some delivery
  | _ => none

def result? : Arrival → Option Int32
  | answer result _ => some result
  | _ => none

def request? : Arrival → Option Header
  | answer _ header => some header
  | _ => none

/-- What a client reports of a receive that fails. An interrupted one does not: it is repeated. -/
def failure? : Arrival → Option Failure
  | failure errno =>
    if errno = .interrupted then none
    else some ((Failure.system errno).during .receivingFromRouter)
  | closing => some (.of .closedByRouter)
  | _ => none

theorem eq_interrupted {errno : Errno} (repeated : (failure errno).failure? = none) :
    errno = .interrupted := by
  by_contra other
  rw [failure?, if_neg other] at repeated
  cases repeated

theorem failure?_eq_some {arrival : Arrival} {failing : Failure}
    (fails : arrival.failure? = some failing) :
    (arrival = closing ∧ failing = .of .closedByRouter)
      ∨ ∃ errno, errno ≠ .interrupted ∧ arrival = failure errno
        ∧ failing = (Failure.system errno).during .receivingFromRouter := by
  cases arrival with
  | frame | answer => cases fails
  | closing =>
    cases fails
    exact Or.inl ⟨rfl, rfl⟩
  | failure errno =>
    have other : errno ≠ .interrupted := by
      rintro rfl
      cases fails
    rw [failure?, if_neg other] at fails
    cases fails
    exact Or.inr ⟨errno, other, rfl, rfl⟩

/-- A client that awaits an acknowledgement waits on: a frame came, or an interruption. -/
def Passing (arrival : Arrival) : Prop := arrival.failure? = none ∧ arrival.result? = none

theorem Passing.request? {arrival : Arrival} (passing : arrival.Passing) :
    arrival.request? = none := by
  rcases passing with ⟨-, unanswered⟩
  cases arrival with
  | answer => cases unanswered
  | _ => rfl

/-! ### Before the first failure -/

section Sequences

variable {early later : List Arrival} {failure : Failure}

/-- The arrivals before the first receive that fails. -/
def obtainable (arrivals : List Arrival) : List Arrival := arrivals.takeWhile (·.failure?.isNone)

def frames (arrivals : List Arrival) : List Delivery := (obtainable arrivals).filterMap frame?

def results (arrivals : List Arrival) : List Int32 := (obtainable arrivals).filterMap result?

/-- How the first receive fails that does. After all arrivals the connection is closed. -/
def breakdown (arrivals : List Arrival) : Failure :=
  (arrivals.findSome? failure?).getD (.of .closedByRouter)

theorem obtainable_append (intact : ∀ arrival ∈ early, arrival.failure? = none) :
    obtainable (early ++ later) = early ++ obtainable later :=
  List.takeWhile_append_of_pos fun arrival arrivalMem => Option.isNone_iff_eq_none.mpr
    (intact arrival arrivalMem)

theorem frames_append (intact : ∀ arrival ∈ early, arrival.failure? = none) :
    frames (early ++ later) = early.filterMap frame? ++ frames later := by
  rw [frames, obtainable_append intact, List.filterMap_append, frames]

theorem results_append (intact : ∀ arrival ∈ early, arrival.failure? = none) :
    results (early ++ later) = early.filterMap result? ++ results later := by
  rw [results, obtainable_append intact, List.filterMap_append, results]

theorem breakdown_append (intact : ∀ arrival ∈ early, arrival.failure? = none) :
    breakdown (early ++ later) = breakdown later := by
  rw [breakdown, List.findSome?_append, List.findSome?_eq_none_iff.mpr intact, Option.none_or,
    breakdown]

/-- Where the next receive fails, nothing more is obtainable. -/
theorem obtainable_of_failure? (fails : (later.headD .closing).failure? = some failure) :
    obtainable later = [] ∧ breakdown later = failure := by
  cases later with
  | nil => exact ⟨rfl, Option.some.inj fails⟩
  | cons arrival later =>
    change arrival.failure? = some failure at fails
    simp [obtainable, breakdown, fails]

theorem silent_of_passing (passing : ∀ arrival ∈ early, arrival.Passing) :
    (∀ arrival ∈ early, arrival.failure? = none) ∧ early.filterMap result? = []
      ∧ early.filterMap request? = [] := by
  rw [List.filterMap_eq_nil_iff, List.filterMap_eq_nil_iff]
  exact ⟨fun arrival arrivalMem => (passing arrival arrivalMem).1,
    fun arrival arrivalMem => (passing arrival arrivalMem).2,
    fun arrival arrivalMem => (passing arrival arrivalMem).request?⟩

/-- A client that awaits an acknowledgement waits for an answer or for a failure. -/
theorem exists_passing (arrivals : List Arrival) : ∃ passed later, arrivals = passed ++ later
    ∧ (∀ arrival ∈ passed, arrival.Passing)
    ∧ ((∃ failure, (later.headD .closing).failure? = some failure)
      ∨ ∃ result header rest, later = .answer result header :: rest) := by
  induction arrivals with
  | nil => exact ⟨[], [], rfl, by simp, Or.inl ⟨_, rfl⟩⟩
  | cons arrival arrivals ih =>
    cases fails : arrival.failure? with
    | some failure => exact ⟨[], _, rfl, by simp, Or.inl ⟨failure, fails⟩⟩
    | none =>
      cases answers : arrival.result? with
      | some result =>
        cases arrival with
        | answer result header => exact ⟨[], _, rfl, by simp, Or.inr ⟨_, _, _, rfl⟩⟩
        | _ => cases answers
      | none =>
        rcases ih with ⟨passed, later, rfl, passing, next⟩
        refine ⟨arrival :: passed, later, rfl, ?_, next⟩
        rw [List.forall_mem_cons]
        exact ⟨⟨fails, answers⟩, passing⟩

end Sequences

end Arrival

/-! ### A client's connection -/

/-- What a client finds on its connection: what becomes of the requests that it sends, and what its
receives come to. After the last arrival the router has closed the connection. -/
structure Supply where
  posted : Nat → Attempt Nat
  arrivals : List Arrival

def refusal? (mac : MacAddress) (result : Int32) : Option Failure :=
  if result = 0 then none else some ((Failure.system ⟨-result.toInt⟩).during (.registering mac))

/-- Why a client that awaits an acknowledgement reports a failure, if it does: by the result in the
acknowledgement, unless a receive fails before that comes. -/
def disappointment? (mac : MacAddress) (result : Option Int32) (failing : Failure) :
    Option Failure :=
  result.elim (some failing) (refusal? mac)

namespace Supply

/-- Why a registration fails that comes after so many others, if it does and they did not: its
request is not sent in full, or what comes then disappoints. -/
def rejection? (supply : Supply) (index : Nat) (mac : MacAddress) : Option Failure :=
  match supply.posted index with
  | .error errno => some ((Failure.system errno).during .sendingRegistration)
  | .ok count =>
    if count = Request.registrationSize then
      disappointment? mac (Arrival.results supply.arrivals)[index]?
        (Arrival.breakdown supply.arrivals)
    else some (.of (.shortRegistration count Request.registrationSize))

def answer : (call : Call) → StateM Supply call.Answer
  | .send _ _ => fun supply =>
    (supply.posted 0, { supply with posted := fun index => supply.posted (index + 1) })
  | .receive _ capacity => fun supply =>
    ((supply.arrivals.headD .closing).content.map (seen capacity),
      { supply with arrivals := supply.arrivals.tail })
  | call => fun supply => (call.refusal, supply)

theorem answers_receipts (client : Client) (posted : Nat → Attempt Nat)
    (passed later : List Arrival) :
    Answers answer ⟨posted, passed ++ later⟩
      ((passed.map Arrival.content ++ [(later.headD .closing).content]).map client.receipt)
      ⟨posted, later.tail⟩ := by
  induction passed with
  | nil => exact ⟨_, rfl, rfl⟩
  | cons arrival passed ih => exact ⟨_, rfl, ih⟩

end Supply

namespace Client

variable {client : Client} {mac : MacAddress}

theorem sent_receipts (client : Client) (arrivals : List (Attempt Bytes)) :
    (arrivals.map client.receipt).filterMap Exchange.sent? = [] := by
  rw [List.filterMap_map, List.filterMap_eq_nil_iff]
  exact fun _ _ => rfl

theorem length_received_receipts (client : Client) (arrivals : List (Attempt Bytes)) :
    ((arrivals.map client.receipt).filterMap Exchange.received?).length = arrivals.length := by
  induction arrivals with
  | nil => rfl
  | cons arrival arrivals ih => exact congrArg (· + 1) ih

/-- The frames of what is passed over are kept. -/
theorem passes_passing {passed : List Arrival} (passing : ∀ arrival ∈ passed, arrival.Passing) :
    List.Forall₂ client.Passes (passed.map Arrival.content)
      (passed.map fun arrival => arrival.frame?.toList) := by
  induction passed with
  | nil => exact .nil
  | cons arrival passed ih =>
    rw [List.forall_mem_cons] at passing
    refine .cons ?_ (ih passing.2)
    rcases passing.1 with ⟨intact, unanswered⟩
    cases arrival with
    | frame delivery message encoded => exact passes_encode encoded
    | answer => cases unanswered
    | closing => cases intact
    | failure errno =>
      obtain rfl := Arrival.eq_interrupted intact
      exact .interrupted

theorem decides_failing {arrival : Arrival} {failure : Failure}
    (fails : arrival.failure? = some failure) :
    client.Decides mac arrival.content (.error failure) := by
  rcases Arrival.failure?_eq_some fails with ⟨rfl, rfl⟩ | ⟨errno, other, rfl, rfl⟩
  · exact .closed
  · exact .failed other

theorem decides_answer {header : Header} (sequence : header.sequence = client.sequence)
    (port : header.port = client.port) (result : Int32) :
    client.Decides mac (Arrival.answer result header).content
      ((refusal? mac result).elim (.ok ()) .error) := by
  have fits : (Acknowledgement.encode result header).length ≤ Delivery.maxSize := by
    rw [Acknowledgement.length_encode]
    decide
  have read := Acknowledgement.decode?_encode result header
  rw [sequence, port] at read
  by_cases granted : result = 0
  · subst granted
    exact .accepted fits read
  · rw [refusal?, if_neg granted]
    exact .refused fits read granted

/-! ### A registration -/

/-- A client took up arrivals of which none failed, and keeps the frames among them. -/
structure Takes (client : Client) (supply : Supply) (trace : Trace) (after : Client)
    (left : Supply) (taken : List Arrival) : Prop where
  arrivals : supply.arrivals = taken ++ left.arrivals
  intact : ∀ arrival ∈ taken, arrival.failure? = none
  received : (trace.filterMap Exchange.received?).length = taken.length
  pending : after.pending = client.pending ++ taken.filterMap Arrival.frame?

namespace Takes

variable {middle after : Client} {supply between left : Supply} {early late : Trace}
  {taken more : List Arrival}

theorem append (first : client.Takes supply early middle between taken)
    (second : middle.Takes between late after left more) :
    client.Takes supply (early ++ late) after left (taken ++ more) where
  arrivals := by rw [first.arrivals, second.arrivals, List.append_assoc]
  intact := List.forall_mem_append.mpr ⟨first.intact, second.intact⟩
  received := by
    rw [List.filterMap_append, List.length_append, List.length_append, first.received,
      second.received]
  pending := by
    rw [second.pending, first.pending, List.filterMap_append, List.append_assoc]

theorem take_received (takes : client.Takes supply early after left taken) :
    supply.arrivals.take (early.filterMap Exchange.received?).length = taken
      ∧ supply.arrivals.drop (early.filterMap Exchange.received?).length = left.arrivals := by
  rw [takes.arrivals, takes.received]
  exact ⟨List.take_left, List.drop_left⟩

/-- What is left of the frames goes on where the kept ones end. -/
theorem frames (takes : client.Takes supply early after left taken) :
    after.pending ++ Arrival.frames left.arrivals
      = client.pending ++ Arrival.frames supply.arrivals := by
  rw [takes.pending, takes.arrivals, Arrival.frames_append takes.intact, List.append_assoc]

theorem breakdown (takes : client.Takes supply early after left taken) :
    Arrival.breakdown left.arrivals = Arrival.breakdown supply.arrivals := by
  rw [takes.arrivals, Arrival.breakdown_append takes.intact]

end Takes

/-- The wait for an acknowledgement is decided by what arrives. If it succeeds, the client has taken
up all up to the acknowledgement. -/
theorem exists_wait (room : client.buffer.capacity = Delivery.maxSize) (posted : Nat → Attempt Nat)
    {arrivals : List Arrival} {header : Header} {headers : List Header}
    (sequence : header.sequence = client.sequence) (port : header.port = client.port)
    (correlated : arrivals.filterMap Arrival.request? <+: header :: headers) :
    ∃ contents after rest,
      (client.awaitAcknowledgement mac).Runs (List.map client.receipt contents)
          ((disappointment? mac (Arrival.results arrivals)[0]?
            (Arrival.breakdown arrivals)).elim (.ok ()) .error, after)
        ∧ Answers Supply.answer ⟨posted, arrivals⟩ (contents.map client.receipt) ⟨posted, rest⟩
        ∧ client.Alike after
        ∧ (disappointment? mac (Arrival.results arrivals)[0]?
            (Arrival.breakdown arrivals) = none →
          rest.filterMap Arrival.request? <+: headers
            ∧ ∃ taken, client.Takes ⟨posted, arrivals⟩ (contents.map client.receipt) after
                ⟨posted, rest⟩ taken ∧ taken.filterMap Arrival.result? = [0]) := by
  rcases Arrival.exists_passing arrivals with ⟨passed, later, rfl, passing, next⟩
  rcases Arrival.silent_of_passing passing with ⟨intact, unanswered, unasked⟩
  have waits {outcome : Except Failure Unit}
      (decides : client.Decides mac (later.headD .closing).content outcome) :=
    runs_repeatUntil.mpr (rounds_of_arrivals room (passes_passing passing) decides)
  have answered := Supply.answers_receipts client posted passed later
  rw [Arrival.results_append intact, Arrival.breakdown_append intact, unanswered, List.nil_append]
  rw [List.filterMap_append, unasked, List.nil_append] at correlated
  -- What is passed over leaves the question open; the first arrival that is not decides.
  rcases next with ⟨failure, fails⟩ | ⟨result, other, rest, rfl⟩
  · rcases Arrival.obtainable_of_failure? fails with ⟨nothing, same⟩
    have unjudged : Arrival.results later = [] := congrArg (List.filterMap Arrival.result?) nothing
    rw [unjudged, same]
    exact ⟨_, _, later.tail, waits (decides_failing fails), answered, client.alike_keep _ _, nofun⟩
  · rcases List.cons_prefix_cons.mp correlated with ⟨rfl, correlatedLater⟩
    have judged : Arrival.results (.answer result other :: rest) = result :: Arrival.results rest :=
      rfl
    rw [judged]
    refine ⟨_, _, rest, waits (decides_answer sequence port result), answered,
      client.alike_keep _ _, ?_⟩
    intro content
    have granted : result = 0 := by
      by_contra refused
      simp [disappointment?, refusal?, refused] at content
    subst granted
    refine ⟨correlatedLater, passed ++ [.answer 0 other], ⟨?_, ?_, ?_, ?_⟩, ?_⟩
    · simp
    · rw [List.forall_mem_append, List.forall_mem_singleton]
      exact ⟨intact, rfl⟩
    · rw [length_received_receipts]
      simp
    · rw [List.filterMap_append, List.filterMap_eq_flatMap_toList]
      simp [keep, List.flatMap_def, Arrival.frame?]
    · rw [List.filterMap_append, unanswered]
      rfl

/-- The request that registers an address is sent, whatever becomes of it, and some messages are
received. -/
def correspondence (client : Client) (mac : MacAddress) (posted : Attempt Nat)
    (contents : List (Attempt Bytes)) : Trace :=
  ⟨.send client.connection.descriptor
    (Request.encodeRegister mac (client.sequence + 1) client.port), posted⟩
    :: contents.map client.receipt

/-- A registration fails at once unless its request is sent in full. -/
theorem fails_or_waits (client : Client) (mac : MacAddress) (supply : Supply) :
    (∃ failure, supply.rejection? 0 mac = some failure
      ∧ (client.register mac).Runs (client.correspondence mac (supply.posted 0) [])
        (.error failure, client.next))
    ∨ supply.rejection? 0 mac = disappointment? mac (Arrival.results supply.arrivals)[0]?
        (Arrival.breakdown supply.arrivals)
      ∧ ∀ contents outcome,
        (client.next.awaitAcknowledgement mac).Runs (contents.map client.receipt) outcome →
          (client.register mac).Runs (client.correspondence mac (supply.posted 0) contents)
            outcome := by
  unfold Supply.rejection?
  rcases supply.posted 0 with errno | count
  · exact Or.inl ⟨_, rfl, runs_call_bind.mpr ⟨_, [], rfl, rfl, rfl⟩⟩
  by_cases whole : count = Request.registrationSize
  · refine Or.inr ⟨if_pos whole, fun contents outcome waits => ?_⟩
    refine runs_call_bind.mpr ⟨_, _, rfl, ?_⟩
    dsimp only
    rw [Request.length_encodeRegister, if_pos whole]
    exact waits
  · refine Or.inl ⟨_, if_neg whole, runs_call_bind.mpr ⟨_, [], rfl, ?_⟩⟩
    dsimp only
    rw [Request.length_encodeRegister, if_neg whole]
    exact ⟨rfl, rfl⟩

/-- A registration is decided by what becomes of its request and by what arrives. If it succeeds,
the client has taken up all up to the acknowledgement. -/
theorem exists_registration (room : client.buffer.capacity = Delivery.maxSize) (supply : Supply)
    {headers : List Header} (correlated : supply.arrivals.filterMap Arrival.request?
      <+: (Draft.registration mac (client.sequence + 1) client.port).header :: headers) :
    ∃ contents after left,
      (client.register mac).Runs (client.correspondence mac (supply.posted 0) contents)
          ((supply.rejection? 0 mac).elim (.ok ()) .error, after)
        ∧ Answers Supply.answer supply (client.correspondence mac (supply.posted 0) contents) left
        ∧ client.next.Alike after
        ∧ (supply.rejection? 0 mac = none →
          (left.posted = fun index => supply.posted (index + 1))
            ∧ left.arrivals.filterMap Arrival.request? <+: headers
            ∧ ∃ taken, client.Takes supply
                (client.correspondence mac (supply.posted 0) contents) after left taken
              ∧ taken.filterMap Arrival.result? = [0]) := by
  have roomNext : client.next.buffer.capacity = Delivery.maxSize := room
  rcases Draft.header_registration mac (client.sequence + 1) client.port with ⟨sequence, port⟩
  rcases client.fails_or_waits mac supply with ⟨failure, rejected, fails⟩ | ⟨judged, sent⟩
  · rw [rejected]
    exact ⟨[], client.next, _, fails, ⟨_, rfl, rfl⟩, .refl, nofun⟩
  · rw [judged]
    let posted : Nat → Attempt Nat := fun index => supply.posted (index + 1)
    rcases exists_wait roomNext posted sequence port correlated with
      ⟨contents, after, rest, waits, answered, alike, content⟩
    refine ⟨contents, after, ⟨posted, rest⟩, sent _ _ waits, ⟨_, rfl, answered⟩, alike, ?_⟩
    intro accepted
    rcases content accepted with ⟨correlatedLater, taken, takes, granted⟩
    exact ⟨rfl, correlatedLater, taken,
      ⟨takes.arrivals, takes.intact, takes.received, takes.pending⟩, granted⟩

/-! ### The next frame -/

def unpack : Except Failure Bytes × Client → Except Failure Delivery × Client
  | (.error failure, client) => (.error failure, client)
  | (.ok message, client) =>
    ((Delivery.decode message).mapError fun error => .of (.badFrame error), client)

theorem receiveFrame_eq (nothing : client.pending = []) :
    client.receiveFrame = client.receiveMessage >>= fun read => pure (unpack read) := by
  unfold receiveFrame
  rw [nothing]
  refine congrArg (client.receiveMessage >>= ·) (funext ?_)
  rintro ⟨failure | message, middle⟩
  · rfl
  · dsimp only [unpack]
    cases Delivery.decode message <;> rfl

/-- A client that keeps nothing is interrupted any number of times; then it unpacks what it
receives. -/
theorem runs_receiveFrame_iff (nothing : client.pending = []) {trace : Trace}
    {result : Except Failure Delivery × Client} :
    client.receiveFrame.Runs trace result ↔
      ∃ interruptions answer, trace = List.replicate interruptions client.interruption
          ++ [⟨.receive client.connection.descriptor client.buffer.capacity, answer⟩]
        ∧ answer ≠ .error .interrupted ∧ result = unpack (client.takeIn answer) := by
  rw [receiveFrame_eq nothing]
  exact runs_reaction_iff

theorem receiveFrame_of_interrupted (nothing : client.pending = []) {trace : Trace}
    {result : Except Failure Delivery × Client} (runs : client.receiveFrame.Runs trace result) :
    client.receiveFrame.Runs (client.interruption :: trace) result := by
  rcases (runs_receiveFrame_iff nothing).mp runs with ⟨interruptions, answer, rfl, answered, rfl⟩
  exact (runs_receiveFrame_iff nothing).mpr ⟨interruptions + 1, answer, rfl, answered, rfl⟩

theorem receiveFrame_of_frame (room : client.buffer.capacity = Delivery.maxSize)
    (nothing : client.pending = []) {delivery : Delivery} {message : Bytes}
    (encoded : delivery.encode = .ok message) :
    client.receiveFrame.Runs [client.receipt (.ok message)]
      (.ok delivery, client.keep [.ok message] []) := by
  have fits : message.length ≤ client.buffer.capacity := room ▸ Delivery.length_le_of_encode encoded
  refine (runs_receiveFrame_iff nothing).mpr ⟨0, _, rfl, nofun, ?_⟩
  simp only [Except.map, takeIn_of_fits (Delivery.ne_nil_of_encode encoded) fits, unpack,
    Delivery.decode_of_encode encoded, Except.mapError]

theorem receiveFrame_of_failing (nothing : client.pending = []) {arrival : Arrival}
    {failure : Failure} (fails : arrival.failure? = some failure) :
    ∃ after, client.receiveFrame.Runs [client.receipt arrival.content] (.error failure, after)
      ∧ after.connection = client.connection := by
  rcases Arrival.failure?_eq_some fails with ⟨rfl, rfl⟩ | ⟨errno, other, rfl, rfl⟩
  · exact ⟨_, (runs_receiveFrame_iff nothing).mpr ⟨0, _, rfl, nofun, rfl⟩, rfl⟩
  · refine ⟨_, (runs_receiveFrame_iff nothing).mpr ⟨0, _, rfl, ?_, rfl⟩, rfl⟩
    intro same
    cases same
    exact other rfl

end Client

end RadioRelay
