import Mathlib.Data.List.Forall2
import Mathlib.Data.List.TakeWhile
import RadioRelay.Proofs.Client
import RadioRelay.Proofs.Router.Line

/-!
# A router and its clients

A router and any number of clients make their calls in any order, one at a time.
What is sent through one end of a connection is underway until it is received
at the other end; messages arrive in the order in which they were sent, and none
is lost or made up. Whatever else the system answers is arbitrary.
-/

namespace RadioRelay

/-- A call of the router or of one of the clients, with its answer. -/
inductive Event (ι : Type)
  | router (exchange : Exchange)
  | client (name : ι) (exchange : Exchange)

/-! ### Messages underway -/

namespace Exchange

/-- The message that was sent through a socket, if it was taken whole. -/
def mailed? (socket : Descriptor) : Exchange → Option Bytes
  | ⟨.send sender message, .ok count⟩ =>
    if sender = socket ∧ count = message.length then some message else none
  | _ => none

/-- What arrived at a socket, and how much room there was for it. The end of a stream is no
message. -/
def arrived? (socket : Descriptor) : Exchange → Option (Nat × Received)
  | ⟨.receive source capacity, .ok received⟩ =>
    if source = socket ∧ received.size ≠ 0 then some (capacity, received) else none
  | _ => none

end Exchange

theorem mem_of_mailed {socket : Descriptor} {trace : Trace} {message : Bytes}
    (mailed : message ∈ trace.filterMap (Exchange.mailed? socket)) :
    ⟨.send socket message, .ok message.length⟩ ∈ trace := by
  rcases List.mem_filterMap.mp mailed with ⟨exchange, exchangeMem, taken⟩
  unfold Exchange.mailed? at taken
  split at taken
  next =>
    split at taken
    next whole =>
      rcases whole with ⟨rfl, rfl⟩
      cases taken
      exact exchangeMem
    next => cases taken
  next => cases taken

/-- A message arrives with its length and with as many of its bytes as there is room for. -/
def Brought (message : Bytes) (arrival : Nat × Received) : Prop :=
  arrival.2 = ⟨message.length, message.take arrival.1⟩

instance decidableBrought (message : Bytes) (arrival : Nat × Received) :
    Decidable (Brought message arrival) :=
  inferInstanceAs (Decidable (_ = _))

/-- The messages that were sent from one socket and have not arrived at the other one. -/
def underway (sender receiver : Descriptor) (sending receiving : Trace) : List Bytes :=
  (sending.filterMap (Exchange.mailed? sender)).drop
    (receiving.filterMap (Exchange.arrived? receiver)).length

/-- If a message arrives, it is the one that has been underway for the longest time. -/
def Exchange.TakesNext (socket : Descriptor) (queue : List Bytes) (exchange : Exchange) : Prop :=
  ∀ arrival ∈ exchange.arrived? socket, ∃ message ∈ queue.head?, Brought message arrival

instance decidableTakesNext (socket : Descriptor) (queue : List Bytes) (exchange : Exchange) :
    Decidable (exchange.TakesNext socket queue) :=
  inferInstanceAs (Decidable (∀ arrival ∈ exchange.arrived? socket,
    ∃ message ∈ queue.head?, Brought message arrival))

/-- What arrived are the messages that were sent first, in their order and without a gap. -/
def Orderly (sender receiver : Descriptor) (sending receiving : Trace) : Prop :=
  List.Forall₂ Brought
    ((sending.filterMap (Exchange.mailed? sender)).take
      (receiving.filterMap (Exchange.arrived? receiver)).length)
    (receiving.filterMap (Exchange.arrived? receiver))

namespace Orderly

variable {sender receiver : Descriptor} {sending receiving : Trace} {exchange : Exchange}

theorem start : Orderly sender receiver [] [] := .nil

theorem length_le (orderly : Orderly sender receiver sending receiving) :
    (receiving.filterMap (Exchange.arrived? receiver)).length
      ≤ (sending.filterMap (Exchange.mailed? sender)).length := by
  have same := orderly.length_eq
  rw [List.length_take] at same
  omega

theorem sends (orderly : Orderly sender receiver sending receiving) (exchange : Exchange) :
    Orderly sender receiver (sending ++ [exchange]) receiving := by
  unfold Orderly
  rw [List.filterMap_append, List.take_append_of_le_length orderly.length_le]
  exact orderly

theorem receives (orderly : Orderly sender receiver sending receiving)
    (next : exchange.TakesNext receiver (underway sender receiver sending receiving)) :
    Orderly sender receiver sending (receiving ++ [exchange]) := by
  unfold Orderly
  rw [List.filterMap_append]
  cases arrived : exchange.arrived? receiver with
  | none =>
    rw [List.filterMap_cons_none arrived, List.filterMap_nil, List.append_nil]
    exact orderly
  | some arrival =>
    rcases next arrival arrived with ⟨message, head, brought⟩
    rcases List.head?_eq_some_iff.mp head with ⟨rest, queue⟩
    rw [List.filterMap_cons_some arrived, List.filterMap_nil, List.length_append,
      List.length_singleton, List.take_add, ← underway, queue, List.take_succ_cons, List.take_zero]
    exact List.rel_append orderly (.cons brought .nil)

theorem exists_mailed (orderly : Orderly sender receiver sending receiving)
    {arrival : Nat × Received}
    (arrivalMem : arrival ∈ receiving.filterMap (Exchange.arrived? receiver)) :
    ∃ message ∈ sending.filterMap (Exchange.mailed? sender), Brought message arrival := by
  rcases List.mem_iff_get.mp arrivalMem with ⟨index, rfl⟩
  have bound := lt_of_lt_of_eq index.isLt orderly.length_eq.symm
  refine ⟨_, List.mem_of_mem_take (List.get_mem _ ⟨index, bound⟩), ?_⟩
  exact orderly.get bound index.isLt

end Orderly

/-! ### The network -/

section Traces

variable {ι : Type}

/-- What the router called, one after the other. -/
def routerTrace (events : List (Event ι)) : Trace :=
  events.filterMap fun
    | .router exchange => some exchange
    | .client _ _ => none

/-- What one of the clients called, one after the other. -/
def clientTrace [DecidableEq ι] (name : ι) (events : List (Event ι)) : Trace :=
  events.filterMap fun
    | .router _ => none
    | .client other exchange => if other = name then some exchange else none

end Traces

/-- A router that was put together, and clients that were connected to it and wait to be
accepted. -/
structure Network (ι : Type) where
  listener : Listener
  kernel : Descriptor
  options : RouterOptions
  router : Router
  created : Trace
  puts : (Router.create listener kernel options).run.Runs created (.ok router)
  client : ι → Client
  connects : ∀ name, ∃ path trace, (Client.connect path).run.Runs trace (.ok (client name))
  /-- Which call of the router accepts a client, counted from zero. -/
  place : ι → Nat
  /-- The number under which the router knows a client. -/
  number : ι → ClientId

def VisitBegun (station : Station) (part : Trace) : Prop :=
  (∃ mac, (station.client.register mac).Begins part) ∨ station.client.receiveFrame.Begins part
    ∨ ∃ limit, (station.client.setReceiveTimeout limit).run.Begins part

theorem Visit.begun {station after : Station} {early late : Trace}
    (visit : Visit station (early ++ late) after) : VisitBegun station early := by
  generalize whole : early ++ late = trace at visit
  cases visit with
  | registers mac runs =>
    subst whole
    exact Or.inl ⟨mac, runs.begins⟩
  | receives runs =>
    subst whole
    exact Or.inr (Or.inl runs.begins)
  | limits runs =>
    subst whole
    exact Or.inr (Or.inr ⟨_, runs.begins⟩)

namespace Network

variable {ι : Type} [DecidableEq ι] (network : Network ι) (name : ι) (events : List (Event ι))

/-- The numbers that are open when the router begins. -/
def opened : List Descriptor :=
  openAfter [network.listener.descriptor, network.kernel] network.created

def own : Descriptor := (network.client name).connection.descriptor

/-- What the router did since it accepted a client, until it gave the number to another one. -/
def life : Trace := tenure (network.number name) ((routerTrace events).drop (network.place name + 1))

/-- The router accepted the client, and its number has not been given to another one. -/
def Holds : Prop :=
  network.place name < (routerTrace events).length
    ∧ ∀ exchange ∈ (routerTrace events).drop (network.place name + 1),
      exchange.accepts (network.number name) = false

def toRouter : List Bytes :=
  underway (network.own name) (network.number name) (clientTrace name events)
    (network.life name events)

def toClient : List Bytes :=
  underway (network.number name) (network.own name) (network.life name events)
    (clientTrace name events)

/-- A program that makes a call goes on with what it was doing. -/
def Proceeds : Event ι → Prop
  | .router exchange =>
    Ongoing Router.Turn Router.TurnBegun network.router (routerTrace events ++ [exchange])
  | .client name exchange =>
    Ongoing Visit VisitBegun ⟨network.client name, []⟩ (clientTrace name events ++ [exchange])

/-- The system may give any answer, with these exceptions: a receive stores what there is room for,
no number is given twice at a time, every client is accepted in its place, and connections carry
messages in order. -/
def Allows : Event ι → Prop
  | .router exchange => exchange.Faithful
    ∧ (∀ number ∈ openAfter network.opened (routerTrace events), exchange.accepts number = false)
    ∧ (∀ name, network.place name = (routerTrace events).length →
      exchange.accepts (network.number name) = true)
    ∧ ∀ name, network.Holds name events →
      exchange.TakesNext (network.number name) (network.toRouter name events)
  | .client name exchange => exchange.TakesNext (network.own name) (network.toClient name events)

/-- What may have happened in a network. -/
inductive Composed : List (Event ι) → Prop
  | start : Composed []
  | next {events : List (Event ι)} {event : Event ι} (earlier : Composed events)
    (called : network.Proceeds events event) (answered : network.Allows events event) :
    Composed (events ++ [event])

/-- What is true of everything that may have happened. -/
structure Sound : Prop where
  working : Ongoing Router.Turn Router.TurnBegun network.router (routerTrace events)
  faithful : ∀ exchange ∈ routerTrace events, exchange.Faithful
  fresh : AcceptsFresh network.opened (routerTrace events)
  accepts : ∀ name exchange, (routerTrace events)[network.place name]? = some exchange →
    exchange.accepts (network.number name) = true
  toRouter : ∀ name, Orderly (network.own name) (network.number name) (clientTrace name events)
    (network.life name events)
  toClient : ∀ name, Orderly (network.number name) (network.own name) (network.life name events)
    (clientTrace name events)

section Decidability

variable {count : Nat} (meeting : Network (Fin count)) (member : Fin count)
  (past : List (Event (Fin count)))

instance decidableHolds : Decidable (meeting.Holds member past) :=
  inferInstanceAs (Decidable (_ ∧ _))

instance decidableAllows : ∀ event, Decidable (meeting.Allows past event)
  | .router _ => inferInstanceAs (Decidable (_ ∧ _ ∧ _ ∧ _))
  | .client _ _ => inferInstanceAs (Decidable (Exchange.TakesNext ..))

end Decidability

end Network

namespace Network

section Lives

variable {ι : Type} {network : Network ι} {name other : ι} {events : List (Event ι)}
  {exchange : Exchange}

theorem routerTrace_append {late : List (Event ι)} :
    routerTrace (events ++ late) = routerTrace events ++ routerTrace late :=
  List.filterMap_append

theorem routerTrace_map_router (trace : Trace) :
    routerTrace (trace.map (Event.router : Exchange → Event ι)) = trace := by
  simp [routerTrace]

theorem routerTrace_map_client (name : ι) (trace : Trace) :
    routerTrace (trace.map (.client name)) = [] := by
  simp [routerTrace]

theorem routerTrace_client : routerTrace (events ++ [.client name exchange]) = routerTrace events := by
  rw [routerTrace_append]
  exact List.append_nil _

theorem life_client :
    network.life name (events ++ [.client other exchange]) = network.life name events := by
  unfold life
  rw [routerTrace_client]

/-- A call of the router belongs to the life of a client that the router holds, unless it gives
the number away. -/
theorem life_router (network : Network ι) (name : ι) (events : List (Event ι))
    (exchange : Exchange) :
    (network.Holds name events
        ∧ network.life name (events ++ [.router exchange]) = network.life name events ++ [exchange])
      ∨ network.life name (events ++ [.router exchange]) = network.life name events := by
  have whole : routerTrace (events ++ [.router exchange]) = routerTrace events ++ [exchange] :=
    routerTrace_append
  unfold life
  rw [whole]
  -- A call belongs to the life of a client that was accepted, as long as its number is not given
  -- away.
  by_cases accepted : network.place name < (routerTrace events).length
  · rw [List.drop_append_of_le_length accepted]
    unfold tenure
    rw [List.takeWhile_append]
    split
    next all =>
      have held : network.Holds name events := by
        refine ⟨accepted, ?_⟩
        have whole := (List.takeWhile_prefix _).eq_of_length all
        rw [List.takeWhile_eq_self_iff] at whole
        simpa using whole
      rw [List.takeWhile_cons]
      split
      next =>
        refine Or.inl ⟨held, ?_⟩
        rw [(List.takeWhile_prefix _).eq_of_length all]
        rfl
      next =>
        refine Or.inr ?_
        rw [(List.takeWhile_prefix _).eq_of_length all]
        exact List.append_nil _
    next => exact Or.inr rfl
  · right
    rw [List.drop_of_length_le, List.drop_of_length_le]
    · omega
    · rw [List.length_append, List.length_singleton]
      omega

end Lives

section Soundness

variable {ι : Type} [DecidableEq ι] {network : Network ι} {name other : ι}
  {events : List (Event ι)} {exchange : Exchange}

theorem clientTrace_append {late : List (Event ι)} :
    clientTrace name (events ++ late) = clientTrace name events ++ clientTrace name late :=
  List.filterMap_append

theorem clientTrace_map_router (name : ι) (trace : Trace) :
    clientTrace name (trace.map .router) = [] := by
  simp [clientTrace]

theorem clientTrace_map_client (name : ι) (trace : Trace) :
    clientTrace name (trace.map (.client name)) = trace := by
  simp [clientTrace]

theorem clientTrace_router :
    clientTrace name (events ++ [.router exchange]) = clientTrace name events := by
  rw [clientTrace_append]
  exact List.append_nil _

theorem clientTrace_client :
    clientTrace name (events ++ [.client other exchange])
      = clientTrace name events ++ if other = name then [exchange] else [] := by
  rw [clientTrace_append]
  split
  next same => simp [clientTrace, same]
  next different => simp [clientTrace, different]

theorem sound_nil : network.Sound [] := by
  refine ⟨⟨[], [], _, rfl, .start, ⟨-1, Program.begins_nil⟩⟩, by simp [routerTrace], trivial,
    by simp [routerTrace], ?_, ?_⟩
  all_goals
    intro name
    have nothing : network.life name [] = [] := by simp [life, routerTrace, tenure]
    rw [nothing]
    exact .start

theorem Sound.router (sound : network.Sound events)
    (called : network.Proceeds events (.router exchange))
    (answered : network.Allows events (.router exchange)) :
    network.Sound (events ++ [.router exchange]) := by
  rcases answered with ⟨faithful, fresh, accepts, inOrder⟩
  have whole : routerTrace (events ++ [.router exchange]) = routerTrace events ++ [exchange] :=
    routerTrace_append
  refine ⟨?_, ?_, ?_, ?_, ?_, ?_⟩
  · rw [whole]
    exact called
  · rw [whole, List.forall_mem_append]
    exact ⟨sound.faithful, by simpa using faithful⟩
  · rw [whole, acceptsFresh_append]
    exact ⟨sound.fresh, fresh, trivial⟩
  · intro name accepting found
    rw [whole, List.getElem?_append] at found
    split at found
    next => exact sound.accepts name accepting found
    next beyond =>
      rcases List.getElem?_eq_some_iff.mp found with ⟨bound, same⟩
      rw [List.length_singleton] at bound
      rw [List.getElem_singleton] at same
      subst same
      exact accepts name (by omega)
  · intro name
    rw [clientTrace_router]
    rcases life_router network name events exchange with
      ⟨held, longer⟩ | same
    · rw [longer]
      exact (sound.toRouter name).receives (inOrder name held)
    · rw [same]
      exact sound.toRouter name
  · intro name
    rw [clientTrace_router]
    rcases life_router network name events exchange with
      ⟨-, longer⟩ | same
    · rw [longer]
      exact (sound.toClient name).sends exchange
    · rw [same]
      exact sound.toClient name

theorem Sound.client (sound : network.Sound events)
    (answered : network.Allows events (.client name exchange)) :
    network.Sound (events ++ [.client name exchange]) := by
  refine ⟨?_, ?_, ?_, ?_, ?_, ?_⟩
  · rw [routerTrace_client]
    exact sound.working
  · rw [routerTrace_client]
    exact sound.faithful
  · rw [routerTrace_client]
    exact sound.fresh
  · rw [routerTrace_client]
    exact sound.accepts
  · intro other
    rw [life_client, clientTrace_client]
    split
    next same =>
      subst same
      exact (sound.toRouter name).sends exchange
    next =>
      rw [List.append_nil]
      exact sound.toRouter other
  · intro other
    rw [life_client, clientTrace_client]
    split
    next same =>
      subst same
      exact (sound.toClient name).receives answered
    next =>
      rw [List.append_nil]
      exact sound.toClient other

theorem Composed.sound (composed : network.Composed events) : network.Sound events := by
  induction composed with
  | start => exact sound_nil
  | @next events event _ called answered ih =>
    cases event with
    | router exchange => exact ih.router called answered
    | client name exchange => exact ih.client answered

/-- What is left of whole turns and whole calls up to any moment may have happened, if the system
may have answered so. -/
theorem composed_of_whole (network : Network ι) {events : List (Event ι)} {router : Router}
    (turns : Course Router.Turn network.router (routerTrace events) router)
    (visits : ∀ name, ∃ station,
      Course Visit ⟨network.client name, []⟩ (clientTrace name events) station)
    (allowed : ∀ index (bound : index < events.length),
      network.Allows (events.take index) events[index]) :
    ∀ count ≤ events.length, network.Composed (events.take count) := by
  intro count
  induction count with
  | zero => exact fun _ => .start
  | succ count ih =>
    intro bound
    have early : events.take (count + 1) = events.take count ++ [events[count]] :=
      List.take_succ_eq_append_getElem bound
    have whole : events = (events.take count ++ [events[count]]) ++ events.drop (count + 1) := by
      rw [← early, List.take_append_drop]
    rw [early]
    refine .next (ih (Nat.le_of_succ_le bound)) ?_ (allowed count bound)
    cases last : events[count] with
    | router exchange =>
      rw [last] at whole
      rw [whole, routerTrace_append, routerTrace_append] at turns
      exact Router.ongoing_of_turns turns
    | client name exchange =>
      rw [last] at whole
      rcases visits name with ⟨station, visits⟩
      rw [whole, clientTrace_append, clientTrace_client, if_pos rfl] at visits
      apply visits.ongoing
      · exact fun _ _ _ _ visit => visit.begun
      · exact Or.inr (Or.inl Program.begins_nil)

end Soundness

end Network

end RadioRelay
