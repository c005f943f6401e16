import RadioRelay.MacAddress
import RadioRelay.System.Descriptor

/-!
# Connected clients and their subscriptions

The registry holds the connection of every client and, for every hardware
address somebody subscribed to, the clients that did. It performs no input or
output: removing a client hands its connection back, and the caller closes it.
-/

namespace RadioRelay

/-- A client is known by the descriptor of its connection. -/
abbrev ClientId := Descriptor

/-- Connected clients, and for each address its subscribers. -/
structure Registry (Connection : Type) where
  clients : List (ClientId × Connection)
  subscriptions : List (MacAddress × List ClientId)
  deriving Repr

namespace Registry

variable {Connection : Type}

def empty : Registry Connection := ⟨[], []⟩

instance : EmptyCollection (Registry Connection) := ⟨empty⟩

def get? (registry : Registry Connection) (id : ClientId) : Option Connection :=
  registry.clients.lookup id

def contains (registry : Registry Connection) (id : ClientId) : Bool :=
  (registry.get? id).isSome

def ids (registry : Registry Connection) : List ClientId := registry.clients.map (·.1)

def size (registry : Registry Connection) : Nat := registry.clients.length

def isEmpty (registry : Registry Connection) : Bool := registry.clients.isEmpty

def subscribers (registry : Registry Connection) (mac : MacAddress) : List ClientId :=
  (registry.subscriptions.lookup mac).getD []

/-- The number of pairs of an address and one of its subscribers. -/
def subscriptionCount (registry : Registry Connection) : Nat :=
  registry.subscriptions.foldl (fun count entry => count + entry.2.length) 0

/-- Adds a client, and tells whether it was new. A known client keeps its
connection. -/
def add (registry : Registry Connection) (id : ClientId) (connection : Connection) :
    Bool × Registry Connection :=
  if registry.contains id then (false, registry)
  else (true, { registry with clients := registry.clients ++ [(id, connection)] })

/-- The subscriptions without one client. An address that nobody is left for
is dropped. -/
def withoutSubscriber (id : ClientId) (subscriptions : List (MacAddress × List ClientId)) :
    List (MacAddress × List ClientId) :=
  subscriptions.filterMap fun (mac, subscribers) =>
    match subscribers.filter (· ≠ id) with
    | [] => none
    | remaining => some (mac, remaining)

/-- Removes a client together with its subscriptions, and hands back its
connection. An unknown client changes nothing. -/
def remove (registry : Registry Connection) (id : ClientId) :
    Option Connection × Registry Connection :=
  (registry.get? id, {
    clients := registry.clients.filter (·.1 ≠ id)
    subscriptions := withoutSubscriber id registry.subscriptions })

def withSubscriber (mac : MacAddress) (id : ClientId) :
    List (MacAddress × List ClientId) → List (MacAddress × List ClientId)
  | [] => [(mac, [id])]
  | (key, subscribers) :: rest =>
    if key = mac then
      (key, if id ∈ subscribers then subscribers else subscribers ++ [id]) :: rest
    else (key, subscribers) :: withSubscriber mac id rest

/-- Subscribes a client to an address, and tells whether the client is
connected. Subscribing again changes nothing. -/
def register (registry : Registry Connection) (mac : MacAddress) (id : ClientId) :
    Bool × Registry Connection :=
  if registry.contains id then
    (true, { registry with subscriptions := withSubscriber mac id registry.subscriptions })
  else (false, registry)

def drain (registry : Registry Connection) :
    List (ClientId × Connection) × Registry Connection :=
  (registry.clients, empty)

end Registry

end RadioRelay
