import Mathlib.Data.List.DropRight
import Mathlib.Data.Set.Card
import RadioRelay.Proofs.Registry

/-!
# A registry is determined by its history

The history of a registry is the list of its changes. For a client only those
count that came after the last one that removed it, and of these only its stay:
what came from the first one on that added it. The connection of a client is the
one that began its stay, and it is subscribed to the addresses registered in its
stay. Everything that a registry shows follows from this.
-/

namespace RadioRelay.Registry

variable {Connection : Type} {registry : Registry Connection}

theorem mem_subscribers_register {mac key : MacAddress} {id other : ClientId} :
    id ∈ (registry.register key other).2.subscribers mac ↔
      id ∈ registry.subscribers mac ∨ (registry.contains other ∧ key = mac ∧ other = id) := by
  rw [subscribers_register]
  split
  case isTrue subscribes =>
    rcases subscribes with ⟨connected, rfl, -⟩
    rw [List.mem_append, List.mem_singleton]
    simp [connected, eq_comm]
  case isFalse unchanged =>
    refine ⟨Or.inl, ?_⟩
    rintro (old | ⟨connected, rfl, rfl⟩)
    · exact old
    · by_contra fresh
      exact unchanged ⟨connected, rfl, fresh⟩

inductive Change (Connection : Type)
  | add (id : ClientId) (connection : Connection)
  | remove (id : ClientId)
  | register (mac : MacAddress) (id : ClientId)
  | drain

namespace Change

def apply (registry : Registry Connection) : Change Connection → Registry Connection
  | add id connection => (registry.add id connection).2
  | remove id => (registry.remove id).2
  | register mac id => (registry.register mac id).2
  | drain => registry.drain.2

def removes (id : ClientId) : Change Connection → Bool
  | remove other => other = id
  | drain => true
  | add _ _ | register _ _ => false

/-- The connection under which a change is to add a client. -/
def added? (id : ClientId) : Change Connection → Option Connection
  | add other connection => if other = id then some connection else none
  | remove _ | register _ _ | drain => none

variable {change : Change Connection}

theorem added?_eq_some_iff {id : ClientId} {connection : Connection} :
    change.added? id = some connection ↔ change = add id connection := by
  cases change with
  | add other admitted => simp [added?]
  | remove | register | drain => simp [added?]

theorem get?_apply (change : Change Connection) (id : ClientId) :
    (change.apply registry).get? id =
      if change.removes id then none else (registry.get? id).or (change.added? id) := by
  cases change with
  | add other connection =>
    rw [apply, get?_add]
    by_cases same : other = id
    · subst same
      cases registry.get? other <;> simp [removes, added?]
    · simp [removes, added?, same, Ne.symm same]
  | remove other =>
    rw [apply, get?_remove]
    by_cases same : other = id
    · simp [removes, same]
    · simp [removes, added?, same, Ne.symm same]
  | register mac other => simp [apply, removes, added?]
  | drain => rfl

theorem mem_subscribers_apply (sound : registry.Sound) (change : Change Connection)
    (mac : MacAddress) (id : ClientId) :
    id ∈ (change.apply registry).subscribers mac ↔ change.removes id = false
      ∧ (id ∈ registry.subscribers mac
        ∨ change = .register mac id ∧ (registry.get? id).isSome) := by
  cases change with
  | add other connection => simp [apply, removes]
  | remove other =>
    rw [apply, sound.subscribers_remove, List.mem_filter]
    simp only [removes, ne_eq, decide_not, Bool.not_eq_true', decide_eq_false_iff_not, reduceCtorEq,
      false_and, or_false]
    exact ⟨fun ⟨subscribed, other⟩ => ⟨Ne.symm other, subscribed⟩,
      fun ⟨other, subscribed⟩ => ⟨subscribed, Ne.symm other⟩⟩
  | register key other =>
    rw [apply, mem_subscribers_register]
    simp only [removes, true_and, register.injEq]
    refine or_congr_right ⟨?_, ?_⟩
    · rintro ⟨connected, rfl, rfl⟩
      exact ⟨⟨rfl, rfl⟩, connected⟩
    · rintro ⟨⟨rfl, rfl⟩, connected⟩
      exact ⟨connected, rfl, rfl⟩
  | drain =>
    refine iff_of_false List.not_mem_nil ?_
    simp [removes]

theorem sound_apply (sound : registry.Sound) (change : Change Connection) :
    (change.apply registry).Sound := by
  cases change with
  | add id connection => exact sound.add id connection
  | remove id => exact sound.remove id
  | register mac id => exact sound.register mac id
  | drain => exact sound_empty

end Change

/-- The registry that changes make of a new one. -/
def ofChanges (changes : List (Change Connection)) : Registry Connection :=
  changes.foldl Change.apply ∅

variable {changes : List (Change Connection)} {change : Change Connection} {id : ClientId}
  {mac : MacAddress}

theorem ofChanges_concat :
    (ofChanges (changes ++ [change]) : Registry Connection) = change.apply (ofChanges changes) := by
  simp [ofChanges]

theorem sound_ofChanges (changes : List (Change Connection)) : (ofChanges changes).Sound := by
  induction changes using List.reverseRecOn with
  | nil => exact sound_empty
  | append_singleton changes change ih =>
    rw [ofChanges_concat]
    exact Change.sound_apply ih change

/-! ### What a history says of a client -/

/-- The changes after the last one that removed a client. -/
def sinceRemoval (id : ClientId) (changes : List (Change Connection)) :
    List (Change Connection) :=
  changes.rtakeWhile fun change => !change.removes id

/-- The connection under which a client was first added since it was last removed. -/
def firstAdded? (id : ClientId) (changes : List (Change Connection)) : Option Connection :=
  (sinceRemoval id changes).findSome? (Change.added? id)

def stay (id : ClientId) (changes : List (Change Connection)) : List (Change Connection) :=
  (sinceRemoval id changes).dropWhile fun change => (change.added? id).isNone

theorem sinceRemoval_concat : sinceRemoval id (changes ++ [change]) =
    if change.removes id then [] else sinceRemoval id changes ++ [change] := by
  rw [sinceRemoval, List.rtakeWhile_concat]
  cases change.removes id <;> rfl

theorem firstAdded?_concat : firstAdded? id (changes ++ [change]) =
    if change.removes id then none else (firstAdded? id changes).or (change.added? id) := by
  rw [firstAdded?, sinceRemoval_concat]
  split
  · rfl
  · rw [List.findSome?_append, List.findSome?_singleton]
    rfl

theorem stay_eq_nil_iff : stay id changes = [] ↔ firstAdded? id changes = none := by
  simp [stay, firstAdded?, List.dropWhile_eq_nil_iff, List.findSome?_eq_none_iff]

theorem isSome_firstAdded?_iff : (firstAdded? id changes).isSome ↔
    ∃ connection, .add id connection ∈ sinceRemoval id changes := by
  rw [firstAdded?, List.findSome?_isSome_iff]
  simp only [Option.isSome_iff_exists, Change.added?_eq_some_iff]
  constructor
  · rintro ⟨_, addMem, connection, rfl⟩
    exact ⟨connection, addMem⟩
  · rintro ⟨connection, addMem⟩
    exact ⟨_, addMem, connection, rfl⟩

theorem register_mem_stay_concat : .register mac id ∈ stay id (changes ++ [change]) ↔
    change.removes id = false ∧ (.register mac id ∈ stay id changes
      ∨ change = .register mac id ∧ (firstAdded? id changes).isSome) := by
  rw [stay, sinceRemoval_concat]
  cases gone : change.removes id with
  | true => simp
  | false =>
    rw [if_neg Bool.false_ne_true, List.dropWhile_append]
    by_cases absent : stay id changes = []
    · -- The client is not there, so its stay can only begin with this change.
      have nobody := stay_eq_nil_iff.mp absent
      have begins : .register mac id ∉ [change].dropWhile fun change =>
          (change.added? id).isNone := by
        intro registers
        have same := List.mem_singleton.mp ((List.dropWhile_sublist _).subset registers)
        rw [← same] at registers
        simp [Change.added?] at registers
      rw [stay] at absent
      simp [stay, absent, nobody, begins]
    · have connected : (firstAdded? id changes).isSome := by
        rw [Option.isSome_iff_ne_none]
        exact mt stay_eq_nil_iff.mpr absent
      rw [stay] at absent
      rw [List.isEmpty_eq_false_iff.mpr absent, if_neg Bool.false_ne_true, List.mem_append,
        List.mem_singleton]
      simp [stay, connected, eq_comm]

/-! ### What a registry shows of its history -/

theorem get?_ofChanges (changes : List (Change Connection)) (id : ClientId) :
    (ofChanges changes).get? id = firstAdded? id changes := by
  induction changes using List.reverseRecOn with
  | nil => rfl
  | append_singleton changes change ih =>
    rw [ofChanges_concat, Change.get?_apply, ih, firstAdded?_concat]

theorem mem_subscribers_ofChanges (changes : List (Change Connection)) (mac : MacAddress)
    (id : ClientId) :
    id ∈ (ofChanges changes).subscribers mac ↔ .register mac id ∈ stay id changes := by
  induction changes using List.reverseRecOn with
  | nil => simp [ofChanges, stay, sinceRemoval]
  | append_singleton changes change ih =>
    rw [ofChanges_concat, Change.mem_subscribers_apply (sound_ofChanges changes), ih,
      get?_ofChanges, register_mem_stay_concat]

/-! ### Subscriptions as pairs -/

/-- Every address with every one of its subscribers. -/
def subscriptionPairs (registry : Registry Connection) : List (MacAddress × ClientId) :=
  registry.subscriptions.flatMap fun entry => entry.2.map (entry.1, ·)

theorem subscriptionCount_eq (registry : Registry Connection) :
    registry.subscriptionCount = registry.subscriptionPairs.length := by
  have counted (subscriptions : List (MacAddress × List ClientId)) (count : Nat) :
      subscriptions.foldl (fun count entry => count + entry.2.length) count
        = count + (subscriptions.flatMap fun entry => entry.2.map (entry.1, ·)).length := by
    induction subscriptions generalizing count with
    | nil => rfl
    | cons entry rest ih =>
      rw [List.foldl_cons, ih, List.flatMap_cons, List.length_append, List.length_map]
      omega
  rw [subscriptionCount, counted, Nat.zero_add, subscriptionPairs]

namespace Sound

theorem mem_subscriptionPairs (sound : registry.Sound) :
    (mac, id) ∈ registry.subscriptionPairs ↔ id ∈ registry.subscribers mac := by
  simp only [subscriptionPairs, List.mem_flatMap, List.mem_map, Prod.mk.injEq]
  constructor
  · rintro ⟨⟨key, subscribers⟩, entryMem, _, subscribed, rfl, rfl⟩
    rw [Registry.subscribers, lookup_eq_some_of_mem sound.keys_nodup entryMem]
    exact subscribed
  · intro subscribed
    rw [Registry.subscribers] at subscribed
    cases found : registry.subscriptions.lookup mac with
    | none => simp [found] at subscribed
    | some subscribers =>
      rw [found] at subscribed
      exact ⟨(mac, subscribers), mem_of_lookup_eq_some found, id, subscribed, rfl, rfl⟩

theorem nodup_subscriptionPairs (sound : registry.Sound) : registry.subscriptionPairs.Nodup := by
  rw [subscriptionPairs, List.nodup_flatMap]
  constructor
  · intro entry entryMem
    exact (sound.subscribers_nodup entry entryMem).map fun _ _ same => (Prod.mk.inj same).2
  · apply (List.pairwise_map.mp sound.keys_nodup).imp
    intro entry other different
    rw [Function.onFun, List.disjoint_left]
    intro pair pairMem otherMem
    rcases List.mem_map.mp pairMem with ⟨_, _, rfl⟩
    rcases List.mem_map.mp otherMem with ⟨_, _, same⟩
    exact different (Prod.mk.inj same).1.symm

/-- The number of subscriptions is the number of pairs of an address and one of its subscribers. -/
theorem subscriptionCount_eq_encard (sound : registry.Sound) :
    (registry.subscriptionCount : ℕ∞)
      = {pair : MacAddress × ClientId | pair.2 ∈ registry.subscribers pair.1}.encard := by
  have pairs : {pair : MacAddress × ClientId | pair.2 ∈ registry.subscribers pair.1}
      = registry.subscriptionPairs.toFinset := by
    ext ⟨mac, id⟩
    simp [sound.mem_subscriptionPairs]
  rw [pairs, Set.encard_coe_eq_coe_finsetCard,
    List.toFinset_card_of_nodup sound.nodup_subscriptionPairs, subscriptionCount_eq]

end Sound

/-! ### Changes without effect -/

theorem add_of_contains (connected : registry.contains id) (connection : Connection) :
    registry.add id connection = (false, registry) :=
  if_pos connected

theorem register_of_not_contains (absent : registry.contains id = false) (mac : MacAddress) :
    registry.register mac id = (false, registry) := by
  rw [Registry.register, absent]
  rfl

theorem Sound.remove_of_not_contains (sound : registry.Sound)
    (absent : registry.contains id = false) : registry.remove id = (none, registry) := by
  have unknown : registry.get? id = none := by
    rwa [contains, Option.isSome_eq_false_iff, Option.isNone_iff_eq_none] at absent
  exact Prod.ext unknown (sound.remove_of_absent (get?_eq_none_iff.mp unknown))

theorem withSubscriber_eq_self {subscriptions : List (MacAddress × List ClientId)}
    (subscribed : id ∈ (subscriptions.lookup mac).getD []) :
    withSubscriber mac id subscriptions = subscriptions := by
  induction subscriptions with
  | nil => simp at subscribed
  | cons entry rest ih =>
    rcases entry with ⟨key, subscribers⟩
    by_cases same : key = mac
    · subst same
      rw [List.lookup_cons_self, Option.getD_some] at subscribed
      rw [withSubscriber, if_pos rfl, if_pos subscribed]
    · rw [List.lookup_cons, beq_false_of_ne (Ne.symm same)] at subscribed
      rw [withSubscriber, if_neg same, ih subscribed]

theorem Sound.register_of_subscribed (sound : registry.Sound)
    (subscribed : id ∈ registry.subscribers mac) : registry.register mac id = (true, registry) := by
  have connected := mem_ids_iff.mp (sound.mem_ids_of_mem_subscribers subscribed)
  rw [Registry.register, if_pos connected, withSubscriber_eq_self subscribed]

/-! ### The whole registry -/

/-- What a registry shows, and what becomes of it, is what its history says. -/
structure Reflects (changes : List (Change Connection)) (registry : Registry Connection) :
    Prop where
  contains_iff (id : ClientId) : registry.contains id ↔
    ∃ connection, .add id connection ∈ sinceRemoval id changes
  get?_eq (id : ClientId) : registry.get? id = firstAdded? id changes
  mem_subscribers_iff (id : ClientId) (mac : MacAddress) :
    id ∈ registry.subscribers mac ↔ .register mac id ∈ stay id changes
  nodup_subscribers (mac : MacAddress) : (registry.subscribers mac).Nodup
  subscriptionCount_eq : (registry.subscriptionCount : ℕ∞)
    = {pair : MacAddress × ClientId | .register pair.1 pair.2 ∈ stay pair.2 changes}.encard
  remove_fst (id : ClientId) : (registry.remove id).1 = firstAdded? id changes
  /-- Everybody who is connected is handed back once. -/
  nodup_drain : (registry.drain.1.map (·.1)).Nodup
  mem_drain_iff (id : ClientId) (connection : Connection) :
    (id, connection) ∈ registry.drain.1 ↔ firstAdded? id changes = some connection
  /-- Who is connected cannot be added once more. -/
  add_again (id : ClientId) (connection : Connection) (connected : registry.contains id) :
    registry.add id connection = (false, registry)
  remove_again (id : ClientId) (absent : registry.contains id = false) :
    registry.remove id = (none, registry)
  register_again (mac : MacAddress) (id : ClientId)
    (subscribed : .register mac id ∈ stay id changes) : registry.register mac id = (true, registry)
  register_unknown (mac : MacAddress) (id : ClientId) (absent : registry.contains id = false) :
    registry.register mac id = (false, registry)
  /-- Who comes back has no subscriptions. -/
  returns (id : ClientId) (connection : Connection) (absent : registry.contains id = false)
    (mac : MacAddress) : id ∉ (registry.add id connection).2.subscribers mac

/-- A registry is determined by its history. -/
theorem reflects_ofChanges (changes : List (Change Connection)) :
    Reflects changes (ofChanges changes) := by
  have sound := sound_ofChanges changes
  have connections := get?_ofChanges changes
  have subscriptions := mem_subscribers_ofChanges changes
  constructor
  case contains_iff =>
    intro id
    rw [contains, connections, isSome_firstAdded?_iff]
  case get?_eq => exact connections
  case mem_subscribers_iff => exact fun id mac => subscriptions mac id
  case nodup_subscribers => exact sound.nodup_subscribers
  case subscriptionCount_eq =>
    rw [sound.subscriptionCount_eq_encard]
    simp only [subscriptions]
  case remove_fst => exact connections
  case nodup_drain => exact sound.ids_nodup
  case mem_drain_iff =>
    intro id connection
    rw [← connections, sound.get?_eq_some_iff]
    rfl
  case add_again => exact fun id connection connected => add_of_contains connected connection
  case remove_again => exact fun id absent => sound.remove_of_not_contains absent
  case register_again =>
    intro mac id registered
    exact sound.register_of_subscribed ((subscriptions mac id).mpr registered)
  case register_unknown => exact fun mac id absent => register_of_not_contains absent mac
  case returns =>
    intro id connection absent mac
    rw [subscribers_add]
    intro subscribed
    have connected := mem_ids_iff.mp (sound.mem_ids_of_mem_subscribers subscribed)
    rw [absent] at connected
    cases connected

end RadioRelay.Registry
