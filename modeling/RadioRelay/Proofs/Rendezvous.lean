import RadioRelay.Proofs.Startup

/-!
# How those of one name meet

A router binds the address of its name, and a client connects to the address of the name it was
given. The check of a configuration lets through exactly the names that have an address. The part of
an address that the system looks at is a zero and then the bytes of the name, none more and none
less, so two addresses are the same only if the names are (`LocalAddress.rendezvous`).
-/

namespace RadioRelay

open Program Fallible

/-- Writes bytes into a field from an index on. Nothing comes of it if one of them has no place. -/
def Bytes.overwrite? (field : Bytes) (index : Nat) : Bytes → Option Bytes
  | [] => some field
  | byte :: rest =>
    if index < field.length then overwrite? (field.set index byte) (index + 1) rest else none

theorem Bytes.overwrite?_append {front room bytes : Bytes} (fits : bytes.length ≤ room.length) :
    overwrite? (front ++ room) front.length bytes
      = some (front ++ bytes ++ room.drop bytes.length) := by
  induction bytes generalizing front room with
  | nil => simp [overwrite?]
  | cons byte bytes ih =>
    rcases room with _ | ⟨old, room⟩
    · cases fits
    have inside : front.length < (front ++ old :: room).length := by simp
    have replaced : (front ++ old :: room).set front.length byte = front ++ [byte] ++ room := by
      simp
    have later := @ih (front ++ [byte]) room (Nat.le_of_succ_le_succ fits)
    rw [List.length_append, List.length_singleton] at later
    rw [overwrite?, if_pos inside, replaced, later]
    simp

theorem toUTF8_inj {first second : String} :
    first.toUTF8.toList = second.toUTF8.toList ↔ first.toUTF8 = second.toUTF8 := by
  rw [toList_toUTF8, toList_toUTF8, Array.toList_inj]
  exact ⟨ByteArray.ext, congrArg ByteArray.data⟩

namespace LocalAddress

variable {name : String} {address : LocalAddress}

/-- The address of an abstract name, whose bytes are written one after the other into a field of
zeros. -/
def ofNameIndexed (name : String) : Option (Except Failure LocalAddress) := do
  let bytes := name.toUTF8.toList
  if bytes.isEmpty then return .error (.of .emptySocketName)
  if maxSocketName < bytes.length then return .error (.of (.longSocketName name))
  let path ← Bytes.overwrite? (List.replicate pathCapacity 0) 1 bytes
  return .ok ⟨path, 2 + 1 + bytes.length⟩

/-- The address is as long as the zero and the name are, which is not longer than the path field,
and the system looks at the zero and the name. -/
structure Spells (address : LocalAddress) (name : String) : Prop where
  path : address.path.length = pathCapacity
  length : address.length = 2 + (1 + name.utf8ByteSize)
  inside : address.length ≤ 2 + pathCapacity
  key : address.key = 0 :: name.toUTF8.toList

/-- No byte of a name that is let through is written behind the end of the field. -/
theorem ofNameIndexed_eq (name : String) : ofNameIndexed name = some (ofName name) := by
  unfold ofNameIndexed ofName
  by_cases empty : name.toUTF8.toList.isEmpty
  · simp only [if_pos empty]
    rfl
  · by_cases long : maxSocketName < name.toUTF8.toList.length
    · simp only [if_neg empty, if_pos long]
      rfl
    · have room : name.toUTF8.toList.length
          ≤ (List.replicate (pathCapacity - 1) 0 : Bytes).length := by
        rw [List.length_replicate]
        unfold maxSocketName at long
        unfold pathCapacity
        omega
      have written := @Bytes.overwrite?_append [0] _ _ room
      rw [List.drop_replicate] at written
      have field : List.replicate pathCapacity (0 : UInt8)
          = [0] ++ List.replicate (pathCapacity - 1) 0 := rfl
      simp only [if_neg empty, if_neg long, field]
      change (Bytes.overwrite? _ [(0 : UInt8)].length _ >>= _) = _
      rw [written]
      rfl

theorem spells_of_ofName (named : ofName name = .ok address) : address.Spells name := by
  have key := key_of_ofName named
  rcases ofName_eq_ok_iff.mp named with ⟨⟨-, short⟩, rfl⟩
  unfold maxSocketName at short
  have length := length_toUTF8 name
  refine ⟨?_, by dsimp only; omega, by dsimp only [pathCapacity]; omega, key⟩
  simp only [List.length_append, List.length_cons, List.length_replicate, pathCapacity, length]
  omega

/-- The system keeps two addresses apart exactly if their names differ in some byte. -/
theorem key_inj {first second : String} {bound reached : LocalAddress}
    (host : ofName first = .ok bound) (guest : ofName second = .ok reached) :
    bound.key = reached.key ↔ first.toUTF8 = second.toUTF8 := by
  rw [(spells_of_ofName host).key, (spells_of_ofName guest).key, List.cons_inj_right, toUTF8_inj]

end LocalAddress

/-- The address that is handed to the system to be bound or reached. -/
def Exchange.address? : Exchange → Option LocalAddress
  | ⟨.bind _ (.address address), _⟩ => some address
  | ⟨.connect _ address, _⟩ => some address
  | _ => none

/-- A socket is opened, and then this one address is handed to the system. Only if there is no
socket, there is nothing to be done with the address. -/
def Addresses (address : LocalAddress) (trace : Trace) : Prop :=
  trace.filterMap Exchange.address? = [address]
    ∨ ∃ blocking errno, trace = [⟨.openSocket .process blocking, .error errno⟩]

section Addressing

variable {name : String} {address : LocalAddress} {trace : Trace}

theorem Listener.addresses_of_runs {backlog : Int} {outcome : Except Failure Listener}
    (named : LocalAddress.ofName name = .ok address)
    (runs : (Listener.bind name backlog).run.Runs trace outcome) : Addresses address trace := by
  rw [bind_of_ok backlog named] at runs
  rcases runs with ⟨errno | socket, _, rfl, runs⟩
  · rcases runs with ⟨rfl, -⟩
    exact Or.inr ⟨false, errno, rfl⟩
  rcases runs with ⟨_ | _, _, rfl, runs⟩
  · rcases runs with ⟨_, _, rfl, rfl, -⟩
    exact Or.inl rfl
  rcases runs with ⟨_ | _, _, rfl, runs⟩
  · rcases runs with ⟨_, _, rfl, rfl, -⟩
    exact Or.inl rfl
  · rcases runs with ⟨rfl, -⟩
    exact Or.inl rfl

theorem Connection.addresses_of_runs {outcome : Except Failure Connection}
    (named : LocalAddress.ofName name = .ok address)
    (runs : (Connection.connect name).run.Runs trace outcome) : Addresses address trace := by
  unfold Connection.connect at runs
  rw [named] at runs
  rcases runs with ⟨errno | socket, _, rfl, runs⟩
  · rcases runs with ⟨rfl, -⟩
    exact Or.inr ⟨true, errno, rfl⟩
  rcases runs with ⟨_ | _, _, rfl, runs⟩
  · rcases runs with ⟨_, _, rfl, rfl, -⟩
    exact Or.inl rfl
  · rcases runs with ⟨rfl, -⟩
    exact Or.inl rfl

theorem silent_of_refused {failure : Failure}
    (refused : LocalAddress.ofName name = .error failure) :
    (∀ backlog trace outcome, (Listener.bind name backlog).run.Runs trace outcome ↔
        trace = [] ∧ outcome = .error failure)
      ∧ ∀ trace outcome, (Connection.connect name).run.Runs trace outcome ↔
        trace = [] ∧ outcome = .error failure := by
  constructor
  · intro backlog trace outcome
    rw [Listener.bind_of_error backlog refused]
    rfl
  · intro trace outcome
    unfold Connection.connect
    rw [refused]
    rfl

end Addressing

/-- A name has an address exactly if an otherwise valid configuration may contain it. Its bytes then
fit the path field, and the system looks at a zero and those bytes, none more and none less. Whoever
binds the name or connects to it hands this address to the system. So a listener and a client meet
exactly if their names are the same byte for byte. -/
theorem LocalAddress.rendezvous {configuration : Configuration}
    (valid : configuration.validate = .ok ()) :
    (∀ name, ((∃ address, ofName name = .ok address) ↔
          { configuration with socketName := name }.validate = .ok ())
        ∧ ofNameIndexed name = some (ofName name))
      ∧ (∀ name address, ofName name = .ok address → address.Spells name
        ∧ (∀ backlog trace outcome, (Listener.bind name backlog).run.Runs trace outcome →
          Addresses address trace)
        ∧ ∀ trace outcome, (Connection.connect name).run.Runs trace outcome →
          Addresses address trace)
      ∧ (∀ name failure, ofName name = .error failure →
        (∀ backlog trace outcome, (Listener.bind name backlog).run.Runs trace outcome ↔
            trace = [] ∧ outcome = .error failure)
          ∧ ∀ trace outcome, (Connection.connect name).run.Runs trace outcome ↔
            trace = [] ∧ outcome = .error failure)
      ∧ ∀ host guest bound reached, ofName host = .ok bound → ofName guest = .ok reached →
        (bound.key = reached.key ↔ host.toUTF8 = guest.toUTF8) := by
  refine ⟨fun name => ⟨?_, ofNameIndexed_eq name⟩, ?_, fun _ _ => silent_of_refused,
    fun _ _ _ _ => key_inj⟩
  · rw [Configuration.validate_eq_ok_iff] at valid ⊢
    constructor
    · rintro ⟨address, named⟩
      exact { valid with socketName := (ofName_eq_ok_iff.mp named).1 }
    · intro limits
      exact ⟨_, ofName_eq_ok_iff.mpr ⟨limits.socketName, rfl⟩⟩
  · intro name address named
    exact ⟨spells_of_ofName named, fun _ _ _ => Listener.addresses_of_runs named,
      fun _ _ => Connection.addresses_of_runs named⟩

/-- A name that another one is the beginning of, with a zero as the next byte, has an address of its
own. -/
theorem LocalAddress.rendezvous_of_prefix : ∃ bound reached,
    ofName "relay" = .ok bound ∧ ofName "relay\x00" = .ok reached ∧ bound.path = reached.path
      ∧ bound.key ≠ reached.key := by
  have valid : (Configuration.standard 4096).validate = .ok () := by decide
  have meets := rendezvous valid
  rcases (meets.1 "relay").1.mpr (by decide) with ⟨bound, host⟩
  rcases (meets.1 "relay\x00").1.mpr (by decide) with ⟨reached, guest⟩
  refine ⟨bound, reached, host, guest, ?_, ?_⟩
  · rcases ofName_eq_ok_iff.mp host with ⟨-, rfl⟩
    rcases ofName_eq_ok_iff.mp guest with ⟨-, rfl⟩
    rw [toList_toUTF8, toList_toUTF8]
    decide
  · rw [Ne, meets.2.2.2 _ _ _ _ host guest]
    decide

end RadioRelay
