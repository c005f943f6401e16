import RadioRelay.Proofs.Registry

/-!
# The order of the tables

A registry lists its clients, the addresses and the subscribers of each address
in some order. Another order makes a registry that fits together just as well and
shows the same of every client. Conversely registries that show the same of all
clients and addresses differ in nothing but the order.
-/

namespace RadioRelay.Registry

variable {Connection : Type} {registry arranged other : Registry Connection}

/-- The same clients and the same subscriptions, perhaps listed in another order. -/
structure Rearranges (registry arranged : Registry Connection) : Prop where
  clients : registry.clients.Perm arranged.clients
  keys : (registry.subscriptions.map (·.1)).Perm (arranged.subscriptions.map (·.1))
  subscribers (mac : MacAddress) : (registry.subscribers mac).Perm (arranged.subscribers mac)

namespace Rearranges

theorem refl (registry : Registry Connection) : registry.Rearranges registry :=
  ⟨.refl _, .refl _, fun _ => .refl _⟩

theorem symm (same : registry.Rearranges arranged) : arranged.Rearranges registry :=
  ⟨same.clients.symm, same.keys.symm, fun mac => (same.subscribers mac).symm⟩

theorem trans (same : registry.Rearranges arranged) (next : arranged.Rearranges other) :
    registry.Rearranges other :=
  ⟨same.clients.trans next.clients, same.keys.trans next.keys,
    fun mac => (same.subscribers mac).trans (next.subscribers mac)⟩

theorem ids (same : registry.Rearranges arranged) : registry.ids.Perm arranged.ids :=
  same.clients.map _

end Rearranges

namespace Sound

/-- The addresses in the index are those that somebody is subscribed to. -/
theorem mem_keys_iff (sound : registry.Sound) {mac : MacAddress} :
    mac ∈ registry.subscriptions.map (·.1) ↔ registry.subscribers mac ≠ [] := by
  unfold Registry.subscribers
  constructor
  · intro keyMem
    rcases List.mem_map.mp keyMem with ⟨entry, entryMem, rfl⟩
    rw [lookup_eq_some_of_mem sound.keys_nodup entryMem]
    exact sound.subscribers_ne_nil entry entryMem
  · intro occupied
    cases found : registry.subscriptions.lookup mac with
    | none => simp [found] at occupied
    | some subscribers => exact List.mem_map_of_mem (mem_of_lookup_eq_some found)

theorem of_rearranges (sound : registry.Sound) (same : registry.Rearranges arranged) :
    arranged.Sound := by
  have keys := same.keys.nodup_iff.mp sound.keys_nodup
  have listed : ∀ entry ∈ arranged.subscriptions,
      (registry.subscribers entry.1).Perm entry.2 := by
    intro entry entryMem
    have shown : arranged.subscribers entry.1 = entry.2 := by
      rw [Registry.subscribers, lookup_eq_some_of_mem keys entryMem]
      rfl
    exact shown ▸ same.subscribers entry.1
  refine ⟨same.ids.nodup_iff.mp sound.ids_nodup, keys, ?_, ?_, ?_⟩
  · intro entry entryMem
    exact (listed entry entryMem).nodup_iff.mp (sound.nodup_subscribers entry.1)
  · intro entry entryMem nobody
    have keyMem := same.keys.mem_iff.mpr (List.mem_map_of_mem entryMem)
    apply sound.mem_keys_iff.mp keyMem
    rw [← List.perm_nil, ← nobody]
    exact listed entry entryMem
  · intro entry entryMem id subscribed
    apply same.ids.mem_iff.mp
    exact sound.mem_ids_of_mem_subscribers ((listed entry entryMem).mem_iff.mpr subscribed)

theorem get?_of_rearranges (sound : registry.Sound) (same : registry.Rearranges arranged)
    (id : ClientId) : registry.get? id = arranged.get? id := by
  apply Option.ext
  intro connection
  rw [sound.get?_eq_some_iff, (sound.of_rearranges same).get?_eq_some_iff, same.clients.mem_iff]

/-- Registries that show the same differ in the order of their tables. -/
theorem rearranges_of_views (sound : registry.Sound) (soundToo : other.Sound)
    (connections : ∀ id, registry.get? id = other.get? id)
    (subscribers : ∀ mac, (registry.subscribers mac).Perm (other.subscribers mac)) :
    registry.Rearranges other := by
  refine ⟨?_, ?_, subscribers⟩
  · rw [List.perm_ext_iff_of_nodup sound.ids_nodup.of_map soundToo.ids_nodup.of_map]
    rintro ⟨id, connection⟩
    rw [← sound.get?_eq_some_iff, ← soundToo.get?_eq_some_iff, connections]
  · rw [List.perm_ext_iff_of_nodup sound.keys_nodup soundToo.keys_nodup]
    intro mac
    rw [sound.mem_keys_iff, soundToo.mem_keys_iff, ← List.length_pos_iff, ← List.length_pos_iff,
      (subscribers mac).length_eq]

/-! ### Changes of rearranged tables -/

theorem add_fst_of_rearranges (sound : registry.Sound) (same : registry.Rearranges arranged)
    (id : ClientId) (connection : Connection) :
    (registry.add id connection).1 = (arranged.add id connection).1 := by
  unfold Registry.add contains
  rw [sound.get?_of_rearranges same]
  split <;> rfl

theorem rearranges_add (sound : registry.Sound) (same : registry.Rearranges arranged)
    (id : ClientId) (connection : Connection) :
    (registry.add id connection).2.Rearranges (arranged.add id connection).2 := by
  apply (sound.add id connection).rearranges_of_views ((sound.of_rearranges same).add id connection)
  · intro other
    simp only [get?_add, sound.get?_of_rearranges same]
  · intro mac
    simpa using same.subscribers mac

theorem rearranges_removeAll (sound : registry.Sound) (same : registry.Rearranges arranged)
    {gone goneToo : List ClientId} (alike : gone.Perm goneToo) :
    (registry.removeAll gone).2.Rearranges (arranged.removeAll goneToo).2 := by
  have soundToo := sound.of_rearranges same
  apply (sound.removeAll gone).rearranges_of_views (soundToo.removeAll goneToo)
  · intro other
    simp only [get?_removeAll, sound.get?_of_rearranges same, alike.mem_iff]
  · intro mac
    rw [sound.subscribers_removeAll, soundToo.subscribers_removeAll]
    simp only [alike.mem_iff]
    exact (same.subscribers mac).filter _

end Sound

end RadioRelay.Registry
