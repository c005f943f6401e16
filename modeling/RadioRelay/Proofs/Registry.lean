import Mathlib.Data.List.Nodup
import RadioRelay.Routing

/-!
# What the registry holds after each change

The registry is seen through two views: the connection of a client
(`Registry.get?`) and the subscribers of an address (`Registry.subscribers`).
There is one equation for every operation and view. `Registry.Sound` says that
the two tables fit together: nobody is in a table twice, no address is kept
without subscribers, and only connected clients are subscribed. Every operation
preserves it.
-/

namespace RadioRelay.Registry

variable {Connection : Type} {registry : Registry Connection}

/-- The tables fit together. -/
structure Sound (registry : Registry Connection) : Prop where
  ids_nodup : registry.ids.Nodup
  keys_nodup : (registry.subscriptions.map (·.1)).Nodup
  subscribers_nodup : ∀ entry ∈ registry.subscriptions, entry.2.Nodup
  subscribers_ne_nil : ∀ entry ∈ registry.subscriptions, entry.2 ≠ []
  subscribers_connected : ∀ entry ∈ registry.subscriptions, ∀ id ∈ entry.2, id ∈ registry.ids

section Views

theorem lookup_eq_some_of_mem {α β : Type} [DecidableEq α] {entries : List (α × β)} {key : α}
    {value : β} (keys : (entries.map (·.1)).Nodup) (entryMem : (key, value) ∈ entries) :
    entries.lookup key = some value := by
  induction entries with
  | nil => cases entryMem
  | cons entry entries ih =>
    rcases entry with ⟨headKey, headValue⟩
    simp only [List.map_cons, List.nodup_cons] at keys
    rcases List.mem_cons.mp entryMem with same | later
    · cases same
      simp
    · have other : key ≠ headKey := by
        rintro rfl
        exact keys.1 (List.mem_map_of_mem later)
      rw [List.lookup_cons, beq_false_of_ne other]
      exact ih keys.2 later

theorem mem_of_lookup_eq_some {α β : Type} [DecidableEq α] {entries : List (α × β)} {key : α}
    {value : β} (found : entries.lookup key = some value) : (key, value) ∈ entries := by
  rcases List.lookup_eq_some_iff.mp found with ⟨before, after, rfl, -⟩
  simp

theorem mem_ids_iff {id : ClientId} : id ∈ registry.ids ↔ registry.contains id := by
  rw [contains, get?, List.lookup_isSome_iff]
  simp only [ids, List.mem_map, beq_iff_eq]
  constructor
  · rintro ⟨entry, entryMem, rfl⟩
    exact ⟨entry, entryMem, rfl⟩
  · rintro ⟨entry, entryMem, rfl⟩
    exact ⟨entry, entryMem, rfl⟩

theorem get?_eq_none_iff {id : ClientId} : registry.get? id = none ↔ id ∉ registry.ids := by
  rw [mem_ids_iff, contains]
  cases registry.get? id <;> simp

theorem mem_clients_of_get? {id : ClientId} {connection : Connection}
    (found : registry.get? id = some connection) : (id, connection) ∈ registry.clients :=
  mem_of_lookup_eq_some found

theorem mem_ids_of_get? {id : ClientId} {connection : Connection}
    (found : registry.get? id = some connection) : id ∈ registry.ids :=
  List.mem_map_of_mem (mem_clients_of_get? found)

namespace Sound

theorem get?_eq_some_iff (sound : registry.Sound) {id : ClientId} {connection : Connection} :
    registry.get? id = some connection ↔ (id, connection) ∈ registry.clients :=
  ⟨mem_of_lookup_eq_some, lookup_eq_some_of_mem sound.ids_nodup⟩

theorem nodup_subscribers (sound : registry.Sound) (mac : MacAddress) :
    (registry.subscribers mac).Nodup := by
  unfold subscribers
  cases found : registry.subscriptions.lookup mac with
  | none => simp
  | some subscribers => exact sound.subscribers_nodup _ (mem_of_lookup_eq_some found)

theorem mem_ids_of_mem_subscribers (sound : registry.Sound) {mac : MacAddress} {id : ClientId}
    (subscribed : id ∈ registry.subscribers mac) : id ∈ registry.ids := by
  unfold subscribers at subscribed
  cases found : registry.subscriptions.lookup mac with
  | none => simp [found] at subscribed
  | some subscribers =>
    rw [found] at subscribed
    exact sound.subscribers_connected _ (mem_of_lookup_eq_some found) id subscribed

end Sound

end Views

section Operations

theorem sound_empty : (∅ : Registry Connection).Sound := by
  refine ⟨?_, ?_, ?_, ?_, ?_⟩ <;> simp [EmptyCollection.emptyCollection, empty, ids]

@[simp]
theorem get?_empty (id : ClientId) : (∅ : Registry Connection).get? id = none := rfl

@[simp]
theorem subscribers_empty (mac : MacAddress) : (∅ : Registry Connection).subscribers mac = [] := rfl

/-! ### Adding a client -/

theorem get?_add (id other : ClientId) (connection : Connection) :
    (registry.add id connection).2.get? other =
      if other = id ∧ registry.get? id = none then some connection else registry.get? other := by
  unfold add contains
  cases found : registry.get? id with
  | some old => simp
  | none =>
    simp only [Option.isSome_none, Bool.false_eq_true, if_false, and_true, get?,
      List.lookup_append]
    by_cases same : other = id
    · subst same
      rw [get?] at found
      simp [found]
    · rw [List.lookup_cons, beq_false_of_ne same]
      simp [same]

theorem ids_add (id : ClientId) (connection : Connection) :
    (registry.add id connection).2.ids =
      if id ∈ registry.ids then registry.ids else registry.ids ++ [id] := by
  unfold add
  by_cases known : registry.contains id
  · simp [known, mem_ids_iff.mpr known]
  · rw [if_neg known, if_neg (mem_ids_iff.not.mpr known)]
    simp [ids]

@[simp]
theorem subscribers_add (id : ClientId) (connection : Connection) (mac : MacAddress) :
    (registry.add id connection).2.subscribers mac = registry.subscribers mac := by
  unfold add
  split <;> rfl

@[simp]
theorem subscriptions_add (id : ClientId) (connection : Connection) :
    (registry.add id connection).2.subscriptions = registry.subscriptions := by
  unfold add
  split <;> rfl

theorem Sound.add (sound : registry.Sound) (id : ClientId) (connection : Connection) :
    (registry.add id connection).2.Sound := by
  have kept : ∀ known ∈ registry.ids, known ∈ (registry.add id connection).2.ids := by
    intro known knownMem
    rw [ids_add]
    split
    · exact knownMem
    · exact List.mem_append_left _ knownMem
  refine ⟨?_, ?_, ?_, ?_, ?_⟩
  · rw [ids_add]
    split
    · exact sound.ids_nodup
    · rw [List.nodup_append]
      refine ⟨sound.ids_nodup, List.nodup_singleton id, ?_⟩
      intro known knownMem new newMem same
      rw [List.mem_singleton] at newMem
      subst newMem same
      contradiction
  · simpa using sound.keys_nodup
  · simpa using sound.subscribers_nodup
  · simpa using sound.subscribers_ne_nil
  · intro entry entryMem subscriber subscriberMem
    rw [subscriptions_add] at entryMem
    exact kept _ (sound.subscribers_connected entry entryMem subscriber subscriberMem)

/-! ### Subscribing a client -/

@[simp]
theorem clients_register (mac : MacAddress) (id : ClientId) :
    (registry.register mac id).2.clients = registry.clients := by
  unfold register
  split <;> rfl

@[simp]
theorem get?_register (mac : MacAddress) (id other : ClientId) :
    (registry.register mac id).2.get? other = registry.get? other := by
  simp [get?]

@[simp]
theorem ids_register (mac : MacAddress) (id : ClientId) :
    (registry.register mac id).2.ids = registry.ids := by
  simp [ids]

theorem lookup_withSubscriber (mac key : MacAddress) (id : ClientId)
    (subscriptions : List (MacAddress × List ClientId)) :
    ((withSubscriber mac id subscriptions).lookup key).getD [] =
      if key = mac ∧ id ∉ (subscriptions.lookup mac).getD [] then
        (subscriptions.lookup mac).getD [] ++ [id]
      else (subscriptions.lookup key).getD [] := by
  induction subscriptions with
  | nil =>
    by_cases same : key = mac
    · simp [withSubscriber, same]
    · simp [withSubscriber, List.lookup_cons, beq_false_of_ne same, same]
  | cons entry rest ih =>
    rcases entry with ⟨headKey, subscribers⟩
    by_cases headSame : headKey = mac
    · subst headSame
      by_cases same : key = headKey
      · subst same
        by_cases known : id ∈ subscribers <;> simp [withSubscriber, known]
      · simp [withSubscriber, List.lookup_cons, beq_false_of_ne same, same]
    · have other : mac ≠ headKey := Ne.symm headSame
      simp only [withSubscriber, if_neg headSame, List.lookup_cons, beq_false_of_ne other]
      by_cases same : key = headKey
      · subst same
        simp [headSame]
      · rw [beq_false_of_ne same]
        exact ih

/-- A subscription adds a connected client to the subscribers of one address, once. -/
theorem subscribers_register (mac key : MacAddress) (id : ClientId) :
    (registry.register mac id).2.subscribers key =
      if registry.contains id ∧ key = mac ∧ id ∉ registry.subscribers mac then
        registry.subscribers mac ++ [id]
      else registry.subscribers key := by
  unfold register
  by_cases connected : registry.contains id
  · rw [if_pos connected]
    simpa [subscribers, connected] using lookup_withSubscriber mac key id registry.subscriptions
  · simp [connected]

theorem keys_withSubscriber (mac : MacAddress) (id : ClientId)
    (subscriptions : List (MacAddress × List ClientId)) :
    (withSubscriber mac id subscriptions).map (·.1) =
      if mac ∈ subscriptions.map (·.1) then subscriptions.map (·.1)
      else subscriptions.map (·.1) ++ [mac] := by
  induction subscriptions with
  | nil => rfl
  | cons entry rest ih =>
    rcases entry with ⟨key, subscribers⟩
    by_cases same : key = mac
    · simp [withSubscriber, same]
    · simp only [withSubscriber, if_neg same, List.map_cons, ih, List.mem_cons,
        Ne.symm same, false_or]
      split <;> rfl

theorem mem_withSubscriber {mac : MacAddress} {id : ClientId}
    {subscriptions : List (MacAddress × List ClientId)} {entry : MacAddress × List ClientId}
    (entryMem : entry ∈ withSubscriber mac id subscriptions) :
    entry ∈ subscriptions ∨ entry = (mac, [id])
      ∨ ∃ old, (mac, old) ∈ subscriptions ∧ id ∉ old ∧ entry = (mac, old ++ [id]) := by
  induction subscriptions with
  | nil =>
    rw [withSubscriber, List.mem_singleton] at entryMem
    exact Or.inr (Or.inl entryMem)
  | cons head rest ih =>
    rcases head with ⟨key, subscribers⟩
    by_cases same : key = mac
    · subst same
      rw [withSubscriber, if_pos rfl] at entryMem
      rcases List.mem_cons.mp entryMem with rfl | later
      · by_cases known : id ∈ subscribers
        · simp [known]
        · rw [if_neg known]
          exact Or.inr (Or.inr ⟨subscribers, by simp, known, rfl⟩)
      · exact Or.inl (List.mem_cons_of_mem _ later)
    · rw [withSubscriber, if_neg same] at entryMem
      rcases List.mem_cons.mp entryMem with rfl | later
      · simp
      · rcases ih later with old | new | ⟨subscribed, known, fresh, rfl⟩
        · exact Or.inl (List.mem_cons_of_mem _ old)
        · exact Or.inr (Or.inl new)
        · exact Or.inr (Or.inr ⟨subscribed, List.mem_cons_of_mem _ known, fresh, rfl⟩)

theorem Sound.register (sound : registry.Sound) (mac : MacAddress) (id : ClientId) :
    (registry.register mac id).2.Sound := by
  by_cases connected : registry.contains id
  · have subscriptions : (registry.register mac id).2.subscriptions
        = withSubscriber mac id registry.subscriptions := by simp [Registry.register, connected]
    have idMem : id ∈ registry.ids := mem_ids_iff.mpr connected
    -- An entry of the new index is an old one, a new one of the client alone, or an old one with
    -- the client at its end.
    refine ⟨?_, ?_, ?_, ?_, ?_⟩
    · simpa using sound.ids_nodup
    · rw [subscriptions, keys_withSubscriber]
      split
      next => exact sound.keys_nodup
      next fresh =>
        rw [List.nodup_append]
        refine ⟨sound.keys_nodup, List.nodup_singleton mac, ?_⟩
        rintro key keyMem new newMem rfl
        rw [List.mem_singleton] at newMem
        exact fresh (newMem ▸ keyMem)
    · intro entry entryMem
      rw [subscriptions] at entryMem
      rcases mem_withSubscriber entryMem with old | rfl | ⟨known, oldMem, fresh, rfl⟩
      · exact sound.subscribers_nodup entry old
      · exact List.nodup_singleton id
      · rw [List.nodup_append]
        refine ⟨sound.subscribers_nodup _ oldMem, List.nodup_singleton id, ?_⟩
        rintro subscriber subscriberMem new newMem rfl
        rw [List.mem_singleton] at newMem
        exact fresh (newMem ▸ subscriberMem)
    · intro entry entryMem
      rw [subscriptions] at entryMem
      rcases mem_withSubscriber entryMem with old | rfl | ⟨known, -, -, rfl⟩
      · exact sound.subscribers_ne_nil entry old
      · simp
      · simp
    · intro entry entryMem subscriber subscriberMem
      rw [subscriptions] at entryMem
      rw [ids_register]
      rcases mem_withSubscriber entryMem with old | rfl | ⟨known, oldMem, -, rfl⟩
      · exact sound.subscribers_connected entry old subscriber subscriberMem
      · rw [List.mem_singleton] at subscriberMem
        exact subscriberMem ▸ idMem
      · rcases List.mem_append.mp subscriberMem with early | new
        · exact sound.subscribers_connected _ oldMem subscriber early
        · rw [List.mem_singleton] at new
          exact new ▸ idMem
  · simpa [Registry.register, connected] using sound

/-! ### Removing a client -/

@[simp]
theorem remove_fst (id : ClientId) : (registry.remove id).1 = registry.get? id := rfl

theorem ids_remove (id : ClientId) :
    (registry.remove id).2.ids = registry.ids.filter (· ≠ id) := by
  simp only [remove, ids, List.filter_map]
  rfl

theorem mem_ids_remove {id other : ClientId} :
    other ∈ (registry.remove id).2.ids ↔ other ∈ registry.ids ∧ other ≠ id := by
  rw [ids_remove]
  simp

theorem get?_remove (id other : ClientId) :
    (registry.remove id).2.get? other =
      if other = id then none else registry.get? other := by
  simp only [remove, get?]
  induction registry.clients with
  | nil => simp
  | cons entry rest ih =>
    rcases entry with ⟨key, connection⟩
    by_cases keySame : key = id
    · subst keySame
      simp only [ne_eq, not_true_eq_false, decide_false, Bool.false_eq_true, not_false_eq_true,
        List.filter_cons_of_neg, List.lookup_cons] at ih ⊢
      rw [ih]
      by_cases same : other = key
      · simp [same]
      · simp [same, beq_false_of_ne same]
    · simp only [ne_eq, keySame, not_false_eq_true, decide_true, List.filter_cons_of_pos,
        List.lookup_cons] at ih ⊢
      rw [ih]
      by_cases same : other = id
      · subst same
        simp [beq_false_of_ne (Ne.symm keySame)]
      · simp [same]

theorem withoutSubscriber_cons (id : ClientId) (mac : MacAddress) (subscribers : List ClientId)
    (rest : List (MacAddress × List ClientId)) :
    withoutSubscriber id ((mac, subscribers) :: rest) =
      if subscribers.filter (· ≠ id) = [] then withoutSubscriber id rest
      else (mac, subscribers.filter (· ≠ id)) :: withoutSubscriber id rest := by
  simp only [withoutSubscriber, List.filterMap_cons]
  cases subscribers.filter (· ≠ id) <;> rfl

theorem lookup_withoutSubscriber (id : ClientId) (mac : MacAddress)
    {subscriptions : List (MacAddress × List ClientId)}
    (keys : (subscriptions.map (·.1)).Nodup) :
    ((withoutSubscriber id subscriptions).lookup mac).getD [] =
      ((subscriptions.lookup mac).getD []).filter (· ≠ id) := by
  induction subscriptions with
  | nil => rfl
  | cons entry rest ih =>
    rcases entry with ⟨key, subscribers⟩
    simp only [List.map_cons, List.nodup_cons] at keys
    have later := ih keys.2
    rw [withoutSubscriber_cons]
    by_cases same : mac = key
    · subst same
      rw [List.lookup_cons_self, Option.getD_some]
      split
      next nobodyLeft =>
        -- Nobody is left, and no later entry is about the same address.
        have absent : rest.lookup mac = none := by
          rw [List.lookup_eq_none_iff]
          intro entry entryMem
          rw [bne_iff_ne]
          rintro rfl
          exact keys.1 (List.mem_map_of_mem entryMem)
        rw [later, absent, nobodyLeft]
        rfl
      next => rw [List.lookup_cons_self, Option.getD_some]
    · rw [List.lookup_cons, beq_false_of_ne same]
      split
      · exact later
      · rw [List.lookup_cons, beq_false_of_ne same]
        exact later

/-- Removing a client takes it out of the subscribers of every address. -/
theorem Sound.subscribers_remove (sound : registry.Sound) (id : ClientId) (mac : MacAddress) :
    (registry.remove id).2.subscribers mac = (registry.subscribers mac).filter (· ≠ id) :=
  lookup_withoutSubscriber id mac sound.keys_nodup

theorem mem_withoutSubscriber {id : ClientId} {subscriptions : List (MacAddress × List ClientId)}
    {entry : MacAddress × List ClientId} (entryMem : entry ∈ withoutSubscriber id subscriptions) :
    ∃ old, (entry.1, old) ∈ subscriptions ∧ entry.2 = old.filter (· ≠ id) ∧ entry.2 ≠ [] := by
  induction subscriptions with
  | nil => cases entryMem
  | cons head rest ih =>
    rcases head with ⟨mac, subscribers⟩
    rw [withoutSubscriber_cons] at entryMem
    have later : entry ∈ withoutSubscriber id rest → ∃ old,
        (entry.1, old) ∈ (mac, subscribers) :: rest ∧ entry.2 = old.filter (· ≠ id)
          ∧ entry.2 ≠ [] := by
      intro restMem
      rcases ih restMem with ⟨old, oldMem, kept⟩
      exact ⟨old, List.mem_cons_of_mem _ oldMem, kept⟩
    split at entryMem
    next => exact later entryMem
    next somebodyLeft =>
      rcases List.mem_cons.mp entryMem with rfl | restMem
      · exact ⟨subscribers, by simp, rfl, somebodyLeft⟩
      · exact later restMem

theorem keys_withoutSubscriber_sublist (id : ClientId)
    (subscriptions : List (MacAddress × List ClientId)) :
    ((withoutSubscriber id subscriptions).map (·.1)).Sublist (subscriptions.map (·.1)) := by
  induction subscriptions with
  | nil => simp [withoutSubscriber]
  | cons entry rest ih =>
    rcases entry with ⟨mac, subscribers⟩
    rw [withoutSubscriber_cons]
    split
    · exact ih.cons mac
    · exact ih.cons_cons mac

theorem Sound.remove (sound : registry.Sound) (id : ClientId) : (registry.remove id).2.Sound := by
  refine ⟨?_, ?_, ?_, ?_, ?_⟩
  · rw [ids_remove]
    exact sound.ids_nodup.filter _
  · exact sound.keys_nodup.sublist (keys_withoutSubscriber_sublist id _)
  · intro entry entryMem
    rcases mem_withoutSubscriber entryMem with ⟨old, oldMem, remaining, -⟩
    rw [remaining]
    exact (sound.subscribers_nodup _ oldMem).filter _
  · intro entry entryMem
    rcases mem_withoutSubscriber entryMem with ⟨_, _, _, nonempty⟩
    exact nonempty
  · intro entry entryMem subscriber subscriberMem
    rcases mem_withoutSubscriber entryMem with ⟨old, oldMem, remaining, -⟩
    rw [remaining, List.mem_filter] at subscriberMem
    rw [mem_ids_remove]
    exact ⟨sound.subscribers_connected _ oldMem subscriber subscriberMem.1,
      by simpa using subscriberMem.2⟩

theorem withoutSubscriber_withSubscriber (mac : MacAddress) (id : ClientId)
    (subscriptions : List (MacAddress × List ClientId)) :
    withoutSubscriber id (withSubscriber mac id subscriptions)
      = withoutSubscriber id subscriptions := by
  induction subscriptions with
  | nil => simp [withSubscriber, withoutSubscriber]
  | cons entry rest ih =>
    rcases entry with ⟨key, subscribers⟩
    by_cases same : key = mac
    · have left : (if id ∈ subscribers then subscribers else subscribers ++ [id]).filter (· ≠ id)
          = subscribers.filter (· ≠ id) := by
        split
        · rfl
        · simp
      rw [withSubscriber, if_pos same, withoutSubscriber_cons, withoutSubscriber_cons, left]
    · rw [withSubscriber, if_neg same, withoutSubscriber_cons, withoutSubscriber_cons, ih]

theorem withoutSubscriber_eq_self {id : ClientId}
    {subscriptions : List (MacAddress × List ClientId)}
    (others : ∀ entry ∈ subscriptions, id ∉ entry.2) (occupied : ∀ entry ∈ subscriptions, entry.2 ≠ []) :
    withoutSubscriber id subscriptions = subscriptions := by
  induction subscriptions with
  | nil => rfl
  | cons entry rest ih =>
    rcases entry with ⟨mac, subscribers⟩
    rw [List.forall_mem_cons] at others occupied
    have kept : subscribers.filter (· ≠ id) = subscribers := by
      rw [List.filter_eq_self]
      intro subscriber subscriberMem
      have different : subscriber ≠ id := by
        rintro rfl
        exact others.1 subscriberMem
      simpa using different
    rw [withoutSubscriber_cons, kept, if_neg occupied.1, ih others.2 occupied.2]

theorem Sound.remove_of_absent (sound : registry.Sound) {id : ClientId} (absent : id ∉ registry.ids) :
    (registry.remove id).2 = registry := by
  have clients : registry.clients.filter (·.1 ≠ id) = registry.clients := by
    rw [List.filter_eq_self]
    intro entry entryMem
    have different : entry.1 ≠ id := by
      rintro rfl
      exact absent (List.mem_map_of_mem entryMem)
    simpa using different
  have subscriptions := withoutSubscriber_eq_self
    (fun entry entryMem subscribed => absent (sound.subscribers_connected entry entryMem id subscribed))
    sound.subscribers_ne_nil
  rw [Registry.remove, clients, subscriptions]

/-- A client that is removed right after it subscribed leaves nothing behind. -/
theorem remove_register (mac : MacAddress) (id : ClientId) :
    (registry.register mac id).2.remove id = registry.remove id := by
  unfold register
  split
  · simp only [remove, withoutSubscriber_withSubscriber]
    rfl
  · rfl

/-! ### Removing several clients -/

theorem removeAll_cons_snd (id : ClientId) (rest : List ClientId) :
    (registry.removeAll (id :: rest)).2 = ((registry.remove id).2.removeAll rest).2 := by
  simp only [removeAll]
  split <;> rfl

theorem get?_removeAll (ids : List ClientId) (other : ClientId) :
    (registry.removeAll ids).2.get? other =
      if other ∈ ids then none else registry.get? other := by
  induction ids generalizing registry with
  | nil => simp [removeAll]
  | cons id rest ih =>
    rw [removeAll_cons_snd, ih, get?_remove]
    by_cases first : other = id <;> by_cases others : other ∈ rest <;> simp [first, others]

theorem ids_removeAll (ids : List ClientId) :
    (registry.removeAll ids).2.ids = registry.ids.filter (· ∉ ids) := by
  induction ids generalizing registry with
  | nil => simp [removeAll]
  | cons id rest ih =>
    rw [removeAll_cons_snd, ih, ids_remove, List.filter_filter]
    apply List.filter_congr
    intro known _
    simp [not_or, Bool.and_comm]

theorem Sound.length_ids_removeAll (sound : registry.Sound) {gone : List ClientId}
    (nodup : gone.Nodup) (connected : ∀ id ∈ gone, id ∈ registry.ids) :
    (registry.removeAll gone).2.ids.length + gone.length = registry.ids.length := by
  have perm : (registry.ids.filter (· ∈ gone)).Perm gone := by
    apply (List.perm_ext_iff_of_nodup (sound.ids_nodup.filter _) nodup).mpr
    intro id
    simpa using connected id
  rw [ids_removeAll, ← perm.length_eq, ← List.countP_eq_length_filter,
    ← List.countP_eq_length_filter, Nat.add_comm, List.length_eq_countP_add_countP (· ∈ gone)]
  simp

theorem Sound.length_ids_remove (sound : registry.Sound) {id : ClientId}
    (connected : id ∈ registry.ids) :
    (registry.remove id).2.ids.length + 1 = registry.ids.length := by
  have left := sound.length_ids_removeAll (List.nodup_singleton id) (by simpa using connected)
  rw [removeAll_cons_snd] at left
  exact left

theorem Sound.removeAll (sound : registry.Sound) (ids : List ClientId) :
    (registry.removeAll ids).2.Sound := by
  induction ids generalizing registry with
  | nil => exact sound
  | cons id rest ih =>
    rw [removeAll_cons_snd]
    exact ih (sound.remove id)

theorem Sound.subscribers_removeAll (sound : registry.Sound) (ids : List ClientId)
    (mac : MacAddress) :
    (registry.removeAll ids).2.subscribers mac = (registry.subscribers mac).filter (· ∉ ids) := by
  induction ids generalizing registry with
  | nil => simp [Registry.removeAll]
  | cons id rest ih =>
    rw [removeAll_cons_snd, ih (sound.remove id), sound.subscribers_remove, List.filter_filter]
    apply List.filter_congr
    intro known _
    simp [not_or, Bool.and_comm]

/-- The connections handed back are those of the removed clients that were connected. -/
theorem removeAll_fst {ids : List ClientId} (nodup : ids.Nodup) :
    (registry.removeAll ids).1 = registry.connectionsOf ids := by
  induction ids generalizing registry with
  | nil => rfl
  | cons id rest ih =>
    rw [List.nodup_cons] at nodup
    have later : (registry.remove id).2.connectionsOf rest = registry.connectionsOf rest := by
      apply List.filterMap_congr
      intro known knownMem
      have other : known ≠ id := by
        rintro rfl
        exact nodup.1 knownMem
      rw [get?_remove, if_neg other]
    have others : ((registry.remove id).2.removeAll rest).1 = registry.connectionsOf rest :=
      (ih nodup.2).trans later
    simp only [connectionsOf] at others ⊢
    simp only [removeAll, List.filterMap_cons, remove_fst]
    cases registry.get? id with
    | none => simpa using others
    | some connection => simpa using others

theorem mem_connectionsOf {ids : List ClientId} {id : ClientId} {connection : Connection} :
    (id, connection) ∈ registry.connectionsOf ids ↔
      id ∈ ids ∧ registry.get? id = some connection := by
  simp only [connectionsOf, List.mem_filterMap, Option.map_eq_some_iff, Prod.mk.injEq]
  constructor
  · rintro ⟨known, knownMem, found, connected, rfl, rfl⟩
    exact ⟨knownMem, connected⟩
  · rintro ⟨idMem, connected⟩
    exact ⟨id, idMem, connection, connected, rfl, rfl⟩

/-- The clients of `connectionsOf` are those asked for that are connected, in the same order. -/
theorem map_connectionsOf (ids : List ClientId) :
    (registry.connectionsOf ids).map (·.1) = ids.filter registry.contains := by
  induction ids with
  | nil => rfl
  | cons id rest ih =>
    have connected : registry.contains id = (registry.get? id).isSome := rfl
    simp only [connectionsOf, List.filterMap_cons, List.filter_cons, connected] at ih ⊢
    cases registry.get? id with
    | none => simpa using ih
    | some connection => simpa using ih

theorem Sound.map_connectionsOf_subscribers (sound : registry.Sound) (mac : MacAddress) :
    (registry.connectionsOf (registry.subscribers mac)).map (·.1) = registry.subscribers mac := by
  rw [map_connectionsOf, List.filter_eq_self]
  intro id subscribed
  exact mem_ids_iff.mp (sound.mem_ids_of_mem_subscribers subscribed)

end Operations

end RadioRelay.Registry
