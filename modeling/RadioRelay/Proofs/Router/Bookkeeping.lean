import Mathlib.Data.List.Perm.Basic
import Mathlib.Data.List.Perm.Subperm
import Mathlib.Tactic.Tauto
import RadioRelay.Proofs.Router.Tenure

/-!
# The router's books

Four things have to agree at every moment: what the poller watches, which
clients are connected, who is subscribed, and the counters. They do between any
two turns of the loop, and every connection ever accepted is either among the
clients or was closed, once.
-/

namespace RadioRelay

namespace Exchange

/-- What a poller watches afterwards. A call has an effect exactly if it succeeds, and a closed
number is no longer watched. -/
def nowWatched (poller : Descriptor) (watched : List Descriptor) : Exchange → List Descriptor
  | ⟨.watch source target _, .ok _⟩ => if source = poller then target :: watched else watched
  | ⟨.unwatch source target, .ok _⟩ =>
    if source = poller then watched.filter (· ≠ target) else watched
  | ⟨.close closed, _⟩ => watched.filter (· ≠ closed)
  | _ => watched

/-- A call that succeeds has an effect: what it adds was not watched, what it removes was. -/
def TakesEffect (poller : Descriptor) (watched : List Descriptor) : Exchange → Prop
  | ⟨.watch source target _, .ok _⟩ => source = poller → target ∉ watched
  | ⟨.unwatch source target, .ok _⟩ => source = poller → target ∈ watched
  | _ => True

/-- Whether a call that succeeds has an effect. -/
def takesEffect (poller : Descriptor) (watched : List Descriptor) : Exchange → Bool
  | ⟨.watch source target _, .ok _⟩ => source ≠ poller ∨ target ∉ watched
  | ⟨.unwatch source target, .ok _⟩ => source ≠ poller ∨ target ∈ watched
  | _ => true

theorem takesEffect_iff {poller : Descriptor} {watched : List Descriptor} {exchange : Exchange} :
    exchange.takesEffect poller watched = true ↔ exchange.TakesEffect poller watched := by
  unfold takesEffect TakesEffect
  split <;> simp [imp_iff_not_or]

instance decidableTakesEffect (poller : Descriptor) (watched : List Descriptor) :
    DecidablePred (TakesEffect poller watched) :=
  fun _ => decidable_of_iff _ takesEffect_iff

/-- Whether something other than the listener is watched from now on. -/
def takesIn (listener : Descriptor) : Exchange → Bool
  | ⟨.watch _ target _, .ok _⟩ => target ≠ listener
  | _ => false

end Exchange

def watchedAfter (poller : Descriptor) (watched : List Descriptor) (trace : Trace) :
    List Descriptor :=
  trace.foldl (Exchange.nowWatched poller) watched

/-- The poller does what its answers say. -/
def PollerObeys (poller : Descriptor) : List Descriptor → Trace → Prop
  | _, [] => True
  | watched, exchange :: later =>
    exchange.TakesEffect poller watched
      ∧ PollerObeys poller (exchange.nowWatched poller watched) later

instance decidablePollerObeys (poller : Descriptor) :
    ∀ watched trace, Decidable (PollerObeys poller watched trace)
  | _, [] => isTrue trivial
  | watched, exchange :: later =>
    have := decidablePollerObeys poller (exchange.nowWatched poller watched) later
    inferInstanceAs (Decidable (_ ∧ _))

/-- The poller watches the clients, the kernel, the wake event and, unless it pauses, the
listener. -/
def Standing.Watched (fixed : Fixtures) (watched : List Descriptor) (standing : Standing) : Prop :=
  ∀ number, number ∈ watched ↔ number ∈ standing.registry.ids ∨ number = fixed.kernel
    ∨ number = fixed.wake ∨ (number = fixed.listener ∧ standing.paused = false)

section Watching

variable {fixed : Fixtures} {standing after : Standing} {early late trace : Trace}
  {poller number : Descriptor} {watched opened : List Descriptor}

theorem watchedAfter_append :
    watchedAfter poller watched (early ++ late)
      = watchedAfter poller (watchedAfter poller watched early) late :=
  List.foldl_append

theorem mem_watchedAfter_congr {other : List Descriptor}
    (same : ∀ number, number ∈ watched ↔ number ∈ other) :
    number ∈ watchedAfter poller watched trace ↔ number ∈ watchedAfter poller other trace := by
  induction trace generalizing watched other with
  | nil => exact same number
  | cons exchange trace ih =>
    apply ih
    intro number
    unfold Exchange.nowWatched
    split
    · split <;> simp [same]
    · split <;> simp [same]
    · simp [same]
    · exact same number

theorem Exchange.Quiet.nowWatched {exchange : Exchange} (quiet : exchange.Quiet fixed) :
    exchange.nowWatched poller watched = watched := by
  unfold Exchange.nowWatched
  split <;> first | rfl | cases quiet

theorem Exchange.Quiet.takesIn {exchange : Exchange} {listener : Descriptor}
    (quiet : exchange.Quiet fixed) : exchange.takesIn listener = false := by
  unfold Exchange.takesIn
  split
  · cases quiet
  · rfl

theorem watchedAfter_eq_self
    (nothing : ∀ exchange ∈ trace, ∀ watched, exchange.nowWatched poller watched = watched) :
    watchedAfter poller watched trace = watched := by
  induction trace generalizing watched with
  | nil => rfl
  | cons exchange trace ih =>
    rw [List.forall_mem_cons] at nothing
    change watchedAfter poller (exchange.nowWatched poller watched) trace = watched
    rw [nothing.1, ih nothing.2]

theorem mem_watchedAfter_farewell {reason : RemovalReason} {leaving : ClientId × Attempt Unit} :
    number ∈ watchedAfter fixed.poller watched (farewell fixed reason leaving) ↔
      number ∈ watched ∧ number ≠ leaving.1 := by
  rcases leaving with ⟨client, _ | _⟩
  · simp [watchedAfter, farewell, Exchange.nowWatched]
  · simp [watchedAfter, farewell, Exchange.nowWatched]

theorem mem_watchedAfter_farewells {reason : RemovalReason}
    {leaving : List (ClientId × Attempt Unit)} :
    number ∈ watchedAfter fixed.poller watched (leaving.flatMap (farewell fixed reason)) ↔
      number ∈ watched ∧ number ∉ leaving.map (·.1) := by
  induction leaving generalizing watched with
  | nil => simp [watchedAfter]
  | cons entry leaving ih =>
    rw [List.flatMap_cons, watchedAfter_append, ih, mem_watchedAfter_farewell, and_assoc]
    simp

theorem mem_watchedAfter_forwarding {reason : RemovalReason} {message : Bytes}
    {sendings : List (ClientId × Attempt Nat)} {leaving : List (ClientId × Attempt Unit)} :
    number ∈ watchedAfter fixed.poller watched
        (sendings.map (posted message) ++ leaving.flatMap (farewell fixed reason)) ↔
      number ∈ watched ∧ number ∉ leaving.map (·.1) := by
  have sent : watchedAfter fixed.poller watched (sendings.map (posted message)) = watched :=
    watchedAfter_eq_self (List.forall_mem_map.mpr fun _ _ _ => rfl)
  rw [watchedAfter_append, sent, mem_watchedAfter_farewells]

end Watching

/-- The router's own sockets have different numbers. -/
structure Fixtures.Distinct (fixed : Fixtures) : Prop where
  kernel_ne_listener : fixed.kernel ≠ fixed.listener
  wake_ne_listener : fixed.wake ≠ fixed.listener
  wake_ne_kernel : fixed.wake ≠ fixed.kernel

namespace Move

variable {fixed : Fixtures} {standing after : Standing} {trace : Trace}
  {watched opened : List Descriptor}

theorem watched_of_left (gone : List ClientId) {fewer : Registry Connection}
    {kept : List Descriptor} (secure : standing.Secure fixed opened)
    (before : standing.Watched fixed watched) (connected : ∀ client ∈ gone, client ∈ standing.registry.ids)
    (remaining : ∀ number, number ∈ fewer.ids ↔ number ∈ standing.registry.ids ∧ number ∉ gone)
    (unwatched : ∀ number, number ∈ kept ↔ number ∈ watched ∧ number ∉ gone) (removed : Nat) :
    Standing.Watched fixed kept { standing with registry := fewer, removed := removed } := by
  have apart : ∀ number ∈ gone,
      number ≠ fixed.listener ∧ number ≠ fixed.kernel ∧ number ≠ fixed.wake :=
    fun number left => secure.apart number (connected number left)
  intro number
  rw [unwatched, before number, remaining]
  constructor
  · rintro ⟨client | own, stayed⟩
    · exact Or.inl ⟨client, stayed⟩
    · exact Or.inr own
  · rintro (⟨client, stayed⟩ | own)
    · exact ⟨Or.inl client, stayed⟩
    · refine ⟨Or.inr own, ?_⟩
      intro left
      rcases own with rfl | rfl | ⟨rfl, -⟩
      · exact (apart _ left).2.1 rfl
      · exact (apart _ left).2.2 rfl
      · exact (apart _ left).1 rfl

theorem keeps_watched (move : Move fixed standing trace after) (distinct : fixed.Distinct)
    (secure : standing.Secure fixed opened) (fresh : AcceptsFresh opened trace)
    (before : standing.Watched fixed watched) :
    after.Watched fixed (watchedAfter fixed.poller watched trace) := by
  cases move with
  | aside quiet =>
    rw [watchedAfter_eq_self fun exchange exchangeMem _ => (quiet exchange exchangeMem).nowWatched]
    exact before
  | pauses listening =>
    intro number
    have removed : number ∈ watchedAfter fixed.poller watched
          [⟨.unwatch fixed.poller fixed.listener, .ok ()⟩] ↔
        number ∈ watched ∧ number ≠ fixed.listener := by
      simp [watchedAfter, Exchange.nowWatched]
    rw [removed, before number]
    constructor
    · rintro ⟨client | kernel | wake | ⟨listener, -⟩, other⟩
      · exact Or.inl client
      · exact Or.inr (Or.inl kernel)
      · exact Or.inr (Or.inr (Or.inl wake))
      · exact absurd listener other
    · rintro (client | rfl | rfl | ⟨-, paused⟩)
      · exact ⟨Or.inl client, (secure.apart number client).1⟩
      · exact ⟨Or.inr (Or.inl rfl), distinct.kernel_ne_listener⟩
      · exact ⟨Or.inr (Or.inr (Or.inl rfl)), distinct.wake_ne_listener⟩
      · cases paused
  | resumes paused =>
    intro number
    have added : number ∈ watchedAfter fixed.poller watched
          [⟨.watch fixed.poller fixed.listener readable, .ok ()⟩] ↔
        number = fixed.listener ∨ number ∈ watched := by
      simp [watchedAfter, Exchange.nowWatched]
    rw [added, before number]
    simp only [paused, Bool.true_eq_false, and_false, or_false, and_true]
    tauto
  | turnsAway client errno =>
    intro number
    have removed : number ∈ watchedAfter fixed.poller watched
          (⟨.accept fixed.listener, .ok client⟩ :: refusal fixed client errno) ↔
        number ∈ watched ∧ number ≠ client := by
      simp [watchedAfter, refusal, Exchange.nowWatched]
    -- A newcomer was not watched before, so giving it up leaves nothing missing.
    have unwatched : client ∉ watched := by
      have own := secure.apart_of_new fresh.not_mem
      intro known
      rcases (before client).mp known with connected | kernel | wake | ⟨listener, -⟩
      · exact secure.absent fresh.not_mem connected
      · exact own.2.1 kernel
      · exact own.2.2 wake
      · exact own.1 listener
    rw [removed, ← before number]
    refine ⟨And.left, fun known => ⟨known, ?_⟩⟩
    rintro rfl
    exact unwatched known
  | admits client =>
    have unknown := secure.unknown fresh.not_mem
    intro number
    have added : number ∈ watchedAfter fixed.poller watched
          (⟨.accept fixed.listener, .ok client⟩ :: admission fixed client false) ↔
        number = client ∨ number ∈ watched := by
      simp [watchedAfter, admission, Exchange.nowWatched]
    rw [unknown, added, before number, Registry.ids_add, if_neg (secure.absent fresh.not_mem),
      List.mem_append, List.mem_singleton]
    tauto
  | retires client connected =>
    refine watched_of_left [client] secure before (by simpa using connected) ?_ ?_ _
    · simp [Registry.mem_ids_remove]
    · intro number
      simpa using mem_watchedAfter_farewell
  | answers client message =>
    intro number
    simpa [watchedAfter, posted, Exchange.nowWatched] using before number
  | failsToAnswer client message reason connected =>
    refine watched_of_left [client] secure before (by simpa using connected) ?_ ?_ _
    · simp [Registry.mem_ids_remove]
    · intro number
      rw [List.mem_singleton]
      change number ∈ watchedAfter fixed.poller watched (farewell fixed reason (client, _)) ↔ _
      exact mem_watchedAfter_farewell
  | withholds => exact before
  | forwards notification message sendings leaving heard encoded addressed dropped =>
    refine watched_of_left (failing message sendings) secure before
      (secure.consistent.failing_connected message addressed).2 ?_ ?_ _
    · simp [Registry.ids_removeAll]
    · intro number
      rw [← dropped]
      exact mem_watchedAfter_forwarding

/-! ### Counters -/

theorem balance (move : Move fixed standing trace after) (secure : standing.Secure fixed opened)
    (fresh : AcceptsFresh opened trace)
    (before : standing.accepted = standing.removed + standing.registry.ids.length) :
    after.accepted = after.removed + after.registry.ids.length := by
  have sound := secure.consistent.sound
  cases move with
  | aside | pauses | resumes | turnsAway | withholds => exact before
  | admits client =>
    have absent := secure.absent fresh.not_mem
    simp only [Registry.ids_add, if_neg absent, List.length_append, List.length_singleton]
    omega
  | retires client connected =>
    have left := sound.length_ids_remove connected
    dsimp only
    omega
  | answers => simpa using before
  | failsToAnswer client message _ connected =>
    have left := sound.length_ids_remove connected
    dsimp only
    rw [Registry.remove_grant]
    omega
  | forwards notification message sendings leaving heard encoded addressed dropped =>
    have failed := secure.consistent.failing_connected message addressed
    have left := sound.length_ids_removeAll failed.1 failed.2
    have number : leaving.length = (failing message sendings).length := by
      rw [← dropped, List.length_map]
    dsimp only
    omega

/-- Exactly those are counted that are watched. -/
theorem accepted_eq (move : Move fixed standing trace after) (secure : standing.Secure fixed opened)
    (fresh : AcceptsFresh opened trace) :
    after.accepted = standing.accepted + trace.countP (·.takesIn fixed.listener) := by
  cases move with
  | aside quiet =>
    rw [List.countP_eq_zero.mpr]
    · rfl
    · intro exchange exchangeMem
      simp [(quiet exchange exchangeMem).takesIn]
  | pauses | turnsAway | retires | answers | failsToAnswer | withholds => rfl
  | resumes => simp [Exchange.takesIn]
  | admits client =>
    have unknown := secure.unknown fresh.not_mem
    have other : client ≠ fixed.listener := (secure.apart_of_new fresh.not_mem).1
    simp [unknown, admission, Exchange.takesIn, other]
  | forwards notification message sendings leaving =>
    rw [List.countP_eq_zero.mpr]
    · rfl
    · rw [List.forall_mem_cons, forall_mem_forwarding]
      simp only [forall_mem_farewell]
      exact ⟨Bool.false_ne_true, fun _ _ => Bool.false_ne_true,
        fun _ _ => ⟨Bool.false_ne_true, Bool.false_ne_true, Bool.false_ne_true⟩⟩

/-! ### The fate of an accepted client -/

/-- The client is connected and its number was not closed, or it is not and the number was closed
once. -/
def Accounted (client : ClientId) (standing : Standing) (since : Trace) : Prop :=
  (client ∈ standing.registry.ids ∧ since.countP (·.closes client) = 0)
    ∨ (client ∉ standing.registry.ids ∧ since.countP (·.closes client) = 1)

theorem accounted {client : ClientId} {since : Trace} (move : Move fixed standing trace after)
    (secure : standing.Secure fixed opened) (fresh : AcceptsFresh opened trace)
    (others : ∀ exchange ∈ trace, exchange.accepts client = false)
    (before : Accounted client standing since) : Accounted client after (since ++ trace) := by
  have kept := move.count_closes_of_others secure fresh others
  rw [Accounted, List.countP_append, kept.1]
  rcases before with ⟨connected, never⟩ | ⟨left, once⟩
  · by_cases stays : client ∈ after.registry.ids
    · exact Or.inl ⟨stays, by simp [never, stays]⟩
    · exact Or.inr ⟨stays, by simp [never, connected, stays]⟩
  · exact Or.inr ⟨fun connected => left (kept.2 connected), by simp [once, left]⟩

theorem accounted_of_accept {client : ClientId} {since : Trace}
    (move : Move fixed standing (⟨.accept fixed.listener, .ok client⟩ :: since) after)
    (secure : standing.Secure fixed opened)
    (fresh : AcceptsFresh opened (⟨.accept fixed.listener, .ok client⟩ :: since)) :
    Accounted client after since := by
  have unknown := secure.unknown fresh.not_mem
  have absent := secure.absent fresh.not_mem
  rcases move.opens_or with nothing | ⟨number, errno, head, rfl⟩ | ⟨number, head, rfl⟩
  · simp [Exchange.opens] at nothing
  · cases head
    exact Or.inr ⟨absent, by simp [refusal, Exchange.closes]⟩
  · cases head
    exact Or.inl ⟨by simp [Registry.ids_add, absent],
      by simp [unknown, admission, Exchange.closes]⟩

theorem accounted_of_course {client : ClientId} {first last : Standing} {history since : Trace}
    (course : Course (Move fixed) first history last) (secure : first.Secure fixed opened)
    (fresh : AcceptsFresh opened history) (accepted : Since client history since) :
    Accounted client last since := by
  induction course generalizing since with
  | start =>
    rcases accepted with ⟨before, _, split, -⟩
    simp at split
  | next earlier move ih =>
    rw [acceptsFresh_append] at fresh
    have secureNow := secure_of_course earlier secure fresh.1
    rcases Since.of_append move accepted with
      ⟨old, acceptedBefore, rfl, others⟩ | rfl
    · exact move.accounted secureNow fresh.2 others (ih fresh.1 acceptedBefore)
    · exact move.accounted_of_accept secureNow fresh.2

end Move

section Courses

variable {fixed : Fixtures} {first last : Standing} {history : Trace}
  {watched opened : List Descriptor}

theorem watched_of_course (course : Course (Move fixed) first history last)
    (distinct : fixed.Distinct) (secure : first.Secure fixed opened)
    (fresh : AcceptsFresh opened history) (before : first.Watched fixed watched) :
    last.Watched fixed (watchedAfter fixed.poller watched history) := by
  induction course with
  | start => exact before
  | next earlier move ih =>
    rw [acceptsFresh_append] at fresh
    rw [watchedAfter_append]
    exact move.keeps_watched distinct (secure_of_course earlier secure fresh.1) fresh.2 (ih fresh.1)

theorem balance_of_course (course : Course (Move fixed) first history last)
    (secure : first.Secure fixed opened) (fresh : AcceptsFresh opened history)
    (before : first.accepted = first.removed + first.registry.ids.length) :
    last.accepted = last.removed + last.registry.ids.length := by
  induction course with
  | start => exact before
  | next earlier move ih =>
    rw [acceptsFresh_append] at fresh
    exact move.balance (secure_of_course earlier secure fresh.1) fresh.2 (ih fresh.1)

theorem accepted_of_course (course : Course (Move fixed) first history last)
    (secure : first.Secure fixed opened) (fresh : AcceptsFresh opened history) :
    last.accepted = first.accepted + history.countP (·.takesIn fixed.listener) := by
  induction course with
  | start => rfl
  | next earlier move ih =>
    rw [acceptsFresh_append] at fresh
    rw [move.accepted_eq (secure_of_course earlier secure fresh.1) fresh.2, ih fresh.1,
      List.countP_append, Nat.add_assoc]

theorem kept_or_closed {before later : Trace} {client : ClientId}
    (course : Course (Move fixed) first history last) (secure : first.Secure fixed opened)
    (fresh : AcceptsFresh opened history)
    (split : history = before ++ ⟨.accept fixed.listener, .ok client⟩ :: later) :
    (tenure client later = later ∧ client ∈ last.registry.ids
        ∧ client ∈ openAfter opened history ∧ later.countP (·.closes client) = 0)
      ∨ ((tenure client later).countP (·.closes client) = 1
        ∧ (tenure client later = later → client ∉ last.registry.ids)) := by
  have accepts : Exchange.accepts client ⟨.accept fixed.listener, .ok client⟩ = true := by
    simp [Exchange.accepts]
  rcases course.exists_since split accepts with
    ⟨middle, earlier, accepted, ⟨whole, rfl⟩ | ⟨again, rest, parts, acceptsAgain⟩⟩
  · rw [whole, ← split] at earlier accepted
    rw [whole]
    rcases Move.accounted_of_course earlier secure fresh accepted with
      ⟨connected, never⟩ | ⟨left, once⟩
    · exact Or.inl ⟨rfl, connected,
        (secure_of_course course secure fresh).client_open client connected, never⟩
    · exact Or.inr ⟨once, fun _ => left⟩
  · -- The number was free when it was given away again, so its client had left.
    have whole : history = (before ++ ⟨.accept fixed.listener, .ok client⟩ :: tenure client later)
        ++ again :: rest := by
      rw [List.append_assoc, List.cons_append, ← parts, split]
    rw [whole, acceptsFresh_append] at fresh
    have secureMiddle := secure_of_course earlier secure fresh.1
    rcases Move.accounted_of_course earlier secure fresh.1 accepted with
      ⟨connected, -⟩ | ⟨-, once⟩
    · have free := fresh.2.1 client (secureMiddle.client_open client connected)
      rw [acceptsAgain] at free
      cases free
    · refine Or.inr ⟨once, ?_⟩
      intro same
      have lengths := congrArg List.length parts
      rw [same, List.length_append, List.length_cons] at lengths
      omega

theorem closed_of_unwatched {before later rest : Trace} {client : ClientId} {errno : Errno}
    (course : Course (Move fixed) first history last) (secure : first.Secure fixed opened)
    (fresh : AcceptsFresh opened history)
    (split : history = before ++ ⟨.accept fixed.listener, .ok client⟩ :: later)
    (unwatched : later = ⟨.watch fixed.poller client readable, .error errno⟩ :: rest) :
    (tenure client later).countP (·.closes client) = 1 := by
  rcases kept_or_closed course secure fresh split with ⟨-, -, -, never⟩ | ⟨once, -⟩
  · rcases course.after_accept split with ⟨begun, more, rfl, ⟨reason, rfl⟩ | ⟨known, rfl⟩⟩
    · rw [List.countP_append] at never
      simp [refusal, Exchange.closes] at never
    · cases unwatched
  · exact once

end Courses

namespace Router

/-- The router's books agree with each other and with what is open and watched. -/
structure InOrder (router : Router) (opened watched : List Descriptor) : Prop where
  clients_watched : ∀ number, number ≠ router.listener.descriptor → number ≠ router.kernel →
    number ≠ router.wake.descriptor → (number ∈ watched ↔ number ∈ router.registry.ids)
  clients_apart : ∀ client ∈ router.registry.ids, client ≠ router.listener.descriptor
    ∧ client ≠ router.kernel ∧ client ≠ router.wake.descriptor
  connection_own : ∀ client connection, (client, connection) ∈ router.registry.clients →
    connection.descriptor = client ∧ client ∈ opened
  kernel_watched : router.kernel ∈ watched
  wake_watched : router.wake.descriptor ∈ watched
  listener_watched : router.listener.descriptor ∈ watched ↔ router.pausedUntil = none
  subscribers_connected : ∀ entry ∈ router.registry.subscriptions, ∀ client ∈ entry.2,
    client ∈ router.registry.ids
  subscribers_ne_nil : ∀ entry ∈ router.registry.subscriptions, entry.2 ≠ []
  balance : router.statistics.accepted = router.statistics.removed + router.registry.size

variable {router start : Router} {opened watched : List Descriptor}

theorem inOrder_of_standing (distinct : router.fixtures.Distinct)
    (secure : router.standing.Secure router.fixtures opened)
    (watching : router.standing.Watched router.fixtures watched)
    (balance : router.statistics.accepted
      = router.statistics.removed + router.registry.ids.length) :
    router.InOrder opened watched where
  clients_watched number notListener notKernel notWake := by
    rw [watching number]
    constructor
    · rintro (client | kernel | wake | ⟨listener, -⟩)
      · exact client
      · exact absurd kernel notKernel
      · exact absurd wake notWake
      · exact absurd listener notListener
    · exact Or.inl
  clients_apart := secure.apart
  connection_own client connection entryMem := by
    have found := secure.consistent.sound.get?_eq_some_iff.mpr entryMem
    rcases secure.consistent.own found with rfl
    exact ⟨rfl, secure.client_open client (Registry.mem_ids_of_get? found)⟩
  kernel_watched := (watching _).mpr (Or.inr (Or.inl rfl))
  wake_watched := (watching _).mpr (Or.inr (Or.inr (Or.inl rfl)))
  listener_watched := by
    rw [← Option.isSome_eq_false_iff.trans Option.isNone_iff_eq_none, watching]
    constructor
    · rintro (client | kernel | wake | ⟨-, listening⟩)
      · exact absurd rfl (secure.apart _ client).1
      · exact absurd kernel.symm distinct.kernel_ne_listener
      · exact absurd wake.symm distinct.wake_ne_listener
      · exact listening
    · exact fun listening => Or.inr (Or.inr (Or.inr ⟨rfl, listening⟩))
  subscribers_connected := secure.consistent.sound.subscribers_connected
  subscribers_ne_nil := secure.consistent.sound.subscribers_ne_nil
  balance := by
    rw [balance, Registry.ids, List.length_map]
    rfl

/-- The poller does not watch anything twice, so the router's own numbers differ. -/
theorem distinct_assembled {listener kernel poller wake : Descriptor} {history : Trace}
    (obeys : PollerObeys poller [] (assembly listener kernel poller wake ++ history)) :
    kernel ≠ listener ∧ wake ≠ listener ∧ wake ≠ kernel := by
  have kernelNew : kernel ∉ [listener] := by
    simpa [Exchange.nowWatched] using obeys.2.2.2.1 rfl
  have wakeNew : wake ∉ [kernel, listener] := by
    simpa [Exchange.nowWatched] using obeys.2.2.2.2.1 rfl
  simp only [List.mem_cons, List.not_mem_nil, or_false, not_or] at kernelNew wakeNew
  exact ⟨kernelNew, wakeNew.2, wakeNew.1⟩

theorem watched_assembled {listener : Listener} {kernel poller wake : Descriptor}
    {options : RouterOptions} :
    (assembled listener kernel options poller wake).standing.Watched
      (assembled listener kernel options poller wake).fixtures
      (watchedAfter poller [] (assembly listener.descriptor kernel poller wake)) := by
  intro number
  simp only [watchedAfter, assembly, List.foldl_cons, List.foldl_nil, Exchange.nowWatched, if_true,
    List.mem_cons, List.not_mem_nil, or_false]
  constructor
  · rintro (rfl | rfl | rfl)
    · exact Or.inr (Or.inr (Or.inl rfl))
    · exact Or.inr (Or.inl rfl)
    · exact Or.inr (Or.inr (Or.inr ⟨rfl, rfl⟩))
  · rintro (client | rfl | rfl | ⟨rfl, -⟩)
    · exact absurd client List.not_mem_nil
    · exact Or.inr (Or.inl rfl)
    · exact Or.inl rfl
    · exact Or.inr (Or.inr rfl)

theorem distinct_created {listener : Listener} {kernel : Descriptor} {options : RouterOptions}
    {created history : Trace} (puts : (create listener kernel options).run.Runs created (.ok start))
    (obeys : PollerObeys start.poller.descriptor [] (created ++ history)) :
    start.fixtures.Distinct := by
  rcases runs_create puts with ⟨poller, wake, rfl, rfl⟩
  rcases distinct_assembled obeys with ⟨kernelListener, wakeListener, wakeKernel⟩
  exact ⟨kernelListener, wakeListener, wakeKernel⟩

/-- Between any two turns the poller watches the clients and the router's own sockets. -/
theorem watched_of_turns {listener : Listener} {kernel : Descriptor} {options : RouterOptions}
    {created history : Trace} (puts : (create listener kernel options).run.Runs created (.ok start))
    (turns : Course Turn start history router)
    (fresh : AcceptsFresh [listener.descriptor, kernel] (created ++ history))
    (obeys : PollerObeys start.poller.descriptor [] (created ++ history)) :
    router.standing.Watched router.fixtures
      (watchedAfter start.poller.descriptor [] (created ++ history)) := by
  have secureFirst := secure_create puts
  have distinct := distinct_created puts obeys
  have stages := course_of_turns turns
  rw [acceptsFresh_append] at fresh
  rcases runs_create puts with ⟨poller, wake, rfl, rfl⟩
  rw [watchedAfter_append, fixtures_course stages]
  exact watched_of_course (moves_of_course stages consistent_assembled).2 distinct secureFirst fresh.2
    watched_assembled

/-- Between any two turns the router's books are in order. Exactly those are counted that could be
watched, and every connection ever accepted is still there or was closed once; one that could not
be watched was closed. -/
theorem inOrder_of_turns {listener : Listener} {kernel : Descriptor} {options : RouterOptions}
    {created history : Trace}
    (puts : (create listener kernel options).run.Runs created (.ok start))
    (turns : Course Turn start history router)
    (fresh : AcceptsFresh [listener.descriptor, kernel] (created ++ history))
    (obeys : PollerObeys start.poller.descriptor [] (created ++ history)) :
    router.InOrder (openAfter [listener.descriptor, kernel] (created ++ history))
        (watchedAfter start.poller.descriptor [] (created ++ history))
      ∧ router.statistics.accepted = history.countP (·.takesIn listener.descriptor)
      ∧ ∀ before client later,
        history = before ++ ⟨.accept listener.descriptor, .ok client⟩ :: later →
          ((tenure client later = later ∧ client ∈ router.registry.ids
              ∧ client ∈ openAfter [listener.descriptor, kernel] (created ++ history)
              ∧ later.countP (·.closes client) = 0)
            ∨ ((tenure client later).countP (·.closes client) = 1
              ∧ (tenure client later = later → client ∉ router.registry.ids)))
          ∧ ∀ errno rest,
            later = ⟨.watch start.poller.descriptor client readable, .error errno⟩ :: rest →
              (tenure client later).countP (·.closes client) = 1 := by
  have secureFirst := secure_create puts
  have distinct := distinct_created puts obeys
  have watching := watched_of_turns puts turns fresh obeys
  rcases runs_create puts with ⟨poller, wake, rfl, rfl⟩
  have stages := course_of_turns turns
  have course := (moves_of_course stages consistent_assembled).2
  have fixtures := fixtures_course stages
  rw [acceptsFresh_append] at fresh
  refine ⟨?_, ?_, ?_⟩
  · rw [openAfter_append]
    refine inOrder_of_standing ?_ ?_ watching ?_
    · rw [fixtures]
      exact distinct
    · rw [fixtures]
      exact secure_of_course course secureFirst fresh.2
    · exact balance_of_course course secureFirst fresh.2 rfl
  · have counted := accepted_of_course course secureFirst fresh.2
    rw [← Nat.zero_add (history.countP _)]
    exact counted
  · intro before client later split
    rw [openAfter_append]
    refine ⟨kept_or_closed course secureFirst fresh.2 split, ?_⟩
    exact fun errno rest => closed_of_unwatched course secureFirst fresh.2 split

/-- Two clients wait. The first one can be watched and the second one cannot, and then there are
no descriptors left. -/
def crowding (past : Trace) : (call : Call) → call.Answer
  | .wait _ _ _ => .ok ⟨1, [⟨⟨3⟩, readable⟩]⟩
  | .accept _ =>
    if past.length = 1 then .ok ⟨7⟩ else if past.length = 4 then .ok ⟨8⟩ else .error ⟨24⟩
  | .watch _ target _ => if target = ⟨8⟩ then .error ⟨28⟩ else .ok ()
  | .unwatch _ _ => .ok ()
  | call => call.refusal

theorem crowding_ends : ((vacant.pollOnce (-1)).rehearse crowding 8).1.isSome := by
  decide +kernel

theorem inOrder_of_crowding : ∃ history router,
    Course Turn vacant history router
      ∧ router.registry.ids = [⟨7⟩] ∧ router.pausedUntil = some acceptPause
      ∧ router.InOrder
        (openAfter [⟨3⟩, ⟨4⟩] (assembly ⟨3⟩ ⟨4⟩ ⟨5⟩ ⟨6⟩ ++ history))
        (watchedAfter ⟨5⟩ [] (assembly ⟨3⟩ ⟨4⟩ ⟨5⟩ ⟨6⟩ ++ history)) := by
  have turns := Course.single (turn_rehearse crowding_ends)
  have books := inOrder_of_turns runs_create_assembled turns (by decide +kernel) (by decide +kernel)
  exact ⟨_, _, turns, by decide +kernel, by decide +kernel, books.1⟩

end Router

end RadioRelay
