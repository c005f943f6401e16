import RadioRelay.Proofs.Router.Phases

/-!
# Which numbers are open

The answers in a trace tell which numbers are open. As long as every client is
accepted under a number that is not open, the clients in the registry have
numbers of their own that are open, and a number is closed exactly when its
client leaves the registry.
-/

namespace RadioRelay

namespace Exchange

def accepts (client : ClientId) : Exchange → Bool
  | ⟨.accept _, .ok number⟩ => number = client
  | _ => false

def closes (number : Descriptor) : Exchange → Bool
  | ⟨.close closed, _⟩ => closed = number
  | _ => false

def nowOpen (opened : List Descriptor) (exchange : Exchange) : List Descriptor :=
  exchange.opens ++ opened.filter fun number => !exchange.closes number

end Exchange

def openAfter (opened : List Descriptor) (trace : Trace) : List Descriptor :=
  trace.foldl Exchange.nowOpen opened

/-- Every client is accepted under a number that is not open. -/
def AcceptsFresh : List Descriptor → Trace → Prop
  | _, [] => True
  | opened, exchange :: later =>
    (∀ number ∈ opened, exchange.accepts number = false)
      ∧ AcceptsFresh (exchange.nowOpen opened) later

instance decidableAcceptsFresh : ∀ opened trace, Decidable (AcceptsFresh opened trace)
  | _, [] => isTrue trivial
  | opened, exchange :: later =>
    have := decidableAcceptsFresh (exchange.nowOpen opened) later
    inferInstanceAs (Decidable (_ ∧ _))

section Numbers

variable {opened : List Descriptor} {early late trace : Trace} {client number : Descriptor}

theorem openAfter_append :
    openAfter opened (early ++ late) = openAfter (openAfter opened early) late :=
  List.foldl_append

theorem acceptsFresh_append :
    AcceptsFresh opened (early ++ late) ↔
      AcceptsFresh opened early ∧ AcceptsFresh (openAfter opened early) late := by
  induction early generalizing opened with
  | nil => simp [AcceptsFresh, openAfter]
  | cons exchange early ih =>
    simp only [List.cons_append, AcceptsFresh, ih, and_assoc]
    rfl

/-- Where nothing is opened, what was open and was not closed stays open. -/
theorem mem_openAfter (nothing : ∀ exchange ∈ trace, exchange.opens = []) :
    number ∈ openAfter opened trace ↔
      number ∈ opened ∧ ∀ exchange ∈ trace, exchange.closes number = false := by
  induction trace generalizing opened with
  | nil => simp [openAfter]
  | cons exchange trace ih =>
    rw [List.forall_mem_cons] at nothing ⊢
    have now : number ∈ exchange.nowOpen opened ↔
        number ∈ opened ∧ exchange.closes number = false := by
      simp [Exchange.nowOpen, nothing.1]
    change number ∈ openAfter (exchange.nowOpen opened) trace ↔ _
    rw [ih nothing.2, now, and_assoc]

theorem openAfter_accept {listener : Descriptor} :
    openAfter opened (⟨.accept listener, .ok client⟩ :: trace) = openAfter (client :: opened) trace := by
  have now : Exchange.nowOpen opened ⟨.accept listener, .ok client⟩ = client :: opened := by
    simp [Exchange.nowOpen, Exchange.opens, Exchange.closes]
  rw [← now]
  rfl

theorem accepts_eq_false {exchange : Exchange} (nothing : exchange.opens = []) :
    exchange.accepts client = false := by
  unfold Exchange.accepts
  split
  · cases nothing
  · rfl

theorem acceptsFresh_of_opens (nothing : ∀ exchange ∈ trace, exchange.opens = []) :
    AcceptsFresh opened trace := by
  induction trace generalizing opened with
  | nil => trivial
  | cons exchange trace ih =>
    rw [List.forall_mem_cons] at nothing
    exact ⟨fun _ _ => accepts_eq_false nothing.1, ih nothing.2⟩

end Numbers

theorem Exchange.Quiet.opens {fixed : Fixtures} {exchange : Exchange}
    (quiet : exchange.Quiet fixed) : exchange.opens = [] := by
  unfold Exchange.opens
  split <;> first | rfl | cases quiet

theorem Exchange.Quiet.closes {fixed : Fixtures} {exchange : Exchange} {number : Descriptor}
    (quiet : exchange.Quiet fixed) : exchange.closes number = false := by
  unfold Exchange.closes
  split
  · cases quiet
  · rfl

theorem count_closes_farewells {fixed : Fixtures} {reason : RemovalReason}
    {leaving : List (ClientId × Attempt Unit)} {client : ClientId} :
    (leaving.flatMap (farewell fixed reason)).countP (·.closes client)
      = (leaving.map (·.1)).count client := by
  induction leaving with
  | nil => rfl
  | cons entry leaving ih =>
    rw [List.flatMap_cons, List.countP_append, ih, List.map_cons, List.count_cons, Nat.add_comm]
    simp only [farewell, List.countP_cons, List.countP_nil, Exchange.closes, decide_eq_true_eq,
      beq_iff_eq]
    simp

theorem opens_refusal {fixed : Fixtures} {client : ClientId} {errno : Errno} :
    ∀ exchange ∈ refusal fixed client errno, exchange.opens = [] := by
  simp [refusal, Exchange.opens]

theorem opens_admission {fixed : Fixtures} {client : ClientId} {known : Bool} :
    ∀ exchange ∈ admission fixed client known, exchange.opens = [] := by
  cases known <;> simp [admission, Exchange.opens]

section Accepting

variable {fixed : Fixtures} {opened : List Descriptor} {client number : Descriptor} {errno : Errno}

theorem mem_openAfter_refusal (new : client ∉ opened) (isOpen : number ∈ opened) :
    number ∈ openAfter opened
      (⟨.accept fixed.listener, .ok client⟩ :: refusal fixed client errno) := by
  rw [openAfter_accept, mem_openAfter opens_refusal]
  have other : client ≠ number := by
    rintro rfl
    exact new isOpen
  simp [refusal, Exchange.closes, isOpen, other]

theorem mem_openAfter_admission (isOpen : number ∈ client :: opened) :
    number ∈ openAfter opened
      (⟨.accept fixed.listener, .ok client⟩ :: admission fixed client false) := by
  rw [openAfter_accept, mem_openAfter opens_admission]
  refine ⟨isOpen, ?_⟩
  simp [admission, Exchange.closes]

end Accepting

/-- The clients have open numbers of their own. -/
structure Standing.Secure (fixed : Fixtures) (opened : List Descriptor) (standing : Standing) :
    Prop where
  consistent : standing.Consistent
  client_open : ∀ client ∈ standing.registry.ids, client ∈ opened
  own_open : fixed.listener ∈ opened ∧ fixed.kernel ∈ opened ∧ fixed.wake ∈ opened
  apart : ∀ client ∈ standing.registry.ids,
    client ≠ fixed.listener ∧ client ≠ fixed.kernel ∧ client ≠ fixed.wake

namespace Standing.Secure

variable {fixed : Fixtures} {opened : List Descriptor} {standing : Standing} {client : ClientId}

theorem absent (secure : standing.Secure fixed opened) (new : client ∉ opened) :
    client ∉ standing.registry.ids :=
  fun connected => new (secure.client_open client connected)

theorem unknown (secure : standing.Secure fixed opened) (new : client ∉ opened) :
    standing.registry.contains client = false := by
  rw [Bool.eq_false_iff, ne_eq, ← Registry.mem_ids_iff]
  exact secure.absent new

theorem apart_of_new (secure : standing.Secure fixed opened) (new : client ∉ opened) :
    client ≠ fixed.listener ∧ client ≠ fixed.kernel ∧ client ≠ fixed.wake := by
  rcases secure.own_open with ⟨listener, kernel, wake⟩
  exact ⟨fun same => new (same ▸ listener), fun same => new (same ▸ kernel),
    fun same => new (same ▸ wake)⟩

end Standing.Secure

theorem AcceptsFresh.not_mem {opened : List Descriptor} {listener client : Descriptor}
    {later : Trace} (fresh : AcceptsFresh opened (⟨.accept listener, .ok client⟩ :: later)) :
    client ∉ opened := by
  intro known
  simpa [Exchange.accepts] using fresh.1 client known

namespace Move

variable {fixed : Fixtures} {standing after : Standing} {trace : Trace} {client : ClientId}

/-- A move opens nothing, or it begins with a client that is accepted. -/
theorem opens_or (move : Move fixed standing trace after) :
    (∀ exchange ∈ trace, exchange.opens = [])
      ∨ (∃ client errno, trace = ⟨.accept fixed.listener, .ok client⟩ :: refusal fixed client errno
        ∧ after = standing)
      ∨ ∃ client, trace = ⟨.accept fixed.listener, .ok client⟩
          :: admission fixed client (standing.registry.contains client)
        ∧ after = { standing with
          registry := (standing.registry.add client ⟨client⟩).2
          accepted := standing.accepted + 1 } := by
  cases move with
  | turnsAway client errno => exact Or.inr (Or.inl ⟨client, errno, rfl, rfl⟩)
  | admits client => exact Or.inr (Or.inr ⟨client, rfl, rfl⟩)
  | aside quiet => exact Or.inl fun exchange exchangeMem => (quiet exchange exchangeMem).opens
  | forwards =>
    left
    rw [List.forall_mem_cons, forall_mem_forwarding]
    simp only [forall_mem_farewell]
    exact ⟨rfl, fun _ _ => rfl, fun _ _ => ⟨rfl, rfl, rfl⟩⟩
  | _ =>
    left
    simp [farewell, posted, Exchange.opens]

/-- Where nothing is opened, a number is closed, and then once, exactly if its client leaves the
registry. -/
theorem count_closes (move : Move fixed standing trace after) (consistent : standing.Consistent)
    (nothing : ∀ exchange ∈ trace, exchange.opens = []) :
    trace.countP (·.closes client)
      = if client ∈ standing.registry.ids ∧ client ∉ after.registry.ids then 1 else 0 := by
  cases move with
  | aside quiet =>
    rw [if_neg (fun left => left.2 left.1), List.countP_eq_zero]
    intro exchange exchangeMem
    simp [(quiet exchange exchangeMem).closes]
  | pauses | resumes | withholds =>
    rw [if_neg (fun left => left.2 left.1)]
    rfl
  | turnsAway | admits => simp [Exchange.opens] at nothing
  | retires leaving connected =>
    simp only [farewell, List.countP_cons, List.countP_nil, Exchange.closes,
      Registry.mem_ids_remove, decide_eq_true_eq]
    by_cases same : leaving = client
    · subst same
      simp [connected]
    · simp [same, Ne.symm same]
  | answers _ message =>
    rw [if_neg (by simp)]
    simp [posted, Exchange.closes]
  | failsToAnswer leaving message _ connected =>
    simp only [farewell, posted, List.countP_cons, List.countP_nil, Exchange.closes,
      Registry.mem_ids_remove, Registry.ids_grant, decide_eq_true_eq]
    by_cases same : leaving = client
    · subst same
      simp [connected]
    · simp [same, Ne.symm same]
  | forwards notification message sendings leaving heard encoded addressed dropped =>
    have failed := consistent.failing_connected message addressed
    have sent : (sendings.map (posted message)).countP (·.closes client) = 0 := by
      rw [List.countP_map, List.countP_eq_zero]
      simp [posted, Exchange.closes]
    rw [List.countP_cons, List.countP_append, count_closes_farewells, dropped, failed.1.count,
      sent, Registry.ids_removeAll]
    by_cases fell : client ∈ failing message sendings
    · simp [fell, failed.2 client fell, Exchange.closes]
    · simp [fell, Exchange.closes]

theorem ids_subset (move : Move fixed standing trace after)
    (nothing : ∀ exchange ∈ trace, exchange.opens = []) :
    ∀ client ∈ after.registry.ids, client ∈ standing.registry.ids := by
  cases move with
  | aside | pauses | resumes | withholds => exact fun _ connected => connected
  | turnsAway | admits => simp [Exchange.opens] at nothing
  | retires => exact fun _ connected => (Registry.mem_ids_remove.mp connected).1
  | answers => simp
  | failsToAnswer =>
    intro client connected
    simpa using (Registry.mem_ids_remove.mp connected).1
  | forwards =>
    intro client connected
    rw [Registry.ids_removeAll] at connected
    exact (List.mem_filter.mp connected).1

theorem secure {opened : List Descriptor} (move : Move fixed standing trace after)
    (secure : standing.Secure fixed opened) (fresh : AcceptsFresh opened trace) :
    after.Secure fixed (openAfter opened trace) := by
  have consistent := move.consistent secure.consistent
  have apart := secure.apart
  rcases move.opens_or with nothing | ⟨client, errno, rfl, rfl⟩ | ⟨client, rfl, rfl⟩
  · have stays : ∀ number ∈ opened,
        ¬ (number ∈ standing.registry.ids ∧ number ∉ after.registry.ids) →
          number ∈ openAfter opened trace := by
      intro number wasOpen stayed
      -- Only numbers of clients that leave are closed.
      have closed : trace.countP (·.closes number) = _ :=
        move.count_closes secure.consistent nothing
      rw [if_neg stayed, List.countP_eq_zero] at closed
      exact (mem_openAfter nothing).mpr ⟨wasOpen, by simpa using closed⟩
    have subset := move.ids_subset nothing
    refine ⟨consistent, ?_, ⟨?_, ?_, ?_⟩, fun client connected => apart client (subset client connected)⟩
    · intro client connected
      exact stays client (secure.client_open client (subset client connected))
        (fun left => left.2 connected)
    · exact stays _ secure.own_open.1 (fun left => (apart _ left.1).1 rfl)
    · exact stays _ secure.own_open.2.1 (fun left => (apart _ left.1).2.1 rfl)
    · exact stays _ secure.own_open.2.2 (fun left => (apart _ left.1).2.2 rfl)
  · have stays : ∀ number ∈ opened, number ∈ openAfter opened
        (⟨.accept fixed.listener, .ok client⟩ :: refusal fixed client errno) :=
      fun _ isOpen => mem_openAfter_refusal fresh.not_mem isOpen
    refine ⟨consistent, ?_, ?_, apart⟩
    · exact fun client connected => stays client (secure.client_open client connected)
    · exact ⟨stays _ secure.own_open.1, stays _ secure.own_open.2.1, stays _ secure.own_open.2.2⟩
  · have new := fresh.not_mem
    rw [secure.unknown new] at fresh ⊢
    have stays : ∀ number ∈ client :: opened, number ∈ openAfter opened
        (⟨.accept fixed.listener, .ok client⟩ :: admission fixed client false) :=
      fun _ isOpen => mem_openAfter_admission isOpen
    have joined : ∀ number ∈ (standing.registry.add client ⟨client⟩).2.ids,
        number = client ∨ number ∈ standing.registry.ids := by
      intro number connected
      rw [Registry.ids_add] at connected
      split at connected
      · exact Or.inr connected
      · simpa [or_comm] using connected
    refine ⟨consistent, ?_, ⟨?_, ?_, ?_⟩, ?_⟩
    · intro number connected
      rcases joined number connected with rfl | old
      · exact stays _ (List.mem_cons_self ..)
      · exact stays _ (List.mem_cons_of_mem _ (secure.client_open number old))
    · exact stays _ (List.mem_cons_of_mem _ secure.own_open.1)
    · exact stays _ (List.mem_cons_of_mem _ secure.own_open.2.1)
    · exact stays _ (List.mem_cons_of_mem _ secure.own_open.2.2)
    · intro number connected
      rcases joined number connected with rfl | old
      · exact secure.apart_of_new new
      · exact apart number old

theorem count_closes_of_others {opened : List Descriptor} (move : Move fixed standing trace after)
    (secure : standing.Secure fixed opened) (fresh : AcceptsFresh opened trace)
    (others : ∀ exchange ∈ trace, exchange.accepts client = false) :
    (trace.countP (·.closes client)
        = if client ∈ standing.registry.ids ∧ client ∉ after.registry.ids then 1 else 0)
      ∧ (client ∈ after.registry.ids → client ∈ standing.registry.ids) := by
  rcases move.opens_or with nothing | ⟨number, errno, rfl, rfl⟩ | ⟨number, rfl, rfl⟩
  · exact ⟨move.count_closes secure.consistent nothing, move.ids_subset nothing client⟩
  · have other : number ≠ client := of_decide_eq_false (others _ (List.mem_cons_self ..))
    refine ⟨?_, id⟩
    rw [if_neg (fun left => left.2 left.1)]
    simp [refusal, Exchange.closes, other]
  · have other : number ≠ client := of_decide_eq_false (others _ (List.mem_cons_self ..))
    have unknown := secure.unknown fresh.not_mem
    have absent := secure.absent fresh.not_mem
    simp [unknown, admission, Exchange.closes, Registry.ids_add, absent, Ne.symm other]

end Move

theorem secure_of_course {fixed : Fixtures} {opened : List Descriptor} {first last : Standing}
    {history : Trace} (course : Course (Move fixed) first history last)
    (secure : first.Secure fixed opened) (fresh : AcceptsFresh opened history) :
    last.Secure fixed (openAfter opened history) := by
  induction course with
  | start => exact secure
  | next _ move ih =>
    rw [acceptsFresh_append] at fresh
    rw [openAfter_append]
    exact move.secure (ih fresh.1) fresh.2

namespace Router

theorem secure_of_stages {router after : Router} {trace : Trace} {opened : List Descriptor}
    (course : Course Stage router trace after)
    (secure : router.standing.Secure router.fixtures opened) (fresh : AcceptsFresh opened trace) :
    after.standing.Secure after.fixtures (openAfter opened trace) := by
  rw [fixtures_course course]
  exact secure_of_course (moves_of_course course secure.consistent).2 secure fresh

theorem secure_create {listener : Listener} {kernel : Descriptor} {options : RouterOptions}
    {created : Trace} {start : Router}
    (puts : (create listener kernel options).run.Runs created (.ok start)) :
    start.standing.Secure start.fixtures (openAfter [listener.descriptor, kernel] created) := by
  rcases runs_create puts with ⟨poller, wake, rfl, rfl⟩
  refine ⟨consistent_assembled, ?_, ?_, ?_⟩
  · exact fun _ connected => absurd connected List.not_mem_nil
  · simp [openAfter, assembly, Exchange.nowOpen, Exchange.opens, Exchange.closes, fixtures,
      assembled]
  · exact fun _ connected => absurd connected List.not_mem_nil

end Router

end RadioRelay
