import RadioRelay.Proofs.Router.Seats
import RadioRelay.Proofs.Router.Surroundings

/-!
# Who comes in

Clients are told apart by the order in which they were accepted, as the system
gives the numbers of closed connections away again. Who comes in and when
follows from what the system says at the door; the clients that are already
connected have no part in it.
-/

namespace RadioRelay

/-! ### Guests and their numbers -/

/-- The number under which a client was accepted. -/
def Exchange.guest? : Exchange → Option Descriptor
  | ⟨.accept _, .ok number⟩ => some number
  | _ => none

/-- The number of a guest, unless it was given to a later one. Guests are counted from zero. -/
def number? (guests : List Descriptor) (guest : Nat) : Option Descriptor :=
  guests[guest]?.filter (· ∉ guests.drop (guest + 1))

theorem number?_append (guests : List Descriptor) (number : Descriptor) (guest : Nat) :
    number? (guests ++ [number]) guest =
      if guest = guests.length then some number
      else (number? guests guest).filter (· ≠ number) := by
  unfold number?
  split
  next same =>
    subst same
    simp
  next other =>
    rcases Nat.lt_or_gt_of_ne other with early | late
    · rw [List.getElem?_append_left early, List.drop_append_of_le_length early,
        Option.filter_filter]
      simp [not_or]
    · rw [List.getElem?_eq_none, List.getElem?_eq_none]
      · rfl
      · omega
      · simp
        omega

theorem number?_of_append {guests more : List Descriptor} {guest : Nat} {number : Descriptor}
    (late : number? (guests ++ more) guest = some number) (early : guest < guests.length) :
    number? guests guest = some number := by
  unfold number? at late ⊢
  rw [List.getElem?_append_left early, List.drop_append_of_le_length early] at late
  rcases Option.filter_eq_some_iff.mp late with ⟨found, kept⟩
  refine Option.filter_eq_some_iff.mpr ⟨found, ?_⟩
  simp only [List.mem_append, not_or, decide_eq_true_eq] at kept ⊢
  exact kept.1

/-! ### What the system says -/

/-- An answer that concerns whoever comes in, or the kernel. -/
inductive Tiding
  | accepted (outcome : Attempt Unit)
  | watched (outcome : Attempt Unit)
  | handed (answer : Attempt Received)
  deriving DecidableEq, Repr

/-- What the system says of whoever waits, of a newcomer, or of the kernel. -/
def Exchange.tiding? (fixed : Fixtures) : Exchange → Option Tiding
  | ⟨.accept _, answer⟩ => some (.accepted (answer.map fun _ => ()))
  | ⟨.watch _ target _, outcome⟩ =>
    if target = fixed.listener then none else some (.watched outcome)
  | ⟨.receive source _, answer⟩ => if source = fixed.kernel then some (.handed answer) else none
  | _ => none

/-- A call that concerns neither a client nor the kernel. -/
def Exchange.Idle (fixed : Fixtures) (exchange : Exchange) : Prop :=
  match exchange.call with
  | .currentTime | .wait _ _ _ | .readEvent _ | .log _ => True
  | .watch _ target _ | .unwatch _ target => target = fixed.listener
  | _ => False

section Idleness

variable {fixed : Fixtures} {exchange : Exchange} {trace : Trace}

theorem Exchange.Idle.guest? (idle : exchange.Idle fixed) : exchange.guest? = none := by
  unfold Exchange.guest?
  split
  · cases idle
  · rfl

theorem Exchange.Idle.tiding? (idle : exchange.Idle fixed) : exchange.tiding? fixed = none := by
  unfold Exchange.tiding?
  split
  · cases idle
  · exact if_pos idle
  · cases idle
  · rfl

theorem guests_accept_ok {listener number : Descriptor} :
    (⟨.accept listener, .ok number⟩ :: trace).filterMap Exchange.guest?
      = number :: trace.filterMap Exchange.guest? := rfl

theorem guests_accept_error {listener : Descriptor} {errno : Errno} :
    (⟨.accept listener, .error errno⟩ :: trace).filterMap Exchange.guest?
      = trace.filterMap Exchange.guest? := rfl

theorem tidings_accept {listener : Descriptor} {answer : Attempt Descriptor} :
    (⟨.accept listener, answer⟩ :: trace).filterMap (Exchange.tiding? fixed)
      = .accepted (answer.map fun _ => ()) :: trace.filterMap (Exchange.tiding? fixed) := rfl

theorem guests_of_idle (idle : ∀ exchange ∈ trace, exchange.Idle fixed) :
    trace.filterMap Exchange.guest? = [] :=
  List.filterMap_eq_nil_iff.mpr fun exchange exchangeMem => (idle exchange exchangeMem).guest?

theorem tidings_of_idle (idle : ∀ exchange ∈ trace, exchange.Idle fixed) :
    trace.filterMap (Exchange.tiding? fixed) = [] :=
  List.filterMap_eq_nil_iff.mpr fun exchange exchangeMem => (idle exchange exchangeMem).tiding?

end Idleness

/-- The router as it concerns one guest: what it counts, how many guests there were, and what the
guest is subscribed to if it is connected. -/
@[ext]
structure View where
  tally : Tally
  guests : Nat
  seat : Option (Set MacAddress)

/-- The view after another guest was accepted. It gets a seat if it can be watched. -/
def View.welcomed (view : View) (guest : Nat) (watched : Attempt Unit) : View where
  tally := view.tally
  guests := view.guests + 1
  seat := if guest = view.guests then watched.toOption.map fun _ => ∅ else view.seat

def View.missed (view : View) : View :=
  { view with tally.acceptErrors := view.tally.acceptErrors + 1 }

/-- What the system says at the door, and how a guest is concerned by it. -/
inductive Enters (guest : Nat) : View → List Tiding → View → Prop
  | nobody {view : View} {errno : Errno} (transient : errno.isTransient = true) :
    Enters guest view [.accepted (.error errno)] view
  | fails {view : View} {errno : Errno} (lasting : errno.isTransient = false) :
    Enters guest view [.accepted (.error errno)] view.missed
  | another {view last : View} {watched : Attempt Unit} {tidings : List Tiding}
    (later : Enters guest (view.welcomed guest watched) tidings last) :
    Enters guest view (.accepted (.ok ()) :: .watched watched :: tidings) last

/-- What is said at the door tells how a guest is concerned by it. -/
theorem Enters.unique {guest : Nat} {view last other : View}
    {tidings again rest restAgain : List Tiding} (enters : Enters guest view tidings last)
    (entersAgain : Enters guest view again other)
    (agree : Agree (tidings ++ rest) (again ++ restAgain)) :
    last = other ∧ Agree rest restAgain := by
  induction enters generalizing again with
  | nobody transient =>
    cases entersAgain with
    | nobody => exact ⟨rfl, (agree_cons.mp agree).2⟩
    | fails lasting =>
      cases (agree_cons.mp agree).1
      rw [transient] at lasting
      cases lasting
    | another => cases (agree_cons.mp agree).1
  | fails lasting =>
    cases entersAgain with
    | nobody transient =>
      cases (agree_cons.mp agree).1
      rw [transient] at lasting
      cases lasting
    | fails => exact ⟨rfl, (agree_cons.mp agree).2⟩
    | another => cases (agree_cons.mp agree).1
  | another _ ih =>
    cases entersAgain with
    | nobody | fails => cases (agree_cons.mp agree).1
    | another later =>
      rcases agree_cons.mp (agree_cons.mp agree).2 with ⟨same, remaining⟩
      cases same
      exact ih later remaining

/-- Nobody comes in unless the listener is ready. -/
inductive Comes (guest : Nat) : Bool → View → List Tiding → View → Prop
  | nobody {view : View} : Comes guest false view [] view
  | visitors {view last : View} {tidings : List Tiding} (enters : Enters guest view tidings last) :
    Comes guest true view tidings last

/-- Whoever comes in takes nobody's seat. -/
theorem Enters.seat {guest : Nat} {view last : View} {tidings : List Tiding}
    (enters : Enters guest view tidings last) (early : guest < view.guests) :
    last.seat = view.seat := by
  induction enters with
  | nobody | fails => rfl
  | another _ ih =>
    rw [ih (Nat.lt_succ_of_lt early)]
    exact if_neg early.ne

theorem Comes.seat {guest : Nat} {knocked : Bool} {view last : View} {tidings : List Tiding}
    (comes : Comes guest knocked view tidings last) (early : guest < view.guests) :
    last.seat = view.seat := by
  cases comes with
  | nobody => rfl
  | visitors enters => exact enters.seat early

theorem Comes.unique {guest : Nat} {knocked : Bool} {view last other : View}
    {tidings again rest restAgain : List Tiding} (comes : Comes guest knocked view tidings last)
    (comesAgain : Comes guest knocked view again other)
    (agree : Agree (tidings ++ rest) (again ++ restAgain)) :
    last = other ∧ Agree rest restAgain := by
  cases comes with
  | nobody =>
    cases comesAgain
    exact ⟨rfl, agree⟩
  | visitors enters =>
    cases comesAgain with
    | visitors entersAgain => exact enters.unique entersAgain agree

namespace Router

open Program

variable {router after : Router} {trace : Trace} {opened guests : List Descriptor}
  {number : Descriptor}

def view (router : Router) (guests : List Descriptor) (guest : Nat) : View where
  tally := router.statistics.tally
  guests := guests.length
  seat := (number? guests guest).bind router.registry.seat

theorem seat_add (sound : router.registry.Sound) (absent : number ∉ router.registry.ids) :
    (router.registry.add number ⟨number⟩).2.seat number = some ∅ := by
  have unsubscribed : ∀ mac, number ∉ router.registry.subscribers mac :=
    fun mac subscribed => absent (sound.mem_ids_of_mem_subscribers subscribed)
  rw [Registry.seat_eq_some (by simp [Registry.ids_add, absent])]
  simp [unsubscribed]

theorem seat_add_of_ne {client : ClientId} (absent : number ∉ router.registry.ids)
    (other : client ≠ number) :
    (router.registry.add number ⟨number⟩).2.seat client = router.registry.seat client := by
  apply Registry.seat_congr
  · simp [Registry.ids_add, absent, other]
  · simp

theorem seat_append (absent : number ∉ router.registry.ids)
    (others : ∀ client ≠ number, after.registry.seat client = router.registry.seat client)
    (guest : Nat) :
    (number? (guests ++ [number]) guest).bind after.registry.seat =
      if guest = guests.length then after.registry.seat number
      else (number? guests guest).bind router.registry.seat := by
  rw [number?_append]
  split
  · rfl
  cases number? guests guest with
  | none => rfl
  | some old =>
    by_cases same : old = number
    · subst same
      simp [Registry.seat_eq_none absent]
    · rw [Option.filter_some_pos (by simpa using same)]
      exact others old same

/-- A newcomer has a seat of its own if it can be watched, and takes nobody else's. -/
theorem view_of_welcome (secure : router.standing.Secure router.fixtures opened)
    (new : number ∉ opened) (runs : (router.welcome ⟨number⟩).Runs trace after) :
    trace.filterMap Exchange.guest? = []
      ∧ ∃ watched, trace.filterMap (Exchange.tiding? router.fixtures) = [.watched watched]
        ∧ ∀ guest, after.view (guests ++ [number]) guest
          = (router.view guests guest).welcomed guest watched := by
  have absent : number ∉ router.registry.ids := secure.absent new
  have unknown : router.registry.contains number = false := secure.unknown new
  have other : number ≠ router.listener.descriptor := (secure.apart_of_new new).1
  rcases runs_welcome runs with ⟨errno, rfl, rfl⟩ | ⟨closing, rfl, rfl, rfl⟩
  · refine ⟨rfl, .error errno, by simp [Exchange.tiding?, fixtures, other], ?_⟩
    intro guest
    rw [view, seat_append absent (fun _ _ => rfl), Registry.seat_eq_none absent, List.length_append]
    rfl
  · refine ⟨by simp [unknown, Exchange.guest?], .ok (),
      by simp [unknown, Exchange.tiding?, fixtures, other], ?_⟩
    intro guest
    rw [view, seat_append absent (fun _ different => seat_add_of_ne absent different),
      seat_add secure.consistent.sound absent, List.length_append]
    rfl

theorem idle_pauseAccept {errno : Errno} (runs : (router.pauseAccept errno).Runs trace after) :
    ∀ exchange ∈ trace, exchange.Idle router.fixtures := by
  have report : ∀ now : Nat, ∀ exchange ∈ router.acceptReport errno now,
      exchange.Idle router.fixtures := by
    intro now
    unfold acceptReport
    split <;> simp [Exchange.Idle]
  rcases runs_pauseAccept runs with ⟨now, ⟨-, rfl, -⟩ | ⟨-, _, rfl, -⟩⟩
  · rw [List.forall_mem_cons]
    exact ⟨trivial, report now⟩
  · rw [List.forall_mem_cons, List.forall_mem_append]
    exact ⟨trivial, report now, by simp [Exchange.Idle, fixtures]⟩

theorem view_of_pauseAccept {errno : Errno} (runs : (router.pauseAccept errno).Runs trace after)
    (guest : Nat) : after.view guests guest = (router.view guests guest).missed := by
  rcases runs_pauseAccept runs with ⟨now, ⟨-, -, rfl⟩ | ⟨-, _, -, rfl⟩⟩
  all_goals rfl

theorem secure_of_welcome {rest : Trace} (secure : router.standing.Secure router.fixtures opened)
    (fresh : AcceptsFresh opened (⟨.accept router.listener.descriptor, .ok number⟩ :: rest))
    (runs : (router.welcome ⟨number⟩).Runs rest after) :
    after.fixtures = router.fixtures ∧ after.standing.Secure after.fixtures
      (openAfter opened (⟨.accept router.listener.descriptor, .ok number⟩ :: rest)) := by
  have accepts : router.listener.accept.Runs
      [⟨.accept router.listener.descriptor, .ok number⟩] (.ok (some ⟨number⟩)) :=
    runs_accept.mpr (Or.inl ⟨number, rfl, rfl⟩)
  have stage := Stage.welcomes accepts runs
  exact ⟨stage.fixtures_eq, secure_of_stages (.single stage) secure fresh⟩

/-- Whoever waits is accepted, and every guest is concerned by what the system says at the door. -/
theorem enters_of_acceptClients (secure : router.standing.Secure router.fixtures opened)
    (fresh : AcceptsFresh opened trace) (runs : router.acceptClients.Runs trace after)
    (guest : Nat) :
    Enters guest (router.view guests guest) (trace.filterMap (Exchange.tiding? router.fixtures))
      (after.view (guests ++ trace.filterMap Exchange.guest?) guest) := by
  have rounds := runs_acceptClients runs
  clear runs
  -- Every round but the last adds a guest, so the induction is for all lists of guests.
  induction rounds generalizing guests opened with
  | last ends =>
    rcases runs_acceptOnce ends with
      ⟨errno, transient, rfl, same⟩ | ⟨errno, rest, _, lasting, rfl, pauses, same⟩
        | ⟨_, _, _, -, -, same⟩
    · cases same
      rw [guests_accept_error, List.filterMap_nil, List.append_nil]
      exact .nobody transient
    · cases same
      have idle := idle_pauseAccept pauses
      rw [guests_accept_error, guests_of_idle idle, List.append_nil, tidings_accept,
        tidings_of_idle idle, view_of_pauseAccept pauses]
      exact .fails lasting
    · cases same
  | again goesOn _ ih =>
    rcases runs_acceptOnce goesOn with
      ⟨_, -, -, same⟩ | ⟨_, _, _, -, -, -, same⟩ | ⟨number, rest, _, rfl, welcomes, same⟩
    · cases same
    · cases same
    · cases same
      rw [acceptsFresh_append] at fresh
      rcases secure_of_welcome secure fresh.1 welcomes with ⟨fixtures, secureNext⟩
      rcases view_of_welcome secure fresh.1.not_mem welcomes with ⟨nobody, watched, tiding, view⟩
      have later := @ih _ (guests ++ [number]) secureNext fresh.2
      rw [fixtures, view, List.append_assoc] at later
      rw [List.cons_append, guests_accept_ok, tidings_accept, List.filterMap_append,
        List.filterMap_append, nobody, tiding]
      exact .another later

end Router

end RadioRelay
