import RadioRelay.Proofs.Router.Guests
import RadioRelay.Proofs.Router.Tenure

/-!
# A turn in the view of one client

What a turn of the loop means for a client follows from what the system shows
of the client itself, of the listener and of the kernel (`Router.lives_of_turn`),
and from nothing else (`Lives.unique`).
-/

namespace RadioRelay

/-! ### What a wait reports -/

namespace Exchange

def reported : Exchange → List Readiness
  | ⟨.wait _ _ _, .ok reported⟩ => reported.stored
  | _ => []

/-- A wait stores as many events as it says, and no more than there is room for. -/
def ReportsAll : Exchange → Prop
  | ⟨.wait _ capacity _, .ok reported⟩ =>
    reported.count = reported.stored.length ∧ reported.count ≤ capacity
  | _ => True

def reportsAll : Exchange → Bool
  | ⟨.wait _ capacity _, .ok reported⟩ =>
    reported.count = reported.stored.length ∧ reported.count ≤ capacity
  | _ => true

theorem reportsAll_iff {exchange : Exchange} :
    exchange.reportsAll = true ↔ exchange.ReportsAll := by
  unfold reportsAll ReportsAll
  split <;> simp

instance decidableReportsAll : DecidablePred ReportsAll :=
  fun _ => decidable_of_iff _ reportsAll_iff

theorem AtDoor.reported {exchange : Exchange} (door : exchange.AtDoor) :
    exchange.reported = [] := by
  unfold Exchange.reported
  split
  · cases door
  · rfl

theorem AtDoor.brought? {exchange : Exchange} (door : exchange.AtDoor) (source : Descriptor) :
    exchange.brought? source = none := by
  unfold Exchange.brought?
  split
  · cases door
  · rfl

end Exchange

namespace Router

open Program

variable {router after : Router} {trace : Trace}

theorem reported_of_wait {timeout : Int} {events : Except Failure (List Readiness)}
    {poller : Poller} (reports : ∀ exchange ∈ trace, exchange.ReportsAll)
    (runs : (router.poller.wait timeout).Runs trace (events, poller)) :
    trace.flatMap Exchange.reported = events.toOption.getD [] := by
  rcases runs_wait runs with ⟨-, rfl, same⟩ | ⟨errno | reported, rfl, same⟩
  · cases same
    rfl
  · cases same
    by_cases interrupted : errno = .interrupted <;>
      simp [Exchange.reported, interrupted, Except.toOption]
  · cases same
    rcases reports _ (List.mem_cons_self ..) with ⟨count, fits⟩
    have all : (router.poller.store reported.stored).events reported.count = reported.stored := by
      rw [count]
      exact events_store (count ▸ fits)
    simp [Exchange.reported, all, Except.toOption]

end Router

/-! ### The kernel -/

def Fixtures.options (fixed : Fixtures) : RouterOptions where
  family := fixed.family
  maxClientMessage := fixed.clientCapacity
  kernelBuffer := fixed.kernelCapacity

/-- The frame that the kernel handed over, if it is one and fits. -/
def RouterOptions.framed? (options : RouterOptions) : Attempt Received → Option Notification :=
  RadioRelay.framed? options.kernelBuffer options.family

def Tally.counted (tally : Tally) (options : RouterOptions) : Attempt Received → Tally
  | .error _ => tally
  | .ok received =>
    match options.framed? (.ok received) with
    | some _ => { tally with notifications := tally.notifications + 1 }
    | none => { tally with ignored := tally.ignored + 1 }

/-- What the kernel hands over, what a guest is sent of it, and how it is concerned. -/
inductive Hears (options : RouterOptions) : Bool → View → List Tiding →
    List (Bytes × Attempt Nat) → View → Prop
  | silent {view : View} : Hears options false view [] [] view
  | datagram {view last : View} {answer : Attempt Received} {sends : List (Bytes × Attempt Nat)}
    (tally : last.tally = view.tally.counted options answer) (guests : last.guests = view.guests)
    (mailed : Mailed (options.framed? answer) view.seat sends last.seat) :
    Hears options true view [.handed answer] sends last

namespace Router

open Program

variable {router after : Router} {trace rest : Trace} {answer : Attempt Received}

theorem tally_of_forwarded
    (faithful : Exchange.Faithful ⟨.receive router.kernel router.kernelBuffer.capacity, answer⟩)
    (forwarded : Forwarded router answer rest after) :
    after.statistics.tally = router.statistics.tally.counted router.fixtures.options answer := by
  rcases answer with errno | received
  · rw [forwarded.2]
    rfl
  have heard : router.heard? received = router.fixtures.options.framed? (.ok received) :=
    heard?_eq_framed? faithful
  simp only [Forwarded, heard] at forwarded
  unfold Tally.counted
  split at forwarded
  next nothing =>
    simp only [nothing]
    rw [forwarded.2]
    rfl
  next notification some =>
    simp only [some]
    split at forwarded
    · rw [forwarded.2]
      rfl
    · rcases forwarded with ⟨_, -, -, rfl⟩
      rfl

theorem tends_handleKernel (consistent : router.standing.Consistent)
    (runs : router.handleKernel.Runs
      (⟨.receive router.kernel router.kernelBuffer.capacity, answer⟩ :: rest) after) :
    ∀ exchange ∈ rest, ∃ client, exchange.Tends client := by
  have logged : ∀ {notices : Trace},
      (∀ exchange ∈ notices, ∃ notice, exchange = ⟨.log notice, ()⟩) →
        ∀ exchange ∈ notices, ∃ client, exchange.Tends client := by
    intro notices each exchange exchangeMem
    rcases each exchange exchangeMem with ⟨notice, rfl⟩
    exact ⟨router.kernel, trivial⟩
  rcases runs_handleKernel runs with
    ⟨_, _, same, notices, -⟩ | ⟨received, _, same, ⟨-, notices, -⟩ | ⟨notification, -, forwards⟩⟩
  all_goals cases same
  · exact logged notices
  · exact logged notices
  · intro exchange exchangeMem
    rcases tends_forward consistent forwards exchange exchangeMem with ⟨client, -, tends⟩
    exact ⟨client, tends⟩

end Router

/-! ### A turn in the view of one guest -/

/-- What the system shows in a turn, as far as it concerns one guest. -/
structure Showing where
  woken : Bool
  knocked : Bool
  framed : Bool
  tidings : List Tiding
  signs : List Sign
  reads : List (Attempt Received)

/-- The same is shown, as far as both look. -/
structure Showing.Alike (first second : Showing) : Prop where
  woken : first.woken = second.woken
  knocked : first.knocked = second.knocked
  framed : first.framed = second.framed
  tidings : Agree first.tidings second.tidings
  signs : first.signs = second.signs
  reads : Agree first.reads second.reads

instance decidableAlike (first second : Showing) : Decidable (first.Alike second) :=
  decidable_of_iff (first.woken = second.woken ∧ first.knocked = second.knocked
      ∧ first.framed = second.framed ∧ Agree first.tidings second.tidings
      ∧ first.signs = second.signs ∧ Agree first.reads second.reads)
    ⟨fun ⟨woken, knocked, framed, tidings, signs, reads⟩ =>
        ⟨woken, knocked, framed, tidings, signs, reads⟩,
      fun ⟨woken, knocked, framed, tidings, signs, reads⟩ =>
        ⟨woken, knocked, framed, tidings, signs, reads⟩⟩

/-- What is shown to a guest in a turn, what it is sent, and where that leaves it. -/
inductive Lives (options : RouterOptions) (guest : Nat) (showing : Showing) :
    View → List (Bytes × Attempt Nat) → View → Prop
  | stops {view : View} (woken : showing.woken = true) : Lives options guest showing view [] view
  | goesOn {view entered heard last : View} {coming hearing : List Tiding}
    {mailed answered : List (Bytes × Attempt Nat)} (awake : showing.woken = false)
    (tidings : showing.tidings = coming ++ hearing)
    (comes : Comes guest showing.knocked view coming entered)
    (hears : Hears options showing.framed entered hearing mailed heard)
    (attended : Attended options.maxClientMessage heard.seat showing.signs showing.reads answered
      last.seat)
    (tally : last.tally = heard.tally) (guests : last.guests = heard.guests) :
    Lives options guest showing view (mailed ++ answered) last

section Uniqueness

variable {options : RouterOptions} {guest : Nat} {view last other : View} {showing again : Showing}
  {tidings tidingsAgain : List Tiding} {sends sendsAgain : List (Bytes × Attempt Nat)}

theorem Hears.unique {framed : Bool} {rest restAgain : List (Attempt Nat)}
    (hears : Hears options framed view tidings sends last)
    (hearsAgain : Hears options framed view tidingsAgain sendsAgain other)
    (agree : Agree tidings tidingsAgain)
    (outcomes : Agree (sends.map (·.2) ++ rest) (sendsAgain.map (·.2) ++ restAgain)) :
    sends = sendsAgain ∧ last = other := by
  cases hears with
  | silent =>
    cases hearsAgain
    exact ⟨rfl, rfl⟩
  | datagram tally guests mailed =>
    cases hearsAgain with
    | datagram tallyAgain guestsAgain mailedAgain =>
      cases (agree_cons.mp agree).1
      rcases mailed.unique mailedAgain outcomes with ⟨rfl, seat⟩
      exact ⟨rfl, View.ext (tally.trans tallyAgain.symm) (guests.trans guestsAgain.symm) seat⟩

/-- A guest to whom the same is shown is sent the same, and is left in the same place. -/
theorem Lives.unique (lives : Lives options guest showing view sends last)
    (livesAgain : Lives options guest again view sendsAgain other) (alike : showing.Alike again)
    (outcomes : Agree (sends.map (·.2)) (sendsAgain.map (·.2))) :
    sends = sendsAgain ∧ last = other := by
  rcases alike with ⟨woken, knocked, framed, agree, signs, reads⟩
  cases lives with
  | stops wakes =>
    cases livesAgain with
    | stops => exact ⟨rfl, rfl⟩
    | goesOn awake =>
      rw [← woken, wakes] at awake
      cases awake
  | goesOn awake tidings comes hears attended tally guests =>
    cases livesAgain with
    | stops wakes =>
      rw [← woken, awake] at wakes
      cases wakes
    | goesOn _ tidingsAgain comesAgain hearsAgain attendedAgain tallyAgain guestsAgain =>
      rw [tidings, tidingsAgain] at agree
      rw [← knocked] at comesAgain
      rw [← framed] at hearsAgain
      rw [← signs] at attendedAgain
      rw [List.map_append, List.map_append] at outcomes
      rcases comes.unique comesAgain agree with ⟨rfl, remaining⟩
      rcases hears.unique hearsAgain remaining outcomes with ⟨rfl, rfl⟩
      rcases attended.unique attendedAgain reads (agree_append.mp outcomes) with ⟨rfl, seat⟩
      exact ⟨rfl, View.ext (tally.trans tallyAgain.symm) (guests.trans guestsAgain.symm) seat⟩

end Uniqueness

section Absence

variable {options : RouterOptions} {framed : Bool} {view last : View} {tidings : List Tiding}
  {sends : List (Bytes × Attempt Nat)}

theorem Mailed.absent {frame? : Option Notification} {after : Option (Set MacAddress)}
    (mailed : Mailed frame? none sends after) : sends = [] ∧ after = none := by
  cases mailed
  exact ⟨rfl, rfl⟩

/-- Who is not connected is sent nothing of what the kernel hands over. -/
theorem Hears.absent (hears : Hears options framed view tidings sends last)
    (gone : view.seat = none) : sends = [] ∧ last.seat = none := by
  cases hears with
  | silent => exact ⟨rfl, gone⟩
  | datagram _ _ mailed =>
    rw [gone] at mailed
    exact mailed.absent

theorem Attended.absent_of_none {capacity : Nat} {signs : List Sign}
    {reads : List (Attempt Received)} {after : Option (Set MacAddress)}
    (attended : Attended capacity none signs reads sends after) : sends = [] ∧ after = none := by
  cases attended
  exact ⟨rfl, rfl⟩

end Absence

/-! ### The calls of a turn -/

/-- Nothing in a trace concerns a client or the kernel. -/
structure Unseen (fixed : Fixtures) (trace : Trace) : Prop where
  guests : trace.filterMap Exchange.guest? = []
  tidings : trace.filterMap (Exchange.tiding? fixed) = []
  reads : ∀ source, trace.filterMap (Exchange.brought? source) = []
  sends : ∀ client, trace.filterMap (Exchange.sentTo? client) = []

theorem unseen_of_idle {fixed : Fixtures} {trace : Trace}
    (idle : ∀ exchange ∈ trace, exchange.Idle fixed) : Unseen fixed trace := by
  refine ⟨guests_of_idle idle, tidings_of_idle idle, ?_, ?_⟩
  · intro source
    rw [List.filterMap_eq_nil_iff]
    intro exchange exchangeMem
    have quiet := idle exchange exchangeMem
    unfold Exchange.brought?
    split
    · cases quiet
    · rfl
  · intro client
    rw [List.filterMap_eq_nil_iff]
    intro exchange exchangeMem
    have quiet := idle exchange exchangeMem
    have unsent : exchange.sent? = none := by
      unfold Exchange.sent?
      split
      · cases quiet
      · rfl
    rw [Exchange.sentTo?, unsent]
    rfl

namespace Exchange

variable {fixed : Fixtures} {client : ClientId} {exchange : Exchange}

theorem Serves.guest? (serves : exchange.Serves client) : exchange.guest? = none := by
  unfold Exchange.guest?
  split
  · cases serves
  · rfl

theorem Serves.reported (serves : exchange.Serves client) : exchange.reported = [] := by
  unfold Exchange.reported
  split
  · cases serves
  · rfl

theorem Serves.tiding? (serves : exchange.Serves client) (other : client ≠ fixed.kernel) :
    exchange.tiding? fixed = none := by
  unfold Exchange.tiding?
  split
  · cases serves
  · cases serves
  · rcases serves with rfl
    exact if_neg other
  · rfl

theorem Tends.tiding? (tends : exchange.Tends client) : exchange.tiding? fixed = none := by
  rcases exchange with ⟨call, answer⟩
  cases call with
  | send | unwatch | close | log => rfl
  | _ => cases tends

end Exchange

theorem aside_of_serves {trace : Trace}
    (serves : ∀ exchange ∈ trace, ∃ client, exchange.Serves client) :
    trace.filterMap Exchange.guest? = [] ∧ trace.flatMap Exchange.reported = [] := by
  rw [List.filterMap_eq_nil_iff, List.flatMap_eq_nil_iff]
  constructor
  · intro exchange exchangeMem
    exact (serves exchange exchangeMem).choose_spec.guest?
  · intro exchange exchangeMem
    exact (serves exchange exchangeMem).choose_spec.reported

namespace Router

open Program

variable {router after : Router} {trace : Trace} {opened known guests : List Descriptor}
  {guest : Nat}

theorem aside_of_door (door : ∀ exchange ∈ trace, exchange.AtDoor) :
    trace.flatMap Exchange.reported = []
      ∧ (∀ source, trace.filterMap (Exchange.brought? source) = [])
      ∧ ∀ client, trace.filterMap (Exchange.sentTo? client) = [] := by
  refine ⟨?_, ?_, ?_⟩
  · rw [List.flatMap_eq_nil_iff]
    exact fun exchange exchangeMem => (door exchange exchangeMem).reported
  · intro source
    rw [List.filterMap_eq_nil_iff]
    exact fun exchange exchangeMem => (door exchange exchangeMem).brought? source
  · intro client
    rw [sentTo_eq_filterMap, List.filterMap_eq_nil_iff.mpr (unsent_of_door door)]
    rfl

theorem quiet_of_hears {framed : Bool} (consistent : router.standing.Consistent)
    (hears : if framed then router.handleKernel.Runs trace after
      else trace = [] ∧ after = router) : trace.flatMap Exchange.reported = [] := by
  cases framed with
  | false =>
    rcases hears with ⟨rfl, -⟩
    rfl
  | true =>
    rcases forwarded_of_runs consistent hears with ⟨answer, rest, rfl, -⟩
    have aside := aside_of_serves fun exchange exchangeMem =>
      (tends_handleKernel consistent hears exchange exchangeMem).imp fun _ tends => tends.serves
    rw [List.flatMap_cons, aside.2]
    rfl

theorem quiet_of_acts {batch : Batch} (consistent : router.standing.Consistent)
    (others : ∀ event ∈ batch.clients, event.descriptor ≠ router.kernel)
    (acts : router.Acts batch trace after) : trace.flatMap Exchange.reported = [] := by
  rcases inParts_of_acts consistent others acts with
    ⟨coming, hearing, serving, entered, heard, rfl, parts⟩
  have served := serves_of_serveClients parts.consistentHeard parts.others parts.serves
  have aside := aside_of_serves fun exchange exchangeMem => by
    rcases served exchange exchangeMem with ⟨event, -, servesNow⟩
    exact ⟨event.descriptor, servesNow⟩
  simp [(aside_of_door (course_of_comes parts.comes).2).1,
    quiet_of_hears parts.consistentEntered parts.hears, aside.2]

theorem elim_nil {α β : Type} (reached : Option α) :
    (reached.elim [] fun _ => []) = ([] : List β) := by
  cases reached <;> rfl

/-- As a datagram is handed over, or none, nobody comes in and no client is read. Every guest is
concerned by what the datagram is. -/
structure Announced (framed : Bool) (router : Router) (trace : Trace) (after : Router) : Prop where
  nobody : trace.filterMap Exchange.guest? = []
  quiet : trace.flatMap Exchange.reported = []
  unread : ∀ source ≠ router.kernel, trace.filterMap (Exchange.brought? source) = []
  hears : ∀ guests guest, Hears router.fixtures.options framed (router.view guests guest)
    (trace.filterMap (Exchange.tiding? router.fixtures))
    ((number? guests guest).elim [] fun number => trace.filterMap (Exchange.sentTo? number))
    (after.view guests guest)

theorem announced_of_handleKernel (consistent : router.standing.Consistent)
    (faithful : ∀ exchange ∈ trace, exchange.Faithful)
    (runs : router.handleKernel.Runs trace after) : Announced true router trace after := by
  rcases forwarded_of_runs consistent runs with ⟨answer, rest, rfl, forwarded⟩
  have tends := tends_handleKernel consistent runs
  have aside := aside_of_serves fun exchange exchangeMem =>
    (tends exchange exchangeMem).imp fun _ tendsNow => tendsNow.serves
  have faithfulNow := faithful _ (List.mem_cons_self ..)
  have tidings : rest.filterMap (Exchange.tiding? router.fixtures) = [] := by
    rw [List.filterMap_eq_nil_iff]
    intro exchange exchangeMem
    exact (tends exchange exchangeMem).choose_spec.tiding?
  have handed : Exchange.tiding? router.fixtures
      ⟨.receive router.kernel router.kernelBuffer.capacity, answer⟩ = some (.handed answer) :=
    if_pos rfl
  refine ⟨aside.1, aside.2, ?_, ?_⟩
  · intro source other
    have unread : Exchange.brought? source
        ⟨.receive router.kernel router.kernelBuffer.capacity, answer⟩ = none :=
      if_neg (Ne.symm other)
    rw [List.filterMap_cons_none unread, List.filterMap_eq_nil_iff]
    intro exchange exchangeMem
    exact (tends exchange exchangeMem).choose_spec.brought?
  · intro guests guest
    rw [List.filterMap_cons_some handed, tidings]
    refine .datagram (tally_of_forwarded faithfulNow forwarded) rfl ?_
    -- A guest whose number was given away has no seat, and nothing is sent to it.
    cases number : number? guests guest with
    | none =>
      simp only [view, number]
      exact .of_vacant
    | some client =>
      simp only [view, number]
      exact mailed_of_forwarded consistent faithfulNow forwarded

theorem announced_of_runs {framed : Bool} (consistent : router.standing.Consistent)
    (faithful : ∀ exchange ∈ trace, exchange.Faithful)
    (hears : if framed then router.handleKernel.Runs trace after
      else trace = [] ∧ after = router) : Announced framed router trace after := by
  cases framed with
  | true => exact announced_of_handleKernel consistent faithful hears
  | false =>
    rcases hears with ⟨rfl, rfl⟩
    refine ⟨rfl, rfl, fun _ _ => rfl, ?_⟩
    intro guests guest
    simp only [List.filterMap_nil, elim_nil]
    exact .silent

/-- As ready clients are served, nobody comes in and no datagram is read. Every guest is served by
what it shows and is read itself. -/
structure Hosted (events : List Readiness) (router : Router) (trace : Trace) (after : Router) :
    Prop where
  nobody : trace.filterMap Exchange.guest? = []
  quiet : trace.flatMap Exchange.reported = []
  unsaid : trace.filterMap (Exchange.tiding? router.fixtures) = []
  tally : after.statistics.tally = router.statistics.tally
  attended : ∀ guests guest, Attended router.fixtures.options.maxClientMessage
    (router.view guests guest).seat
    ((number? guests guest).elim [] fun number =>
      (events.filter (·.descriptor = number)).map Readiness.sign)
    ((number? guests guest).elim [] fun number => trace.filterMap (Exchange.brought? number))
    ((number? guests guest).elim [] fun number => trace.filterMap (Exchange.sentTo? number))
    (after.view guests guest).seat

theorem hosted_of_serveClients {events : List Readiness}
    (secure : router.standing.Secure router.fixtures opened)
    (others : ∀ event ∈ events, event.descriptor ≠ router.kernel)
    (faithful : ∀ exchange ∈ trace, exchange.Faithful)
    (runs : (router.serveClients events).Runs trace after) : Hosted events router trace after := by
  rcases attended_of_serveClients secure.consistent others faithful runs with
    ⟨serves, tally, attended⟩
  have aside := aside_of_serves fun exchange exchangeMem =>
    (serves exchange exchangeMem).imp fun _ servesNow => servesNow.2
  refine ⟨aside.1, aside.2, ?_, tally, ?_⟩
  · rw [List.filterMap_eq_nil_iff]
    intro exchange exchangeMem
    rcases serves exchange exchangeMem with ⟨client, connected, servesNow⟩
    exact servesNow.tiding? (secure.apart client connected).2.1
  · intro guests guest
    cases number : number? guests guest with
    | none =>
      simp only [view, number]
      exact .absent
    | some client =>
      simp only [view, number]
      exact attended client

theorem comes_of_runs {knocked : Bool} (known : List Descriptor) (guest : Nat)
    (secure : router.standing.Secure router.fixtures opened)
    (fresh : AcceptsFresh opened trace)
    (comes : if knocked then router.acceptClients.Runs trace after
      else trace = [] ∧ after = router) :
    Comes guest knocked (router.view known guest)
      (trace.filterMap (Exchange.tiding? router.fixtures))
      (after.view (known ++ trace.filterMap Exchange.guest?) guest) := by
  cases knocked with
  | true => exact .visitors (enters_of_acceptClients secure fresh comes guest)
  | false =>
    rcases comes with ⟨rfl, rfl⟩
    rw [List.filterMap_nil, List.filterMap_nil, List.append_nil]
    exact .nobody

/-- The number under which a guest is reached in a turn, if it is connected or comes in. -/
def reached? (router : Router) (known guests : List Descriptor) (guest : Nat) : Option Descriptor :=
  (number? guests guest).filter fun number => known.length ≤ guest ∨ number ∈ router.registry.ids

theorem ne_kernel_of_accepts {before later : Trace} {accepting : Exchange} {number : Descriptor}
    (course : Course Stage router trace after)
    (secure : router.standing.Secure router.fixtures opened) (fresh : AcceptsFresh opened trace)
    (split : trace = before ++ accepting :: later) (accepts : accepting.accepts number = true) :
    number ≠ router.kernel := by
  have moves := (moves_of_course course secure.consistent).2
  rcases moves.before_accept split accepts with ⟨_, earlier⟩
  rw [split, acceptsFresh_append] at fresh
  have isOpen := (secure_of_course earlier secure fresh.1).own_open.2.1
  rintro rfl
  have free := fresh.2.1 _ isOpen
  rw [show router.fixtures.kernel = router.kernel from rfl, accepts] at free
  cases free

theorem ne_kernel_of_reached {number : Descriptor} (course : Course Stage router trace after)
    (secure : router.standing.Secure router.fixtures opened) (fresh : AcceptsFresh opened trace)
    (numbers : guests = known ++ trace.filterMap Exchange.guest?)
    (reached : router.reached? known guests guest = some number) : number ≠ router.kernel := by
  rcases Option.filter_eq_some_iff.mp reached with ⟨full, either⟩
  -- Whoever comes in this turn is accepted under a number that is not open, the kernel's is.
  rcases of_decide_eq_true either with late | connected
  · have found : guests[guest]? = some number := (Option.filter_eq_some_iff.mp full).1
    rw [numbers, List.getElem?_append_right late] at found
    rcases List.mem_filterMap.mp (List.mem_of_getElem? found) with ⟨accepting, accepted, same⟩
    rcases List.append_of_mem accepted with ⟨before, later, split⟩
    refine ne_kernel_of_accepts course secure fresh split ?_
    unfold Exchange.guest? at same
    split at same
    · cases same
      simp [Exchange.accepts]
    · cases same
  · exact (secure.apart number connected).2.1

theorem seat_of_unreached {entered : Router} {knocked : Bool} {tidings : List Tiding}
    {more : List Descriptor} (numbers : guests = known ++ more)
    (comes : Comes guest knocked (router.view known guest) tidings (entered.view guests guest))
    (unreached : router.reached? known guests guest = none) :
    (entered.view guests guest).seat = none := by
  cases full : number? guests guest with
  | none => simp [view, full]
  | some number =>
    rw [reached?, full, Option.filter_eq_none_iff] at unreached
    have lost := unreached number rfl
    simp only [decide_eq_true_eq, not_or, Nat.not_le] at lost
    rw [numbers] at full
    rw [comes.seat lost.1, view, number?_of_append full lost.1]
    exact Registry.seat_eq_none lost.2

theorem lives_of_acts {batch : Batch} (known : List Descriptor) (guest : Nat)
    (secure : router.standing.Secure router.fixtures opened)
    (fresh : AcceptsFresh opened trace) (faithful : ∀ exchange ∈ trace, exchange.Faithful)
    (others : ∀ event ∈ batch.clients, event.descriptor ≠ router.kernel)
    (acts : router.Acts batch trace after)
    (numbers : guests = known ++ trace.filterMap Exchange.guest?) :
    trace.flatMap Exchange.reported = [] ∧ Lives router.fixtures.options guest
      { woken := false
        knocked := batch.listener
        framed := batch.kernel
        tidings := trace.filterMap (Exchange.tiding? router.fixtures)
        signs := (router.reached? known guests guest).elim [] fun number =>
          (batch.clients.filter (·.descriptor = number)).map Readiness.sign
        reads := (router.reached? known guests guest).elim [] fun number =>
          trace.filterMap (Exchange.brought? number) }
      (router.view known guest)
      ((router.reached? known guests guest).elim [] fun number =>
        trace.filterMap (Exchange.sentTo? number))
      (after.view guests guest) := by
  have apart : ∀ number, router.reached? known guests guest = some number →
      number ≠ router.kernel :=
    fun _ => ne_kernel_of_reached (halved_of_acts others acts).course secure fresh numbers
  -- The three parts begin in three routers, which have the same fixtures and are all secure.
  rcases acts with ⟨coming, hearing, serving, entered, heard, rfl, comes, hears, serves⟩
  rcases course_of_comes comes with ⟨opening, door⟩
  have middle := (course_of_hears hears).1
  rw [acceptsFresh_append, acceptsFresh_append] at fresh
  simp only [List.forall_mem_append] at faithful
  have sameEntered := fixtures_course opening
  have sameHeard := (fixtures_course middle).trans sameEntered
  have secureEntered := secure_of_stages opening secure fresh.1
  have secureHeard := secure_of_stages middle secureEntered fresh.2.1
  have kernelHeard : heard.kernel = router.kernel := congrArg Fixtures.kernel sameHeard
  have kernelEntered : entered.kernel = router.kernel := congrArg Fixtures.kernel sameEntered
  have comesView := comes_of_runs known guest secure fresh.1 comes
  rcases aside_of_door door with ⟨quiet, unread, unsent⟩
  have announced := announced_of_runs secureEntered.consistent faithful.2.1 hears
  have hosted := hosted_of_serveClients secureHeard (kernelHeard ▸ others) faithful.2.2 serves
  simp only [List.filterMap_append, announced.nobody, hosted.nobody, List.append_nil] at numbers
  rw [← numbers] at comesView
  have hearsNow := announced.hears guests guest
  have attendedNow := hosted.attended guests guest
  have unsaid := hosted.unsaid
  rw [sameEntered] at hearsNow
  rw [sameHeard] at attendedNow unsaid
  refine ⟨by simp [quiet, announced.quiet, hosted.quiet], ?_⟩
  cases reached : router.reached? known guests guest with
  | some number =>
    have full := (Option.filter_eq_some_iff.mp reached).1
    have other : number ≠ entered.kernel := kernelEntered ▸ apart number reached
    simp only [full, Option.elim_some] at hearsNow attendedNow
    simp only [Option.elim_some, List.filterMap_append, unread, unsent,
      announced.unread number other, unsaid, List.nil_append, List.append_nil]
    exact .goesOn rfl rfl comesView hearsNow attendedNow hosted.tally rfl
  | none =>
    -- The number may be another's by now, so what happens under it is not told of this guest.
    have gone := seat_of_unreached numbers comesView reached
    rcases hearsNow.absent gone with ⟨unmailed, still⟩
    rw [unmailed] at hearsNow
    rw [still] at attendedNow
    have left := attendedNow.absent_of_none.2
    simp only [Option.elim_none, List.filterMap_append, unsaid, List.append_nil]
    change Lives _ _ _ _ ([] ++ []) _
    refine .goesOn rfl rfl comesView hearsNow ?_ hosted.tally rfl
    rw [still, left]
    exact .absent

/-! ### A turn from its beginning -/

theorem idle_resumeAccept {outcome : Except Failure Router}
    (runs : router.resumeAccept.Runs trace outcome) :
    (∀ exchange ∈ trace, exchange.Idle router.fixtures)
      ∧ ∀ resumed, outcome = .ok resumed →
        resumed.registry = router.registry ∧ resumed.statistics = router.statistics := by
  rcases runs_resumeAccept runs with
    ⟨-, rfl, rfl⟩ | ⟨_, _, -, ⟨-, rfl, rfl⟩ | ⟨-, _ | _, rfl, rfl⟩⟩
  all_goals simp [Exchange.Idle, fixtures]

theorem idle_boundedTimeout {timeout bounded : Int} {fixed : Fixtures}
    (runs : (router.boundedTimeout timeout).Runs trace bounded) :
    ∀ exchange ∈ trace, exchange.Idle fixed := by
  rcases runs_boundedTimeout runs with ⟨-, rfl, -⟩ | ⟨_, _, -, rfl, -⟩
  all_goals simp [Exchange.Idle]

theorem idle_wait {timeout : Int} {events : Except Failure (List Readiness)} {poller : Poller}
    {fixed : Fixtures} (runs : (router.poller.wait timeout).Runs trace (events, poller)) :
    ∀ exchange ∈ trace, exchange.Idle fixed := by
  intro exchange exchangeMem
  rcases (kept_of_wait runs).1 exchange exchangeMem with ⟨answer, rfl⟩
  trivial

theorem idle_of_woken {drained : Attempt Unit} {draining : Trace} {fixed : Fixtures}
    (drains : router.wake.drain.Runs draining drained)
    (whole : trace = draining ∨ trace = draining ++ [⟨.log .shutdownRequested, ()⟩]) :
    (∀ exchange ∈ trace, exchange.Idle fixed) ∧ trace.flatMap Exchange.reported = [] := by
  have idle : ∀ exchange ∈ draining, exchange.Idle fixed := by
    intro exchange exchangeMem
    rcases reads_of_drain drains exchange exchangeMem with ⟨answer, rfl⟩
    trivial
  have quiet := (aside_of_door (door_drain drains)).1
  rcases whole with rfl | rfl
  · exact ⟨idle, quiet⟩
  · rw [List.forall_mem_append, List.flatMap_append, quiet]
    exact ⟨⟨idle, by simp [Exchange.Idle]⟩, rfl⟩

theorem classify_congr {other : Router} {events : List Readiness}
    (same : other.fixtures = router.fixtures) : other.classify events = router.classify events := by
  have listener : other.listener.descriptor = router.listener.descriptor :=
    congrArg Fixtures.listener same
  have kernel : other.kernel = router.kernel := congrArg Fixtures.kernel same
  have wake : other.wake.descriptor = router.wake.descriptor := congrArg Fixtures.wake same
  simp only [classify, listener, kernel, wake]

/-- After a wait nothing has changed for the clients. What the wait reported says what follows: the
router was woken, or it acts. -/
theorem parts_of_turn (turn : Turn router trace after) :
    ∃ opening rest ready events, trace = opening ++ rest ∧ Course Stage router opening ready
      ∧ (∀ exchange ∈ opening, exchange.Idle router.fixtures)
      ∧ (ready.registry = router.registry ∧ ready.statistics = router.statistics)
      ∧ ((∀ exchange ∈ opening, exchange.ReportsAll) →
        opening.flatMap Exchange.reported = events)
      ∧ (((router.classify events).wake = true ∧ after = ready
          ∧ (∀ exchange ∈ rest, exchange.Idle router.fixtures)
          ∧ rest.flatMap Exchange.reported = [])
        ∨ ((router.classify events).wake = false ∧ ready.Acts (router.classify events) rest after)) := by
  -- A turn that fails before anything is reported acts on nothing.
  have stuck : ∀ ready : Router, ready.Acts (router.classify []) [] ready := by
    intro ready
    exact ⟨[], [], [], ready, ready, rfl, ⟨rfl, rfl⟩, ⟨rfl, rfl⟩, rfl, rfl⟩
  rcases turn with ⟨timeout, outcome, runs⟩
  rcases runs_pollOnce runs with
    ⟨failure, resumes, -, rfl⟩
      | ⟨resuming, bounding, waiting, rest, resumed, _, events, poller, rfl, resumes, bounds,
        waits, ends⟩
  · have quiet := (aside_of_door (door_resumeAccept resumes)).1
    exact ⟨trace, [], after, [], (List.append_nil _).symm, .single (.failsToResume resumes),
      (idle_resumeAccept resumes).1, ⟨rfl, rfl⟩, fun _ => quiet, Or.inr ⟨rfl, stuck after⟩⟩
  · have course : Course Stage router (resuming ++ (bounding ++ waiting))
        { resumed with poller := poller } :=
      (Course.single (.resumes resumes)).append
        ((Course.single (.bounds bounds)).append (.single (.waits waits)))
    have idle : ∀ exchange ∈ resuming ++ (bounding ++ waiting), exchange.Idle router.fixtures := by
      simp only [List.forall_mem_append]
      exact ⟨(idle_resumeAccept resumes).1, idle_boundedTimeout bounds, idle_wait waits⟩
    refine ⟨resuming ++ (bounding ++ waiting), rest, _, events.toOption.getD [], by simp, course,
      idle, (idle_resumeAccept resumes).2 resumed rfl, ?_, ?_⟩
    · intro reports
      simp only [List.forall_mem_append] at reports
      simp [(aside_of_door (door_resumeAccept resumes)).1,
        (aside_of_door (door_boundedTimeout bounds)).1, reported_of_wait reports.2.2 waits]
    · rcases events with failure | events
      · rcases ends with ⟨rfl, -, rfl⟩
        exact Or.inr ⟨rfl, stuck _⟩
      · dsimp only at ends
        rw [classify_congr (Stage.resumes resumes).fixtures_eq] at ends
        rcases runs_dispatch ends with
          ⟨woken, rfl, _, draining, drains, ⟨_, -, rfl, -⟩ | ⟨-, rfl, -⟩⟩ | ⟨awake, -, acts⟩
        · exact Or.inl ⟨woken, rfl, idle_of_woken drains (Or.inl rfl)⟩
        · exact Or.inl ⟨woken, rfl, idle_of_woken drains (Or.inr rfl)⟩
        · exact Or.inr ⟨awake, acts⟩

end Router

/-- A turn of the loop, with the numbers of all who were accepted before it. -/
structure Lap where
  before : Router
  known : List Descriptor
  trace : Trace
  after : Router

namespace Lap

variable (lap : Lap) (guest : Nat)

def guests : List Descriptor := lap.known ++ lap.trace.filterMap Exchange.guest?

def batch : Router.Batch := lap.before.classify (lap.trace.flatMap Exchange.reported)

def number? : Option Descriptor := lap.before.reached? lap.known lap.guests guest

/-- What the system shows in the turn, as far as it concerns a guest. -/
def showing : Showing where
  woken := lap.batch.wake
  knocked := lap.batch.listener
  framed := lap.batch.kernel
  tidings := lap.trace.filterMap (Exchange.tiding? lap.before.fixtures)
  signs := (lap.number? guest).elim [] fun number =>
    (lap.batch.clients.filter (·.descriptor = number)).map Readiness.sign
  reads := (lap.number? guest).elim [] fun number =>
    lap.trace.filterMap (Exchange.brought? number)

def sends : List (Bytes × Attempt Nat) :=
  (lap.number? guest).elim [] fun number => lap.trace.filterMap (Exchange.sentTo? number)

def left : View := lap.after.view lap.guests guest

variable {lap : Lap} {guest other : Nat}

theorem number?_eq_none (early : lap.guests.length ≤ guest) : lap.number? guest = none := by
  rw [number?, Router.reached?, RadioRelay.number?, List.getElem?_eq_none early]
  rfl

/-- To all who have not come yet the same is shown. -/
theorem showing_congr (early : lap.guests.length ≤ guest) (earlyToo : lap.guests.length ≤ other) :
    lap.showing guest = lap.showing other ∧ lap.sends guest = lap.sends other := by
  simp only [showing, sends, number?_eq_none early, number?_eq_none earlyToo, and_self]

end Lap

namespace Router

variable {opened : List Descriptor}

/-- A turn means for every guest what the system shows to it. -/
theorem lives_of_turn {lap : Lap} (secure : lap.before.standing.Secure lap.before.fixtures opened)
    (fresh : AcceptsFresh opened lap.trace)
    (sincere : ∀ exchange ∈ lap.trace, exchange.Faithful ∧ exchange.ReportsAll)
    (turn : Turn lap.before lap.trace lap.after) (guest : Nat) :
    Lives lap.before.fixtures.options guest (lap.showing guest) (lap.before.view lap.known guest)
      (lap.sends guest) (lap.left guest) := by
  rcases lap with ⟨before, known, trace, after⟩
  rcases parts_of_turn turn with
    ⟨opening, rest, ready, events, rfl, course, idle, ⟨registry, statistics⟩, reported, ends⟩
  obtain rfl : opening.flatMap Exchange.reported = events := by
    apply reported
    intro exchange exchangeMem
    exact (sincere exchange (List.mem_append_left _ exchangeMem)).2
  rcases unseen_of_idle idle with ⟨nobody, silent, unread, unsent⟩
  simp only [Lap.showing, Lap.sends, Lap.left, Lap.number?, Lap.batch, Lap.guests, reached?,
    List.filterMap_append, List.flatMap_append, nobody, silent, unread, unsent, List.nil_append]
  have same : ready.view known guest = before.view known guest := by
    rw [view, view, registry, statistics]
  rcases ends with ⟨woken, rfl, idleRest, quiet⟩ | ⟨awake, acts⟩
  · rcases unseen_of_idle idleRest with ⟨nobodyThen, -, -, unsentThen⟩
    simp only [nobodyThen, unsentThen, quiet, List.append_nil, same, elim_nil]
    exact .stops woken
  · have fixtures := fixtures_course course
    simp only [acceptsFresh_append, List.forall_mem_append] at fresh sincere
    have secureReady := secure_of_stages course secure fresh.1
    have kernel : ready.kernel = before.kernel := congrArg Fixtures.kernel fixtures
    have faithful : ∀ exchange ∈ rest, exchange.Faithful :=
      fun exchange exchangeMem => (sincere.2 exchange exchangeMem).1
    rcases lives_of_acts known guest secureReady fresh.2 faithful (kernel ▸ clients_ne_kernel) acts
      rfl with ⟨quiet, lives⟩
    simp only [reached?, fixtures, same, registry] at lives
    simp only [quiet, List.append_nil, awake]
    exact lives

end Router

end RadioRelay
