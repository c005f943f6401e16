import RadioRelay.Proofs.Router.Laps

/-!
# No client disturbs another

Two operations of a router may differ in all that one client does: in when it is
ready, in what it sends, in whether it takes what it is sent, and so in the
numbers that the system gives to those who come later. As long as the system
shows the same of the listener, of the kernel and of every other client, every
other client is sent the same in every turn, is subscribed to the same
addresses and leaves in the same turn, and the router counts the same frames
and failed accepts.
-/

namespace RadioRelay.Router

/-- Turns one after the other, from a router that accepted clients under these numbers. -/
inductive Laps : Router → List Descriptor → List Lap → Prop
  | done {router : Router} {known : List Descriptor} : Laps router known []
  | next {lap : Lap} {laps : List Lap} (turn : Turn lap.before lap.trace lap.after)
    (later : Laps lap.after lap.guests laps) : Laps lap.before lap.known (lap :: laps)

/-- A router that was put together, and the turns that it has taken since. -/
structure Operation (options : RouterOptions) where
  listener : Listener
  kernel : Descriptor
  created : Trace
  start : Router
  laps : List Lap
  puts : (create listener kernel options).run.Runs created (.ok start)
  turns : Laps start [] laps
  /-- Clients are only accepted under numbers that are not open. -/
  fresh : AcceptsFresh [listener.descriptor, kernel] (created ++ laps.flatMap Lap.trace)
  /-- What a receive and a wait say of themselves is true. -/
  sincere : ∀ lap ∈ laps, ∀ exchange ∈ lap.trace, exchange.Faithful ∧ exchange.ReportsAll

/-! ### One operation -/

/-- A router whose registry is in order, and the turns that it takes. -/
structure Underway (options : RouterOptions) (router : Router) (known opened : List Descriptor)
    (laps : List Lap) : Prop where
  turns : Laps router known laps
  secure : router.standing.Secure router.fixtures opened
  fresh : AcceptsFresh opened (laps.flatMap Lap.trace)
  sincere : ∀ lap ∈ laps, ∀ exchange ∈ lap.trace, exchange.Faithful ∧ exchange.ReportsAll
  options : router.fixtures.options = options

section OneOperation

variable {options : RouterOptions} {router : Router} {known opened : List Descriptor} {lap : Lap}
  {laps : List Lap}

theorem Operation.underway (operation : Operation options) :
    Underway options operation.start []
      (openAfter [operation.listener.descriptor, operation.kernel] operation.created)
      operation.laps := by
  have fresh := operation.fresh
  rw [acceptsFresh_append] at fresh
  refine ⟨operation.turns, secure_create operation.puts, fresh.2, operation.sincere, ?_⟩
  rcases runs_create operation.puts with ⟨poller, wake, -, start⟩
  rw [start]
  rfl

/-- The next turn means for every guest what the system shows to it, and then it goes on. -/
theorem Underway.next (underway : Underway options router known opened (lap :: laps)) :
    (∀ guest, Lives options guest (lap.showing guest) (router.view known guest) (lap.sends guest)
        (lap.left guest))
      ∧ Underway options lap.after lap.guests (openAfter opened lap.trace) laps := by
  rcases underway with ⟨turns, secure, fresh, sincere, options⟩
  rw [List.flatMap_cons, acceptsFresh_append] at fresh
  rw [List.forall_mem_cons] at sincere
  cases turns with
  | next turn later =>
    rw [← options]
    have course : Course Stage lap.before lap.trace lap.after := course_of_turns (.single turn)
    refine ⟨lives_of_turn secure fresh.1 sincere.1 turn, later,
      secure_of_stages course secure fresh.1, fresh.2, sincere.2, ?_⟩
    rw [fixtures_course course]

end OneOperation

/-! ### Two operations -/

/-- To everybody but one guest two turns show the same, as far as both look, and what becomes of the
messages to everybody else is the same. -/
def AlikeApart (client : Nat) (first second : Lap) : Prop :=
  ∀ other ≠ client, (first.showing other).Alike (second.showing other)
    ∧ Agree ((first.sends other).map (·.2)) ((second.sends other).map (·.2))

/-- It is enough to compare those who came in, and one who has not come yet. -/
theorem alikeApart_of_few {client few : Nat} {first second : Lap} (came : client < few)
    (most : first.guests.length ≤ few ∧ second.guests.length ≤ few)
    (alike : ∀ other < few + 1, other ≠ client → (first.showing other).Alike (second.showing other)
      ∧ Agree ((first.sends other).map (·.2)) ((second.sends other).map (·.2))) :
    AlikeApart client first second := by
  intro other different
  rcases Nat.lt_or_ge other few with early | late
  · exact alike other (Nat.lt_succ_of_lt early) different
  · have firstSame := Lap.showing_congr (most.1.trans late) most.1
    have secondSame := Lap.showing_congr (most.2.trans late) most.2
    rw [firstSame.1, firstSame.2, secondSame.1, secondSame.2]
    exact alike few (Nat.lt_succ_self few) came.ne'

variable {options : RouterOptions} {client : Nat}

/-- What is the same for everybody but one client stays the same, turn by turn. -/
theorem left_of_alike {first second : List Lap} {router twin : Router}
    {known knownTwin opened openedTwin : List Descriptor}
    (underway : Underway options router known opened first)
    (underwayTwin : Underway options twin knownTwin openedTwin second)
    (same : ∀ other ≠ client, router.view known other = twin.view knownTwin other)
    (alike : ∀ pair ∈ first.zip second, AlikeApart client pair.1 pair.2) :
    ∀ pair ∈ first.zip second, ∀ other ≠ client,
      pair.1.sends other = pair.2.sends other ∧ pair.1.left other = pair.2.left other := by
  -- The views are the same before every pair of turns, the numbers behind them need not be.
  induction first generalizing router known opened twin knownTwin openedTwin second with
  | nil => simp
  | cons lap laps ih =>
    cases second with
    | nil => simp
    | cons lapTwin lapsTwin =>
      rw [List.zip_cons_cons, List.forall_mem_cons] at alike ⊢
      rcases underway.next with ⟨lives, later⟩
      rcases underwayTwin.next with ⟨livesTwin, laterTwin⟩
      have now : ∀ other ≠ client,
          lap.sends other = lapTwin.sends other ∧ lap.left other = lapTwin.left other := by
        intro other different
        rcases alike.1 other different with ⟨shown, outcomes⟩
        have twins := livesTwin other
        rw [← same other different] at twins
        exact (lives other).unique twins shown outcomes
      exact ⟨now, ih later laterTwin (fun other different => (now other different).2) alike.2⟩

/-- Whatever one client does, everybody else is sent the same messages in every turn, has the same
addresses after it and leaves in the same one, and failed accepts and frames are counted alike. -/
theorem isolated_of_operations (first second : Operation options) (client : Nat)
    (alike : ∀ pair ∈ first.laps.zip second.laps, AlikeApart client pair.1 pair.2) :
    ∀ pair ∈ first.laps.zip second.laps,
      pair.1.after.statistics.tally = pair.2.after.statistics.tally
        ∧ ∀ other ≠ client, (pair.1.sends other).map (·.1) = (pair.2.sends other).map (·.1)
          ∧ (pair.1.left other).seat = (pair.2.left other).seat := by
  intro pair pairMem
  have same : ∀ other, first.start.view [] other = second.start.view [] other := by
    intro other
    rcases runs_create first.puts with ⟨_, _, -, start⟩
    rcases runs_create second.puts with ⟨_, _, -, startTwin⟩
    rw [start, startTwin]
    rfl
  have left := left_of_alike first.underway second.underway (fun other _ => same other) alike pair
    pairMem
  constructor
  · exact congrArg View.tally (left (client + 1) (Nat.succ_ne_self client)).2
  · intro other different
    rcases left other different with ⟨sends, view⟩
    rw [sends, view]
    exact ⟨rfl, rfl⟩

/-! ### Two operations to compare -/

section Playing

/-- Who waits to be accepted is accepted under these numbers, whoever is read registers an address,
the kernel hands over a frame of that address, and everybody takes all that is sent. Those who left
are at the end of their stream. -/
def hosting (newcomers gone : List Descriptor) (ready : List Readiness) (past : Trace) :
    (call : Call) → call.Answer
  | .wait _ _ _ => .ok ⟨ready.length, ready⟩
  | .accept _ =>
    match newcomers[(past.filterMap Exchange.guest?).length]? with
    | some number => .ok number
    | none => .error .wouldBlock
  | .watch _ _ _ => .ok ()
  | .receive socket _ =>
    if socket ∈ gone then .ok ⟨0, []⟩
    else .ok ⟨32, if socket = ⟨4⟩ then
        [32, 0, 0, 0, 28, 0, 0, 0, 0, 0, 0, 0, 0, 0, 0, 0, 2, 1, 0, 0, 10, 0, 2, 0,
          1, 2, 3, 4, 5, 6, 0, 0]
      else Request.encodeRegister ⟨1, 2, 3, 4, 5, 6⟩ 1 9⟩
  | .send _ message => .ok message.length
  | call => call.refusal

/-- Who waits in a turn, who left before it, and who is ready. -/
structure Scene where
  newcomers : List Descriptor
  gone : List Descriptor
  ready : List Readiness

/-- The turns of a router in which some scenes are played. -/
def play : List Scene → Router → List Descriptor → List Lap
  | [], _, _ => []
  | scene :: scenes, router, known =>
    match (router.pollOnce (-1)).rehearse (hosting scene.newcomers scene.gone scene.ready) 8 with
    | (none, _) => []
    | (some (_, after), trace) =>
      let lap : Lap := ⟨router, known, trace, after⟩
      lap :: play scenes after lap.guests

theorem laps_of_play {scenes : List Scene} {router : Router} {known : List Descriptor} :
    Laps router known (play scenes router known) := by
  induction scenes generalizing router known with
  | nil => exact .done
  | cons scene scenes ih =>
    rw [play]
    split
    next => exact .done
    next outcome after trace played =>
      have ends : ((router.pollOnce (-1)).rehearse
          (hosting scene.newcomers scene.gone scene.ready) 8).1.isSome := by rw [played]; rfl
      have turn := turn_rehearse ends
      simp only [played, Option.get_some] at turn
      exact @Laps.next ⟨router, known, trace, after⟩ _ turn ih

/-- In the second turn two clients register, in the third another one comes, and in the fourth
there is a frame. -/
def calmScenes : List Scene :=
  [⟨[⟨7⟩, ⟨8⟩], [], [⟨⟨3⟩, readable⟩]⟩, ⟨[], [], [⟨⟨7⟩, readable⟩, ⟨⟨8⟩, readable⟩]⟩,
    ⟨[⟨9⟩], [], [⟨⟨3⟩, readable⟩]⟩, ⟨[], [], [⟨⟨4⟩, readable⟩]⟩]

/-- The same, but the second client leaves instead of registering, and the next one gets its
number. -/
def rudeScenes : List Scene :=
  [⟨[⟨7⟩, ⟨8⟩], [], [⟨⟨3⟩, readable⟩]⟩, ⟨[], [⟨8⟩], [⟨⟨8⟩, readable⟩, ⟨⟨7⟩, readable⟩]⟩,
    ⟨[⟨8⟩], [], [⟨⟨3⟩, readable⟩]⟩, ⟨[], [], [⟨⟨4⟩, readable⟩]⟩]

/-- A router that was put together, and the turns in which some scenes are played. -/
def performance (scenes : List Scene)
    (fresh : AcceptsFresh [⟨3⟩, ⟨4⟩]
      (assembly ⟨3⟩ ⟨4⟩ ⟨5⟩ ⟨6⟩ ++ (play scenes vacant []).flatMap Lap.trace))
    (sincere : ∀ lap ∈ play scenes vacant [], ∀ exchange ∈ lap.trace,
      exchange.Faithful ∧ exchange.ReportsAll) : Operation ⟨28, 4096, 4096⟩ where
  listener := ⟨⟨3⟩, "radio"⟩
  kernel := ⟨4⟩
  created := assembly ⟨3⟩ ⟨4⟩ ⟨5⟩ ⟨6⟩
  start := vacant
  laps := play scenes vacant []
  puts := creates_vacant
  turns := laps_of_play
  fresh := fresh
  sincere := sincere

def calm : Operation ⟨28, 4096, 4096⟩ :=
  performance calmScenes (by decide +kernel) (by decide +kernel)

def rude : Operation ⟨28, 4096, 4096⟩ :=
  performance rudeScenes (by decide +kernel) (by decide +kernel)

/-- The second client is sent its acknowledgement and the frame in one operation and leaves in the
other one. Nobody else notices. -/
theorem isolated_of_rudeness :
    (∀ pair ∈ calm.laps.zip rude.laps,
      pair.1.after.statistics.tally = pair.2.after.statistics.tally
        ∧ ∀ other ≠ 1, (pair.1.sends other).map (·.1) = (pair.2.sends other).map (·.1)
          ∧ (pair.1.left other).seat = (pair.2.left other).seat)
      ∧ calm.laps.map (fun lap => (lap.sends 0).length) = [0, 1, 0, 1]
      ∧ calm.laps.map (fun lap => (lap.sends 1).length) = [0, 1, 0, 1]
      ∧ rude.laps.map (fun lap => (lap.sends 1).length) = [0, 0, 0, 0]
      ∧ calm.laps.map (fun lap => (lap.left 1).seat.isSome) = [true, true, true, true]
      ∧ rude.laps.map (fun lap => (lap.left 1).seat.isSome) = [true, false, false, false] := by
  have alike : ∀ pair ∈ calm.laps.zip rude.laps, AlikeApart 1 pair.1 pair.2 := by
    have few : ∀ pair ∈ calm.laps.zip rude.laps,
        (pair.1.guests.length ≤ 3 ∧ pair.2.guests.length ≤ 3)
          ∧ ∀ other < 4, other ≠ 1 → (pair.1.showing other).Alike (pair.2.showing other)
            ∧ Agree ((pair.1.sends other).map (·.2)) ((pair.2.sends other).map (·.2)) := by
      decide +kernel
    intro pair pairMem
    exact alikeApart_of_few (by decide) (few pair pairMem).1 (few pair pairMem).2
  exact ⟨isolated_of_operations calm rude 1 alike, by decide +kernel, by decide +kernel,
    by decide +kernel, by decide +kernel, by decide +kernel⟩

end Playing

end RadioRelay.Router
