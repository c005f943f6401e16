import RadioRelay.Proofs.Router.Bookkeeping
import RadioRelay.Proofs.Router.Isolation

/-!
# Events and the clients that they were reported for

A client is known by a number, and a number that was closed is soon given to
somebody else. What the system reports of a number is therefore only worth
something as long as nobody else has got that number. Within a turn nobody has:
whoever waits is accepted while all clients that events were reported for are
still there, and a client that leaves afterwards leaves its number unused until
the next turn.
-/

namespace RadioRelay

theorem Exchange.Serves.opens {client : ClientId} {exchange : Exchange}
    (serves : exchange.Serves client) : exchange.opens = [] := by
  unfold Exchange.opens
  split <;> first | rfl | cases serves

theorem Exchange.Idle.opens {fixed : Fixtures} {exchange : Exchange}
    (idle : exchange.Idle fixed) : exchange.opens = [] := by
  unfold Exchange.opens
  split <;> first | rfl | cases idle

theorem accepts_eq_false_of_opens {client : ClientId} {trace : Trace}
    (nothing : ∀ exchange ∈ trace, exchange.opens = []) :
    ∀ exchange ∈ trace, exchange.accepts client = false :=
  fun exchange exchangeMem => accepts_eq_false (nothing exchange exchangeMem)

section Tenures

variable {fixed : Fixtures} {first last : Standing} {history past later since : Trace}
  {client : ClientId} {opened : List Descriptor}

/-- The tenure of a client goes on for as long as its number is not given away. -/
theorem Since.append (accepted : Since client past since)
    (others : ∀ exchange ∈ later, exchange.accepts client = false) :
    Since client (past ++ later) (since ++ later) := by
  rcases accepted with ⟨before, accepting, rfl, accepts, none⟩
  refine ⟨before, accepting, by simp, accepts, ?_⟩
  rw [List.forall_mem_append]
  exact ⟨none, others⟩

theorem exists_since_of_connected (course : Course (Move fixed) first history last)
    (secure : first.Secure fixed opened) (fresh : AcceptsFresh opened history)
    (absent : client ∉ first.registry.ids) (connected : client ∈ last.registry.ids) :
    ∃ since, Since client history since := by
  induction course with
  | start => exact absurd connected absent
  | @next past trace state after earlier move ih =>
    rw [acceptsFresh_append] at fresh
    have secureNow := secure_of_course earlier secure fresh.1
    by_cases accepted : ∀ exchange ∈ trace, exchange.accepts client = false
    · rcases ih fresh.1 ((move.count_closes_of_others secureNow fresh.2 accepted).2 connected) with
        ⟨since, tenure⟩
      exact ⟨since ++ trace, tenure.append accepted⟩
    · simp only [not_forall, Bool.not_eq_false] at accepted
      rcases accepted with ⟨accepting, acceptingMem, accepts⟩
      rcases List.append_of_mem acceptingMem with ⟨before, rest, split⟩
      rcases move.eq_nil_of_accepts split accepts with ⟨rfl, rfl⟩
      refine ⟨rest, past, _, by rw [split]; rfl, accepts, ?_⟩
      apply accepts_eq_false_of_opens
      rcases move.opens_or with nothing | ⟨number, errno, head, -⟩ | ⟨number, head, -⟩
      · rw [split, List.nil_append, List.forall_mem_cons] at nothing
        exact nothing.2
      · rw [head] at split
        cases split
        exact opens_refusal
      · rw [head] at split
        cases split
        exact opens_admission

/-- For as long as the number of a connected client is not given away, the client is connected
exactly if the number was not closed. -/
theorem connected_iff_of_since {middle : Standing} (early : Course (Move fixed) first past middle)
    (late : Course (Move fixed) middle later last) (secure : first.Secure fixed opened)
    (fresh : AcceptsFresh opened (past ++ later)) (accepted : Since client past since)
    (connected : client ∈ middle.registry.ids)
    (others : ∀ exchange ∈ later, exchange.accepts client = false) :
    client ∈ last.registry.ids ↔ ∀ exchange ∈ later, exchange.closes client = false := by
  have before := Move.accounted_of_course early secure (acceptsFresh_append.mp fresh).1 accepted
  have after := Move.accounted_of_course (early.append late) secure fresh (accepted.append others)
  have unclosed : since.countP (·.closes client) = 0 := by
    rcases before with ⟨-, never⟩ | ⟨left, -⟩
    · exact never
    · exact absurd connected left
  have closed : (∀ exchange ∈ later, exchange.closes client = false)
      ↔ later.countP (·.closes client) = 0 := by
    simp [List.countP_eq_zero]
  rw [closed]
  simp only [Move.Accounted, List.countP_append, unclosed, Nat.zero_add] at after
  rcases after with ⟨still, never⟩ | ⟨left, once⟩
  · exact ⟨fun _ => never, fun _ => still⟩
  · exact ⟨fun still => absurd still left, fun never => by omega⟩

end Tenures

namespace Router

open Program

/-! ### What is done about events -/

/-- What was done about an event. -/
structure Response where
  event : Readiness
  before : Router
  trace : Trace
  after : Router

def Response.client (response : Response) : ClientId := response.event.descriptor

/-- Events that are responded to, one after the other. -/
inductive Responses : Router → List Response → Router → Prop
  | none {router : Router} : Responses router [] router
  | next {response : Response} {responses : List Response} {last : Router}
    (serves : (response.before.serveOne response.event).Runs response.trace response.after)
    (others : Responses response.after responses last) :
    Responses response.before (response :: responses) last

variable {router after start last : Router} {trace history created : Trace}
  {opened : List Descriptor} {client : ClientId}

theorem responses_of_serveClients {events : List Readiness}
    (runs : (router.serveClients events).Runs trace after) :
    ∃ responses, responses.map Response.event = events
      ∧ trace = responses.flatMap Response.trace ∧ Responses router responses after := by
  induction events generalizing router trace with
  | nil =>
    rcases runs with ⟨rfl, rfl⟩
    exact ⟨[], rfl, rfl, .none⟩
  | cons event events ih =>
    rw [serveClients_cons] at runs
    rcases runs_bind.mp runs with ⟨early, late, middle, rfl, serves, later⟩
    rcases ih later with ⟨responses, rfl, rfl, others⟩
    refine ⟨⟨event, router, early, middle⟩ :: responses, rfl, rfl, ?_⟩
    exact @Responses.next ⟨event, router, early, middle⟩ _ _ serves others

theorem Responses.split {earlier later : List Response} {response : Response}
    (responses : Responses router (earlier ++ response :: later) last)
    (others : ∀ one ∈ earlier, one.client ≠ router.kernel) :
    Course Stage router (earlier.flatMap Response.trace) response.before
      ∧ (response.before.serveOne response.event).Runs response.trace response.after := by
  induction earlier generalizing router with
  | nil =>
    cases responses with
    | next serves _ => exact ⟨.start, serves⟩
  | cons one earlier ih =>
    rw [List.forall_mem_cons] at others
    cases responses with
    | next serves responses =>
      have course := course_of_serveOne others.1 serves
      have kernel : one.after.kernel = one.before.kernel :=
        congrArg Fixtures.kernel (fixtures_course course)
      rcases ih responses (kernel ▸ others.2) with ⟨courseLater, servesNow⟩
      exact ⟨course.append courseLater, servesNow⟩

theorem Responses.confined {list : List Response} {response : Response}
    (responses : Responses router list last) (consistent : router.standing.Consistent)
    (others : ∀ one ∈ list, one.client ≠ router.kernel) (member : response ∈ list) :
    Confined response.client response.before response.trace response.after := by
  rcases List.append_of_mem member with ⟨earlier, later, rfl⟩
  rw [List.forall_mem_append] at others
  rcases responses.split others.1 with ⟨course, serves⟩
  exact confined_of_serveOne (moves_of_course course consistent).1 serves

/-! ### Before the events are responded to -/

/-- Whoever comes in is not accepted under the number of a connected client. -/
theorem spares_of_acceptClients (secure : router.standing.Secure router.fixtures opened)
    (fresh : AcceptsFresh opened trace) (connected : client ∈ router.registry.ids)
    (runs : router.acceptClients.Runs trace after) :
    ∀ exchange ∈ trace, exchange.accepts client = false := by
  have rounds := runs_acceptClients runs
  clear runs
  -- The clients of the beginning stay connected throughout, so their numbers stay open.
  induction rounds generalizing opened with
  | last ends =>
    rcases runs_acceptOnce ends with
      ⟨errno, -, rfl, -⟩ | ⟨errno, rest, _, -, rfl, pauses, -⟩ | ⟨_, _, _, -, -, same⟩
    · simp [Exchange.accepts]
    · rw [List.forall_mem_cons]
      refine ⟨rfl, accepts_eq_false_of_opens ?_⟩
      exact fun exchange exchangeMem => (idle_pauseAccept pauses exchange exchangeMem).opens
    · cases same
  | @again state next _ _ _ goesOn _ ih =>
    rcases runs_acceptOnce goesOn with
      ⟨_, -, -, same⟩ | ⟨_, _, _, -, -, -, same⟩ | ⟨number, rest, _, rfl, welcomes, same⟩
    · cases same
    · cases same
    · cases same
      rw [acceptsFresh_append] at fresh
      have new := fresh.1.not_mem
      have unknown : state.registry.contains number = false := secure.unknown new
      have other : number ≠ client := by
        rintro rfl
        exact new (secure.client_open number connected)
      rcases secure_of_welcome secure fresh.1 welcomes with ⟨-, secureNext⟩
      have stays : client ∈ next.registry.ids
          ∧ ∀ exchange ∈ rest, exchange.accepts client = false := by
        rcases runs_welcome welcomes with ⟨errno, rfl, rfl⟩ | ⟨_, rfl, rfl, rfl⟩
        · exact ⟨connected, by simp [Exchange.accepts]⟩
        · refine ⟨?_, by simp [unknown, Exchange.accepts]⟩
          simp [Registry.ids_add, Registry.mem_ids_iff.not.mpr (Bool.eq_false_iff.mp unknown),
            connected]
      rw [List.forall_mem_append, List.forall_mem_cons]
      exact ⟨⟨decide_eq_false other, stays.2⟩, ih secureNext fresh.2 stays.1⟩

/-! ### Events of a turn -/

/-- The event is responded to as one of the client that had the number when it was reported. Nobody
else has got the number since, and if it was closed since, nothing is done. -/
structure Attributed (history now : Trace) (response : Response) : Prop where
  tenure : ∃ since, Since response.client history since
    ∧ Since response.client (history ++ (now ++ response.trace))
      (since ++ (now ++ response.trace))
  connected : response.client ∈ response.before.registry.ids ↔
    ∀ exchange ∈ now, exchange.closes response.client = false

theorem attributed_of_course {now : Trace} {response : Response}
    (past : Course Stage start history router) (course : Course Stage router now response.before)
    (secure : start.standing.Secure start.fixtures opened)
    (fresh : AcceptsFresh opened (history ++ now))
    (nobody : response.client ∉ start.registry.ids)
    (member : response.client ∈ router.registry.ids)
    (others : ∀ exchange ∈ now, exchange.accepts response.client = false)
    (confined : Confined response.client response.before response.trace response.after) :
    Attributed history now response := by
  have early := moves_of_course past secure.consistent
  have late := (moves_of_course course early.1).2
  rw [fixtures_course past] at late
  rcases exists_since_of_connected early.2 secure (acceptsFresh_append.mp fresh).1 nobody member with
    ⟨since, accepted⟩
  refine ⟨⟨since, accepted, accepted.append ?_⟩,
    connected_iff_of_since early.2 late secure fresh accepted member others⟩
  rw [List.forall_mem_append]
  refine ⟨others, accepts_eq_false_of_opens ?_⟩
  exact fun exchange exchangeMem => (confined.serves exchange exchangeMem).opens

/-- Whoever acts on a batch has accepted whoever waits, and forwarded what there was to forward, when
it comes to the events of clients. No client has lost its number to a newcomer. -/
theorem responses_of_acts {batch : Batch} (secure : router.standing.Secure router.fixtures opened)
    (fresh : AcceptsFresh opened trace)
    (others : ∀ event ∈ batch.clients, event.descriptor ≠ router.kernel)
    (acts : router.Acts batch trace after) :
    ∃ early heard responses, trace = early ++ responses.flatMap Response.trace
      ∧ Course Stage router early heard ∧ Responses heard responses after
      ∧ responses.map Response.event = batch.clients ∧ trace.flatMap Exchange.reported = []
      ∧ (∀ response ∈ responses,
        Confined response.client response.before response.trace response.after)
      ∧ ∀ client ∈ router.registry.ids, ∀ exchange ∈ early, exchange.accepts client = false := by
  have quiet := quiet_of_acts secure.consistent others acts
  rcases inParts_of_acts secure.consistent others acts with
    ⟨coming, hearing, serving, entered, heard, rfl, comes, hears, serves, early, -, consistentHeard,
      othersHeard⟩
  rcases responses_of_serveClients serves with ⟨responses, same, rfl, responded⟩
  have unopened := (course_of_hears hears).2
  have apart : ∀ response ∈ responses, response.client ≠ heard.kernel := by
    intro response responseMem
    apply othersHeard
    rw [← same]
    exact List.mem_map_of_mem responseMem
  have confined := fun response => @Responses.confined heard after responses response responded
    consistentHeard apart
  refine ⟨coming ++ hearing, heard, responses, by simp, early, responded, same, quiet, confined, ?_⟩
  intro client connected
  rw [List.forall_mem_append]
  refine ⟨?_, accepts_eq_false_of_opens unopened⟩
  split at comes
  · exact spares_of_acceptClients secure (acceptsFresh_append.mp fresh).1 connected comes
  · rcases comes with ⟨rfl, -⟩
    simp

/-- Every event of a turn is responded to by calls for the client that it was reported for, and by
nothing at all if that client has left since. Nobody who was accepted since has its number. -/
theorem attributed_of_turn {listener : Listener} {kernel : Descriptor} {options : RouterOptions}
    (puts : (create listener kernel options).run.Runs created (.ok start))
    (turns : Course Turn start history router) (turn : Turn router trace after)
    (fresh : AcceptsFresh [listener.descriptor, kernel] (created ++ (history ++ trace))) :
    ∃ early heard responses, trace = early ++ responses.flatMap Response.trace
      ∧ Responses heard responses after
      ∧ ((∀ exchange ∈ trace, exchange.ReportsAll) →
        responses.map Response.event =
          if (router.classify (trace.flatMap Exchange.reported)).wake then []
          else (router.classify (trace.flatMap Exchange.reported)).clients)
      ∧ ∀ before response later, responses = before ++ response :: later →
        Confined response.client response.before response.trace response.after
          ∧ (response.client ∈ router.registry.ids →
            Attributed history (early ++ before.flatMap Response.trace) response) := by
  have secureFirst := secure_create puts
  have nobody : ∀ client, client ∉ start.registry.ids := by
    rcases runs_create puts with ⟨poller, wake, -, rfl⟩
    exact fun _ => List.not_mem_nil
  have past := course_of_turns turns
  rw [acceptsFresh_append] at fresh
  have freshParts := acceptsFresh_append.mp fresh.2
  have secure := secure_of_stages past secureFirst freshParts.1
  rcases parts_of_turn turn with
    ⟨opening, rest, ready, events, rfl, course, idle, ⟨registry, -⟩, reported, ends⟩
  rcases ends with ⟨woken, rfl, -, quiet⟩ | ⟨awake, acts⟩
  · refine ⟨opening ++ rest, after, [], (List.append_nil _).symm, .none, ?_, ?_⟩
    · intro reports
      rw [List.forall_mem_append] at reports
      rw [List.flatMap_append, quiet, List.append_nil, reported reports.1, if_pos woken]
      rfl
    · intro before response later split
      simp at split
  rw [acceptsFresh_append] at freshParts
  have kernelReady : ready.kernel = router.kernel := congrArg Fixtures.kernel (fixtures_course course)
  rcases responses_of_acts (secure_of_stages course secure freshParts.2.1) freshParts.2.2
      (kernelReady ▸ clients_ne_kernel) acts with
    ⟨early, heard, responses, rfl, entering, responded, same, quiet, confined, spared⟩
  have kernelHeard : heard.kernel = router.kernel :=
    congrArg Fixtures.kernel (fixtures_course (course.append entering))
  refine ⟨opening ++ early, heard, responses, (List.append_assoc ..).symm, responded, ?_, ?_⟩
  · intro reports
    rw [List.forall_mem_append] at reports
    rw [List.flatMap_append, quiet, List.append_nil, reported reports.1, awake]
    exact same
  rintro before response later rfl
  have others : ∀ one ∈ before ++ response :: later, one.client ≠ heard.kernel := by
    intro one oneMem
    rw [kernelHeard]
    apply clients_ne_kernel
    rw [← same]
    exact List.mem_map_of_mem oneMem
  have confinedNow := confined response (by simp)
  refine ⟨confinedNow, ?_⟩
  intro member
  have served := (responded.split (List.forall_mem_append.mp others).1).1
  refine attributed_of_course past ((course.append entering).append served) secureFirst ?_
    (nobody _) member ?_ confinedNow
  · have whole := fresh.2
    rw [List.flatMap_append] at whole
    simp only [← List.append_assoc] at whole ⊢
    exact (acceptsFresh_append.mp whole).1
  · simp only [List.forall_mem_append]
    refine ⟨⟨?_, spared _ (registry ▸ member)⟩, ?_⟩
    · apply accepts_eq_false_of_opens
      exact fun exchange exchangeMem => (idle exchange exchangeMem).opens
    · apply accepts_eq_false_of_opens
      intro exchange exchangeMem
      rcases List.mem_flatMap.mp exchangeMem with ⟨one, oneMem, exchangeMem⟩
      exact ((confined one (List.mem_append_left _ oneMem)).serves exchange exchangeMem).opens

/-- If the poller watches the clients and the router's own sockets, events of others than these are
events of clients. -/
theorem connected_of_watched {watched : List Descriptor} {events : List Readiness}
    (watching : router.standing.Watched router.fixtures watched)
    (reported : ∀ event ∈ events, event.descriptor = router.listener.descriptor
      ∨ event.descriptor ∈ watched) :
    ∀ event ∈ (router.classify events).clients, event.descriptor ∈ router.registry.ids := by
  intro event eventMem
  rcases List.mem_filter.mp eventMem with ⟨eventReported, apart⟩
  simp only [decide_eq_true_eq] at apart
  rcases apart with ⟨notWake, notListener, notKernel⟩
  rcases reported event eventReported with listener | known
  · exact absurd listener notListener
  · rcases (watching event.descriptor).mp known with client | kernel | wake | ⟨listener, -⟩
    · exact client
    · exact absurd kernel notKernel
    · exact absurd wake notWake
    · exact absurd listener notListener

/-- The same as `hosting`, but some clients no longer take anything. -/
def snubbing (deaf newcomers : List Descriptor) (ready : List Readiness) (past : Trace) :
    (call : Call) → call.Answer
  | .send socket message => if socket ∈ deaf then .error .brokenPipe else .ok message.length
  | call => hosting newcomers [] ready past call

theorem vacant_hosts :
    ((vacant.pollOnce (-1)).rehearse (snubbing [] [⟨7⟩, ⟨8⟩] [⟨⟨3⟩, readable⟩]) 8).1.isSome := by
  decide +kernel

def paired : Router :=
  (((vacant.pollOnce (-1)).rehearse (snubbing [] [⟨7⟩, ⟨8⟩] [⟨⟨3⟩, readable⟩]) 8).1.get
    vacant_hosts).2

theorem paired_serves : ((paired.pollOnce (-1)).rehearse
    (snubbing [] [] [⟨⟨7⟩, readable⟩, ⟨⟨8⟩, readable⟩]) 8).1.isSome := by
  decide +kernel

/-- The router after both of them registered the same address. -/
def shared : Router :=
  (((paired.pollOnce (-1)).rehearse (snubbing [] [] [⟨⟨7⟩, readable⟩, ⟨⟨8⟩, readable⟩]) 8).1.get
    paired_serves).2

theorem shared_parts : ((shared.pollOnce (-1)).rehearse (snubbing [⟨7⟩] [⟨9⟩]
    [⟨⟨7⟩, readable⟩, ⟨⟨4⟩, readable⟩, ⟨⟨3⟩, readable⟩, ⟨⟨8⟩, hangUp⟩]) 8).1.isSome := by
  decide +kernel

/-- In one turn a client comes, a frame is forwarded that the first of two clients does not take,
and both of them are reported. Nothing is done about the first one, which is gone by then. -/
theorem attributed_of_snubbing : ∃ history trace after, Course Turn vacant history shared
    ∧ Turn shared trace after ∧ shared.registry.ids = [⟨7⟩, ⟨8⟩] ∧ after.registry.ids = [⟨9⟩]
    ∧ ∃ early responses, trace = early ++ responses.flatMap Response.trace
      ∧ responses.map Response.event = [⟨⟨7⟩, readable⟩, ⟨⟨8⟩, hangUp⟩]
      ∧ ∀ before response later, responses = before ++ response :: later →
        Confined response.client response.before response.trace response.after
          ∧ Attributed history (early ++ before.flatMap Response.trace) response := by
  have turns := (Course.single (turn_rehearse vacant_hosts)).next (turn_rehearse paired_serves)
  have turn := turn_rehearse shared_parts
  rcases attributed_of_turn creates_vacant turns turn (by decide +kernel) with
    ⟨early, heard, responses, parts, -, events, each⟩
  have same : responses.map Response.event = [⟨⟨7⟩, readable⟩, ⟨⟨8⟩, hangUp⟩] :=
    (events (by decide +kernel)).trans (by decide +kernel)
  refine ⟨_, _, _, turns, turn, by decide +kernel, by decide +kernel, early, responses, parts, same,
    ?_⟩
  intro before response later split
  rcases each before response later split with ⟨confined, attributed⟩
  refine ⟨confined, attributed ?_⟩
  have member : response.event ∈ responses.map Response.event :=
    List.mem_map_of_mem (by simp [split])
  have both : ∀ event ∈ [(⟨⟨7⟩, readable⟩ : Readiness), ⟨⟨8⟩, hangUp⟩],
      event.descriptor ∈ shared.registry.ids := by
    decide +kernel
  rw [same] at member
  exact both response.event member

end Router

end RadioRelay
