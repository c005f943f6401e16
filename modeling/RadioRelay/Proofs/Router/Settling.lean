import RadioRelay.Proofs.Router.Answering

/-!
# A turn can always be brought to an end

The two loops of a turn end as soon as a call is refused, everything else in it
is straight. So a turn that is going on ends when nothing is granted any more,
and what was seen of it up to now is the beginning of a whole turn.
-/

namespace RadioRelay.Router

open Program

variable {start router : Router} {past : Trace}

theorem straight_unless {α β : Type} {due : Prop} [Decidable due] {value : β}
    {first : Program α} {second : α → Program β} (straight : first.Straight)
    (straightNext : ∀ value, (second value).Straight) :
    (if due then pure value else first >>= second).Straight := by
  split
  · trivial
  · exact straight.bind straightNext

theorem straight_boundedTimeout (router : Router) (timeout : Int) :
    (router.boundedTimeout timeout).Straight := by
  unfold boundedTimeout
  split
  · trivial
  · exact fun _ => trivial

theorem straight_resumeAccept (router : Router) : router.resumeAccept.Straight := by
  unfold resumeAccept
  split
  · trivial
  · refine Straight.bind (fun _ => trivial) ?_
    intro now
    split
    · trivial
    · refine Straight.bind (fun _ => trivial) ?_
      rintro (errno | _) <;> trivial

theorem straight_wait (poller : Poller) (timeout : Int) : (poller.wait timeout).Straight := by
  unfold Poller.wait
  split
  · trivial
  · refine Straight.bind (fun _ => trivial) ?_
    rintro (errno | reported)
    · dsimp only
      split <;> trivial
    · trivial

/-! ### Accepting clients -/

theorem straight_pauseAccept (router : Router) (errno : Errno) :
    (router.pauseAccept errno).Straight := by
  refine Straight.bind (fun _ => trivial) ?_
  intro now
  dsimp only
  split
  · exact fun _ => straight_unless (fun _ => trivial) fun unwatched => by cases unwatched <;> trivial
  · exact straight_unless (fun _ => trivial) fun unwatched => by cases unwatched <;> trivial

theorem straight_welcome (router : Router) (connection : Connection) :
    (router.welcome connection).Straight := by
  refine Straight.bind (fun _ => trivial) ?_
  rintro (errno | _)
  · exact fun _ _ => trivial
  · dsimp only
    split
    · exact fun _ => trivial
    · exact fun _ _ => trivial

theorem straight_accept (listener : Listener) : listener.accept.Straight := by
  refine Straight.bind (fun _ => trivial) ?_
  rintro (errno | descriptor) <;> trivial

section Repetitions

variable {P : ∀ σ β : Type, (σ → Program (σ ⊕ β)) → Prop}

theorem repeats_acceptOnce (router : Router) : router.acceptOnce.Repeats P := by
  refine Repeats.bind (straight_accept router.listener).repeats ?_
  rintro (errno | _ | connection)
  · exact Repeats.bind (straight_pauseAccept router errno).repeats fun _ => trivial
  · trivial
  · exact Repeats.bind (straight_welcome router connection).repeats fun _ => trivial

theorem repeats_acceptClients (accepting : P Router Router acceptOnce) (router : Router) :
    router.acceptClients.Repeats P :=
  repeats_repeatUntil accepting repeats_acceptOnce

end Repetitions

theorem quits_acceptOnce : Quits acceptOnce := by
  intro router
  refine ⟨[⟨.accept router.listener.descriptor, .error .wouldBlock⟩], router, ?_, ?_⟩
  · simp [Exchange.Refused, Call.refusal]
  · exact ⟨_, _, rfl, rfl, rfl⟩

/-! ### Frames of the kernel -/

theorem straight_deliverAll (message : Bytes) (targets : List (ClientId × Connection)) :
    (deliverAll Connection.send message targets : Program (List (ClientId × Bool))).Straight := by
  induction targets with
  | nil => trivial
  | cons target targets ih =>
    refine Straight.bind (fun _ => trivial) ?_
    intro outcome
    exact Straight.bind ih fun _ => trivial

theorem straight_route (notification : Notification) (registry : Registry Connection) :
    (route Connection.send notification registry : Program _).Straight := by
  unfold route
  dsimp only
  split
  · trivial
  · split
    · trivial
    · exact Straight.bind (straight_deliverAll ..) fun _ => trivial

theorem straight_retireAll (router : Router) (reason : RemovalReason)
    (connections : List (ClientId × Connection)) :
    (router.retireAll reason connections).Straight := by
  induction connections generalizing router with
  | nil => trivial
  | cons entry rest ih =>
    refine Straight.bind (fun _ _ _ => trivial) ?_
    exact fun router => ih router

theorem straight_handleKernel (router : Router) : router.handleKernel.Straight := by
  refine Straight.bind (fun _ => trivial) ?_
  rintro (errno | received)
  · dsimp only
    split
    · trivial
    · exact fun _ => trivial
  · dsimp only
    split
    · exact fun _ => trivial
    · split
      · trivial
      · exact Straight.bind (straight_route ..) fun _ => straight_retireAll ..

/-! ### Serving clients -/

theorem straight_serveClients (router : Router) (events : List Readiness) :
    (router.serveClients events).Straight := by
  induction events generalizing router with
  | nil => trivial
  | cons event rest ih =>
    unfold serveClients
    dsimp only
    split
    · split
      · exact Straight.bind (straight_handleClient ..) fun router => ih router
      · split
        · exact Straight.bind (straight_removeClient ..) fun router => ih router
        · exact ih router
    · exact ih router

/-! ### The whole turn -/

section Repetitions

variable {P : ∀ σ β : Type, (σ → Program (σ ⊕ β)) → Prop}

theorem repeats_drain {wake : WakeEvent} (reading : P Unit (Attempt Unit) wake.drainOnce) :
    wake.drain.Repeats P := by
  apply repeats_repeatUntil reading
  intro _
  refine Repeats.bind (fun _ => trivial) ?_
  rintro (errno | _ | count) <;> trivial

theorem repeats_optional {α : Type} {wanted : Bool} {router : Router} {action : Program Router}
    {second : Router → Program α} (repeats : action.Repeats P)
    (repeatsNext : ∀ router, (second router).Repeats P) :
    (if wanted then action >>= second else pure router >>= second).Repeats P := by
  split
  · exact repeats.bind repeatsNext
  · exact repeatsNext router

/-- A turn repeats nothing but to accept and to take signals back. -/
theorem repeats_pollOnce (accepting : P Router Router acceptOnce)
    (reading : ∀ wake : WakeEvent, P Unit (Attempt Unit) wake.drainOnce) (router : Router)
    (timeout : Int) : (router.pollOnce timeout).Repeats P := by
  have dispatches : ∀ (router : Router) (batch : Batch), (router.dispatch batch).Repeats P := by
    intro router batch
    unfold dispatch
    split
    · refine Repeats.bind (repeats_drain (reading _)) ?_
      rintro (errno | _)
      · trivial
      · exact fun _ => trivial
    · refine repeats_optional (repeats_acceptClients accepting router) ?_
      intro accepted
      refine repeats_optional (straight_handleKernel accepted).repeats ?_
      intro heard
      exact Repeats.bind (straight_serveClients ..).repeats fun _ => trivial
  refine Repeats.bind (straight_resumeAccept router).repeats ?_
  rintro (failure | resumed)
  · trivial
  · refine Repeats.bind (straight_boundedTimeout ..).repeats ?_
    intro bounded
    refine Repeats.bind (straight_wait ..).repeats ?_
    rintro ⟨failure | events, poller⟩
    · trivial
    · exact dispatches ..

end Repetitions

theorem quits_drainOnce (wake : WakeEvent) : Quits wake.drainOnce := by
  intro _
  refine ⟨[⟨.readEvent wake.descriptor, .error .wouldBlock⟩], .ok (), ?_, ?_⟩
  · simp [Exchange.Refused, Call.refusal]
  · exact ⟨_, _, rfl, rfl, rfl⟩

theorem settles_pollOnce (router : Router) (timeout : Int) : (router.pollOnce timeout).Settles :=
  (repeats_pollOnce quits_acceptOnce quits_drainOnce router timeout).settles

def TurnBegun (router : Router) (part : Trace) : Prop :=
  ∃ timeout, (router.pollOnce timeout).Begins part

/-- What a router at work did so far is the beginning of whole turns in which nothing else
happens. -/
theorem turns_of_ongoing (working : Ongoing Turn TurnBegun start past) :
    ∃ rest last, Course Turn start (past ++ rest) last ∧ ∀ exchange ∈ rest, exchange.Refused := by
  apply working.completes
  rintro router part ⟨timeout, begun⟩
  rcases begun.completes (settles_pollOnce router timeout) with
    ⟨rest, ⟨outcome, after⟩, runs, refused⟩
  exact ⟨rest, after, ⟨timeout, outcome, runs⟩, refused⟩

/-- At every moment of its turns a router is at work. -/
theorem ongoing_of_turns {early late : Trace} (turns : Course Turn start (early ++ late) router) :
    Ongoing Turn TurnBegun start early := by
  apply turns.ongoing
  · rintro state part rest after ⟨timeout, outcome, runs⟩
    exact ⟨timeout, runs.begins⟩
  · exact ⟨-1, begins_nil⟩

end RadioRelay.Router
