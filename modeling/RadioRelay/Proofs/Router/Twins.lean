import RadioRelay.Proofs.Mirroring
import RadioRelay.Proofs.Registry.Rearrangement
import RadioRelay.Proofs.Router.Seats

/-!
# Routers that differ in the order of their tables

The tables of a registry list clients and subscriptions in some order, and the events of a wait stay
in the slots of the poller until the next one. Neither matters to those who come: a router whose
tables are in another order, with something else in its slots, makes the same calls to resume, to
wait and to accept, and then differs from the first one in nothing else again.
-/

namespace RadioRelay.Router

open Program

/-- The second router differs from the first one at most in the order of its tables and in what is
left in the slots of its poller. -/
inductive Twin (router : Router) : Router → Prop
  | intro {slots : List Readiness} {arranged : Registry Connection}
    (sound : router.registry.Sound) (same : router.registry.Rearranges arranged) :
    Twin router { router with poller.slots := slots, registry := arranged }

variable {router other : Router}

namespace Twin

theorem store (twin : router.Twin other) (events eventsAgain : List Readiness) :
    ({ router with poller := router.poller.store events } : Router).Twin
      { other with poller := other.poller.store eventsAgain } := by
  cases twin with
  | intro sound same => exact ⟨sound, same⟩

theorem rearranges (twin : router.Twin other) : router.registry.Rearranges other.registry := by
  cases twin with
  | intro sound same => exact same

theorem fixtures_eq (twin : router.Twin other) : other.fixtures = router.fixtures := by
  cases twin with
  | intro sound same => rfl

theorem capacity_eq (twin : router.Twin other) :
    other.poller.capacity = router.poller.capacity := by
  cases twin with
  | intro sound same => rfl

theorem consistent (twin : router.Twin other) (consistent : router.standing.Consistent) :
    other.standing.Consistent := by
  cases twin with
  | intro sound same =>
    refine ⟨sound.of_rearranges same, ?_⟩
    intro client connection found
    exact consistent.own ((sound.get?_of_rearranges same client).trans found)

theorem seat_eq (twin : router.Twin other) (client : ClientId) :
    other.registry.seat client = router.registry.seat client :=
  Registry.seat_congr twin.rearranges.ids.symm.mem_iff
    fun mac => (twin.rearranges.subscribers mac).symm.mem_iff

end Twin

/-! ### Accepting -/

theorem mirrors_pauseAccept (twin : router.Twin other) (errno : Errno) :
    Mirrors Twin (router.pauseAccept errno) (other.pauseAccept errno) := by
  cases twin with
  | intro sound same =>
    refine mirrors_call_bind fun now => mirrors_ite (fun _ => ?_) (fun _ => ?_)
    · refine mirrors_call_bind fun _ => mirrors_ite
        (fun _ => mirrors_pure ⟨sound, same⟩) (fun _ => ?_)
      refine mirrors_call_bind ?_
      rintro (_ | _) <;> exact mirrors_pure ⟨sound, same⟩
    · refine mirrors_ite (fun _ => mirrors_pure ⟨sound, same⟩) (fun _ => ?_)
      refine mirrors_call_bind ?_
      rintro (_ | _) <;> exact mirrors_pure ⟨sound, same⟩

theorem mirrors_welcome (twin : router.Twin other) (connection : Connection) :
    Mirrors Twin (router.welcome connection) (other.welcome connection) := by
  cases twin with
  | @intro slots arranged sound same =>
    have known : (router.registry.add connection.descriptor connection).1 = true
        ↔ (arranged.add connection.descriptor connection).1 = true := by
      rw [sound.add_fst_of_rearranges same]
    have added := sound.add connection.descriptor connection
    have addedSame := sound.rearranges_add same connection.descriptor connection
    refine mirrors_call_bind ?_
    rintro (errno | _)
    · exact mirrors_call_bind fun _ => mirrors_call_bind fun _ => mirrors_pure ⟨sound, same⟩
    · refine mirrors_ite_of_iff known (fun _ => ?_) (fun _ => ?_)
      · exact mirrors_call_bind fun _ => mirrors_pure ⟨added, addedSame⟩
      · exact mirrors_call_bind fun _ => mirrors_call_bind fun _ => mirrors_pure ⟨added, addedSame⟩

theorem mirrors_acceptOnce (twin : router.Twin other) :
    Mirrors (Sum.LiftRel Twin Twin) router.acceptOnce other.acceptOnce := by
  have accepts : other.listener.accept = router.listener.accept := by
    cases twin with
    | intro sound same => rfl
  unfold acceptOnce
  rw [accepts]
  refine (Mirrors.refl _).bind ?_
  rintro (errno | _ | connection) _ rfl
  · refine (mirrors_pauseAccept twin errno).bind ?_
    exact fun _ _ paused => mirrors_pure (.inr paused)
  · exact mirrors_pure (.inr twin)
  · refine (mirrors_welcome twin connection).bind ?_
    exact fun _ _ welcomed => mirrors_pure (.inl welcomed)

theorem mirrors_acceptClients (twin : router.Twin other) :
    Mirrors Twin router.acceptClients other.acceptClients :=
  mirrors_repeatUntil Twin (fun _ _ alike => mirrors_acceptOnce alike) twin

theorem twin_of_comes {knocked : Bool} {trace : Trace} {entered : Router}
    (twin : router.Twin other)
    (comes : if knocked then router.acceptClients.Runs trace entered
      else trace = [] ∧ entered = router) :
    ∃ enteredAgain, entered.Twin enteredAgain
      ∧ if knocked then other.acceptClients.Runs trace enteredAgain
        else trace = [] ∧ enteredAgain = other := by
  cases knocked with
  | true =>
    rcases mirrors_acceptClients twin trace entered comes with ⟨enteredAgain, runs, alike⟩
    exact ⟨enteredAgain, alike, runs⟩
  | false =>
    rcases comes with ⟨rfl, rfl⟩
    exact ⟨other, twin, rfl, rfl⟩

/-! ### Resuming, waiting and stopping -/

/-- Putting the listener back came to the same. -/
inductive ResumedAlike : Except Failure Router → Except Failure Router → Prop
  | failed (failure : Failure) : ResumedAlike (.error failure) (.error failure)
  | resumed {router other : Router} (twin : router.Twin other) :
    ResumedAlike (.ok router) (.ok other)

theorem ResumedAlike.of_ok {result : Except Failure Router}
    (alike : ResumedAlike (.ok router) result) :
    ∃ other, result = .ok other ∧ router.Twin other := by
  cases alike with
  | resumed twin => exact ⟨_, rfl, twin⟩

theorem mirrors_resumeAccept (twin : router.Twin other) :
    Mirrors ResumedAlike router.resumeAccept other.resumeAccept := by
  have pause : other.pausedUntil = router.pausedUntil := by
    cases twin with
    | intro sound same => rfl
  have watches : other.poller.watch other.listener.descriptor readable
      = router.poller.watch router.listener.descriptor readable := by
    cases twin with
    | intro sound same => rfl
  have resumed : ({ router with pausedUntil := none } : Router).Twin
      { other with pausedUntil := none } := by
    cases twin with
    | intro sound same => exact ⟨sound, same⟩
  unfold resumeAccept
  rw [pause, watches]
  cases router.pausedUntil with
  | none => exact mirrors_pure (.resumed twin)
  | some deadline =>
    refine mirrors_call_bind fun now => mirrors_ite
      (fun _ => mirrors_pure (.resumed twin)) (fun _ => ?_)
    refine mirrors_call_bind ?_
    rintro (errno | _)
    · exact mirrors_pure (.failed _)
    · exact mirrors_pure (.resumed resumed)

theorem Twin.boundedTimeout_eq (twin : router.Twin other) (timeout : Int) :
    other.boundedTimeout timeout = router.boundedTimeout timeout := by
  cases twin with
  | intro sound same => rfl

theorem mirrors_dispatch_of_wake (twin : router.Twin other) {batch batchAgain : Batch}
    (wakes : batch.wake = true) (wakesAgain : batchAgain.wake = true) :
    Mirrors (fun first second => first.1 = second.1 ∧ first.2.Twin second.2)
      (router.dispatch batch) (other.dispatch batchAgain) := by
  have wake : other.wake = router.wake := by
    cases twin with
    | intro sound same => rfl
  unfold dispatch
  rw [if_pos wakes, if_pos wakesAgain, wake]
  refine (Mirrors.refl _).bind ?_
  rintro (errno | _) _ rfl
  · exact mirrors_pure ⟨rfl, twin⟩
  · exact mirrors_call_bind fun _ => mirrors_pure ⟨rfl, twin⟩

end RadioRelay.Router
