import RadioRelay.Proofs.Router.Laps

/-!
# Signals

Others may signal a wake event at any time while a program runs. A story tells what
happens in order: the calls of the program, and the signals between any two of
them. The wake event is a counter. A signal adds one to it, and a read takes all
signals back, or fails if there are none.
-/

namespace RadioRelay

/-- A call is answered, or the wake event is signalled. -/
inductive Happening
  | called (exchange : Exchange)
  | signalled

abbrev Story := List Happening

/-- The largest number that the counter of an event holds. Further signals are lost. -/
def WakeEvent.maxCount : Nat := 18446744073709551614

namespace Happening

def exchange? : Happening → Option Exchange
  | .called exchange => some exchange
  | .signalled => none

def isSignal : Happening → Bool
  | .called _ => false
  | .signalled => true

/-- The counter of a wake event afterwards. -/
def counter (wake : Descriptor) (count : Nat) : Happening → Nat
  | .called ⟨.readEvent event, .ok _⟩ => if event = wake then 0 else count
  | .called _ => count
  | .signalled => min (count + 1) WakeEvent.maxCount

/-- A read takes the signals back if there are any, and a wait reports the wake event only if there
are. -/
def Obeys (wake : Descriptor) (count : Nat) : Happening → Prop
  | .called ⟨.readEvent event, answer⟩ =>
    event = wake → answer = if count = 0 then .error .wouldBlock else .ok 8
  | .called ⟨.wait _ _ _, .ok reported⟩ =>
    (∃ event ∈ reported.stored, event.descriptor = wake) → count ≠ 0
  | _ => True

/-- Whether the answer to a read or a wait goes with the counter. -/
def obeys (wake : Descriptor) (count : Nat) : Happening → Bool
  | .called ⟨.readEvent event, answer⟩ =>
    event ≠ wake ∨ answer = if count = 0 then .error .wouldBlock else .ok 8
  | .called ⟨.wait _ _ _, .ok reported⟩ =>
    ¬ (∃ event ∈ reported.stored, event.descriptor = wake) ∨ count ≠ 0
  | _ => true

theorem obeys_iff {wake : Descriptor} {count : Nat} {happening : Happening} :
    happening.obeys wake count = true ↔ happening.Obeys wake count := by
  unfold obeys Obeys
  split <;> simp [imp_iff_not_or]

instance decidableObeys (wake : Descriptor) (count : Nat) : DecidablePred (Obeys wake count) :=
  fun _ => decidable_of_iff _ obeys_iff

end Happening

def callsOf (story : Story) : Trace := story.filterMap Happening.exchange?

def counterAfter (wake : Descriptor) (count : Nat) (story : Story) : Nat :=
  story.foldl (Happening.counter wake) count

/-- The wake event is a counter, from the beginning of a story to its end. -/
def EventObeys (wake : Descriptor) : Nat → Story → Prop
  | _, [] => True
  | count, happening :: later =>
    happening.Obeys wake count ∧ EventObeys wake (happening.counter wake count) later

instance decidableEventObeys (wake : Descriptor) :
    ∀ count story, Decidable (EventObeys wake count story)
  | _, [] => isTrue trivial
  | count, happening :: later =>
    have := decidableEventObeys wake (happening.counter wake count) later
    inferInstanceAs (Decidable (_ ∧ _))

/-- Whether signals were taken back. -/
def Exchange.takesBack (wake : Descriptor) : Exchange → Bool
  | ⟨.readEvent event, .ok _⟩ => event = wake
  | _ => false

section Stories

variable {wake : Descriptor} {count : Nat} {early late story : Story} {happening : Happening}

theorem callsOf_append : callsOf (early ++ late) = callsOf early ++ callsOf late :=
  List.filterMap_append

theorem callsOf_called (trace : Trace) : callsOf (trace.map .called) = trace := by
  induction trace with
  | nil => rfl
  | cons exchange trace ih => exact congrArg (exchange :: ·) ih

theorem eventObeys_append :
    EventObeys wake count (early ++ late) ↔
      EventObeys wake count early ∧ EventObeys wake (counterAfter wake count early) late := by
  induction early generalizing count with
  | nil => simp [EventObeys, counterAfter]
  | cons happening early ih =>
    simp only [List.cons_append, EventObeys, ih, and_assoc]
    rfl

theorem exists_called {before after : Trace} {exchange : Exchange}
    (split : callsOf story = before ++ exchange :: after) :
    ∃ early late, story = early ++ .called exchange :: late ∧ callsOf early = before
      ∧ callsOf late = after := by
  rcases List.filterMap_eq_append_iff.mp split with ⟨first, rest, rfl, firstCalls, restCalls⟩
  rcases List.filterMap_eq_cons_iff.mp restCalls with
    ⟨signals, happening, late, rfl, silent, made, lateCalls⟩
  obtain rfl : happening = .called exchange := by
    cases happening with
    | called other => exact congrArg _ (Option.some.inj made)
    | signalled => cases made
  refine ⟨first ++ signals, late, (List.append_assoc ..).symm, ?_, lateCalls⟩
  have nothing : callsOf signals = [] := List.filterMap_eq_nil_iff.mpr silent
  rw [callsOf_append, nothing, List.append_nil]
  exact firstCalls

theorem counter_of_takesBack_eq_false {exchange : Exchange}
    (kept : exchange.takesBack wake = false) :
    (Happening.called exchange).counter wake count = count := by
  unfold Happening.counter
  split
  next event answer same =>
    cases same
    rw [if_neg (of_decide_eq_false kept)]
  next => rfl
  next same => cases same

theorem exists_of_takesBack {exchange : Exchange} (takes : exchange.takesBack wake = true) :
    ∃ size : Nat, exchange = ⟨.readEvent wake, .ok size⟩ := by
  unfold Exchange.takesBack at takes
  split at takes
  next event size =>
    rw [of_decide_eq_true takes]
    exact ⟨size, rfl⟩
  next => cases takes

/-- Whoever takes signals back leaves none, and there is one more at most when one is given. -/
theorem takesBack_le_of_obeys (obeys : happening.Obeys wake count) :
    (callsOf [happening]).countP (·.takesBack wake)
        + (if happening.counter wake count = 0 then 0 else 1)
      ≤ [happening].countP Happening.isSignal + (if count = 0 then 0 else 1) := by
  rcases happening with exchange | _
  · have signal : [Happening.called exchange].countP Happening.isSignal = 0 := rfl
    have made : callsOf [.called exchange] = [exchange] := rfl
    rw [signal, made, List.countP_singleton]
    cases takes : exchange.takesBack wake with
    | false =>
      rw [counter_of_takesBack_eq_false takes]
      simp
    | true =>
      rcases exists_of_takesBack takes with ⟨size, rfl⟩
      have read := obeys rfl
      by_cases none : count = 0
      · rw [if_pos none] at read
        cases read
      · simp [Happening.counter, none]
  · have bound : (if Happening.signalled.counter wake count = 0 then 0 else 1) ≤ 1 := by
      split <;> omega
    have signal : [Happening.signalled].countP Happening.isSignal = 1 := rfl
    have silent : (callsOf [Happening.signalled]).countP (·.takesBack wake) = 0 := rfl
    omega

/-- Signals can only be taken back once they were given. -/
theorem countP_takesBack_le (obeys : EventObeys wake count story) :
    (callsOf story).countP (·.takesBack wake)
        + (if counterAfter wake count story = 0 then 0 else 1)
      ≤ story.countP Happening.isSignal + (if count = 0 then 0 else 1) := by
  induction story generalizing count with
  | nil => exact le_of_eq rfl
  | cons happening story ih =>
    have now := takesBack_le_of_obeys obeys.1
    have later := ih obeys.2
    have counter : counterAfter wake count (happening :: story)
        = counterAfter wake (happening.counter wake count) story := rfl
    rw [← List.singleton_append, callsOf_append, List.countP_append, List.countP_append,
      List.singleton_append, counter]
    omega

theorem signalled_of_counterAfter (counted : counterAfter wake 0 story ≠ 0) :
    Happening.signalled ∈ story := by
  by_contra silent
  apply counted
  clear counted
  induction story with
  | nil => rfl
  | cons happening story ih =>
    rw [List.mem_cons, not_or] at silent
    have kept : happening.counter wake 0 = 0 := by
      unfold Happening.counter
      split
      · exact ite_self 0
      · rfl
      · exact absurd rfl silent.1
    change counterAfter wake (happening.counter wake 0) story = 0
    rw [kept]
    exact ih silent.2

end Stories

end RadioRelay
