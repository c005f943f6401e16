import RadioRelay.Proofs.Router.Laps
import RadioRelay.Proofs.Router.Reports

/-!
# Turns on a clock

The clock never goes back, and in a turn of the loop it moves only while the router
waits. So two times belong to a turn: the one at which it begins and the one at which
its wait is over. A script may be given a clock (`clockwork`). The poller, too, can
be told what to report (`ReportsWatched`): nothing but what it watches.
-/

namespace RadioRelay

/-! ### The clock -/

/-- The time after some calls. A wait moves the clock from one time to another one. -/
def clockAfter (begun ended : Nat) (trace : Trace) : Nat :=
  if trace.any (·.call.isWait) then ended else begun

/-- If the call asks for the time, this is what it is told. -/
def Exchange.Shows (time : Nat) : Exchange → Prop
  | ⟨.currentTime, now⟩ => now = time
  | _ => True

/-- Whoever asks for the time is told it. -/
def OnClock (begun ended : Nat) : Trace → Prop
  | [] => True
  | exchange :: later =>
    exchange.Shows begun ∧ OnClock (clockAfter begun ended [exchange]) ended later

def clockwork (begun ended : Nat) (script : Script) (past : Trace) : (call : Call) → call.Answer
  | .currentTime => clockAfter begun ended past
  | call => script past call

section Clocks

variable {begun ended now : Nat} {early late trace past : Trace}

theorem clockAfter_append :
    clockAfter begun ended (early ++ late)
      = clockAfter (clockAfter begun ended early) ended late := by
  unfold clockAfter
  rw [List.any_append]
  cases early.any (·.call.isWait) <;> simp

theorem clockAfter_mem (begun_le : begun ≤ ended) (trace : Trace) :
    begun ≤ clockAfter begun ended trace ∧ clockAfter begun ended trace ≤ ended := by
  unfold clockAfter
  split
  · exact ⟨begun_le, le_rfl⟩
  · exact ⟨le_rfl, begun_le⟩

theorem onClock_append :
    OnClock begun ended (early ++ late) ↔
      OnClock begun ended early ∧ OnClock (clockAfter begun ended early) ended late := by
  induction early generalizing begun with
  | nil => simp [OnClock, clockAfter]
  | cons exchange early ih =>
    have clock : clockAfter begun ended (exchange :: early)
        = clockAfter (clockAfter begun ended [exchange]) ended early :=
      @clockAfter_append begun ended [exchange] early
    rw [List.cons_append, OnClock, OnClock, ih, clock, and_assoc]

/-- Nobody is told a time that is still to come. -/
theorem OnClock.le_of_mem (onClock : OnClock begun ended trace) (begun_le : begun ≤ ended)
    (asked : ⟨.currentTime, now⟩ ∈ trace) : now ≤ ended := by
  rcases List.append_of_mem asked with ⟨early, late, rfl⟩
  rcases (onClock_append.mp onClock).2 with ⟨rfl, -⟩
  exact (clockAfter_mem begun_le early).2

theorem onClock_of_scripted {script : Script}
    (scripted : Scripted (clockwork begun ended script) past trace) :
    OnClock (clockAfter begun ended past) ended trace := by
  induction trace generalizing past with
  | nil => trivial
  | cons exchange trace ih =>
    rcases exchange with ⟨call, answer⟩
    rcases scripted with ⟨answered, later⟩
    have onClock := ih later
    rw [clockAfter_append] at onClock
    refine ⟨?_, onClock⟩
    cases call with
    | currentTime => exact answered
    | _ => trivial

end Clocks

/-! ### What the poller reports -/

/-- Every wait reports only what is watched. -/
def ReportsWatched (poller : Descriptor) : List Descriptor → Trace → Prop
  | _, [] => True
  | watched, exchange :: later =>
    (∀ event ∈ exchange.reported, event.descriptor ∈ watched)
      ∧ ReportsWatched poller (exchange.nowWatched poller watched) later

instance decidableReportsWatched (poller : Descriptor) :
    ∀ watched trace, Decidable (ReportsWatched poller watched trace)
  | _, [] => isTrue trivial
  | watched, exchange :: later =>
    have := decidableReportsWatched poller (exchange.nowWatched poller watched) later
    inferInstanceAs (Decidable (_ ∧ _))

/-- The system gives out only numbers that are not open. The poller does what its answers say, and
a wait stores as many events as it says, and only events of what is watched. -/
structure Disciplined (poller : Descriptor) (opened watched : List Descriptor) (trace : Trace) :
    Prop where
  fresh : AcceptsFresh opened trace
  obeys : PollerObeys poller watched trace
  reportsWatched : ReportsWatched poller watched trace
  reportsAll : ∀ exchange ∈ trace, exchange.ReportsAll

section Order

variable {poller : Descriptor} {opened watched : List Descriptor} {early late trace : Trace}

theorem pollerObeys_append :
    PollerObeys poller watched (early ++ late) ↔ PollerObeys poller watched early
      ∧ PollerObeys poller (watchedAfter poller watched early) late := by
  induction early generalizing watched with
  | nil => simp [PollerObeys, watchedAfter]
  | cons exchange early ih =>
    rw [List.cons_append, PollerObeys, PollerObeys, ih, and_assoc]
    rfl

theorem reportsWatched_append :
    ReportsWatched poller watched (early ++ late) ↔ ReportsWatched poller watched early
      ∧ ReportsWatched poller (watchedAfter poller watched early) late := by
  induction early generalizing watched with
  | nil => simp [ReportsWatched, watchedAfter]
  | cons exchange early ih =>
    rw [List.cons_append, ReportsWatched, ReportsWatched, ih, and_assoc]
    rfl

theorem Disciplined.of_append (disciplined : Disciplined poller opened watched (early ++ late)) :
    Disciplined poller opened watched early
      ∧ Disciplined poller (openAfter opened early) (watchedAfter poller watched early) late := by
  have fresh := acceptsFresh_append.mp disciplined.fresh
  have obeys := pollerObeys_append.mp disciplined.obeys
  have reportsWatched := reportsWatched_append.mp disciplined.reportsWatched
  have reportsAll := List.forall_mem_append.mp disciplined.reportsAll
  exact ⟨⟨fresh.1, obeys.1, reportsWatched.1, reportsAll.1⟩,
    ⟨fresh.2, obeys.2, reportsWatched.2, reportsAll.2⟩⟩

end Order

end RadioRelay
