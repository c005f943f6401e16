import RadioRelay.Proofs.Router.Resilience
import RadioRelay.Proofs.Router.Servings

/-!
# What a wait reports, and what else is answered

Two turns are compared in which the waits report different events, and all other
calls are answered by the same script. Over a single socket the script answers
according to what was sent and received over this socket. Two turns that call
alike there are then answered alike there, whatever else they do in between.
-/

namespace RadioRelay

def Call.isWait : Call → Bool
  | .wait _ _ _ => true
  | _ => false

def unwaited (past : Trace) : Trace := past.filter fun exchange => !exchange.call.isWait

/-- All sends and receives over a socket are answered by what was sent and received over it. -/
def Separate (script : Script) : Prop :=
  ∀ (socket : Descriptor) (past : Trace) (call : Call), call.isOf socket →
    script past call = script (past.filter (Exchange.isOf socket)) call

/-- Every wait reports the same events. All other calls are answered by a script, which is not told
what was reported. -/
def reporting (events : List Readiness) (script : Script) (past : Trace) :
    (call : Call) → call.Answer
  | .wait _ _ _ => .ok ⟨events.length, events⟩
  | call => script (unwaited past) call

section Reporting

variable {script : Script} {events other : List Readiness} {past pastAgain trace again : Trace}
  {call : Call} {socket : Descriptor}

theorem reporting_of_isWait (unheard : call.isWait = false) :
    reporting events script past call = script (unwaited past) call := by
  cases call with
  | wait => cases unheard
  | _ => rfl

theorem isWait_of_isOf (own : call.isOf socket) : call.isWait = false := by
  cases call with
  | wait => cases own
  | _ => rfl

theorem own_unwaited :
    (unwaited past).filter (Exchange.isOf socket) = past.filter (Exchange.isOf socket) := by
  rw [unwaited, List.filter_filter]
  apply List.filter_congr
  intro exchange _
  cases own : exchange.isOf socket with
  | true => simp [isWait_of_isOf own]
  | false => simp

theorem unwaited_append_congr (same : unwaited past = unwaited pastAgain) (later : Trace) :
    unwaited (past ++ later) = unwaited (pastAgain ++ later) := by
  unfold unwaited at same ⊢
  rw [List.filter_append, List.filter_append, same]

theorem unwaited_wait {source : Descriptor} {capacity : Nat} {timeout : Int}
    {answer answerAgain : Attempt Reported} :
    unwaited (past ++ [⟨.wait source capacity timeout, answer⟩])
      = unwaited (past ++ [⟨.wait source capacity timeout, answerAgain⟩]) := by
  simp [unwaited, Call.isWait]

/-- What is no wait is answered alike, whatever is reported. -/
theorem Scripted.reported (scripted : Scripted (reporting events script) past trace)
    (same : unwaited past = unwaited pastAgain)
    (unheard : ∀ exchange ∈ trace, exchange.call.isWait = false) :
    Scripted (reporting other script) pastAgain trace := by
  apply scripted.congr
  rintro before exchange after rfl
  have unheardNow := unheard exchange (by simp)
  rw [reporting_of_isWait unheardNow, reporting_of_isWait unheardNow,
    unwaited_append_congr same]

theorem Separate.reporting_eq (separate : Separate script) (own : call.isOf socket) :
    reporting events script past call = script (past.filter (Exchange.isOf socket)) call := by
  rw [reporting_of_isWait (isWait_of_isOf own), separate socket _ call own, own_unwaited]

theorem Separate.scripted_own (separate : Separate script)
    (scripted : Scripted (reporting events script) past trace) (socket : Descriptor) :
    Scripted script (past.filter (Exchange.isOf socket)) (trace.filter (Exchange.isOf socket)) := by
  have apart : ∀ past (exchange : Exchange), exchange.isOf socket →
      reporting events script past exchange.call
        = reporting events script (past.filter (Exchange.isOf socket)) exchange.call := by
    intro past exchange own
    rw [separate.reporting_eq own, separate.reporting_eq own, List.filter_filter]
    simp
  apply (scripted.filter apart).congr
  intro before exchange after split
  have member : exchange ∈ trace.filter (Exchange.isOf socket) := by simp [split]
  have own := (List.mem_filter.mp member).2
  rw [separate.reporting_eq own]
  exact (separate socket _ _ own).symm

theorem own_congr (same : unwaited past = unwaited pastAgain) (socket : Descriptor) :
    past.filter (Exchange.isOf socket) = pastAgain.filter (Exchange.isOf socket) := by
  rw [← own_unwaited, same, own_unwaited]

/-- Over every single socket the same is answered to the same. -/
theorem Separate.partAtCalls (separate : Separate script)
    (scripted : Scripted (reporting events script) past trace)
    (scriptedAgain : Scripted (reporting other script) pastAgain again)
    (same : past.filter (Exchange.isOf socket) = pastAgain.filter (Exchange.isOf socket)) :
    PartAtCalls (trace.filter (Exchange.isOf socket)) (again.filter (Exchange.isOf socket)) := by
  have own := separate.scripted_own scripted socket
  rw [same] at own
  exact own.partAtCalls (separate.scripted_own scriptedAgain socket)

theorem faithful_reporting (faithful : ∀ past call, Exchange.Faithful ⟨call, script past call⟩) :
    ∀ past call, Exchange.Faithful ⟨call, reporting events script past call⟩ := by
  intro past call
  cases call with
  | wait => trivial
  | _ => exact faithful _ _

/-- A script that is not told what was reported accepts as few clients as before. -/
theorem sparing_reporting {bound : Nat} (sparing : Program.Sparing Exchange.prolongs script bound) :
    Program.Sparing Exchange.prolongs (reporting events script) bound := by
  have counted : ∀ past : Trace,
      (unwaited past).countP Exchange.prolongs = past.countP Exchange.prolongs := by
    intro past
    rw [unwaited, List.countP_filter]
    apply List.countP_congr
    rintro ⟨call, answer⟩ -
    cases call <;> simp [Exchange.prolongs, Call.isWait]
  intro past call spent
  rw [← counted] at spent
  cases call with
  | wait => rfl
  | _ => exact sparing (unwaited past) _ spent

theorem Exchange.AtDoor.isWait {exchange : Exchange} (door : exchange.AtDoor) :
    exchange.call.isWait = false := by
  rcases exchange with ⟨call, answer⟩
  cases call with
  | wait => cases door
  | _ => rfl

end Reporting

end RadioRelay
