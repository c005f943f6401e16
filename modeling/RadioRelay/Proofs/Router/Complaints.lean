import RadioRelay.Proofs.Router.Resilience
import RadioRelay.Proofs.Router.Tenure

/-!
# How failed accepts are reported

Every accept that fails is counted, and the time is asked for. A line of the log tells of it unless
there was such a line within the last five seconds, and it tells how many accepts have failed so
far. Whether the poller gives the listener up makes no difference (`Router.accept_complaints`).
-/

namespace RadioRelay

namespace Exchange

/-- An accept failed, and not because nobody waits or because it was interrupted. -/
def rejects : Exchange → Bool
  | ⟨.accept _, .error errno⟩ => !errno.isTransient
  | _ => false

def complains : Exchange → Bool
  | ⟨.log (.acceptFailed _ _ _), _⟩ => true
  | _ => false

def time? : Exchange → Option Nat
  | ⟨.currentTime, now⟩ => some now
  | _ => none

/-- No accept failed, and the log is told of none. -/
def Calm (exchange : Exchange) : Prop :=
  exchange.rejects = false ∧ exchange.complains = false

theorem eq_of_complains {exchange : Exchange} (complains : exchange.complains = true) :
    ∃ name errno failures, exchange = ⟨.log (.acceptFailed name errno failures), ()⟩ := by
  unfold Exchange.complains at complains
  split at complains
  · exact ⟨_, _, _, rfl⟩
  · cases complains

end Exchange

def lastTold (told : Nat) (trace : Trace) : Nat :=
  trace.foldl (fun told exchange => exchange.time?.getD told) told

/-- The times of the lines that tell of failed accepts: each has the time that was told last. -/
def complaintTimes (told : Nat) : Trace → List Nat
  | [] => []
  | exchange :: later =>
    if exchange.complains then told :: complaintTimes told later
    else complaintTimes (exchange.time?.getD told) later

section Times

variable {told time interval now : Nat} {early late trace : Trace} {times : List Nat}

theorem complaintTimes_append :
    complaintTimes told (early ++ late)
      = complaintTimes told early ++ complaintTimes (lastTold told early) late := by
  induction early generalizing told with
  | nil => rfl
  | cons exchange early ih =>
    rw [List.cons_append, complaintTimes, complaintTimes, lastTold, List.foldl_cons]
    split
    next complains =>
      rcases exchange.eq_of_complains complains with ⟨_, _, _, rfl⟩
      rw [ih]
      rfl
    next => exact ih

theorem complaintTimes_of_calm (calm : ∀ exchange ∈ trace, exchange.Calm) :
    complaintTimes told trace = [] := by
  induction trace generalizing told with
  | nil => rfl
  | cons exchange trace ih =>
    rw [List.forall_mem_cons] at calm
    rw [complaintTimes, if_neg (by simp [calm.1.2]), ih calm.2]

theorem countP_rejects_of_calm (calm : ∀ exchange ∈ trace, exchange.Calm) :
    trace.countP Exchange.rejects = 0 :=
  List.countP_eq_zero.mpr fun exchange exchangeMem => by simp [(calm exchange exchangeMem).1]

theorem told_of_mem_complaintTimes (reported : time ∈ complaintTimes told trace) :
    time = told ∨ time ∈ trace.filterMap Exchange.time? := by
  induction trace generalizing told with
  | nil => cases reported
  | cons exchange trace ih =>
    rw [complaintTimes] at reported
    split at reported
    next complains =>
      rcases exchange.eq_of_complains complains with ⟨_, _, _, rfl⟩
      rcases List.mem_cons.mp reported with now | later
      · exact Or.inl now
      · exact ih later
    next =>
      cases shown : exchange.time? with
      | none =>
        rw [shown] at reported
        rw [List.filterMap_cons_none shown]
        exact ih reported
      | some now =>
        rw [shown] at reported
        rw [List.filterMap_cons_some shown, List.mem_cons]
        rcases ih reported with rfl | later
        · exact Or.inr (Or.inl rfl)
        · exact Or.inr (Or.inr later)

/-- If times are far apart, something is far from all of them if it is far from the last one. -/
theorem forall_add_le_iff (positive : 0 < interval)
    (apart : times.Pairwise fun first second => first + interval ≤ second) :
    (∀ last ∈ times, last + interval ≤ now)
      ↔ times.getLast?.all (fun last => interval ≤ now - last) = true := by
  rcases List.eq_nil_or_concat times with rfl | ⟨front, last, rfl⟩
  · simp
  · rw [List.concat_eq_append, List.pairwise_append] at apart
    rw [List.concat_eq_append, List.getLast?_append_of_ne_nil _ (List.cons_ne_nil _ _),
      List.getLast?_singleton, Option.all_some, decide_eq_true_iff, List.forall_mem_append,
      List.forall_mem_singleton]
    constructor
    · rintro ⟨-, far⟩
      omega
    · intro far
      refine ⟨?_, by omega⟩
      intro one oneMem
      have := apart.2.2 one oneMem last (List.mem_singleton_self _)
      omega

end Times

namespace Router

open Program

variable {router after start : Router} {trace past history : Trace} {client : ClientId}
  {name : String}

/-! ### What bears on the reports of a stage -/

/-- What a router knows of the accepts that failed. -/
def grievance (router : Router) : Listener × Nat × Option Nat :=
  (router.listener, router.statistics.acceptErrors, router.lastAcceptNotice)

theorem grievance_of_setting (same : after.setting = router.setting) :
    after.grievance = router.grievance :=
  congrArg (fun setting : Setting =>
    (setting.listener, setting.acceptErrors, setting.lastAcceptNotice)) same

/-- Nothing happens that has to do with failed accepts. -/
def Undisturbed (router : Router) (trace : Trace) (after : Router) : Prop :=
  (∀ exchange ∈ trace, exchange.Calm) ∧ after.grievance = router.grievance

/-- An accept fails, which is counted and perhaps reported. -/
def Disturbed (router : Router) (trace : Trace) (after : Router) : Prop :=
  ∃ (errno : Errno) (now : Nat) (rest : Trace), errno.isTransient = false
    ∧ trace = ⟨.accept router.listener.descriptor, .error errno⟩ :: ⟨.currentTime, now⟩
      :: (router.acceptReport errno now ++ rest)
    ∧ (∀ exchange ∈ rest, exchange.Calm)
    ∧ after.grievance = (router.withAcceptError now).grievance

theorem undisturbed_removeClient {reason : RemovalReason}
    (runs : (router.removeClient client reason).Runs trace after) :
    router.Undisturbed trace after := by
  rcases runs_removeClient runs with ⟨-, rfl, rfl⟩ | ⟨_, _, -, rfl, rfl⟩
  · exact ⟨by simp, rfl⟩
  · exact ⟨by simp [retirement, Exchange.Calm, Exchange.rejects, Exchange.complains], rfl⟩

theorem Undisturbed.cons {exchange : Exchange} {changed : Router}
    (undisturbed : changed.Undisturbed trace after) (calm : exchange.Calm)
    (same : changed.grievance = router.grievance) :
    router.Undisturbed (exchange :: trace) after := by
  refine ⟨?_, undisturbed.2.trans same⟩
  rw [List.forall_mem_cons]
  exact ⟨calm, undisturbed.1⟩

theorem calm_notice (request : Request) :
    Exchange.Calm ⟨.log (request.notice client), ()⟩ := by
  cases request <;> exact ⟨rfl, rfl⟩

theorem undisturbed_handleClient (connected : router.registry.contains client)
    (runs : (router.handleClient client).Runs trace after) : router.Undisturbed trace after := by
  rcases Option.isSome_iff_exists.mp connected with ⟨connection, found⟩
  rcases runs_handleClient found runs with
    ⟨_, _, rfl, ⟨-, rfl, rfl⟩ | ⟨-, _, removes⟩⟩
      | ⟨received, _, rfl, ⟨-, _, removes⟩ | ⟨-, -, _, removes⟩ | ⟨-, bytes, -, answers⟩⟩
  · exact ⟨by simp [Exchange.Calm, Exchange.rejects, Exchange.complains], rfl⟩
  · exact (undisturbed_removeClient removes).cons ⟨rfl, rfl⟩ rfl
  · exact (undisturbed_removeClient removes).cons ⟨rfl, rfl⟩ rfl
  · exact (undisturbed_removeClient removes).cons ⟨rfl, rfl⟩ rfl
  · have stillFound : (router.withMessage received).registry.get? client = some connection := found
    rcases runs_answer stillFound answers with
      ⟨_, _, -, removes⟩ | ⟨message, _, _, -, rfl, ⟨-, rfl, rfl⟩ | ⟨-, _, removes⟩⟩
    · exact (undisturbed_removeClient removes).cons ⟨rfl, rfl⟩ rfl
    · refine ⟨?_, rfl⟩
      simp only [List.forall_mem_cons]
      exact ⟨⟨rfl, rfl⟩, calm_notice _, ⟨rfl, rfl⟩, by simp⟩
    · rcases undisturbed_removeClient removes with ⟨calm, same⟩
      refine ⟨?_, same⟩
      simp only [List.forall_mem_cons]
      exact ⟨⟨rfl, rfl⟩, calm_notice _, ⟨rfl, rfl⟩, calm⟩

theorem calm_of_ofForwarding {exchange : Exchange} (forwards : exchange.call.OfForwarding) :
    exchange.Calm := by
  rcases exchange with ⟨call, answer⟩
  cases call with
  | receive | send | unwatch | close => exact ⟨rfl, rfl⟩
  | log notice =>
    cases notice with
    | acceptFailed => cases forwards
    | _ => exact ⟨rfl, rfl⟩
  | _ => cases forwards

theorem undisturbed_handleKernel (runs : router.handleKernel.Runs trace after) :
    router.Undisturbed trace after := by
  constructor
  · intro exchange exchangeMem
    exact calm_of_ofForwarding (ofForwarding_handleKernel runs exchange exchangeMem)
  · exact grievance_of_setting (setting_handleKernel runs)

/-- An accept fails in a stage, or nothing happens that has to do with failed accepts. -/
theorem Stage.undisturbed_or_disturbed (stage : Stage router trace after) :
    router.Undisturbed trace after ∨ router.Disturbed trace after := by
  cases stage with
  | resumes runs =>
    left
    rcases runs_resumeAccept runs with
      ⟨-, rfl, same⟩ | ⟨_, _, -, ⟨-, rfl, same⟩ | ⟨-, _ | _, rfl, same⟩⟩
    all_goals cases same
    all_goals exact ⟨by simp [Exchange.Calm, Exchange.rejects, Exchange.complains], rfl⟩
  | failsToResume runs =>
    left
    rcases runs_resumeAccept runs with
      ⟨-, rfl, same⟩ | ⟨_, _, -, ⟨-, rfl, same⟩ | ⟨-, _ | _, rfl, same⟩⟩
    all_goals cases same
    exact ⟨by simp [Exchange.Calm, Exchange.rejects, Exchange.complains], rfl⟩
  | bounds runs =>
    left
    rcases runs_boundedTimeout runs with ⟨-, rfl, -⟩ | ⟨_, _, -, rfl, -⟩
    all_goals exact ⟨by simp [Exchange.Calm, Exchange.rejects, Exchange.complains], rfl⟩
  | waits runs =>
    refine Or.inl ⟨?_, rfl⟩
    intro exchange exchangeMem
    rcases (kept_of_wait runs).1 exchange exchangeMem with ⟨answer, rfl⟩
    exact ⟨rfl, rfl⟩
  | wakes runs =>
    refine Or.inl ⟨?_, rfl⟩
    intro exchange exchangeMem
    rcases reads_of_drain runs exchange exchangeMem with ⟨answer, rfl⟩
    exact ⟨rfl, rfl⟩
  | stops => exact Or.inl ⟨by simp [Exchange.Calm, Exchange.rejects, Exchange.complains], rfl⟩
  | findsNobody runs =>
    left
    rcases runs_accept.mp runs with ⟨_, -, same⟩ | ⟨errno, rfl, same⟩
    · cases same
    · split at same
      next transient =>
        exact ⟨by simp [Exchange.Calm, Exchange.rejects, Exchange.complains, transient], rfl⟩
      next => cases same
  | welcomes accepts runs =>
    left
    rcases runs_accept.mp accepts with ⟨client, rfl, same⟩ | ⟨errno, -, same⟩
    · cases same
      rcases runs_welcome runs with ⟨_, rfl, rfl⟩ | ⟨_, rfl, rfl, rfl⟩
      · exact ⟨by simp [Exchange.Calm, Exchange.rejects, Exchange.complains], rfl⟩
      · refine ⟨?_, rfl⟩
        split <;> simp [Exchange.Calm, Exchange.rejects, Exchange.complains]
    · split at same <;> cases same
  | failsToAccept errno fails runs =>
    right
    rcases runs_accept.mp fails with ⟨client, -, same⟩ | ⟨reason, rfl, same⟩
    · cases same
    split at same
    next => cases same
    next lasting =>
      cases same
      rcases runs_pauseAccept runs with ⟨now, ⟨-, rfl, rfl⟩ | ⟨-, _, rfl, rfl⟩⟩
      · exact ⟨errno, now, [], Bool.eq_false_iff.mpr lasting, by simp, by simp, rfl⟩
      · refine ⟨errno, now, _, Bool.eq_false_iff.mpr lasting, rfl, ?_, rfl⟩
        simp [Exchange.Calm, Exchange.rejects, Exchange.complains]
  | hears runs => exact Or.inl (undisturbed_handleKernel runs)
  | serves connected _ runs => exact Or.inl (undisturbed_handleClient connected runs)
  | hangsUp _ runs => exact Or.inl (undisturbed_removeClient runs)

/-! ### One failed accept -/

/-- The line that tells of a failed accept, and of how many there have been. -/
def complaint (name : String) (errno : Errno) (failures : Nat) : Exchange :=
  ⟨.log (.acceptFailed name errno failures), ()⟩

section Failure

variable {errno : Errno} {now : Nat} {rest : Trace}

theorem acceptReport_eq (router : Router) (errno : Errno) (now : Nat) :
    router.acceptReport errno now = if router.reportsAt now then
      [complaint router.listener.name errno (router.statistics.acceptErrors + 1)] else [] := rfl

theorem countP_rejects_of_report (router : Router) (now : Nat) (lasting : errno.isTransient = false)
    (calm : ∀ exchange ∈ rest, exchange.Calm) :
    (⟨.accept router.listener.descriptor, .error errno⟩ :: ⟨.currentTime, now⟩
      :: (router.acceptReport errno now ++ rest)).countP Exchange.rejects = 1 := by
  have report : (router.acceptReport errno now).countP Exchange.rejects = 0 := by
    rw [acceptReport_eq]
    split <;> rfl
  rw [List.countP_cons, List.countP_cons, List.countP_append, report, countP_rejects_of_calm calm]
  simp [Exchange.rejects, lasting]

theorem complaintTimes_of_report (router : Router) (errno : Errno) (now told : Nat)
    (calm : ∀ exchange ∈ rest, exchange.Calm) :
    complaintTimes told (⟨.accept router.listener.descriptor, .error errno⟩ :: ⟨.currentTime, now⟩
      :: (router.acceptReport errno now ++ rest)) = if router.reportsAt now then [now] else [] := by
  change complaintTimes now (router.acceptReport errno now ++ rest) = _
  rw [complaintTimes_append, complaintTimes_of_calm calm, List.append_nil, acceptReport_eq]
  split <;> rfl

theorem unrejected_of_report (router : Router) (errno : Errno) (now : Nat)
    (calm : ∀ exchange ∈ rest, exchange.Calm) :
    ∀ exchange ∈ (⟨.currentTime, now⟩ : Exchange) :: (router.acceptReport errno now ++ rest),
      exchange.rejects = false := by
  rw [List.forall_mem_cons, List.forall_mem_append]
  refine ⟨rfl, ?_, fun exchange exchangeMem => (calm exchange exchangeMem).1⟩
  rw [acceptReport_eq]
  split
  · exact List.forall_mem_singleton.mpr rfl
  · simp

/-- The line comes first, if there is one. -/
theorem report_iff (router : Router) (errno : Errno) (now : Nat)
    (calm : ∀ exchange ∈ rest, exchange.Calm) :
    (∃ later, router.acceptReport errno now ++ rest
        = complaint router.listener.name errno (router.statistics.acceptErrors + 1) :: later)
      ↔ router.reportsAt now = true := by
  rw [acceptReport_eq]
  split
  next due => exact ⟨fun _ => due, fun _ => ⟨rest, rfl⟩⟩
  next undue =>
    constructor
    · rintro ⟨later, rfl⟩
      cases (calm _ (List.mem_cons_self ..)).2
    · intro due
      exact absurd due undue

/-- There is no other line. -/
theorem founded_of_report (router : Router) (errno : Errno) (now : Nat) {accepting : Exchange}
    (calm : ∀ exchange ∈ rest, exchange.Calm) {front back : Trace} {other : String} {reason : Errno}
    {failures : Nat} (accepts : accepting.complains = false)
    (split : accepting :: ⟨.currentTime, now⟩ :: (router.acceptReport errno now ++ rest)
      = front ++ complaint other reason failures :: back) :
    front = [accepting, ⟨.currentTime, now⟩] ∧ other = router.listener.name ∧ reason = errno
      ∧ failures = router.statistics.acceptErrors + 1 := by
  rcases front with _ | ⟨first, _ | ⟨second, front⟩⟩
  · cases split
    cases accepts
  · cases split
  · simp only [List.cons_append, List.cons.injEq] at split
    rcases split with ⟨rfl, rfl, split⟩
    have unfounded : ∀ {front : Trace},
        rest ≠ front ++ complaint other reason failures :: back := by
      rintro front rfl
      cases (calm _ (List.mem_append_right _ (List.mem_cons_self ..))).2
    rw [acceptReport_eq] at split
    split at split
    next =>
      rcases front with _ | ⟨third, front⟩
      · cases split
        exact ⟨rfl, rfl, rfl, rfl⟩
      · exact absurd (List.cons.inj split).2 unfounded
    next => exact absurd split unfounded

end Failure

/-! ### All failed accepts of a history -/

/-- After an accept failed, the time is asked for, and there is a line unless the last one is too
recent. -/
def Voiced (name : String) (history : Trace) : Prop :=
  ∀ front socket errno back, history = front ++ ⟨.accept socket, .error errno⟩ :: back →
    errno.isTransient = false → ∃ (now : Nat) (rest : Trace), back = ⟨.currentTime, now⟩ :: rest
      ∧ ((∃ later, rest = complaint name errno (front.countP Exchange.rejects + 1) :: later)
        ↔ ∀ last ∈ complaintTimes 0 front, last + acceptNoticeInterval ≤ now)

/-- A line tells of the accept that failed right before, and of how many there have been. -/
def Founded (name : String) (history : Trace) : Prop :=
  ∀ front other errno failures back, history = front ++ complaint other errno failures :: back →
    ∃ (early : Trace) (socket : Descriptor) (now : Nat),
      front = early ++ [⟨.accept socket, .error errno⟩, ⟨.currentTime, now⟩]
        ∧ errno.isTransient = false ∧ other = name
        ∧ failures = early.countP Exchange.rejects + 1

/-- What the router knows of the accepts that failed is what the history tells of them. -/
structure Grieved (name : String) (past : Trace) (router : Router) : Prop where
  listener : router.listener.name = name
  errors : router.statistics.acceptErrors = past.countP Exchange.rejects
  last : router.lastAcceptNotice = (complaintTimes 0 past).getLast?
  apart : (complaintTimes 0 past).Pairwise fun first second => first + acceptNoticeInterval ≤ second
  voiced : Voiced name past
  founded : Founded name past

theorem Voiced.append (voiced : Voiced name past)
    (quiet : ∀ exchange rest, trace = exchange :: rest → exchange.complains = false)
    (now : ∀ front socket errno back, trace = front ++ ⟨.accept socket, .error errno⟩ :: back →
      errno.isTransient = false → ∃ (now : Nat) (rest : Trace), back = ⟨.currentTime, now⟩ :: rest
        ∧ ((∃ later,
            rest = complaint name errno ((past ++ front).countP Exchange.rejects + 1) :: later)
          ↔ ∀ last ∈ complaintTimes 0 (past ++ front), last + acceptNoticeInterval ≤ now)) :
    Voiced name (past ++ trace) := by
  intro front socket errno back split lasting
  rcases append_eq_append_cons split with ⟨rest, rfl, inTrace⟩ | ⟨rest, inPast, rfl⟩
  · exact now rest socket errno back inTrace lasting
  · rcases voiced front socket errno rest inPast lasting with ⟨time, others, rfl, lineIff⟩
    refine ⟨time, others ++ trace, rfl, ?_⟩
    rw [← lineIff]
    cases others with
    | nil =>
      constructor
      · rintro ⟨later, same⟩
        cases quiet _ _ same
      · rintro ⟨later, same⟩
        cases same
    | cons other others =>
      constructor
      · rintro ⟨later, same⟩
        exact ⟨others, congrArg (· :: others) (List.cons.inj same).1⟩
      · rintro ⟨later, same⟩
        exact ⟨later ++ trace, congrArg (· ++ trace) same⟩

theorem Founded.append (founded : Founded name past)
    (now : ∀ front other errno failures back,
      trace = front ++ complaint other errno failures :: back →
      ∃ (early : Trace) (socket : Descriptor) (now : Nat),
        front = early ++ [⟨.accept socket, .error errno⟩, ⟨.currentTime, now⟩]
          ∧ errno.isTransient = false ∧ other = name
          ∧ failures = (past ++ early).countP Exchange.rejects + 1) :
    Founded name (past ++ trace) := by
  intro front other errno failures back split
  rcases append_eq_append_cons split with ⟨rest, rfl, inTrace⟩ | ⟨rest, inPast, rfl⟩
  · rcases now rest other errno failures back inTrace with ⟨early, socket, time, rfl, reasons⟩
    exact ⟨past ++ early, socket, time, (List.append_assoc ..).symm, reasons⟩
  · exact founded front other errno failures rest inPast

namespace Grieved

theorem of_undisturbed (grieved : Grieved name past router)
    (undisturbed : router.Undisturbed trace after) : Grieved name (past ++ trace) after := by
  rcases undisturbed with ⟨calm, same⟩
  simp only [grievance, Prod.mk.injEq] at same
  rcases same with ⟨listener, errors, last⟩
  have times : complaintTimes 0 (past ++ trace) = complaintTimes 0 past := by
    rw [complaintTimes_append, complaintTimes_of_calm calm, List.append_nil]
  refine ⟨listener ▸ grieved.listener, ?_, ?_, ?_, grieved.voiced.append ?_ ?_,
    grieved.founded.append ?_⟩
  · rw [errors, grieved.errors, List.countP_append, countP_rejects_of_calm calm, Nat.add_zero]
  · rw [last, grieved.last, times]
  · rw [times]
    exact grieved.apart
  · rintro exchange rest rfl
    exact (calm exchange (List.mem_cons_self ..)).2
  · rintro front socket errno back rfl lasting
    have := (calm _ (List.mem_append_right _ (List.mem_cons_self ..))).1
    simp [Exchange.rejects, lasting] at this
  · rintro front other errno failures back rfl
    cases (calm _ (List.mem_append_right _ (List.mem_cons_self ..))).2

/-- Whether a failed accept is reported depends on all lines before. -/
theorem reportsAt_iff (grieved : Grieved name past router) (now : Nat) :
    router.reportsAt now = true
      ↔ ∀ last ∈ complaintTimes 0 past, last + acceptNoticeInterval ≤ now := by
  rw [forall_add_le_iff (by decide) grieved.apart, reportsAt, grieved.last]

theorem of_disturbed (grieved : Grieved name past router)
    (disturbed : router.Disturbed trace after) : Grieved name (past ++ trace) after := by
  rcases disturbed with ⟨errno, now, rest, lasting, rfl, calm, same⟩
  simp only [grievance, withAcceptError, Prod.mk.injEq] at same
  rcases same with ⟨listener, errors, last⟩
  have reports := grieved.reportsAt_iff now
  have times := complaintTimes_of_report router errno now (lastTold 0 past) calm
  refine ⟨listener ▸ grieved.listener, ?_, ?_, ?_, grieved.voiced.append ?_ ?_,
    grieved.founded.append ?_⟩
  · rw [errors, grieved.errors, List.countP_append,
      countP_rejects_of_report router now lasting calm]
  · rw [last, complaintTimes_append, times, grieved.last]
    split
    next => rw [List.getLast?_append_of_ne_nil _ (List.cons_ne_nil _ _), List.getLast?_singleton]
    next => rw [List.append_nil]
  · rw [complaintTimes_append, times, List.pairwise_append]
    refine ⟨grieved.apart, ?_, ?_⟩
    · split <;> simp
    · intro time timeMem later laterMem
      split at laterMem
      next due =>
        rw [List.mem_singleton.mp laterMem]
        exact reports.mp due time timeMem
      next => cases laterMem
  · intro exchange others same
    cases same
    rfl
  · intro front socket reason back same stillLasting
    rcases front with _ | ⟨first, front⟩
    · cases same
      refine ⟨now, _, rfl, ?_⟩
      rw [List.append_nil, ← reports, ← grieved.errors, ← grieved.listener]
      exact report_iff router errno now calm
    · rcases List.cons.inj same with ⟨rfl, others⟩
      have rejected : ⟨.accept socket, .error reason⟩
          ∈ (⟨.currentTime, now⟩ : Exchange) :: (router.acceptReport errno now ++ rest) := by
        rw [others]
        exact List.mem_append_right _ (List.mem_cons_self ..)
      have := unrejected_of_report router errno now calm _ rejected
      simp [Exchange.rejects, stillLasting] at this
  · intro front other reason failures back same
    rcases founded_of_report router errno now calm rfl same with ⟨rfl, rfl, rfl, rfl⟩
    exact ⟨[], _, now, rfl, lasting, grieved.listener, by rw [List.append_nil, grieved.errors]⟩

theorem of_stage (grieved : Grieved name past router) (stage : Stage router trace after) :
    Grieved name (past ++ trace) after := by
  rcases stage.undisturbed_or_disturbed with undisturbed | disturbed
  · exact grieved.of_undisturbed undisturbed
  · exact grieved.of_disturbed disturbed

end Grieved

theorem grieved_of_course (initially : Grieved name [] start)
    (course : Course Stage start history router) : Grieved name history router := by
  induction course with
  | start => exact initially
  | next _ stage ih => exact ih.of_stage stage

/-- On a clock that never goes back, the lines that tell of failed accepts are at least five seconds
apart. An accept that fails is counted in any case, and there is no line right after it exactly if
there was one less than five seconds before. Every line comes right after an accept that failed, and
tells of it and of how many have failed so far. -/
theorem accept_complaints {listener : Listener} {kernel : Descriptor} {options : RouterOptions}
    {created : Trace} (puts : (create listener kernel options).run.Runs created (.ok start))
    (turns : Course Turn start history router)
    (onward : (history.filterMap Exchange.time?).Pairwise (· ≤ ·)) :
    router.statistics.acceptErrors = history.countP Exchange.rejects
      ∧ ((complaintTimes 0 history).Pairwise fun first second => first + 5000000 ≤ second)
      ∧ (∀ front socket errno back, history = front ++ ⟨.accept socket, .error errno⟩ :: back →
        errno.isTransient = false → ∃ (now : Nat) (rest : Trace), back = ⟨.currentTime, now⟩ :: rest
          ∧ ((¬ ∃ later,
              rest = complaint listener.name errno (front.countP Exchange.rejects + 1) :: later)
            ↔ ∃ last ∈ complaintTimes 0 front, last ≤ now ∧ now < last + 5000000))
      ∧ ∀ front name errno failures back, history = front ++ complaint name errno failures :: back →
        ∃ (early : Trace) (socket : Descriptor) (now : Nat),
          front = early ++ [⟨.accept socket, .error errno⟩, ⟨.currentTime, now⟩]
            ∧ errno.isTransient = false ∧ name = listener.name
            ∧ failures = early.countP Exchange.rejects + 1 := by
  rcases runs_create puts with ⟨poller, wake, -, rfl⟩
  have initially : Grieved listener.name [] (assembled listener kernel options poller wake) :=
    ⟨rfl, rfl, rfl, .nil, by simp [Voiced], by simp [Founded]⟩
  have grieved := grieved_of_course initially (course_of_turns turns)
  refine ⟨grieved.errors, grieved.apart, ?_, grieved.founded⟩
  intro front socket errno back split lasting
  rcases grieved.voiced front socket errno back split lasting with ⟨now, rest, rfl, lineIff⟩
  refine ⟨now, rest, rfl, ?_⟩
  have past : ∀ last ∈ complaintTimes 0 front, last ≤ now := by
    intro last lastMem
    rw [split, List.filterMap_append, List.pairwise_append] at onward
    rcases told_of_mem_complaintTimes lastMem with rfl | told
    · exact Nat.zero_le _
    · exact onward.2.2 last told now (List.mem_cons_self ..)
  rw [lineIff]
  simp only [not_forall, not_le, exists_prop]
  constructor
  · rintro ⟨last, lastMem, recent⟩
    exact ⟨last, lastMem, past last lastMem, recent⟩
  · rintro ⟨last, lastMem, -, recent⟩
    exact ⟨last, lastMem, recent⟩

/-- Somebody knocks at some time, and nothing can be accepted. -/
def besieged (now : Nat) (unwatched : Attempt Unit) (_ : Trace) : (call : Call) → call.Answer
  | .currentTime => now
  | .wait _ _ _ => .ok ⟨1, [⟨⟨3⟩, readable⟩]⟩
  | .accept _ => .error ⟨24⟩
  | .watch _ _ _ => .ok ()
  | .unwatch _ _ => unwatched
  | call => call.refusal

theorem besieged_ends (router : Router) (now : Nat) (unwatched : Attempt Unit) :
    ((router.pollOnce (-1)).rehearse (besieged now unwatched) 1).1.isSome := by
  have sparing : Sparing Exchange.prolongs (besieged now unwatched) 0 := by
    intro past call _
    cases call <;> rfl
  exact pollOnce_ends sparing Nat.one_pos router (-1)

def siege (router : Router) (now : Nat) (unwatched : Attempt Unit) : Trace :=
  ((router.pollOnce (-1)).rehearse (besieged now unwatched) 1).2

def sieged (router : Router) (now : Nat) (unwatched : Attempt Unit) : Router :=
  (((router.pollOnce (-1)).rehearse (besieged now unwatched) 1).1.get (besieged_ends ..)).2

/-- The router after somebody knocked twice. The second time the poller does not give the listener
up. -/
def sleepless : Router := (vacant.sieged 1000000 (.ok ())).sieged 1200000 (.error ⟨12⟩)

/-- Somebody knocks three times, the third time five seconds after the first. -/
def sieges : Trace :=
  vacant.siege 1000000 (.ok ()) ++ (vacant.sieged 1000000 (.ok ())).siege 1200000 (.error ⟨12⟩)
    ++ sleepless.siege 6000000 (.ok ())

theorem turn_siege (router : Router) (now : Nat) (unwatched : Attempt Unit) :
    Turn router (router.siege now unwatched) (router.sieged now unwatched) :=
  turn_rehearse (besieged_ends ..)

/-- Three failures are counted, but only the first one and the third one are reported. -/
theorem accept_complaints_of_sieges : ∃ router, Course Turn vacant sieges router
    ∧ router.statistics.acceptErrors = 3 ∧ complaintTimes 0 sieges = [1000000, 6000000]
    ∧ (complaintTimes 0 sieges).Pairwise fun first second => first + 5000000 ≤ second := by
  have turns : Course Turn vacant sieges (sleepless.sieged 6000000 (.ok ())) :=
    ((Course.single (turn_siege ..)).next (turn_siege ..)).next (turn_siege ..)
  rcases accept_complaints creates_vacant turns (by decide +kernel) with ⟨errors, apart, -⟩
  exact ⟨_, turns, errors.trans (by decide +kernel), by decide +kernel, apart⟩

end Router

end RadioRelay
