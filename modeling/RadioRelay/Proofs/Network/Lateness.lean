import RadioRelay.Proofs.Network.Reading
import RadioRelay.Proofs.Router.Limits

/-!
# Acknowledgements that come too late

A client that gave up on a registration may still be sent its acknowledgement, and
then it stands between the frames. A client that awaits an acknowledgement passes
over those of other requests. One that asks for a frame does not: it hands out what
it kept, or else takes the next message, and if that is no frame the call fails.
The acknowledgement is used up, so the call after that finds what stood behind it.
-/

namespace RadioRelay

open Program

namespace Exchange

def interrupts : Exchange → Bool
  | ⟨.receive _ _, .error errno⟩ => errno = .interrupted
  | _ => false

/-- A receive is answered with a message, unless it is interrupted. -/
def brings : Exchange → Bool
  | ⟨.receive _ _, .error errno⟩ => errno = .interrupted
  | ⟨.receive _ _, .ok received⟩ => received.size ≠ 0
  | _ => true

end Exchange

namespace Letter

/-- What a client that asks for a frame is told if this message is the next one. -/
def outcome : Letter → Except Failure Delivery
  | frame delivery _ _ => .ok delivery
  | answer _ _ _ => .error (.of (.badFrame .malformed))

theorem bytes_ne_nil (letter : Letter) : letter.bytes ≠ [] := by
  cases letter with
  | frame delivery message encoded => exact Delivery.ne_nil_of_encode encoded
  | answer result request judged =>
    intro empty
    cases empty

theorem mapError_decode (letter : Letter) :
    ((Delivery.decode letter.bytes).mapError fun error => .of (.badFrame error)) = letter.outcome := by
  cases letter with
  | frame delivery message encoded =>
    rw [bytes, Delivery.decode_of_encode encoded]
    rfl
  | answer result request judged =>
    rw [bytes, Acknowledgement.delivery_decode_encode judged]
    rfl

end Letter

namespace Client

variable {client after : Client} {trace later : Trace} {letters rest : List Letter} {letter : Letter}
  {socket : Descriptor}

theorem repeats_receiveFrame (client : Client) :
    client.receiveFrame.Repeats fun _ _ => Paced Exchange.interrupts := by
  have attempts : client.receiveUninterrupted.Repeats fun _ _ => Paced Exchange.interrupts := by
    apply repeats_repeatUntil
    · intro _ trace next runs
      rcases runs_attempt.mp runs with ⟨rfl, -⟩ | ⟨_, -, -, same⟩
      · simp [interruption, Exchange.interrupts]
      · cases same
    · intro _
      refine Repeats.bind (fun _ => trivial) ?_
      rintro (errno | received) <;> trivial
  have receives : client.receiveMessage.Repeats fun _ _ => Paced Exchange.interrupts := by
    refine Repeats.bind attempts ?_
    rintro (errno | received)
    · trivial
    · dsimp only
      split
      · trivial
      · split <;> trivial
  unfold receiveFrame
  split
  · trivial
  · refine Repeats.bind receives ?_
    rintro ⟨failure | message, middle⟩
    · trivial
    · dsimp only
      split <;> trivial

/-- A client that keeps nothing receives until something is there. -/
theorem reception_of_runs {result : Except Failure Delivery × Client}
    (nothing : client.pending = []) (brings : ∀ exchange ∈ later, exchange.brings)
    (runs : client.receiveFrame.Runs later result) :
    ∃ interruptions received, later = client.reception interruptions received
      ∧ received.size ≠ 0 := by
  unfold receiveFrame at runs
  rw [nothing] at runs
  rcases runs_bind.mp runs with ⟨early, ending, ⟨message, middle⟩, rfl, receives, meant⟩
  rcases runs_bind.mp receives with ⟨attempts, reading, answer, rfl, attempting, read⟩
  rcases runs_receiveUninterrupted.mp attempting with ⟨lasting, interruptions, rfl⟩
  have last : Exchange.brings
      ⟨.receive client.connection.descriptor client.buffer.capacity, answer⟩ = true := by
    apply brings
    simp
  rcases answer with errno | received
  · exact absurd (congrArg Except.error (of_decide_eq_true last)) lasting
  · refine ⟨interruptions, received, ?_, of_decide_eq_true last⟩
    -- Nothing is called after the receive, whatever the message is.
    have noReading : reading = [] := by
      dsimp only at read
      split at read
      · exact read.1
      · split at read <;> exact read.1
    have noEnding : ending = [] := by
      cases message with
      | error failure => exact meant.1
      | ok message =>
        dsimp only at meant
        split at meant <;> exact meant.1
    rw [noReading, noEnding, List.append_nil, List.append_nil]
    rfl

theorem arrived_reception {received : Received} (client : Client) (interruptions : Nat)
    (more : received.size ≠ 0) :
    (client.reception interruptions received).filterMap
        (Exchange.arrived? client.connection.descriptor)
      = [(client.buffer.capacity, received)] := by
  have arrived := client.arrived_attempts interruptions (.ok received)
  dsimp only at arrived
  rw [if_neg more] at arrived
  exact arrived

/-- What arrives is the first of the messages that are underway, and the others stay underway. -/
theorem next_of_delivered {received : Received} {interruptions : Nat} (more : received.size ≠ 0)
    (delivered : Delivered client.connection.descriptor letters trace)
    (queued : unread client.connection.descriptor letters trace = letter :: rest)
    (deliveredLater : Delivered client.connection.descriptor letters
      (trace ++ client.reception interruptions received)) :
    received = ⟨letter.bytes.length, letter.bytes.take client.buffer.capacity⟩
      ∧ unread client.connection.descriptor letters (trace ++ client.reception interruptions received)
        = rest := by
  unfold Delivered Carried at delivered deliveredLater
  unfold unread at queued ⊢
  rw [List.filterMap_append, client.arrived_reception interruptions more] at deliveredLater ⊢
  generalize trace.filterMap (Exchange.arrived? client.connection.descriptor) = arrivals
    at delivered queued deliveredLater ⊢
  have read := delivered.length_eq
  have whole : letters = letters.take arrivals.length ++ letter :: rest := by
    rw [← queued, List.take_append_drop]
  generalize letters.take arrivals.length = earlier at delivered read whole
  subst whole
  rw [List.length_append, List.length_singleton, ← read] at deliveredLater ⊢
  constructor
  · have last := List.forall₂_drop_append _ _ _ deliveredLater
    simp only [List.take_length_add_append, ← read, List.drop_left] at last
    rw [List.take_succ_cons, List.take_zero] at last
    cases last with
    | cons brought _ => exact brought
  · simp

/-- The next call hands out what was kept first. If nothing was kept it takes the next message,
which the caller gets if it is a frame, and on which the call fails if it is an acknowledgement. -/
theorem receiveFrame_of_letters {name : String} {created : Trace} {first : Client}
    {recipient : Recipient} (connects : (connect name).run.Runs created (.ok first))
    (readings : Course Reading ⟨first, []⟩ trace recipient)
    (delivered : Delivered first.connection.descriptor letters trace) :
    (∀ script bound, Sparing Exchange.interrupts script bound → ∀ limit, bound < limit →
        (recipient.client.receiveFrame.rehearse script limit).1.isSome)
      ∧ (∀ delivery kept, recipient.client.pending = delivery :: kept → ∀ later result,
        recipient.client.receiveFrame.Runs later result ↔
          later = [] ∧ result = (.ok delivery, { recipient.client with pending := kept }))
      ∧ ∀ letter rest, recipient.client.pending = [] →
        unread first.connection.descriptor letters trace = letter :: rest →
        ∀ later outcome after, recipient.client.receiveFrame.Runs later (outcome, after) →
          Delivered first.connection.descriptor letters (trace ++ later) →
          (∀ exchange ∈ later, exchange.brings) →
            outcome = letter.outcome
              ∧ after = { recipient.client with
                buffer := recipient.client.buffer.store letter.bytes }
              ∧ unread first.connection.descriptor letters (trace ++ later) = rest := by
  rcases runs_connect connects with ⟨-, -, room⟩
  rcases conserves_of_readings room readings with ⟨capacity, connection, -⟩
  refine ⟨?_, ?_, ?_⟩
  · intro script bound sparing limit enough
    exact ends_of_paced (repeats_receiveFrame recipient.client) sparing enough
  · intro delivery kept pending later result
    unfold receiveFrame
    rw [pending]
    exact runs_pure
  · intro letter rest nothing queued later outcome after runs deliveredLater brings
    rcases reception_of_runs nothing brings runs with ⟨interruptions, received, rfl, more⟩
    rw [← connection] at delivered queued deliveredLater ⊢
    rcases next_of_delivered more delivered queued deliveredLater with ⟨rfl, others⟩
    have fits : letter.bytes.length ≤ recipient.client.buffer.capacity := by
      rw [capacity]
      exact letter.length_le
    have expected := receiveFrame_of_reception nothing letter.bytes_ne_nil fits interruptions
    rw [letter.mapError_decode] at expected
    rw [List.take_of_length_le fits] at runs
    rcases Prod.mk.inj (runs.unique expected) with ⟨sameOutcome, sameAfter⟩
    exact ⟨sameOutcome, sameAfter, others⟩

section Tardiness

theorem granted : (0 : Int32) = 0 ∨ (0 : Int32) = -22 := Or.inl rfl

/-- The acknowledgement of the first request of a visitor, and a frame behind it. -/
def tardy : List Letter :=
  [.answer 0 (Draft.registration ⟨1, 2, 3, 4, 5, 6⟩ 1 9).header granted, parcelled 3]

def handing (next : Option Letter) (_ : Trace) : (call : Call) → call.Answer
  | .send _ message => .ok message.length
  | .receive _ _ =>
    match next with
    | some letter => .ok ⟨letter.bytes.length, letter.bytes⟩
    | none => .error .wouldBlock
  | call => call.refusal

theorem handing_sparing (letter : Letter) :
    Sparing Exchange.interrupts (handing (some letter)) 0 := by
  intro past call _
  cases call <;> rfl

/-- The visitor registers, and gives up because nothing comes in time. -/
def gaveUp : Option (Except Failure Unit × Client) × Trace :=
  (visitor.register ⟨1, 2, 3, 4, 5, 6⟩).rehearse (handing none) 1

theorem gaveUp_ends : gaveUp.1.isSome := by decide +kernel

def stranded : Client := (gaveUp.1.get gaveUp_ends).2

theorem readings_stranded : Course Reading ⟨visitor, []⟩ gaveUp.2 ⟨stranded, []⟩ :=
  .single (.registers _ (runs_rehearse gaveUp_ends))

theorem nothing_arrived : gaveUp.2.filterMap (Exchange.arrived? ⟨5⟩) = [] := by decide +kernel

theorem unread_tardy : unread ⟨5⟩ tardy gaveUp.2 = tardy := by
  rw [unread, nothing_arrived]
  rfl

theorem delivered_tardy : Delivered ⟨5⟩ tardy gaveUp.2 := by
  rw [Delivered, Carried, nothing_arrived]
  exact .nil

def fetch (client : Client) (letter : Letter) : Option (Except Failure Delivery × Client) × Trace :=
  client.receiveFrame.rehearse (handing (some letter)) 1

theorem fetch_ends : (fetch stranded tardy[0]).1.isSome :=
  ends_of_paced (repeats_receiveFrame stranded) (handing_sparing tardy[0]) Nat.one_pos

/-- The visitor after its first call for a frame. -/
def passed : Client := ((fetch stranded tardy[0]).1.get fetch_ends).2

theorem delivered_passed : Delivered ⟨5⟩ tardy (gaveUp.2 ++ (fetch stranded tardy[0]).2) := by
  decide +kernel

/-- The first call fails on the acknowledgement, and the second one hands out the frame. -/
theorem receiveFrame_of_tardy : ∃ later latest after,
    stranded.receiveFrame.Runs later (.error (.of (.badFrame .malformed)), passed)
      ∧ passed.receiveFrame.Runs latest (.ok (parcel 3), after) := by
  rcases connects_radio ⟨5⟩ 9 with ⟨created, connects⟩
  have calls := receiveFrame_of_letters connects readings_stranded delivered_tardy
  have runs : stranded.receiveFrame.Runs (fetch stranded tardy[0]).2
      (((fetch stranded tardy[0]).1.get fetch_ends).1, passed) := runs_rehearse fetch_ends
  rcases calls.2.2 _ _ (by decide +kernel) unread_tardy _ _ _ runs delivered_passed
    (by decide +kernel) with ⟨fails, -, remaining⟩
  have callsAgain :=
    receiveFrame_of_letters connects (readings_stranded.next (.receives runs)) delivered_passed
  have ends := callsAgain.1 _ 0 (handing_sparing tardy[1]) 1 Nat.one_pos
  have runsAgain : passed.receiveFrame.Runs (fetch passed tardy[1]).2
      (((fetch passed tardy[1]).1.get ends).1, ((fetch passed tardy[1]).1.get ends).2) :=
    runs_rehearse ends
  have delivered : Delivered ⟨5⟩ tardy
      (gaveUp.2 ++ (fetch stranded tardy[0]).2 ++ (fetch passed tardy[1]).2) := by decide +kernel
  have hands := (callsAgain.2.2 _ _ (by decide +kernel) remaining _ _ _ runsAgain delivered
    (by decide +kernel)).1
  rw [fails] at runs
  rw [hands] at runsAgain
  exact ⟨_, _, _, runs, runsAgain⟩

/-- A frame is there, no receive fails, and the call fails all the same. -/
theorem not_passes_of_tardy : ∃ created later failure,
    (connect "radio").run.Runs created (.ok visitor)
      ∧ Course Reading ⟨visitor, []⟩ gaveUp.2 ⟨stranded, []⟩
      ∧ Delivered ⟨5⟩ tardy gaveUp.2
      ∧ (unread ⟨5⟩ tardy gaveUp.2).filterMap Letter.delivery? = [parcel 3]
      ∧ stranded.receiveFrame.Runs later (.error failure, passed)
      ∧ ∀ exchange ∈ later, exchange.brings := by
  rcases connects_radio ⟨5⟩ 9 with ⟨created, connects⟩
  have runs := runs_rehearse fetch_ends
  have fails : ((fetch stranded tardy[0]).1.get fetch_ends).1.isOk = false := by decide +kernel
  rcases result : (fetch stranded tardy[0]).1.get fetch_ends with ⟨failure | delivery, after⟩
  · have same : passed = after := congrArg Prod.snd result
    rw [same]
    refine ⟨created, (fetch stranded tardy[0]).2, failure, connects, readings_stranded,
      delivered_tardy, ?_, ?_, by decide +kernel⟩
    · rw [unread_tardy]
      rfl
    · exact result ▸ runs
  · rw [result] at fails
    cases fails

end Tardiness

end Client

end RadioRelay
