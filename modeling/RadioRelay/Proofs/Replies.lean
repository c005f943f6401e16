import Mathlib.Tactic.SplitIfs
import RadioRelay.Netlink.Reply
import RadioRelay.Proofs.Wire.Layout

/-!
# What the kernel replies

A batch of replies decides a request by the first of them that acknowledges or refuses it
(`Reply.verdict?_eq_ok_iff`, `Reply.verdict?_eq_error_iff`). A batch may hold any replies at all:
each of them is what some datagram says (`Reply.parseAll_compose`). And a datagram says that a
request is acknowledged only if it holds the header of an acknowledgement with the number and port
of the request, and behind it the code zero (`Reply.acknowledges_of_parseAll`).
-/

namespace RadioRelay

/-! ### The verdict of some replies -/

namespace Reply

variable {sequence port : UInt32} {replies : List Reply}

/-- The reply acknowledges or refuses the request of this number and port. -/
def Decides (sequence port : UInt32) (reply : Reply) : Prop :=
  reply.sequence = sequence ∧ reply.port = port ∧ reply.outcome ≠ .other

instance : DecidablePred (Decides sequence port) :=
  fun reply => inferInstanceAs (Decidable (_ ∧ _ ∧ reply.outcome ≠ .other))

theorem verdict?_cons_of_not_decides {reply : Reply} (skipped : ¬ reply.Decides sequence port) :
    verdict? sequence port (reply :: replies) = verdict? sequence port replies := by
  rw [verdict?]
  split
  next own =>
    split
    next acknowledged => exact absurd ⟨own.1, own.2, by simp [acknowledged]⟩ skipped
    next refused => exact absurd ⟨own.1, own.2, by simp [refused]⟩ skipped
    next => rfl
  next => rfl

theorem verdict?_acknowledged :
    verdict? sequence port (⟨sequence, port, .acknowledged⟩ :: replies) = some (.ok ()) := by
  simp [verdict?]

theorem verdict?_refused {code : Int32} :
    verdict? sequence port (⟨sequence, port, .refused code⟩ :: replies)
      = some (.error ⟨code.toInt.natAbs⟩) := by
  simp [verdict?]

theorem Decides.cases {reply : Reply} (decides : reply.Decides sequence port) :
    reply = ⟨sequence, port, .acknowledged⟩
      ∨ ∃ code, reply = ⟨sequence, port, .refused code⟩ := by
  rcases reply with ⟨_, _, _ | code | _⟩ <;> rcases decides with ⟨rfl, rfl, counts⟩
  · exact Or.inl rfl
  · exact Or.inr ⟨code, rfl⟩
  · exact absurd rfl counts

theorem decides_refused {code : Int32} : Decides sequence port ⟨sequence, port, .refused code⟩ :=
  ⟨rfl, rfl, by simp⟩

theorem verdict?_filter :
    verdict? sequence port (replies.filter (Decides sequence port))
      = verdict? sequence port replies := by
  induction replies with
  | nil => rfl
  | cons reply replies ih =>
    by_cases decides : reply.Decides sequence port
    · rw [List.filter_cons_of_pos (by simpa using decides)]
      rcases decides.cases with rfl | ⟨code, rfl⟩
      · rw [verdict?_acknowledged, verdict?_acknowledged]
      · rw [verdict?_refused, verdict?_refused]
    · rw [List.filter_cons_of_neg (by simpa using decides), verdict?_cons_of_not_decides decides,
        ih]

theorem verdict?_eq_none_iff :
    verdict? sequence port replies = none ↔ ∀ reply ∈ replies, ¬ reply.Decides sequence port := by
  induction replies with
  | nil => simp [verdict?]
  | cons reply replies ih =>
    rw [List.forall_mem_cons]
    by_cases decides : reply.Decides sequence port
    · rcases decides.cases with rfl | ⟨code, rfl⟩
      · simp [verdict?_acknowledged, decides]
      · simp [verdict?_refused, decides]
    · rw [verdict?_cons_of_not_decides decides, ih]
      exact (and_iff_right decides).symm

theorem verdict?_append {rest : List Reply} :
    verdict? sequence port (replies ++ rest)
      = (verdict? sequence port replies).or (verdict? sequence port rest) := by
  induction replies with
  | nil => rfl
  | cons reply replies ih =>
    by_cases decides : reply.Decides sequence port
    · rcases decides.cases with rfl | ⟨code, rfl⟩
      · rw [List.cons_append, verdict?_acknowledged, verdict?_acknowledged, Option.some_or]
      · rw [List.cons_append, verdict?_refused, verdict?_refused, Option.some_or]
    · rw [List.cons_append, verdict?_cons_of_not_decides decides,
        verdict?_cons_of_not_decides decides, ih]

theorem exists_first_of_verdict {outcome : Except Errno Unit}
    (verdict : verdict? sequence port replies = some outcome) :
    ∃ before reply after, replies = before ++ reply :: after
      ∧ (∀ earlier ∈ before, ¬ earlier.Decides sequence port)
      ∧ ((reply = ⟨sequence, port, .acknowledged⟩ ∧ outcome = .ok ())
        ∨ ∃ code, reply = ⟨sequence, port, .refused code⟩
          ∧ outcome = .error ⟨code.toInt.natAbs⟩) := by
  induction replies with
  | nil => cases verdict
  | cons reply replies ih =>
    by_cases decides : reply.Decides sequence port
    · refine ⟨[], reply, replies, rfl, by simp, ?_⟩
      rcases decides.cases with rfl | ⟨code, rfl⟩
      · rw [verdict?_acknowledged] at verdict
        exact Or.inl ⟨rfl, (Option.some.inj verdict).symm⟩
      · rw [verdict?_refused] at verdict
        exact Or.inr ⟨code, rfl, (Option.some.inj verdict).symm⟩
    · rw [verdict?_cons_of_not_decides decides] at verdict
      rcases ih verdict with ⟨before, first, after, rfl, undecided, which⟩
      exact ⟨reply :: before, first, after, rfl, List.forall_mem_cons.mpr ⟨decides, undecided⟩,
        which⟩

theorem verdict?_eq_error_iff {errno : Errno} :
    verdict? sequence port replies = some (.error errno) ↔
      ∃ before code after, replies = before ++ ⟨sequence, port, .refused code⟩ :: after
        ∧ (∀ reply ∈ before, ¬ reply.Decides sequence port) ∧ errno = ⟨code.toInt.natAbs⟩ := by
  constructor
  · intro verdict
    rcases exists_first_of_verdict verdict with
      ⟨before, _, after, rfl, undecided, ⟨-, same⟩ | ⟨code, rfl, same⟩⟩
    · cases same
    · cases same
      exact ⟨before, code, after, rfl, undecided, rfl⟩
  · rintro ⟨before, code, after, rfl, undecided, rfl⟩
    rw [verdict?_append, verdict?_eq_none_iff.mpr undecided, verdict?_refused, Option.none_or]

theorem verdict?_eq_ok_iff :
    verdict? sequence port replies = some (.ok ()) ↔
      ∃ before after, replies = before ++ ⟨sequence, port, .acknowledged⟩ :: after
        ∧ ∀ code, ⟨sequence, port, .refused code⟩ ∉ before := by
  constructor
  · intro verdict
    rcases exists_first_of_verdict verdict with
      ⟨before, _, after, rfl, undecided, ⟨rfl, -⟩ | ⟨_, -, same⟩⟩
    · exact ⟨before, after, rfl, fun code refused => undecided _ refused decides_refused⟩
    · cases same
  · rintro ⟨before, after, rfl, unrefused⟩
    rw [verdict?_append, verdict?_acknowledged]
    cases early : verdict? sequence port before with
    | none => rfl
    | some outcome =>
      rcases exists_first_of_verdict early with ⟨_, _, _, rfl, -, ⟨-, rfl⟩ | ⟨code, rfl, -⟩⟩
      · rfl
      · exact absurd (by simp) (unrefused code)

/-! ### Datagrams that say so -/

def bodyOf : Outcome → Bytes
  | .acknowledged => Bytes.ofWord32 0 ++ Header.write ⟨0, 0, 0, 0, 0⟩
  | .refused code =>
    Bytes.ofWord32 code.toUInt32 ++ (Header.write ⟨20, 0, 0, 0, 0⟩ ++ [0, 0, 0, 0])
  | .other => [0, 0, 0, 0]

def compose (reply : Reply) : Bytes :=
  let body := bodyOf reply.outcome
  let kind := if reply.outcome = .other then 0 else Acknowledgement.messageKind
  Header.write ⟨UInt32.ofNat (Header.size + body.length), kind, 0, reply.sequence, reply.port⟩
    ++ body

theorem code?_ofWord32 (code : Int32) (rest : Bytes) :
    code? (Bytes.ofWord32 code.toUInt32 ++ rest) = some code := by
  simp only [code?, Bytes.ofWord32, List.cons_append, List.nil_append, Bytes.word32_ofNat]
  rfl

theorem parseAll_append {header : Header} {body rest : Bytes} {outcome : Outcome}
    (sized : header.length.toNat = Header.size + body.length)
    (tells : outcome? header.kind body.length (body ++ rest) = some (outcome, body.length)) :
    parseAll (header.write ++ body ++ rest)
      = (parseAll rest).map (⟨header.sequence, header.port, outcome⟩ :: ·) := by
  have dropped : (header.write ++ (body ++ rest)).drop Header.size = body ++ rest :=
    List.drop_left' header.length_write
  rw [parseAll, List.append_assoc, if_neg (by simp [Header.write, Bytes.ofWord32])]
  simp only [Header.read?_write_append, dropped, sized, Nat.add_sub_cancel_left, tells,
    List.drop_left]
  rw [if_neg (by omega)]

theorem holdsAttributes_zero (bytes : Bytes) : holdsAttributes 0 bytes := by
  simp [holdsAttributes, Attribute.parseAll, Except.isOk, Except.toBool]

theorem holdsGeneric_four (rest : Bytes) : holdsGeneric 4 (0 :: 0 :: 0 :: 0 :: rest) := by
  simp [holdsGeneric, holdsAttributes_zero, Message.minSize]

theorem holdsRefused_plain (rest : Bytes) :
    holdsRefused 20 (Header.write ⟨20, 0, 0, 0, 0⟩ ++ 0 :: 0 :: 0 :: 0 :: rest) := by
  have generic : (Header.write ⟨20, 0, 0, 0, 0⟩ ++ 0 :: 0 :: 0 :: 0 :: rest).drop Header.size
      = 0 :: 0 :: 0 :: 0 :: rest := List.drop_left' (Header.length_write _)
  have whole : (20 : UInt32).toNat = 20 := rfl
  simp only [holdsRefused, Header.read?_write_append, generic, whole]
  simp [Header.size, holdsGeneric_four, holdsAttributes_zero]

theorem outcome?_bodyOf {outcome : Outcome} (real : outcome ≠ .refused 0) (rest : Bytes) :
    outcome? (if outcome = .other then 0 else Acknowledgement.messageKind)
      (bodyOf outcome).length (bodyOf outcome ++ rest)
        = some (outcome, (bodyOf outcome).length) := by
  cases outcome with
  | acknowledged =>
    have code := code?_ofWord32 0 (Header.write ⟨0, 0, 0, 0, 0⟩ ++ rest)
    change code? (Bytes.ofWord32 0 ++ _) = _ at code
    rw [if_neg (by simp), bodyOf, outcome?, if_pos rfl, List.append_assoc, code]
    simp [codeSize]
  | refused code =>
    have own : code ≠ 0 := fun zero => real (congrArg Outcome.refused zero)
    have dropped : (Bytes.ofWord32 code.toUInt32
        ++ (Header.write ⟨20, 0, 0, 0, 0⟩ ++ 0 :: 0 :: 0 :: 0 :: rest)).drop codeSize
          = Header.write ⟨20, 0, 0, 0, 0⟩ ++ 0 :: 0 :: 0 :: 0 :: rest :=
      List.drop_left' (Bytes.length_ofWord32 _)
    rw [if_neg (by simp), bodyOf, outcome?, if_pos rfl, List.append_assoc, code?_ofWord32,
      List.append_assoc]
    simp only [List.cons_append, List.nil_append, dropped]
    simp [own, codeSize, Header.size, holdsRefused_plain]
  | other =>
    rw [if_pos rfl, bodyOf, outcome?, if_neg (by decide), if_neg (by decide)]
    exact if_pos (holdsGeneric_four rest)

/-- Every batch of replies is what some datagram says; a refusal has a code, which is not zero. -/
theorem parseAll_compose (real : ∀ reply ∈ replies, reply.outcome ≠ .refused 0) :
    parseAll (replies.flatMap compose) = some replies := by
  induction replies with
  | nil => rw [List.flatMap_nil, parseAll, if_pos List.isEmpty_nil]
  | cons reply replies ih =>
    rw [List.forall_mem_cons] at real
    rw [List.flatMap_cons, compose, parseAll_append _ (outcome?_bodyOf real.1 _), ih real.2]
    · rfl
    · rcases reply with ⟨_, _, _ | _ | _⟩ <;> rfl

theorem code?_eq_zero {bytes : Bytes} (zero : code? bytes = some 0) :
    ∃ rest, bytes = 0 :: 0 :: 0 :: 0 :: rest := by
  unfold code? at zero
  split at zero
  next c0 c1 c2 c3 rest =>
    have word : Bytes.word32 c0 c1 c2 c3 = 0 := congrArg Int32.toUInt32 (Option.some.inj zero)
    have spelled := Bytes.ofWord32_word32 c0 c1 c2 c3
    rw [word] at spelled
    cases spelled
    exact ⟨rest, rfl⟩
  next => cases zero

theorem code_of_acknowledged {kind : UInt16} {size taken : Nat} {body : Bytes}
    (acknowledged : outcome? kind size body = some (.acknowledged, taken)) :
    kind = 2 ∧ ∃ rest, body = 0 :: 0 :: 0 :: 0 :: rest := by
  unfold outcome? at acknowledged
  split at acknowledged
  next isAcknowledgement =>
    rcases Option.bind_eq_some_iff.mp acknowledged with ⟨code, told, acknowledged⟩
    dsimp only at acknowledged
    split at acknowledged
    next zero => exact ⟨isAcknowledgement, code?_eq_zero (zero ▸ told)⟩
    next =>
      split at acknowledged
      · cases acknowledged
      · cases acknowledged
  next =>
    split_ifs at acknowledged
    all_goals cases acknowledged

/-- A message in a datagram acknowledges the request of this number and port: it is of the kind of
acknowledgements, and its code is zero. -/
def Acknowledges (sequence port : UInt32) (datagram : Bytes) : Prop :=
  ∃ early length flags rest, datagram
    = early ++ (Header.write ⟨length, 2, flags, sequence, port⟩ ++ 0 :: 0 :: 0 :: 0 :: rest)

theorem acknowledges_of_parseAll {datagram : Bytes} (parsed : parseAll datagram = some replies)
    (acknowledged : ⟨sequence, port, .acknowledged⟩ ∈ replies) :
    Acknowledges sequence port datagram := by
  fun_induction parseAll datagram generalizing replies with
  | case1 =>
    cases parsed
    cases acknowledged
  | case2 | case3 | case4 => cases parsed
  | case5 datagram _ header found body _ outcome size told =>
    rename_i ih
    rcases Header.read?_eq_some_iff.mp found with ⟨rest, rfl⟩
    have behind : body = rest := List.drop_left' header.length_write
    rw [behind] at told ih parsed
    rcases Option.map_eq_some_iff.mp parsed with ⟨later, parsedLater, rfl⟩
    rcases List.mem_cons.mp acknowledged with first | inLater
    · cases first
      rcases code_of_acknowledged told with ⟨kind, code, rfl⟩
      exact ⟨[], header.length, header.flags, code, by rw [← kind, List.nil_append]⟩
    · rcases ih parsedLater inLater with ⟨early, length, flags, following, split⟩
      refine ⟨header.write ++ (rest.take size ++ early), length, flags, following, ?_⟩
      rw [List.append_assoc, List.append_assoc, ← split, List.take_append_drop]

end Reply

end RadioRelay
