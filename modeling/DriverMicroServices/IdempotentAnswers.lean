import DriverMicroServices.Idempotency

/-! One request with an `x-idempotency-key`, whatever its commands find under the key.
The record may expire or change between two of them, so that no reply says anything
about the next. -/
namespace DriverMicroServices
namespace IdempotentAnswers

/-- A text under the key. -/
inductive StoredValue where
  /-- `JSON.parse` fails on it. -/
  | corrupted
  /-- An object whose state is none of the three. -/
  | unknown
  | record (record : IdempotencyRecord)
  deriving DecidableEq, Repr

/-- What a command finds under the key, and the clock when its reply is back. -/
structure KeyReply where
  now : Time
  stored : Option StoredValue
  deriving DecidableEq, Repr

/-- `JSON.parse` of the text, and the switch over what it gives. -/
def parse (idempotencyKey : String) (now : Time) : StoredValue → RequestPhase
  | .corrupted => .deleting
    s!"Request with idempotency key '{idempotencyKey}' has corrupted state. Please retry."
  | .unknown => .deleting
    s!"Request with idempotency key '{idempotencyKey}' has unknown state. Please retry."
  | .record record => afterGet idempotencyKey now (some record)

/-- Where a request goes on after a reply. -/
def next (idempotencyKey : String) (reply : KeyReply) : RequestPhase → RequestPhase
  | .arrived => if reply.stored.isNone then .handling else .contending
  | .contending =>
    match reply.stored with
    | some value => parse idempotencyKey reply.now value
    | none => .retrying
  -- The record that is there was not read: `JSON.parse(null)` is `null`, which has no state.
  | .retrying => if reply.stored.isNone then .handling else .ended .error
  | .reclaiming parsed =>
    if reply.stored.isSome then .handling else afterReclaim idempotencyKey reply.now parsed
  | .deleting message => .ended (.conflict message none)
  | .storing _ => .ended .handled
  | .handling => .handling
  | .ended answer => .ended answer

/-- The request after so many replies. -/
def after (idempotencyKey : String) (replies : Nat → KeyReply) : Nat → RequestPhase
  | 0 => .arrived
  | n + 1 => next idempotencyKey (replies n) (after idempotencyKey replies n)

/-- The handler runs, a stored response is replayed, or the request ends with a
`ConflictException`. -/
def Answered (phase : RequestPhase) : Prop :=
  phase = .handling ∨ (∃ response, phase = .ended (.replayed response)) ∨
    ∃ message retryAfter, phase = .ended (.conflict message retryAfter)

/-- The request has read a failed record that is to be retried at this time. -/
def ReadFailed (replies : Nat → KeyReply) (retryAfter : Time) : Prop :=
  (replies 0).stored ≠ none ∧
    ∃ parsed, (replies 1).stored = some (.record parsed) ∧ parsed.state = .failedRetryable ∧
      parsed.retryAfter = some retryAfter

/-- What is expected of every request: an answer, and no handler before the time to
retry. -/
structure WellAnswered (idempotencyKey : String) (replies : Nat → KeyReply) : Prop where
  answered : ∃ n, Answered (after idempotencyKey replies n)
  honoured : ∀ retryAfter, ReadFailed replies retryAfter → (replies 2).now < retryAfter →
    ∀ n, after idempotencyKey replies n ≠ .handling

/-- The key is there, gone, and there again. -/
def Reappears (replies : Nat → KeyReply) : Prop :=
  (replies 0).stored ≠ none ∧ (replies 1).stored = none ∧ (replies 2).stored ≠ none

/-- The failed record is still there, before its time, when the request reclaims it. -/
def ReclaimsEarly (replies : Nat → KeyReply) : Prop :=
  ∃ retryAfter, ReadFailed replies retryAfter ∧ (replies 2).now < retryAfter ∧
    (replies 2).stored ≠ none

section Replies

variable {idempotencyKey : String} {replies : Nat → KeyReply} {phase : RequestPhase} {n : Nat}

/-- The request sends no further command. -/
def Settled (phase : RequestPhase) : Prop := phase = .handling ∨ ∃ answer, phase = .ended answer

private theorem next_settled (settled : Settled phase) (reply : KeyReply) :
    next idempotencyKey reply phase = phase := by
  rcases settled with rfl | ⟨answer, rfl⟩ <;> rfl

/-- A request that has settled stays as it is. -/
theorem after_settled (settled : Settled (after idempotencyKey replies n)) (m : Nat) :
    after idempotencyKey replies (n + m) = after idempotencyKey replies n := by
  induction m with
  | zero => rfl
  | succ m ih =>
    rw [← Nat.add_assoc, after, ih]
    exact next_settled settled _

/-- A request ends in one way only. -/
theorem settled_unique (settled : Settled (after idempotencyKey replies n))
    (settled' : Settled (after idempotencyKey replies m)) :
    after idempotencyKey replies m = after idempotencyKey replies n := by
  rcases Nat.le_total m n with earlier | later
  · rw [← after_settled settled' (n - m), Nat.add_sub_cancel' earlier]
  · rw [← after_settled settled (m - n), Nat.add_sub_cancel' later]

theorem Answered.settled (answered : Answered phase) : Settled phase := by
  rcases answered with rfl | ⟨response, rfl⟩ | ⟨message, retryAfter, rfl⟩
  · exact .inl rfl
  · exact .inr ⟨_, rfl⟩
  · exact .inr ⟨_, rfl⟩

/-- An answer without the handler meets the time to retry as well. -/
theorem wellAnswered_of_ended {answer : RequestReply}
    (ended : after idempotencyKey replies n = .ended answer)
    (answered : Answered (.ended answer)) : WellAnswered idempotencyKey replies where
  answered := ⟨n, by rwa [ended]⟩
  honoured := by
    intro retryAfter failed early m handling
    have same := settled_unique (n := n) (.inr ⟨answer, ended⟩) (.inl handling)
    rw [ended, handling] at same
    cases same

/-- The handler runs where no failed record is to be retried later. -/
theorem wellAnswered_of_handling (handling : after idempotencyKey replies n = .handling)
    (timely : ∀ retryAfter, ReadFailed replies retryAfter → retryAfter ≤ (replies 2).now) :
    WellAnswered idempotencyKey replies where
  answered := ⟨n, .inl handling⟩
  honoured := fun retryAfter failed early =>
    absurd early (Int.not_lt.mpr (timely retryAfter failed))

private theorem afterReclaim_answers (idempotencyKey : String) (reply reply' : KeyReply)
    (parsed : IdempotencyRecord) :
    ∃ message retryAfter, next idempotencyKey reply' (afterReclaim idempotencyKey reply.now parsed) =
      .ended (.conflict message retryAfter) := by
  unfold afterReclaim
  split
  · split
    · exact ⟨_, _, rfl⟩
    · exact ⟨_, _, rfl⟩
  · exact ⟨_, _, rfl⟩

/-- What is read under the key is answered, or it is a failed record to reclaim. -/
theorem parse_answers (idempotencyKey : String) (now : Time) (reply : KeyReply) (value : StoredValue) :
    (∃ answer, next idempotencyKey reply (parse idempotencyKey now value) = .ended answer ∧
      Answered (.ended answer) ∧ ∀ record, value = .record record → record.state ≠ .failedRetryable) ∨
    ∃ parsed, value = .record parsed ∧ parsed.state = .failedRetryable ∧
      parse idempotencyKey now value = .reclaiming parsed := by
  cases value with
  | corrupted => exact .inl ⟨_, rfl, .inr (.inr ⟨_, _, rfl⟩), by simp⟩
  | unknown => exact .inl ⟨_, rfl, .inr (.inr ⟨_, _, rfl⟩), by simp⟩
  | record record =>
    cases state : record.state with
    | completed =>
      left
      simp only [parse, afterGet, state]
      cases record.response with
      | some response => exact ⟨_, rfl, .inr (.inl ⟨response, rfl⟩), by simp [state]⟩
      | none => exact ⟨_, rfl, .inr (.inr ⟨_, _, rfl⟩), by simp [state]⟩
    | processing =>
      left
      simp only [parse, afterGet, state]
      exact ⟨_, rfl, .inr (.inr ⟨_, _, rfl⟩), by simp [state]⟩
    | failedRetryable => exact .inr ⟨record, rfl, state, by simp [parse, afterGet, state]⟩

private theorem after_one (there : (replies 0).stored ≠ none) :
    after idempotencyKey replies 1 = .contending := by
  have some' : (replies 0).stored.isNone = false :=
    Option.isNone_eq_false_iff.mpr (Option.isSome_iff_ne_none.mpr there)
  simp [after, next, some']

end Replies

/-- A request is answered as it should be just when the key does not come back before
it claims it again, and no failed record is reclaimed before its time. -/
theorem wellAnswered_iff (idempotencyKey : String) (replies : Nat → KeyReply) :
    WellAnswered idempotencyKey replies ↔ ¬ Reappears replies ∧ ¬ ReclaimsEarly replies := by
  by_cases absent : (replies 0).stored = none
  · have handling : after idempotencyKey replies 1 = .handling := by simp [after, next, absent]
    exact iff_of_true (wellAnswered_of_handling handling fun _ failed => absurd absent failed.1)
      ⟨fun back => back.1 absent, fun ⟨_, failed, _⟩ => failed.1 absent⟩
  have contending : after idempotencyKey replies 1 = .contending := after_one absent
  cases found : (replies 1).stored with
  | none =>
    have retrying : after idempotencyKey replies 2 = .retrying := by
      rw [after, contending]
      simp [next, found]
    have unread : ∀ retryAfter, ¬ ReadFailed replies retryAfter := by
      rintro retryAfter ⟨-, parsed, read, -⟩
      rw [found] at read
      cases read
    have notEarly : ¬ ReclaimsEarly replies := fun ⟨_, failed, _⟩ => unread _ failed
    by_cases free : (replies 2).stored = none
    · have handling : after idempotencyKey replies 3 = .handling := by
        rw [after, retrying]
        simp [next, free]
      exact iff_of_true
        (wellAnswered_of_handling handling fun _ failed => absurd failed (unread _))
        ⟨fun back => back.2.2 free, notEarly⟩
    · have failing : after idempotencyKey replies 3 = .ended .error := by
        rw [after, retrying]
        have some' : (replies 2).stored.isNone = false :=
          Option.isNone_eq_false_iff.mpr (Option.isSome_iff_ne_none.mpr free)
        simp [next, some']
      refine iff_of_false (fun ⟨⟨n, answered⟩, _⟩ => ?_) fun ⟨stays, _⟩ => stays ⟨absent, found, free⟩
      have same := settled_unique (n := 3) (.inr ⟨_, failing⟩) answered.settled
      rw [same, failing] at answered
      simp [Answered] at answered
  | some value =>
    have notBack : ¬ Reappears replies := fun back => by simp [Reappears, found] at back
    have read : after idempotencyKey replies 2 = parse idempotencyKey (replies 1).now value := by
      rw [after, contending]
      simp [next, found]
    rcases parse_answers idempotencyKey (replies 1).now (replies 2) value with
      ⟨answer, ended, answered, other⟩ | ⟨parsed, rfl, failed, reclaiming⟩
    · have last : after idempotencyKey replies 3 = .ended answer := by rw [after, read, ended]
      refine iff_of_true (wellAnswered_of_ended last answered) ⟨notBack, ?_⟩
      rintro ⟨retryAfter, ⟨-, parsed, here, failed, -⟩, -⟩
      rw [found] at here
      exact other parsed (Option.some.inj here) failed
    · rw [reclaiming] at read
      by_cases gone : (replies 2).stored = none
      · obtain ⟨message, wait, ended⟩ :=
          afterReclaim_answers idempotencyKey (replies 2) (replies 3) parsed
        have last : after idempotencyKey replies 4 = .ended (.conflict message wait) := by
          rw [after, after, read, ← ended]
          simp [next, gone]
        exact iff_of_true (wellAnswered_of_ended last (.inr (.inr ⟨_, _, rfl⟩)))
          ⟨notBack, fun ⟨_, _, _, there⟩ => there gone⟩
      · have handling : after idempotencyKey replies 3 = .handling := by
          rw [after, read]
          have some' : (replies 2).stored.isSome = true := Option.isSome_iff_ne_none.mpr gone
          simp [next, some']
        constructor
        · refine fun well => ⟨notBack, ?_⟩
          rintro ⟨retryAfter, failed, early, -⟩
          exact well.honoured retryAfter failed early 3 handling
        · rintro ⟨-, timely⟩
          refine wellAnswered_of_handling handling fun retryAfter failed => ?_
          exact Int.not_lt.mp fun early => timely ⟨retryAfter, failed, early, gone⟩

/-- The key is there, expires before `GET`, and another request claims it. -/
def goneAtGet (n : Nat) : KeyReply where
  now := 0
  stored := if n = 1 then none else some (.record processingPayload)

/-- A failed record, to be retried half a minute later. -/
def failedBefore (_ : Nat) : KeyReply where
  now := 0
  stored := some (.record { state := .failedRetryable, retryAfter := some 30000 })

/-- The first request ends in a `TypeError`; the second runs its handler at once. -/
theorem unanswered : ¬ WellAnswered "k" goneAtGet ∧ ¬ WellAnswered "k" failedBefore := by
  constructor
  · intro well
    obtain ⟨n, answered⟩ := well.answered
    have failing : after "k" goneAtGet 3 = .ended .error := rfl
    have same := settled_unique (n := 3) (.inr ⟨_, failing⟩) answered.settled
    rw [same, failing] at answered
    simp [Answered] at answered
  · intro well
    have failed : ReadFailed failedBefore 30000 := ⟨by decide, _, rfl, rfl, rfl⟩
    exact well.honoured 30000 failed (by decide) 3 rfl

end IdempotentAnswers

end DriverMicroServices
