import FerroTunnel.Wire.Frame

/-!
# The cap on a request body

A request body is forwarded chunk by chunk until it ends, fails, or would pass the
configured maximum.  The HTTP ingress counts down what may still be forwarded, and
raises a flag when a chunk is larger than that.
-/

namespace FerroTunnel.Ingress

open FerroTunnel.Wire

/-! ## Polling a body -/

/-- A frame of a request body. -/
inductive RequestFrame
  | data (bytes : Bytes)
  | trailers
deriving DecidableEq

/-- Why a body is not carried on. -/
inductive RequestBodyError
  | requestBodyTooLarge
  | invalidData (message : String)
  | other (message : String)
deriving DecidableEq

/-- What a poll for the next frame answers. -/
inductive FramePoll
  | pending
  | frame (frame : RequestFrame)
  | error (error : RequestBodyError)
  | ended
deriving DecidableEq

/-- A body under a cap; `inner` is what the body below answers to the coming polls. -/
structure LimitedBody where
  inner : List FramePoll
  remaining : Nat
  exceeded : Bool
deriving DecidableEq

namespace LimitedBody

/-- A body with its limit. -/
def new (inner : List FramePoll) (remaining : Nat) : LimitedBody :=
  ⟨inner, remaining, false⟩

/-- A poll of the limited body. -/
def pollFrame (this : LimitedBody) : FramePoll × LimitedBody :=
  match this.inner with
  | [] => (.ended, this)
  | .frame (.data data) :: rest =>
      if data.length > this.remaining then
        (.error .requestBodyTooLarge, { this with inner := rest, exceeded := true })
      else
        (.frame (.data data),
          { this with inner := rest, remaining := this.remaining - data.length })
  | .frame .trailers :: rest => (.frame .trailers, { this with inner := rest })
  | .error error :: rest => (.error error, { this with inner := rest })
  | .ended :: rest => (.ended, { this with inner := rest })
  | .pending :: rest => (.pending, { this with inner := rest })

end LimitedBody

/-- How the forwarding of a body ends. -/
inductive BodyEnd
  | ended
  | error (error : RequestBodyError)
deriving DecidableEq

/-- Poll a body to its first error or its end.  The answer is the bytes that were
forwarded, how it ended, and the body as it is left. -/
def LimitedBody.drain : Nat → LimitedBody → Option (Bytes × BodyEnd × LimitedBody)
  | 0, _ => none
  | polls + 1, body =>
      match body.pollFrame with
      | (.pending, next) => next.drain polls
      | (.frame (.data data), next) =>
          (next.drain polls).map fun (bytes, result) => (data ++ bytes, result)
      | (.frame .trailers, next) => next.drain polls
      | (.error error, next) => some ([], .error error, next)
      | (.ended, next) => some ([], .ended, next)

/-! ## What a cap lets through -/

/-- What is forwarded of a sequence of receptions when so much remains.  The two
ingresses differ in the errors only. -/
def capped (tooLarge : RequestBodyError) (failed : String → RequestBodyError) (remaining : Nat) :
    List (Except String Bytes) → Bytes × BodyEnd
  | [] => ([], .ended)
  | .ok chunk :: rest =>
      if chunk.length > remaining then
        ([], .error tooLarge)
      else
        let (bytes, result) := capped tooLarge failed (remaining - chunk.length) rest
        (chunk ++ bytes, result)
  | .error message :: _ => ([], .error (failed message))

/-- The whole body under the cap, or the chunks before the one that would pass it. -/
def CappedForward (maxSize : Nat) (chunks : List Bytes) (tooLarge : RequestBodyError)
    (bytes : Bytes) (result : BodyEnd) : Prop :=
  (chunks.flatten.length ≤ maxSize ∧ bytes = chunks.flatten ∧ result = .ended) ∨
  ∃ before chunk after, chunks = before ++ chunk :: after ∧
    before.flatten.length ≤ maxSize ∧ maxSize < before.flatten.length + chunk.length ∧
    bytes = before.flatten ∧ result = .error tooLarge

section Capped

variable (tooLarge : RequestBodyError) (failed : String → RequestBodyError)

theorem capped_cons_ok_of_le {remaining : Nat} {chunk : Bytes}
    (fits : chunk.length ≤ remaining) (rest : List (Except String Bytes)) :
    capped tooLarge failed remaining (.ok chunk :: rest) =
      (chunk ++ (capped tooLarge failed (remaining - chunk.length) rest).1,
        (capped tooLarge failed (remaining - chunk.length) rest).2) := by
  rw [capped, if_neg (Nat.not_lt.mpr fits)]

theorem capped_cons_ok_of_lt {remaining : Nat} {chunk : Bytes}
    (passes : remaining < chunk.length) (rest : List (Except String Bytes)) :
    capped tooLarge failed remaining (.ok chunk :: rest) = ([], .error tooLarge) := by
  rw [capped, if_pos passes]

/-- No more is forwarded than remains. -/
theorem length_capped_le (remaining : Nat) (receptions : List (Except String Bytes)) :
    (capped tooLarge failed remaining receptions).1.length ≤ remaining := by
  induction receptions generalizing remaining with
  | nil => exact Nat.zero_le _
  | cons reception rest ih =>
      cases reception with
      | error message => exact Nat.zero_le _
      | ok chunk =>
          by_cases fits : chunk.length ≤ remaining
          · have below := ih (remaining - chunk.length)
            rw [capped_cons_ok_of_le tooLarge failed fits, List.length_append]
            omega
          · rw [capped_cons_ok_of_lt tooLarge failed (Nat.not_le.mp fits)]
            exact Nat.zero_le _

/-- What a cap lets through of a body without failures. -/
theorem cappedForward_capped (maxSize : Nat) (chunks : List Bytes) :
    CappedForward maxSize chunks tooLarge
      (capped tooLarge failed maxSize (chunks.map .ok)).1
      (capped tooLarge failed maxSize (chunks.map .ok)).2 := by
  induction chunks generalizing maxSize with
  | nil => exact .inl ⟨Nat.zero_le _, rfl, rfl⟩
  | cons chunk rest ih =>
      rw [List.map_cons]
      by_cases fits : chunk.length ≤ maxSize
      · rw [capped_cons_ok_of_le tooLarge failed fits]
        rcases ih (maxSize - chunk.length) with ⟨total, bytes, result⟩ |
          ⟨before, last, after, rfl, below, passes, bytes, result⟩
        · left
          rw [List.flatten_cons, List.length_append, bytes]
          exact ⟨by omega, rfl, result⟩
        · right
          refine ⟨chunk :: before, last, after, rfl, ?_⟩
          rw [List.flatten_cons, List.length_append, bytes]
          exact ⟨by omega, by omega, rfl, result⟩
      · rw [capped_cons_ok_of_lt tooLarge failed (Nat.not_le.mp fits)]
        right
        refine ⟨[], chunk, rest, rfl, Nat.zero_le _, ?_, rfl, rfl⟩
        rw [List.flatten_nil, List.length_nil, Nat.zero_add]
        exact Nat.not_le.mp fits

/-- The bytes that a cap lets through do not depend on the errors. -/
theorem capped_fst_eq (otherTooLarge : RequestBodyError) (otherFailed : String → RequestBodyError)
    (remaining : Nat) (receptions : List (Except String Bytes)) :
    (capped tooLarge failed remaining receptions).1 =
      (capped otherTooLarge otherFailed remaining receptions).1 := by
  induction receptions generalizing remaining with
  | nil => rfl
  | cons reception rest ih =>
      cases reception with
      | error message => rfl
      | ok chunk =>
          by_cases fits : chunk.length ≤ remaining
          · rw [capped_cons_ok_of_le _ _ fits, capped_cons_ok_of_le _ _ fits, ih]
          · have passes := Nat.not_le.mp fits
            rw [capped_cons_ok_of_lt _ _ passes, capped_cons_ok_of_lt _ _ passes]

end Capped

/-! ## The HTTP ingress -/

/-- The body below delivers the chunks, with pending polls anywhere, and then ends. -/
def Delivers (inner : List FramePoll) (chunks : List Bytes) : Prop :=
  inner.filter (· ≠ .pending) = chunks.map fun chunk => .frame (.data chunk)

instance (inner : List FramePoll) (chunks : List Bytes) : Decidable (Delivers inner chunks) :=
  inferInstanceAs (Decidable (_ = _))

theorem delivers_pending_iff (inner : List FramePoll) (chunks : List Bytes) :
    Delivers (.pending :: inner) chunks ↔ Delivers inner chunks := by
  rw [Delivers, Delivers, List.filter_cons_of_neg (by decide)]

/-- What is not pending is the next chunk. -/
theorem delivers_cons_iff {poll : FramePoll} (ready : poll ≠ .pending) (inner : List FramePoll)
    (chunks : List Bytes) :
    Delivers (poll :: inner) chunks ↔
      ∃ chunk rest, chunks = chunk :: rest ∧ poll = .frame (.data chunk) ∧
        Delivers inner rest := by
  rw [Delivers, List.filter_cons_of_pos (by simpa using ready)]
  cases chunks with
  | nil => simp
  | cons chunk rest => simp [Delivers]

/-- Polled to its first error or its end, a body under a cap forwards what the cap lets
through, and raises the flag exactly for a chunk that passes it. -/
theorem LimitedBody.drain_delivers {inner : List FramePoll} {chunks : List Bytes}
    (delivers : Delivers inner chunks) (failed : String → RequestBodyError) (remaining : Nat) :
    ∃ body, (LimitedBody.new inner remaining).drain (inner.length + 1) =
        some ((capped .requestBodyTooLarge failed remaining (chunks.map .ok)).1,
          (capped .requestBodyTooLarge failed remaining (chunks.map .ok)).2, body) ∧
      (body.exceeded = true ↔
        (capped .requestBodyTooLarge failed remaining (chunks.map .ok)).2 =
          .error .requestBodyTooLarge) := by
  induction inner generalizing chunks remaining with
  | nil =>
      cases chunks with
      | nil => exact ⟨_, rfl, iff_of_false Bool.false_ne_true BodyEnd.noConfusion⟩
      | cons chunk rest => cases delivers
  | cons poll inner ih =>
      by_cases waits : poll = .pending
      · subst waits
        exact ih ((delivers_pending_iff inner chunks).mp delivers) remaining
      · obtain ⟨chunk, rest, rfl, rfl, later⟩ := (delivers_cons_iff waits inner chunks).mp delivers
        by_cases fits : chunk.length ≤ remaining
        · obtain ⟨body, drained, flag⟩ := ih later (remaining - chunk.length)
          have polled : (LimitedBody.new (.frame (.data chunk) :: inner) remaining).pollFrame =
              (.frame (.data chunk), .new inner (remaining - chunk.length)) :=
            if_neg (Nat.not_lt.mpr fits)
          rw [List.map_cons, capped_cons_ok_of_le _ _ fits]
          refine ⟨body, ?_, flag⟩
          rw [List.length_cons, drain, polled]
          simp only [drained, Option.map_some]
        · have passes := Nat.not_le.mp fits
          have polled : (LimitedBody.new (.frame (.data chunk) :: inner) remaining).pollFrame =
              (.error .requestBodyTooLarge, ⟨inner, remaining, true⟩) := if_pos passes
          rw [List.map_cons, capped_cons_ok_of_lt _ _ passes]
          refine ⟨⟨inner, remaining, true⟩, ?_, iff_of_true rfl rfl⟩
          rw [List.length_cons, drain, polled]

end FerroTunnel.Ingress
