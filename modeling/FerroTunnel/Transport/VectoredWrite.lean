import FerroTunnel.Wire.Codec

/-!
# Vectored writes

`write_all_vectored` offers all remaining segments to the writer, which accepts
some number of bytes, and moves a cursor over the segments by that number.  The
cursor is an index into the segments and an offset into the segment there; it
is kept here as the segments from the index on.  The bytes behind the cursor
are always the bytes the writer has not accepted.
-/

namespace FerroTunnel.Transport

open FerroTunnel.Wire

/-- The position of the write loop.  The offset lies inside the first segment
left, so slicing it cannot fail. -/
structure WriteCursor where
  buffers : List Bytes
  offset : Nat
  inside : offset = 0 ∨ offset < (buffers.headD []).length
deriving DecidableEq

namespace WriteCursor

/-- The start of the loop. -/
def start (buffers : List Bytes) : WriteCursor :=
  ⟨buffers, 0, .inl rfl⟩

/-- The bytes the writer has not accepted. -/
def unwritten (cursor : WriteCursor) : Bytes :=
  cursor.buffers.flatten.drop cursor.offset

/-- The loop that steps over empty segments before a write. -/
def skipEmpty (cursor : WriteCursor) : WriteCursor :=
  if (cursor.buffers.head?.any List.isEmpty) then
    ⟨cursor.buffers.dropWhile List.isEmpty, 0, .inl rfl⟩
  else
    cursor

/-- The slices offered to the writer. -/
def slices (cursor : WriteCursor) : List Bytes :=
  match cursor.buffers with
  | [] => []
  | first :: rest => first.drop cursor.offset :: rest.filter fun buf => !buf.isEmpty

/-- The loop that moves the cursor by the bytes accepted.  While `skipping`, it
is in the inner loop over empty segments. -/
def advanceFrom : List Bytes → Nat → Nat → Bool → List Bytes × Nat
  | [], offset, _, _ => ([], offset)
  | first :: rest, offset, remaining, skipping =>
      if skipping && first.isEmpty then
        advanceFrom rest offset remaining true
      else if remaining = 0 then
        (first :: rest, offset)
      else if remaining < first.length - offset then
        (first :: rest, offset + remaining)
      else
        advanceFrom rest 0 (remaining - (first.length - offset)) true

/-- A cursor stays inside, whatever the writer accepted. -/
theorem advanceFrom_inside (buffers : List Bytes) (offset remaining : Nat) (skipping : Bool)
    (inside : offset = 0 ∨ offset < (buffers.headD []).length)
    (atStart : skipping = true → offset = 0) :
    (advanceFrom buffers offset remaining skipping).2 = 0 ∨
      (advanceFrom buffers offset remaining skipping).2 <
        ((advanceFrom buffers offset remaining skipping).1.headD []).length := by
  induction buffers generalizing offset remaining skipping with
  | nil => exact inside
  | cons first rest ih =>
      simp only [advanceFrom]
      split
      · rename_i skip
        apply ih _ _ _ (.inl (atStart (Bool.and_eq_true_iff.mp skip).1))
        intro _
        exact atStart (Bool.and_eq_true_iff.mp skip).1
      split
      · exact inside
      split
      · rename_i short
        right
        simp only [List.headD_cons]
        omega
      · exact ih _ _ _ (.inl rfl) fun _ => rfl

/-- Moving the cursor drops exactly the accepted bytes. -/
theorem advanceFrom_unwritten (buffers : List Bytes) (offset remaining : Nat) (skipping : Bool)
    (inside : offset = 0 ∨ offset < (buffers.headD []).length)
    (atStart : skipping = true → offset = 0) :
    (advanceFrom buffers offset remaining skipping).1.flatten.drop
        (advanceFrom buffers offset remaining skipping).2 =
      (buffers.flatten.drop offset).drop remaining := by
  induction buffers generalizing offset remaining skipping with
  | nil => simp [advanceFrom]
  | cons first rest ih =>
      simp only [advanceFrom]
      split
      · rename_i skip
        obtain ⟨flag, isEmpty⟩ := Bool.and_eq_true_iff.mp skip
        rw [ih _ _ _ (.inl (atStart flag)) fun _ => atStart flag, List.isEmpty_iff.mp isEmpty]
        simp
      split
      · rename_i zero
        simp [zero]
      split
      · simp [List.drop_drop]
      · rename_i long
        have offsetLe : offset ≤ first.length := by
          rcases inside with zero | bounded
          · simp [zero]
          · exact Nat.le_of_lt bounded
        have beyond : first.length ≤ offset + remaining := by omega
        rw [ih _ _ _ (.inl rfl) fun _ => rfl, List.drop_zero, List.flatten_cons, List.drop_drop,
          List.drop_append, List.drop_eq_nil_of_le beyond, List.nil_append]
        congr 1
        omega

/-- Move the cursor by the bytes accepted. -/
def advance (cursor : WriteCursor) (written : Nat) : WriteCursor where
  buffers := (advanceFrom cursor.buffers cursor.offset written false).1
  offset := (advanceFrom cursor.buffers cursor.offset written false).2
  inside := advanceFrom_inside _ _ _ _ cursor.inside (by simp)

/-- What one turn of the loop comes to, for the number of bytes the writer
accepted. -/
inductive Turn
  | finished
  | writing (cursor : WriteCursor)
  | failed (error : IoError)

/-- One turn of the loop.  The writer's answer is not consulted once all
segments are written. -/
def turn (cursor : WriteCursor) (written : Nat) : Turn :=
  let cursor := cursor.skipEmpty
  if cursor.buffers.isEmpty then
    .finished
  else if written = 0 then
    .failed ⟨.writeZero, "Failed to write buffered frames"⟩
  else
    .writing (cursor.advance written)

theorem advance_unwritten (cursor : WriteCursor) (written : Nat) :
    (cursor.advance written).unwritten = cursor.unwritten.drop written :=
  advanceFrom_unwritten _ _ _ _ cursor.inside (by simp)

private theorem flatten_dropWhile_isEmpty (buffers : List Bytes) :
    (buffers.dropWhile List.isEmpty).flatten = buffers.flatten := by
  induction buffers with
  | nil => rfl
  | cons first rest ih =>
      cases first with
      | nil => simpa using ih
      | cons byte bytes => simp

private theorem flatten_filter_nonempty (buffers : List Bytes) :
    (buffers.filter fun buf => !buf.isEmpty).flatten = buffers.flatten := by
  induction buffers with
  | nil => rfl
  | cons first rest ih => cases first <;> simp [ih]

theorem skipEmpty_unwritten (cursor : WriteCursor) :
    cursor.skipEmpty.unwritten = cursor.unwritten := by
  rcases cursor with ⟨_ | ⟨first, rest⟩, offset, inside⟩
  · rfl
  · cases first with
    | nil =>
        have zero : offset = 0 := by simpa using inside
        simp [skipEmpty, unwritten, zero, flatten_dropWhile_isEmpty]
    | cons byte bytes => simp [skipEmpty]

/-- The writer is offered exactly the bytes behind the cursor. -/
theorem slices_flatten (cursor : WriteCursor) :
    cursor.slices.flatten = cursor.unwritten := by
  rcases cursor with ⟨_ | ⟨first, rest⟩, offset, inside⟩
  · simp [slices, unwritten]
  · have offsetLe : offset ≤ first.length := by
      rcases inside with zero | bounded
      · simp [zero]
      · exact Nat.le_of_lt bounded
    simp [slices, unwritten, flatten_filter_nonempty, List.drop_append_of_le_length offsetLe]

variable {cursor : WriteCursor}

/-- When only empty segments are left, no byte is. -/
theorem unwritten_eq_nil (done : cursor.skipEmpty.buffers = []) : cursor.unwritten = [] := by
  rw [← skipEmpty_unwritten, unwritten, done]
  simp

/-- The loop ends when nothing is left, and otherwise drops what was accepted. -/
theorem turn_cases (cursor : WriteCursor) (written : Nat) :
    (cursor.turn written = .finished ∧ cursor.unwritten = []) ∨
    (∃ next, cursor.turn written = .writing next ∧
      next.unwritten = cursor.unwritten.drop written) ∨
    ∃ error, cursor.turn written = .failed error := by
  simp only [turn]
  split
  · rename_i done
    left
    exact ⟨rfl, unwritten_eq_nil (List.isEmpty_iff.mp done)⟩
  split
  · exact .inr (.inr ⟨_, rfl⟩)
  · refine .inr (.inl ⟨_, rfl, ?_⟩)
    rw [advance_unwritten, skipEmpty_unwritten]

/-- A turn that goes on has dropped what was accepted. -/
theorem unwritten_of_turn_writing {next : WriteCursor} {written : Nat}
    (writing : cursor.turn written = .writing next) :
    next.unwritten = cursor.unwritten.drop written := by
  rcases cursor.turn_cases written with ⟨finished, -⟩ | ⟨later, turnEq, dropped⟩ | ⟨error, failed⟩
  · rw [finished] at writing
    cases writing
  · rw [turnEq] at writing
    cases writing
    exact dropped
  · rw [failed] at writing
    cases writing

/-- A turn fails only when the writer accepts nothing. -/
theorem written_of_turn_failed {written : Nat} {error : IoError}
    (failed : cursor.turn written = .failed error) : written = 0 := by
  simp only [turn] at failed
  split at failed
  · cases failed
  split at failed
  · assumption
  · cases failed

/-! ## The whole loop -/

private theorem dropWhile_isEmpty_of_flatten {buffers : List Bytes}
    (none : buffers.flatten = []) : buffers.dropWhile List.isEmpty = [] := by
  induction buffers with
  | nil => rfl
  | cons first rest ih =>
      obtain ⟨rfl, restNone⟩ := List.append_eq_nil_iff.mp none
      simpa using ih restNone

/-- After the empty segments are stepped over, a segment that is left has bytes. -/
theorem unwritten_ne_nil (left : cursor.skipEmpty.buffers ≠ []) : cursor.unwritten ≠ [] := by
  rcases cursor with ⟨_ | ⟨first, rest⟩, offset, inside⟩
  · exact absurd rfl left
  · intro none
    cases first with
    | nil =>
        have zero : offset = 0 := by simpa using inside
        apply left
        simp only [unwritten, zero, List.drop_zero] at none
        simpa [skipEmpty] using dropWhile_isEmpty_of_flatten none
    | cons byte bytes =>
        -- the offset lies inside the segment, so its last byte is left
        have tooLong := List.drop_eq_nil_iff.mp none
        simp only [List.flatten_cons, List.length_append, List.length_cons, List.headD_cons]
          at tooLong inside
        omega

/-- A turn at which a segment is left depends on the writer alone. -/
theorem turn_of_left (left : cursor.skipEmpty.buffers ≠ []) (written : Nat) :
    cursor.turn written =
      if written = 0 then .failed ⟨.writeZero, "Failed to write buffered frames"⟩
      else .writing (cursor.skipEmpty.advance written) := by
  rw [turn, if_neg (by simpa using left)]

/-- A turn accepts some of the bytes that are left. -/
theorem advance_lt {written : Nat} (left : cursor.skipEmpty.buffers ≠ []) (some : written ≠ 0) :
    (cursor.skipEmpty.advance written).unwritten.length < cursor.unwritten.length := by
  have bytes := List.length_pos_iff.mpr (unwritten_ne_nil left)
  rw [advance_unwritten, skipEmpty_unwritten, List.length_drop]
  omega

end WriteCursor

section Loop

universe u

variable {ω : Type u}

/-- `write_all_vectored` with a writer that answers by its own state.  There is
always a slice to offer, so the test for an empty list of slices never holds. -/
def writeAllVectored (writeVectored : ω → List Bytes → Except IoError Nat × ω)
    (cursor : WriteCursor) (writer : ω) : Except IoError Unit × ω :=
  if _ : cursor.skipEmpty.buffers = [] then
    (.ok (), writer)
  else
    match writeVectored writer cursor.skipEmpty.slices with
    | (.error error, next) => (.error error, next)
    | (.ok written, next) =>
        if _ : written = 0 then
          (.error ⟨.writeZero, "Failed to write buffered frames"⟩, next)
        else
          writeAllVectored writeVectored (cursor.skipEmpty.advance written) next
termination_by cursor.unwritten.length
decreasing_by exact WriteCursor.advance_lt ‹_› ‹_›

/-- A call of the writer: the slices it was offered, and its answer. -/
structure WriteCall where
  slices : List Bytes
  answer : Except IoError Nat

namespace WriteCall

/-- The bytes that the writer accepted, from the front of the slices. -/
def accepted (call : WriteCall) : Bytes :=
  match call.answer with
  | .ok written => call.slices.flatten.take written
  | .error _ => []

/-- The writer accepted some bytes. -/
def Accepts (call : WriteCall) : Prop :=
  ∃ written, call.answer = .ok written ∧ 1 ≤ written

/-- The writer accepted nothing, or failed. -/
def Refuses (call : WriteCall) : Prop :=
  call.answer = .ok 0 ∨ ∃ error, call.answer = .error error

theorem Accepts.not_refuses {call : WriteCall} (accepts : call.Accepts) : ¬call.Refuses := by
  obtain ⟨written, answer, positive⟩ := accepts
  rintro (zero | ⟨error, failed⟩)
  · cases answer.symm.trans zero
    exact Nat.not_succ_le_zero 0 positive
  · cases answer.symm.trans failed

end WriteCall

/-- A writer that keeps a record of its calls. -/
structure Recorder (ω : Type u) where
  writer : ω
  calls : List WriteCall

namespace Recorder

/-- Pass a call on to the writer, and record it. -/
def writeVectored (write : ω → List Bytes → Except IoError Nat × ω) (recorder : Recorder ω)
    (slices : List Bytes) : Except IoError Nat × Recorder ω :=
  let called := write recorder.writer slices
  (called.1, ⟨called.2, recorder.calls ++ [⟨slices, called.1⟩]⟩)

/-- All bytes that the writer accepted, in order. -/
def accepted (recorder : Recorder ω) : Bytes :=
  recorder.calls.flatMap WriteCall.accepted

end Recorder

section Turns

variable (writeVectored : ω → List Bytes → Except IoError Nat × ω) {cursor : WriteCursor}

theorem writeAllVectored_done (done : cursor.skipEmpty.buffers = []) (writer : ω) :
    writeAllVectored writeVectored cursor writer = (.ok (), writer) := by
  rw [writeAllVectored, dif_pos done]

theorem writeAllVectored_failed {writer next : ω} {error : IoError}
    (left : cursor.skipEmpty.buffers ≠ [])
    (answer : writeVectored writer cursor.skipEmpty.slices = (.error error, next)) :
    writeAllVectored writeVectored cursor writer = (.error error, next) := by
  rw [writeAllVectored, dif_neg left, answer]

/-- An answer of the writer that is no failure is one turn of the cursor. -/
theorem writeAllVectored_turn (cursor : WriteCursor) {writer next : ω} {written : Nat}
    (left : cursor.skipEmpty.buffers ≠ [])
    (answer : writeVectored writer cursor.skipEmpty.slices = (.ok written, next)) :
    writeAllVectored writeVectored cursor writer =
      match cursor.turn written with
      | .finished => (.ok (), next)
      | .failed error => (.error error, next)
      | .writing later => writeAllVectored writeVectored later next := by
  rw [writeAllVectored, dif_neg left, answer, WriteCursor.turn_of_left left]
  by_cases zero : written = 0
  · rw [if_pos zero]
    exact dif_pos zero
  · rw [if_neg zero]
    exact dif_neg zero

end Turns

variable (write : ω → List Bytes → Except IoError Nat × ω)

/-- What the calls `made` of the writer come to when the loop starts at a cursor: it
succeeds after calls that accept, with all bytes accepted, or fails after a call that
refuses, with a part of the bytes accepted. -/
def WritesOut (cursor : WriteCursor) (made : List WriteCall) (result : Except IoError Unit) :
    Prop :=
  (result = .ok () ∧ made.flatMap WriteCall.accepted = cursor.unwritten ∧
    ∀ call ∈ made, call.Accepts) ∨
  ((∃ error, result = .error error) ∧ made.flatMap WriteCall.accepted <+: cursor.unwritten ∧
    ∃ call ∈ made, call.Refuses)

/-- A call that accepts some bytes comes before what the rest of the loop does. -/
theorem WritesOut.cons {cursor : WriteCursor} {made : List WriteCall}
    {result : Except IoError Unit} {written : Nat} (positive : 1 ≤ written)
    (rest : WritesOut (cursor.skipEmpty.advance written) made result) :
    WritesOut cursor (⟨cursor.skipEmpty.slices, .ok written⟩ :: made) result := by
  have parts := List.take_append_drop written cursor.unwritten
  have offered : cursor.skipEmpty.slices.flatten = cursor.unwritten := by
    rw [WriteCursor.slices_flatten, WriteCursor.skipEmpty_unwritten]
  have accepts : WriteCall.Accepts ⟨cursor.skipEmpty.slices, .ok written⟩ :=
    ⟨written, rfl, positive⟩
  rw [WritesOut, WriteCursor.advance_unwritten, WriteCursor.skipEmpty_unwritten] at rest
  simp only [WritesOut, List.flatMap_cons, WriteCall.accepted, offered]
  rcases rest with ⟨success, all, accepting⟩ | ⟨failure, part, refusing, member, refusal⟩
  · left
    refine ⟨success, ?_, List.forall_mem_cons.mpr ⟨accepts, accepting⟩⟩
    rw [all, parts]
  · right
    refine ⟨failure, ?_, refusing, List.mem_cons_of_mem _ member, refusal⟩
    have longer := (List.prefix_append_right_inj (cursor.unwritten.take written)).mpr part
    rwa [parts] at longer

/-- By induction on the number of bytes that are left. -/
theorem writeAllVectored_writesOut (cursor : WriteCursor) (recorder : Recorder ω) :
    let run := writeAllVectored (Recorder.writeVectored write) cursor recorder
    ∃ made, run.2.calls = recorder.calls ++ made ∧ WritesOut cursor made run.1 := by
  induction size : cursor.unwritten.length using Nat.strong_induction_on
    generalizing cursor recorder with
  | _ size ih =>
      by_cases done : cursor.skipEmpty.buffers = []
      · rw [writeAllVectored_done _ done]
        refine ⟨[], (List.append_nil _).symm, .inl ⟨rfl, ?_, List.forall_mem_nil _⟩⟩
        exact (WriteCursor.unwritten_eq_nil done).symm
      let slices := cursor.skipEmpty.slices
      rcases answer : write recorder.writer slices with ⟨reply, next⟩
      let after : Recorder ω := ⟨next, recorder.calls ++ [⟨slices, reply⟩]⟩
      have called : recorder.writeVectored write slices = (reply, after) := by
        simp only [Recorder.writeVectored, answer, after]
      cases reply with
      | error error =>
          rw [writeAllVectored_failed _ done called]
          exact ⟨[⟨slices, .error error⟩], rfl, .inr ⟨⟨error, rfl⟩, List.nil_prefix,
            _, List.mem_singleton_self _, .inr ⟨error, rfl⟩⟩⟩
      | ok written =>
          rw [writeAllVectored_turn _ cursor done called, WriteCursor.turn_of_left done]
          by_cases zero : written = 0
          · subst zero
            exact ⟨[⟨slices, .ok 0⟩], rfl, .inr ⟨⟨_, rfl⟩, List.nil_prefix,
              _, List.mem_singleton_self _, .inl rfl⟩⟩
          -- the writer accepts some bytes, and the rest of the loop has fewer left
          rw [if_neg zero]
          obtain ⟨made, calls, rest⟩ := ih _ (size ▸ WriteCursor.advance_lt done zero)
            (cursor.skipEmpty.advance written) after rfl
          refine ⟨⟨slices, .ok written⟩ :: made, ?_, rest.cons (Nat.pos_of_ne_zero zero)⟩
          rw [calls, List.append_assoc]
          rfl

/-- For any buffers and any writer: when each call of the writer accepts some bytes, the
loop succeeds and the bytes that the writer accepted are the buffers; when a call accepts
none or fails, the bytes that it accepted are a first part of the buffers and the loop
fails. -/
theorem writeAllVectored_start (buffers : List Bytes) (writer : ω) :
    let run := writeAllVectored (Recorder.writeVectored write) (.start buffers) ⟨writer, []⟩
    ((∀ call ∈ run.2.calls, call.Accepts) →
      run.1 = .ok () ∧ run.2.accepted = buffers.flatten) ∧
    ((∃ call ∈ run.2.calls, call.Refuses) →
      run.2.accepted <+: buffers.flatten ∧ ∃ error, run.1 = .error error) := by
  intro run
  obtain ⟨made, calls, writes⟩ := writeAllVectored_writesOut write (.start buffers) ⟨writer, []⟩
  rw [List.nil_append] at calls
  rw [Recorder.accepted, calls]
  rcases writes with ⟨success, all, accepting⟩ | ⟨failure, part, call, member, refusal⟩
  · constructor
    · intro _
      exact ⟨success, all⟩
    · rintro ⟨call, member, refusal⟩
      exact absurd refusal (accepting call member).not_refuses
  · constructor
    · intro accepting
      exact absurd refusal (accepting call member).not_refuses
    · intro _
      exact ⟨part, failure⟩

/-- A writer that accepts at most two bytes a call, and fails after `calls` calls. -/
def shortWriter (calls : Nat) (slices : List Bytes) : Except IoError Nat × Nat :=
  match calls with
  | 0 => (.error ⟨.brokenPipe, "closed"⟩, 0)
  | calls + 1 => (.ok (min 2 slices.flatten.length), calls)

theorem writeAllVectored_shortWriter :
    let run := fun calls => writeAllVectored (Recorder.writeVectored shortWriter)
      (.start [[], [1, 2, 3], [], [4]]) ⟨calls, []⟩
    ((run 2).1 = .ok () ∧ (run 2).2.accepted = [1, 2, 3, 4]) ∧
      (run 1).2.accepted <+: [1, 2, 3, 4] ∧ ∃ error, (run 1).1 = .error error := by
  intro run
  have twice : run 2 = (.ok (), ⟨0, [⟨[[1, 2, 3], [4]], .ok 2⟩, ⟨[[3], [4]], .ok 2⟩]⟩) := by
    apply (writeAllVectored_turn _ _ (by decide) rfl).trans
    apply (writeAllVectored_turn _ _ (by decide) rfl).trans
    exact writeAllVectored_done _ rfl _
  have once : run 1 = (.error ⟨.brokenPipe, "closed"⟩,
      ⟨0, [⟨[[1, 2, 3], [4]], .ok 2⟩, ⟨[[3], [4]], .error ⟨.brokenPipe, "closed"⟩⟩]⟩) := by
    apply (writeAllVectored_turn _ _ (by decide) rfl).trans
    exact writeAllVectored_failed _ (by decide) rfl
  have accepting : ∀ call ∈ (run 2).2.calls, call.Accepts := by
    simp [twice, WriteCall.Accepts]
  have refusing : ∃ call ∈ (run 1).2.calls, call.Refuses := by
    simp [once, WriteCall.Refuses]
  exact ⟨(writeAllVectored_start shortWriter [[], [1, 2, 3], [], [4]] 2).1 accepting,
    (writeAllVectored_start shortWriter [[], [1, 2, 3], [], [4]] 1).2 refusing⟩

end Loop

end FerroTunnel.Transport
