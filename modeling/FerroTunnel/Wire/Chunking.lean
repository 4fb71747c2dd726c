import FerroTunnel.Parser.Incremental
import FerroTunnel.Wire.Codec

/-!
# Chunking independence of the decoder

The decoder is an incremental parser: it waits until a record is complete, and
neither a frame nor an error depends on bytes behind the record.  The general
theory then yields that frames, errors and the unconsumed tail are the same
however the byte stream was cut before decoding.
-/

namespace FerroTunnel.Wire.TunnelCodec

open FerroTunnel.Bytes
open FerroTunnel.Parser

variable {codec : TunnelCodec} {bincode : Bincode}

/-- A verdict needs the header, and the whole record unless the length is out
of range. -/
theorem decode_cases (codec : TunnelCodec) (bincode : Bincode) (src : Bytes) :
    codec.decode bincode src = (.ok none, src) ∨
      (HEADER_SIZE ≤ src.length ∧ ∃ e, codec.decode bincode src = (.error e, src) ∧
        ∀ more, codec.decode bincode (src ++ more) = (.error e, src ++ more)) ∨
      (HEADER_SIZE ≤ src.length ∧ 4 + (getU32 src).toNat ≤ src.length ∧
        ∀ more, codec.decode bincode (src ++ more) =
          ((codec.decodeRecord bincode
            ((src.take (4 + (getU32 src).toNat)).drop 4)).map some,
            src.drop (4 + (getU32 src).toNat) ++ more)) := by
  by_cases short : src.length < HEADER_SIZE
  · left
    rw [decode, if_pos short]
  have header : HEADER_SIZE ≤ src.length := Nat.not_lt.mp short
  have sameLength (more : Bytes) : getU32 (src ++ more) = getU32 src := by
    apply getU32_append
    simp only [HEADER_SIZE] at header
    omega
  have longer (more : Bytes) : ¬(src ++ more).length < HEADER_SIZE := by
    rw [List.length_append]
    omega
  by_cases zero : (getU32 src).toNat = 0
  · right
    left
    refine ⟨header, ⟨.invalidData, "Frame length must be at least 1 byte"⟩, ?_,
      fun more => ?_⟩
    · rw [decode, if_neg short]
      simp only [zero, if_true]
    · rw [decode, if_neg (longer more)]
      simp only [sameLength, zero, if_true]
  by_cases large : (getU32 src).toNat > codec.maxFrameSize
  · right
    left
    refine ⟨header, ⟨.invalidData,
      s!"Frame too large: {(getU32 src).toNat} bytes (max: {codec.maxFrameSize})"⟩, ?_,
      fun more => ?_⟩
    · rw [decode, if_neg short]
      simp only [zero, large, if_true, if_false]
    · rw [decode, if_neg (longer more)]
      simp only [sameLength, zero, large, if_true, if_false]
  by_cases incomplete : src.length < 4 + (getU32 src).toNat
  · left
    rw [decode, if_neg short]
    simp only [zero, large, incomplete, if_true, if_false]
  · right
    right
    have complete : 4 + (getU32 src).toNat ≤ src.length := Nat.not_lt.mp incomplete
    refine ⟨header, complete, fun more => ?_⟩
    have stillComplete : ¬(src ++ more).length < 4 + (getU32 src).toNat := by
      rw [List.length_append]
      omega
    rw [decode, if_neg (longer more)]
    simp only [sameLength, zero, large, stillComplete, if_false,
      List.take_append_of_le_length complete, List.drop_append_of_le_length complete]

theorem map_some_ne_ok_none {ε α : Type} (result : Except ε α) :
    result.map some ≠ .ok none := by
  cases result <;> simp [Except.map]

/-- A call that asks for more bytes leaves the buffer as it was. -/
theorem decode_pending_unchanged {src rest : Bytes}
    (pending : codec.decode bincode src = (.ok none, rest)) : rest = src := by
  rcases decode_cases codec bincode src with
    unchanged | ⟨_, e, failed, _⟩ | ⟨_, _, stable⟩
  · rw [pending] at unchanged
    cases unchanged
    rfl
  · rw [pending] at failed
    cases failed
  · have atSrc := stable []
    rw [List.append_nil, pending] at atSrc
    exact absurd (congrArg Prod.fst atSrc).symm (map_some_ne_ok_none _)

/-- A verdict is not changed by bytes that arrive later. -/
theorem decode_append_of_verdict {src rest : Bytes} {verdict : Except IoError (Option Frame)}
    (decoded : codec.decode bincode src = (verdict, rest)) (reached : verdict ≠ .ok none)
    (more : Bytes) : codec.decode bincode (src ++ more) = (verdict, rest ++ more) := by
  rcases decode_cases codec bincode src with
    pending | ⟨_, e, failed, stable⟩ | ⟨_, _, stable⟩
  · rw [decoded] at pending
    cases pending
    contradiction
  · rw [decoded] at failed
    cases failed
    exact stable more
  · have atSrc := stable []
    rw [List.append_nil, List.append_nil, decoded] at atSrc
    rw [stable more]
    cases atSrc
    rfl

/-- A decoded frame has consumed at least its header. -/
theorem decode_frame_shrinks {src rest : Bytes} {frame : Frame}
    (decoded : codec.decode bincode src = (.ok (some frame), rest)) :
    rest.length < src.length := by
  rcases decode_cases codec bincode src with
    pending | ⟨_, e, failed, _⟩ | ⟨header, complete, stable⟩
  · rw [decoded] at pending
    cases pending
  · rw [decoded] at failed
    cases failed
  · have atSrc := stable []
    rw [List.append_nil, List.append_nil, decoded] at atSrc
    have restEq : rest = src.drop (4 + (getU32 src).toNat) := congrArg Prod.snd atSrc
    rw [restEq, List.length_drop]
    simp only [HEADER_SIZE] at header
    omega

/-- The decoder as an incremental parser of frames. -/
def parser (codec : TunnelCodec) (bincode : Bincode) : Incremental UInt8 Frame IoError where
  parse := codec.decode bincode
  unchanged_of_pending := decode_pending_unchanged
  shrinks_of_item := decode_frame_shrinks
  item_append decoded more := decode_append_of_verdict decoded (by simp) more
  failure_append decoded more := decode_append_of_verdict decoded (by simp) more

/-! ## Batches -/

/-- Decode as many complete frames as possible, appending them to `out`.  The
result is the number of bytes consumed, or the error that ended the batch. -/
def decodeBatch (codec : TunnelCodec) (bincode : Bincode) (src : Bytes) (out : List Frame)
    (consumed : Nat) : Except IoError Nat × Bytes × List Frame :=
  match _decoded : codec.decode bincode src with
  | (.error e, rest) => (.error e, rest, out)
  | (.ok none, rest) => (.ok consumed, rest, out)
  | (.ok (some frame), rest) =>
      decodeBatch codec bincode rest (out ++ [frame]) (consumed + (src.length - rest.length))
  termination_by src.length
  decreasing_by exact decode_frame_shrinks _decoded

theorem decodeBatch_of_verdict {src rest : Bytes} {verdict : Except IoError (Option Frame)}
    (decoded : codec.decode bincode src = (verdict, rest)) (out : List Frame)
    (consumed : Nat) :
    codec.decodeBatch bincode src out consumed =
      match verdict with
      | .error e => (.error e, rest, out)
      | .ok none => (.ok consumed, rest, out)
      | .ok (some frame) =>
          codec.decodeBatch bincode rest (out ++ [frame])
            (consumed + (src.length - rest.length)) := by
  rw [decodeBatch]
  split <;> rename_i branch <;> cases decoded.symm.trans branch <;> rfl

/-- The unconsumed tail is no longer than the buffer. -/
theorem drain_rest_length_le (codec : TunnelCodec) (bincode : Bincode) (src : Bytes) :
    ((codec.parser bincode).drain src).rest.length ≤ src.length := by
  induction src using Incremental.drain_induction (codec.parser bincode) with
  | pending parsed => rw [Incremental.drain_of_pending parsed]
  | @failed src e rest parsed =>
      rw [Incremental.drain_of_failure parsed]
      rcases decode_cases codec bincode src with
        pending | ⟨_, _, failed, _⟩ | ⟨_, _, stable⟩
      · cases parsed.symm.trans pending
      · cases parsed.symm.trans failed
        exact Nat.le_refl _
      · have atSrc := stable []
        rw [List.append_nil, List.append_nil] at atSrc
        have restEq := congrArg Prod.snd (parsed.symm.trans atSrc)
        simp only at restEq
        rw [restEq, List.length_drop]
        exact Nat.sub_le _ _
  | taken parsed ih =>
      rw [Incremental.drain_of_item parsed]
      exact Nat.le_trans ih (Nat.le_of_lt (decode_frame_shrinks parsed))

/-- A batch reports the frames of the drained buffer, its error or the number
of bytes consumed, and the unconsumed tail. -/
theorem decodeBatch_eq_drain (src : Bytes) (out : List Frame) (consumed : Nat) :
    codec.decodeBatch bincode src out consumed =
      let outcome := (codec.parser bincode).drain src
      (match outcome.failure with
        | some e => .error e
        | none => .ok (consumed + (src.length - outcome.rest.length)),
        outcome.rest, out ++ outcome.items) := by
  induction src using Incremental.drain_induction (codec.parser bincode)
    generalizing out consumed with
  | pending parsed =>
      rw [decodeBatch_of_verdict parsed, Incremental.drain_of_pending parsed]
      simp
  | failed parsed =>
      rw [decodeBatch_of_verdict parsed, Incremental.drain_of_failure parsed]
      simp
  | @taken src frame rest parsed ih =>
      rw [decodeBatch_of_verdict parsed, Incremental.drain_of_item parsed]
      simp only [ih, Incremental.Outcome.prepend, List.append_assoc]
      have shrinks := decode_frame_shrinks parsed
      have tail := drain_rest_length_le codec bincode rest
      have sum : consumed + (src.length - rest.length) +
          (rest.length - ((codec.parser bincode).drain rest).rest.length) =
            consumed + (src.length - ((codec.parser bincode).drain rest).rest.length) := by
        omega
      rw [sum]

/-! ## Delivery in chunks -/

/-- Feed the chunks one at a time into the buffer, decoding a batch after each.
An error ends the delivery: the chunks behind it stay unconsumed. -/
def decodeChunks (codec : TunnelCodec) (bincode : Bincode) :
    Bytes → List Bytes → List Frame × Option IoError × Bytes
  | buffer, [] => ([], none, buffer)
  | buffer, chunk :: chunks =>
      match codec.decodeBatch bincode (buffer ++ chunk) [] 0 with
      | (.error e, rest, frames) => (frames, some e, rest ++ chunks.flatten)
      | (.ok _, rest, frames) =>
          let later := decodeChunks codec bincode rest chunks
          (frames ++ later.1, later.2)

/-- The frames, the error and the unconsumed tail of a byte string delivered in
one piece. -/
def decodeWhole (codec : TunnelCodec) (bincode : Bincode) (bytes : Bytes) :
    List Frame × Option IoError × Bytes :=
  match codec.decodeBatch bincode bytes [] 0 with
  | (.error e, rest, frames) => (frames, some e, rest)
  | (.ok _, rest, frames) => (frames, none, rest)

theorem decodeWhole_eq_drain (bytes : Bytes) :
    codec.decodeWhole bincode bytes =
      (((codec.parser bincode).drain bytes).items, ((codec.parser bincode).drain bytes).failure,
        ((codec.parser bincode).drain bytes).rest) := by
  rw [decodeWhole, decodeBatch_eq_drain]
  cases failure : ((codec.parser bincode).drain bytes).failure <;> simp [failure]

theorem decodeChunks_eq_feed (chunks : List Bytes) (buffer : Bytes) :
    codec.decodeChunks bincode buffer chunks =
      (((codec.parser bincode).feed buffer chunks).items,
        ((codec.parser bincode).feed buffer chunks).failure,
        ((codec.parser bincode).feed buffer chunks).rest) := by
  induction chunks generalizing buffer with
  | nil => rfl
  | cons chunk chunks ih =>
      rw [decodeChunks, decodeBatch_eq_drain, Incremental.feed]
      cases failure : ((codec.parser bincode).drain (buffer ++ chunk)).failure with
      | some e => simp [failure]
      | none => simp [failure, ih, Incremental.Outcome.prepend]

/-- An empty buffer asks for more bytes. -/
theorem decode_nil (codec : TunnelCodec) (bincode : Bincode) :
    codec.decode bincode [] = (.ok none, []) :=
  rfl

/-- Chunking independence.  Cutting a byte string into chunks changes neither
the frames nor the error nor the unconsumed tail; a call that asks for more
bytes leaves the buffer unchanged; and what is reported as an error on a prefix
is reported, after the same frames, on every extension of the prefix. -/
theorem decodeChunks_eq_decodeWhole (codec : TunnelCodec) (bincode : Bincode) :
    (∀ (whole : Bytes) (chunks : List Bytes), chunks.flatten = whole →
      codec.decodeChunks bincode [] chunks = codec.decodeWhole bincode whole) ∧
    (∀ src rest, codec.decode bincode src = (.ok none, rest) → rest = src) ∧
    (∀ front more frames e rest,
      codec.decodeWhole bincode front = (frames, some e, rest) →
        codec.decodeWhole bincode (front ++ more) = (frames, some e, rest ++ more)) := by
  refine ⟨?_, fun src rest => decode_pending_unchanged, ?_⟩
  · rintro whole chunks rfl
    rw [decodeChunks_eq_feed, decodeWhole_eq_drain,
      Incremental.feed_eq_drain chunks (decode_nil codec bincode), List.nil_append]
  · intro front more frames e rest reported
    rw [decodeWhole_eq_drain] at reported ⊢
    obtain ⟨itemsEq, failureEq, restEq⟩ : _ ∧ _ ∧ _ := by
      simpa using reported
    rw [Incremental.drain_append_of_failure more failureEq]
    simp [itemsEq, failureEq, restEq]

end FerroTunnel.Wire.TunnelCodec
