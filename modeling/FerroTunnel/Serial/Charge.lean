import FerroTunnel.Serial.Format
import Mathlib.Algebra.Order.BigOperators.Group.List

/-!
# Bounds on charges

What a value is charged, against the bytes it takes and against a fixed cap.  The
charge exceeds the bytes where a small integer is charged its width, so the excess is
bounded by the number of integers, not by their size.
-/

namespace FerroTunnel.Serial.Format

variable {α β : Type}

/-- The charge exceeds the bytes by no more than `slack`, and is no more than `cap`. -/
structure Within (format : Format α) (value : α) (slack cap : Nat) : Prop where
  slack : format.charge value ≤ (format.write value).length + slack
  cap : format.charge value ≤ cap

variable {format : Format α} {slack : Nat}

theorem Within.mono {value : α} {cap moreSlack moreCap : Nat}
    (within : format.Within value slack cap) (slackLe : slack ≤ moreSlack) (capLe : cap ≤ moreCap) :
    format.Within value moreSlack moreCap :=
  ⟨within.slack.trans (Nat.add_le_add_left slackLe _), within.cap.trans capLe⟩

theorem within_unit (value : Unit) : unit.Within value 0 0 :=
  ⟨Nat.zero_le _, Nat.le_refl 0⟩

theorem within_word8 (value : UInt8) : word8.Within value 0 1 :=
  ⟨Nat.le_refl 1, Nat.le_refl 1⟩

theorem within_word32 (value : UInt32) : word32.Within value 3 4 := by
  have written := writeVarint_length_pos value.toNat
  constructor
  · change 4 ≤ (writeVarint value.toNat).length + 3
    omega
  · exact Nat.le_refl 4

theorem within_word64 (value : UInt64) : word64.Within value 7 8 := by
  have written := writeVarint_length_pos value.toNat
  constructor
  · change 8 ≤ (writeVarint value.toNat).length + 7
    omega
  · exact Nat.le_refl 8

theorem within_bytes {value : List UInt8} {limit : Nat} (bounded : value.length ≤ limit) :
    bytes.Within value 7 (8 + limit) := by
  have written := writeVarint_length_pos value.length
  constructor
  · change 8 + value.length ≤ (writeVarint value.length ++ value).length + 7
    rw [List.length_append]
    omega
  · exact Nat.add_le_add_left bounded 8

theorem charge_string (value : String) : string.charge value = 8 + value.utf8ByteSize := by
  change 8 + value.toByteArray.data.toList.length = _
  rw [Array.length_toList]
  rfl

theorem within_string {value : String} {limit : Nat} (bounded : value.utf8ByteSize ≤ limit) :
    string.Within value 7 (8 + limit) := by
  have content := @within_bytes value.toByteArray.data.toList limit (by
    rw [Array.length_toList]
    exact bounded)
  exact ⟨content.slack, content.cap⟩

theorem Within.refine {pack : α → Option β} {unpack : β → α}
    {inverse : ∀ value, pack (unpack value) = some value} {value : β} {cap : Nat}
    (within : format.Within (unpack value) slack cap) :
    (format.refine pack unpack inverse).Within value slack cap :=
  ⟨within.slack, within.cap⟩

theorem Within.pair {first : Format α} {second : Format β} {left : α} {right : β}
    {slackLeft capLeft slackRight capRight : Nat} (withinLeft : first.Within left slackLeft capLeft)
    (withinRight : second.Within right slackRight capRight) :
    (first.pair second).Within (left, right) (slackLeft + slackRight) (capLeft + capRight) := by
  have slackFirst := withinLeft.slack
  have slackSecond := withinRight.slack
  constructor
  · change first.charge left + second.charge right ≤
      (first.write left ++ second.write right).length + _
    rw [List.length_append]
    omega
  · exact Nat.add_le_add withinLeft.cap withinRight.cap

theorem within_option {value : Option α} {cap : Nat}
    (within : ∀ content ∈ value, format.Within content slack cap) :
    format.option.Within value slack (1 + cap) := by
  cases value with
  | none => exact ⟨Nat.le_add_right 1 slack, Nat.le_add_right 1 cap⟩
  | some content =>
      have inside := within content rfl
      constructor
      · have slackInside := inside.slack
        change 1 + format.charge content ≤ (1 :: format.write content).length + slack
        rw [List.length_cons]
        omega
      · exact Nat.add_le_add_left inside.cap 1

/-- The values of a collection, one after the other. -/
theorem sum_charge_le {values : List α} {cap : Nat}
    (within : ∀ value ∈ values, format.Within value slack cap) :
    (values.map format.charge).sum ≤
        (values.flatMap format.write).length + values.length * slack ∧
      (values.map format.charge).sum ≤ values.length * cap := by
  induction values with
  | nil => exact ⟨Nat.zero_le _, Nat.zero_le _⟩
  | cons value values ih =>
      rw [List.forall_mem_cons] at within
      obtain ⟨slackRest, capRest⟩ := ih within.2
      have slackFirst := within.1.slack
      have capFirst := within.1.cap
      simp only [List.map_cons, List.sum_cons, List.flatMap_cons, List.length_append,
        List.length_cons, Nat.succ_mul]
      omega

theorem within_list {nonempty : ∀ value, 0 < (format.write value).length} {values : List α}
    {cap count : Nat} (few : values.length ≤ count)
    (within : ∀ value ∈ values, format.Within value slack cap) :
    (format.list nonempty).Within values (7 + count * slack) (8 + count * cap) := by
  obtain ⟨slackAll, capAll⟩ := sum_charge_le within
  have written := writeVarint_length_pos values.length
  constructor
  · have slackCount := Nat.mul_le_mul_right slack few
    change 8 + (values.map format.charge).sum ≤
      (writeVarint values.length ++ values.flatMap format.write).length + _
    rw [List.length_append]
    omega
  · exact Nat.add_le_add_left (capAll.trans (Nat.mul_le_mul_right cap few)) 8

/-- A variant is charged its index and its payload. -/
theorem Within.variant {payloadFormat : Format β} {value : α} {payload : β} {cap : Nat}
    (within : payloadFormat.Within payload slack cap) (index : Nat)
    (writeEq : format.write value = writeVarint index ++ payloadFormat.write payload)
    (chargeEq : format.charge value = 4 + payloadFormat.charge payload) :
    format.Within value (3 + slack) (4 + cap) := by
  have written := writeVarint_length_pos index
  have slackPayload := within.slack
  constructor
  · rw [writeEq, chargeEq, List.length_append]
    omega
  · rw [chargeEq]
    exact Nat.add_le_add_left within.cap 4

theorem within_values [DecidableEq α] {all : List α} {few : all.length < 2 ^ 32}
    {complete : ∀ value, value ∈ all} (value : α) : (values all few complete).Within value 3 4 := by
  obtain ⟨index, variant, payload, found, -, written, charged⟩ :=
    exists_writeVariant ((values_covers complete) value) 0
  obtain ⟨other, -, rfl⟩ := List.mem_map.mp (List.mem_of_getElem? found)
  exact (within_unit payload).variant (0 + index) written charged

end FerroTunnel.Serial.Format
