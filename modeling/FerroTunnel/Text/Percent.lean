import Mathlib.Data.List.Basic
import Mathlib.Data.Nat.Bitwise

/-!
# Percent-encoding

A byte is written as itself or as a percent sign and two hexadecimal digits.  The
decoder takes a percent sign without two digits after it as it stands, and may read a
plus sign as a space.
-/

namespace FerroTunnel.Text

/-! ## Digits -/

/-- The value of a hexadecimal digit. -/
def hexValue (byte : UInt8) : Option UInt8 :=
  if 48 ≤ byte ∧ byte ≤ 57 then
    some (byte - 48)
  else if 97 ≤ byte ∧ byte ≤ 102 then
    some (byte - 97 + 10)
  else if 65 ≤ byte ∧ byte ≤ 70 then
    some (byte - 65 + 10)
  else
    none

/-- The digit of a value below sixteen. -/
def hexDigit (value : UInt8) : UInt8 :=
  if value < 10 then 48 + value else 55 + value

/-- Two digits as a byte. -/
def joinDigits (high low : UInt8) : UInt8 :=
  (high <<< 4) ||| low

/-- What holds of the values below sixteen can be checked one by one. -/
theorem forall_lt_sixteen {p : UInt8 → Prop}
    (checked : ∀ n : Fin 16, p (UInt8.ofNat n)) {value : UInt8} (small : value < 16) : p value := by
  have bound : value.toNat < 16 := UInt8.lt_iff_toNat_lt.mp small
  have holds := checked ⟨value.toNat, bound⟩
  rwa [UInt8.ofNat_toNat] at holds

theorem hexValue_hexDigit {value : UInt8} (small : value < 16) :
    hexValue (hexDigit value) = some value :=
  forall_lt_sixteen (p := fun value => hexValue (hexDigit value) = some value) (by decide) small

theorem joinDigits_div_mod (byte : UInt8) : joinDigits (byte / 16) (byte % 16) = byte := by
  rw [joinDigits, ← UInt8.toNat_inj, UInt8.toNat_or, UInt8.toNat_shiftLeft, UInt8.toNat_div,
    UInt8.toNat_mod]
  have bound := byte.toNat_lt
  change (byte.toNat / 16) <<< 4 % 256 ||| byte.toNat % 16 = byte.toNat
  have whole : (byte.toNat / 16) <<< 4 % 256 = (byte.toNat / 16) <<< 4 := by
    rw [Nat.shiftLeft_eq]
    omega
  rw [whole, ← Nat.shiftLeft_add_eq_or_of_lt (by omega), Nat.shiftLeft_eq]
  omega

/-! ## Decoding -/

/-- The byte of an escape in front, and what stands after it. -/
def escape? : List UInt8 → Option (UInt8 × List UInt8)
  | percent :: first :: second :: rest =>
      if percent = 37 then
        match hexValue first, hexValue second with
        | some high, some low => some (joinDigits high low, rest)
        | _, _ => none
      else
        none
  | _ => none

theorem length_escape?_lt {bytes rest : List UInt8} {byte : UInt8}
    (escaped : escape? bytes = some (byte, rest)) : rest.length < bytes.length := by
  match bytes, escaped with
  | percent :: first :: second :: later, escaped =>
      simp only [escape?] at escaped
      split at escaped
      · split at escaped
        · cases escaped
          simp only [List.length_cons]
          omega
        · cases escaped
      · cases escaped

/-- Decode a sequence of bytes. -/
def decode (plusAsSpace : Bool) (bytes : List UInt8) : List UInt8 :=
  match bytes with
  | [] => []
  | byte :: rest =>
      match _escaped : escape? (byte :: rest) with
      | some (value, later) => value :: decode plusAsSpace later
      | none => (if byte = 43 ∧ plusAsSpace then 32 else byte) :: decode plusAsSpace rest
termination_by bytes.length
decreasing_by
  · exact length_escape?_lt ‹_›
  · exact Nat.lt_succ_self _

theorem decode_nil (plusAsSpace : Bool) : decode plusAsSpace [] = [] := by
  rw [decode]

theorem decode_of_escape {plusAsSpace : Bool} {bytes later : List UInt8} {value : UInt8}
    (escaped : escape? bytes = some (value, later)) :
    decode plusAsSpace bytes = value :: decode plusAsSpace later := by
  cases bytes with
  | nil => cases escaped
  | cons byte rest =>
      rw [decode]
      split
      · next found => cases found.symm.trans escaped; rfl
      · next none => cases none.symm.trans escaped

theorem decode_of_no_escape {plusAsSpace : Bool} {byte : UInt8} {rest : List UInt8}
    (plain : escape? (byte :: rest) = none) :
    decode plusAsSpace (byte :: rest) =
      (if byte = 43 ∧ plusAsSpace then 32 else byte) :: decode plusAsSpace rest := by
  rw [decode]
  split
  · next found => cases found.symm.trans plain
  · rfl

/-- Only a percent sign begins an escape. -/
theorem escape?_of_ne {byte : UInt8} (other : byte ≠ 37) (rest : List UInt8) :
    escape? (byte :: rest) = none := by
  match rest with
  | [] => rfl
  | [_] => rfl
  | _ :: _ :: _ => exact if_neg other

/-! ## Encoding -/

variable (literal : UInt8 → Bool)

/-- Encode a byte unless it may stand literally. -/
def encodeByte (byte : UInt8) : List UInt8 :=
  if literal byte then [byte] else [37, hexDigit (byte / 16), hexDigit (byte % 16)]

/-- The bytes with escapes. -/
def encode (bytes : List UInt8) : List UInt8 :=
  bytes.flatMap (encodeByte literal)

variable {literal}

theorem div_sixteen_lt (byte : UInt8) : byte / 16 < 16 := by
  rw [UInt8.lt_iff_toNat_lt, UInt8.toNat_div]
  have bound := byte.toNat_lt
  change byte.toNat / 16 < 16
  omega

theorem mod_sixteen_lt (byte : UInt8) : byte % 16 < 16 := by
  rw [UInt8.lt_iff_toNat_lt, UInt8.toNat_mod]
  exact Nat.mod_lt _ (by decide)

/-- What holds of the literal bytes, of the percent sign and of digits holds of every byte
of an encoding. -/
theorem forall_mem_encode {p : UInt8 → Prop} (literals : ∀ byte, literal byte = true → p byte)
    (percent : p 37) (digits : ∀ value, value < 16 → p (hexDigit value)) (bytes : List UInt8) :
    ∀ byte ∈ encode literal bytes, p byte := by
  intro byte member
  obtain ⟨original, -, written⟩ := List.mem_flatMap.mp member
  rw [encodeByte] at written
  split at written
  · next kept =>
    rw [List.mem_singleton.mp written]
    exact literals original kept
  · rcases List.mem_cons.mp written with rfl | high
    · exact percent
    · rcases List.mem_cons.mp high with rfl | low
      · exact digits _ (div_sixteen_lt original)
      · rw [List.mem_singleton.mp low]
        exact digits _ (mod_sixteen_lt original)

/-- An encoding without literal percent and plus signs is read back. -/
theorem decode_encode (noPercent : literal 37 = false) (noPlus : literal 43 = false)
    (plusAsSpace : Bool) (bytes : List UInt8) :
    decode plusAsSpace (encode literal bytes) = bytes := by
  induction bytes with
  | nil => exact decode_nil plusAsSpace
  | cons byte rest ih =>
      rw [encode, List.flatMap_cons, encodeByte]
      split
      · next kept =>
        have notPercent : byte ≠ 37 := by
          rintro rfl
          rw [noPercent] at kept
          cases kept
        have notPlus : ¬(byte = 43 ∧ plusAsSpace = true) := by
          rintro ⟨rfl, -⟩
          rw [noPlus] at kept
          cases kept
        rw [List.singleton_append, decode_of_no_escape (escape?_of_ne notPercent _),
          if_neg notPlus]
        exact congrArg (byte :: ·) ih
      · have escaped : escape? ([37, hexDigit (byte / 16), hexDigit (byte % 16)] ++
            rest.flatMap (encodeByte literal)) =
            some (byte, rest.flatMap (encodeByte literal)) := by
          simp only [List.cons_append, List.nil_append, escape?, if_true,
            hexValue_hexDigit (div_sixteen_lt byte), hexValue_hexDigit (mod_sixteen_lt byte),
            joinDigits_div_mod]
        rw [decode_of_escape escaped]
        exact congrArg (byte :: ·) ih

end FerroTunnel.Text
