import FerroTunnel.Text.Core

/-!
# Decimal numbers as text

The text of an unsigned number is read from left to right.  A sign may stand before it,
and the first character that is no digit, or that makes the number too large, decides the
error.
-/

namespace FerroTunnel.Text

/-- Why a text is no number. -/
inductive ParseIntError
  | empty
  | invalidDigit
  | posOverflow
deriving DecidableEq

/-- The text of the error. -/
def ParseIntError.message : ParseIntError → String
  | .empty => "cannot parse integer from empty string"
  | .invalidDigit => "invalid digit found in string"
  | .posOverflow => "number too large to fit in target type"

/-- The value of a decimal digit. -/
def digitValue (c : Char) : Nat :=
  c.toNat - '0'.toNat

/-- Read digits behind a number that was read, below a limit. -/
def parseDigits (limit : Nat) : Nat → List Char → Except ParseIntError Nat
  | value, [] => .ok value
  | value, c :: rest =>
      if c.isDigit then
        if value * 10 + digitValue c < limit then
          parseDigits limit (value * 10 + digitValue c) rest
        else
          .error .posOverflow
      else
        .error .invalidDigit

/-- Read an unsigned number below a limit; a plus may stand before its digits. -/
def parseUnsigned (limit : Nat) (text : List Char) : Except ParseIntError Nat :=
  match text with
  | [] => .error .empty
  | ['+'] => .error .invalidDigit
  | '+' :: rest => parseDigits limit 0 rest
  | text => parseDigits limit 0 text

theorem isDigit_of_parseDigits {limit value result : Nat} {text : List Char}
    (parsed : parseDigits limit value text = .ok result) : ∀ c ∈ text, c.isDigit = true := by
  induction text generalizing value with
  | nil => exact List.forall_mem_nil _
  | cons c rest ih =>
      rw [parseDigits] at parsed
      split at parsed
      · rename_i digit
        split at parsed
        · exact List.forall_mem_cons.mpr ⟨digit, ih parsed⟩
        · cases parsed
      · cases parsed

/-- The characters of a number. -/
theorem isDigit_or_plus_of_parseUnsigned {limit result : Nat} {text : List Char}
    (parsed : parseUnsigned limit text = .ok result) :
    ∀ c ∈ text, c.isDigit = true ∨ c = '+' := by
  intro c member
  rw [parseUnsigned.eq_def] at parsed
  split at parsed
  · cases parsed
  · cases parsed
  · rcases List.mem_cons.mp member with rfl | member
    · right
      rfl
    · left
      exact isDigit_of_parseDigits parsed c member
  · left
    exact isDigit_of_parseDigits parsed c member

example : parseUnsigned (2 ^ 16) "+443".toList = .ok 443 := by decide

end FerroTunnel.Text
