import FerroTunnel.Bytes.LittleEndian

/-!
# Metered readers

A reader takes bytes from the front of its input and pays for what it reads out of a
budget.  `Reads` says that a reader takes exactly the given bytes, whatever follows
them, and pays exactly the given amount, or fails for lack of it.
-/

namespace FerroTunnel.Serial

/-- The budget does not suffice, the bytes end too early, or they denote no value. -/
inductive ReadError
  | limitExceeded
  | unexpectedEnd
  | invalid
  deriving DecidableEq

/-- What is left of the budget and of the bytes. -/
structure Input where
  budget : Nat
  bytes : List UInt8

/-- A reader of metered input. -/
abbrev Reader (α : Type) := StateT Input (Except ReadError) α

variable {α β : Type}

/-- Pay for what is read next. -/
def claim (amount : Nat) : Reader Unit
  | input =>
      if amount ≤ input.budget then .ok ((), { input with budget := input.budget - amount })
      else .error .limitExceeded

/-- Takes bytes from the input. -/
def takeBytes (count : Nat) : Reader (List UInt8)
  | input =>
      if count ≤ input.bytes.length then
        .ok (input.bytes.take count, { input with bytes := input.bytes.drop count })
      else .error .unexpectedEnd

/-- The input is not valid. -/
def reject : Reader α
  | _ => .error .invalid

/-- Read a number of values, one after the other. -/
def readMany (reader : Reader α) : Nat → Reader (List α)
  | 0 => pure []
  | count + 1 => do
      let value ← reader
      let values ← readMany reader count
      pure (value :: values)

/-- The reader takes these bytes for this charge, and returns the value. -/
def Reads (reader : Reader α) (bytes : List UInt8) (charge : Nat) (value : α) : Prop :=
  ∀ budget rest, reader ⟨budget, bytes ++ rest⟩ =
    if charge ≤ budget then .ok (value, ⟨budget - charge, rest⟩) else .error .limitExceeded

theorem reads_pure (value : α) : Reads (pure value) [] 0 value := by
  intro budget rest
  rw [if_pos (Nat.zero_le _)]
  rfl

theorem reads_claim (amount : Nat) : Reads (claim amount) [] amount () := by
  intro budget rest
  rfl

theorem reads_takeBytes (bytes : List UInt8) : Reads (takeBytes bytes.length) bytes 0 bytes := by
  intro budget rest
  simp [takeBytes]

/-- Bytes and charges of two readers add up. -/
theorem Reads.bind {reader : Reader α} {next : α → Reader β} {bytes first second : List UInt8}
    {charge chargeFirst chargeSecond : Nat} {value : α} {result : β}
    (reads : Reads reader first chargeFirst value)
    (readsNext : Reads (next value) second chargeSecond result)
    (bytesEq : first ++ second = bytes) (chargeEq : chargeFirst + chargeSecond = charge) :
    Reads (reader >>= next) bytes charge result := by
  intro budget rest
  subst bytesEq chargeEq
  change (reader ⟨budget, first ++ second ++ rest⟩).bind (fun read => next read.1 read.2) = _
  rw [List.append_assoc, reads]
  by_cases affordable : chargeFirst ≤ budget
  · rw [if_pos affordable]
    change next value ⟨budget - chargeFirst, second ++ rest⟩ = _
    rw [readsNext, Nat.sub_sub]
    simp only [Nat.le_sub_iff_add_le' affordable]
  · rw [if_neg affordable, if_neg (by omega)]
    rfl

theorem Reads.map {reader : Reader α} {bytes : List UInt8} {charge : Nat} {value : α}
    (reads : Reads reader bytes charge value) (function : α → β) :
    Reads (function <$> reader) bytes charge (function value) := by
  change Reads (reader >>= fun value => pure (function value)) bytes charge (function value)
  exact Reads.bind reads (reads_pure _) (List.append_nil bytes) (Nat.add_zero charge)

theorem reads_readMany {reader : Reader α} {write : α → List UInt8} {charge : α → Nat}
    {values : List α}
    (reads : ∀ value ∈ values, Reads reader (write value) (charge value) value) :
    Reads (readMany reader values.length) (values.flatMap write) (values.map charge).sum
      values := by
  induction values with
  | nil => exact reads_pure []
  | cons value values ih =>
      rw [List.forall_mem_cons] at reads
      exact Reads.bind reads.1 ((ih reads.2).map (value :: ·)) rfl rfl

end FerroTunnel.Serial
