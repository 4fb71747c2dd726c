import FerroTunnel.Serial.Metered

/-!
# Formats

A format writes values as bytes and reads them back for a charge.  The formats here
are those of bincode's standard configuration: integers of more than one byte take
one, three, five or nine bytes, an enumeration its variant index, and a string or a
collection its length in front.  The charge of an integer is its width in memory,
whatever it takes on the wire.

Lengths are 64-bit words, so a format reads back what takes fewer than 2^64 bytes.
-/

namespace FerroTunnel.Serial

open FerroTunnel.Bytes

variable {α β : Type}

/-- A writer with its reader. -/
structure Format (α : Type) where
  write : α → List UInt8
  charge : α → Nat
  read : Reader α
  reads : ∀ {value}, (write value).length < 2 ^ 64 →
    Reads read (write value) (charge value) value

/-! ## Variable-width integers -/

/-- A number in as few bytes as it needs. -/
def writeVarint (value : Nat) : List UInt8 :=
  if value < 251 then [UInt8.ofNat value]
  else if value < 2 ^ 16 then 251 :: putLE 2 value
  else if value < 2 ^ 32 then 252 :: putLE 4 value
  else 253 :: putLE 8 value

/-- Reads one byte. -/
def readByte : Reader UInt8 :=
  (fun bytes => bytes.headD 0) <$> takeBytes 1

/-- The nine-byte form is accepted for 64-bit integers only. -/
def readVarint (wide : Bool) : Reader Nat := do
  let marker ← readByte
  if marker.toNat < 251 then pure marker.toNat
  else if marker = 251 then getLE <$> takeBytes 2
  else if marker = 252 then getLE <$> takeBytes 4
  else if marker = 253 ∧ wide then getLE <$> takeBytes 8
  else reject

theorem writeVarint_length_pos (value : Nat) : 0 < (writeVarint value).length := by
  unfold writeVarint
  split
  · exact Nat.one_pos
  · split
    · exact Nat.succ_pos _
    · split <;> exact Nat.succ_pos _

theorem reads_readByte (byte : UInt8) : Reads readByte [byte] 0 byte :=
  (reads_takeBytes [byte]).map _

/-- The digits behind a marker. -/
theorem reads_digits {width value : Nat} (bounded : value < 256 ^ width) :
    Reads (getLE <$> takeBytes width) (putLE width value) 0 value := by
  have digits := (reads_takeBytes (putLE width value)).map getLE
  rwa [putLE_length, getLE_putLE bounded] at digits

theorem reads_readVarint {wide : Bool} {value : Nat} (bounded : value < 2 ^ 64)
    (narrow : wide = false → value < 2 ^ 32) :
    Reads (readVarint wide) (writeVarint value) 0 value := by
  unfold writeVarint
  split
  · next small =>
    have byteEq : (UInt8.ofNat value).toNat = value := by
      rw [UInt8.toNat_ofNat']
      exact Nat.mod_eq_of_lt (by omega)
    refine Reads.bind (reads_readByte (UInt8.ofNat value)) ?_ (List.append_nil _) (Nat.zero_add 0)
    rw [byteEq, if_pos small]
    exact reads_pure value
  · split
    · next short => exact Reads.bind (reads_readByte 251) (reads_digits short) rfl rfl
    · split
      · next medium => exact Reads.bind (reads_readByte 252) (reads_digits medium) rfl rfl
      · next large =>
        cases wide with
        | true => exact Reads.bind (reads_readByte 253) (reads_digits bounded) rfl rfl
        | false => exact absurd (narrow rfl) large

/-- The length in front of a string or a collection. -/
def readLength : Reader Nat := do
  claim 8
  readVarint true

theorem reads_readLength {length : Nat} (bounded : length < 2 ^ 64) :
    Reads readLength (writeVarint length) 8 length :=
  Reads.bind (reads_claim 8) (reads_readVarint bounded nofun) rfl rfl

namespace Format

/-- A byte. -/
def word8 : Format UInt8 where
  write value := [value]
  charge _ := 1
  read := do
    claim 1
    readByte
  reads _ := Reads.bind (reads_claim 1) (reads_readByte _) rfl rfl

/-- A 32-bit number. -/
def word32 : Format UInt32 where
  write value := writeVarint value.toNat
  charge _ := 4
  read := do
    claim 4
    UInt32.ofNat <$> readVarint false
  reads {value} _ := by
    have narrow := value.toNat_lt
    have wide : value.toNat < 2 ^ 64 := narrow.trans (by decide)
    have read := (@reads_readVarint false _ wide fun _ => narrow).map UInt32.ofNat
    rw [UInt32.ofNat_toNat] at read
    exact Reads.bind (reads_claim 4) read rfl rfl

/-- A 64-bit number. -/
def word64 : Format UInt64 where
  write value := writeVarint value.toNat
  charge _ := 8
  read := do
    claim 8
    UInt64.ofNat <$> readVarint true
  reads {value} _ := by
    have read := (@reads_readVarint true _ value.toNat_lt nofun).map UInt64.ofNat
    rw [UInt64.ofNat_toNat] at read
    exact Reads.bind (reads_claim 8) read rfl rfl

/-- The length is paid for before the bytes are there. -/
def bytes : Format (List UInt8) where
  write value := writeVarint value.length ++ value
  charge value := 8 + value.length
  read := do
    let length ← readLength
    claim length
    takeBytes length
  reads {value} bounded := by
    rw [List.length_append] at bounded
    refine Reads.bind (@reads_readLength value.length (by omega)) ?_ rfl rfl
    exact Reads.bind (reads_claim _) (reads_takeBytes value) rfl rfl

/-- One value after another. -/
def pair (first : Format α) (second : Format β) : Format (α × β) where
  write value := first.write value.1 ++ second.write value.2
  charge value := first.charge value.1 + second.charge value.2
  read := do
    let left ← first.read
    let right ← second.read
    pure (left, right)
  reads {value} bounded := by
    rw [List.length_append] at bounded
    have readFirst := @first.reads value.1 (by omega)
    have readSecond := @second.reads value.2 (by omega)
    exact Reads.bind readFirst (readSecond.map (value.1, ·)) rfl rfl

/-- Values that are written as others; not all of these need denote a value. -/
def refine (format : Format α) (pack : α → Option β) (unpack : β → α)
    (inverse : ∀ value, pack (unpack value) = some value) : Format β where
  write value := format.write (unpack value)
  charge value := format.charge (unpack value)
  read := do
    let value ← format.read
    match pack value with
    | some packed => pure packed
    | none => reject
  reads {value} bounded := by
    refine Reads.bind (format.reads bounded) ?_ (List.append_nil _) (Nat.add_zero _)
    rw [inverse]
    exact reads_pure value

/-- A text is written as its UTF-8 bytes. -/
def string : Format String :=
  bytes.refine (fun content => String.fromUTF8? ⟨content.toArray⟩)
    (fun value => value.toByteArray.data.toList) fun value => by
      rw [Array.toArray_toList, String.fromUTF8?, dif_pos value.isValidUTF8]
      rfl

/-- A truth value, as a byte. -/
def bool : Format Bool :=
  word8.refine (fun byte => if byte = 0 then some false else if byte = 1 then some true else none)
    (fun value => if value then 1 else 0) fun value => by cases value <;> rfl

/-- A value that may be absent. -/
def option (format : Format α) : Format (Option α) where
  write
    | none => [0]
    | some value => 1 :: format.write value
  charge
    | none => 1
    | some value => 1 + format.charge value
  read := do
    claim 1
    let tag ← readByte
    if tag = 0 then pure none
    else if tag = 1 then some <$> format.read
    else reject
  reads {value} bounded := by
    cases value with
    | none =>
        exact Reads.bind (reads_claim 1)
          (Reads.bind (reads_readByte 0) (reads_pure Option.none) rfl rfl) rfl rfl
    | some value =>
        have content := (format.reads (Nat.lt_of_succ_lt bounded)).map some
        exact Reads.bind (reads_claim 1)
          (Reads.bind (reads_readByte 1) content rfl (Nat.zero_add _)) rfl rfl

theorem length_le_length_flatMap {write : α → List UInt8}
    (nonempty : ∀ value, 0 < (write value).length) (values : List α) :
    values.length ≤ (values.flatMap write).length := by
  induction values with
  | nil => exact Nat.le_refl 0
  | cons value values ih =>
      have first := nonempty value
      rw [List.flatMap_cons, List.length_append, List.length_cons]
      omega

/-- A collection of values that take some bytes each. -/
def list (format : Format α) (nonempty : ∀ value, 0 < (format.write value).length) :
    Format (List α) where
  write values := writeVarint values.length ++ values.flatMap format.write
  charge values := 8 + (values.map format.charge).sum
  read := do
    let length ← readLength
    readMany format.read length
  reads {values} bounded := by
    rw [List.length_append] at bounded
    have few : values.length < 2 ^ 64 := by
      have counted := length_le_length_flatMap nonempty values
      omega
    refine Reads.bind (reads_readLength few) ?_ rfl rfl
    apply reads_readMany
    intro value member
    apply format.reads
    have part : (format.write value).length ≤ (values.flatMap format.write).length :=
      (List.sublist_flatten_of_mem (List.mem_map_of_mem member)).length_le
    omega

/-! ## Enumerations -/

/-- Nothing is written for a value that the variant index determines. -/
def unit : Format Unit where
  write _ := []
  charge _ := 0
  read := pure ()
  reads _ := reads_pure ()

/-- One variant of an enumeration: its payload, and the values that are of it. -/
structure Variant (α : Type) where
  Payload : Type
  format : Format Payload
  make : Payload → α
  view : α → Option Payload
  make_of_view : ∀ {value payload}, view value = some payload → make payload = value := by
    intro value payload viewed
    cases value <;> cases viewed <;> rfl

/-- A variant without payload. -/
def Variant.ofValue [DecidableEq α] (value : α) : Variant α where
  Payload := Unit
  format := unit
  make _ := value
  view other := if other = value then some () else none
  make_of_view {other} _ viewed := by
    by_cases same : other = value
    · exact same.symm
    · rw [if_neg same] at viewed
      cases viewed

/-- The index of the value's variant, counted from `index`, and its payload. -/
def writeVariant : List (Variant α) → Nat → α → List UInt8
  | [], _, _ => []
  | variant :: rest, index, value =>
      match variant.view value with
      | some payload => writeVarint index ++ variant.format.write payload
      | none => writeVariant rest (index + 1) value

/-- The charge of the first variant that fits. -/
def chargeVariant : List (Variant α) → α → Nat
  | [], _ => 0
  | variant :: rest, value =>
      match variant.view value with
      | some payload => 4 + variant.format.charge payload
      | none => chargeVariant rest value

/-- Reads an index and its variant. -/
def readVariant (variants : List (Variant α)) : Reader α := do
  let index ← word32.read
  match variants[index.toNat]? with
  | some variant => variant.make <$> variant.format.read
  | none => reject

theorem covered_at {variants : List (Variant α)} {variant : Variant α} {value : α} (index : Nat)
    (found : variants[index]? = some variant) (viewed : (variant.view value).isSome) :
    ∃ variant ∈ variants, (variant.view value).isSome :=
  ⟨variant, List.mem_of_getElem? found, viewed⟩

/-- A value is written as the first variant it is of. -/
theorem exists_writeVariant {variants : List (Variant α)} {value : α}
    (covered : ∃ variant ∈ variants, (variant.view value).isSome) (start : Nat) :
    ∃ index variant payload, variants[index]? = some variant ∧
      variant.view value = some payload ∧
      writeVariant variants start value =
        writeVarint (start + index) ++ variant.format.write payload ∧
      chargeVariant variants value = 4 + variant.format.charge payload := by
  induction variants generalizing start with
  | nil => simp at covered
  | cons variant rest ih =>
      cases viewed : variant.view value with
      | some payload =>
          refine ⟨0, variant, payload, rfl, viewed, ?_, ?_⟩
          · rw [writeVariant, viewed]
            rfl
          · rw [chargeVariant, viewed]
      | none =>
          have later : ∃ variant ∈ rest, (variant.view value).isSome := by
            simpa [viewed] using covered
          obtain ⟨index, other, payload, found, otherViewed, written, charged⟩ :=
            ih later (start + 1)
          refine ⟨index + 1, other, payload, found, otherViewed, ?_, ?_⟩
          · simp only [writeVariant, viewed]
            rw [written, Nat.add_assoc, Nat.add_comm 1]
          · simp only [chargeVariant, viewed]
            exact charged

/-- The variants of an enumeration, in the order of their indices. -/
def variants (variants : List (Variant α)) (few : variants.length < 2 ^ 32)
    (covers : ∀ value, ∃ variant ∈ variants, (variant.view value).isSome) : Format α where
  write := writeVariant variants 0
  charge := chargeVariant variants
  read := readVariant variants
  reads {value} bounded := by
    obtain ⟨index, variant, payload, found, viewed, written, charged⟩ :=
      exists_writeVariant (covers value) 0
    rw [Nat.zero_add] at written
    rw [written, List.length_append] at bounded
    rw [written, charged]
    have narrow : index < 2 ^ 32 := by
      have inside := (List.getElem?_eq_some_iff.mp found).1
      omega
    have indexEq : (UInt32.ofNat index).toNat = index := by
      rw [UInt32.toNat_ofNat']
      exact Nat.mod_eq_of_lt narrow
    have readIndex := @word32.reads (UInt32.ofNat index) (by
      change (writeVarint (UInt32.ofNat index).toNat).length < 2 ^ 64
      rw [indexEq]
      omega)
    change Reads word32.read (writeVarint (UInt32.ofNat index).toNat) 4 _ at readIndex
    rw [indexEq] at readIndex
    refine Reads.bind readIndex ?_ rfl rfl
    rw [indexEq, found]
    have content := (@variant.format.reads payload (by omega)).map variant.make
    rwa [variant.make_of_view viewed] at content

theorem values_covers [DecidableEq α] {all : List α} (complete : ∀ value, value ∈ all)
    (value : α) : ∃ variant ∈ all.map Variant.ofValue, (variant.view value).isSome := by
  refine ⟨.ofValue value, List.mem_map_of_mem (complete value), ?_⟩
  change (if value = value then some () else none).isSome
  rw [if_pos rfl]
  rfl

/-- An enumeration whose variants have no payload. -/
def values [DecidableEq α] (all : List α) (few : all.length < 2 ^ 32)
    (complete : ∀ value, value ∈ all) : Format α :=
  variants (all.map .ofValue) (by rwa [List.length_map]) (values_covers complete)

end Format

end FerroTunnel.Serial
