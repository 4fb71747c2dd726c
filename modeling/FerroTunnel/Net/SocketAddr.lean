import FerroTunnel.Text.Number

/-!
# Socket addresses as text

The text of a socket address is an IPv4 address or an IPv6 address in brackets, with a
port behind it.  Each reader takes its part from the front of a text and gives back the
rest; a reader that fails leaves the text to the next one.

An address can be written in several ways only if it is an IPv6 address: the octets of an
IPv4 address have no leading zeros, so such an address is shown as it was written.
-/

namespace FerroTunnel.Net

open FerroTunnel.Text

/-! ## Numbers -/

/-- The value of a digit or letter in a radix. -/
def toDigit (radix : Nat) (c : Char) : Option Nat :=
  if c.isDigit then
    (some (c.toNat - 48)).filter (· < radix)
  else if 'a' ≤ c ∧ c ≤ 'z' then
    (some (c.toNat - 87)).filter (· < radix)
  else if 'A' ≤ c ∧ c ≤ 'Z' then
    (some (c.toNat - 55)).filter (· < radix)
  else
    none

/-- The number that digits stand for. -/
def valueOf (radix : Nat) (digits : List Char) : Nat :=
  digits.foldl (fun value c => value * radix + (toDigit radix c).getD 0) 0

/-- Read the digits at the front of a text, up to the first other character. -/
def readNumber (radix : Nat) (maxDigits : Option Nat) (allowZeroPrefix : Bool) (limit : Nat)
    (text : List Char) : Option (Fin limit × List Char) :=
  let digits := text.takeWhile fun c => (toDigit radix c).isSome
  let rest := text.dropWhile fun c => (toDigit radix c).isSome
  if digits = [] then
    none
  else if ∃ most ∈ maxDigits, most < digits.length then
    none
  else if allowZeroPrefix = false ∧ digits.head? = some '0' ∧ 1 < digits.length then
    none
  else if below : valueOf radix digits < limit then
    some (⟨valueOf radix digits, below⟩, rest)
  else
    none

/-- Reads one given character. -/
def readGivenChar (target : Char) : List Char → Option (List Char)
  | [] => none
  | c :: rest => if c = target then some rest else none

/-- Read behind a separator, unless nothing was read before. -/
def readSeparator {α : Type} (separator : Char) (index : Nat)
    (inner : List Char → Option (α × List Char)) (text : List Char) : Option (α × List Char) :=
  if index > 0 then (readGivenChar separator text).bind inner else inner text

/-! ## Addresses -/

/-- An IPv4 address. -/
structure Ipv4Addr where
  one : Fin 256
  two : Fin 256
  three : Fin 256
  four : Fin 256
deriving DecidableEq

/-- An octet is written without leading zeros. -/
def readOctet : List Char → Option (Fin 256 × List Char) :=
  readNumber 10 (some 3) false 256

/-- Reads four octets with dots. -/
def readIpv4Addr (text : List Char) : Option (Ipv4Addr × List Char) := do
  let (one, text) ← readOctet text
  let text ← readGivenChar '.' text
  let (two, text) ← readOctet text
  let text ← readGivenChar '.' text
  let (three, text) ← readOctet text
  let text ← readGivenChar '.' text
  let (four, text) ← readOctet text
  return (⟨one, two, three, four⟩, text)

/-- A group of an IPv6 address. -/
abbrev Segment := Fin 65536

/-- An IPv6 address. -/
structure Ipv6Addr where
  segments : List Segment
  length_eq : segments.length = 8
deriving DecidableEq

/-- The segment of two octets. -/
def segmentOf (high low : Fin 256) : Segment :=
  Fin.ofNat 65536 (high.val * 256 + low.val)

/-- Read at most `limit` groups.  The last two may be written as an IPv4 address, and then
the groups end. -/
def readGroups : (limit index : Nat) → List Char → List Segment × Bool × List Char
  | 0, _, text => ([], false, text)
  | limit + 1, index, text =>
      match if limit > 0 then readSeparator ':' index readIpv4Addr text else none with
      | some (ip, rest) => ([segmentOf ip.one ip.two, segmentOf ip.three ip.four], true, rest)
      | none =>
          match readSeparator ':' index (readNumber 16 (some 4) true 65536) text with
          | some (group, rest) =>
              let (groups, ipv4, final) := readGroups limit (index + 1) rest
              (group :: groups, ipv4, final)
          | none => ([], false, text)

theorem length_readGroups_le (limit index : Nat) (text : List Char) :
    (readGroups limit index text).1.length ≤ limit := by
  induction limit generalizing index text with
  | zero => exact Nat.le_refl 0
  | succ limit ih =>
      rw [readGroups]
      split
      · rename_i read
        split at read
        · simpa using Nat.succ_le_of_lt ‹limit > 0›
        · cases read
      · split
        · exact Nat.succ_le_succ (ih _ _)
        · exact Nat.zero_le _

/-- The groups before and after a gap that is filled with zeros. -/
def fillZeros (head tail : List Segment) : List Segment :=
  head ++ List.replicate (8 - (head.length + tail.length)) 0 ++ tail

theorem length_fillZeros {head tail : List Segment} (fits : head.length + tail.length ≤ 8) :
    (fillZeros head tail).length = 8 := by
  rw [fillZeros, List.length_append, List.length_append, List.length_replicate]
  omega

theorem length_add_le_of_readGroups {head : List Segment} (atMost : head.length ≤ 8)
    (text : List Char) :
    head.length + (readGroups (8 - (head.length + 1)) 0 text).1.length ≤ 8 := by
  have tail := length_readGroups_le (8 - (head.length + 1)) 0 text
  omega

/-- Reads segments with at most one gap. -/
def readIpv6Addr (text : List Char) : Option (Ipv6Addr × List Char) :=
  if whole : (readGroups 8 0 text).1.length = 8 then
    some (⟨(readGroups 8 0 text).1, whole⟩, (readGroups 8 0 text).2.2)
  -- An IPv4 part is not allowed before the gap.
  else if (readGroups 8 0 text).2.1 then
    none
  else
    match readGivenChar ':' (readGroups 8 0 text).2.2 with
    | none => none
    | some rest =>
        match readGivenChar ':' rest with
        | none => none
        | some rest =>
            some
              (⟨fillZeros (readGroups 8 0 text).1
                  (readGroups (8 - ((readGroups 8 0 text).1.length + 1)) 0 rest).1,
                length_fillZeros
                  (length_add_le_of_readGroups (length_readGroups_le 8 0 text) rest)⟩,
              (readGroups (8 - ((readGroups 8 0 text).1.length + 1)) 0 rest).2.2)

/-- A port. -/
abbrev Port := Fin 65536

/-- An address with its port. -/
inductive SocketAddr
  | v4 (ip : Ipv4Addr) (port : Port)
  | v6 (ip : Ipv6Addr) (port : Port) (scopeId : Fin 4294967296)
deriving DecidableEq

/-- Reads a port after its colon. -/
def readPort (text : List Char) : Option (Port × List Char) :=
  (readGivenChar ':' text).bind (readNumber 10 none true 65536)

/-- Reads a scope after its sign. -/
def readScopeId (text : List Char) : Option (Fin 4294967296 × List Char) :=
  (readGivenChar '%' text).bind (readNumber 10 none true 4294967296)

/-- Reads an IPv4 address with a port. -/
def readSocketAddrV4 (text : List Char) : Option (SocketAddr × List Char) := do
  let (ip, text) ← readIpv4Addr text
  let (port, text) ← readPort text
  return (.v4 ip port, text)

/-- Reads an IPv6 address with a port. -/
def readSocketAddrV6 (text : List Char) : Option (SocketAddr × List Char) := do
  let text ← readGivenChar '[' text
  let (ip, text) ← readIpv6Addr text
  let (scopeId, text) := (readScopeId text).getD (0, text)
  let text ← readGivenChar ']' text
  let (port, text) ← readPort text
  return (.v6 ip port scopeId, text)

/-- Read a whole text as a socket address. -/
def parseSocketAddr (text : List Char) : Option SocketAddr :=
  match (readSocketAddrV4 text).or (readSocketAddrV6 text) with
  | some (addr, []) => some addr
  | _ => none

/-- The port. -/
def SocketAddr.port : SocketAddr → Port
  | .v4 _ port => port
  | .v6 _ port _ => port

/-! ## Addresses as they are shown -/

/-- The four octets with dots. -/
def Ipv4Addr.display (ip : Ipv4Addr) : List Char :=
  Nat.toDigits 10 ip.one ++ '.' :: (Nat.toDigits 10 ip.two ++ '.' ::
    (Nat.toDigits 10 ip.three ++ '.' :: Nat.toDigits 10 ip.four))

/-- A run of zero groups. -/
structure Span where
  start : Nat
  len : Nat
deriving DecidableEq

/-- The first longest run of zeros, with the run that ends before `index`. -/
def longestZeros : (segments : List Segment) → (index : Nat) → (longest current : Span) → Span
  | [], _, longest, _ => longest
  | segment :: rest, index, longest, current =>
      if segment = 0 then
        let current := ⟨if current.len = 0 then index else current.start, current.len + 1⟩
        longestZeros rest (index + 1)
          (if current.len > longest.len then current else longest) current
      else
        longestZeros rest (index + 1) longest ⟨0, 0⟩

/-- Groups in hexadecimal digits with colons between them. -/
def displayGroups : List Segment → List Char
  | [] => []
  | [segment] => Nat.toDigits 16 segment
  | segment :: rest => Nat.toDigits 16 segment ++ ':' :: displayGroups rest

/-- The IPv4 address that an IPv6 address stands for. -/
def Ipv6Addr.toIpv4Mapped (ip : Ipv6Addr) : Option Ipv4Addr :=
  match ip.segments with
  | [0, 0, 0, 0, 0, 65535, first, second] =>
      some ⟨Fin.ofNat 256 (first.val / 256), Fin.ofNat 256 first.val,
        Fin.ofNat 256 (second.val / 256), Fin.ofNat 256 second.val⟩
  | _ => none

/-- The address with its zeros shortened. -/
def Ipv6Addr.display (ip : Ipv6Addr) : List Char :=
  match ip.toIpv4Mapped with
  | some ipv4 => "::ffff:".toList ++ ipv4.display
  | none =>
      let zeros := longestZeros ip.segments 0 ⟨0, 0⟩ ⟨0, 0⟩
      if zeros.len > 1 then
        displayGroups (ip.segments.take zeros.start) ++ "::".toList ++
          displayGroups (ip.segments.drop (zeros.start + zeros.len))
      else
        displayGroups ip.segments

/-- The address without the port. -/
def SocketAddr.displayIp : SocketAddr → List Char
  | .v4 ip _ => ip.display
  | .v6 ip _ _ => ip.display

example : (parseSocketAddr "[2001:DB8::0:1]:443".toList).map SocketAddr.displayIp =
    some "2001:db8::1".toList := by decide

/-- The characters of an IPv4 address. -/
theorem isDigit_or_dot_of_mem_display {ip : Ipv4Addr} {c : Char} (member : c ∈ ip.display) :
    c.isDigit = true ∨ c = '.' := by
  have digit {n : Nat} (shown : c ∈ Nat.toDigits 10 n) : c.isDigit = true :=
    Nat.isDigit_of_mem_toDigits (by decide) (by decide) shown
  simp only [Ipv4Addr.display, List.mem_append, List.mem_cons] at member
  rcases member with one | rfl | two | rfl | three | rfl | four
  · exact .inl (digit one)
  · exact .inr rfl
  · exact .inl (digit two)
  · exact .inr rfl
  · exact .inl (digit three)
  · exact .inr rfl
  · exact .inl (digit four)

theorem colon_mem_displayGroups {segments : List Segment} (several : 1 < segments.length) :
    ':' ∈ displayGroups segments := by
  match segments with
  | first :: second :: rest =>
      rw [displayGroups]
      · exact List.mem_append_right _ List.mem_cons_self
      · exact fun impossible => List.cons_ne_nil _ _ impossible

/-- An IPv6 address is never shown without a colon. -/
theorem colon_mem_display (ip : Ipv6Addr) : ':' ∈ ip.display := by
  rw [Ipv6Addr.display]
  split
  · exact List.mem_append_left _ (by decide)
  · simp only
    split
    · apply List.mem_append_left
      exact List.mem_append_right _ (by decide)
    · apply colon_mem_displayGroups
      rw [ip.length_eq]
      decide

/-! ## Reading numbers -/

theorem toDigit_ten (c : Char) :
    toDigit 10 c = if c.isDigit then some (digitValue c) else none := by
  by_cases digit : c.isDigit = true
  · have bounds := (isDigit_iff c).mp digit
    have small : c.toNat - 48 < 10 := by omega
    simp [toDigit, digit, digitValue, small]
  · have letter (low : Nat) (c d : Char) (le : d ≤ c) (far : low + 10 ≤ d.toNat) :
        (some (c.toNat - low)).filter (· < 10) = none := by
      have above : d.toNat ≤ c.toNat := le
      simp
      omega
    rw [toDigit, if_neg digit, if_neg digit]
    split
    · rename_i between
      exact letter 87 c 'a' between.1 (by decide)
    · split
      · rename_i between
        exact letter 55 c 'A' between.1 (by decide)
      · rfl

theorem digitChar_digitValue {c : Char} (digit : c.isDigit = true) :
    Nat.digitChar (digitValue c) = c := by
  have bounds := (isDigit_iff c).mp digit
  have small : digitValue c < 10 := by
    rw [digitValue]
    change c.toNat - 48 < 10
    omega
  apply Char.toNat_inj.mp
  rw [Nat.toNat_digitChar_of_lt_ten small, digitValue]
  change 48 + (c.toNat - 48) = c.toNat
  omega

theorem valueOf_concat (digits : List Char) {c : Char} (digit : c.isDigit = true) :
    valueOf 10 (digits ++ [c]) = 10 * valueOf 10 digits + digitValue c := by
  rw [valueOf, valueOf, List.foldl_concat, toDigit_ten, if_pos digit, Option.getD_some,
    Nat.mul_comm]

/-- A number without leading zeros is positive if it has a digit. -/
theorem valueOf_pos {digits : List Char} (nonempty : digits ≠ [])
    (all : ∀ c ∈ digits, c.isDigit = true) (noZero : digits.head? ≠ some '0') :
    0 < valueOf 10 digits := by
  induction digits using List.reverseRecOn with
  | nil => exact absurd rfl nonempty
  | append_singleton digits c ih =>
      have digit := all c (List.mem_append_right _ (List.mem_singleton_self c))
      rw [valueOf_concat digits digit]
      cases digits with
      | nil =>
          have bounds := (isDigit_iff c).mp digit
          have notZero : c.toNat ≠ 48 := by
            intro zero
            apply noZero
            exact congrArg some (Char.toNat_inj.mp zero)
          rw [digitValue]
          change 0 < 10 * 0 + (c.toNat - 48)
          omega
      | cons first rest =>
          have earlier := ih (List.cons_ne_nil _ _)
            (fun d member => all d (List.mem_append_left _ member)) noZero
          omega

/-- A number without leading zeros is shown as it was written. -/
theorem toDigits_valueOf {digits : List Char} (nonempty : digits ≠ [])
    (all : ∀ c ∈ digits, c.isDigit = true)
    (noPrefix : digits.head? ≠ some '0' ∨ digits.length ≤ 1) :
    Nat.toDigits 10 (valueOf 10 digits) = digits := by
  induction digits using List.reverseRecOn with
  | nil => exact absurd rfl nonempty
  | append_singleton digits c ih =>
      have digit := all c (List.mem_append_right _ (List.mem_singleton_self c))
      have bounds := (isDigit_iff c).mp digit
      have small : digitValue c < 10 := by
        change c.toNat - 48 < 10
        omega
      rw [valueOf_concat digits digit]
      cases digits with
      | nil =>
          change Nat.toDigits 10 (10 * 0 + digitValue c) = [c]
          rw [Nat.mul_zero, Nat.zero_add, Nat.toDigits_of_lt_base small,
            digitChar_digitValue digit]
      | cons first rest =>
          have earlier : ∀ d ∈ first :: rest, d.isDigit = true :=
            fun d member => all d (List.mem_append_left _ member)
          have noZero : (first :: rest).head? ≠ some '0' := by
            rcases noPrefix with noZero | single
            · exact noZero
            · simp at single
          have positive := valueOf_pos (List.cons_ne_nil _ _) earlier noZero
          rw [← Nat.toDigits_append_toDigits (by decide) positive small,
            ih (List.cons_ne_nil _ _) earlier (.inl noZero), Nat.toDigits_of_lt_base small,
            digitChar_digitValue digit]

variable {text rest : List Char}

/-- What was read stands before the rest. -/
theorem eq_append_of_readNumber {radix limit : Nat} {maxDigits : Option Nat}
    {allowZeroPrefix : Bool} {number : Fin limit}
    (read : readNumber radix maxDigits allowZeroPrefix limit text = some (number, rest)) :
    ∃ digits, text = digits ++ rest ∧ digits ≠ [] ∧
      (∀ c ∈ digits, (toDigit radix c).isSome = true) ∧ number.val = valueOf radix digits ∧
      (allowZeroPrefix = false → digits.head? ≠ some '0' ∨ digits.length ≤ 1) := by
  simp only [readNumber, Option.ite_none_left_eq_some, Option.dite_none_right_eq_some,
    Option.some.injEq, Prod.mk.injEq] at read
  obtain ⟨nonempty, -, noPrefix, below, rfl, rfl⟩ := read
  refine ⟨_, (List.takeWhile_append_dropWhile).symm, nonempty, ?_, rfl, ?_⟩
  · intro c member
    exact List.mem_takeWhile_imp (p := fun c => (toDigit radix c).isSome) member
  · intro strict
    by_contra zeros
    apply noPrefix
    rw [not_or, not_not, Nat.not_le] at zeros
    exact ⟨strict, zeros⟩

theorem isDigit_of_isSome_toDigit {c : Char} (some : (toDigit 10 c).isSome = true) :
    c.isDigit = true := by
  rw [toDigit_ten] at some
  split at some
  · assumption
  · cases some

theorem eq_append_of_readOctet {octet : Fin 256} (read : readOctet text = some (octet, rest)) :
    text = Nat.toDigits 10 octet ++ rest := by
  obtain ⟨digits, textEq, nonempty, all, value, noPrefix⟩ := eq_append_of_readNumber read
  have shown := toDigits_valueOf nonempty
    (fun c member => isDigit_of_isSome_toDigit (all c member)) (noPrefix rfl)
  rw [value, shown]
  exact textEq

@[simp]
theorem readGivenChar_eq_some_iff {target : Char} :
    readGivenChar target text = some rest ↔ text = target :: rest := by
  cases text with
  | nil => simp [readGivenChar]
  | cons c tail =>
      rw [readGivenChar, Option.ite_none_right_eq_some, Option.some.injEq, List.cons.injEq]

/-! ## Reading addresses -/

theorem eq_append_of_readIpv4Addr {ip : Ipv4Addr} (read : readIpv4Addr text = some (ip, rest)) :
    text = ip.display ++ rest := by
  simp only [readIpv4Addr, Option.bind_eq_bind, Option.bind_eq_some_iff, Prod.exists,
    readGivenChar_eq_some_iff, Option.pure_def, Option.some.injEq, Prod.mk.injEq] at read
  obtain ⟨one, _, readOne, _, rfl, two, _, readTwo, _, rfl, three, _, readThree, _, rfl, four, _,
    readFour, rfl, rfl⟩ := read
  rw [eq_append_of_readOctet readOne, eq_append_of_readOctet readTwo,
    eq_append_of_readOctet readThree, eq_append_of_readOctet readFour]
  simp [Ipv4Addr.display]

theorem eq_append_of_readPort {port : Port} (read : readPort text = some (port, rest)) :
    ∃ digits, text = ':' :: (digits ++ rest) ∧ ∀ c ∈ digits, c.isDigit = true := by
  simp only [readPort, Option.bind_eq_some_iff, readGivenChar_eq_some_iff] at read
  obtain ⟨tail, rfl, read⟩ := read
  obtain ⟨digits, textEq, -, all, -⟩ := eq_append_of_readNumber read
  exact ⟨digits, congrArg _ textEq, fun c member => isDigit_of_isSome_toDigit (all c member)⟩

/-- One of the two readers took the whole text. -/
theorem or_of_parseSocketAddr {addr : SocketAddr} (parsed : parseSocketAddr text = some addr) :
    readSocketAddrV4 text = some (addr, []) ∨ readSocketAddrV6 text = some (addr, []) := by
  rw [parseSocketAddr] at parsed
  split at parsed
  · rename_i whole
    rw [Option.some.inj parsed] at whole
    rcases Option.or_eq_some_iff.mp whole with v4 | ⟨-, v6⟩
    · left
      exact v4
    · right
      exact v6
  · cases parsed

/-- An IPv4 socket address is its address as it is shown, with the port behind it. -/
theorem of_readSocketAddrV4 {addr : SocketAddr} (read : readSocketAddrV4 text = some (addr, [])) :
    ∃ ip port digits, addr = .v4 ip port ∧ text = ip.display ++ ':' :: digits ∧
      ∀ c ∈ digits, c.isDigit = true := by
  simp only [readSocketAddrV4, Option.bind_eq_bind, Option.bind_eq_some_iff, Prod.exists,
    Option.pure_def, Option.some.injEq, Prod.mk.injEq] at read
  obtain ⟨ip, _, readIp, port, _, readP, rfl, rfl⟩ := read
  obtain ⟨digits, rfl, all⟩ := eq_append_of_readPort readP
  refine ⟨ip, port, digits, rfl, ?_, all⟩
  rw [eq_append_of_readIpv4Addr readIp, List.append_nil]

/-- An IPv6 socket address is written in brackets. -/
theorem of_readSocketAddrV6 {addr : SocketAddr} (read : readSocketAddrV6 text = some (addr, [])) :
    ∃ ip port scopeId rest, addr = .v6 ip port scopeId ∧ text = '[' :: rest := by
  simp only [readSocketAddrV6, Option.bind_eq_bind, Option.bind_eq_some_iff, Prod.exists,
    readGivenChar_eq_some_iff, Option.pure_def, Option.some.injEq, Prod.mk.injEq] at read
  obtain ⟨rest, rfl, ip, _, -, _, -, port, _, -, rfl, -⟩ := read
  exact ⟨ip, port, _, rest, rfl, rfl⟩

end FerroTunnel.Net
