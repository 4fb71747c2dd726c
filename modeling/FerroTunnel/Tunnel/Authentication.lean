import FerroTunnel.Checked.Core
import FerroTunnel.Tunnel.SessionStore

/-!
# Authentication of a handshake

The server checks the format of the presented token, compares it with the
expected one in constant time, and negotiates a protocol version.  The tunnel id
is taken as it came, or else is the text of the session id.
-/

namespace FerroTunnel.Tunnel

open FerroTunnel.Checked
open FerroTunnel.Wire

/-! ## Tokens -/

/-- Why a token is malformed. -/
inductive TokenValidationError
  | empty
  | tooLong (len max : Nat)
  | invalidCharacters
deriving DecidableEq

/-- The text of the error. -/
def TokenValidationError.message : TokenValidationError → String
  | .empty => "token is empty"
  | .tooLong len max => s!"token too long: {len} bytes exceeds maximum of {max} bytes"
  | .invalidCharacters => "token contains invalid characters"

/-- An ASCII character that is no control character. -/
def isPrintable (c : Char) : Bool :=
  32 ≤ c.toNat && c.toNat < 127

/-- The format of a token. -/
def validateTokenFormat (token : String) (maxLen : Nat) : Except TokenValidationError Unit := do
  rejectIf (token.toList = []) .empty
  rejectIf (token.utf8ByteSize > maxLen) (.tooLong token.utf8ByteSize maxLen)
  rejectIf (token.toList.all isPrintable = false) .invalidCharacters

theorem validateTokenFormat_eq_ok_iff (token : String) (maxLen : Nat) :
    validateTokenFormat token maxLen = .ok () ↔
      token.toList ≠ [] ∧ token.utf8ByteSize ≤ maxLen ∧ token.toList.all isPrintable = true := by
  simp [validateTokenFormat]

/-- Compare two byte strings in a time that depends on the longer one only: the
shorter one is read as if it went on with zeros. -/
def constantTimeEq (a b : Bytes) : Bool :=
  (List.range (max a.length b.length)).foldl
    (fun same index => same && (a.getD index 0 == b.getD index 0)) (a.length == b.length)

theorem foldl_and_eq_true_iff {α : Type} {test : α → Bool} {start : Bool} {items : List α} :
    items.foldl (fun same item => same && test item) start = true ↔
      start = true ∧ ∀ item ∈ items, test item = true := by
  have negated : items.foldl (fun found item => found || !test item) (!start) =
      !items.foldl (fun same item => same && test item) start :=
    List.foldl_hom _ fun _ _ => (Bool.not_and _ _).symm
  rw [← Bool.not_eq_false', ← negated, ← Bool.not_eq_true, Map.foldl_or_eq_true_iff]
  simp

/-- The constant-time comparison is equality. -/
theorem constantTimeEq_eq_true_iff (a b : Bytes) : constantTimeEq a b = true ↔ a = b := by
  rw [constantTimeEq, foldl_and_eq_true_iff]
  constructor
  · rintro ⟨sameLength, sameBytes⟩
    have lengthEq : a.length = b.length := beq_iff_eq.mp sameLength
    apply List.ext_getElem lengthEq
    intro index inA inB
    have inRange : index ∈ List.range (max a.length b.length) :=
      List.mem_range.mpr (Nat.lt_of_lt_of_le inA (Nat.le_max_left _ _))
    have sameByte := beq_iff_eq.mp (sameBytes index inRange)
    simpa [inA, inB] using sameByte
  · rintro rfl
    simp

/-- The bytes of a text. -/
def asBytes (text : String) : Bytes :=
  text.toUTF8.data.toList

theorem asBytes_injective : Function.Injective asBytes := by
  intro first second same
  apply String.toByteArray_inj.mp
  apply ByteArray.ext
  exact Array.toList_inj.mp same

/-! ## Versions -/

/-- The lowest version. -/
def MIN_PROTOCOL_VERSION : UInt8 := 1

/-- The highest version. -/
def MAX_PROTOCOL_VERSION : UInt8 := 1

/-- The highest version that both ends know. -/
def negotiateVersion (clientMin clientMax : UInt8) : Except String UInt8 :=
  if clientMax < MIN_PROTOCOL_VERSION ∨ clientMin > MAX_PROTOCOL_VERSION then
    .error s!"No compatible protocol version. Server: {MIN_PROTOCOL_VERSION}-{MAX_PROTOCOL_VERSION}, Client: {clientMin}-{clientMax}"
  else
    .ok (min clientMax MAX_PROTOCOL_VERSION)

/-! ## Handshakes -/

/-- The text of an id: its hexadecimal digits in five groups. -/
def uuidToString (id : Uuid) : String :=
  let digits := (List.range 32).map fun place =>
    Nat.digitChar (id.toNat / 16 ^ (31 - place) % 16)
  let group (first count : Nat) := (digits.drop first).take count
  String.ofList (List.intercalate ['-']
    [group 0 8, group 8 4, group 12 4, group 16 4, group 20 12])

/-- What is known of a client after authentication. -/
structure AuthenticatedHandshake where
  sessionId : Uuid
  tunnelId : String
  negotiatedVersion : UInt8
  token : String
  capabilities : List String
deriving DecidableEq

/-- Authenticate a handshake; `sessionId` is the fresh id of the session. -/
def authenticateHandshake (handshake : HandshakeFrame) (expectedToken : String)
    (sessionId : Uuid) : Except HandshakeStatus AuthenticatedHandshake :=
  match validateTokenFormat handshake.token 256 with
  | .error _ => .error .invalidToken
  | .ok () =>
      if constantTimeEq (asBytes handshake.token) (asBytes expectedToken) then
        match negotiateVersion handshake.minVersion handshake.maxVersion with
        | .error _ => .error .versionMismatch
        | .ok negotiatedVersion =>
            .ok ⟨sessionId, handshake.tunnelId.getD (uuidToString sessionId), negotiatedVersion,
              handshake.token, handshake.capabilities⟩
      else
        .error .invalidToken

/-- The session that the server registers for a client. -/
def AuthenticatedHandshake.session {μ : Type} (auth : AuthenticatedHandshake) (now : Nat)
    (multiplexer : μ) : Session μ :=
  ⟨auth.sessionId, auth.tunnelId, now, auth.capabilities, some multiplexer⟩

/-- A handshake is accepted for its token and its versions, and yields the session
of the client as it asked for it. -/
theorem authenticateHandshake_eq_ok_iff {handshake : HandshakeFrame} {expectedToken : String}
    {sessionId : Uuid} {auth : AuthenticatedHandshake} :
    authenticateHandshake handshake expectedToken sessionId = .ok auth ↔
      validateTokenFormat handshake.token 256 = .ok () ∧ handshake.token = expectedToken ∧
        ∃ version, negotiateVersion handshake.minVersion handshake.maxVersion = .ok version ∧
          auth = ⟨sessionId, handshake.tunnelId.getD (uuidToString sessionId), version,
            handshake.token, handshake.capabilities⟩ := by
  rw [authenticateHandshake]
  cases validateTokenFormat handshake.token 256 with
  | error error => simp
  | ok _ =>
      by_cases sameToken : handshake.token = expectedToken
      · subst sameToken
        have equal := (constantTimeEq_eq_true_iff _ _).mpr (Eq.refl (asBytes handshake.token))
        cases negotiateVersion handshake.minVersion handshake.maxVersion with
        | error error => simp [equal]
        | ok version =>
            simp only [equal, if_true, Except.ok.injEq, true_and, exists_eq_left']
            exact eq_comm
      · have differs : constantTimeEq (asBytes handshake.token) (asBytes expectedToken) ≠ true :=
          fun equal => sameToken (asBytes_injective ((constantTimeEq_eq_true_iff _ _).mp equal))
        simp [differs, sameToken]

/-! ## What a handshake reveals -/

/-- A version in the client's range and in the server's. -/
def IsCommonVersion (clientMin clientMax version : UInt8) : Prop :=
  (clientMin ≤ version ∧ version ≤ clientMax) ∧
    MIN_PROTOCOL_VERSION ≤ version ∧ version ≤ MAX_PROTOCOL_VERSION

instance (clientMin clientMax version : UInt8) :
    Decidable (IsCommonVersion clientMin clientMax version) :=
  inferInstanceAs (Decidable (_ ∧ _))

/-- The best version that both ends know. -/
def IsHighestCommonVersion (clientMin clientMax version : UInt8) : Prop :=
  IsCommonVersion clientMin clientMax version ∧
    ∀ other, IsCommonVersion clientMin clientMax other → other ≤ version

/-- A version that the negotiation settles on is the highest one both ends know. -/
theorem isHighestCommonVersion_of_negotiateVersion {clientMin clientMax version : UInt8}
    (ordered : clientMin ≤ clientMax)
    (negotiated : negotiateVersion clientMin clientMax = .ok version) :
    IsHighestCommonVersion clientMin clientMax version := by
  have served : MIN_PROTOCOL_VERSION ≤ MAX_PROTOCOL_VERSION := by decide
  have chosen : ¬(clientMax < MIN_PROTOCOL_VERSION ∨ clientMin > MAX_PROTOCOL_VERSION) ∧
      (if clientMax ≤ MAX_PROTOCOL_VERSION then clientMax else MAX_PROTOCOL_VERSION)
        = version := by
    rw [negotiateVersion] at negotiated
    split at negotiated
    · cases negotiated
    · next overlap => exact ⟨overlap, Except.ok.inj negotiated⟩
  obtain ⟨overlap, rfl⟩ := chosen
  rw [not_or, UInt8.not_lt, gt_iff_lt, UInt8.not_lt] at overlap
  split
  · next low =>
    constructor
    · exact ⟨⟨ordered, UInt8.le_refl _⟩, overlap.1, low⟩
    · rintro other ⟨⟨-, high⟩, -⟩
      exact high
  · next low =>
    have above := UInt8.le_of_lt (UInt8.not_le.mp low)
    constructor
    · exact ⟨⟨overlap.2, above⟩, served, UInt8.le_refl _⟩
    · rintro other ⟨-, -, high⟩
      exact high

/-- The negotiation succeeds exactly when both ends know a version. -/
theorem exists_negotiateVersion_iff {clientMin clientMax : UInt8}
    (ordered : clientMin ≤ clientMax) :
    (∃ version, negotiateVersion clientMin clientMax = .ok version) ↔
      ∃ version, IsCommonVersion clientMin clientMax version := by
  constructor
  · rintro ⟨version, negotiated⟩
    exact ⟨version, (isHighestCommonVersion_of_negotiateVersion ordered negotiated).1⟩
  · rintro ⟨version, ⟨clientLow, clientHigh⟩, serverLow, serverHigh⟩
    have overlap : ¬(clientMax < MIN_PROTOCOL_VERSION ∨ clientMin > MAX_PROTOCOL_VERSION) := by
      rw [not_or, UInt8.not_lt, gt_iff_lt, UInt8.not_lt]
      exact ⟨UInt8.le_trans serverLow clientHigh, UInt8.le_trans clientLow serverHigh⟩
    exact ⟨_, if_neg overlap⟩

/-- A token that is not the expected one is rejected as such, whatever else the
handshake says. -/
theorem authenticateHandshake_of_token_ne {handshake : HandshakeFrame} {expectedToken : String}
    (differs : handshake.token ≠ expectedToken) (sessionId : Uuid) :
    authenticateHandshake handshake expectedToken sessionId = .error .invalidToken := by
  have unequal : constantTimeEq (asBytes handshake.token) (asBytes expectedToken) ≠ true :=
    fun equal => differs (asBytes_injective ((constantTimeEq_eq_true_iff _ _).mp equal))
  rw [authenticateHandshake]
  cases validateTokenFormat handshake.token 256 with
  | error error => rfl
  | ok _ => exact if_neg unequal

/-- A handshake is accepted exactly for the expected token in the right format and a
common version, and then with the highest common version.  Handshakes with other
tokens are all answered alike. -/
theorem authenticateHandshake_exact (handshake : HandshakeFrame) (expectedToken : String)
    (sessionId : Uuid) (ordered : handshake.minVersion ≤ handshake.maxVersion) :
    ((∃ auth, authenticateHandshake handshake expectedToken sessionId = .ok auth) ↔
      asBytes handshake.token = asBytes expectedToken ∧ handshake.token.toList ≠ [] ∧
        handshake.token.utf8ByteSize ≤ 256 ∧ handshake.token.toList.all isPrintable = true ∧
        ∃ version,
          IsCommonVersion handshake.minVersion handshake.maxVersion version) ∧
    (∀ auth, authenticateHandshake handshake expectedToken sessionId = .ok auth →
      IsHighestCommonVersion handshake.minVersion handshake.maxVersion
        auth.negotiatedVersion) ∧
    ∀ (other : HandshakeFrame) (otherId : Uuid), handshake.token ≠ expectedToken →
      other.token ≠ expectedToken →
        ∃ status, authenticateHandshake handshake expectedToken sessionId = .error status ∧
          authenticateHandshake other expectedToken otherId = .error status := by
  constructor
  · rw [← exists_negotiateVersion_iff ordered]
    constructor
    · rintro ⟨auth, accepted⟩
      obtain ⟨format, sameToken, version, negotiated, -⟩ :=
        authenticateHandshake_eq_ok_iff.mp accepted
      obtain ⟨nonempty, short, printable⟩ := (validateTokenFormat_eq_ok_iff _ _).mp format
      exact ⟨congrArg asBytes sameToken, nonempty, short, printable, version, negotiated⟩
    · rintro ⟨sameToken, nonempty, short, printable, version, negotiated⟩
      have format := (validateTokenFormat_eq_ok_iff _ _).mpr ⟨nonempty, short, printable⟩
      exact ⟨_, authenticateHandshake_eq_ok_iff.mpr
        ⟨format, asBytes_injective sameToken, version, negotiated, rfl⟩⟩
  constructor
  · intro auth accepted
    obtain ⟨-, -, version, negotiated, rfl⟩ := authenticateHandshake_eq_ok_iff.mp accepted
    exact isHighestCommonVersion_of_negotiateVersion ordered negotiated
  · intro other otherId differs otherDiffers
    exact ⟨.invalidToken, authenticateHandshake_of_token_ne differs sessionId,
      authenticateHandshake_of_token_ne otherDiffers otherId⟩

/-- A client that knows the token and speaks versions up to 3. -/
theorem authenticateHandshake_exact_known :
    (∃ auth, authenticateHandshake ⟨"secret", none, 1, 3, []⟩ "secret" 7 = .ok auth) ∧
    ∃ status, authenticateHandshake ⟨"", none, 0, 0, []⟩ "secret" 7 = .error status ∧
      authenticateHandshake ⟨"secret ", some "app", 9, 9, ["tcp"]⟩ "secret" 8 = .error status :=
  ⟨(authenticateHandshake_exact ⟨"secret", none, 1, 3, []⟩ "secret" 7 (by decide)).1.mpr
      ⟨rfl, by decide, by decide, by decide, 1, by decide⟩,
    (authenticateHandshake_exact ⟨"", none, 0, 0, []⟩ "secret" 7 (by decide)).2.2
      ⟨"secret ", some "app", 9, 9, ["tcp"]⟩ 8 (by decide) (by decide)⟩

end FerroTunnel.Tunnel
