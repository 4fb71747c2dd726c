import FerroTunnel.Ingress.HostKey
import FerroTunnel.Tunnel.Authentication
import FerroTunnel.Tunnel.StoreMethods
import FerroTunnel.Tunnel.UniqueOwner

/-!
# Reaching a tunnel by its name

A client may choose its tunnel id, and the server registers the session under it
as it came.  A request is routed by its normalised host, in which no upper-case
letter is left.  So a host name reaches the session that is registered under it
unless it was registered with an upper-case letter.
-/

namespace FerroTunnel.Ingress

open FerroTunnel.Text
open FerroTunnel.Transition
open FerroTunnel.Tunnel
open FerroTunnel.Wire

variable {μ : Type}

/-- The session that a request with this `Host` header is routed to. -/
def routeRequest (store : SessionStore μ) (hostHeader : Option HeaderValue) :
    Option (Session μ) :=
  match parseAndNormalizeHost hostHeader with
  | .error _ => none
  | .ok tunnelId => store.getByTunnelId tunnelId

/-! ## Host names -/

/-- The characters of a host name. -/
def isHostChar (c : Char) : Bool :=
  c.isAlphanum || c = '-' || c = '.'

/-- Letters, digits, hyphens and inner dots. -/
def HostName (name : List Char) : Prop :=
  name ≠ [] ∧ name.all isHostChar = true ∧ name.head? ≠ some '.' ∧ name.getLast? ≠ some '.'

instance (name : List Char) : Decidable (HostName name) :=
  inferInstanceAs (Decidable (_ ∧ _ ∧ _ ∧ _))

/-- The header is the name in any letter case, or this followed by a port. -/
def NamesHost (name header : String) : Prop :=
  ∃ spelling port : List Char,
    spelling.map Char.toLower = name.toList.map Char.toLower ∧
    (header.toList = spelling ∨ header.toList = spelling ++ ':' :: port) ∧
    port.all Char.isDigit = true

/-- The text without upper-case letters. -/
def lowerCase (text : String) : String :=
  String.ofList (text.toList.map Char.toLower)

theorem isHostChar_iff (c : Char) : isHostChar c = true ↔
    (65 ≤ c.toNat ∧ c.toNat ≤ 90) ∨ (97 ≤ c.toNat ∧ c.toNat ≤ 122) ∨
      (48 ≤ c.toNat ∧ c.toNat ≤ 57) ∨ c.toNat = 45 ∨ c.toNat = 46 := by
  simp [isHostChar, isAlphanum_iff, ← Char.toNat_inj, or_assoc]

theorem isHostChar_toLower (c : Char) : isHostChar c.toLower = isHostChar c := by
  rw [Bool.eq_iff_iff, isHostChar_iff, isHostChar_iff, toNat_toLower]
  split <;> omega

/-- A character of a host name or of the port after it. -/
def isAuthorityChar (c : Char) : Bool :=
  isHostChar c || c = ':'

theorem isAuthorityChar_iff (c : Char) : isAuthorityChar c = true ↔
    (65 ≤ c.toNat ∧ c.toNat ≤ 90) ∨ (97 ≤ c.toNat ∧ c.toNat ≤ 122) ∨
      (48 ≤ c.toNat ∧ c.toNat ≤ 58) ∨ c.toNat = 45 ∨ c.toNat = 46 := by
  rw [isAuthorityChar, Bool.or_eq_true, isHostChar_iff, decide_eq_true_iff, ← Char.toNat_inj]
  change _ ∨ c.toNat = 58 ↔ _
  omega

theorem isInk_of_isAuthorityChar {c : Char} (authority : isAuthorityChar c = true) :
    isInk c = true := by
  rw [isAuthorityChar_iff] at authority
  rw [isInk_iff]
  omega

theorem ne_bracket_of_isAuthorityChar {c : Char} (authority : isAuthorityChar c = true) :
    c ≠ '[' := by
  rw [isAuthorityChar_iff] at authority
  rw [ne_eq, ← Char.toNat_inj]
  change c.toNat ≠ 91
  omega

theorem ne_colon_of_isHostChar {c : Char} (host : isHostChar c = true) : c ≠ ':' := by
  rw [isHostChar_iff] at host
  rw [ne_eq, ← Char.toNat_inj]
  change c.toNat ≠ 58
  omega

theorem isHostChar_of_isDigit {c : Char} (digit : c.isDigit = true) : isHostChar c = true := by
  simp [isHostChar, Char.isAlphanum, digit]

/-- Another spelling of a host name has the characters of a host name. -/
theorem isHostChar_of_spelling {name spelling : List Char} (host : name.all isHostChar = true)
    (same : spelling.map Char.toLower = name.map Char.toLower) :
    ∀ c ∈ spelling, isHostChar c = true := by
  have caseless : ∀ c, isHostChar c.toLower = true ↔ isHostChar c = true := by
    intro c
    rw [isHostChar_toLower]
  exact forall_of_map_toLower_eq caseless same (List.all_eq_true.mp host)

/-- Every header that names a host stands for its name in lower case. -/
theorem parseAndNormalizeHost_of_namesHost {name header : String} (host : HostName name.toList)
    (names : NamesHost name header) :
    parseAndNormalizeHost (some header) = .ok (lowerCase name) := by
  obtain ⟨spelling, port, same, written, digits⟩ := names
  obtain ⟨nonempty, hostChars, -, noFinalDot⟩ := host
  have spellingChars := isHostChar_of_spelling hostChars same
  have portChars : ∀ c ∈ port, isHostChar c = true :=
    fun c member => isHostChar_of_isDigit (List.all_eq_true.mp digits c member)
  have spellingNonempty : spelling ≠ [] := by
    rintro rfl
    exact nonempty (List.map_eq_nil_iff.mp same.symm)
  obtain ⟨tail, headerEq, ends⟩ : ∃ tail, header.toList = spelling ++ tail ∧
      (tail = [] ∨ ∃ port, tail = ':' :: port ∧ ∀ c ∈ port, isHostChar c = true) := by
    rcases written with plain | withPort
    · exact ⟨[], by rw [plain, List.append_nil], .inl rfl⟩
    · exact ⟨':' :: port, withPort, .inr ⟨port, rfl, portChars⟩⟩
  have headerChars : ∀ c ∈ header.toList, isAuthorityChar c = true := by
    intro c member
    rw [headerEq, List.mem_append] at member
    rcases member with inSpelling | inTail
    · simp [isAuthorityChar, spellingChars c inSpelling]
    · rcases ends with rfl | ⟨port, rfl, portChars⟩
      · cases inTail
      · rcases List.mem_cons.mp inTail with rfl | inPort
        · rfl
        · simp [isAuthorityChar, portChars c inPort]
  have trimmed : trim header.toList = header.toList :=
    stripEnds_eq_self_of_solidEnds <| solidEnds_of_forall fun c member =>
      isBlank_of_isInk (isInk_of_isAuthorityChar (headerChars c member))
  have part : hostPart header.toList = .ok spelling := by
    rw [headerEq]
    apply hostPart_append
    · apply head?_append_ne_bracket spellingNonempty
      intro c member
      exact ne_bracket_of_isAuthorityChar (by simp [isAuthorityChar, spellingChars c member])
    · exact fun c member => ne_colon_of_isHostChar (spellingChars c member)
    · rcases ends with rfl | ⟨port, rfl, portChars⟩
      · exact .inl rfl
      · exact .inr ⟨port, rfl, fun c member => ne_colon_of_isHostChar (portChars c member)⟩
  have ended : stripFinalDot spelling = spelling := by
    apply stripFinalDot_eq_self
    rw [ne_eq, ← getLast?_map_toLower_eq_dot_iff, same, getLast?_map_toLower_eq_dot_iff]
    exact noFinalDot
  rw [parseAndNormalizeHost_eq_ok_iff, trimmed, lowerCase, String.toList_ofList]
  constructor
  · rw [List.all_eq_true]
    exact fun c member => isVisible_of_isInk (isInk_of_isAuthorityChar (headerChars c member))
  constructor
  · simpa using nonempty
  · exact ⟨spelling, part, by rw [ended, same]⟩

/-! ## Routing -/

/-- The name has no upper-case letter. -/
def LowerCase (name : String) : Prop :=
  lowerCase name = name

instance (name : String) : Decidable (LowerCase name) :=
  inferInstanceAs (Decidable (_ = _))

/-- What a lookup by tunnel finds is registered for that tunnel. -/
theorem tunnelId_of_getByTunnelId {pool : StorePool μ} (settled : pool.Settled) {tunnelId : String}
    {session : Session μ} (found : pool.shared.getByTunnelId tunnelId = some session) :
    session.tunnelId = tunnelId := by
  rw [SessionStore.getByTunnelId] at found
  cases indexed : pool.shared.tunnelIndex.lookup tunnelId with
  | none =>
      rw [indexed] at found
      cases found
  | some id =>
      rw [indexed] at found
      obtain ⟨-, presented⟩ := settled.known.stored found
      exact settled.known.tunnel_eq presented.claimed (settled.known.indexed indexed)

/-- A stored session has the tunnel with which it was registered. -/
theorem tunnelId_of_registered {pool : StorePool μ} (settled : pool.Settled)
    {added session : Session μ} (registered : .addReturned added (.ok ()) ∈ pool.calls)
    (stored : pool.shared.get added.id = some session) : session.tunnelId = added.tunnelId := by
  have presentedAdded : Presented pool.roles added.id added.tunnelId :=
    ⟨added, List.mem_map_of_mem registered, rfl, rfl⟩
  obtain ⟨-, presented⟩ := settled.known.stored stored
  exact settled.known.tunnel_eq presented.claimed presentedAdded.claimed

/-- In every store that the server can reach, a request that names the host a client
asked for is routed to the session of that client, while it is stored, if and only
if the client asked for it in lower case. -/
theorem routed_by_name_iff (pool : StorePool μ) (actions : List (StoreAction μ))
    (run : exec StorePool.step .initial actions = some pool)
    (fresh : Meets StorePool.step StorePool.AddsFresh .initial actions)
    (handshake : HandshakeFrame) (expectedToken name : String) (sessionId : Uuid)
    (auth : AuthenticatedHandshake) (now : Nat) (multiplexer : μ) (session : Session μ)
    (chosen : handshake.tunnelId = some name) (host : HostName name.toList)
    (accepted : authenticateHandshake handshake expectedToken sessionId = .ok auth)
    (registered : .addReturned (auth.session now multiplexer) (.ok ()) ∈ pool.calls)
    (stored : pool.shared.get sessionId = some session)
    (header : HeaderValue) (names : NamesHost name header) :
    routeRequest pool.shared (some header) = some session ↔ LowerCase name := by
  have settled := StorePool.settled_run run fresh
  obtain ⟨-, -, version, -, rfl⟩ := authenticateHandshake_eq_ok_iff.mp accepted
  have tunnelEq : session.tunnelId = name := by
    rw [tunnelId_of_registered settled registered stored, AuthenticatedHandshake.session, chosen]
    rfl
  have indexed : pool.shared.tunnelIndex.lookup name = some sessionId :=
    tunnelEq ▸ settled.owned.indexed_of_stored settled.routed stored
  rw [routeRequest, parseAndNormalizeHost_of_namesHost host names]
  constructor
  · intro found
    exact (tunnelId_of_getByTunnelId settled found).symm.trans tunnelEq
  · intro lower
    change pool.shared.getByTunnelId (lowerCase name) = some session
    rw [lower, SessionStore.getByTunnelId, indexed]
    exact stored

/-- A client asks for a tunnel by this name. -/
def askFor (name : String) : HandshakeFrame where
  minVersion := 1
  maxVersion := 1
  token := "secret"
  tunnelId := some name
  capabilities := ["basic", "tcp"]

/-- What the server knows of this client. -/
def askedFor (name : String) : AuthenticatedHandshake :=
  ⟨1, name, 1, "secret", ["basic", "tcp"]⟩

/-- The server registers the session of this client. -/
def registration (name : String) : List (StoreAction Unit) :=
  [.start (.add ((askedFor name).session 0 ())), .advance 0 none, .advance 0 none]

theorem routed_by_name_iff_app :
    ∃ pool, exec StorePool.step .initial (registration "app") = some pool ∧
      routeRequest pool.shared (some "APP:8080") = some ((askedFor "app").session 0 ()) := by
  refine ⟨_, rfl, ?_⟩
  apply (routed_by_name_iff _ (registration "app") rfl (by decide) (askFor "app") "secret" "app" 1
    (askedFor "app") 0 () ((askedFor "app").session 0 ()) rfl (by decide) (by decide)
    (List.mem_of_getElem? (i := 0) rfl) rfl "APP:8080"
    ⟨"APP".toList, "8080".toList, by decide⟩).mpr
  decide

/-- A session that was registered with an upper-case letter is stored, and a request for
its very name finds no session. -/
theorem upper_case_unreachable :
    authenticateHandshake (askFor "App") "secret" 1 = .ok (askedFor "App") ∧
      HostName "App".toList ∧
      ∃ pool, exec StorePool.step .initial (registration "App") = some pool ∧
        .addReturned ((askedFor "App").session 0 ()) (.ok ()) ∈ pool.calls ∧
        pool.shared.get 1 = some ((askedFor "App").session 0 ()) ∧
        routeRequest pool.shared (some "App") = none := by
  exact ⟨by decide, by decide, _, rfl, List.mem_of_getElem? (i := 0) rfl, rfl, by decide⟩

end FerroTunnel.Ingress
