import FerroTunnel.Checked.Core
import FerroTunnel.Net.SocketAddr
import FerroTunnel.Text.Split
import Mathlib.Data.UInt

/-!
# The name of the server

A client that is given no server name takes it from the address it connects to.  The TLS
transport takes what stands before the first colon.  The QUIC transport splits the address
into host and port: it reads a socket address, or the host between brackets, or parts the
text at its last colon.

The two agree on hosts without colons that are not in brackets, and on no others: from
the address of an IPv6 host the TLS transport takes the opening bracket and the first
group.
-/

namespace FerroTunnel.Transport

open FerroTunnel.Checked
open FerroTunnel.Net
open FerroTunnel.Text

/-- An I/O error of the kind `InvalidInput` with its message. -/
structure InvalidInput where
  message : String
deriving DecidableEq

/-! ## The two transports -/

/-- The TLS settings that are read. -/
structure TlsTransportConfig where
  serverName : Option String
deriving DecidableEq

/-- The name that `connect` verifies the certificate of the server against. -/
def TlsTransportConfig.nameFor (config : TlsTransportConfig) (addr : String) : String :=
  config.serverName.getD
    (((addr.toList.splitOn ':').head?.map String.ofList).getD "localhost")

/-- The port of an address. -/
def parsePort (portStr : List Char) : Except InvalidInput UInt16 :=
  match parseUnsigned (2 ^ 16) portStr with
  | .ok port => .ok (UInt16.ofNat port)
  | .error e => .error ⟨s!"invalid port in address: {e.message}"⟩

/-- The host and the port of an address. -/
def splitHostPort (addr : String) : Except InvalidInput (String × UInt16) :=
  match parseSocketAddr addr.toList with
  | some socketAddr =>
      .ok (String.ofList socketAddr.displayIp, UInt16.ofNat socketAddr.port)
  | none =>
      match addr.toList with
      | '[' :: rest =>
          match splitAtFirst [']', ':'] rest with
          | none => .error ⟨s!"invalid bracketed address: {addr}"⟩
          | some (host, portStr) => do
              let port ← parsePort portStr
              return (String.ofList host, port)
      | text =>
          match splitAtLast ':' text with
          | none => .error ⟨s!"missing port in address: {addr}"⟩
          | some (host, portStr) => do
              let port ← parsePort portStr
              return (String.ofList host, port)

/-- The QUIC settings that are read. -/
structure QuicTransportConfig where
  serverName : Option String
deriving DecidableEq

/-- The name that `connect` gives to the endpoint, unless it rejects the address. -/
def QuicTransportConfig.nameFor (config : QuicTransportConfig) (addr : String) :
    Except InvalidInput String := do
  let (host, _) ← splitHostPort addr
  return config.serverName.getD host

/-! ## Accepted addresses -/

/-- The forms of the accepted addresses, each with its host. -/
inductive HostOf : List Char → List Char → Prop
  | plain (host port : List Char) (unbracketed : (host ++ ':' :: port).head? ≠ some '[')
      (free : ':' ∉ port) : HostOf (host ++ ':' :: port) host
  | bracketed (host port : List Char) : HostOf ('[' :: (host ++ [']', ':'] ++ port)) host
  | ipv6 (rest : List Char) (ip : Ipv6Addr) : HostOf ('[' :: rest) ip.display

theorem colon_notMem_of_isDigit {digits : List Char} (all : ∀ c ∈ digits, c.isDigit = true) :
    ':' ∉ digits := by
  intro member
  exact absurd (all ':' member) (by decide)

theorem colon_notMem_of_parsePort {portStr : List Char} {port : UInt16}
    (parsed : parsePort portStr = .ok port) : ':' ∉ portStr := by
  intro member
  rw [parsePort] at parsed
  split at parsed
  · rename_i number
    rcases isDigit_or_plus_of_parseUnsigned number ':' member with digit | plus
    · exact absurd digit (by decide)
    · exact absurd plus (by decide)
  · cases parsed

theorem head?_display (ip : Ipv4Addr) (rest : List Char) :
    (ip.display ++ rest).head? ≠ some '[' := by
  intro opens
  have front : ip.display ≠ [] := by
    rw [Ipv4Addr.display]
    exact List.append_ne_nil_of_left_ne_nil Nat.toDigits_ne_nil _
  rw [List.head?_append_of_ne_nil _ front] at opens
  rcases isDigit_or_dot_of_mem_display (List.mem_of_head? opens) with digit | dot
  · exact absurd digit (by decide)
  · exact absurd dot (by decide)

theorem hostOf_of_parseSocketAddr {text : List Char} {socketAddr : SocketAddr}
    (parsed : parseSocketAddr text = some socketAddr) : HostOf text socketAddr.displayIp := by
  rcases or_of_parseSocketAddr parsed with v4 | v6
  · obtain ⟨ip, port, digits, rfl, rfl, all⟩ := of_readSocketAddrV4 v4
    exact .plain ip.display digits (head?_display ip _) (colon_notMem_of_isDigit all)
  · obtain ⟨ip, port, scopeId, rest, rfl, rfl⟩ := of_readSocketAddrV6 v6
    exact .ipv6 rest ip

/-- An address that is accepted has one of the forms. -/
theorem hostOf_of_splitHostPort {addr host : String} {port : UInt16}
    (accepted : splitHostPort addr = .ok (host, port)) : HostOf addr.toList host.toList := by
  rw [splitHostPort] at accepted
  split at accepted
  · rename_i parsed
    cases accepted
    rw [String.toList_ofList]
    exact hostOf_of_parseSocketAddr parsed
  · split at accepted
    · rename_i rest textEq
      split at accepted
      · cases accepted
      · rename_i parted
        obtain ⟨_, -, made⟩ := bind_eq_ok_iff.mp accepted
        cases made
        rw [String.toList_ofList, textEq, eq_of_splitAtFirst parted]
        exact .bracketed _ _
    · rename_i text unbracketed
      split at accepted
      · cases accepted
      · rename_i parted
        obtain ⟨_, parsed, made⟩ := bind_eq_ok_iff.mp accepted
        cases made
        obtain ⟨textEq, -⟩ := eq_of_splitAtLast parted
        rw [String.toList_ofList, textEq]
        apply HostOf.plain
        · rw [← textEq]
          intro opens
          obtain ⟨rest, begins⟩ := List.head?_eq_some_iff.mp opens
          exact unbracketed rest begins
        · exact colon_notMem_of_parsePort parsed

/-! ## Where the names agree -/

/-- What stands before the first colon has the opening bracket, and either the closing one
or not all of the host. -/
theorem takeWhile_bracketed_ne (host port : List Char) :
    ('[' :: (host ++ [']', ':'] ++ port)).takeWhile (· ≠ ':') ≠ host := by
  intro same
  have free : ':' ∉ '[' :: (host ++ [']']) := by
    have freeHost : ':' ∉ host := same ▸ notMem_takeWhile ':' _
    simp [freeHost]
  have whole : '[' :: (host ++ [']', ':'] ++ port) = '[' :: (host ++ [']']) ++ ':' :: port := by
    simp
  rw [whole, takeWhile_append_separator free] at same
  have lengths := congrArg List.length same
  rw [List.length_cons, List.length_append] at lengths
  omega

/-- What stands before the first colon is the host of an accepted address exactly when the
address is not in brackets and has one colon only. -/
theorem HostOf.takeWhile_eq_iff {text host : List Char} (hostOf : HostOf text host) :
    text.takeWhile (· ≠ ':') = host ↔ text.head? ≠ some '[' ∧ text.count ':' = 1 := by
  cases hostOf with
  | plain host port unbracketed free =>
      have count : (host ++ ':' :: port).count ':' = 1 ↔ ':' ∉ host := by
        rw [List.count_append, List.count_cons_self, List.count_eq_zero.mpr free,
          ← List.count_eq_zero]
        omega
      rw [count]
      constructor
      · intro same
        have freeHost : ':' ∉ host := by
          rw [← same]
          exact notMem_takeWhile ':' _
        exact ⟨unbracketed, freeHost⟩
      · rintro ⟨-, freeHost⟩
        exact takeWhile_append_separator freeHost port
  | bracketed host port =>
      constructor
      · exact fun same => absurd same (takeWhile_bracketed_ne host port)
      · exact fun unbracketed => absurd rfl unbracketed.1
  | ipv6 rest ip =>
      constructor
      · intro same
        have free : ':' ∉ ip.display := same ▸ notMem_takeWhile ':' _
        exact absurd (colon_mem_display ip) free
      · exact fun unbracketed => absurd rfl unbracketed.1

theorem TlsTransportConfig.nameFor_unnamed {config : TlsTransportConfig}
    (unnamed : config.serverName = none) (addr : String) :
    config.nameFor addr = String.ofList (addr.toList.takeWhile (· ≠ ':')) := by
  rw [nameFor, unnamed, head?_splitOn]
  rfl

theorem QuicTransportConfig.nameFor_unnamed {config : QuicTransportConfig}
    (unnamed : config.serverName = none) {addr host : String} {port : UInt16}
    (accepted : splitHostPort addr = .ok (host, port)) : config.nameFor addr = .ok host := by
  rw [nameFor, accepted, unnamed]
  rfl

/-- For an accepted address and no configured name, both transports derive the same name
exactly when the address is not in brackets and has one colon only. -/
theorem serverNames_agree_iff (tls : TlsTransportConfig) (quic : QuicTransportConfig)
    (tlsUnnamed : tls.serverName = none) (quicUnnamed : quic.serverName = none)
    (addr host : String) (port : UInt16) (accepted : splitHostPort addr = .ok (host, port)) :
    quic.nameFor addr = .ok (tls.nameFor addr) ↔
      addr.toList.head? ≠ some '[' ∧ addr.toList.count ':' = 1 := by
  rw [quic.nameFor_unnamed quicUnnamed accepted, tls.nameFor_unnamed tlsUnnamed,
    ← (hostOf_of_splitHostPort accepted).takeWhile_eq_iff, Except.ok.injEq]
  constructor
  · rintro rfl
    rw [String.toList_ofList]
  · intro same
    rw [same, String.ofList_toList]

/-- A host name and a port. -/
theorem serverNames_agree_hostName :
    QuicTransportConfig.nameFor ⟨none⟩ "tunnel.example:443" =
      .ok (TlsTransportConfig.nameFor ⟨none⟩ "tunnel.example:443") :=
  (serverNames_agree_iff ⟨none⟩ ⟨none⟩ rfl rfl "tunnel.example:443" "tunnel.example" 443
    (by decide)).mpr (by decide)

/-- The loopback address: TLS takes the bracket for the name. -/
theorem serverNames_differ_ipv6 :
    QuicTransportConfig.nameFor ⟨none⟩ "[::1]:443" = .ok "::1" ∧
      TlsTransportConfig.nameFor ⟨none⟩ "[::1]:443" = "[" := by
  decide

end FerroTunnel.Transport
