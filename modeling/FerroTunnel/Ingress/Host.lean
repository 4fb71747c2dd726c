import FerroTunnel.Ingress.Headers

/-!
# The host of a request

A request is routed by the host it names.  Both ingresses derive the tunnel id
with one normaliser: blanks around the value, a port, letter case and a final
dot do not matter, and the brackets of an IPv6 address are removed.  The HTTP
ingress reads the `Host` header only.  The HTTP/3 ingress falls back on the
authority of the URI, where HTTP/2 and HTTP/3 clients put the host.
-/

namespace FerroTunnel.Ingress

/-- The host without its port, or the address between brackets. -/
def hostPart (host : List Char) : Except String (List Char) :=
  match host with
  | '[' :: rest =>
      if rest.contains ']' then
        .ok (rest.takeWhile (· ≠ ']'))
      else
        .error "Invalid IPv6 Host header format"
  | _ =>
      if host.count ':' > 1 then
        .ok host
      else
        .ok (host.takeWhile (· ≠ ':'))

/-- Remove one final dot. -/
def stripFinalDot (host : List Char) : List Char :=
  if host.getLast? = some '.' then host.dropLast else host

/-- The tunnel id that a host stands for. -/
def parseAndNormalizeHost (hostHeader : Option HeaderValue) : Except String String :=
  match hostHeader.bind HeaderValue.toStr with
  | none => .error "Missing or invalid Host header"
  | some hostStr =>
      if hostStr.toList = [] then
        .error "Empty Host header"
      else
        match hostPart (trim hostStr.toList) with
        | .error error => .error error
        | .ok part =>
            let normalized := stripFinalDot (part.map Char.toLower)
            if normalized = [] then
              .error "Empty host after normalization"
            else
              .ok (String.ofList normalized)

/-- The host of an HTTP/3 request. -/
def hostHeaderValue (hostHeader : Option HeaderValue) (authority : Option String) :
    Option HeaderValue :=
  hostHeader.or (authority.bind HeaderValue.fromStr)

/-- The tunnel id of a request on the HTTP ingress, given its `Host` header and the
authority of its URI. -/
def httpTunnelId (hostHeader : Option HeaderValue) (_authority : Option String) :
    Except String String :=
  parseAndNormalizeHost hostHeader

/-- The tunnel id of a request on the HTTP/3 ingress. -/
def http3TunnelId (hostHeader : Option HeaderValue) (authority : Option String) :
    Except String String :=
  match hostHeaderValue hostHeader authority with
  | none => .error "Missing or invalid Host header"
  | some host => parseAndNormalizeHost (some host)

/-! ## Agreement of the ingresses -/

/-- The authority names no host that requests can be routed by. -/
def Unusable (authority : Option String) : Prop :=
  ∀ name ∈ authority, (parseAndNormalizeHost (HeaderValue.fromStr name)).toOption = none

instance (authority : Option String) : Decidable (Unusable authority) :=
  inferInstanceAs (Decidable (∀ name ∈ authority, _))

theorem http3TunnelId_of_host (host : HeaderValue) (authority : Option String) :
    http3TunnelId (some host) authority = parseAndNormalizeHost (some host) :=
  rfl

theorem http3TunnelId_of_authority (authority : Option String) :
    http3TunnelId none authority =
      parseAndNormalizeHost (authority.bind HeaderValue.fromStr) := by
  rw [http3TunnelId, hostHeaderValue, Option.none_or]
  cases authority.bind HeaderValue.fromStr <;> rfl

/-- For every request head, both ingresses derive the same tunnel id or both reject
the request if and only if it has a `Host` header or no authority that names a
host. -/
theorem same_tunnelId_iff (hostHeader : Option HeaderValue) (authority : Option String) :
    (httpTunnelId hostHeader authority).toOption =
        (http3TunnelId hostHeader authority).toOption ↔
      hostHeader ≠ none ∨ Unusable authority := by
  cases hostHeader with
  | some host =>
      rw [http3TunnelId_of_host, httpTunnelId]
      simp
  | none =>
      rw [http3TunnelId_of_authority, httpTunnelId]
      have rejected : (parseAndNormalizeHost none).toOption = none := rfl
      cases authority with
      | none => simp [Unusable, rejected]
      | some name => simp [Unusable, rejected, eq_comm]

/-- A request that names its host in the authority only is routed by the HTTP/3
ingress and rejected by the HTTP ingress. -/
theorem authority_ignored :
    (http3TunnelId none (some "app.example:443")).toOption = some "app.example" ∧
      httpTunnelId none (some "app.example:443") =
        .error "Missing or invalid Host header" := by
  constructor
  · decide
  · rfl

end FerroTunnel.Ingress
