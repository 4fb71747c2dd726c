import FerroTunnel.Ingress.HopByHop
import FerroTunnel.Ingress.Isolation

/-!
# What reaches an upstream

The hooks run before a request is prepared for its upstream, so what they add to
it is treated like what the sender wrote: none of the eight fixed hop-by-hop headers
is passed on but the one that asks a gRPC upstream for trailers, nothing that the
first `Connection` value names is passed on but `Host`, and the HTTP ingress passes on
no first declared length above its limit.  A WebSocket upgrade keeps its headers.  The HTTP/3
ingress sets the `Host` header to the host that the request was routed by; on the
HTTP ingress the hooks may have changed it.
-/

namespace FerroTunnel.Ingress

open FerroTunnel.Plugins
open FerroTunnel.Transition
open FerroTunnel.Tunnel
open FerroTunnel.Wire

variable {σ μ : Type}

/-- The sender asks the HTTP ingress for a WebSocket. -/
def Incoming.isWs (incoming : Incoming) : Bool :=
  incoming.ingress = .http && isWebsocketUpgrade incoming.request.headers

/-- The incoming request as the hooks may leave it, when they let it pass. -/
def Incoming.Hooked (setup : Setup σ) (incoming : Incoming) (request : HttpRequest) : Prop :=
  ∃ world later pending, admitRequest setup world incoming = (later, .ok pending) ∧
    pending.request = request

/-- The request carries nothing that the ingress must not pass on: no fixed hop-by-hop
header, nothing that the first `Connection` value lists, no first declared length above
the limit. -/
structure OpenedStream.Clean (setup : Setup σ) (incoming : Incoming) (stream : OpenedStream μ) :
    Prop where
  fixed : incoming.isWs = false → ∀ header ∈ stream.forward.headers,
    header.1 ∈ hopByHopHeaders → header = ("te", "trailers") ∧ stream.protocol = .grpc
  listed : incoming.isWs = false → ∃ hooked, incoming.Hooked setup hooked ∧
    ∀ header ∈ stream.forward.headers, headerName header.1 = some header.1 →
      hooked.headers.FirstConnectionLists header.1 →
        header.1 = "host" ∨ header = ("te", "trailers")
  length : incoming.ingress = .http → ∀ value length,
    (HeaderMap.getAll stream.forward.headers "content-length").head? = some value →
      HeaderValue.toStr value = some value →
        Text.parseUnsigned (2 ^ 64) value.toList = .ok length →
          length ≤ (setup.config .http).maxRequestBodySize
  host : incoming.ingress = .http3 →
    HeaderMap.getAll stream.forward.headers "host" = incoming.host.toList

/-! ## Prepared headers -/

theorem HeaderMap.mem_insert {headers : HeaderMap} {name : String} {value : HeaderValue}
    {header : String × HeaderValue} (member : header ∈ headers.insert name value) :
    header ∈ headers ∨ header = (name, value) := by
  rcases List.mem_append.mp member with kept | new
  · exact .inl (List.mem_of_mem_filter kept)
  · exact .inr (List.mem_singleton.mp new)

theorem HeaderMap.getAll_insert_self (headers : HeaderMap) (name : String) (value : HeaderValue) :
    HeaderMap.getAll (headers.insert name value) name = [value] := by
  simp [HeaderMap.getAll, HeaderMap.insert, HeaderMap.remove, List.filter_filter]

theorem HeaderMap.getAll_insert_ne {headers : HeaderMap} {name other : String}
    (value : HeaderValue) (differs : name ≠ other) :
    HeaderMap.getAll (headers.insert name value) other = headers.getAll other := by
  have kept : ∀ header : String × HeaderValue,
      (decide (header.1 = other) && decide (header.1 ≠ name)) = decide (header.1 = other) := by
    intro header
    by_cases same : header.1 = other
    · simp [same, differs.symm]
    · simp [same]
  simp only [HeaderMap.getAll, HeaderMap.insert, HeaderMap.remove, List.filter_append,
    List.filter_filter, kept]
  simp [differs]

theorem HeaderMap.get_eq_head? (headers : HeaderMap) (name : String) :
    headers.get name = (headers.getAll name).head? := by
  rw [HeaderMap.get, HeaderMap.getAll, List.head?_map, List.head?_filter]

/-- A header is stripped with all its values or not at all. -/
theorem getAll_stripHopByHopHeaders (headers : HeaderMap) (name : String) :
    HeaderMap.getAll (stripHopByHopHeaders headers) name = headers.getAll name ∨
      HeaderMap.getAll (stripHopByHopHeaders headers) name = [] := by
  rw [stripHopByHopHeaders_eq_filter, HeaderMap.getAll_filter headers
    (fun name => name ∉ hopByHopHeaders ∧ name ∉ connectionHeaders headers)]
  split
  · exact .inl rfl
  · exact .inr rfl

/-- A request that is not refused for its length declares no first length above the
limit, and neither does one with the same or no declared lengths. -/
theorem length_le_of_getAll {headers other : HeaderMap} {maxSize : Nat}
    (within : contentLengthExceeds headers maxSize = false)
    (same : HeaderMap.getAll other "content-length" = headers.getAll "content-length" ∨
      HeaderMap.getAll other "content-length" = []) {value : HeaderValue} {length : Nat}
    (first : (HeaderMap.getAll other "content-length").head? = some value)
    (text : HeaderValue.toStr value = some value)
    (parsed : Text.parseUnsigned (2 ^ 64) value.toList = .ok length) : length ≤ maxSize := by
  rcases same with kept | gone
  · rw [kept, ← HeaderMap.get_eq_head?] at first
    unfold contentLengthExceeds at within
    rw [first, Option.bind_some, text] at within
    simp only [parsed, decide_eq_false_iff_not, Nat.not_lt] at within
    exact within
  · rw [gone] at first
    cases first

/-! ## Forwarded requests -/

/-- Ask for trailers where the upstream speaks gRPC. -/
def withTrailers (isGrpc : Bool) (headers : HeaderMap) : HeaderMap :=
  if isGrpc then addGrpcTeTrailers headers else headers

theorem getAll_withTrailers (isGrpc : Bool) (headers : HeaderMap) {name : String}
    (differs : "te" ≠ name) :
    HeaderMap.getAll (withTrailers isGrpc headers) name = headers.getAll name := by
  cases isGrpc with
  | false => rfl
  | true => exact HeaderMap.getAll_insert_ne "trailers" differs

theorem headers_forwardRequest (parseUri : String → Except String Uri) (isWs isGrpc : Bool)
    (request : HttpRequest) :
    (forwardRequest parseUri isWs isGrpc request).headers =
      if isWs then request.headers
      else withTrailers isGrpc (stripHopByHopHeaders request.headers) := rfl

theorem headers_buildForwardRequest {parseUri : String → Except String Uri}
    {request forward : HttpRequest} {host : HeaderValue} {isGrpc : Bool}
    (built : buildForwardRequest parseUri request host isGrpc = .ok forward) :
    forward.headers =
      withTrailers isGrpc ((stripHopByHopHeaders request.headers).insert "host" host) := by
  unfold buildForwardRequest at built
  cases isGrpc with
  | true =>
      simp only [if_true] at built
      split at built
      · split at built
        · cases built
        · split at built
          · cases built
          · cases built
            rfl
      · cases built
        rfl
  | false =>
      simp only [Bool.false_eq_true, if_false] at built
      split at built <;>
      · cases built
        rfl

namespace Pending

variable {setup : Setup σ} {pending : Pending} {forward : HttpRequest}

/-- The headers of a forwarded request are stripped ones, and those that the ingress
adds itself. -/
theorem Forwards.stripped (forwards : pending.Forwards setup forward)
    (plain : pending.isWs = false) :
    ∃ base : HeaderMap, (∀ header ∈ base,
        header ∈ stripHopByHopHeaders pending.request.headers ∨ header.1 = "host") ∧
      forward.headers = withTrailers (isGrpc pending.request.headers) base := by
  unfold Forwards at forwards
  cases side : pending.ingress with
  | http =>
      simp only [side] at forwards
      obtain ⟨-, rfl⟩ := forwards
      refine ⟨stripHopByHopHeaders pending.request.headers, fun _ => .inl, ?_⟩
      rw [headers_forwardRequest, plain]
      rfl
  | http3 =>
      simp only [side] at forwards
      refine ⟨_, fun header member => ?_, headers_buildForwardRequest forwards⟩
      rcases HeaderMap.mem_insert member with old | rfl
      · exact .inl old
      · exact .inr rfl

variable {header : String × HeaderValue} (forwards : pending.Forwards setup forward)

include forwards

/-- Every header of a forwarded request was kept by stripping, is the host, or asks a
gRPC upstream for trailers. -/
theorem Forwards.header_cases (plain : pending.isWs = false) (member : header ∈ forward.headers) :
    header ∈ stripHopByHopHeaders pending.request.headers ∨ header.1 = "host" ∨
      header = ("te", "trailers") ∧ pending.protocol = .grpc := by
  obtain ⟨base, stripped, headersEq⟩ := forwards.stripped plain
  rw [headersEq] at member
  have based (inBase : header ∈ base) :
      header ∈ stripHopByHopHeaders pending.request.headers ∨ header.1 = "host" ∨
        header = ("te", "trailers") ∧ pending.protocol = .grpc :=
    (stripped header inBase).imp id .inl
  cases grpc : isGrpc pending.request.headers with
  | false =>
      rw [grpc] at member
      exact based member
  | true =>
      rw [grpc] at member
      rcases HeaderMap.mem_insert member with old | new
      · exact based old
      · exact .inr (.inr ⟨new, by simp [protocol, plain, grpc]⟩)

theorem Forwards.fixed (plain : pending.isWs = false) (member : header ∈ forward.headers)
    (hopByHop : header.1 ∈ hopByHopHeaders) :
    header = ("te", "trailers") ∧ pending.protocol = .grpc := by
  rcases forwards.header_cases plain member with kept | host | trailers
  · exact absurd hopByHop (mem_stripHopByHopHeaders_iff.mp kept).2.1
  · rw [host] at hopByHop
    exact absurd hopByHop (by decide)
  · exact trailers

theorem Forwards.listed (plain : pending.isWs = false) (member : header ∈ forward.headers)
    (valid : headerName header.1 = some header.1)
    (lists : pending.request.headers.FirstConnectionLists header.1) :
    header.1 = "host" ∨ header = ("te", "trailers") := by
  rcases forwards.header_cases plain member with kept | host | trailers
  · left
    by_contra notHost
    obtain ⟨value, got, readable, listed⟩ := lists
    exact (mem_stripHopByHopHeaders_iff.mp kept).2.2 (mem_connectionHeaders_iff.mpr
      ⟨value, got, readable, mem_namedHeaders_of_lists valid listed notHost⟩)
  · exact .inl host
  · exact .inr trailers.1

theorem Forwards.length (side : pending.ingress = .http) {value : HeaderValue} {length : Nat}
    (first : (HeaderMap.getAll forward.headers "content-length").head? = some value)
    (text : HeaderValue.toStr value = some value)
    (parsed : Text.parseUnsigned (2 ^ 64) value.toList = .ok length) :
    length ≤ (setup.config .http).maxRequestBodySize := by
  simp only [Forwards, side] at forwards
  obtain ⟨within, rfl⟩ := forwards
  refine length_le_of_getAll within ?_ first text parsed
  rw [headers_forwardRequest]
  split
  · exact .inl rfl
  · rw [getAll_withTrailers _ _ (by decide)]
    exact getAll_stripHopByHopHeaders _ _

theorem Forwards.host (side : pending.ingress = .http3) :
    HeaderMap.getAll forward.headers "host" = [pending.host] := by
  simp only [Forwards, side] at forwards
  rw [headers_buildForwardRequest forwards, getAll_withTrailers _ _ (by decide)]
  exact HeaderMap.getAll_insert_self _ _ _

end Pending

/-- A request with a tunnel id has a host. -/
theorem Incoming.host_toList {incoming : Incoming} {tunnelId : String}
    (named : incoming.tunnelId = .ok tunnelId) :
    incoming.host.toList = [incoming.host.getD ""] := by
  unfold Incoming.tunnelId at named
  cases hostEq : incoming.host with
  | none =>
      rw [hostEq] at named
      cases named
  | some host => rfl

theorem OpenedStream.Serves.clean {setup : Setup σ} {roles : List (Role μ)} {incoming : Incoming}
    {stream : OpenedStream μ} (serves : stream.Serves setup roles incoming) :
    stream.Clean setup incoming := by
  obtain ⟨pending, admits, forwards, protocolEq, -⟩ := serves
  constructor
  · intro plain header member hopByHop
    rw [protocolEq]
    exact forwards.fixed (admits.isWs.trans plain) member hopByHop
  · intro plain
    obtain ⟨world, later, admitted⟩ := admits.admitted
    refine ⟨pending.request, ⟨world, later, pending, admitted, rfl⟩, ?_⟩
    intro header member valid lists
    exact forwards.listed (admits.isWs.trans plain) member valid lists
  · intro side value length first text parsed
    exact forwards.length (admits.ingress.trans side) first text parsed
  · intro side
    rw [forwards.host (admits.ingress.trans side), admits.host,
      Incoming.host_toList admits.tunnelId]

end FerroTunnel.Ingress
