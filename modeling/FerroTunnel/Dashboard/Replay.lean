import FerroTunnel.Dashboard.Credentials
import FerroTunnel.Ingress.HopByHop
import FerroTunnel.Transition.Core
import Mathlib.Data.Finmap

/-!
# Capturing and replaying requests

The client records every request that its local service answered, and the dashboard can
send a recorded request to the local service again.  A record keeps one text for each
header name and a text for the body, so it loses repeated headers, values and bodies that
are not texts, and large bodies.
-/

namespace FerroTunnel.Dashboard

open FerroTunnel.Ingress
open FerroTunnel.Transition
open FerroTunnel.Tunnel
open FerroTunnel.Wire

/-! ## Records -/

/-- A tunnel as the dashboard lists it. -/
structure DashboardTunnelInfo where
  id : Uuid
  localAddr : String

/-- What is recorded of an exchange.  Header maps have one entry for each name. -/
structure RequestDetails where
  id : Uuid
  tunnelId : Uuid
  method : String
  path : String
  requestHeaders : List (String × String)
  requestBody : Option String
  status : UInt16
  responseHeaders : List (String × String)
  responseBody : Option String

/-- The state that the handlers share. -/
structure DashboardState where
  tunnels : Finmap fun _ : Uuid => DashboardTunnelInfo
  requests : List RequestDetails
  maxRequests : Nat

namespace DashboardState

/-- A dashboard without tunnels. -/
def new (maxRequests : Nat) : DashboardState :=
  ⟨∅, [], maxRequests⟩

/-- Add a record, and remove the oldest one when there are enough. -/
def addRequest (state : DashboardState) (request : RequestDetails) : DashboardState :=
  let kept := if state.requests.length ≥ state.maxRequests then state.requests.tail
    else state.requests
  { state with requests := kept ++ [request] }

/-- The tunnel is listed. -/
def addTunnel (state : DashboardState) (tunnel : DashboardTunnelInfo) : DashboardState :=
  { state with tunnels := state.tunnels.insert tunnel.id tunnel }

/-- The tunnel is no longer listed. -/
def removeTunnel (state : DashboardState) (id : Uuid) : DashboardState :=
  { state with tunnels := state.tunnels.erase id }

end DashboardState

/-! ## Capture -/

/-- A request as it reaches the capture; `uri` is its path and query, if it has them. -/
structure CapturedRequest where
  method : String
  uri : Option String
  headers : HeaderMap
  body : Bytes
  methodNonempty : method.toList ≠ []
  methodChars : method.toList.all isNameChar = true

/-- The path as it is captured. -/
def CapturedRequest.path (request : CapturedRequest) : String :=
  request.uri.getD ""

/-- A response of the local service; its body may fail. -/
structure LocalResponse where
  status : UInt16
  headers : HeaderMap
  body : Except String Bytes

/-- The text of each header name: the last value that is one. -/
def captureHeaders (headers : HeaderMap) : List (String × String) :=
  headers.foldl
    (fun captured header =>
      match HeaderValue.toStr header.2 with
      | some text => HeaderMap.insert captured header.1 text
      | none => captured)
    []

/-- The text of bytes that are valid UTF-8. -/
def fromUtf8 (bytes : Bytes) : Option String :=
  String.fromUTF8? ⟨bytes.toArray⟩

/-- A body as it is captured. -/
def captureBody (bytes : Bytes) : Option String :=
  if bytes.length < 1024 * 1024 then
    fromUtf8 bytes
  else
    some "<Body too large>"

/-- The record of an exchange whose response body arrived. -/
def requestDetails (id tunnelId : Uuid) (request : CapturedRequest) (response : LocalResponse)
    (responseBytes : Bytes) : RequestDetails where
  id := id
  tunnelId := tunnelId
  method := request.method
  path := request.path
  requestHeaders := captureHeaders request.headers
  requestBody := captureBody request.body
  status := response.status
  responseHeaders := captureHeaders response.headers
  responseBody := captureBody responseBytes

/-- The effect of a call on the dashboard, given what the local service answers if the call
reaches it. -/
def captureCall (state : DashboardState) (id tunnelId : Uuid) (request : CapturedRequest) :
    Option LocalResponse → DashboardState
  | none => state
  | some response =>
      match response.body with
      | .error _ => state
      | .ok responseBytes =>
          state.addRequest (requestDetails id tunnelId request response responseBytes)

/-! ## Replay -/

/-- The client that replays are sent with: which path and query it requests for a URL, or
why it cannot, and with which headers it sends those of a request. -/
structure ReplayClient where
  target : String → Except String String
  sentHeaders : HeaderMap → HeaderMap
  /-- The value that a request without the header is sent with. -/
  defaultHeader : String → Option HeaderValue
  readable : ∀ {name value}, defaultHeader name = some value →
    (HeaderValue.toStr value).isSome = true
  /-- A header of the client is added where the request has none, and nothing else changes. -/
  getAll_sentHeaders : ∀ headers name, HeaderMap.getAll (sentHeaders headers) name =
    if HeaderMap.getAll headers name = [] then (defaultHeader name).toList
    else HeaderMap.getAll headers name

/-- The order in which a header map yields its entries. -/
structure HeaderOrder where
  entries : List (String × String) → List (String × String)
  entries_perm : ∀ headers, (entries headers).Perm headers

/-- A request as it is sent, apart from `Host` and `Content-Length`. -/
structure SentRequest where
  method : String
  path : String
  headers : HeaderMap
  body : Bytes

/-- What a replay comes to. -/
inductive ReplayOutcome
  | refused (status : UInt16) (code message : String)
  | sent (url : String) (request : SentRequest)

/-- A method is a token. -/
def methodFromStr (text : String) : Option String :=
  if text.toList ≠ [] ∧ text.toList.all isNameChar = true then some text else none

/-- A header that is not replayed. -/
def isSkipped (name : String) : Bool :=
  name.toList.map Char.toLower = "host".toList ||
    name.toList.map Char.toLower = "content-length".toList

/-- Replay a record. -/
def replayRequest (client : ReplayClient) (order : HeaderOrder) (details : RequestDetails)
    (tunnel : Option DashboardTunnelInfo) : ReplayOutcome :=
  match tunnel with
  | none => .refused 422 "TUNNEL_INACTIVE" "The tunnel for this request is no longer active"
  | some tunnel =>
      let url := s!"http://{tunnel.localAddr}{details.path}"
      match methodFromStr details.method with
      | none => .refused 400 "INVALID_METHOD" "Invalid HTTP method"
      | some method =>
          match client.target url with
          | .error error => .refused 502 "REPLAY_FAILED" s!"Failed to replay request: {error}"
          | .ok path =>
              .sent url {
                method := method
                path := path
                headers := client.sentHeaders
                  ((order.entries details.requestHeaders).filter fun header => !isSkipped header.1)
                body := (details.requestBody.map asBytes).getD [] }

/-- Replay the record of an id, which may fail to parse. -/
def replayRequestHandler (client : ReplayClient) (order : HeaderOrder) (state : DashboardState)
    (id : Except String Uuid) : ReplayOutcome :=
  match id with
  | .error message => .refused 400 "BAD_REQUEST" s!"Invalid ID format: {message}"
  | .ok id =>
      match state.requests.find? fun details => details.id = id with
      | none => .refused 404 "NOT_FOUND" s!"Request {uuidToString id} not found"
      | some details =>
          replayRequest client order details (state.tunnels.lookup details.tunnelId)

/-! ## The dashboard -/

/-- What happens to the dashboard. -/
inductive DashboardAction
  | capture (id tunnelId : Uuid) (request : CapturedRequest) (answer : Option LocalResponse)
  | addTunnel (tunnel : DashboardTunnelInfo)
  | removeTunnel (id : Uuid)

/-- One call on the dashboard. -/
def step : Step DashboardState DashboardAction
  | state, .capture id tunnelId request answer =>
      some (captureCall state id tunnelId request answer)
  | state, .addTunnel tunnel => some (state.addTunnel tunnel)
  | state, .removeTunnel id => some (state.removeTunnel id)

/-- The id drawn for a request is not that of a retained record. -/
def FreshId (state : DashboardState) : DashboardAction → Prop
  | .capture id _ _ _ => ∀ details ∈ state.requests, details.id ≠ id
  | _ => True

/-! ## What a record keeps -/

/-- The two requests agree on all but `Host` and `Content-Length`. -/
def SameRequest (request : CapturedRequest) (sent : SentRequest) : Prop :=
  sent.method = request.method ∧ sent.path = request.path ∧ sent.body = request.body ∧
    ∀ name, isSkipped name = false →
      HeaderMap.getAll sent.headers name = HeaderMap.getAll request.headers name

/-- The replay is refused, or sends the request again. -/
def Reproduces (request : CapturedRequest) : ReplayOutcome → Prop
  | .refused _ _ _ => True
  | .sent _ sent => SameRequest request sent

/-- The body is a text below the limit. -/
def BodyKept (request : CapturedRequest) : Prop :=
  request.body.length < 1024 * 1024 ∧ (fromUtf8 request.body).isSome = true

/-- The header has one value and that is a text, or neither the request nor the client has
it. -/
def HeaderKept (client : ReplayClient) (request : CapturedRequest) (name : String) : Prop :=
  (∃ value, HeaderMap.getAll request.headers name = [value] ∧
      (HeaderValue.toStr value).isSome = true) ∨
    (HeaderMap.getAll request.headers name = [] ∧ client.defaultHeader name = none)

theorem getAll_append (first second : HeaderMap) (name : String) :
    HeaderMap.getAll (first ++ second) name =
      HeaderMap.getAll first name ++ HeaderMap.getAll second name := by
  rw [HeaderMap.getAll, List.filter_append, List.map_append]
  rfl

theorem getAll_singleton (header : String × HeaderValue) (name : String) :
    HeaderMap.getAll [header] name = if header.1 = name then [header.2] else [] := by
  rw [HeaderMap.getAll, List.filter_singleton]
  by_cases same : header.1 = name
  · simp [same]
  · simp [same]

theorem getAll_insert (headers : HeaderMap) (inserted : String) (value : HeaderValue)
    (name : String) :
    HeaderMap.getAll (headers.insert inserted value) name =
      if inserted = name then [value] else headers.getAll name := by
  have removed : HeaderMap.getAll (headers.remove inserted) name =
      if inserted = name then [] else headers.getAll name := by
    rw [HeaderMap.remove, HeaderMap.getAll_filter headers fun other => other ≠ inserted]
    by_cases same : inserted = name
    · simp [same]
    · simp [same, Ne.symm same]
  rw [HeaderMap.insert, getAll_append, removed, getAll_singleton]
  split <;> simp

/-- A record keeps the last text of each header. -/
theorem getAll_captureHeaders (headers : HeaderMap) (name : String) :
    HeaderMap.getAll (captureHeaders headers) name =
      ((headers.getAll name).filterMap HeaderValue.toStr).getLast?.toList := by
  induction headers using List.reverseRecOn with
  | nil => rfl
  | append_singleton headers header ih =>
      have stepped : captureHeaders (headers ++ [header]) =
          match HeaderValue.toStr header.2 with
          | some text => HeaderMap.insert (captureHeaders headers) header.1 text
          | none => captureHeaders headers := by
        rw [captureHeaders, List.foldl_append]
        rfl
      rw [stepped, getAll_append, getAll_singleton, List.filterMap_append]
      by_cases same : header.1 = name
      · cases text : HeaderValue.toStr header.2 with
        | none => simp [same, text, ih]
        | some text' => simp [same, text, getAll_insert]
      · cases text : HeaderValue.toStr header.2 with
        | none => simp [same, ih]
        | some text' => simp [same, getAll_insert, ih]

/-- The order in which a map yields its entries does not matter. -/
theorem getAll_of_perm {entries captured : HeaderMap} (order : entries.Perm captured)
    {name : String} (single : (captured.getAll name).length ≤ 1) :
    entries.getAll name = captured.getAll name := by
  have perm : (entries.getAll name).Perm (captured.getAll name) := (order.filter _).map _
  match values : captured.getAll name, single with
  | [], _ =>
      rw [values] at perm
      exact List.perm_nil.mp perm
  | [value], _ =>
      rw [values] at perm
      exact List.perm_singleton.mp perm

/-! ## What a replay reproduces -/

theorem toStr_eq_some {value text : String} (readable : HeaderValue.toStr value = some text) :
    text = value := by
  rw [HeaderValue.toStr] at readable
  split at readable
  · exact (Option.some.inj readable).symm
  · cases readable

/-- The headers of a replay, for each name that is not skipped. -/
theorem getAll_replayed (client : ReplayClient) (request : CapturedRequest)
    {entries : HeaderMap} (order : entries.Perm (captureHeaders request.headers)) {name : String}
    (kept : isSkipped name = false) :
    HeaderMap.getAll (client.sentHeaders (entries.filter fun header => !isSkipped header.1))
        name =
      if (HeaderMap.getAll request.headers name).filterMap HeaderValue.toStr = [] then
        (client.defaultHeader name).toList
      else
        ((HeaderMap.getAll request.headers name).filterMap HeaderValue.toStr).getLast?.toList := by
  have single : (HeaderMap.getAll (captureHeaders request.headers) name).length ≤ 1 := by
    rw [getAll_captureHeaders]
    cases ((HeaderMap.getAll request.headers name).filterMap HeaderValue.toStr).getLast? <;> simp
  rw [client.getAll_sentHeaders, HeaderMap.getAll_filter entries (fun name => !isSkipped name),
    kept, getAll_of_perm order single, getAll_captureHeaders]
  simp

/-- The values of a header are replayed exactly when the record and the client keep them. -/
theorem getAll_replayed_eq_iff (client : ReplayClient) (request : CapturedRequest)
    {entries : HeaderMap} (order : entries.Perm (captureHeaders request.headers)) {name : String}
    (kept : isSkipped name = false) :
    HeaderMap.getAll (client.sentHeaders (entries.filter fun header => !isSkipped header.1))
        name = HeaderMap.getAll request.headers name ↔ HeaderKept client request name := by
  rw [getAll_replayed client request order kept, HeaderKept]
  match HeaderMap.getAll request.headers name with
  | [] => simp
  | [value] =>
      cases text : HeaderValue.toStr value with
      | some text' =>
          cases toStr_eq_some text
          simp [text]
      | none =>
          apply iff_of_false
          · intro replayed
            rw [if_pos (by simp [text])] at replayed
            have readable := client.readable (Option.toList_eq_singleton_iff.mp replayed)
            rw [text] at readable
            cases readable
          · simp [text]
  | first :: second :: rest =>
      apply iff_of_false
      · intro replayed
        have length := congrArg List.length replayed
        split at length
        · cases defaultEq : client.defaultHeader name <;> simp [defaultEq] at length
        · next some =>
          rw [List.getLast?_eq_some_getLast some, Option.toList_some] at length
          simp at length
      · simp

/-- A text is made of its own bytes only. -/
theorem asBytes_of_fromUtf8 {bytes : Bytes} {text : String} (valid : fromUtf8 bytes = some text) :
    asBytes text = bytes := by
  rw [fromUtf8, String.fromUTF8?] at valid
  split at valid
  · cases valid
    exact List.toList_toArray
  · cases valid

/-- The body is replayed exactly when it is a text below the limit. -/
theorem captureBody_eq_iff (request : CapturedRequest) :
    ((captureBody request.body).map asBytes).getD [] = request.body ↔ BodyKept request := by
  rw [captureBody, BodyKept]
  by_cases small : request.body.length < 1024 * 1024
  · rw [if_pos small]
    cases valid : fromUtf8 request.body with
    | some text => simp [small, asBytes_of_fromUtf8 valid]
    | none =>
        apply iff_of_false
        · intro empty
          rw [← empty] at valid
          cases (fromUTF8?_asBytes "").symm.trans valid
        · simp
  · rw [if_neg small]
    apply iff_of_false
    · intro placeholder
      have length := congrArg List.length placeholder
      change 16 = request.body.length at length
      omega
    · exact fun kept => small kept.1

/-- A replay reproduces the request unless the client changes its path or the record or the
client its headers or its body. -/
theorem reproduces_replayRequest_iff (client : ReplayClient) (order : HeaderOrder)
    (request : CapturedRequest) (response : LocalResponse) (responseBytes : Bytes)
    (id tunnelId : Uuid) (tunnel : DashboardTunnelInfo) :
    Reproduces request (replayRequest client order
        (requestDetails id tunnelId request response responseBytes) (some tunnel)) ↔
      ∀ path, client.target s!"http://{tunnel.localAddr}{request.path}" = .ok path →
        path = request.path ∧ BodyKept request ∧
          ∀ name, isSkipped name = false → HeaderKept client request name := by
  have method : methodFromStr request.method = some request.method :=
    if_pos ⟨request.methodNonempty, request.methodChars⟩
  simp only [replayRequest, requestDetails, method]
  cases client.target s!"http://{tunnel.localAddr}{request.path}" with
  | error error =>
      apply iff_of_true trivial
      intro path sent
      cases sent
  | ok path =>
      simp only [Except.ok.injEq, forall_eq']
      rw [Reproduces, SameRequest, captureBody_eq_iff]
      simp only [true_and]
      apply and_congr_right
      intro _
      apply and_congr_right
      intro _
      apply forall_congr'
      intro name
      apply imp_congr_right
      exact getAll_replayed_eq_iff client request (order.entries_perm _)

/-! ## Runs of the dashboard -/

/-- Every record has an id of its own. -/
def DistinctIds (state : DashboardState) : Prop :=
  (state.requests.map RequestDetails.id).Nodup

theorem distinctIds_addRequest {state : DashboardState} (distinct : DistinctIds state)
    {details : RequestDetails} (fresh : ∀ other ∈ state.requests, other.id ≠ details.id) :
    DistinctIds (state.addRequest details) := by
  have sublist : (if state.requests.length ≥ state.maxRequests then state.requests.tail
      else state.requests).Sublist state.requests := by
    split
    · exact List.tail_sublist _
    · exact List.Sublist.refl _
  have distinctKept := distinct.sublist (sublist.map RequestDetails.id)
  simp only [DistinctIds, DashboardState.addRequest, List.map_append, List.map_singleton]
  apply distinctKept.append (List.nodup_singleton _)
  rw [List.disjoint_singleton, List.mem_map]
  rintro ⟨other, member, same⟩
  exact fresh other (sublist.subset member) same

theorem distinctIds_step {state next : DashboardState} {action : DashboardAction}
    (distinct : DistinctIds state) (fresh : FreshId state action)
    (stepEq : step state action = some next) : DistinctIds next := by
  cases action with
  | addTunnel tunnel | removeTunnel id =>
      cases stepEq
      exact distinct
  | capture id tunnelId request answer =>
      cases stepEq
      cases answer with
      | none => exact distinct
      | some response =>
          simp only [captureCall]
          split
          · exact distinct
          · exact distinctIds_addRequest distinct fresh

/-- A record is found by its id. -/
theorem find?_of_distinctIds {state : DashboardState} (distinct : DistinctIds state)
    {details : RequestDetails} (member : details ∈ state.requests) :
    state.requests.find? (fun other => other.id = details.id) = some details := by
  cases found : state.requests.find? fun other => other.id = details.id with
  | none => exact absurd (decide_eq_true rfl) (List.find?_eq_none.mp found details member)
  | some other =>
      have same := List.find?_some found
      rw [decide_eq_true_iff] at same
      rw [List.inj_on_of_nodup_map distinct (List.mem_of_find?_eq_some found) member same]

/-- Over all runs of the dashboard, the replay of a retained request through a registered
tunnel reproduces it exactly when the client keeps its path, the body is a text below the
limit, and every header has one value, which is a text, or is neither in the request nor
added by the client. -/
theorem replay_reproduces_iff (client : ReplayClient) (order : HeaderOrder) (maxRequests : Nat)
    (actions : List DashboardAction) (final : DashboardState) (request : CapturedRequest)
    (response : LocalResponse) (responseBytes : Bytes) (id tunnelId : Uuid)
    (tunnel : DashboardTunnelInfo)
    (fresh : Meets step FreshId (.new maxRequests) actions)
    (run : exec step (.new maxRequests) actions = some final)
    (retained : requestDetails id tunnelId request response responseBytes ∈ final.requests)
    (registered : final.tunnels.lookup tunnelId = some tunnel) :
    Reproduces request (replayRequestHandler client order final (.ok id)) ↔
      ∀ path, client.target s!"http://{tunnel.localAddr}{request.path}" = .ok path →
        path = request.path ∧ BodyKept request ∧
          ∀ name, isSkipped name = false → HeaderKept client request name := by
  have initial : DistinctIds (.new maxRequests) := List.nodup_nil
  have distinct := exec_invariant_of_meets distinctIds_step initial fresh run
  have found : final.requests.find? (fun details => details.id = id) =
      some (requestDetails id tunnelId request response responseBytes) :=
    find?_of_distinctIds distinct retained
  rw [← reproduces_replayRequest_iff client order request response responseBytes id tunnelId tunnel]
  have handled : replayRequestHandler client order final (.ok id) =
      replayRequest client order (requestDetails id tunnelId request response responseBytes)
        (some tunnel) := by
    rw [← registered]
    simp only [replayRequestHandler, found]
    rfl
  rw [handled]

/-- A client that requests the root and accepts anything. -/
def rootClient : ReplayClient where
  target _ := .ok "/"
  sentHeaders headers :=
    if headers.getAll "accept" = [] then headers ++ [("accept", "*/*")] else headers
  defaultHeader name := if "accept" = name then some "*/*" else none
  readable := by
    intro name value given
    split at given <;> cases given
    decide
  getAll_sentHeaders := by
    intro headers name
    by_cases accept : "accept" = name
    · subst accept
      by_cases absent : headers.getAll "accept" = [] <;>
        simp [absent, getAll_append, getAll_singleton]
    · have kept (sent : HeaderMap) : HeaderMap.getAll (sent ++ [("accept", "*/*")]) name =
          sent.getAll name := by
        rw [getAll_append, getAll_singleton, if_neg accept, List.append_nil]
      split <;> simp_all

/-- The entries in the order in which they were captured. -/
def captureOrder : HeaderOrder :=
  ⟨id, List.Perm.refl⟩

/-- A request for the root with these headers and this body. -/
def rootRequest (headers : HeaderMap) (body : Bytes) : CapturedRequest where
  method := "GET"
  uri := some "/"
  headers := headers
  body := body
  methodNonempty := by decide
  methodChars := by decide

/-- A tunnel to a local service. -/
def localTunnel : DashboardTunnelInfo :=
  ⟨7, "127.0.0.1:8000"⟩

/-- The dashboard after one request. -/
def recordedState (request : CapturedRequest) : DashboardState :=
  ((DashboardState.new 10).addTunnel localTunnel).addRequest
    (requestDetails 1 7 request ⟨200, [], .ok []⟩ [])

theorem exec_recordedState (request : CapturedRequest) :
    exec step (.new 10) [.addTunnel localTunnel, .capture 1 7 request (some ⟨200, [], .ok []⟩)] =
      some (recordedState request) :=
  rfl

theorem freshId_recordedState (request : CapturedRequest) :
    Meets step FreshId (.new 10)
      [.addTunnel localTunnel, .capture 1 7 request (some ⟨200, [], .ok []⟩)] := by
  constructor
  · trivial
  · rintro next ⟨⟩
    exact ⟨List.forall_mem_nil _, fun _ _ => trivial⟩

theorem lookup_recordedState (request : CapturedRequest) :
    (recordedState request).tunnels.lookup 7 = some localTunnel :=
  Finmap.lookup_insert _

theorem headerKept_plain {name : String} (kept : isSkipped name = false) :
    HeaderKept rootClient
      (rootRequest [("host", "a.example"), ("accept", "*/*")] [104, 105]) name := by
  have notHost : "host" ≠ name := by
    rintro rfl
    exact absurd kept (by decide)
  by_cases accept : "accept" = name
  · subst accept
    exact .inl ⟨"*/*", by decide, by decide⟩
  · right
    simp [rootRequest, rootClient, HeaderMap.getAll, notHost, accept]

/-- A plain request is reproduced. -/
theorem replay_reproduces_plain :
    Reproduces (rootRequest [("host", "a.example"), ("accept", "*/*")] [104, 105])
      (replayRequestHandler rootClient captureOrder
        (recordedState (rootRequest [("host", "a.example"), ("accept", "*/*")] [104, 105]))
        (.ok 1)) :=
  (replay_reproduces_iff rootClient captureOrder 10 _ _
    (rootRequest [("host", "a.example"), ("accept", "*/*")] [104, 105]) ⟨200, [], .ok []⟩ [] 1 7
    localTunnel (freshId_recordedState _) (exec_recordedState _) (List.mem_singleton_self _)
    (lookup_recordedState _)).mpr
      fun _ target => ⟨(Except.ok.inj target).symm,
        ⟨by decide, congrArg Option.isSome (fromUTF8?_asBytes "hi")⟩,
        fun _ kept => headerKept_plain kept⟩

/-- Of a repeated header only the last value is replayed. -/
theorem replay_repeated_header :
    ¬ Reproduces (rootRequest [("accept", "*/*"), ("x-tag", "a"), ("x-tag", "b")] [])
      (replayRequestHandler rootClient captureOrder
        (recordedState (rootRequest [("accept", "*/*"), ("x-tag", "a"), ("x-tag", "b")] []))
        (.ok 1)) := by
  rintro ⟨-, -, -, headers⟩
  exact absurd (headers "x-tag" (by decide)) (by decide)

end FerroTunnel.Dashboard
