import FerroTunnel.Channel.Outlet
import FerroTunnel.Ingress.ResponseHooks

/-!
# Responses on an HTTP/3 stream

The HTTP/3 ingress writes the response of an upstream itself, part by part: the head,
the data and the trailers of the body as they arrive, and the end of the stream.  The
connection may be lost before any part.

A body that the upstream does not go on with is given up after a timeout, and then
the stream is ended all the same.  The client cannot tell such a response from a
complete one.  Where the upstream fails `finish` is never called.
-/

namespace FerroTunnel.Ingress

open FerroTunnel.Channel
open FerroTunnel.Plugins
open FerroTunnel.Wire

/-- What is sent on the stream of a request. -/
inductive H3Part
  | response (status : UInt16) (headers : HeaderMap)
  | data (bytes : Bytes)
  | trailers (fields : HeaderMap)
  | finish
deriving DecidableEq

/-- Pass the frames of a body on as they arrive. -/
def streamBody : List BodyEvent → Sending H3Part Unit
  | [] => send .finish "Failed to finish HTTP/3 response"
  | .data bytes :: rest => do
      send (.data bytes) "Failed to send HTTP/3 response data"
      streamBody rest
  | .trailers fields :: rest => do
      send (.trailers fields) "Failed to send HTTP/3 response trailers"
      streamBody rest
  | .error message :: _ => throw ("Failed to read upstream response body: " ++ message)
  | .stalled :: _ => do
      try send .finish "Failed to finish HTTP/3 response" catch _ => pure ()
      throw "upstream body inactivity timeout"

/-- Answer with the head of a response and then its body. -/
def sendStreamingResponse (upstream : UpstreamResponse) : Sending H3Part Unit := do
  send (.response upstream.status (stripHopByHopHeaders upstream.headers))
    "Failed to send HTTP/3 response headers"
  streamBody upstream.events

/-! ## What is sent -/

/-- The part of the stream that an event of the body becomes. -/
def BodyEvent.part : BodyEvent → Option H3Part
  | .data bytes => some (.data bytes)
  | .trailers fields => some (.trailers fields)
  | _ => none

/-- What is sent for a body, and whether the ingress gives it up in the end. -/
def bodyParts : List BodyEvent → List H3Part × Bool
  | [] => ([.finish], false)
  | .data bytes :: rest => (.data bytes :: (bodyParts rest).1, (bodyParts rest).2)
  | .trailers fields :: rest => (.trailers fields :: (bodyParts rest).1, (bodyParts rest).2)
  | .error _ :: _ => ([], true)
  | .stalled :: _ => ([.finish], true)

theorem sends_streamBody (events : List BodyEvent) :
    Sends (streamBody events) (bodyParts events).1 (bodyParts events).2 := by
  induction events with
  | nil => exact sends_send _ _
  | cons event rest ih =>
      cases event with
      | data bytes | trailers fields => exact (sends_send _ _).bind ih
      | error message => exact sends_throw _
      | stalled => exact (sends_send _ _).giveUp _

theorem sends_sendStreamingResponse (upstream : UpstreamResponse) :
    Sends (sendStreamingResponse upstream)
      ([.response upstream.status (stripHopByHopHeaders upstream.headers)] ++
        (bodyParts upstream.events).1) (bodyParts upstream.events).2 :=
  (sends_send _ _).bind (sends_streamBody upstream.events)

/-- The parts of the frames come first, then those of what follows. -/
theorem bodyParts_append {frames : List BodyEvent} (arrived : frames.all BodyEvent.isFrame = true)
    (rest : List BodyEvent) :
    bodyParts (frames ++ rest) =
      (frames.filterMap BodyEvent.part ++ (bodyParts rest).1, (bodyParts rest).2) := by
  induction frames with
  | nil => rfl
  | cons event frames ih =>
      rw [List.all_cons, Bool.and_eq_true] at arrived
      have parts := ih arrived.2
      cases event with
      | data bytes | trailers fields => simp [bodyParts, parts, BodyEvent.part]
      | error message | stalled => cases arrived.1

theorem finish_not_mem_parts (events : List BodyEvent) :
    H3Part.finish ∉ events.filterMap BodyEvent.part := by
  intro member
  obtain ⟨event, -, partEq⟩ := List.mem_filterMap.mp member
  cases event <;> cases partEq

/-- A body that stalls is sent like one that ends there, whatever the connection does: the head,
the frames that arrived, and the end of the stream, or a prefix of this.  The handling of the
request fails all the same.  When the upstream fails `finish` is never called. -/
theorem stalled_response_looks_complete (status : UInt16) (headers : HeaderMap)
    (frames rest : List BodyEvent) (message : String) (outlet : Outlet H3Part)
    (arrived : frames.all BodyEvent.isFrame = true) :
    let sending (events : List BodyEvent) := sendStreamingResponse ⟨status, headers, events⟩
    let stalled := sending (frames ++ .stalled :: rest)
    let failed := sending (frames ++ .error message :: rest)
    left stalled outlet = left (sending frames) outlet ∧
    isDone stalled outlet = false ∧
    (left stalled outlet).sent <+: outlet.sent ++
      .response status (stripHopByHopHeaders headers) :: frames.filterMap BodyEvent.part ++
        [.finish] ∧
    (.finish ∈ (left failed outlet).sent ↔ .finish ∈ outlet.sent) := by
  intro sending stalled failed
  have parts (rest : List BodyEvent) := bodyParts_append arrived rest
  have sends (events : List BodyEvent) := sends_sendStreamingResponse ⟨status, headers, events⟩
  have partsEq : bodyParts frames = (frames.filterMap BodyEvent.part ++ [.finish], false) := by
    have complete := parts []
    rwa [List.append_nil] at complete
  refine ⟨?_, ?_, ?_, ?_⟩
  · rw [(sends _).leaves, (sends _).leaves]
    simp only [parts, partsEq, bodyParts]
  · rw [Bool.eq_false_iff]
    intro done
    have kept := ((sends _).succeeds outlet).mp done
    simp only [parts, bodyParts] at kept
    cases kept.2
  · rw [(sends _).leaves]
    simp only [parts, bodyParts]
    simpa using outlet.sent_after_prefix _
  · rw [(sends _).leaves]
    simp only [parts, bodyParts, List.append_nil]
    apply Outlet.mem_sent_after_iff
    intro member
    rcases List.mem_append.mp member with head | body
    · cases List.mem_singleton.mp head
    · exact finish_not_mem_parts frames body

/-- Three bytes arrive of a longer body, and the upstream falls silent. -/
theorem stalled_response_looks_complete_threeBytes :
    (left (sendStreamingResponse ⟨200, [("content-type", "text/plain")],
        [.data [1, 2, 3], .stalled]⟩) ⟨[], none, ""⟩).sent =
      [.response 200 [("content-type", "text/plain")], .data [1, 2, 3], .finish] := by
  have complete := (stalled_response_looks_complete 200 [("content-type", "text/plain")]
    [.data [1, 2, 3]] [] "" ⟨[], none, ""⟩ (by decide)).1
  exact (congrArg Outlet.sent complete).trans (by decide +kernel)

end FerroTunnel.Ingress
