import FerroTunnel.Ingress.Headers
import FerroTunnel.Wire.Frame

/-!
# Collecting the body of an upstream response

Both ingresses collect a body frame by frame, with a limit on its size and on
the time a frame may take, when a plugin wants to see it.
-/

namespace FerroTunnel.Ingress

open FerroTunnel.Wire

/-- What arrives next of a body.  The body ends after the last one. -/
inductive BodyEvent
  | data (bytes : Bytes)
  | trailers (fields : HeaderMap)
  | error (message : String)
  | stalled
deriving DecidableEq

/-- The bytes of an event. -/
def BodyEvent.bytes : BodyEvent → Bytes
  | .data bytes => bytes
  | _ => []

/-- The event carries the body on. -/
def BodyEvent.isFrame : BodyEvent → Bool
  | .data _ => true
  | .trailers _ => true
  | _ => false

/-- Why a body could not be collected. -/
inductive BodyCollectError
  | timeout
  | tooLarge
  | read
deriving DecidableEq

namespace BodyCollectError

/-- The status of the answer to the client. -/
def status : BodyCollectError → UInt16
  | .timeout => 504
  | .tooLarge => 502
  | .read => 502

/-- The text of the answer to the client. -/
def message : BodyCollectError → String
  | .timeout => "Upstream response body timeout"
  | .tooLarge => "Response body too large"
  | .read => "Error reading response body"

end BodyCollectError

/-- Collect a body after what is `collected` of it. -/
def collectFrom {ε : Type} (timeout tooLarge : ε) (read : String → ε) (maxSize : Nat)
    (collected : Bytes) : List BodyEvent → Except ε Bytes
  | [] => .ok collected
  | .data bytes :: rest =>
      if collected.length + bytes.length > maxSize then
        .error tooLarge
      else
        collectFrom timeout tooLarge read maxSize (collected ++ bytes) rest
  | .trailers _ :: rest => collectFrom timeout tooLarge read maxSize collected rest
  | .error message :: _ => .error (read message)
  | .stalled :: _ => .error timeout

/-- Collect a body on the HTTP ingress. -/
def collectBodyWithLimit (maxSize : Nat) (events : List BodyEvent) :
    Except BodyCollectError Bytes :=
  collectFrom .timeout .tooLarge (fun _ => .read) maxSize [] events

/-- Collect a body on the HTTP/3 ingress. -/
def collectUpstreamBody (maxSize : Nat) (events : List BodyEvent) : Except String Bytes :=
  collectFrom "upstream body collection inactivity timeout"
    "HTTP/3 upstream response body too large"
    (fun message => s!"Failed to read upstream response body: {message}") maxSize [] events

/-- The bytes of a body. -/
def bodyBytes (events : List BodyEvent) : Bytes :=
  events.flatMap BodyEvent.bytes

/-- A body that arrives in full and is not larger than the limit. -/
def Collectable (maxSize : Nat) (events : List BodyEvent) : Prop :=
  events.all BodyEvent.isFrame = true ∧ (bodyBytes events).length ≤ maxSize

instance (maxSize : Nat) (events : List BodyEvent) : Decidable (Collectable maxSize events) :=
  inferInstanceAs (Decidable (_ ∧ _))

/-- A body is collected exactly when it arrives in full within the limit. -/
theorem collectFrom_eq_ok_iff {ε : Type} {timeout tooLarge : ε} {read : String → ε}
    {maxSize : Nat} {collected body : Bytes} {events : List BodyEvent}
    (fits : collected.length ≤ maxSize) :
    collectFrom timeout tooLarge read maxSize collected events = .ok body ↔
      events.all BodyEvent.isFrame = true ∧
        (collected ++ bodyBytes events).length ≤ maxSize ∧
          body = collected ++ bodyBytes events := by
  induction events generalizing collected with
  | nil =>
      simp only [collectFrom, Except.ok.injEq, List.all_nil, bodyBytes, List.flatMap_nil,
        List.append_nil, true_and]
      exact ⟨fun same => ⟨fits, same.symm⟩, fun both => both.2.symm⟩
  | cons event rest ih =>
      cases event with
      | data bytes =>
          simp only [collectFrom, bodyBytes, List.flatMap_cons, BodyEvent.bytes, List.all_cons,
            BodyEvent.isFrame, Bool.true_and]
          split
          · rename_i large
            simp only [reduceCtorEq, List.length_append, false_iff, not_and]
            intro _ small
            omega
          · rename_i small
            rw [ih (by simp; omega), bodyBytes, List.append_assoc]
      | trailers fields =>
          simp only [collectFrom, bodyBytes, List.flatMap_cons, BodyEvent.bytes, List.all_cons,
            BodyEvent.isFrame, Bool.true_and, List.nil_append]
          exact ih fits
      | error message | stalled => simp [collectFrom, BodyEvent.isFrame]

theorem collectBodyWithLimit_of_collectable {maxSize : Nat} {events : List BodyEvent}
    (collectable : Collectable maxSize events) :
    collectBodyWithLimit maxSize events = .ok (bodyBytes events) :=
  (collectFrom_eq_ok_iff (Nat.zero_le _)).mpr ⟨collectable.1, collectable.2, rfl⟩

theorem collectUpstreamBody_of_collectable {maxSize : Nat} {events : List BodyEvent}
    (collectable : Collectable maxSize events) :
    collectUpstreamBody maxSize events = .ok (bodyBytes events) :=
  (collectFrom_eq_ok_iff (Nat.zero_le _)).mpr ⟨collectable.1, collectable.2, rfl⟩

end FerroTunnel.Ingress
