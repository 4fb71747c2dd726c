import Mathlib.Data.List.Basic

/-!
# Incremental parsers

An incremental parser looks at a buffer and either asks for more input, takes
one item off the front, or fails.  The laws say that a request for more input
touches nothing, that an item is paid for with input, and that a verdict once
reached is not changed by input that arrives later.

From these laws follows that delivering the input in pieces is delivering it at
once: the items, the failure and the unconsumed rest do not depend on where the
input was cut.
-/

namespace FerroTunnel.Parser

universe u v w

/-- A parser that works on the front of a growing buffer. -/
structure Incremental (α : Type u) (β : Type v) (ε : Type w) where
  parse : List α → Except ε (Option β) × List α
  unchanged_of_pending : ∀ {buffer rest},
    parse buffer = (.ok none, rest) → rest = buffer
  shrinks_of_item : ∀ {buffer item rest},
    parse buffer = (.ok (some item), rest) → rest.length < buffer.length
  item_append : ∀ {buffer item rest}, parse buffer = (.ok (some item), rest) →
    ∀ more, parse (buffer ++ more) = (.ok (some item), rest ++ more)
  failure_append : ∀ {buffer failure rest}, parse buffer = (.error failure, rest) →
    ∀ more, parse (buffer ++ more) = (.error failure, rest ++ more)

namespace Incremental

variable {α : Type u} {β : Type v} {ε : Type w} (parser : Incremental α β ε)

/-- The items taken, the failure if there was one, and the rest of the buffer. -/
structure Outcome (α : Type u) (β : Type v) (ε : Type w) where
  items : List β
  failure : Option ε
  rest : List α
  deriving DecidableEq

/-- Put items in front of an outcome. -/
def Outcome.prepend (items : List β) (outcome : Outcome α β ε) : Outcome α β ε :=
  { outcome with items := items ++ outcome.items }

@[simp]
theorem Outcome.prepend_prepend (first second : List β) (outcome : Outcome α β ε) :
    Outcome.prepend first (Outcome.prepend second outcome) =
      Outcome.prepend (first ++ second) outcome := by
  simp [Outcome.prepend]

/-- Parse until the parser asks for more input or fails. -/
def drain (buffer : List α) : Outcome α β ε :=
  match _parsed : parser.parse buffer with
  | (.ok none, rest) => ⟨[], none, rest⟩
  | (.error failure, rest) => ⟨[], some failure, rest⟩
  | (.ok (some item), rest) => (drain rest).prepend [item]
  termination_by buffer.length
  decreasing_by exact parser.shrinks_of_item _parsed

variable {parser} {buffer : List α}

theorem drain_of_pending {rest : List α} (parsed : parser.parse buffer = (.ok none, rest)) :
    parser.drain buffer = ⟨[], none, rest⟩ := by
  rw [drain]
  split <;> simp_all

theorem drain_of_failure {rest : List α} {failure : ε}
    (parsed : parser.parse buffer = (.error failure, rest)) :
    parser.drain buffer = ⟨[], some failure, rest⟩ := by
  rw [drain]
  split <;> simp_all

theorem drain_of_item {rest : List α} {item : β}
    (parsed : parser.parse buffer = (.ok (some item), rest)) :
    parser.drain buffer = (parser.drain rest).prepend [item] := by
  rw [drain]
  split <;> simp_all

/-- Induction along the items that a buffer yields. -/
theorem drain_induction (parser : Incremental α β ε) {motive : List α → Prop}
    (pending : ∀ {buffer}, parser.parse buffer = (.ok none, buffer) → motive buffer)
    (failed : ∀ {buffer failure rest},
      parser.parse buffer = (.error failure, rest) → motive buffer)
    (taken : ∀ {buffer item rest}, parser.parse buffer = (.ok (some item), rest) →
      motive rest → motive buffer)
    (buffer : List α) : motive buffer := by
  induction lengthEq : buffer.length using Nat.strongRecOn generalizing buffer with
  | _ length ih =>
      subst lengthEq
      rcases parsed : parser.parse buffer with ⟨verdict, rest⟩
      cases verdict with
      | error failure => exact failed parsed
      | ok item =>
          cases item with
          | none =>
              have unchanged := parser.unchanged_of_pending parsed
              subst unchanged
              exact pending parsed
          | some item =>
              exact taken parsed (ih rest.length (parser.shrinks_of_item parsed) rest rfl)

/-- After draining without a failure the parser wants more input. -/
theorem parse_rest_of_no_failure (buffer : List α) :
    (parser.drain buffer).failure = none →
      parser.parse (parser.drain buffer).rest = (.ok none, (parser.drain buffer).rest) := by
  induction buffer using drain_induction parser with
  | pending parsed =>
      intro _
      rw [drain_of_pending parsed]
      exact parsed
  | failed parsed =>
      intro clean
      rw [drain_of_failure parsed] at clean
      contradiction
  | taken parsed ih =>
      rw [drain_of_item parsed]
      exact ih

/-- A failure found in a buffer is found, after the same items, in every
extension of the buffer. -/
theorem drain_append_of_failure {failure : ε} (more : List α) :
    (parser.drain buffer).failure = some failure →
      parser.drain (buffer ++ more) =
        { parser.drain buffer with rest := (parser.drain buffer).rest ++ more } := by
  induction buffer using drain_induction parser with
  | pending parsed =>
      intro failed
      rw [drain_of_pending parsed] at failed
      contradiction
  | failed parsed =>
      intro _
      rw [drain_of_failure parsed, drain_of_failure (parser.failure_append parsed more)]
  | taken parsed ih =>
      intro failed
      rw [drain_of_item parsed] at failed ⊢
      rw [drain_of_item (parser.item_append parsed more), ih failed]
      rfl

/-- Draining an extension continues where draining the buffer stopped. -/
theorem drain_append_of_no_failure (more : List α) :
    (parser.drain buffer).failure = none →
      parser.drain (buffer ++ more) =
        (parser.drain ((parser.drain buffer).rest ++ more)).prepend
          (parser.drain buffer).items := by
  induction buffer using drain_induction parser with
  | pending parsed =>
      intro _
      rw [drain_of_pending parsed]
      rfl
  | failed parsed =>
      intro clean
      rw [drain_of_failure parsed] at clean
      contradiction
  | taken parsed ih =>
      intro clean
      rw [drain_of_item parsed] at clean ⊢
      rw [drain_of_item (parser.item_append parsed more), ih clean]
      exact Outcome.prepend_prepend _ _ _

variable (parser)

/-- Deliver the input chunk by chunk, draining after each chunk.  A failure
ends the delivery, and the chunks that were not delivered stay unconsumed. -/
def feed : List α → List (List α) → Outcome α β ε
  | buffer, [] => ⟨[], none, buffer⟩
  | buffer, chunk :: chunks =>
      let outcome := parser.drain (buffer ++ chunk)
      match outcome.failure with
      | some _ => { outcome with rest := outcome.rest ++ chunks.flatten }
      | none => (feed outcome.rest chunks).prepend outcome.items

variable {parser}

/-- Cutting the input into chunks does not change what it yields. -/
theorem feed_eq_drain (chunks : List (List α))
    (settled : parser.parse buffer = (.ok none, buffer)) :
    parser.feed buffer chunks = parser.drain (buffer ++ chunks.flatten) := by
  induction chunks generalizing buffer with
  | nil =>
      rw [feed, List.flatten_nil, List.append_nil, drain_of_pending settled]
  | cons chunk chunks ih =>
      rw [feed, List.flatten_cons, ← List.append_assoc]
      cases verdict : (parser.drain (buffer ++ chunk)).failure with
      | some failure =>
          rw [drain_append_of_failure chunks.flatten verdict]
          simp [verdict]
      | none =>
          rw [drain_append_of_no_failure chunks.flatten verdict]
          rw [ih (parse_rest_of_no_failure _ verdict)]

end Incremental

end FerroTunnel.Parser
