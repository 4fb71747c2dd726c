import FerroTunnel.Parser.Incremental

/-!
# Framed readers

A framed reader turns the reads of a byte source into items.  It is a parameter
here: its states, its operations, and the laws that it keeps.  A poll takes what it
answers off the front of the buffer with the bytes that it has read, and at the end
of the source what is left of the buffer must be empty.

A reader may leave a buffer that another reader has filled unparsed until it has
completed a read of its own.  From then on, when it waits, it has taken all items
that there are.
-/

namespace FerroTunnel.Parser

universe u v w x

/-- What a poll of the source answers; an empty chunk is the end of the source. -/
inductive ReadPoll (α : Type u) (ε : Type w)
  | pending
  | bytes (chunk : List α)
  | failed (error : ε)
deriving DecidableEq

namespace ReadPoll

variable {α : Type u} {ε : Type w}

/-- The chunk that a poll brought. -/
def chunk : ReadPoll α ε → List α
  | .bytes chunk => chunk
  | _ => []

/-- The read completed, with bytes or with the end of the source. -/
def completes : ReadPoll α ε → Bool
  | .bytes _ => true
  | _ => false

/-- All bytes that the polls brought. -/
def received (polls : List (ReadPoll α ε)) : List α :=
  polls.flatMap chunk

@[simp]
theorem received_cons (poll : ReadPoll α ε) (polls : List (ReadPoll α ε)) :
    received (poll :: polls) = poll.chunk ++ received polls :=
  List.flatMap_cons

@[simp]
theorem received_append (first second : List (ReadPoll α ε)) :
    received (first ++ second) = received first ++ received second :=
  List.flatMap_append

end ReadPoll

/-- What a poll of the reader answers. -/
inductive ItemPoll (β : Type v) (ε : Type w)
  | pending
  | item (item : β)
  | failed (error : ε)
  | ended
deriving DecidableEq

namespace ItemPoll

variable {β : Type v} {ε : Type w}

/-- The item that a poll brought. -/
def items : ItemPoll β ε → List β
  | .item taken => [taken]
  | .pending | .failed _ | .ended => []

/-- The reader is polled again. -/
def goesOn : ItemPoll β ε → Bool
  | .pending | .item _ => true
  | .failed _ | .ended => false

end ItemPoll

/-- The operations of a framed reader with states `ρ`. -/
structure FramedReader (ρ : Type x) (α : Type u) (β : Type v) (ε : Type w) where
  new : ρ
  /-- Put bytes behind those of the buffer. -/
  extend : ρ → List α → ρ
  buffer : ρ → List α
  /-- Poll the reader, which polls the source as often as it has to; the answers of the source
  that it did not take are left. -/
  pollNext : ρ → List (ReadPoll α ε) → ItemPoll β ε × ρ × List (ReadPoll α ε)

namespace FramedReader

variable {ρ : Type x} {α : Type u} {β : Type v} {ε : Type w}

/-! ## Items taken off a buffer -/

/-- Parsing takes the items off the front of the first buffer and leaves the second. -/
inductive Takes (parser : Incremental α β ε) : List α → List β → List α → Prop
  | nil (buffer : List α) : Takes parser buffer [] buffer
  | snoc {all buffer rest : List α} {items : List β} {item : β} :
      Takes parser all items buffer → parser.parse buffer = (.ok (some item), rest) →
        Takes parser all (items ++ [item]) rest

namespace Takes

variable {parser : Incremental α β ε} {all buffer rest : List α} {items : List β}
  (takes : Takes parser all items buffer)

include takes

/-- Bytes that arrive later are left behind. -/
theorem append (more : List α) : Takes parser (all ++ more) items (buffer ++ more) := by
  induction takes with
  | nil => exact .nil _
  | snoc _ parsed ih => exact .snoc ih (parser.item_append parsed more)

theorem drain_eq : parser.drain all = (parser.drain buffer).prepend items := by
  induction takes with
  | nil => rfl
  | snoc _ parsed ih =>
      rw [ih, Incremental.drain_of_item parsed, Incremental.Outcome.prepend_prepend]

/-- When the rest asks for more, everything has been taken. -/
theorem drain_of_pending (pending : parser.parse buffer = (.ok none, buffer)) :
    parser.drain all = ⟨items, none, buffer⟩ := by
  rw [takes.drain_eq, Incremental.drain_of_pending pending]
  simp [Incremental.Outcome.prepend]

theorem drain_of_failure {error : ε} (failed : parser.parse buffer = (.error error, rest)) :
    parser.drain all = ⟨items, some error, rest⟩ := by
  rw [takes.drain_eq, Incremental.drain_of_failure failed]
  simp [Incremental.Outcome.prepend]

end Takes

/-! ## One poll -/

/-- The states of a reader in use: a new one, to whose buffer bytes may have been added, and
what polls make of it until it reports an error or the end.  `heard` says that a read has
completed. -/
inductive Reached (framed : FramedReader ρ α β ε) : Bool → ρ → Prop
  | new : Reached framed false framed.new
  | extended (bytes : List α) : Reached framed false (framed.extend framed.new bytes)
  | polled {heard : Bool} {reader after : ρ} {answer : ItemPoll β ε}
      {done later : List (ReadPoll α ε)} :
      Reached framed heard reader →
        framed.pollNext reader (done ++ later) = (answer, after, later) →
        answer.goesOn = true → Reached framed (heard || done.any ReadPoll.completes) after

/-- What a poll answers after the polls `done` of the source, where `whole` is the buffer with
all bytes that these brought, and `rest` the buffer afterwards. -/
inductive Answers (parser : Incremental α β ε) (remaining : ε) (heard : Bool) (whole : List α)
    (done : List (ReadPoll α ε)) : ItemPoll β ε → List α → Prop
  | pending (settled : heard = true → parser.parse whole = (.ok none, whole)) :
      Answers parser remaining heard whole done .pending whole
  | item {item : β} {rest : List α} (parsed : parser.parse whole = (.ok (some item), rest)) :
      Answers parser remaining heard whole done (.item item) rest
  | malformed {error : ε} {rest after : List α}
      (parsed : parser.parse whole = (.error error, rest)) :
      Answers parser remaining heard whole done (.failed error) after
  | truncated {after : List α} (parsed : parser.parse whole = (.ok none, whole))
      (nonempty : whole ≠ []) : Answers parser remaining heard whole done (.failed remaining) after
  | broken {error : ε} {after : List α} (reported : .failed error ∈ done) :
      Answers parser remaining heard whole done (.failed error) after
  | ended {after : List α} (parsed : parser.parse whole = (.ok none, whole))
      (empty : whole = []) : Answers parser remaining heard whole done .ended after

/-- The laws of a framed reader: `remaining` is its error for a source that ends within an
item. -/
structure Lawful (framed : FramedReader ρ α β ε) (parser : Incremental α β ε) (remaining : ε) :
    Prop where
  buffer_new : framed.buffer framed.new = []
  buffer_extend : ∀ reader bytes,
    framed.buffer (framed.extend reader bytes) = framed.buffer reader ++ bytes
  answers : ∀ {heard reader reads answer after later}, framed.Reached heard reader →
    framed.pollNext reader reads = (answer, after, later) →
      ∃ done, reads = done ++ later ∧
        Answers parser remaining (heard || done.any ReadPoll.completes)
          (framed.buffer reader ++ ReadPoll.received done) done answer (framed.buffer after)

/-! ## Polling until the end -/

/-- The items that were taken, what the last poll answered, and what is left. -/
structure Consumed (ρ : Type x) (α : Type u) (β : Type v) (ε : Type w) where
  items : List β
  last : Option (ItemPoll β ε)
  reader : ρ
  reads : List (ReadPoll α ε)

/-- Poll the reader a number of times, or until it reports an error or the end. -/
def consume (framed : FramedReader ρ α β ε) :
    Nat → Option (ItemPoll β ε) → List (ReadPoll α ε) → ρ → Consumed ρ α β ε
  | 0, last, reads, reader => ⟨[], last, reader, reads⟩
  | polls + 1, _, reads, reader =>
      match framed.pollNext reader reads with
      | (answer, after, later) =>
          if answer.goesOn then
            let rest := consume framed polls (some answer) later after
            { rest with items := answer.items ++ rest.items }
          else ⟨[], some answer, after, later⟩

/-- What became of the bytes `all` when `items` were taken from them, the last poll answered
`last`, and `rest` is left in the buffer. -/
inductive Accounts (parser : Incremental α β ε) (remaining : ε) (heard : Bool) (all : List α)
    (items : List β) (done : List (ReadPoll α ε)) : Option (ItemPoll β ε) → List α → Prop
  | unpolled {rest : List α} (takes : Takes parser all items rest) :
      Accounts parser remaining heard all items done none rest
  | took {item : β} {rest : List α} (takes : Takes parser all items rest) :
      Accounts parser remaining heard all items done (some (.item item)) rest
  | waiting {rest : List α} (takes : Takes parser all items rest)
      (settled : heard = true → parser.parse rest = (.ok none, rest)) :
      Accounts parser remaining heard all items done (some .pending) rest
  | malformed {error : ε} {rest after : List α}
      (drained : parser.drain all = ⟨items, some error, rest⟩) :
      Accounts parser remaining heard all items done (some (.failed error)) after
  | truncated {rest after : List α} (drained : parser.drain all = ⟨items, none, rest⟩)
      (nonempty : rest ≠ []) :
      Accounts parser remaining heard all items done (some (.failed remaining)) after
  | broken {error : ε} {buffer after : List α} (takes : Takes parser all items buffer)
      (reported : .failed error ∈ done) :
      Accounts parser remaining heard all items done (some (.failed error)) after
  | ended {after : List α} (drained : parser.drain all = ⟨items, none, []⟩) :
      Accounts parser remaining heard all items done (some .ended) after

variable {framed : FramedReader ρ α β ε} {parser : Incremental α β ε} {remaining : ε}
  {heard : Bool} {all rest whole : List α} {items : List β} {reader : ρ}
  {done : List (ReadPoll α ε)}

/-- A poll that waits keeps what it has read. -/
theorem Answers.rest_of_pending
    (answers : Answers parser remaining heard whole done .pending rest) : rest = whole := by
  cases answers
  rfl

/-- As long as the reader goes on, the items were taken off the front. -/
theorem Accounts.takes {last : Option (ItemPoll β ε)}
    (accounts : Accounts parser remaining heard all items done last rest)
    (goesOn : last.all ItemPoll.goesOn = true) : Takes parser all items rest := by
  cases accounts with
  | unpolled takes | took takes | waiting takes settled => exact takes
  | malformed drained | truncated drained nonempty | broken takes reported | ended drained =>
      cases goesOn

/-- One more poll, after items were taken off the front. -/
theorem Takes.poll {answer : ItemPoll β ε} (takes : Takes parser all items whole)
    (answers : Answers parser remaining heard whole done answer rest)
    (before : List (ReadPoll α ε)) :
    Accounts parser remaining heard all (items ++ answer.items) (before ++ done) (some answer)
      rest := by
  cases answers with
  | pending settled =>
      rw [ItemPoll.items, List.append_nil]
      exact .waiting takes settled
  | item parsed => exact .took (takes.snoc parsed)
  | malformed parsed =>
      rw [ItemPoll.items, List.append_nil]
      exact .malformed (takes.drain_of_failure parsed)
  | truncated parsed nonempty =>
      rw [ItemPoll.items, List.append_nil]
      exact .truncated (takes.drain_of_pending parsed) nonempty
  | broken reported =>
      rw [ItemPoll.items, List.append_nil]
      exact .broken takes (List.mem_append_right before reported)
  | ended parsed empty =>
      rw [ItemPoll.items, List.append_nil]
      refine .ended ?_
      rw [takes.drain_of_pending parsed, empty]

/-- However often a reader is polled, it accounts for every byte it was given. -/
theorem consume_accounts (lawful : framed.Lawful parser remaining)
    (reached : framed.Reached heard reader) {last : Option (ItemPoll β ε)}
    {before : List (ReadPoll α ε)}
    (accounts : Accounts parser remaining heard all items before last (framed.buffer reader))
    (goesOn : last.all ItemPoll.goesOn = true) (polls : Nat) (reads : List (ReadPoll α ε)) :
    ∃ done, reads = done ++ (framed.consume polls last reads reader).reads ∧
      Accounts parser remaining (heard || done.any ReadPoll.completes)
        (all ++ ReadPoll.received done) (items ++ (framed.consume polls last reads reader).items)
        (before ++ done) (framed.consume polls last reads reader).last
        (framed.buffer (framed.consume polls last reads reader).reader) := by
  induction polls generalizing reader all items heard last before reads with
  | zero =>
      refine ⟨[], rfl, ?_⟩
      simpa [consume, ReadPoll.received] using accounts
  | succ polls ih =>
      rcases polled : framed.pollNext reader reads with ⟨answer, after, later⟩
      obtain ⟨done, rfl, answers⟩ := lawful.answers reached polled
      have taken := (accounts.takes goesOn).append (ReadPoll.received done)
      have accountsOn := taken.poll answers before
      cases goes : answer.goesOn with
      | false =>
          have nothing : answer.items = [] := by
            cases answer with
            | failed error => rfl
            | ended => rfl
            | pending | item item => cases goes
          rw [nothing] at accountsOn
          refine ⟨done, ?_, ?_⟩
          · simp [consume, polled, goes]
          · simpa [consume, polled, goes] using accountsOn
      | true =>
          obtain ⟨doneOn, splits, accountsEnd⟩ :=
            ih (reached.polled polled goes) accountsOn goes later
          refine ⟨done ++ doneOn, ?_, ?_⟩
          · simpa [consume, polled, goes] using splits
          · simpa [consume, polled, goes, Bool.or_assoc] using accountsEnd

/-! ## A reader that keeps the laws -/

/-- Poll a reader that parses its buffer before it reads. -/
def pollEagerly (parser : Incremental α β ε) (remaining : ε) (buffer : List α)
    (reads : List (ReadPoll α ε)) : ItemPoll β ε × List α × List (ReadPoll α ε) :=
  match parser.parse buffer with
  | (.ok (some item), rest) => (.item item, rest, reads)
  | (.error error, rest) => (.failed error, rest, reads)
  | (.ok none, rest) =>
      match reads with
      | [] => (.pending, rest, [])
      | .pending :: later => (.pending, rest, later)
      | .failed error :: later => (.failed error, rest, later)
      | .bytes chunk :: later =>
          if chunk.isEmpty then
            (if rest.isEmpty then .ended else .failed remaining, rest, later)
          else pollEagerly parser remaining (rest ++ chunk) later

/-- The reader whose state is its buffer. -/
def eager (parser : Incremental α β ε) (remaining : ε) : FramedReader (List α) α β ε where
  new := []
  extend buffer bytes := buffer ++ bytes
  buffer := id
  pollNext := pollEagerly parser remaining

/-- An answer that nothing is left to parse holds however much was read before. -/
theorem Answers.weaken {answer : ItemPoll β ε}
    (answers : Answers parser remaining true whole done answer rest)
    (before : List (ReadPoll α ε)) :
    Answers parser remaining heard whole (before ++ done) answer rest := by
  cases answers with
  | pending settled => exact .pending fun _ => settled rfl
  | item parsed => exact .item parsed
  | malformed parsed => exact .malformed parsed
  | truncated parsed nonempty => exact .truncated parsed nonempty
  | broken reported => exact .broken (List.mem_append_right before reported)
  | ended parsed empty => exact .ended parsed empty

/-- The polls of the source that a reader takes, with what it answers from their bytes. -/
theorem pollEagerly_answers (parser : Incremental α β ε) (remaining : ε) (buffer : List α)
    (reads : List (ReadPoll α ε)) :
    ∃ done, reads = done ++ (pollEagerly parser remaining buffer reads).2.2 ∧
      Answers parser remaining true (buffer ++ ReadPoll.received done) done
        (pollEagerly parser remaining buffer reads).1
        (pollEagerly parser remaining buffer reads).2.1 := by
  induction reads generalizing buffer with
  | nil =>
      refine ⟨[], ?_⟩
      rcases parsed : parser.parse buffer with ⟨_ | _ | item, rest⟩
      · simpa [pollEagerly, parsed, ReadPoll.received] using .malformed parsed
      · obtain rfl := parser.unchanged_of_pending parsed
        simpa [pollEagerly, parsed, ReadPoll.received] using .pending fun _ => parsed
      · simpa [pollEagerly, parsed, ReadPoll.received] using .item parsed
  | cons read later ih =>
      rcases parsed : parser.parse buffer with ⟨_ | _ | item, rest⟩
      · refine ⟨[], ?_⟩
        simpa [pollEagerly, parsed, ReadPoll.received] using .malformed parsed
      · obtain rfl := parser.unchanged_of_pending parsed
        cases read with
        | pending =>
            refine ⟨[.pending], ?_⟩
            simpa [pollEagerly, parsed, ReadPoll.received, ReadPoll.chunk] using
              .pending fun _ => parsed
        | failed error =>
            refine ⟨[.failed error], ?_⟩
            simpa [pollEagerly, parsed] using .broken List.mem_cons_self
        | bytes chunk =>
            cases chunk with
            | nil =>
                refine ⟨[.bytes []], ?_⟩
                by_cases empty : rest = []
                · subst empty
                  simpa [pollEagerly, parsed, ReadPoll.received, ReadPoll.chunk] using
                    .ended parsed rfl
                · simpa [pollEagerly, parsed, empty, ReadPoll.received, ReadPoll.chunk] using
                    .truncated parsed empty
            | cons byte chunk =>
                obtain ⟨done, splits, answers⟩ := ih (rest ++ byte :: chunk)
                refine ⟨.bytes (byte :: chunk) :: done, ?_⟩
                have goesOn : pollEagerly parser remaining rest
                    (.bytes (byte :: chunk) :: later) =
                      pollEagerly parser remaining (rest ++ byte :: chunk) later := by
                  rw [pollEagerly, parsed]
                  rfl
                rw [goesOn, ReadPoll.received_cons, ReadPoll.chunk, ← List.append_assoc]
                exact ⟨congrArg _ splits, answers.weaken [_]⟩
      · refine ⟨[], ?_⟩
        simpa [pollEagerly, parsed, ReadPoll.received] using .item parsed

theorem eager_lawful (parser : Incremental α β ε) (remaining : ε) :
    (eager parser remaining).Lawful parser remaining where
  buffer_new := rfl
  buffer_extend _ _ := rfl
  answers := by
    intro heard reader reads answer after later _ polled
    obtain ⟨done, splits, answers⟩ := pollEagerly_answers parser remaining reader reads
    simp only [eager] at polled
    rw [polled] at splits answers
    exact ⟨done, splits, answers.weaken []⟩

end FramedReader

end FerroTunnel.Parser
