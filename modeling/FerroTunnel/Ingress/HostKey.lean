import FerroTunnel.Ingress.Host
import FerroTunnel.Text.Core

/-!
# Routing keys

The key of a host is its part without port or brackets, in lower case and without
one final dot.  Keys are not always canonical: what brackets or a port leave
behind may have blanks at its ends or another final dot, or may itself be read as
an address in brackets or as a host with a port.
-/

namespace FerroTunnel.Ingress

open FerroTunnel.Text

/-! ## The parts of a host -/

theorem trim_eq_stripEnds (text : List Char) : trim text = stripEnds isBlank text :=
  rfl

theorem stripFinalDot_eq_self {host : List Char} (ends : host.getLast? ≠ some '.') :
    stripFinalDot host = host :=
  if_neg ends

theorem stripFinalDot_append_dot (host : List Char) : stripFinalDot (host ++ ['.']) = host := by
  rw [stripFinalDot, List.getLast?_concat, if_pos rfl, List.dropLast_concat]

theorem toLower_eq_dot_iff (c : Char) : c.toLower = '.' ↔ c = '.' :=
  toLower_eq_iff_of_not_isAlphanum (by decide)

theorem getLast?_map_toLower_eq_dot_iff (host : List Char) :
    (host.map Char.toLower).getLast? = some '.' ↔ host.getLast? = some '.' := by
  rw [List.getLast?_map]
  cases host.getLast? with
  | none => simp
  | some c => simp [toLower_eq_dot_iff]

theorem stripFinalDot_map_toLower (host : List Char) :
    stripFinalDot (host.map Char.toLower) = (stripFinalDot host).map Char.toLower := by
  simp only [stripFinalDot, getLast?_map_toLower_eq_dot_iff]
  split
  · rw [List.map_dropLast]
  · rfl

theorem stripFinalDot_sublist (host : List Char) : (stripFinalDot host).Sublist host := by
  rw [stripFinalDot]
  split
  · exact List.dropLast_sublist host
  · exact List.Sublist.refl host

/-- Without brackets the host is all, or what stands before the only colon. -/
theorem hostPart_of_head? {host : List Char} (plain : host.head? ≠ some '[') :
    hostPart host =
      .ok (if host.count ':' > 1 then host else host.takeWhile (· ≠ ':')) := by
  rw [hostPart]
  · split <;> rfl
  · rintro rest rfl
    exact plain rfl

theorem hostPart_bracket (rest : List Char) : hostPart ('[' :: rest) =
    if rest.contains ']' then .ok (rest.takeWhile (· ≠ ']'))
    else .error "Invalid IPv6 Host header format" :=
  rfl

/-- An address ends at the bracket. -/
theorem hostPart_brackets {address : List Char} (free : ∀ c ∈ address, c ≠ ']')
    (tail : List Char) : hostPart ('[' :: (address ++ ']' :: tail)) = .ok address := by
  rw [hostPart_bracket, if_pos (by simp), List.takeWhile_append_of_pos (by simpa using free)]
  simp

theorem hostPart_sublist {host part : List Char} (parted : hostPart host = .ok part) :
    part.Sublist host := by
  by_cases plain : host.head? = some '['
  · obtain ⟨rest, rfl⟩ := List.head?_eq_some_iff.mp plain
    rw [hostPart_bracket] at parted
    split at parted
    · cases parted
      exact (List.takeWhile_sublist _).trans (List.sublist_cons_self _ _)
    · cases parted
  · rw [hostPart_of_head? plain] at parted
    cases parted
    split
    · exact List.Sublist.refl host
    · exact List.takeWhile_sublist _

/-- A host is its own part when it begins with no bracket and does not have the one
colon that separates a port. -/
theorem hostPart_eq_self_iff {host : List Char} :
    hostPart host = .ok host ↔ host.head? ≠ some '[' ∧ host.count ':' ≠ 1 := by
  by_cases plain : host.head? = some '['
  · obtain ⟨rest, rfl⟩ := List.head?_eq_some_iff.mp plain
    simp only [plain, ne_eq, not_true_eq_false, false_and, iff_false]
    intro parted
    rw [hostPart_bracket] at parted
    split at parted
    · have same := congrArg List.length (Except.ok.inj parted)
      have shorter := (List.takeWhile_sublist (l := rest) (· ≠ ']')).length_le
      rw [same, List.length_cons] at shorter
      exact absurd shorter (Nat.not_succ_le_self _)
    · cases parted
  · rw [hostPart_of_head? plain, Except.ok.injEq]
    simp only [plain, ne_eq, not_false_eq_true, true_and]
    split
    · next many => exact iff_of_true rfl (Nat.ne_of_gt many)
    · next few =>
      rw [List.takeWhile_eq_self_iff]
      constructor
      · intro noColon
        rw [List.count_eq_zero.mpr]
        · exact Nat.zero_ne_one
        · exact fun member => of_decide_eq_true (noColon ':' member) rfl
      · intro notOne c member
        have none : host.count ':' = 0 := by omega
        apply decide_eq_true
        rintro rfl
        exact List.count_eq_zero.mp none member

/-- Without a bracket in front, what stands before the only colon is the host. -/
theorem hostPart_append {host tail : List Char} (plain : (host ++ tail).head? ≠ some '[')
    (noColon : ∀ c ∈ host, c ≠ ':')
    (ends : tail = [] ∨ ∃ port, tail = ':' :: port ∧ ∀ c ∈ port, c ≠ ':') :
    hostPart (host ++ tail) = .ok host := by
  have hostCount : host.count ':' = 0 :=
    List.count_eq_zero.mpr fun member => noColon ':' member rfl
  have tailCount : tail.count ':' ≤ 1 := by
    rcases ends with rfl | ⟨port, rfl, digits⟩
    · simp
    · rw [List.count_cons_self, List.count_eq_zero.mpr fun member => digits ':' member rfl]
  have few : ¬ (host ++ tail).count ':' > 1 := by
    rw [List.count_append, hostCount]
    omega
  rw [hostPart_of_head? plain, if_neg few, List.takeWhile_append_of_pos (by simpa using noColon)]
  rcases ends with rfl | ⟨port, rfl, -⟩ <;> simp

theorem head?_append_ne_bracket {host tail : List Char} (nonempty : host ≠ [])
    (noBracket : ∀ c ∈ host, c ≠ '[') : (host ++ tail).head? ≠ some '[' := by
  rw [List.head?_append_of_ne_nil _ nonempty]
  exact fun bracket => noBracket '[' (List.mem_of_head? bracket) rfl

/-! ## The key of a host -/

/-- A key is made of the host part of a value that is a text. -/
theorem parseAndNormalizeHost_eq_ok_iff {value : HeaderValue} {key : String} :
    parseAndNormalizeHost (some value) = .ok key ↔
      value.toList.all isVisible = true ∧ key.toList ≠ [] ∧
        ∃ part, hostPart (trim value.toList) = .ok part ∧
          key.toList = (stripFinalDot part).map Char.toLower := by
  rw [parseAndNormalizeHost, Option.bind_some, HeaderValue.toStr]
  by_cases readable : value.toList.all isVisible = true
  · simp only [readable, if_true, true_and]
    by_cases empty : value.toList = []
    · rw [if_pos empty, empty]
      constructor
      · intro error
        cases error
      · rintro ⟨nonempty, part, parted, made⟩
        cases parted
        exact absurd made nonempty
    · rw [if_neg empty]
      cases hostPart (trim value.toList) with
      | error error => simp
      | ok part =>
          simp only [stripFinalDot_map_toLower, Except.ok.injEq, exists_eq_left']
          split
          · next nothing =>
            rw [nothing]
            constructor
            · intro error
              cases error
            · exact fun made => absurd made.2 made.1
          · next something =>
            rw [Except.ok.injEq, ← String.toList_inj, String.toList_ofList]
            constructor
            · intro made
              rw [← made]
              exact ⟨something, rfl⟩
            · exact fun made => made.2.symm
  · simp [readable]

/-! ## Canonical keys -/

/-- No blank at either end, no final dot, no bracket in front and no port behind. -/
def PlainHost (host : List Char) : Prop :=
  SolidEnds isBlank host ∧ host.getLast? ≠ some '.' ∧ host.head? ≠ some '[' ∧ host.count ':' ≠ 1

theorem isBlank_toLower (c : Char) : isBlank c.toLower = isBlank c := by
  rw [isBlank, isBlank, Bool.eq_iff_iff]
  simp only [Bool.or_eq_true, decide_eq_true_iff]
  rw [toLower_eq_iff_of_not_isAlphanum (by decide), toLower_eq_iff_of_not_isAlphanum (by decide)]

theorem isVisible_toLower {c : Char} (visible : isVisible c = true) :
    isVisible c.toLower = true := by
  by_cases letter : c.isAlphanum = true
  · rw [← isAlphanum_toLower, isAlphanum_iff] at letter
    simp only [isVisible, Bool.or_eq_true, Bool.and_eq_true, decide_eq_true_iff]
    omega
  · rw [toLower_eq_self_of_not_isAlphanum letter]
    exact visible

theorem head?_map_toLower_eq_bracket_iff (host : List Char) :
    (host.map Char.toLower).head? = some '[' ↔ host.head? = some '[' := by
  rw [List.head?_map]
  cases host.head? with
  | none => simp
  | some c => simp [toLower_eq_iff_of_not_isAlphanum (d := '[') (by decide)]

theorem count_colon_map_toLower (host : List Char) :
    (host.map Char.toLower).count ':' = host.count ':' := by
  induction host with
  | nil => rfl
  | cons c rest ih =>
      rw [List.map_cons, List.count_cons, List.count_cons, ih]
      simp only [beq_iff_eq, toLower_eq_iff_of_not_isAlphanum (d := ':') (by decide)]

/-- Whether a host is plain does not depend on its letter case. -/
theorem plainHost_map_toLower_iff (host : List Char) :
    PlainHost (host.map Char.toLower) ↔ PlainHost host := by
  rw [PlainHost, PlainHost, solidEnds_map isBlank_toLower, ne_eq, ne_eq,
    getLast?_map_toLower_eq_dot_iff, head?_map_toLower_eq_bracket_iff, count_colon_map_toLower]

/-- A text in lower case stands for itself exactly when it is plain. -/
theorem parseAndNormalizeHost_eq_self_iff {key : String}
    (visible : key.toList.all isVisible = true) (nonempty : key.toList ≠ [])
    (lower : key.toList.map Char.toLower = key.toList) :
    (SolidEnds isBlank key.toList ∧ key.toList.getLast? ≠ some '.' ∧
        parseAndNormalizeHost (some key) = .ok key) ↔ PlainHost key.toList := by
  rw [parseAndNormalizeHost_eq_ok_iff, PlainHost]
  apply and_congr_right
  intro solid
  apply and_congr_right
  intro noDot
  rw [trim_eq_stripEnds, stripEnds_eq_self_of_solidEnds solid, ← hostPart_eq_self_iff]
  constructor
  · rintro ⟨-, -, part, parted, made⟩
    -- The part is no shorter than the key that is made of it.
    have partIn := hostPart_sublist parted
    have length := congrArg List.length made
    rw [List.length_map] at length
    have same : part = key.toList := by
      apply partIn.eq_of_length_le
      rw [length]
      exact (stripFinalDot_sublist part).length_le
    exact same ▸ parted
  · intro parted
    refine ⟨visible, nonempty, key.toList, parted, ?_⟩
    rw [stripFinalDot_eq_self noDot, lower]

/-! ## The texts with canonical keys -/

/-- One final dot, or none. -/
def finalDot (dot : Bool) : List Char :=
  if dot then ['.'] else []

theorem stripFinalDot_append_finalDot {name : List Char} (noDot : name.getLast? ≠ some '.')
    (dot : Bool) : stripFinalDot (name ++ finalDot dot) = name := by
  cases dot with
  | true => exact stripFinalDot_append_dot name
  | false =>
      rw [finalDot, if_neg Bool.false_ne_true, List.append_nil]
      exact stripFinalDot_eq_self noDot

theorem exists_append_finalDot (part : List Char) :
    ∃ dot, part = stripFinalDot part ++ finalDot dot := by
  by_cases last : part.getLast? = some '.'
  · refine ⟨true, ?_⟩
    obtain ⟨front, rfl⟩ := List.getLast?_eq_some_iff.mp last
    rw [stripFinalDot_append_dot]
    rfl
  · refine ⟨false, ?_⟩
    rw [stripFinalDot_eq_self last]
    exact (List.append_nil part).symm

/-- A text that spells a name: the name with or without a final dot, alone, in front of
the only colon, or between brackets.  Alone or between brackets the name has no colon or
several. -/
inductive Spells (name : List Char) : List Char → Prop
  | alone (dot : Bool) (colons : name.count ':' ≠ 1) : Spells name (name ++ finalDot dot)
  | withPort (dot : Bool) {port : List Char} (noColon : ∀ c ∈ name, c ≠ ':')
      (portNoColon : ∀ c ∈ port, c ≠ ':') : Spells name (name ++ finalDot dot ++ ':' :: port)
  | inBrackets (dot : Bool) {tail : List Char} (noBracket : ∀ c ∈ name, c ≠ ']')
      (colons : name.count ':' ≠ 1) : Spells name ('[' :: (name ++ finalDot dot ++ ']' :: tail))

/-- Apart from blanks around it the text spells a name that has no blank at either end,
no final dot and no bracket in front. -/
def SpellsPlainHost (text : List Char) : Prop :=
  ∃ before core after name, text = before ++ core ++ after ∧
    (∀ c ∈ before, isBlank c = true) ∧ SolidEnds isBlank core ∧ (∀ c ∈ after, isBlank c = true) ∧
    Spells name core ∧ SolidEnds isBlank name ∧ name.getLast? ≠ some '.' ∧ name.head? ≠ some '['

theorem mem_append_finalDot {name : List Char} {dot : Bool} {c : Char}
    (member : c ∈ name ++ finalDot dot) : c ∈ name ∨ c = '.' := by
  rcases List.mem_append.mp member with inName | inDot
  · exact .inl inName
  · cases dot with
    | true => exact .inr (List.mem_singleton.mp inDot)
    | false => cases inDot

theorem count_colon_append_finalDot (name : List Char) (dot : Bool) :
    (name ++ finalDot dot).count ':' = name.count ':' := by
  cases dot <;> simp [finalDot, List.count_append]

theorem head?_append_finalDot {name : List Char} (dot : Bool) {tail : List Char}
    (plain : name.head? ≠ some '[') (ends : tail.head? ≠ some '[') :
    (name ++ finalDot dot ++ tail).head? ≠ some '[' := by
  cases name with
  | cons first rest => exact plain
  | nil =>
      cases dot with
      | true => simp [finalDot]
      | false => exact ends

/-- The host part of a text that spells a name is the name, up to a final dot. -/
theorem Spells.hostPart_eq {name core : List Char} (spells : Spells name core)
    (plain : name.head? ≠ some '[') : ∃ dot, hostPart core = .ok (name ++ finalDot dot) := by
  cases spells with
  | alone dot colons =>
      refine ⟨dot, hostPart_eq_self_iff.mpr ⟨?_, ?_⟩⟩
      · rw [← List.append_nil (name ++ finalDot dot)]
        exact head?_append_finalDot dot plain nofun
      · rw [count_colon_append_finalDot]
        exact colons
  | withPort dot noColon portNoColon =>
      refine ⟨dot, hostPart_append (head?_append_finalDot dot plain (by simp)) ?_
        (.inr ⟨_, rfl, portNoColon⟩)⟩
      intro c member
      rcases mem_append_finalDot member with inName | rfl
      · exact noColon c inName
      · decide
  | inBrackets dot noBracket colons =>
      refine ⟨dot, hostPart_brackets ?_ _⟩
      intro c member
      rcases mem_append_finalDot member with inName | rfl
      · exact noBracket c inName
      · decide

/-- What `takeWhile` leaves begins with the element that ends it. -/
theorem exists_takeWhile_ne_append (c : Char) (text : List Char) :
    ∃ rest, text = text.takeWhile (· ≠ c) ++ rest ∧ (rest = [] ∨ ∃ tail, rest = c :: tail) := by
  induction text with
  | nil => exact ⟨[], rfl, .inl rfl⟩
  | cons first others ih =>
      by_cases same : first = c
      · exact ⟨first :: others, by simp [same], .inr ⟨others, by rw [same]⟩⟩
      · obtain ⟨rest, othersEq, ends⟩ := ih
        refine ⟨rest, ?_, ends⟩
        rw [List.takeWhile_cons_of_pos (by simpa using same), List.cons_append, ← othersEq]

theorem ne_of_mem_takeWhile_ne {c d : Char} {text : List Char}
    (member : d ∈ text.takeWhile (· ≠ c)) : d ≠ c := by
  simpa using List.mem_takeWhile_imp member

/-- A text whose host part is plain without one final dot spells it. -/
theorem spells_of_hostPart {core part : List Char} (parted : hostPart core = .ok part)
    (plain : PlainHost (stripFinalDot part)) : Spells (stripFinalDot part) core := by
  obtain ⟨dot, partEq⟩ := exists_append_finalDot part
  have colons := plain.2.2.2
  have inPart : ∀ c ∈ stripFinalDot part, c ∈ part :=
    fun c member => (stripFinalDot_sublist part).subset member
  by_cases bracket : core.head? = some '['
  · obtain ⟨rest, rfl⟩ := List.head?_eq_some_iff.mp bracket
    rw [hostPart_bracket] at parted
    split at parted
    · next closed =>
      have parts := Except.ok.inj parted
      obtain ⟨others, restEq, none | ⟨tail, rfl⟩⟩ := exists_takeWhile_ne_append ']' rest
      · rw [none, List.append_nil] at restEq
        rw [restEq] at closed
        exact absurd rfl (ne_of_mem_takeWhile_ne (List.contains_iff_mem.mp closed))
      · have noBracket : ∀ c ∈ stripFinalDot part, c ≠ ']' := by
          intro c member
          have before := inPart c member
          rw [← parts] at before
          exact ne_of_mem_takeWhile_ne before
        rw [parts] at restEq
        rw [restEq]
        nth_rewrite 2 [partEq]
        exact .inBrackets dot noBracket colons
    · cases parted
  · rw [hostPart_of_head? bracket] at parted
    have parts := Except.ok.inj parted
    have alone (whole : core = part) : Spells (stripFinalDot part) core := by
      rw [whole]
      nth_rewrite 2 [partEq]
      exact .alone dot colons
    split at parts
    · exact alone parts
    · next few =>
      obtain ⟨others, coreEq, none | ⟨port, rfl⟩⟩ := exists_takeWhile_ne_append ':' core
      · rw [none, List.append_nil, parts] at coreEq
        exact alone coreEq
      · rw [parts] at coreEq
        have noColon : ∀ c ∈ stripFinalDot part, c ≠ ':' := by
          intro c member
          have before := inPart c member
          rw [← parts] at before
          exact ne_of_mem_takeWhile_ne before
        have portNoColon : ∀ c ∈ port, c ≠ ':' := by
          rintro c member rfl
          have several := List.count_pos_iff.mpr member
          rw [coreEq, List.count_append, List.count_cons_self] at few
          omega
        rw [coreEq]
        nth_rewrite 2 [partEq]
        exact .withPort dot noColon portNoColon

theorem Spells.count_colon_ne_one {name core : List Char} (spells : Spells name core) :
    name.count ':' ≠ 1 := by
  cases spells with
  | alone dot colons | inBrackets dot noBracket colons => exact colons
  | withPort dot noColon portNoColon =>
      rw [List.count_eq_zero.mpr fun member => noColon ':' member rfl]
      exact Nat.zero_ne_one

/-- A value spells a plain host exactly when its host part is plain without one final
dot. -/
theorem spellsPlainHost_iff {text part : List Char} (parted : hostPart (trim text) = .ok part) :
    SpellsPlainHost text ↔ PlainHost (stripFinalDot part) := by
  constructor
  · rintro ⟨before, core, after, name, rfl, left, solid, right, spells, solidName, noDot, front⟩
    rw [trim_eq_stripEnds, stripEnds_append left solid right] at parted
    obtain ⟨dot, partEq⟩ := spells.hostPart_eq front
    rw [parted, Except.ok.injEq] at partEq
    subst partEq
    rw [stripFinalDot_append_finalDot noDot]
    exact ⟨solidName, noDot, front, spells.count_colon_ne_one⟩
  · intro plain
    obtain ⟨before, after, textEq, left, right⟩ := exists_append_stripEnds isBlank text
    exact ⟨before, _, after, _, textEq, left, solidEnds_stripEnds isBlank text, right,
      spells_of_hostPart parted plain, plain.1, plain.2.1, plain.2.2.1⟩

/-- A key is non-empty and without upper-case letters.  It is free of blanks and dots at
its ends and stands for itself exactly when the value spells a plain host. -/
theorem parseAndNormalizeHost_canonical_iff (value : HeaderValue) (key : String)
    (parsed : parseAndNormalizeHost (some value) = .ok key) :
    key.toList ≠ [] ∧ (∀ c ∈ key.toList, c.isUpper = false) ∧
    ((SolidEnds isBlank key.toList ∧ key.toList.getLast? ≠ some '.' ∧
        parseAndNormalizeHost (some key) = .ok key) ↔ SpellsPlainHost value.toList) := by
  obtain ⟨readable, nonempty, part, parted, made⟩ := parseAndNormalizeHost_eq_ok_iff.mp parsed
  have partIn : ∀ c ∈ stripFinalDot part, c ∈ value.toList := by
    intro c member
    apply (stripEnds_sublist value.toList).subset
    apply (hostPart_sublist parted).subset
    exact (stripFinalDot_sublist part).subset member
  have lower : key.toList.map Char.toLower = key.toList := by
    rw [made, List.map_map]
    exact List.map_congr_left fun c _ => toLower_toLower c
  have visible : ∀ c ∈ key.toList, isVisible c = true := by
    rw [made]
    intro c member
    obtain ⟨original, inPart, rfl⟩ := List.mem_map.mp member
    exact isVisible_toLower (List.all_eq_true.mp readable original (partIn original inPart))
  constructor
  · exact nonempty
  constructor
  · rw [made]
    intro c member
    obtain ⟨original, -, rfl⟩ := List.mem_map.mp member
    exact isUpper_toLower original
  · rw [parseAndNormalizeHost_eq_self_iff (List.all_eq_true.mpr visible) nonempty lower, made,
      plainHost_map_toLower_iff, spellsPlainHost_iff parted]

/-- The key of a host with a port is its name, which stands for itself. -/
theorem parseAndNormalizeHost_canonical_port :
    (∀ c ∈ "app.example".toList, c.isUpper = false) ∧
      parseAndNormalizeHost (some "app.example") = .ok "app.example" := by
  have parsed : parseAndNormalizeHost (some " App.Example.:80 ") = .ok "app.example" :=
    parseAndNormalizeHost_eq_ok_iff.mpr
      ⟨by decide, by decide, "App.Example.".toList, rfl, by decide⟩
  have canonical := parseAndNormalizeHost_canonical_iff " App.Example.:80 " "app.example" parsed
  have spells : SpellsPlainHost " App.Example.:80 ".toList :=
    ⟨[' '], "App.Example.:80".toList, [' '], "App.Example".toList, by decide, by simp [isBlank],
      ⟨by simp; decide, by simp; decide⟩, by simp [isBlank],
      @Spells.withPort _ true ['8', '0'] (by simp) (by simp),
      ⟨by simp; decide, by simp; decide⟩, by decide, by decide⟩
  exact ⟨canonical.2.1, (canonical.2.2.mpr spells).2.2⟩

/-- Only one of two final dots is removed, and what stood between brackets is read
differently the second time. -/
theorem parseAndNormalizeHost_not_canonical :
    (parseAndNormalizeHost (some "a..")).toOption = some "a." ∧
    (parseAndNormalizeHost (some "a.")).toOption = some "a" ∧
    (parseAndNormalizeHost (some "[a:b]")).toOption = some "a:b" ∧
    (parseAndNormalizeHost (some "a:b")).toOption = some "a" ∧
    (parseAndNormalizeHost (some "a :80")).toOption = some "a " := by
  decide

end FerroTunnel.Ingress
