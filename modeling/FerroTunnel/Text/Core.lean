import Mathlib.Data.List.DropRight

/-!
# Texts

Letter case of single characters, what is left of a list when the elements of a kind
are removed at both ends, and lists that are joined by a separator.
-/

namespace FerroTunnel.Text

/-! ## Letter case -/

theorem isDigit_iff (c : Char) : c.isDigit = true ↔ 48 ≤ c.toNat ∧ c.toNat ≤ 57 := by
  have digit : c.isDigit = (c.val ≥ '0'.val && c.val ≤ '9'.val) := rfl
  simp [digit, UInt32.le_iff_toNat_le]

theorem isAlphanum_iff (c : Char) : c.isAlphanum = true ↔
    (65 ≤ c.toNat ∧ c.toNat ≤ 90) ∨ (97 ≤ c.toNat ∧ c.toNat ≤ 122) ∨
      (48 ≤ c.toNat ∧ c.toNat ≤ 57) := by
  have alphanum : c.isAlphanum =
      ((decide (c.val ≥ 'A'.val ∧ c.val ≤ 'Z'.val) || (c.val ≥ 'a'.val && c.val ≤ 'z'.val)) ||
        (c.val ≥ '0'.val && c.val ≤ '9'.val)) := rfl
  simp [alphanum, UInt32.le_iff_toNat_le, or_assoc]

theorem toNat_toLower (c : Char) : c.toLower.toNat =
    if 65 ≤ c.toNat ∧ c.toNat ≤ 90 then c.toNat + 32 else c.toNat := by
  by_cases upper : 65 ≤ c.toNat ∧ c.toNat ≤ 90
  · have between : c.val ≥ 'A'.val ∧ c.val ≤ 'Z'.val := upper
    have lowered : c.toLower.val = c.val + 32 := congrArg Char.val (dif_pos between)
    rw [if_pos upper]
    change c.toLower.val.toNat = _
    rw [lowered, UInt32.toNat_add]
    change (c.toNat + 32) % _ = _
    omega
  · have outside : ¬ (c.val ≥ 'A'.val ∧ c.val ≤ 'Z'.val) := upper
    have same : c.toLower = c := dif_neg outside
    rw [if_neg upper, same]

/-- Letters and digits stay so in lower case. -/
theorem isAlphanum_toLower (c : Char) : c.toLower.isAlphanum = c.isAlphanum := by
  rw [Bool.eq_iff_iff, isAlphanum_iff, isAlphanum_iff, toNat_toLower]
  split <;> omega

/-- Only letters have a lower case of their own. -/
theorem toLower_eq_self_of_not_isAlphanum {c : Char} (other : c.isAlphanum ≠ true) :
    c.toLower = c := by
  rw [ne_eq, isAlphanum_iff] at other
  rw [← Char.toNat_inj, toNat_toLower, if_neg (by omega)]

theorem toLower_toLower (c : Char) : c.toLower.toLower = c.toLower := by
  have lower : ¬(65 ≤ c.toLower.toNat ∧ c.toLower.toNat ≤ 90) := by
    rw [toNat_toLower]
    split <;> omega
  rw [← Char.toNat_inj, toNat_toLower c.toLower, if_neg lower]

theorem isUpper_toLower (c : Char) : c.toLower.isUpper = false := by
  have lower : ¬(65 ≤ c.toLower.toNat ∧ c.toLower.toNat ≤ 90) := by
    rw [toNat_toLower]
    split <;> omega
  exact decide_eq_false lower

/-- A character that is no letter is the lower case of itself only. -/
theorem toLower_eq_iff_of_not_isAlphanum {c d : Char} (other : d.isAlphanum ≠ true) :
    c.toLower = d ↔ c = d := by
  constructor
  · rintro rfl
    rw [isAlphanum_toLower] at other
    exact (toLower_eq_self_of_not_isAlphanum other).symm
  · rintro rfl
    exact toLower_eq_self_of_not_isAlphanum other

/-- Lists that agree up to letter case agree on a property that ignores letter case. -/
theorem forall_of_map_toLower_eq {p : Char → Prop} (caseless : ∀ c, p c.toLower ↔ p c)
    {first second : List Char} (same : first.map Char.toLower = second.map Char.toLower)
    (holds : ∀ c ∈ second, p c) : ∀ c ∈ first, p c := by
  intro c member
  have lowered : c.toLower ∈ second.map Char.toLower := same ▸ List.mem_map_of_mem member
  obtain ⟨d, inSecond, sameLower⟩ := List.mem_map.mp lowered
  rw [← caseless, ← sameLower, caseless]
  exact holds d inSecond

/-! ## Ends -/

variable {α : Type*} (p : α → Bool)

/-- Remove the elements of a kind at both ends. -/
def stripEnds (list : List α) : List α :=
  (list.dropWhile p).rdropWhile p

/-- Neither end is of the kind. -/
def SolidEnds (list : List α) : Prop :=
  (∀ c, list.head? = some c → p c = false) ∧ ∀ c, list.getLast? = some c → p c = false

variable {p}

theorem dropWhile_eq_self_iff_head? {list : List α} :
    list.dropWhile p = list ↔ ∀ c, list.head? = some c → p c = false := by
  rw [List.dropWhile_eq_self_iff]
  cases list with
  | nil => simp
  | cons first rest => simp

theorem rdropWhile_eq_self_iff_getLast? {list : List α} :
    list.rdropWhile p = list ↔ ∀ c, list.getLast? = some c → p c = false := by
  rw [List.rdropWhile, List.reverse_eq_iff, dropWhile_eq_self_iff_head?, List.head?_reverse]

/-- What stays after stripping is what has solid ends. -/
theorem stripEnds_eq_self_of_solidEnds {list : List α} (solid : SolidEnds p list) :
    stripEnds p list = list := by
  rw [stripEnds, dropWhile_eq_self_iff_head?.mpr solid.1,
    rdropWhile_eq_self_iff_getLast?.mpr solid.2]

theorem stripEnds_sublist (list : List α) : (stripEnds p list).Sublist list :=
  (List.rdropWhile_prefix p _).sublist.trans (List.dropWhile_sublist p)

theorem solidEnds_of_forall {list : List α} (solid : ∀ c ∈ list, p c = false) :
    SolidEnds p list :=
  ⟨fun c first => solid c (List.mem_of_head? first),
    fun c last => solid c (List.mem_of_getLast? last)⟩

theorem solidEnds_map {β : Type*} {q : β → Bool} {f : α → β} (same : ∀ c, q (f c) = p c)
    (list : List α) : SolidEnds q (list.map f) ↔ SolidEnds p list := by
  simp [SolidEnds, List.head?_map, List.getLast?_map, Option.map_eq_some_iff, same]

theorem dropWhile_append_of_solid {before core : List α} (left : ∀ c ∈ before, p c = true)
    (solid : ∀ c, core.head? = some c → p c = false) : (before ++ core).dropWhile p = core := by
  rw [List.dropWhile_append_of_pos left, dropWhile_eq_self_iff_head?.mpr solid]

theorem rdropWhile_append_of_solid {core after : List α} (right : ∀ c ∈ after, p c = true)
    (solid : ∀ c, core.getLast? = some c → p c = false) : (core ++ after).rdropWhile p = core := by
  rw [List.rdropWhile, List.reverse_append, dropWhile_append_of_solid (by simpa using right)
    (by simpa using solid), List.reverse_reverse]

/-- Stripping gives back a list with solid ends from what stands around it. -/
theorem stripEnds_append {before core after : List α} (left : ∀ c ∈ before, p c = true)
    (solid : SolidEnds p core) (right : ∀ c ∈ after, p c = true) :
    stripEnds p (before ++ core ++ after) = core := by
  cases core with
  | nil =>
      have all : ∀ c ∈ before ++ after, p c = true := by
        intro c member
        exact (List.mem_append.mp member).elim (left c) (right c)
      rw [stripEnds, List.append_nil, List.dropWhile_eq_nil_iff.mpr all, List.rdropWhile_nil]
  | cons first rest =>
      have begins : ∀ c, (first :: rest ++ after).head? = some c → p c = false := solid.1
      rw [stripEnds, List.append_assoc, dropWhile_append_of_solid left begins,
        rdropWhile_append_of_solid right solid.2]

theorem solidEnds_stripEnds (p : α → Bool) (list : List α) : SolidEnds p (stripEnds p list) := by
  constructor
  · intro c first
    obtain ⟨rest, parts⟩ := List.rdropWhile_prefix p (list.dropWhile p)
    have front : (list.dropWhile p).head? = some c := by
      rw [← parts, List.head?_append, ← stripEnds, first]
      rfl
    exact dropWhile_eq_self_iff_head?.mp (List.dropWhile_idempotent p list) c front
  · exact rdropWhile_eq_self_iff_getLast?.mp (List.rdropWhile_idempotent p _)

/-- What is stripped from the ends is of the kind. -/
theorem exists_append_stripEnds (p : α → Bool) (list : List α) :
    ∃ before after, list = before ++ stripEnds p list ++ after ∧
      (∀ c ∈ before, p c = true) ∧ ∀ c ∈ after, p c = true := by
  refine ⟨list.takeWhile p, (list.dropWhile p).rtakeWhile p, ?_, ?_, ?_⟩
  · rw [List.append_assoc, stripEnds, List.rdropWhile_append_rtakeWhile,
      List.takeWhile_append_dropWhile]
  · exact fun c member => List.mem_takeWhile_imp member
  · exact fun c member => List.mem_rtakeWhile_imp member

/-! ## Separators -/

section Separators

variable {α β : Type*} {separator : α} {parts : List (List α)}

theorem mem_intercalate {c : α} (member : c ∈ [separator].intercalate parts) :
    c = separator ∨ ∃ part ∈ parts, c ∈ part := by
  induction parts with
  | nil => cases member
  | cons part rest ih =>
      cases rest with
      | nil =>
          rw [List.intercalate_singleton] at member
          exact .inr ⟨part, List.mem_cons_self, member⟩
      | cons next rest =>
          rw [List.intercalate_cons_cons, List.append_assoc, List.mem_append,
            List.singleton_append, List.mem_cons] at member
          rcases member with inPart | same | inRest
          · exact .inr ⟨part, List.mem_cons_self, inPart⟩
          · exact .inl same
          · apply (ih inRest).imp_right
            rintro ⟨other, inParts, inOther⟩
            exact ⟨other, List.mem_cons_of_mem _ inParts, inOther⟩

/-- What holds of the separator holds of a joined list when it holds of the parts. -/
theorem forall_mem_intercalate_iff {q : α → Prop} (separates : q separator) :
    (∀ c ∈ [separator].intercalate parts, q c) ↔ ∀ part ∈ parts, ∀ c ∈ part, q c := by
  induction parts with
  | nil => simp
  | cons part rest ih =>
      cases rest with
      | nil => simp
      | cons next rest =>
          rw [List.intercalate_cons_cons, List.forall_mem_append, List.forall_mem_append, ih,
            List.forall_mem_singleton, List.forall_mem_cons (l := next :: rest)]
          simp [separates]

theorem map_intercalate (f : α → β) :
    ([separator].intercalate parts).map f = [f separator].intercalate (parts.map (·.map f)) := by
  induction parts with
  | nil => rfl
  | cons part rest ih =>
      cases rest with
      | nil =>
          rw [List.intercalate_singleton]
          exact List.intercalate_singleton.symm
      | cons next rest =>
          rw [List.intercalate_cons_cons, List.map_append, List.map_append, ih]
          exact List.intercalate_cons_cons.symm

/-- Non-empty parts joined by separators end in the last character of a part. -/
theorem getLast?_intercalate (separator : α) (nonempty : parts ≠ [])
    (solid : ∀ part ∈ parts, part ≠ []) :
    ∃ part ∈ parts, ∃ c ∈ part, ([separator].intercalate parts).getLast? = some c := by
  induction parts with
  | nil => exact absurd rfl nonempty
  | cons part rest ih =>
      cases rest with
      | nil =>
          have last := List.getLast?_eq_some_getLast (solid part List.mem_cons_self)
          rw [List.intercalate_singleton]
          exact ⟨part, List.mem_cons_self, _, List.mem_of_getLast? last, last⟩
      | cons next rest =>
          obtain ⟨other, inRest, c, member, last⟩ := ih (List.cons_ne_nil _ _)
            fun other inRest => solid other (List.mem_cons_of_mem _ inRest)
          refine ⟨other, List.mem_cons_of_mem _ inRest, c, member, ?_⟩
          rw [List.intercalate_cons_cons, List.getLast?_append, last]
          rfl

/-- Parts without the separator can be told from what they are joined to. -/
theorem intercalate_injective [DecidableEq α] {others : List (List α)} (nonempty : parts ≠ [])
    (othersNonempty : others ≠ []) (free : ∀ part ∈ parts, separator ∉ part)
    (othersFree : ∀ part ∈ others, separator ∉ part)
    (same : [separator].intercalate parts = [separator].intercalate others) : parts = others := by
  rw [← List.splitOn_intercalate separator free nonempty, same,
    List.splitOn_intercalate separator othersFree othersNonempty]

end Separators

end FerroTunnel.Text
