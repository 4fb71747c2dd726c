import FerroTunnel.Ingress.HostKey

/-!
# Spellings of a host

A host is a name, made of labels between dots, or an IPv6 address in brackets.  A
`Host` value spells it in some letter case, with or without a port and blanks around
it.  Two values have the same routing key exactly when they spell the same host.
-/

namespace FerroTunnel.Ingress

open FerroTunnel.Text

/-! ## Names and addresses -/

/-- The characters of a label. -/
def isLabelChar (c : Char) : Bool :=
  c.isAlphanum || c = '-' || c = '_'

/-- The characters of an IPv6 address. -/
def isAddressChar (c : Char) : Bool :=
  c.isDigit || ('a' ≤ c && c ≤ 'f') || ('A' ≤ c && c ≤ 'F') || c = '.' || c = ':'

/-- Labels between dots, and possibly a final dot. -/
structure DomainName where
  labels : List (List Char)
  finalDot : Bool
  nonempty : labels ≠ []
  labelNonempty : ∀ label ∈ labels, label ≠ []
  labelChars : ∀ label ∈ labels, ∀ c ∈ label, isLabelChar c = true

/-- An IPv6 address as it is written between brackets. -/
structure Ipv6Literal where
  address : List Char
  addressChars : ∀ c ∈ address, isAddressChar c = true
  colons : 2 ≤ address.count ':'
  noFinalDot : address.getLast? ≠ some '.'

/-- A host as a request names it. -/
inductive HostSpelling
  | name (domain : DomainName)
  | literal (ipv6 : Ipv6Literal)

/-- A `Host` value: a host, possibly a port, and blanks around it. -/
structure HostForm where
  before : List Char
  host : HostSpelling
  port : Option (List Char)
  after : List Char
  beforeBlank : ∀ c ∈ before, isBlank c = true
  afterBlank : ∀ c ∈ after, isBlank c = true
  portDigits : ∀ digits ∈ port, ∀ c ∈ digits, c.isDigit = true

/-- The labels between dots. -/
def DomainName.dotted (name : DomainName) : List Char :=
  ['.'].intercalate name.labels

/-- The characters of the host. -/
def HostSpelling.text : HostSpelling → List Char
  | .name domain => domain.dotted ++ (if domain.finalDot then ['.'] else [])
  | .literal ipv6 => '[' :: (ipv6.address ++ [']'])

/-- The port with its colon. -/
def HostForm.portText (form : HostForm) : List Char :=
  form.port.elim [] fun digits => ':' :: digits

/-- The value of the header. -/
def HostForm.value (form : HostForm) : HeaderValue :=
  String.ofList (form.before ++ (form.host.text ++ form.portText) ++ form.after)

/-- The same host, up to letter case and a final dot of a name. -/
def HostSpelling.Same : HostSpelling → HostSpelling → Prop
  | .name first, .name second =>
      first.labels.map (·.map Char.toLower) = second.labels.map (·.map Char.toLower)
  | .literal first, .literal second =>
      first.address.map Char.toLower = second.address.map Char.toLower
  | _, _ => False

/-! ## The key of a spelling -/

/-- The key of a host. -/
def HostSpelling.key : HostSpelling → List Char
  | .name domain => domain.dotted.map Char.toLower
  | .literal ipv6 => ipv6.address.map Char.toLower

theorem isLabelChar_iff (c : Char) : isLabelChar c = true ↔
    (65 ≤ c.toNat ∧ c.toNat ≤ 90) ∨ (97 ≤ c.toNat ∧ c.toNat ≤ 122) ∨
      (48 ≤ c.toNat ∧ c.toNat ≤ 57) ∨ c.toNat = 45 ∨ c.toNat = 95 := by
  simp [isLabelChar, isAlphanum_iff, ← Char.toNat_inj, or_assoc]

theorem isAddressChar_iff (c : Char) : isAddressChar c = true ↔
    (48 ≤ c.toNat ∧ c.toNat ≤ 57) ∨ (97 ≤ c.toNat ∧ c.toNat ≤ 102) ∨
      (65 ≤ c.toNat ∧ c.toNat ≤ 70) ∨ c.toNat = 46 ∨ c.toNat = 58 := by
  have digit : c.isDigit = (c.val ≥ '0'.val && c.val ≤ '9'.val) := rfl
  simp [isAddressChar, digit, Char.le_def, UInt32.le_iff_toNat_le, ← Char.toNat_inj, or_assoc]

namespace DomainName

variable (name : DomainName)

/-- A name is made of label characters and dots. -/
theorem mem_dotted {c : Char} (member : c ∈ name.dotted) : isLabelChar c = true ∨ c = '.' := by
  rcases mem_intercalate member with dot | ⟨label, inLabels, inLabel⟩
  · exact .inr dot
  · exact .inl (name.labelChars label inLabels c inLabel)

/-- A name without its final dot ends in a label. -/
theorem getLast?_dotted :
    ∃ c, isLabelChar c = true ∧ name.dotted.getLast? = some c := by
  obtain ⟨label, inLabels, c, inLabel, last⟩ :=
    getLast?_intercalate '.' name.nonempty name.labelNonempty
  exact ⟨c, name.labelChars label inLabels c inLabel, last⟩

theorem dotted_ne_nil : name.dotted ≠ [] := by
  obtain ⟨c, -, last⟩ := name.getLast?_dotted
  intro empty
  rw [empty] at last
  cases last

theorem not_isLabelChar_dot : isLabelChar '.' ≠ true := by
  decide

/-- The final dot is the only one that is removed. -/
theorem stripFinalDot_text :
    stripFinalDot (name.dotted ++ if name.finalDot then ['.'] else []) = name.dotted := by
  cases name.finalDot with
  | true => exact stripFinalDot_append_dot name.dotted
  | false =>
      obtain ⟨c, label, last⟩ := name.getLast?_dotted
      rw [if_neg Bool.false_ne_true, List.append_nil, stripFinalDot_eq_self]
      rw [last]
      rintro ⟨⟩
      exact not_isLabelChar_dot label

end DomainName

/-! ## The key of a form -/

theorem isInk_of_isLabelChar {c : Char} (label : isLabelChar c = true) : isInk c = true := by
  rw [isLabelChar_iff] at label
  rw [isInk_iff]
  omega

theorem isInk_of_isAddressChar {c : Char} (address : isAddressChar c = true) :
    isInk c = true := by
  rw [isAddressChar_iff] at address
  rw [isInk_iff]
  omega

theorem isInk_of_isDigit {c : Char} (digit : c.isDigit = true) : isInk c = true := by
  rw [isDigit_iff] at digit
  rw [isInk_iff]
  omega

/-- A name has neither colons nor brackets. -/
theorem DomainName.mem_text {name : DomainName} {c : Char}
    (member : c ∈ name.dotted ++ if name.finalDot then ['.'] else []) :
    isInk c = true ∧ c ≠ '[' ∧ c ≠ ':' := by
  have kinds : isLabelChar c = true ∨ c = '.' := by
    rcases List.mem_append.mp member with inDotted | inEnd
    · exact name.mem_dotted inDotted
    · split at inEnd
      · exact .inr (List.mem_singleton.mp inEnd)
      · cases inEnd
  rcases kinds with label | rfl
  · have ink := isInk_of_isLabelChar label
    rw [isLabelChar_iff] at label
    rw [ne_eq, ne_eq, ← Char.toNat_inj, ← Char.toNat_inj]
    change _ ∧ c.toNat ≠ 91 ∧ c.toNat ≠ 58
    exact ⟨ink, by omega, by omega⟩
  · decide

theorem Ipv6Literal.ne_bracket {ipv6 : Ipv6Literal} : ∀ c ∈ ipv6.address, c ≠ ']' := by
  intro c member
  have address := (isAddressChar_iff c).mp (ipv6.addressChars c member)
  rw [ne_eq, ← Char.toNat_inj]
  change c.toNat ≠ 93
  omega

theorem HostSpelling.isInk_text (host : HostSpelling) : ∀ c ∈ host.text, isInk c = true := by
  intro c member
  cases host with
  | name domain => exact (DomainName.mem_text member).1
  | literal ipv6 =>
      rcases List.mem_cons.mp member with rfl | inside
      · decide
      · rcases List.mem_append.mp inside with inAddress | last
        · exact isInk_of_isAddressChar (ipv6.addressChars c inAddress)
        · rw [List.mem_singleton.mp last]
          decide

namespace HostForm

variable (form : HostForm)

theorem isInk_written : ∀ c ∈ form.host.text ++ form.portText, isInk c = true := by
  intro c member
  rcases List.mem_append.mp member with inHost | inPort
  · exact form.host.isInk_text c inHost
  · have digits := form.portDigits
    rw [portText] at inPort
    cases port : form.port with
    | none =>
        rw [port] at inPort
        cases inPort
    | some text =>
        rw [port] at inPort
        rcases List.mem_cons.mp inPort with rfl | inText
        · decide
        · exact isInk_of_isDigit (digits text port c inText)

/-- The value is a text. -/
theorem isVisible_value : form.value.toList.all isVisible = true := by
  rw [value, String.toList_ofList, List.all_eq_true]
  intro c member
  rcases List.mem_append.mp member with front | inAfter
  · rcases List.mem_append.mp front with inBefore | written
    · exact isVisible_of_isBlank (form.beforeBlank c inBefore)
    · exact isVisible_of_isInk (form.isInk_written c written)
  · exact isVisible_of_isBlank (form.afterBlank c inAfter)

/-- Only the blanks around the host and the port are removed. -/
theorem trim_value : trim form.value.toList = form.host.text ++ form.portText := by
  rw [value, String.toList_ofList, trim_eq_stripEnds]
  apply stripEnds_append form.beforeBlank _ form.afterBlank
  exact solidEnds_of_forall fun c member => isBlank_of_isInk (form.isInk_written c member)

theorem portText_cases : form.portText = [] ∨
    ∃ digits, form.portText = ':' :: digits ∧ ∀ c ∈ digits, c ≠ ':' := by
  rw [portText]
  cases port : form.port with
  | none => exact .inl rfl
  | some digits =>
      refine .inr ⟨digits, rfl, ?_⟩
      intro c member
      have digit := (isDigit_iff c).mp (form.portDigits digits port c member)
      rw [ne_eq, ← Char.toNat_inj]
      change c.toNat ≠ 58
      omega

end HostForm

/-- The host part of a form is the name, or the address between the brackets. -/
def HostSpelling.part : HostSpelling → List Char
  | .name domain => domain.dotted ++ (if domain.finalDot then ['.'] else [])
  | .literal ipv6 => ipv6.address

theorem HostForm.hostPart_value (form : HostForm) :
    hostPart (trim form.value.toList) = .ok form.host.part := by
  rw [form.trim_value]
  cases form.host with
  | name domain =>
      apply hostPart_append
      · apply head?_append_ne_bracket
        · exact List.append_ne_nil_of_left_ne_nil domain.dotted_ne_nil _
        · exact fun c member => (DomainName.mem_text member).2.1
      · exact fun c member => (DomainName.mem_text member).2.2
      · exact form.portText_cases
  | literal ipv6 =>
      rw [HostSpelling.text, List.cons_append, List.append_assoc]
      exact hostPart_brackets ipv6.ne_bracket form.portText

theorem HostSpelling.key_eq (host : HostSpelling) :
    host.key = (stripFinalDot host.part).map Char.toLower := by
  cases host with
  | name domain => rw [part, domain.stripFinalDot_text, key]
  | literal ipv6 => rw [part, stripFinalDot_eq_self ipv6.noFinalDot, key]

theorem HostSpelling.key_ne_nil (host : HostSpelling) : host.key ≠ [] := by
  cases host with
  | name domain =>
      rw [key, ne_eq, List.map_eq_nil_iff]
      exact domain.dotted_ne_nil
  | literal ipv6 =>
      rw [key, ne_eq, List.map_eq_nil_iff]
      intro empty
      have colons := ipv6.colons
      rw [empty] at colons
      exact absurd colons (by decide)

/-- Every form has a key, and it is the key of its host. -/
theorem parseAndNormalizeHost_value (form : HostForm) :
    parseAndNormalizeHost (some form.value) = .ok (String.ofList form.host.key) := by
  rw [parseAndNormalizeHost_eq_ok_iff, String.toList_ofList]
  exact ⟨form.isVisible_value, form.host.key_ne_nil, form.host.part, form.hostPart_value,
    form.host.key_eq⟩

/-! ## Same key, same host -/

/-- In lower case the labels of a name are still free of dots. -/
theorem DomainName.dot_not_mem_lower (name : DomainName) :
    ∀ label ∈ name.labels.map (·.map Char.toLower), '.' ∉ label := by
  intro label inLabels inLabel
  obtain ⟨original, member, rfl⟩ := List.mem_map.mp inLabels
  obtain ⟨c, inOriginal, lowered⟩ := List.mem_map.mp inLabel
  have dot := (toLower_eq_dot_iff c).mp lowered
  rw [dot] at inOriginal
  exact not_isLabelChar_dot (name.labelChars original member '.' inOriginal)

theorem DomainName.key_eq (name : DomainName) : (HostSpelling.name name).key =
    ['.'].intercalate (name.labels.map (·.map Char.toLower)) :=
  map_intercalate Char.toLower

theorem DomainName.count_colon_key (name : DomainName) :
    (HostSpelling.name name).key.count ':' = 0 := by
  rw [HostSpelling.key, count_colon_map_toLower, List.count_eq_zero]
  intro member
  exact (DomainName.mem_text (List.mem_append_left _ member)).2.2 rfl

theorem Ipv6Literal.count_colon_key (ipv6 : Ipv6Literal) :
    2 ≤ (HostSpelling.literal ipv6).key.count ':' := by
  rw [HostSpelling.key, count_colon_map_toLower]
  exact ipv6.colons

/-- The colons of an address keep it apart from every name. -/
theorem name_key_ne_literal_key (domain : DomainName) (ipv6 : Ipv6Literal) :
    (HostSpelling.name domain).key ≠ (HostSpelling.literal ipv6).key := by
  intro same
  have colons := ipv6.count_colon_key
  rw [← same, domain.count_colon_key] at colons
  exact absurd colons (by decide)

theorem HostSpelling.key_eq_key_iff (first second : HostSpelling) :
    first.key = second.key ↔ first.Same second := by
  cases first with
  | name domain =>
      cases second with
      | name other =>
          rw [domain.key_eq, other.key_eq]
          constructor
          · apply intercalate_injective
            · simpa using domain.nonempty
            · simpa using other.nonempty
            · exact domain.dot_not_mem_lower
            · exact other.dot_not_mem_lower
          · exact fun same => congrArg _ same
      | literal ipv6 => exact iff_of_false (name_key_ne_literal_key domain ipv6) id
  | literal ipv6 =>
      cases second with
      | name other =>
          exact iff_of_false (fun same => name_key_ne_literal_key other ipv6 same.symm) id
      | literal other => exact Iff.rfl

/-- Both values have a key, and it is the same key exactly when they spell the same
host. -/
theorem parseAndNormalizeHost_eq_iff (first second : HostForm) :
    ∃ key otherKey, parseAndNormalizeHost (some first.value) = .ok key ∧
      parseAndNormalizeHost (some second.value) = .ok otherKey ∧
      (key = otherKey ↔ first.host.Same second.host) := by
  refine ⟨_, _, parseAndNormalizeHost_value first, parseAndNormalizeHost_value second, ?_⟩
  rw [String.ofList_inj, HostSpelling.key_eq_key_iff]

example : HostForm.value
    { before := [' '], host := .name ⟨["App".toList, "my_site".toList], true, by simp, by simp,
        by simp [isLabelChar, Char.isAlphanum, Char.isAlpha, Char.isUpper, Char.isLower]⟩,
      port := some "80".toList, after := [], beforeBlank := by simp [isBlank],
      afterBlank := by simp, portDigits := by simp [Char.isDigit] } = " App.my_site.:80" :=
  rfl

end FerroTunnel.Ingress
