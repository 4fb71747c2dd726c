import FerroTunnel.Ingress.Headers
import FerroTunnel.Text.Core

/-!
# Hop-by-hop headers

Stripping keeps exactly the headers that are neither among the eight fixed ones nor
named by the first `Connection` value.  Further `Connection` values, and a first one
that cannot be read as text, are dropped without being read.
-/

namespace FerroTunnel.Ingress

open FerroTunnel.Text

/-! ## What a `Connection` value names -/

/-- A `Connection` value lists a name, in any letter case and with blanks around it. -/
def HeaderValue.lists (value : HeaderValue) (name : String) : Bool :=
  (split ',' value.toList).any fun part => (trim part).map Char.toLower = name.toList

namespace HeaderMap

/-- Every name of the map is a header name in lower case. -/
def WellFormed (headers : HeaderMap) : Prop :=
  ∀ header ∈ headers, headerName header.1 = some header.1

/-- Every value of a header, in order. -/
def getAll (headers : HeaderMap) (name : String) : List HeaderValue :=
  (headers.filter fun header => header.1 = name).map Prod.snd

/-- Some `Connection` value lists the name. -/
def ConnectionLists (headers : HeaderMap) (name : String) : Prop :=
  ∃ value ∈ headers.getAll "connection", HeaderValue.lists value name = true

/-- The first `Connection` value is a text and lists the name. -/
def FirstConnectionLists (headers : HeaderMap) (name : String) : Prop :=
  ∃ value ∈ headers.get "connection",
    (HeaderValue.toStr value).isSome = true ∧ HeaderValue.lists value name = true

instance (headers : HeaderMap) : Decidable headers.WellFormed :=
  inferInstanceAs (Decidable (∀ header ∈ headers, _))

instance (headers : HeaderMap) (name : String) : Decidable (headers.ConnectionLists name) :=
  inferInstanceAs (Decidable (∃ value ∈ headers.getAll "connection", _))

instance (headers : HeaderMap) (name : String) : Decidable (headers.FirstConnectionLists name) :=
  inferInstanceAs (Decidable (∃ value ∈ headers.get "connection", _))

theorem firstConnectionLists_imp {headers : HeaderMap} {name : String}
    (first : headers.FirstConnectionLists name) : headers.ConnectionLists name := by
  obtain ⟨value, got, -, listed⟩ := first
  obtain ⟨header, found, rfl⟩ := Option.map_eq_some_iff.mp got
  have named := List.find?_some found
  have member := List.mem_of_find?_eq_some found
  exact ⟨header.2, List.mem_map_of_mem (List.mem_filter.mpr ⟨member, named⟩), listed⟩

theorem foldl_remove (names : List String) (headers : HeaderMap) :
    names.foldl remove headers = headers.filter fun header => header.1 ∉ names := by
  induction names generalizing headers with
  | nil => simp
  | cons name names ih =>
      rw [List.foldl_cons, ih, remove, List.filter_filter]
      congr 1
      funext header
      rw [Bool.eq_iff_iff]
      simp [and_comm]

/-- Filtering by name acts on all values of a header at once. -/
theorem getAll_filter (headers : HeaderMap) (keep : String → Bool) (name : String) :
    HeaderMap.getAll (headers.filter fun header => keep header.1) name =
      if keep name then headers.getAll name else [] := by
  rw [getAll, List.filter_filter]
  split
  · next kept =>
    rw [getAll]
    congr 2
    funext header
    by_cases same : header.1 = name
    · simp [same, kept]
    · simp [same]
  · next removed =>
    rw [List.map_eq_nil_iff, List.filter_eq_nil_iff]
    intro header _ both
    simp only [Bool.and_eq_true, decide_eq_true_iff] at both
    exact removed (both.1 ▸ both.2)

end HeaderMap

/-- The header that one entry of a `Connection` value removes. -/
def namedHeader (part : List Char) : Option String :=
  if trim part = [] ∨ (trim part).map Char.toLower = "host".toList then
    none
  else
    headerName (String.ofList (trim part))

/-- The headers that a `Connection` value removes. -/
def namedHeaders (value : HeaderValue) : List String :=
  (split ',' value.toList).filterMap namedHeader

/-- The headers that the `Connection` values of a map remove. -/
def connectionHeaders (headers : HeaderMap) : List String :=
  ((headers.get "connection").bind HeaderValue.toStr).elim [] namedHeaders

theorem isNameChar_toLower (c : Char) : isNameChar c.toLower = isNameChar c := by
  by_cases letter : c.isAlphanum = true
  · rw [isNameChar, isNameChar, isAlphanum_toLower, letter, Bool.true_or, Bool.true_or]
  · rw [toLower_eq_self_of_not_isAlphanum letter]

variable {name : String}

theorem headerName_eq_some_iff {text : String} : headerName text = some name ↔
    (text.toList ≠ [] ∧ text.toList.all isNameChar = true) ∧
      text.toList.map Char.toLower = name.toList := by
  rw [headerName]
  split
  · next valid =>
    rw [Option.some.injEq, ← String.toList_inj, String.toList_ofList]
    exact (and_iff_right valid).symm
  · next invalid =>
    constructor
    · intro made
      cases made
    · exact fun parts => absurd parts.1 invalid

/-- An entry removes the header that it lists, other than `Host`. -/
theorem namedHeader_of_listed {part : List Char} (valid : headerName name = some name)
    (listed : (trim part).map Char.toLower = name.toList) (notHost : name ≠ "host") :
    namedHeader part = some name := by
  obtain ⟨⟨nonempty, nameChars⟩, -⟩ := headerName_eq_some_iff.mp valid
  have some : trim part ≠ [] := by
    intro empty
    rw [empty] at listed
    exact nonempty listed.symm
  have other : (trim part).map Char.toLower ≠ "host".toList :=
    fun host => notHost (String.toList_inj.mp (listed.symm.trans host))
  have lowered : ∀ c ∈ (trim part).map Char.toLower, isNameChar c = true := by
    rw [listed]
    exact List.all_eq_true.mp nameChars
  have chars : ∀ c ∈ trim part, isNameChar c = true := by
    intro c member
    rw [← isNameChar_toLower]
    exact lowered _ (List.mem_map_of_mem member)
  rw [namedHeader, if_neg (not_or.mpr ⟨some, other⟩), headerName_eq_some_iff,
    String.toList_ofList]
  exact ⟨⟨some, List.all_eq_true.mpr chars⟩, listed⟩

/-- What an entry removes is what it lists, and never `Host`. -/
theorem listed_of_namedHeader {part : List Char} (named : namedHeader part = some name) :
    (trim part).map Char.toLower = name.toList ∧ name ≠ "host" := by
  rw [namedHeader] at named
  split at named
  · cases named
  · next read =>
    have listed := (headerName_eq_some_iff.mp named).2
    rw [String.toList_ofList] at listed
    constructor
    · exact listed
    · rintro rfl
      exact read (.inr listed)

/-- The map's `Connection` headers remove what the first of them lists. -/
theorem mem_connectionHeaders_iff {headers : HeaderMap} :
    name ∈ connectionHeaders headers ↔ ∃ value ∈ headers.get "connection",
      (HeaderValue.toStr value).isSome = true ∧ name ∈ namedHeaders value := by
  rw [connectionHeaders]
  cases headers.get "connection" with
  | none => simp
  | some value =>
      by_cases readable : value.toList.all isVisible = true
      · have text : HeaderValue.toStr value = some value := if_pos readable
        simp [text]
      · have noText : HeaderValue.toStr value = none := if_neg readable
        simp [noText]

theorem lists_of_mem_namedHeaders {value : HeaderValue} (named : name ∈ namedHeaders value) :
    HeaderValue.lists value name = true ∧ name ≠ "host" := by
  obtain ⟨part, member, removed⟩ := List.mem_filterMap.mp named
  obtain ⟨listed, notHost⟩ := listed_of_namedHeader removed
  exact ⟨List.any_eq_true.mpr ⟨part, member, decide_eq_true listed⟩, notHost⟩

theorem mem_namedHeaders_of_lists {value : HeaderValue} (valid : headerName name = some name)
    (listed : HeaderValue.lists value name = true) (notHost : name ≠ "host") :
    name ∈ namedHeaders value := by
  obtain ⟨part, member, same⟩ := List.any_eq_true.mp listed
  exact List.mem_filterMap.mpr
    ⟨part, member, namedHeader_of_listed valid (of_decide_eq_true same) notHost⟩

/-! ## Stripping -/

theorem removeNamed_eq (headers : HeaderMap) (value : HeaderValue) :
    removeNamed headers value = (namedHeaders value).foldl HeaderMap.remove headers := by
  rw [removeNamed, namedHeaders, List.foldl_filterMap]
  congr 1
  funext headers part
  simp only [namedHeader]
  split
  · rfl
  · cases headerName (String.ofList (trim part)) <;> rfl

/-- Stripping is the removal of two lists of headers. -/
theorem stripHopByHopHeaders_eq_foldl (headers : HeaderMap) :
    stripHopByHopHeaders headers =
      hopByHopHeaders.foldl HeaderMap.remove
        ((connectionHeaders headers).foldl HeaderMap.remove headers) := by
  rw [stripHopByHopHeaders, connectionHeaders]
  cases headers.get "connection" with
  | none => rfl
  | some connection =>
      simp only [Option.bind_some]
      cases HeaderValue.toStr connection with
      | none => rfl
      | some value =>
          simp only [removeNamed_eq]
          rfl

/-- Stripping keeps the headers that are neither fixed nor named. -/
theorem stripHopByHopHeaders_eq_filter (headers : HeaderMap) :
    stripHopByHopHeaders headers = headers.filter fun header =>
      header.1 ∉ hopByHopHeaders ∧ header.1 ∉ connectionHeaders headers := by
  rw [stripHopByHopHeaders_eq_foldl, HeaderMap.foldl_remove, HeaderMap.foldl_remove,
    List.filter_filter]
  congr 1
  funext header
  rw [Bool.eq_iff_iff]
  simp

theorem mem_stripHopByHopHeaders_iff {headers : HeaderMap} {header : String × HeaderValue} :
    header ∈ stripHopByHopHeaders headers ↔ header ∈ headers ∧
      header.1 ∉ hopByHopHeaders ∧ header.1 ∉ connectionHeaders headers := by
  rw [stripHopByHopHeaders_eq_filter, List.mem_filter, decide_eq_true_iff]

/-- In a well-formed map the first `Connection` value removes what it lists. -/
theorem mem_connectionHeaders_iff_of_wellFormed {headers : HeaderMap}
    (wellFormed : headers.WellFormed) {header : String × HeaderValue} (member : header ∈ headers) :
    header.1 ∈ connectionHeaders headers ↔
      headers.FirstConnectionLists header.1 ∧ header.1 ≠ "host" := by
  rw [mem_connectionHeaders_iff]
  constructor
  · rintro ⟨value, got, readable, named⟩
    obtain ⟨listed, notHost⟩ := lists_of_mem_namedHeaders named
    exact ⟨⟨value, got, readable, listed⟩, notHost⟩
  · rintro ⟨⟨value, got, readable, listed⟩, notHost⟩
    exact ⟨value, got, readable,
      mem_namedHeaders_of_lists (wellFormed header member) listed notHost⟩

/-- No fixed header is left.  No other header that a `Connection` value lists is left,
`Host` apart, exactly when the first `Connection` value lists it too and is a text. -/
theorem stripHopByHopHeaders_complete_iff (headers : HeaderMap)
    (wellFormed : headers.WellFormed) :
    (∀ header ∈ stripHopByHopHeaders headers, header.1 ∉ hopByHopHeaders) ∧
    ((∀ header ∈ stripHopByHopHeaders headers,
        header.1 ≠ "host" → ¬ headers.ConnectionLists header.1) ↔
      ∀ header ∈ headers, header.1 ≠ "host" → header.1 ∉ hopByHopHeaders →
        headers.ConnectionLists header.1 → headers.FirstConnectionLists header.1) := by
  constructor
  · exact fun header kept => (mem_stripHopByHopHeaders_iff.mp kept).2.1
  constructor
  · intro complete header member notHost notFixed listed
    by_contra unread
    have unnamed : header.1 ∉ connectionHeaders headers := fun named =>
      unread ((mem_connectionHeaders_iff_of_wellFormed wellFormed member).mp named).1
    have kept := mem_stripHopByHopHeaders_iff.mpr ⟨member, notFixed, unnamed⟩
    exact complete header kept notHost listed
  · intro firstOnly header kept notHost listed
    obtain ⟨member, notFixed, unnamed⟩ := mem_stripHopByHopHeaders_iff.mp kept
    have first := firstOnly header member notHost notFixed listed
    exact unnamed
      ((mem_connectionHeaders_iff_of_wellFormed wellFormed member).mpr ⟨first, notHost⟩)

/-- A single `Connection` header is read. -/
theorem stripHopByHopHeaders_complete_single :
    let headers : HeaderMap :=
      [("host", "a.example"), ("connection", "close, X-Secret"), ("x-secret", "1")]
    headers.WellFormed ∧
      (∀ header ∈ stripHopByHopHeaders headers, header.1 ∉ hopByHopHeaders) ∧
      ∀ header ∈ stripHopByHopHeaders headers,
        header.1 ≠ "host" → ¬ headers.ConnectionLists header.1 := by
  intro headers
  have wellFormed : headers.WellFormed := by decide
  have complete := stripHopByHopHeaders_complete_iff headers wellFormed
  exact ⟨wellFormed, complete.1, complete.2.mpr (by decide)⟩

/-- A header that only the second `Connection` header names is passed on. -/
theorem stripHopByHopHeaders_second_connection :
    ∃ headers : HeaderMap, headers.WellFormed ∧
      ∃ header ∈ stripHopByHopHeaders headers,
        header.1 ≠ "host" ∧ headers.ConnectionLists header.1 :=
  ⟨[("connection", "close"), ("connection", "x-secret"), ("x-secret", "1")], by decide,
    ("x-secret", "1"), by decide, by decide, by decide⟩

/-- No `Connection` header is left to be read a second time. -/
theorem get_connection_stripHopByHopHeaders (headers : HeaderMap) :
    HeaderMap.get (stripHopByHopHeaders headers) "connection" = none := by
  rw [HeaderMap.get, Option.map_eq_none_iff, List.find?_eq_none]
  intro header kept named
  apply (mem_stripHopByHopHeaders_iff.mp kept).2.1
  rw [of_decide_eq_true named]
  decide

/-- Stripping touches no other header, never `Host`, and is done once. -/
theorem stripHopByHopHeaders_frame (headers : HeaderMap) :
    (∀ name, name ∉ hopByHopHeaders → ¬ headers.ConnectionLists name →
      HeaderMap.getAll (stripHopByHopHeaders headers) name = headers.getAll name) ∧
    HeaderMap.getAll (stripHopByHopHeaders headers) "host" = headers.getAll "host" ∧
    stripHopByHopHeaders (stripHopByHopHeaders headers) = stripHopByHopHeaders headers := by
  have unread : ∀ name, name ∈ connectionHeaders headers →
      headers.ConnectionLists name ∧ name ≠ "host" := by
    intro name named
    obtain ⟨value, got, readable, named⟩ := mem_connectionHeaders_iff.mp named
    obtain ⟨listed, notHost⟩ := lists_of_mem_namedHeaders named
    exact ⟨HeaderMap.firstConnectionLists_imp ⟨value, got, readable, listed⟩, notHost⟩
  constructor
  · intro name notFixed unlisted
    rw [stripHopByHopHeaders_eq_filter, HeaderMap.getAll_filter headers
      (fun name => name ∉ hopByHopHeaders ∧ name ∉ connectionHeaders headers), if_pos]
    exact decide_eq_true ⟨notFixed, fun named => unlisted (unread name named).1⟩
  constructor
  · rw [stripHopByHopHeaders_eq_filter, HeaderMap.getAll_filter headers
      (fun name => name ∉ hopByHopHeaders ∧ name ∉ connectionHeaders headers), if_pos]
    exact decide_eq_true ⟨by decide, fun named => (unread "host" named).2 rfl⟩
  · have stripped : connectionHeaders (stripHopByHopHeaders headers) = [] := by
      rw [connectionHeaders, get_connection_stripHopByHopHeaders]
      rfl
    rw [stripHopByHopHeaders_eq_filter (stripHopByHopHeaders headers), stripped,
      List.filter_eq_self]
    intro header kept
    exact decide_eq_true ⟨(mem_stripHopByHopHeaders_iff.mp kept).2.1, List.not_mem_nil⟩

/-- `Connection` cannot remove `Host`, nor what it does not name. -/
theorem stripHopByHopHeaders_frame_host :
    HeaderMap.getAll (stripHopByHopHeaders
        [("accept", "a"), ("connection", " ,HOST, te"), ("host", "b"), ("accept", "c")]) "accept" =
      ["a", "c"] ∧
    HeaderMap.getAll (stripHopByHopHeaders
        [("accept", "a"), ("connection", " ,HOST, te"), ("host", "b"), ("accept", "c")]) "host" =
      ["b"] :=
  ⟨(stripHopByHopHeaders_frame
      [("accept", "a"), ("connection", " ,HOST, te"), ("host", "b"), ("accept", "c")]).1
      "accept" (by decide) (by decide),
    (stripHopByHopHeaders_frame
      [("accept", "a"), ("connection", " ,HOST, te"), ("host", "b"), ("accept", "c")]).2.1⟩

end FerroTunnel.Ingress
