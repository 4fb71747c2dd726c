import Mathlib.Data.List.Basic

/-!
# Header maps

A header map is the list of its headers in order, each a lower-case name and a
value.  A value is written with one character for each of its bytes.
-/

namespace FerroTunnel.Ingress

/-- The value of a header. -/
abbrev HeaderValue := String

/-- The headers in their order. -/
abbrev HeaderMap := List (String × HeaderValue)

/-- The characters of a value that can be read as text. -/
def isVisible (c : Char) : Bool :=
  (32 ≤ c.toNat && c.toNat < 127) || c = '\t'

/-- The text of a value, if all of it can be read as text. -/
def HeaderValue.toStr (value : HeaderValue) : Option String :=
  if value.toList.all isVisible then some value else none

/-- Make a value of a text. -/
def HeaderValue.fromStr (text : String) : Option HeaderValue :=
  if text.toList.all isVisible then some text else none

/-- The characters of a header name. -/
def isNameChar (c : Char) : Bool :=
  c.isAlphanum || "!#$%&'*+-.^_`|~".toList.contains c

/-- Make a header name of a text. -/
def headerName (text : String) : Option String :=
  if text.toList ≠ [] ∧ text.toList.all isNameChar then
    some (String.ofList (text.toList.map Char.toLower))
  else
    none

namespace HeaderMap

/-- The first value of a header. -/
def get (headers : HeaderMap) (name : String) : Option HeaderValue :=
  (headers.find? fun header => header.1 = name).map Prod.snd

/-- Remove every value of a header. -/
def remove (headers : HeaderMap) (name : String) : HeaderMap :=
  headers.filter fun header => header.1 ≠ name

/-- Replace every value of a header by one. -/
def insert (headers : HeaderMap) (name : String) (value : HeaderValue) : HeaderMap :=
  headers.remove name ++ [(name, value)]

end HeaderMap

/-- Blank characters of a text that can be read. -/
def isBlank (c : Char) : Bool :=
  c = ' ' || c = '\t'

/-- A printed character. -/
def isInk (c : Char) : Bool :=
  33 ≤ c.toNat && c.toNat < 127

theorem isInk_iff (c : Char) : isInk c = true ↔ 33 ≤ c.toNat ∧ c.toNat < 127 := by
  rw [isInk, Bool.and_eq_true, decide_eq_true_iff, decide_eq_true_iff]

theorem isVisible_of_isInk {c : Char} (ink : isInk c = true) : isVisible c = true := by
  rw [isInk_iff] at ink
  simp only [isVisible, Bool.or_eq_true, Bool.and_eq_true, decide_eq_true_iff]
  omega

theorem isBlank_of_isInk {c : Char} (ink : isInk c = true) : isBlank c = false := by
  rw [isInk_iff] at ink
  rw [isBlank, Bool.or_eq_false_iff, decide_eq_false_iff_not, decide_eq_false_iff_not,
    ← Char.toNat_inj, ← Char.toNat_inj]
  change c.toNat ≠ 32 ∧ c.toNat ≠ 9
  omega

theorem isVisible_of_isBlank {c : Char} (blank : isBlank c = true) : isVisible c = true := by
  rw [isBlank, Bool.or_eq_true, decide_eq_true_iff, decide_eq_true_iff] at blank
  rcases blank with rfl | rfl <;> decide

/-- Remove blanks at both ends. -/
def trim (text : List Char) : List Char :=
  ((text.dropWhile isBlank).reverse.dropWhile isBlank).reverse

/-- The parts of a text between separators. -/
def split (separator : Char) (text : List Char) : List (List Char) :=
  text.splitOn separator

/-- The hop-by-hop headers that are always removed. -/
def hopByHopHeaders : List String :=
  ["connection", "transfer-encoding", "upgrade", "te", "trailer", "proxy-authenticate",
    "proxy-authorization", "keep-alive"]

/-- Remove the headers that one `Connection` value names. -/
def removeNamed (headers : HeaderMap) (value : String) : HeaderMap :=
  (split ',' value.toList).foldl
    (fun headers part =>
      let name := trim part
      if name = [] ∨ name.map Char.toLower = "host".toList then
        headers
      else
        match headerName (String.ofList name) with
        | some header => headers.remove header
        | none => headers)
    headers

/-- Remove the hop-by-hop headers before a message is passed on. -/
def stripHopByHopHeaders (headers : HeaderMap) : HeaderMap :=
  let named :=
    match headers.get "connection" with
    | some connection =>
        match HeaderValue.toStr connection with
        | some value => removeNamed headers value
        | none => headers
    | none => headers
  hopByHopHeaders.foldl HeaderMap.remove named

end FerroTunnel.Ingress
