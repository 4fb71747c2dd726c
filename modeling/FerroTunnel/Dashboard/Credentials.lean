import FerroTunnel.Ingress.Headers
import FerroTunnel.Text.Core
import FerroTunnel.Text.Percent
import FerroTunnel.Tunnel.Authentication

/-!
# Credentials of the dashboard

The dashboard takes its token from a bearer authorization, from a header of its own,
from a cookie or from the query.  The page writes the token into the cookie and the
query as `encodeURIComponent` encodes it.

The query gives it back whatever else it holds.  The cookie gives it back unless another
cookie of the header has a byte that cannot be read as text: then the whole header is
ignored.
-/

namespace FerroTunnel.Dashboard

open FerroTunnel.Ingress
open FerroTunnel.Text
open FerroTunnel.Tunnel

/-! ## Decoding -/

/-- A read outside an array. -/
inductive Panic
  | indexOutOfBounds
deriving DecidableEq

/-- The conversion of bytes to a text that replaces what is not valid. -/
structure LossyUtf8 where
  convert : List UInt8 → String
  convert_asBytes : ∀ text, convert (asBytes text) = text

/-- An index into the bytes panics beyond their end. -/
def readByte (bytes : List UInt8) (index : Nat) : Except Panic UInt8 :=
  match bytes[index]? with
  | some byte => .ok byte
  | none => .error .indexOutOfBounds

/-- Decode from an index on, after what is `decoded`. -/
def percentDecodeFrom (bytes : List UInt8) (plusAsSpace : Bool) (index : Nat)
    (decoded : List UInt8) : Except Panic (List UInt8) :=
  if index < bytes.length then
    match readByte bytes index with
    | .error panic => .error panic
    | .ok byte =>
        if byte = 37 ∧ index + 2 < bytes.length then
          match readByte bytes (index + 1), readByte bytes (index + 2) with
          | .ok first, .ok second =>
              match hexValue first, hexValue second with
              | some high, some low =>
                  percentDecodeFrom bytes plusAsSpace (index + 3) (decoded ++ [joinDigits high low])
              | _, _ => percentDecodeFrom bytes plusAsSpace (index + 1) (decoded ++ [byte])
          | .error panic, _ => .error panic
          | _, .error panic => .error panic
        else if byte = 43 ∧ plusAsSpace then
          percentDecodeFrom bytes plusAsSpace (index + 1) (decoded ++ [32])
        else
          percentDecodeFrom bytes plusAsSpace (index + 1) (decoded ++ [byte])
  else
    .ok decoded
termination_by bytes.length - index

/-- The value with its escapes decoded. -/
def percentDecode (lossy : LossyUtf8) (value : List Char) (plusAsSpace : Bool) :
    Except Panic String :=
  (percentDecodeFrom (asBytes (String.ofList value)) plusAsSpace 0 []).map lossy.convert

/-! ## Tokens of a request -/

/-- The name of the cookie. -/
def dashboardAuthCookie : String := "ferrotunnel_dashboard_token"

/-- What stands before and after the first separator. -/
def splitOnce (separator : Char) : List Char → Option (List Char × List Char)
  | [] => none
  | c :: rest =>
      if c = separator then
        some ([], rest)
      else
        (splitOnce separator rest).map fun (before, after) => (c :: before, after)

/-- The token of one cookie. -/
def cookiePartToken (lossy : LossyUtf8) (part : List Char) : Except Panic (Option String) :=
  match splitOnce '=' (trim part) with
  | none => .ok none
  | some (name, token) =>
      if name = dashboardAuthCookie.toList then
        (percentDecode lossy token false).map some
      else
        .ok none

/-- The token in the cookies of a request. -/
def cookieToken (lossy : LossyUtf8) (headers : HeaderMap) : Except Panic (Option String) :=
  match (headers.get "cookie").bind HeaderValue.toStr with
  | none => .ok none
  | some value => (split ';' value.toList).findSomeM? (cookiePartToken lossy)

/-- The token of one query parameter. -/
def queryPartToken (lossy : LossyUtf8) (part : List Char) : Except Panic (Option String) := do
  let (name, token) := (splitOnce '=' part).getD (part, [])
  let name ← percentDecode lossy name true
  if name = "token" then
    (percentDecode lossy token true).map some
  else
    .ok none

/-- The token in a query. -/
def queryToken (lossy : LossyUtf8) : Option String → Except Panic (Option String)
  | none => .ok none
  | some query => (split '&' query.toList).findSomeM? (queryPartToken lossy)

/-- The comparison of tokens; the dashboard has a copy of its own. -/
def constantTimeEq (left right : List UInt8) : Bool :=
  (List.range (max left.length right.length)).foldl
    (fun same index => same && (left.getD index 0 == right.getD index 0))
    (left.length == right.length)

theorem constantTimeEq_eq_true_iff (left right : List UInt8) :
    constantTimeEq left right = true ↔ left = right :=
  Tunnel.constantTimeEq_eq_true_iff left right

/-! ## The decoder -/

variable {bytes : List UInt8} {before after : List (List Char)}

theorem readByte_of_drop {tail : List UInt8} {index : Nat} {byte : UInt8}
    (dropped : bytes.drop index = byte :: tail) : readByte bytes index = .ok byte := by
  have found : bytes[index]? = some byte := by
    rw [← List.head?_drop, dropped]
    rfl
  rw [readByte, found]

theorem drop_succ_of_drop {tail : List UInt8} {index : Nat} {byte : UInt8}
    (dropped : bytes.drop index = byte :: tail) : bytes.drop (index + 1) = tail := by
  rw [← List.tail_drop, dropped]
  rfl

theorem length_of_drop {tail : List UInt8} {index : Nat} {byte : UInt8}
    (dropped : bytes.drop index = byte :: tail) : bytes.length = index + 1 + tail.length := by
  have length := congrArg List.length dropped
  rw [List.length_drop, List.length_cons] at length
  omega

section Loop

variable {bytes tail : List UInt8} {plusAsSpace : Bool} {index : Nat} {byte : UInt8}
  (dropped : bytes.drop index = byte :: tail) (decoded : List UInt8)

include dropped

/-- The loop takes an escape at once. -/
theorem percentDecodeFrom_of_escape {value : UInt8} {rest : List UInt8}
    (escaped : escape? (byte :: tail) = some (value, rest)) :
    percentDecodeFrom bytes plusAsSpace index decoded =
        percentDecodeFrom bytes plusAsSpace (index + 3) (decoded ++ [value]) ∧
      bytes.drop (index + 3) = rest := by
  have length := length_of_drop dropped
  have second := drop_succ_of_drop dropped
  match tail, escaped with
  | first :: low :: later, escaped =>
      have third := drop_succ_of_drop second
      have fourth := drop_succ_of_drop third
      simp only [escape?] at escaped
      split at escaped
      · next percent =>
        split at escaped
        · next high _ highValue lowValue =>
          cases escaped
          have inside : index < bytes.length := by omega
          have ahead : byte = 37 ∧ index + 2 < bytes.length := by
            simp only [List.length_cons] at length
            exact ⟨percent, by omega⟩
          rw [percentDecodeFrom, if_pos inside, readByte_of_drop dropped]
          simp only [if_pos ahead, readByte_of_drop second, readByte_of_drop third, highValue,
            lowValue]
          exact ⟨trivial, fourth⟩
        · cases escaped
      · cases escaped

/-- The loop takes any other byte by itself. -/
theorem percentDecodeFrom_of_no_escape (plain : escape? (byte :: tail) = none) :
    percentDecodeFrom bytes plusAsSpace index decoded =
      percentDecodeFrom bytes plusAsSpace (index + 1)
        (decoded ++ [if byte = 43 ∧ plusAsSpace then 32 else byte]) := by
  have length := length_of_drop dropped
  have second := drop_succ_of_drop dropped
  have inside : index < bytes.length := by omega
  rw [percentDecodeFrom, if_pos inside, readByte_of_drop dropped]
  simp only
  split
  · next ahead =>
    have notPlus : ¬(byte = 43 ∧ plusAsSpace = true) := by
      rw [ahead.1]
      exact fun both => absurd both.1 (by decide)
    rw [if_neg notPlus]
    match tail, plain with
    | [], _ =>
        simp only [List.length_nil] at length
        omega
    | [_], _ =>
        simp only [List.length_singleton] at length
        omega
    | first :: low :: later, plain =>
        have third := drop_succ_of_drop second
        simp only [escape?, if_pos ahead.1] at plain
        simp only [readByte_of_drop second, readByte_of_drop third]
        split
        · next high low highValue lowValue => simp [highValue, lowValue] at plain
        · rfl
  · split <;> rfl

end Loop

/-- The loop reads within bounds to the end and decodes what is left. -/
theorem percentDecodeFrom_eq (bytes : List UInt8) (plusAsSpace : Bool) (index : Nat)
    (decoded : List UInt8) :
    percentDecodeFrom bytes plusAsSpace index decoded =
      .ok (decoded ++ decode plusAsSpace (bytes.drop index)) := by
  -- By induction on what is left to read.
  induction size : bytes.length - index using Nat.strong_induction_on
    generalizing index decoded with
  | h size ih =>
      cases dropped : bytes.drop index with
      | nil =>
          have outside : ¬ index < bytes.length := Nat.not_lt.mpr (List.drop_eq_nil_iff.mp dropped)
          rw [percentDecodeFrom, if_neg outside, decode_nil, List.append_nil]
      | cons byte tail =>
          have length := length_of_drop dropped
          cases escaped : escape? (byte :: tail) with
          | none =>
              rw [percentDecodeFrom_of_no_escape dropped decoded escaped,
                ih _ (by omega) _ _ rfl, drop_succ_of_drop dropped, decode_of_no_escape escaped,
                List.append_assoc, List.singleton_append]
          | some found =>
              obtain ⟨taken, rest⟩ := percentDecodeFrom_of_escape dropped decoded escaped
              rw [taken, ih _ (by omega) _ _ rfl, rest, decode_of_escape escaped,
                List.append_assoc, List.singleton_append]

/-- Every value is decoded. -/
theorem percentDecode_eq (lossy : LossyUtf8) (value : List Char) (plusAsSpace : Bool) :
    percentDecode lossy value plusAsSpace =
      .ok (lossy.convert (decode plusAsSpace (asBytes (String.ofList value)))) := by
  rw [percentDecode, percentDecodeFrom_eq, List.drop_zero, List.nil_append]
  rfl

/-! ## The encoder of the page -/

/-- The character of a byte. -/
def byteChar (byte : UInt8) : Char :=
  Char.ofNat byte.toNat

/-- The bytes that `encodeURIComponent` leaves as they are. -/
def isUriLiteral (byte : UInt8) : Bool :=
  (byteChar byte).isAlphanum || "-_.!~*'()".toList.contains (byteChar byte)

/-- The function of the dashboard's script. -/
def encodeURIComponent (token : String) : List Char :=
  (encode isUriLiteral (asBytes token)).map byteChar

theorem toNat_byteChar (byte : UInt8) : (byteChar byte).toNat = byte.toNat := by
  have bound := byte.toNat_lt
  have valid : byte.toNat.isValidChar := .inl (by omega)
  rw [byteChar, Char.ofNat, dif_pos valid]
  rfl

/-- Characters below 128 are their own bytes. -/
theorem asBytes_map_byteChar (ascii : ∀ byte ∈ bytes, byte < 128) :
    asBytes (String.ofList (bytes.map byteChar)) = bytes := by
  have flat : (bytes.map byteChar).flatMap String.utf8EncodeChar = bytes := by
    induction bytes with
    | nil => rfl
    | cons byte rest ih =>
        have small := UInt8.lt_iff_toNat_lt.mp (ascii byte List.mem_cons_self)
        have one : String.utf8EncodeChar (byteChar byte) = [byte] := by
          have value : (byteChar byte).val.toNat = byte.toNat := toNat_byteChar byte
          have below : byte.toNat ≤ 127 := Nat.le_of_lt_succ small
          simp [String.utf8EncodeChar, value, below]
        rw [List.map_cons, List.flatMap_cons, one,
          ih fun other member => ascii other (List.mem_cons_of_mem _ member)]
        rfl
  change (String.ofList (bytes.map byteChar)).toByteArray.data.toList = bytes
  rw [String.toByteArray_ofList, List.utf8Encode, flat]
  simp

/-- A printed byte that separates neither cookies nor parameters. -/
def IsSafe (byte : UInt8) : Prop :=
  33 ≤ byte.toNat ∧ byte.toNat < 127 ∧ byte.toNat ≠ 59 ∧ byte.toNat ≠ 38

instance (byte : UInt8) : Decidable (IsSafe byte) :=
  inferInstanceAs (Decidable (_ ∧ _))

theorem isSafe_of_isUriLiteral {byte : UInt8} (literal : isUriLiteral byte = true) :
    IsSafe byte := by
  rw [isUriLiteral, Bool.or_eq_true, isAlphanum_iff, List.contains_iff_mem] at literal
  rw [IsSafe, ← toNat_byteChar]
  rcases literal with letter | mark
  · omega
  · have marks : ("-_.!~*'()".toList.all fun c =>
        33 ≤ c.toNat ∧ c.toNat < 127 ∧ c.toNat ≠ 59 ∧ c.toNat ≠ 38) = true := by decide
    exact of_decide_eq_true (List.all_eq_true.mp marks _ mark)

theorem isSafe_of_mem_encode (bytes : List UInt8) :
    ∀ byte ∈ encode isUriLiteral bytes, IsSafe byte := by
  apply forall_mem_encode
  · exact fun byte => isSafe_of_isUriLiteral
  · decide
  · intro value small
    exact forall_lt_sixteen (p := fun value => IsSafe (hexDigit value)) (by decide) small

/-- An encoded token is printed and has no separators. -/
theorem mem_encodeURIComponent {token : String} {c : Char} (member : c ∈ encodeURIComponent token) :
    isInk c = true ∧ c ≠ ';' ∧ c ≠ '&' := by
  obtain ⟨byte, inEncoding, rfl⟩ := List.mem_map.mp member
  obtain ⟨low, high, noSemicolon, noAmpersand⟩ := isSafe_of_mem_encode _ byte inEncoding
  rw [← toNat_byteChar] at low high noSemicolon noAmpersand
  rw [isInk_iff, ne_eq, ne_eq, ← Char.toNat_inj, ← Char.toNat_inj]
  exact ⟨⟨low, high⟩, noSemicolon, noAmpersand⟩

/-- Decoding gives back what the page encoded. -/
theorem percentDecode_encodeURIComponent (lossy : LossyUtf8) (token : String)
    (plusAsSpace : Bool) :
    percentDecode lossy (encodeURIComponent token) plusAsSpace = .ok token := by
  have ascii : ∀ byte ∈ encode isUriLiteral (asBytes token), byte < 128 := by
    intro byte member
    obtain ⟨-, high, -⟩ := isSafe_of_mem_encode _ byte member
    exact UInt8.lt_iff_toNat_lt.mpr (Nat.lt_succ_of_lt high)
  rw [percentDecode_eq, encodeURIComponent, asBytes_map_byteChar ascii,
    decode_encode (by decide) (by decide), lossy.convert_asBytes]

/-! ## Transport -/

theorem splitOnce_append {separator : Char} {before : List Char} (free : separator ∉ before)
    (after : List Char) :
    splitOnce separator (before ++ separator :: after) = some (before, after) := by
  induction before with
  | nil => exact if_pos rfl
  | cons c rest ih =>
      rw [List.mem_cons, not_or] at free
      rw [List.cons_append, splitOnce, if_neg (Ne.symm free.1), ih free.2]
      rfl

/-- Parts without a token are passed over. -/
theorem findSomeM?_append {find : List Char → Except Panic (Option String)} {part : List Char}
    {token : String} (none : ∀ other ∈ before, find other = .ok none)
    (found : find part = .ok (some token)) :
    (before ++ part :: after).findSomeM? find = .ok (some token) := by
  induction before with
  | nil =>
      rw [List.nil_append, List.findSomeM?, found]
      rfl
  | cons other rest ih =>
      rw [List.cons_append, List.findSomeM?, none other List.mem_cons_self]
      exact ih fun other member => none other (List.mem_cons_of_mem _ member)

/-- A `Cookie` header with the token among other cookies, and blanks around it. -/
structure CookieHeader where
  before : List (List Char)
  leading : List Char
  trailing : List Char
  after : List (List Char)
  whole : ∀ cookie ∈ before ++ after, ';' ∉ cookie
  otherNames : ∀ cookie ∈ before ++ after, ∀ named ∈ splitOnce '=' (trim cookie),
    named.1 ≠ dashboardAuthCookie.toList
  leadingBlank : ∀ c ∈ leading, isBlank c = true
  trailingBlank : ∀ c ∈ trailing, isBlank c = true

/-- The token as the page writes it into a cookie. -/
def cookieText (token : String) : List Char :=
  dashboardAuthCookie.toList ++ '=' :: encodeURIComponent token

/-- The header with the token in it. -/
def CookieHeader.value (header : CookieHeader) (token : String) : HeaderValue :=
  String.ofList (List.intercalate [';']
    (header.before ++ (header.leading ++ cookieText token ++ header.trailing) :: header.after))

/-- A query with the token among other parameters. -/
structure QueryWithToken (lossy : LossyUtf8) where
  before : List (List Char)
  after : List (List Char)
  whole : ∀ parameter ∈ before ++ after, '&' ∉ parameter
  otherNames : ∀ parameter ∈ before ++ after,
    percentDecode lossy ((splitOnce '=' parameter).getD (parameter, [])).1 true ≠ .ok "token"

/-- The token as the page writes it into a query. -/
def parameterText (token : String) : List Char :=
  "token".toList ++ '=' :: encodeURIComponent token

/-- The query with the token in it. -/
def QueryWithToken.value {lossy : LossyUtf8} (query : QueryWithToken lossy) (token : String) :
    String :=
  String.ofList (List.intercalate ['&'] (query.before ++ parameterText token :: query.after))

theorem encodeURIComponent_name : encodeURIComponent "token" = "token".toList := by
  decide

theorem forall_mem_insert_iff {q : List Char → Prop} {part : List Char} (holds : q part) :
    (∀ other ∈ before ++ part :: after, q other) ↔ ∀ other ∈ before ++ after, q other := by
  rw [List.forall_mem_append, List.forall_mem_cons, List.forall_mem_append]
  simp [holds]

/-- A separator that is in no part gives back the parts. -/
theorem split_intercalate {separator : Char} {part : List Char}
    (whole : ∀ other ∈ before ++ after, separator ∉ other) (free : separator ∉ part) :
    split separator (List.intercalate [separator] (before ++ part :: after)) =
      before ++ part :: after := by
  rw [split, List.splitOn_intercalate]
  · exact (forall_mem_insert_iff free).mpr whole
  · exact List.append_ne_nil_of_right_ne_nil _ (List.cons_ne_nil _ _)

theorem queryPartToken_eq_none {lossy : LossyUtf8} {parameter : List Char}
    (other : percentDecode lossy ((splitOnce '=' parameter).getD (parameter, [])).1 true ≠
      .ok "token") :
    queryPartToken lossy parameter = .ok none := by
  rw [percentDecode_eq] at other
  simp only [queryPartToken, percentDecode_eq]
  exact if_neg fun same => other (congrArg _ same)

theorem queryPartToken_parameterText (lossy : LossyUtf8) (token : String) :
    queryPartToken lossy (parameterText token) = .ok (some token) := by
  have name := percentDecode_encodeURIComponent lossy "token" true
  rw [encodeURIComponent_name] at name
  have free : '=' ∉ "token".toList := by decide
  have parted : splitOnce '=' (parameterText token) =
      some ("token".toList, encodeURIComponent token) := splitOnce_append free _
  simp only [queryPartToken, parted, Option.getD_some, name, percentDecode_encodeURIComponent]
  rfl

/-- The query gives back the token. -/
theorem queryToken_value {lossy : LossyUtf8} (query : QueryWithToken lossy) (token : String) :
    queryToken lossy (some (query.value token)) = .ok (some token) := by
  have free : '&' ∉ parameterText token := by
    intro member
    rcases List.mem_append.mp member with inName | inRest
    · exact absurd inName (by decide)
    · rcases List.mem_cons.mp inRest with equals | inToken
      · exact absurd equals (by decide)
      · exact (mem_encodeURIComponent inToken).2.2 rfl
  have parted : split '&' (query.value token).toList =
      query.before ++ parameterText token :: query.after := by
    rw [QueryWithToken.value, String.toList_ofList, split_intercalate query.whole free]
  rw [queryToken, parted]
  apply findSomeM?_append
  · intro parameter member
    exact queryPartToken_eq_none (query.otherNames parameter (List.mem_append_left _ member))
  · exact queryPartToken_parameterText lossy token

/-- The cookie of the token is printed and has no separators. -/
theorem mem_cookieText {token : String} {c : Char} (member : c ∈ cookieText token) :
    isInk c = true ∧ c ≠ ';' := by
  rw [cookieText, List.mem_append, List.mem_cons] at member
  rcases member with inName | rfl | inToken
  · have printed : (dashboardAuthCookie.toList.all fun c => isInk c = true ∧ c ≠ ';') = true := by
      decide
    exact of_decide_eq_true (List.all_eq_true.mp printed c inName)
  · decide
  · obtain ⟨ink, noSemicolon, -⟩ := mem_encodeURIComponent inToken
    exact ⟨ink, noSemicolon⟩

theorem cookiePartToken_eq_none {lossy : LossyUtf8} {cookie : List Char}
    (other : ∀ named ∈ splitOnce '=' (trim cookie), named.1 ≠ dashboardAuthCookie.toList) :
    cookiePartToken lossy cookie = .ok none := by
  rw [cookiePartToken]
  split
  · rfl
  · next name token named => exact if_neg (other (name, token) named)

theorem cookiePartToken_cookieText (lossy : LossyUtf8) (token : String)
    {leading trailing : List Char} (leadingBlank : ∀ c ∈ leading, isBlank c = true)
    (trailingBlank : ∀ c ∈ trailing, isBlank c = true) :
    cookiePartToken lossy (leading ++ cookieText token ++ trailing) = .ok (some token) := by
  have trimmed : trim (leading ++ cookieText token ++ trailing) = cookieText token := by
    apply stripEnds_append leadingBlank _ trailingBlank
    exact solidEnds_of_forall fun c member => isBlank_of_isInk (mem_cookieText member).1
  have free : '=' ∉ dashboardAuthCookie.toList := by decide
  rw [cookiePartToken, trimmed, cookieText, splitOnce_append free]
  simp only [if_true, percentDecode_encodeURIComponent]
  rfl

namespace CookieHeader

variable (header : CookieHeader) (token : String)

/-- No other cookie has a byte that cannot be read as text. -/
def Readable : Prop :=
  ∀ cookie ∈ header.before ++ header.after, ∀ c ∈ cookie, isVisible c = true

theorem mem_written {c : Char}
    (member : c ∈ header.leading ++ cookieText token ++ header.trailing) :
    isVisible c = true ∧ c ≠ ';' := by
  have blank {c : Char} (blank : isBlank c = true) : isVisible c = true ∧ c ≠ ';' := by
    refine ⟨isVisible_of_isBlank blank, ?_⟩
    rintro rfl
    cases blank
  rcases List.mem_append.mp member with front | inTrailing
  · rcases List.mem_append.mp front with inLeading | written
    · exact blank (header.leadingBlank c inLeading)
    · obtain ⟨ink, noSemicolon⟩ := mem_cookieText written
      exact ⟨isVisible_of_isInk ink, noSemicolon⟩
  · exact blank (header.trailingBlank c inTrailing)

/-- The header is a text when the other cookies are. -/
theorem all_isVisible_value_iff :
    (header.value token).toList.all isVisible = true ↔ header.Readable := by
  rw [value, String.toList_ofList, List.all_eq_true,
    forall_mem_intercalate_iff (q := fun c => isVisible c = true) (by decide), Readable]
  apply forall_mem_insert_iff
  exact fun c member => (header.mem_written token member).1

end CookieHeader

/-- The cookie gives back the token when the header is a text, and nothing otherwise. -/
theorem cookieToken_value (lossy : LossyUtf8) (header : CookieHeader) (token : String)
    {headers : HeaderMap} (present : headers.get "cookie" = some (header.value token)) :
    cookieToken lossy headers = .ok (some token) ↔ header.Readable := by
  rw [← header.all_isVisible_value_iff token, cookieToken, present, Option.bind_some,
    HeaderValue.toStr]
  by_cases readable : (header.value token).toList.all isVisible = true
  · have free : ';' ∉ header.leading ++ cookieText token ++ header.trailing :=
      fun member => (header.mem_written token member).2 rfl
    have found : (split ';' (header.value token).toList).findSomeM? (cookiePartToken lossy) =
        .ok (some token) := by
      rw [CookieHeader.value, String.toList_ofList, split_intercalate header.whole free]
      apply findSomeM?_append
      · intro cookie member
        exact cookiePartToken_eq_none (header.otherNames cookie (List.mem_append_left _ member))
      · exact cookiePartToken_cookieText lossy token header.leadingBlank header.trailingBlank
    simp only [readable, if_true, found]
  · simp only [readable]
    exact iff_of_false (fun found => nomatch found) Bool.false_ne_true

/-- Every value is decoded within its bounds.  The query gives back the token whatever
other parameters it has, and the cookie exactly when the other cookies can be read as
text. -/
theorem credentials_survive_iff (lossy : LossyUtf8) (token : String) :
    (∀ value plusAsSpace, ∃ text, percentDecode lossy value plusAsSpace = .ok text) ∧
    (∀ query : QueryWithToken lossy,
      queryToken lossy (some (query.value token)) = .ok (some token)) ∧
    ∀ (headers : HeaderMap) (header : CookieHeader),
      headers.get "cookie" = some (header.value token) →
        (cookieToken lossy headers = .ok (some token) ↔ header.Readable) := by
  constructor
  · exact fun value plusAsSpace => ⟨_, percentDecode_eq lossy value plusAsSpace⟩
  constructor
  · exact fun query => queryToken_value query token
  · exact fun headers header present => cookieToken_value lossy header token present

theorem fromUTF8?_asBytes (text : String) :
    String.fromUTF8? ⟨(asBytes text).toArray⟩ = some text := by
  have bytes : (⟨(asBytes text).toArray⟩ : ByteArray) = text.toByteArray :=
    ByteArray.ext Array.toArray_toList
  rw [bytes]
  exact dif_pos text.isValidUTF8

/-- A conversion that gives up on a text that is not valid. -/
def replaceWhole : LossyUtf8 where
  convert bytes := (String.fromUTF8? ⟨bytes.toArray⟩).getD "\uFFFD"
  convert_asBytes := by
    intro text
    rw [fromUTF8?_asBytes, Option.getD_some]

/-- The header of a browser that keeps one more cookie. -/
def cookieHeader (other : String) (whole : ';' ∉ other.toList)
    (otherName : ∀ named ∈ splitOnce '=' (trim other.toList),
      named.1 ≠ dashboardAuthCookie.toList) : CookieHeader where
  before := [other.toList]
  leading := [' ']
  trailing := []
  after := []
  whole := by simpa using whole
  otherNames := by simpa using otherName
  leadingBlank := List.forall_mem_singleton.mpr rfl
  trailingBlank := List.forall_mem_nil _

/-- A token with a space and a percent sign, beside a plain cookie. -/
theorem credentials_survive_plain :
    cookieToken replaceWhole
        [("cookie", (cookieHeader "theme=dark" (by decide) (by decide)).value "50 %")] =
      .ok (some "50 %") :=
  ((credentials_survive_iff replaceWhole "50 %").2.2
    [("cookie", (cookieHeader "theme=dark" (by decide) (by decide)).value "50 %")]
    (cookieHeader "theme=dark" (by decide) (by decide)) rfl).mpr (by
      intro cookie member
      cases List.mem_singleton.mp member
      exact List.all_eq_true.mp (by decide))

/-- A cookie with the two bytes of an accented letter hides the token. -/
theorem credentials_hidden :
    cookieToken replaceWhole
        [("cookie", (cookieHeader "theme=\u00C3\u00A9" (by decide) (by decide)).value "secret")] =
      .ok none :=
  rfl

end FerroTunnel.Dashboard
