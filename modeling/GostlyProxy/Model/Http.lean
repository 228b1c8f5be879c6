/-
The part of HTTP the handler sees: status codes, header names and values,
requests, responses, and the two response builders of `main.rs`.

# What the types promise

`StatusCode`, `HeaderName` and `HeaderValue` are the values the HTTP
library lets exist: a status between 100 and 999, a lower-case token, a
byte string without control bytes other than the tab. The constructors
that check (`StatusCode.fromU16`, `HeaderName.fromBytes`,
`HeaderValue.fromBytes`, `HeaderValue.fromStr`) return an option.

# Header maps

A header map is a list of name and value pairs. What the program reads of
it is the values under a name, in order, so an insertion drops the old
pairs of the name and an append goes to the end.
-/
import GostlyProxy.Lib.Utf8
import GostlyProxy.Model.Types

namespace GostlyProxy

open Lib

-- ========================================================== status codes

/-- A status the HTTP library accepts. -/
def StatusCode := { n : UInt16 // 100 ≤ n ∧ n < 1000 }

namespace StatusCode

instance : DecidableEq StatusCode :=
  inferInstanceAs (DecidableEq { n : UInt16 // 100 ≤ n ∧ n < 1000 })

def fromU16 (n : UInt16) : Option StatusCode :=
  if h : 100 ≤ n ∧ n < 1000 then some ⟨n, h⟩ else none

def ok : StatusCode := ⟨200, by decide⟩
def notFound : StatusCode := ⟨404, by decide⟩
def internalServerError : StatusCode := ⟨500, by decide⟩
def badGateway : StatusCode := ⟨502, by decide⟩
def serviceUnavailable : StatusCode := ⟨503, by decide⟩

@[simp] theorem fromU16_val (s : StatusCode) : fromU16 s.1 = some s := by
  rw [fromU16, dif_pos s.2]
  rfl

end StatusCode

-- ========================================================== header names

/-- `char::is_ascii_uppercase`. -/
def isAsciiUppercase (c : Char) : Bool := 65 ≤ c.toNat && c.toNat ≤ 90

/-- `char::to_ascii_lowercase`. -/
def toAsciiLowercase (c : Char) : Char :=
  if isAsciiUppercase c then Char.ofNat (c.toNat + 32) else c

/-- A lower-case token character. -/
def isHeaderNameChar (c : Char) : Bool :=
  (97 ≤ c.toNat && c.toNat ≤ 122) || (48 ≤ c.toNat && c.toNat ≤ 57)
    || c ∈ ("!#$%&'*+-.^_|~" : Text) || c.toNat == 0x60

/-- A header name: a non-empty lower-case token. -/
def HeaderName :=
  { t : Text // t ≠ [] ∧ t.length ≤ 65535 ∧ ∀ c ∈ t, isHeaderNameChar c = true }

namespace HeaderName

instance : DecidableEq HeaderName :=
  inferInstanceAs (DecidableEq
    { t : Text // t ≠ [] ∧ t.length ≤ 65535 ∧ ∀ c ∈ t, isHeaderNameChar c = true })

/-- `HeaderName::from_bytes`: names are stored in lower case. -/
def fromBytes (t : Text) : Option HeaderName :=
  let l := t.map toAsciiLowercase
  if h : l ≠ [] ∧ l.length ≤ 65535 ∧ ∀ c ∈ l, isHeaderNameChar c = true
  then some ⟨l, h⟩ else none

def toText (n : HeaderName) : Text := n.1

theorem isHeaderNameChar_ascii {c : Char} (h : isHeaderNameChar c = true) :
    c.toNat < 128 ∧ isAsciiUppercase c = false := by
  have hall : ∀ c ∈ ("!#$%&'*+-.^_|~" : Text),
      c.toNat < 128 ∧ isAsciiUppercase c = false := by decide
  simp only [isHeaderNameChar, Bool.or_eq_true, Bool.and_eq_true,
    decide_eq_true_eq, beq_iff_eq] at h
  rcases h with ((h | h) | h) | h
  · exact ⟨by omega, by simp [isAsciiUppercase]; omega⟩
  · exact ⟨by omega, by simp [isAsciiUppercase]; omega⟩
  · exact hall c (by simpa using h)
  · exact ⟨by omega, by simp [isAsciiUppercase]; omega⟩

theorem toAsciiLowercase_eq {c : Char} (h : isHeaderNameChar c = true) :
    toAsciiLowercase c = c := by
  rw [toAsciiLowercase, (isHeaderNameChar_ascii h).2]
  rfl

/-- A stored name is read back as itself. -/
@[simp] theorem fromBytes_toText (n : HeaderName) : fromBytes n.toText = some n := by
  have hlower : n.toText.map toAsciiLowercase = n.toText := by
    calc n.toText.map toAsciiLowercase = n.toText.map id :=
          List.map_congr_left fun c hc => toAsciiLowercase_eq (n.2.2.2 c hc)
      _ = n.toText := List.map_id _
  have hok : n.toText ≠ [] ∧ n.toText.length ≤ 65535
      ∧ ∀ c ∈ n.toText, isHeaderNameChar c = true := n.2
  simp only [fromBytes, hlower]
  rw [dif_pos hok]
  rfl

theorem toText_injective : Function.Injective toText := Subtype.val_injective

end HeaderName

-- ========================================================= header values

/-- A byte a header value may hold. -/
def isHeaderValueByte (b : UInt8) : Bool := (32 ≤ b && b != 127) || b == 9

/-- A byte `to_str` accepts: visible ASCII, the blank and the tab. -/
def isVisibleByte (b : UInt8) : Bool := (32 ≤ b && b < 127) || b == 9

/-- A header value: bytes without control bytes other than the tab. -/
def HeaderValue := { bs : Bytes // ∀ b ∈ bs, isHeaderValueByte b = true }

namespace HeaderValue

instance : DecidableEq HeaderValue :=
  inferInstanceAs (DecidableEq { bs : Bytes // ∀ b ∈ bs, isHeaderValueByte b = true })

def fromBytes (bs : Bytes) : Option HeaderValue :=
  if h : ∀ b ∈ bs, isHeaderValueByte b = true then some ⟨bs, h⟩ else none

/-- `HeaderValue::from_str`: the bytes of the text, which need not be
ASCII. -/
def fromStr (t : Text) : Option HeaderValue := fromBytes (Text.utf8 t)

def asBytes (v : HeaderValue) : Bytes := v.1

/-- `HeaderValue::to_str`. -/
def toStr (v : HeaderValue) : Option Text :=
  if ∀ b ∈ v.1, isVisibleByte b = true then some (v.1.map fun b => Char.ofNat b.toNat)
  else none

end HeaderValue

-- =========================================================== header maps

/-- A header map: its name and value pairs. -/
abbrev HeaderMap := List (HeaderName × HeaderValue)

namespace HeaderMap

/-- `HeaderMap::get_all`. -/
def getAll (h : HeaderMap) (name : Text) : List HeaderValue :=
  (h.filter fun p => p.1.toText = name).map (·.2)

/-- `HeaderMap::get`: the first value under the name. -/
def get (h : HeaderMap) (name : Text) : Option HeaderValue := (getAll h name).head?

/-- `HeaderMap::contains_key`. -/
def containsKey (h : HeaderMap) (name : Text) : Bool := (get h name).isSome

/-- `HeaderMap::append`. -/
def append (h : HeaderMap) (name : HeaderName) (v : HeaderValue) : HeaderMap :=
  h ++ [(name, v)]

/-- `HeaderMap::insert`: the old values of the name go. -/
def insert (h : HeaderMap) (name : HeaderName) (v : HeaderValue) : HeaderMap :=
  h.filter (fun p => p.1 ≠ name) ++ [(name, v)]

@[simp] theorem getAll_nil (name : Text) : getAll [] name = [] := rfl

theorem getAll_append (h h' : HeaderMap) (name : Text) :
    getAll (h ++ h') name = getAll h name ++ getAll h' name := by
  rw [getAll, List.filter_append, List.map_append]
  rfl

theorem getAll_insert_ne {h : HeaderMap} {n : HeaderName} {v : HeaderValue}
    {name : Text} (hne : n.toText ≠ name) :
    getAll (insert h n v) name = getAll h name := by
  have hfilter : (h.filter fun p => p.1 ≠ n).filter (fun p => p.1.toText = name)
      = h.filter fun p => p.1.toText = name := by
    rw [List.filter_filter]
    apply List.filter_congr
    intro p _
    by_cases hp : p.1.toText = name
    · have : p.1 ≠ n := fun he => hne (he ▸ hp)
      simp [hp, this]
    · simp [hp]
  rw [getAll, insert, List.filter_append, hfilter, List.map_append,
    List.filter_singleton]
  simp [hne, getAll]

theorem getAll_insert_self {h : HeaderMap} {n : HeaderName} {v : HeaderValue} :
    getAll (insert h n v) n.toText = [v] := by
  have hfilter : (h.filter fun p => p.1 ≠ n).filter (fun p => p.1.toText = n.toText)
      = [] := by
    rw [List.filter_filter, List.filter_eq_nil_iff]
    intro p _ hp
    simp only [decide_not, Bool.and_eq_true, Bool.not_eq_eq_eq_not, Bool.not_true,
      decide_eq_false_iff_not, decide_eq_true_eq] at hp
    exact hp.2 (HeaderName.toText_injective hp.1)
  rw [getAll, insert, List.filter_append, hfilter]
  simp

end HeaderMap

-- ================================================ requests and responses

/-- What reaches the handler: the method token, the request target's path
and query (`none` for a target without one), headers and body. -/
structure Request where
  method : Text
  pathAndQuery : Option Text
  headers : HeaderMap
  body : Bytes
  deriving DecidableEq

/-- `Uri::query`: what follows the first question mark. -/
def Request.query (r : Request) : Option Text :=
  (r.pathAndQuery.bind (Text.cut '?')).map (·.2)

structure Response where
  status : StatusCode
  headers : HeaderMap
  body : Bytes
  deriving DecidableEq

/-- `Response::new(Body::empty())`. -/
def Response.empty : Response where
  status := StatusCode.ok
  headers := []
  body := []

end GostlyProxy
