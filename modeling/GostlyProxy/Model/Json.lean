/-
JSON values and the functions the program takes from outside its own
source: the JSON library's parser and printer and Unicode's tables.

# Objects

The JSON library keeps an object's members in a map sorted by name. Here
an object is the list of its members in that order; `get` reads the first
member of a name and `set` replaces it in place, which on a map is what
the library does.

# What is assumed of the outside

`Externals` holds the functions as parameters with what their
documentation promises: the Unicode functions agree with the ASCII ones
on ASCII. Nothing is assumed of the parser and the printer here; a result
that needs their round trip says so.
-/
import GostlyProxy.Lib.Utf8
import GostlyProxy.Model.Http

namespace GostlyProxy

open Lib

-- ================================================================ values

/-- A JSON value; a number keeps its printed form. -/
inductive Json where
  | null
  | bool (b : Bool)
  | number (repr : Text)
  | string (s : Text)
  | array (items : List Json)
  | object (members : List (Text × Json))

namespace Json

/-- `Map::get`. -/
def lookup (key : Text) : List (Text × Json) → Option Json
  | [] => none
  | (k, v) :: ms => if k = key then some v else lookup key ms

/-- `Map::insert` of a name that is there. -/
def set (key : Text) (v : Json) : List (Text × Json) → List (Text × Json)
  | [] => []
  | (k, w) :: ms => if k = key then (k, v) :: ms else (k, w) :: set key v ms

/-- `Value::get` with a string: a member of an object. -/
def get (key : Text) : Json → Option Json
  | .object ms => lookup key ms
  | _ => none

/-- `Value::as_str`. -/
def asStr : Json → Option Text
  | .string s => some s
  | _ => none

theorem lookup_set_self {key : Text} {v : Json} :
    ∀ {ms : List (Text × Json)}, (lookup key ms).isSome →
      lookup key (set key v ms) = some v := by
  intro ms
  induction ms with
  | nil => intro h; cases h
  | cons m ms ih =>
      obtain ⟨k, w⟩ := m
      intro h
      by_cases hk : k = key
      · simp [set, lookup, hk]
      · rw [lookup, if_neg hk] at h
        simp only [set, if_neg hk, lookup]
        exact ih h

theorem lookup_set_ne {key key' : Text} {v : Json} (hne : key' ≠ key) :
    ∀ {ms : List (Text × Json)}, lookup key' (set key v ms) = lookup key' ms := by
  intro ms
  induction ms with
  | nil => rfl
  | cons m ms ih =>
      obtain ⟨k, w⟩ := m
      by_cases hk : k = key
      · subst hk
        simp [set, lookup, Ne.symm hne]
      · simp only [set, if_neg hk, lookup, ih]

/-- Replacing a member twice is replacing it once. -/
theorem set_set {key : Text} {v w : Json} :
    ∀ {ms : List (Text × Json)}, set key w (set key v ms) = set key w ms := by
  intro ms
  induction ms with
  | nil => rfl
  | cons m ms ih =>
      obtain ⟨k, u⟩ := m
      by_cases hk : k = key
      · simp [set, hk]
      · simp only [set, if_neg hk, ih]

end Json

-- ============================================================= externals

/-- Functions of the JSON library and of Unicode. -/
structure Externals where
  /-- `serde_json::from_str::<Value>`. -/
  parseJson : Text → Option Json
  /-- `serde_json::to_string` of a value. -/
  printJson : Json → Text
  /-- `char::is_alphanumeric`. -/
  isAlphanumeric : Char → Bool
  /-- `str::to_lowercase`. -/
  toLowercase : Text → Text
  isAlphanumeric_ascii : ∀ c : Char, c.toNat < 128 →
    isAlphanumeric c = c.isAlphanum
  toLowercase_ascii : ∀ t : Text, (∀ c ∈ t, c.toNat < 128) →
    toLowercase t = t.map toAsciiLowercase

/-- Some functions meet the laws: the ASCII ones, with a parser that
rejects everything. -/
instance : Inhabited Externals where
  default :=
    { parseJson := fun _ => none
      printJson := fun _ => []
      isAlphanumeric := Char.isAlphanum
      toLowercase := List.map toAsciiLowercase
      isAlphanumeric_ascii := fun _ _ => rfl
      toLowercase_ascii := fun _ _ => rfl }

namespace Externals

variable (env : Externals)

/-- `serde_json::from_slice::<Value>`: a byte string that is not valid
UTF-8 is a syntax error. -/
def parseJsonSlice (bs : Bytes) : Option Json :=
  (Utf8.fromUtf8 bs).bind env.parseJson

/-- A header name is lower case already. -/
theorem toLowercase_headerName (n : HeaderName) :
    env.toLowercase n.toText = n.toText := by
  have hascii : ∀ c ∈ n.toText, c.toNat < 128 := fun c hc =>
    (HeaderName.isHeaderNameChar_ascii (n.2.2.2 c hc)).1
  rw [env.toLowercase_ascii _ hascii]
  calc n.toText.map toAsciiLowercase = n.toText.map id :=
        List.map_congr_left fun c hc =>
          HeaderName.toAsciiLowercase_eq (n.2.2.2 c hc)
    _ = n.toText := List.map_id _

end Externals

end GostlyProxy
