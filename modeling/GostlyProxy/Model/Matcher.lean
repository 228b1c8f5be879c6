/-
Matching (`matcher.rs`): URI normal forms and path shapes, smart swap,
sequences.

# Smart swap

`findSmartSwap` takes the last entry of the right method whose URI or path
shape fits, collects the recorded values that differ from the request's
and occur in the recorded response, and replaces them in the response
body. The substitution map and the parsed queries are hash maps, so the
iteration order is an argument.

# Replacing in text

`replaceAtWordBoundary` walks the bytes of the text and pushes each byte
it does not replace as the character of the same number, as the source
does: the bytes of a character beyond ASCII come out as several.
-/
import GostlyProxy.Model.Json

namespace GostlyProxy

open Lib

-- ========================================================== URI helpers

/-- `splitn(2, '=')` of one query parameter, a missing value as empty. -/
def splitParam (kv : Text) : Text × Text := (Text.cut '=' kv).getD (kv, [])

/-- `format!("{}={}", k, v)`. -/
def printParam (p : Text × Text) : Text := p.1 ++ '=' :: p.2

/-- The parameters of a query, stably sorted by key. -/
def sortedParams (query : Text) : List (Text × Text) :=
  ((Text.split '&' query).map splitParam).insertionSort fun p q => p.1 ≤ q.1

def normalizeUri (uri : Text) : Text :=
  match Text.cut '?' uri with
  | none => uri
  | some (path, query) =>
      path ++ '?' :: Text.join ['&'] ((sortedParams query).map printParam)

/-- `char::is_ascii_digit`. -/
def isAsciiDigit (c : Char) : Bool := 48 ≤ c.toNat && c.toNat ≤ 57

/-- `char::is_ascii_alphabetic`. -/
def isAsciiAlphabetic (c : Char) : Bool :=
  isAsciiUppercase c || (97 ≤ c.toNat && c.toNat ≤ 122)

/-- `char::is_ascii_hexdigit`. -/
def isAsciiHexdigit (c : Char) : Bool :=
  isAsciiDigit c || (65 ≤ c.toNat && c.toNat ≤ 70) || (97 ≤ c.toNat && c.toNat ≤ 102)

def isDynamicSegment (env : Externals) (s : Text) : Bool :=
  if s.isEmpty then false
  else if s.all isAsciiDigit then true
  else
    let parts := Text.split '-' s
    if parts.length = 5 && parts.all fun p => p.all isAsciiHexdigit then true
    else
      let hasDigit := s.any isAsciiDigit
      let hasAlpha := s.any isAsciiAlphabetic
      let allValid := s.all fun c => env.isAlphanumeric c || c = '-' || c = '_'
      hasDigit && hasAlpha && allValid

def pathsMatch (env : Externals) (recorded incoming : Text) : Bool :=
  let rp := Text.split '/' (Text.before '?' recorded)
  let ip := Text.split '/' (Text.before '?' incoming)
  rp.length = ip.length && (rp.zip ip).all fun (a, b) =>
    a = b || isDynamicSegment env a || isDynamicSegment env b

def splitUri (uri : Text) : Text × Text := (Text.cut '?' uri).getD (uri, [])

def parseQuery (qs : Text) : HashMap Text Text :=
  if qs.isEmpty then ∅
  else HashMap.collect ((Text.split '&' qs).map splitParam)

-- ======================================================= JSON differences

mutual

/-- Every changed string of two JSON values, recorded and incoming. -/
def collectValueDiffs : Json → Json → List (Text × Text)
  | .string r, incoming =>
      match incoming with
      | .string i => if r ≠ i then [(r, i)] else []
      | _ => []
  | .object rs, incoming =>
      match incoming with
      | .object is => collectMemberDiffs rs is
      | _ => []
  | .array rs, incoming =>
      match incoming with
      | .array is => collectItemDiffs rs is
      | _ => []
  | _, _ => []

def collectMemberDiffs : List (Text × Json) → List (Text × Json) → List (Text × Text)
  | [], _ => []
  | (key, recVal) :: rs, is =>
      (match Json.lookup key is with
        | some incVal => collectValueDiffs recVal incVal
        | none => []) ++ collectMemberDiffs rs is

def collectItemDiffs : List Json → List Json → List (Text × Text)
  | rv :: rs, iv :: is => collectValueDiffs rv iv ++ collectItemDiffs rs is
  | _, _ => []

end

-- ========================================================== substitution

mutual

/-- Replace every string that is a recorded value. -/
def substituteInJson (subs : HashMap Text Text) : Json → Json
  | .string s => .string ((subs.lookup s).getD s)
  | .object ms => .object (substituteInMembers subs ms)
  | .array xs => .array (substituteInItems subs xs)
  | v => v

def substituteInMembers (subs : HashMap Text Text) :
    List (Text × Json) → List (Text × Json)
  | [] => []
  | (k, v) :: ms => (k, substituteInJson subs v) :: substituteInMembers subs ms

def substituteInItems (subs : HashMap Text Text) : List Json → List Json
  | [] => []
  | v :: vs => substituteInJson subs v :: substituteInItems subs vs

end

/-- `is_id_byte`. -/
def isIdByte (b : UInt8) : Bool :=
  (48 ≤ b && b ≤ 57) || (65 ≤ b && b ≤ 90) || (97 ≤ b && b ≤ 122)
    || b == 45 || b == 95

/-- The byte walk of `replace_at_word_boundary`: `prev` is the byte before
the current one, `skip` counts the bytes of a replaced hit still to pass. -/
def replaceWalk (pattern : Bytes) (into : Text) :
    Option UInt8 → Nat → Bytes → Text
  | _, _, [] => []
  | _, skip + 1, b :: bs => replaceWalk pattern into (some b) skip bs
  | prev, 0, b :: bs =>
      let beforeOk := prev.all fun p => !isIdByte p
      let afterOk := ((b :: bs).drop pattern.length).head?.all fun n => !isIdByte n
      if pattern.isPrefixOf (b :: bs) && beforeOk && afterOk then
        into ++ replaceWalk pattern into (some b) (pattern.length - 1) bs
      else Char.ofNat b.toNat :: replaceWalk pattern into (some b) 0 bs

def replaceAtWordBoundary (text pat into : Text) : Text :=
  if pat.isEmpty || !Text.contains text pat then text
  else replaceWalk (Text.utf8 pat) into none 0 (Text.utf8 text)

def applySubstitutionsToJson (env : Externals) (rs : RandomState) (body : Text)
    (subs : HashMap Text Text) : Text :=
  if subs.size = 0 then body
  else match env.parseJson body with
    | some val => env.printJson (substituteInJson subs val)
    | none =>
        let pairs := (rs.iter subs).insertionSort fun a b =>
          Text.utf8Len b.1 ≤ Text.utf8Len a.1
        pairs.foldl (fun result p => replaceAtWordBoundary result p.1 p.2) body

-- ============================================================ smart swap

/-- Step 2a: the path segments that differ. `none` when a static segment
does. -/
def segmentSubs (env : Externals) (responseBody : Text) :
    List (Text × Text) → HashMap Text Text → Option (HashMap Text Text)
  | [], subs => some subs
  | (r, i) :: segs, subs =>
      if r = i then segmentSubs env responseBody segs subs
      else if !isDynamicSegment env r && !isDynamicSegment env i then none
      else if Text.contains responseBody r then
        segmentSubs env responseBody segs (subs.insert r i)
      else segmentSubs env responseBody segs subs

/-- Step 2b: the query parameters that differ under one key. -/
def querySubs (rs : RandomState) (responseBody : Text)
    (recParams incParams : HashMap Text Text) (subs : HashMap Text Text) :
    HashMap Text Text :=
  (rs.iter recParams).foldl (fun subs p =>
    match incParams.lookup p.1 with
    | some incVal =>
        if p.2 ≠ incVal && Text.contains responseBody p.2 then subs.insert p.2 incVal
        else subs
    | none => subs) subs

/-- Step 2c: the strings of the request bodies that differ. -/
def bodySubs (env : Externals) (responseBody recBody incBody : Text)
    (subs : HashMap Text Text) : HashMap Text Text :=
  if !recBody.isEmpty && !incBody.isEmpty && recBody ≠ incBody then
    match env.parseJson recBody, env.parseJson incBody with
    | some recJson, some incJson =>
        (collectValueDiffs recJson incJson).foldl (fun subs d =>
          if Text.contains responseBody d.1 then subs.insert d.1 d.2 else subs) subs
    | _, _ => subs
  else subs

/-- Step 1: does the recorded request have the method and the shape? -/
def fitsRequest (env : Externals) (method uri : Text) (m : MockEntry) : Bool :=
  m.request.method = method &&
    (m.request.uri = uri || pathsMatch env m.request.uri uri)

/-- Steps 2 to 4, on the entry that step 1 picked. -/
def swapEntry (env : Externals) (rs : RandomState) (recorded : MockEntry)
    (uri body : Text) : Option MockEntry :=
  let (recPath, recQs) := splitUri recorded.request.uri
  let (incPath, incQs) := splitUri uri
  let recSegs := Text.split '/' recPath
  let incSegs := Text.split '/' incPath
  if recSegs.length ≠ incSegs.length then none
  else
    (segmentSubs env recorded.response.body (recSegs.zip incSegs) ∅).bind fun subs =>
    let subs := querySubs rs recorded.response.body (parseQuery recQs)
      (parseQuery incQs) subs
    let subs := bodySubs env recorded.response.body recorded.request.body body subs
    if subs.size = 0 && (recorded.request.uri ≠ uri || recorded.request.body ≠ body)
    then none
    else
      let swapped := applySubstitutionsToJson env rs recorded.response.body subs
      some { recorded with response := { recorded.response with body := swapped } }

def findSmartSwap (env : Externals) (rs : RandomState) (mocks : List MockEntry)
    (method uri body : Text) : Option MockEntry :=
  (mocks.reverse.find? (fitsRequest env method uri)).bind fun recorded =>
    swapEntry env rs recorded uri body

-- ============================================================= sequences

/-- The sequence that answers a method and URI: the first that fits. -/
def matchSequence (env : Externals) (seqs : List MockSequence) (method uri : Text) :
    Option MockSequence :=
  seqs.find? fun s =>
    s.method = method && (s.uri = uri || pathsMatch env s.uri uri)

def findSequenceResponse (env : Externals) (seqs : List MockSequence)
    (counters : HashMap Text UInt32) (method uri : Text) :
    HashMap Text UInt32 × Option SequenceResponse :=
  match matchSequence env seqs method uri with
  | none => (counters, none)
  | some seq =>
      let current := ((counters.lookup seq.id).getD 0).toNat
      let idx := min current (seq.responses.length - 1)
      match seq.responses[idx]? with
      | none => (counters, none)
      | some resp =>
          let next := current + 1
          (counters.insert seq.id
            (if seq.loopResponses then UInt32.ofNat (next % seq.responses.length)
             else UInt32.ofNat next), some resp)

end GostlyProxy
