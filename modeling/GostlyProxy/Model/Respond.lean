/-
The two response builders of `main.rs`: `buildResponse` turns a stored
status, header map and body into a response, `serveMockResponse` adds the
header that says which layer answered.
-/
import GostlyProxy.Model.Json

namespace GostlyProxy

open Lib

/-- The headers `build_response` leaves out. -/
def isHopByHop (name : Text) : Bool :=
  name = "transfer-encoding" || name = "connection" || name = "keep-alive"

/-- One round of the header loop: hop-by-hop headers and values the HTTP
library refuses are skipped, a name it refuses spoils the builder. -/
def addHeader (env : Externals) (builder : Option HeaderMap)
    (header : HashMap.Entry Text Text) : Option HeaderMap :=
  if isHopByHop (env.toLowercase header.1) then builder
  else match HeaderValue.fromBytes (Text.utf8 header.2) with
    | none => builder
    | some val =>
        builder.bind fun hs =>
          (HeaderName.fromBytes header.1).map fun name => hs.append name val

def buildResponse (env : Externals) (rs : RandomState) (status : UInt16)
    (headers : HashMap Text Text) (body : Bytes) : Response :=
  let code := (StatusCode.fromU16 status).getD StatusCode.ok
  match (rs.iter headers).foldl (addHeader env) (some []) with
  | some hs => { status := code, headers := hs, body := body }
  | none => Response.empty

/-- The longest a replay sleeps, in milliseconds. -/
def maxReplayDelay : UInt64 := 10000

/-- A mock response and how long it is held back. -/
structure Served where
  delayMs : UInt64
  response : Response
  deriving DecidableEq

def valueTrue : HeaderValue := ⟨Text.utf8 "true", by decide⟩

def serveMockResponse (env : Externals) (rs : RandomState) (status : UInt16)
    (headers : HashMap Text Text) (body : Bytes) (latencyMs : UInt64)
    (extraKey : HeaderName) (extraVal : Text) : Served :=
  let r := buildResponse env rs status headers body
  let val := (HeaderValue.fromStr extraVal).getD valueTrue
  { delayMs := min latencyMs maxReplayDelay
    response := { r with headers := r.headers.insert extraKey val } }

end GostlyProxy
