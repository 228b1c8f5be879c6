/-
The proxy's data: modes, mock entries, sequences, the runtime config and
the constants of `main.rs`.

Strings are texts and hash maps are finite maps (`Lib/Text.lean`,
`Lib/HashMap.lean`); the sized integers keep their widths.
-/
import GostlyProxy.Lib.Text
import GostlyProxy.Lib.HashMap

namespace GostlyProxy

open Lib

-- ============================================================ constants

/-- The tenant of mocks and requests that name none, and the service key
of unrouted traffic. -/
def globalTenant : Text := "_global"

/-- Header names redacted whatever the configuration says. -/
def redactFloor : List Text := [
  "authorization",
  "proxy-authorization",
  "cookie",
  "set-cookie",
  "x-api-key",
  "x-auth-token",
  "x-session-id",
  "x-access-token",
  "x-user-token",
  "x-csrf-token",
  "x-amz-security-token",
  "x-amz-session-token",
  "x-goog-api-key",
  "grpc-metadata-authorization",
  "api-key",
  "token"]

/-- What stands in the place of a redacted header value. -/
def redacted : Text := "[REDACTED]"

-- ================================================================= mode

inductive Mode where
  | learn
  | mock
  | passthrough
  | transitioning
  deriving DecidableEq, Repr

-- ========================================================= mock entries

structure MockRequest where
  method : Text
  uri : Text
  body : Text
  deriving DecidableEq

structure MockResponse where
  status : UInt16
  headers : HashMap Text Text
  body : Text
  latencyMs : UInt64
  deriving DecidableEq

/-- One recorded exchange, as it is served and as it lies on disk. -/
structure MockEntry where
  id : Text
  timestamp : Text
  request : MockRequest
  response : MockResponse
  serviceId : Option Text
  tenant : Text
  workloadClass : Text
  deriving DecidableEq

-- ============================================================ sequences

/-- A single response step inside a sequence. -/
structure SequenceResponse where
  status : UInt16
  headers : HashMap Text Text
  body : Text
  latencyMs : UInt64
  deriving DecidableEq

/-- An ordered list of responses for one endpoint pattern. -/
structure MockSequence where
  id : Text
  method : Text
  uri : Text
  responses : List SequenceResponse
  loopResponses : Bool
  deriving DecidableEq

-- ======================================================= runtime config

/-- What a miss is answered with. -/
structure RuntimeConfig where
  unmatchedStatus : UInt16
  unmatchedBody : Text
  deriving DecidableEq

def RuntimeConfig.new : RuntimeConfig where
  unmatchedStatus := 404
  unmatchedBody :=
    "\x7b\"error\":\"no mock found\",\"hint\":\"switch to LEARN mode and replay the request, or import a recording\"\x7d"

/-- What a body over the limit is stored as. -/
def bodyTruncated (bytes : Nat) : Text :=
  ("[BODY_TRUNCATED: " : Text) ++ (Text.ofNat bytes ++ (" bytes]" : Text))

end GostlyProxy
