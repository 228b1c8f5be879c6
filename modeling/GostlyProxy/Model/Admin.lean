/-
The admin routes that change the state (`main.rs`): `handle_create_mock`
writes the library, the others set mode, config, routes and sequences. The
reload routes are `Disk.lean`. The mode and the sequences are also written
to a file each, which `Files.lean` has.
-/
import GostlyProxy.Model.Handler

namespace GostlyProxy

open Lib

/-- The entry as it is published: an empty tenant is the global one. -/
def acceptedEntry (entry : MockEntry) : MockEntry :=
  if entry.tenant.isEmpty then { entry with tenant := globalTenant } else entry

/-- The service an injected entry goes to. -/
def injectedService (entry : MockEntry) : Text := entry.serviceId.getD globalTenant

/-- The fields of the reply. -/
structure CreateMockReply where
  status : Text
  id : Text
  tenant : Text
  service : Text
  deriving DecidableEq

def handleCreateMock (st : AppState) (entry : MockEntry) :
    AppState × CreateMockReply × List Spawned :=
  let entry := acceptedEntry entry
  let svcId := injectedService entry
  ({ st with mocks := st.mocks.publish svcId entry },
    { status := "ok", id := entry.id, tenant := entry.tenant, service := svcId },
    [.appendMockLog svcId entry])

-- ======================================================= the other routes

/-- `{"status": "ok", ..}`, the members by name. -/
def okReply (members : List (Text × Json)) : Json :=
  .object (members ++ [(("status" : Text), Json.string "ok")])

/-- The variant's name, as `{:?}` prints it. -/
def Mode.label : Mode → Text
  | .learn => "Learn"
  | .mock => "Mock"
  | .passthrough => "Passthrough"
  | .transitioning => "Transitioning"

def handleSetMode (st : AppState) (mode : Mode) : AppState × Json :=
  ({ st with mode := mode }, okReply [("mode", .string mode.label)])

def handleSetConfig (st : AppState) (unmatchedStatus : Option UInt16)
    (unmatchedBody : Option Text) : AppState × Json :=
  ({ st with
      runtimeConfig :=
        { unmatchedStatus := unmatchedStatus.getD st.runtimeConfig.unmatchedStatus
          unmatchedBody := unmatchedBody.getD st.runtimeConfig.unmatchedBody } },
    okReply [])

def handleSetUpstreams (st : AppState) (upstreams : List UpstreamRoute) :
    AppState × Json :=
  ({ st with upstreams := upstreams },
    okReply [("count", .number (Text.ofNat upstreams.length))])

/-- A sequence takes the place of those with its id; its cursor stays. -/
def handleCreateSequence (st : AppState) (seq : MockSequence) : AppState × Json :=
  ({ st with sequences := (st.sequences.filter fun s => s.id ≠ seq.id) ++ [seq] },
    okReply [("id", .string seq.id)])

def handleResetSequence (st : AppState) (id : Text) : AppState × Json :=
  ({ st with sequenceCounters := st.sequenceCounters.erase id },
    okReply [("id", .string id)])

def handleDeleteSequence (st : AppState) (id : Text) : AppState × Json :=
  ({ st with
      sequences := st.sequences.filter fun s => s.id ≠ id
      sequenceCounters := st.sequenceCounters.erase id },
    okReply [])

/-- A call of an admin route that leaves the library alone. -/
inductive AdminCall where
  | setMode (mode : Mode)
  | setConfig (unmatchedStatus : Option UInt16) (unmatchedBody : Option Text)
  | setUpstreams (upstreams : List UpstreamRoute)
  | createSequence (seq : MockSequence)
  | resetSequence (id : Text)
  | deleteSequence (id : Text)

def handleAdmin (st : AppState) : AdminCall → AppState × Json
  | .setMode mode => handleSetMode st mode
  | .setConfig status body => handleSetConfig st status body
  | .setUpstreams upstreams => handleSetUpstreams st upstreams
  | .createSequence seq => handleCreateSequence st seq
  | .resetSequence id => handleResetSequence st id
  | .deleteSequence id => handleDeleteSequence st id

end GostlyProxy
