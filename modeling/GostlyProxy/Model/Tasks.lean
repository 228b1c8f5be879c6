/-
The proxy with its log files: the calls that publish an entry or reload the
mocks, and the tasks that append to the logs (`main.rs`, `io.rs`).

`proxyHandler` and `handleCreateMock` return before the tasks they spawned
have run. `publishOp` and `liveOp` are a call up to its return,
`completeTask` is one task; when the tasks run is up to the runs that are
looked at (`Lib/Detached.lean`). A reload runs without an append in between;
what happens otherwise is in `Proofs/MockLog.lean`.
-/
import GostlyProxy.Model.Admin
import GostlyProxy.Model.Files

namespace GostlyProxy

open Lib

/-- A request, with the mode and the routes it is handled under. -/
structure RoutedRequest where
  mode : Mode
  upstreams : List UpstreamRoute
  call : Call

def RoutedRequest.setup (r : RoutedRequest) (st : AppState) : AppState :=
  { st with mode := r.mode, upstreams := r.upstreams }

/-- The state, with the two directories of the entry logs. -/
structure LiveProxy where
  state : AppState
  mockDir : Dir
  trafficDir : Dir

/-- Nothing was recorded yet. -/
def LiveProxy.start (st : AppState) : LiveProxy where
  state := st
  mockDir := ∅
  trafficDir := ∅

-- =============================================================== the tasks

/-- Run one spawned task to its end. A service whose name is a path has no
file in the directories. -/
def completeTask (codec : EntryCodec) (s : LiveProxy) (now : Nat) : Spawned → LiveProxy
  | .appendMockLog svcId entry =>
      if isFileName (mockFileName svcId) then
        { s with mockDir := appendToMockLog s.mockDir svcId (codec.print entry) }
      else s
  | .appendTrafficLog svcId entry =>
      if isFileName (trafficFileName svcId) then
        { s with trafficDir := appendToTrafficLog s.trafficDir svcId (codec.print entry) }
      else s
  | task => { s with state := runSpawned now s.state task }

-- =============================================================== the calls

/-- A call that may publish an entry. -/
inductive Publish where
  | request (r : RoutedRequest)
  | createMock (entry : MockEntry)

section Calls

variable (env : Externals) (cfg : Config)

def publishOp (s : LiveProxy) : Publish → LiveProxy × List Spawned
  | .request r =>
      let (st, _, spawned) := proxyHandler env cfg (r.setup s.state) r.call
      ({ s with state := st }, spawned)
  | .createMock entry =>
      let (st, _, spawned) := handleCreateMock s.state entry
      ({ s with state := st }, spawned)

inductive LiveCall where
  | publish (p : Publish)
  | reloadFull (rs : RandomState)
  | reloadOneFile (rs : RandomState) (fname : Text)

def liveOp (codec : EntryCodec) (s : LiveProxy) : LiveCall → LiveProxy × List Spawned
  | .publish p => publishOp env cfg s p
  | .reloadFull rs =>
      let (dir, library) := reloadFull codec rs s.mockDir
      ({ s with mockDir := dir, state := { s.state with mocks := library } }, [])
  | .reloadOneFile rs fname =>
      let (dir, library) := reloadOneFile codec rs s.mockDir fname s.state.mocks
      ({ s with mockDir := dir, state := { s.state with mocks := library } }, [])

end Calls

end GostlyProxy
