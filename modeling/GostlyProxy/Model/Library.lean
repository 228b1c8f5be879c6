/-
The in-memory mock library (`io.rs`): one segment per mock file, each
segment a map from service ids to that service's mocks, and each service's
mocks a map from (method, uri, tenant) to an entry.

The shape lets a segment hold any number of services, and a lookup scans
the segments in hash order for the first that answers. That only one
segment can answer is an invariant of the writers, proved in
`Proofs/Library.lean`; nothing here relies on it.

The writers are `publish` (the load, change and store that the LEARN
branch and `handle_create_mock` share) and the reloads of `Disk.lean`.
-/
import GostlyProxy.Model.Types
import Mathlib.Data.Finset.Dedup

namespace GostlyProxy

open Lib

/-- (method, uri, tenant). -/
abbrev MockKey := Text × Text × Text

abbrev ServiceMocks := HashMap MockKey MockEntry

/-- The key an entry is stored under. -/
def MockEntry.key (e : MockEntry) : MockKey :=
  (e.request.method, e.request.uri, e.tenant)

structure MockSegment where
  services : HashMap Text ServiceMocks

namespace MockSegment

def default : MockSegment where
  services := ∅

/-- The `or_default` and `insert` of a publish, on the owned segment. -/
def insertEntry (seg : MockSegment) (svcId : Text) (e : MockEntry) : MockSegment where
  services :=
    let svcMap := (seg.services.lookup svcId).getD ∅
    seg.services.insert svcId (svcMap.insert e.key e)

end MockSegment

structure MockLibrary where
  segments : HashMap Text MockSegment

namespace MockLibrary

def new : MockLibrary where
  segments := ∅

-- ================================================================= reads

def totalCount (rs : RandomState) (lib : MockLibrary) : Nat :=
  ((rs.values lib.segments).map fun seg =>
    ((rs.values seg.services).map fun m => m.size).sum).sum

/-- What one segment answers to an exact lookup. -/
def findInSegment (serviceId : Text) (key : MockKey) (seg : MockSegment) :
    Option MockEntry :=
  (seg.services.lookup serviceId).bind fun svc => svc.lookup key

/-- The first segment, in hash order, that holds the entry. -/
def findExact (rs : RandomState) (lib : MockLibrary)
    (serviceId method uri tenant : Text) : Option MockEntry :=
  (rs.values lib.segments).findSome? (findInSegment serviceId (method, uri, tenant))

/-- The entries of one service's map that a tenant filter lets through. -/
def entriesOf (rs : RandomState) (tenant : Option Text) (svc : ServiceMocks) :
    List MockEntry :=
  ((rs.iter svc).filter fun e => tenant.all fun want => want = e.1.2.2).map (·.2)

def entriesForService (rs : RandomState) (lib : MockLibrary) (serviceId : Text)
    (tenant : Option Text) : List MockEntry :=
  (rs.values lib.segments).flatMap fun seg =>
    ((seg.services.lookup serviceId).map (entriesOf rs tenant)).getD []

def allEntries (rs : RandomState) (lib : MockLibrary) (tenant : Option Text) :
    List MockEntry :=
  (rs.values lib.segments).flatMap fun seg =>
    (rs.values seg.services).flatMap (entriesOf rs tenant)

-- ================================================================ writes

/-- Clone the library, put the entry into the segment and the service of
its name, and hand the new library over for the store. -/
def publish (lib : MockLibrary) (svcId : Text) (e : MockEntry) : MockLibrary where
  segments :=
    let segment := (lib.segments.lookup svcId).getD MockSegment.default
    lib.segments.insert svcId (segment.insertEntry svcId e)

/-- Swap a rebuilt segment in, or drop the segment. -/
def setSegment (lib : MockLibrary) (svcId : Text) :
    Option MockSegment → MockLibrary
  | some seg => { segments := lib.segments.insert svcId seg }
  | none => { segments := lib.segments.erase svcId }

end MockLibrary

end GostlyProxy
