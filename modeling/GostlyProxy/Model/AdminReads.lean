/-
The admin routes that read (`main.rs`): health, the lists of mocks, of
unmatched requests and of sequences, and what the reload routes report.

The replies are given as their fields. A list of mocks comes in hash order.
-/
import GostlyProxy.Model.Disk
import GostlyProxy.Model.Admin

namespace GostlyProxy

open Lib

/-- `service_count`: the names are put into a set. -/
def MockLibrary.serviceCount (rs : RandomState) (lib : MockLibrary) : Nat :=
  ((rs.values lib.segments).flatMap fun seg =>
    (rs.iter seg.services).map (·.1)).toFinset.card

structure HealthReply where
  status : Text
  mode : Text
  mockCount : Nat
  services : Nat
  deriving DecidableEq

def handleHealth (rs : RandomState) (st : AppState) : HealthReply where
  status := "ok"
  mode := st.mode.label
  mockCount := st.mocks.totalCount rs
  services := st.mocks.serviceCount rs

structure ListMocksReply where
  count : Nat
  mocks : List MockEntry

/-- The query parameters are a map; a tenant is a filter. -/
def handleListMocks (rs : RandomState) (st : AppState) (params : HashMap Text Text) :
    ListMocksReply :=
  let all := st.mocks.allEntries rs (params.lookup ("tenant" : Text))
  { count := all.length, mocks := all }

structure ReloadReply where
  status : Text
  loaded : Nat
  services : Nat
  trigger : Option Text
  deriving DecidableEq

section Reload

variable (codec : EntryCodec) (rs rs' : RandomState)

/-- `reload_full` with the counts it returns; the counts have their own
traversals. -/
def reloadCounted (dir : Dir) (st : AppState) : Dir × AppState × Nat × Nat :=
  let (dir, library) := reloadFull codec rs dir
  (dir, { st with mocks := library }, library.totalCount rs', library.serviceCount rs')

def handleReloadMocks (dir : Dir) (st : AppState) : Dir × AppState × ReloadReply :=
  let (dir, st, count, services) := reloadCounted codec rs rs' dir st
  (dir, st, { status := "ok", loaded := count, services := services, trigger := none })

def handleAdminReload (dir : Dir) (st : AppState) : Dir × AppState × ReloadReply :=
  let (dir, st, count, services) := reloadCounted codec rs rs' dir st
  (dir, st,
    { status := "ok", loaded := count, services := services, trigger := some "http_admin" })

end Reload

structure ListUnmatchedReply where
  count : Nat
  requests : List MockRequest

def handleListUnmatched (st : AppState) : ListUnmatchedReply where
  count := st.unmatched.length
  requests := st.unmatched

structure ListSequencesReply where
  count : Nat
  sequences : List MockSequence

def handleListSequences (st : AppState) : ListSequencesReply where
  count := st.sequences.length
  sequences := st.sequences

end GostlyProxy
