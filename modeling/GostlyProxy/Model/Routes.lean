/-
How a request is placed (`main.rs`): its tenant, the upstream it is routed
to, and what its path says about resources.

# Panics

`clamp_tenant` slices a text at byte 128, and the slice panics inside a
character. `clampTenant` and `resolveTenant` return `none` there.
-/
import GostlyProxy.Model.Http

namespace GostlyProxy

open Lib

-- =============================================================== tenants

def maxTenantLen : Nat := 128

def clampTenant (raw : Text) : Option Text :=
  let trimmed := Text.trim raw
  if trimmed.isEmpty then some globalTenant
  else if maxTenantLen < Text.utf8Len trimmed then Text.sliceTo maxTenantLen trimmed
  else some trimmed

def tenantHeader : HeaderName := ⟨"x-gostly-tenant", by decide⟩

/-- The value of the first `_tenant` parameter that has one. -/
def tenantParam (query : Text) : Option Text :=
  (Text.split '&' query).findSome? fun kv =>
    (Text.cut '=' kv).bind fun (k, v) => if k = "_tenant" then some v else none

def resolveTenant (headers : HeaderMap) (query : Option Text) : Option Text :=
  match (headers.get tenantHeader.toText).bind HeaderValue.toStr with
  | some v => clampTenant v
  | none =>
      match query.bind tenantParam with
      | some v => clampTenant v
      | none => some globalTenant

def stripTenantParam (pathQuery : Text) : Text :=
  match Text.cut '?' pathQuery with
  | none => pathQuery
  | some (path, query) =>
      let kept := (Text.split '&' query).filter fun kv => Text.before '=' kv ≠ "_tenant"
      if kept.isEmpty then path else path ++ '?' :: Text.join ['&'] kept

-- =============================================================== routing

/-- One route; the chaos configuration of a route is not modelled. -/
structure UpstreamRoute where
  routingType : Text
  routingValue : Text
  upstreamUrl : Text
  serviceId : Text
  mode : Option Mode
  redactHeaders : List Text
  deriving DecidableEq

/-- What routing decides about a request. -/
structure Resolved where
  upstream : Text
  serviceId : Option Text
  mode : Option Mode
  redactHeaders : List Text
  deriving DecidableEq

def UpstreamRoute.isMatch (up : UpstreamRoute) (host path : Text) : Bool :=
  if up.routingType = "host" then
    Text.before ':' host = up.routingValue || host = up.routingValue
  else if up.routingType = "path" then Text.startsWith path up.routingValue
  else false

def resolveUpstream (upstreams : List UpstreamRoute) (host path defaultUrl : Text) :
    Resolved :=
  match upstreams.find? fun up => up.isMatch host path with
  | some up => ⟨up.upstreamUrl, some up.serviceId, up.mode, up.redactHeaders⟩
  | none => ⟨defaultUrl, none, none, []⟩

-- ======================================================== resource paths

/-- The non-empty segments of a path, its query left out. -/
def pathSegments (path : Text) : List Text :=
  (Text.split '/' (Text.before '?' path)).filter fun s => !s.isEmpty

def nonIdSegments : List Text := ["search", "batch", "_count", "bulk", "query"]

/-- `v1`, `v2`: an API version, not an id. -/
def isApiVersion (seg : Text) : Bool :=
  seg.head? = some 'v' && Text.utf8Len seg ≤ 3
    && seg.tail.all fun c => 48 ≤ c.toNat && c.toNat ≤ 57

def parseCollectionAndId (path : Text) : Option (Text × Text) :=
  match (pathSegments path).reverse with
  | idSeg :: collectionSeg :: _ =>
      if nonIdSegments.contains idSeg then none
      else if isApiVersion idSeg then none
      else some (collectionSeg, idSeg)
  | _ => none

def parseCollectionIdAction (path : Text) : Option (Text × Text × Text) :=
  match (pathSegments path).reverse with
  | action :: id :: collection :: _ => some (collection, id, action)
  | _ => none

def actionVerbs : List Text := ["capture", "refund", "void", "cancel", "activate",
  "pause", "resume", "ship", "deliver", "return", "pay", "finalize", "suspend",
  "reactivate", "delete"]

def pathCollectionSegment (path : Text) : Option Text :=
  match (pathSegments path).getLast? with
  | none => none
  | some last =>
      if '_' ∈ last && last.any fun c => 48 ≤ c.toNat && c.toNat ≤ 57 then none
      else if actionVerbs.contains last then none
      else some last

end GostlyProxy
