/-
The resource store (`resource_store.rs`): captured response bodies by
service, collection and id, moved along by the statechart their collection
is bound to.

# Id extraction

`walkForId` looks at an object's own candidate members before it descends,
and descends at most `maxIdExtractionDepth` levels; its first argument is
how many levels are left, the current one included.

Every public call of the source takes the write lock once and does its
whole update under it, so the calls are functions of the store. The line
that a call appends to the resource file afterwards is not part of them.
-/
import GostlyProxy.Model.Json
import GostlyProxy.Model.Statechart

namespace GostlyProxy

open Lib

def maxIdExtractionDepth : Nat := 3

/-- A captured resource. Times are readings of the system clock. -/
structure ResourceState where
  collection : Text
  id : Text
  body : Json
  statechart : Option Text
  currentState : Option Text
  createdAt : Nat
  updatedAt : Nat
  status : UInt16
  contentType : Text

def defaultContentType : Text := "application/json"

abbrev ServiceResources := HashMap (Text × Text) ResourceState

inductive ResourceStoreError where
  | idNotFound (collection : Text)

structure ResourceStore where
  byService : HashMap Text ServiceResources
  registry : Option StatechartRegistry

-- ========================================================= id extraction

def stringifyId : Json → Option Text
  | .string s => if s.isEmpty then none else some s
  | .number repr => some repr
  | _ => none

def walkForId (candidates : List Text) : Nat → Json → Option Text
  | levels + 1, .object ms =>
      match candidates.findSome? fun cand => (Json.lookup cand ms).bind stringifyId with
      | some s => some s
      | none => ms.findSome? fun m => walkForId candidates levels m.2
  | levels + 1, .array items => items.findSome? (walkForId candidates levels)
  | _, _ => none

def extractId (body : Json) (collection : Text) (hint : Option Text) : Option Text :=
  let singular := (Text.stripSuffix ['s'] collection).getD collection
  let candidates := hint.toList ++ [("id" : Text), "_id", singular ++ ("_id" : Text)]
  walkForId candidates (maxIdExtractionDepth + 1) body

namespace ResourceStore

/-- A fresh store. -/
def new (registry : Option StatechartRegistry) : ResourceStore where
  byService := ∅
  registry := registry

def lookup (store : ResourceStore) (serviceId collection id : Text) :
    Option ResourceState :=
  (store.byService.lookup serviceId).bind fun svc => svc.lookup (collection, id)

/-- Put a resource under its key (`entry(service).or_default().insert`). -/
def put (store : ResourceStore) (serviceId collection id : Text)
    (state : ResourceState) : ResourceStore :=
  let svc := (store.byService.lookup serviceId).getD ∅
  { store with
    byService := store.byService.insert serviceId (svc.insert (collection, id) state) }

-- =============================================================== capture

/-- The machine a collection is bound to: the one of its name, or of its
name without the plural. -/
def boundStatechart (registry : Option StatechartRegistry) (collection : Text) :
    Option Text :=
  registry.bind fun reg =>
    if (reg.get collection).isSome then some collection
    else match Text.stripSuffix ['s'] collection with
      | some singular => if (reg.get singular).isSome then some singular else none
      | none => none

def initialState (registry : Option StatechartRegistry) (statechart : Option Text) :
    Option Text :=
  statechart.bind fun m => (registry.bind fun reg => reg.get m).map fun sm => sm.initial

/-- The resource a capture stores. -/
def captured (registry : Option StatechartRegistry) (collection id : Text)
    (body : Json) (contentType : Option Text) (status : UInt16) (now : Nat) :
    ResourceState :=
  let statechart := boundStatechart registry collection
  { collection := collection
    id := id
    body := body
    statechart := statechart
    currentState := initialState registry statechart
    createdAt := now
    updatedAt := now
    status := status
    contentType := contentType.getD defaultContentType }

def captureCreate (store : ResourceStore) (serviceId collection : Text) (body : Json)
    (idFieldHint contentType : Option Text) (status : UInt16) (now : Nat) :
    ResourceStore × Except ResourceStoreError Text :=
  match extractId body collection idFieldHint with
  | none => (store, .error (.idNotFound collection))
  | some id =>
      let state := captured store.registry collection id body contentType status now
      (store.put serviceId collection id state, .ok id)

-- ============================================================ transition

/-- Rewrite the status member when it is a top-level string. -/
def setStatus (statusField nextState : Text) : Json → Json
  | .object ms =>
      match Json.lookup statusField ms with
      | some (.string _) => .object (Json.set statusField (.string nextState) ms)
      | _ => .object ms
  | body => body

/-- A resource and the state its machine moves it to. -/
def advanced (registry : StatechartRegistry) (state : ResourceState) (machineId : Text)
    (nextState : Text) (now : Nat) : ResourceState :=
  let statusField :=
    ((registry.get machineId).map fun sm => sm.statusField).getD defaultStatusField
  { state with
    currentState := some nextState
    updatedAt := now
    body := setStatus statusField nextState state.body }

/-- The resource after a transition, with every early return of the source
as the option's failure. -/
def transition (store : ResourceStore) (serviceId collection id action : Text)
    (now : Nat) : Option (ResourceState × Text) := do
  let registry ← store.registry
  let svc ← store.byService.lookup serviceId
  let state ← svc.lookup (collection, id)
  let machineId ← state.statechart
  let current ← state.currentState
  let nextState ← registry.apply machineId current action
  return (advanced registry state machineId nextState now, nextState)

def applyTransition (store : ResourceStore) (serviceId collection id action : Text)
    (now : Nat) : ResourceStore × Option Text :=
  match store.transition serviceId collection id action now with
  | none => (store, none)
  | some (state, nextState) => (store.put serviceId collection id state, some nextState)

-- ================================================================ delete

def delete (store : ResourceStore) (serviceId collection id : Text) :
    ResourceStore × Bool :=
  match store.byService.lookup serviceId with
  | none => (store, false)
  | some svc =>
      ({ store with
          byService := store.byService.insert serviceId (svc.erase (collection, id)) },
        (svc.lookup (collection, id)).isSome)

end ResourceStore

end GostlyProxy
