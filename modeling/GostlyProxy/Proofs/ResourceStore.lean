/-
The resource store simulates its statecharts.

# Calls and keys

Every call touches one (service, collection, id) or none
(`lookup_put`, `lookup_delete`, `lookup_storeStep_ne`), and a transition that
fails changes nothing.

# The simulation

A `Life` is what a resource has lived through since its last capture: the
captured body and the actions that succeeded. `Lives` keeps one per key;
`livesStep` is told only whether a call succeeded. `Simulates` relates a
stored resource to its life: the binding is the collection's, the current
state is the machine run over the actions, the body is the captured one
with its status rewritten. `simulates_step` is the step lemma and
`store_simulates` the result over runs. What a rewritten body is, the result
says member by member (`ShowsStatus`).
-/
import GostlyProxy.Lib.Machine
import GostlyProxy.Model.ResourceStore

namespace GostlyProxy

open Lib

-- ======================================================== rewriting a body

/-- The last rewrite of the status decides. -/
theorem setStatus_setStatus (field s s' : Text) (body : Json) :
    ResourceStore.setStatus field s' (ResourceStore.setStatus field s body)
      = ResourceStore.setStatus field s' body := by
  cases body with
  | object ms =>
      rw [ResourceStore.setStatus]
      split
      · rename_i v hv
        have hset : Json.lookup field (Json.set field (.string s) ms)
            = some (.string s) := Json.lookup_set_self (by rw [hv]; rfl)
        rw [ResourceStore.setStatus, hset, ResourceStore.setStatus, hv]
        dsimp only
        rw [Json.set_set]
      · rfl
  | _ => rfl

/-- After a rewrite the status member, when it is a top-level string, is the
new state. -/
theorem get_setStatus_self {field s v : Text} {body : Json}
    (h : body.get field = some (.string v)) :
    (ResourceStore.setStatus field s body).get field = some (.string s) := by
  cases body with
  | object ms =>
      have hlook : Json.lookup field ms = some (.string v) := h
      rw [ResourceStore.setStatus, hlook]
      exact Json.lookup_set_self (by rw [hlook]; rfl)
  | _ => cases h

/-- A rewrite leaves every other member alone. -/
theorem get_setStatus_ne {field key s : Text} {body : Json} (hne : key ≠ field) :
    (ResourceStore.setStatus field s body).get key = body.get key := by
  cases body with
  | object ms =>
      rw [ResourceStore.setStatus]
      split
      · exact Json.lookup_set_ne hne
      · rfl
  | _ => rfl

/-- A body whose status member is no top-level string is left alone. -/
theorem setStatus_of_not_string {field s : Text} {body : Json}
    (h : ∀ v, body.get field ≠ some (.string v)) :
    ResourceStore.setStatus field s body = body := by
  cases body with
  | object ms =>
      rw [ResourceStore.setStatus]
      split
      · rename_i v hv
        exact absurd hv (h v)
      · rfl
  | _ => rfl

/-- The names of an object's members. -/
def Json.names : Json → List Text
  | .object ms => ms.map (·.1)
  | _ => []

theorem Json.map_fst_set (key : Text) (v : Json) (ms : List (Text × Json)) :
    (Json.set key v ms).map (·.1) = ms.map (·.1) := by
  induction ms with
  | nil => rfl
  | cons m ms ih =>
      obtain ⟨k, w⟩ := m
      rw [Json.set]
      split
      · rfl
      · rw [List.map_cons, List.map_cons, ih]

/-- A rewrite adds and removes no member. -/
theorem names_setStatus (field s : Text) (body : Json) :
    (ResourceStore.setStatus field s body).names = body.names := by
  cases body with
  | object ms =>
      rw [ResourceStore.setStatus]
      split
      · exact Json.map_fst_set field (.string s) ms
      · rfl
  | _ => rfl

/-- A captured body with a state as its status: the status member holds the
state where it was a top-level string, every other member is as captured,
and a body without such a member is as captured as a whole. -/
structure ShowsStatus (field s : Text) (captured body : Json) : Prop where
  status : ∀ v, captured.get field = some (.string v) → body.get field = some (.string s)
  others : ∀ key, key ≠ field → body.get key = captured.get key
  names : body.names = captured.names
  untouched : (∀ v, captured.get field ≠ some (.string v)) → body = captured

theorem showsStatus_setStatus (field s : Text) (body : Json) :
    ShowsStatus field s body (ResourceStore.setStatus field s body) where
  status := fun _ h => get_setStatus_self h
  others := fun _ hne => get_setStatus_ne hne
  names := names_setStatus field s body
  untouched := setStatus_of_not_string

/-- Two bodies with the same status read the same, member by member. -/
theorem ShowsStatus.get_eq {field s : Text} {captured body body' : Json}
    (h : ShowsStatus field s captured body) (h' : ShowsStatus field s captured body')
    (key : Text) : body.get key = body'.get key := by
  by_cases hkey : key = field
  · subst hkey
    by_cases hstring : ∃ v, captured.get key = some (.string v)
    · obtain ⟨v, hv⟩ := hstring
      rw [h.status v hv, h'.status v hv]
    · have hnot : ∀ v, captured.get key ≠ some (.string v) := fun v hv => hstring ⟨v, hv⟩
      rw [h.untouched hnot, h'.untouched hnot]
  · rw [h.others key hkey, h'.others key hkey]

namespace ResourceStore

-- ================================================== what the calls touch

/-- A resource's full key. -/
abbrev ResourceKey := Text × Text × Text

/-- A store with new resources for one service, asked for a key. -/
theorem lookup_insertService (store : ResourceStore) (svc : Text)
    (svcMap : HashMap (Text × Text) ResourceState) (svc' coll' id' : Text) :
    ({ store with byService := store.byService.insert svc svcMap }).lookup svc' coll' id'
      = if svc' = svc then svcMap.lookup (coll', id') else store.lookup svc' coll' id' := by
  rw [lookup]
  by_cases hs : svc' = svc
  · rw [if_pos hs, hs, Finmap.lookup_insert, Option.bind_some]
  · rw [if_neg hs, Finmap.lookup_insert_of_ne _ hs]
    rfl

/-- What is the same but under one key of a service is the same but under the
full key. -/
theorem ite_key (svc coll id svc' coll' id' : Text) (new old : Option ResourceState) :
    (if svc' = svc then if (coll', id') = (coll, id) then new else old else old)
      = if (svc', coll', id') = (svc, coll, id) then new else old := by
  simp only [Prod.mk.injEq, ite_and]

theorem lookup_put (store : ResourceStore) (svc coll id : Text) (r : ResourceState)
    (svc' coll' id' : Text) :
    (store.put svc coll id r).lookup svc' coll' id'
      = if (svc', coll', id') = (svc, coll, id) then some r
        else store.lookup svc' coll' id' := by
  rw [put, lookup_insertService, ← ite_key]
  refine if_ctx_congr Iff.rfl (fun hs => ?_) fun _ => rfl
  by_cases hk : (coll', id') = (coll, id)
  · rw [hk, Finmap.lookup_insert, if_pos rfl]
  · rw [Finmap.lookup_insert_of_ne _ hk, if_neg hk, lookup, hs]
    cases store.byService.lookup svc with
    | none => exact Finmap.lookup_empty _
    | some svcMap => rfl

theorem registry_put (store : ResourceStore) (svc coll id : Text) (r : ResourceState) :
    (store.put svc coll id r).registry = store.registry := rfl

theorem lookup_delete (store : ResourceStore) (svc coll id svc' coll' id' : Text) :
    (store.delete svc coll id).1.lookup svc' coll' id'
      = if (svc', coll', id') = (svc, coll, id) then none
        else store.lookup svc' coll' id' := by
  rw [delete]
  cases hsvc : store.byService.lookup svc with
  | none =>
      dsimp only
      by_cases hkey : (svc', coll', id') = (svc, coll, id)
      · rw [if_pos hkey]
        rw [Prod.mk.injEq] at hkey
        rw [lookup, hkey.1, hsvc, Option.bind_none]
      · rw [if_neg hkey]
  | some svcMap =>
      dsimp only
      rw [lookup_insertService, ← ite_key]
      refine if_ctx_congr Iff.rfl (fun hs => ?_) fun _ => rfl
      by_cases hk : (coll', id') = (coll, id)
      · rw [hk, Finmap.lookup_erase, if_pos rfl]
      · rw [Finmap.lookup_erase_ne hk, if_neg hk, lookup, hs, hsvc, Option.bind_some]

theorem registry_delete (store : ResourceStore) (svc coll id : Text) :
    (store.delete svc coll id).1.registry = store.registry := by
  unfold delete
  cases store.byService.lookup svc <;> rfl

/-- A transition depends on the machines and on the resource it moves. -/
theorem transition_congr {store store' : ResourceStore} {svc coll id action : Text}
    {now : Nat} (hreg : store.registry = store'.registry)
    (hlook : store.lookup svc coll id = store'.lookup svc coll id) :
    store.transition svc coll id action now = store'.transition svc coll id action now := by
  rw [transition, transition, hreg]
  rw [lookup, lookup] at hlook
  simp only [Option.bind_eq_bind, ← Option.bind_assoc, hlook]

/-- What a capture does: nothing without an id, one put with one. -/
theorem captureCreate_cases (store : ResourceStore) (svc coll : Text) (body : Json)
    (hint ct : Option Text) (status : UInt16) (now : Nat) :
    (extractId body coll hint = none
      ∧ (store.captureCreate svc coll body hint ct status now).1 = store)
    ∨ ∃ id, extractId body coll hint = some id
      ∧ (store.captureCreate svc coll body hint ct status now).1
        = store.put svc coll id
          (captured store.registry coll id body ct status now) := by
  unfold captureCreate
  cases hid : extractId body coll hint with
  | none => exact Or.inl ⟨rfl, rfl⟩
  | some id => exact Or.inr ⟨id, rfl, rfl⟩

/-- A transition that succeeds is of a stored and bound resource, moved on by
its machine. -/
theorem of_transition {store : ResourceStore} {svc coll id action : Text} {now : Nat}
    {moved : ResourceState × Text}
    (h : store.transition svc coll id action now = some moved) :
    ∃ reg r m s s', store.registry = some reg ∧ store.lookup svc coll id = some r
      ∧ r.statechart = some m ∧ r.currentState = some s ∧ reg.apply m s action = some s'
      ∧ moved = (advanced reg r m s' now, s') := by
  simp only [transition, Option.bind_eq_bind, Option.bind_eq_some_iff,
    Option.pure_def, Option.some.injEq] at h
  obtain ⟨reg, hreg, svcMap, hsvc, r, hr, m, hm, s, hs, s', hs', rfl⟩ := h
  refine ⟨reg, r, m, s, s', hreg, ?_, hm, hs, hs', rfl⟩
  rw [lookup, hsvc]
  exact hr

/-- What a transition does: nothing when it fails, and when it succeeds one
put, of the stored resource moved on by its machine. -/
theorem applyTransition_cases (store : ResourceStore) (svc coll id action : Text)
    (now : Nat) :
    store.applyTransition svc coll id action now = (store, none)
    ∨ ∃ reg r m s s', store.registry = some reg ∧ store.lookup svc coll id = some r
      ∧ r.statechart = some m ∧ r.currentState = some s ∧ reg.apply m s action = some s'
      ∧ store.applyTransition svc coll id action now
        = (store.put svc coll id (advanced reg r m s' now), some s') := by
  unfold applyTransition
  cases htrans : store.transition svc coll id action now with
  | none => exact Or.inl rfl
  | some moved =>
      obtain ⟨reg, r, m, s, s', hreg, hr, hm, hs, hs', rfl⟩ := of_transition htrans
      exact Or.inr ⟨reg, r, m, s, s', hreg, hr, hm, hs, hs', rfl⟩

end ResourceStore

-- ============================================================== the calls

inductive StoreCall where
  | captureCreate (svc coll : Text) (body : Json) (hint contentType : Option Text)
      (status : UInt16) (now : Nat)
  | applyTransition (svc coll id action : Text) (now : Nat)
  | delete (svc coll id : Text)

def storeStep (store : ResourceStore) : StoreCall → ResourceStore
  | .captureCreate svc coll body hint contentType status now =>
      (store.captureCreate svc coll body hint contentType status now).1
  | .applyTransition svc coll id action now =>
      (store.applyTransition svc coll id action now).1
  | .delete svc coll id => (store.delete svc coll id).1

/-- The key a call is about; a capture without an id is about none. -/
def StoreCall.target : StoreCall → Option ResourceStore.ResourceKey
  | .captureCreate svc coll body hint _ _ _ =>
      (extractId body coll hint).map fun id => (svc, coll, id)
  | .applyTransition svc coll id _ _ => some (svc, coll, id)
  | .delete svc coll id => some (svc, coll, id)

/-- A call leaves every entry but its own alone. -/
theorem lookup_storeStep_ne (store : ResourceStore) (call : StoreCall)
    {svc coll id : Text} (hne : call.target ≠ some (svc, coll, id)) :
    (storeStep store call).lookup svc coll id = store.lookup svc coll id := by
  cases call with
  | captureCreate svc' coll' body hint ct status now =>
      rcases store.captureCreate_cases svc' coll' body hint ct status now with
        ⟨-, hsame⟩ | ⟨id', hid, hput⟩
      · rw [storeStep, hsame]
      · rw [storeStep, hput, ResourceStore.lookup_put, if_neg]
        intro heq
        exact hne (by rw [StoreCall.target, hid, heq]; rfl)
  | applyTransition svc' coll' id' action now =>
      rcases store.applyTransition_cases svc' coll' id' action now with
        hsame | ⟨reg, r, m, s, s', -, -, -, -, -, hput⟩
      · rw [storeStep, hsame]
      · rw [storeStep, hput, ResourceStore.lookup_put, if_neg]
        intro heq
        exact hne (by rw [StoreCall.target, heq])
  | delete svc' coll' id' =>
      unfold storeStep
      rw [ResourceStore.lookup_delete, if_neg]
      intro heq
      exact hne (by rw [StoreCall.target, heq])

/-- A transition that returns nothing leaves the store as it was. -/
theorem applyTransition_none {store : ResourceStore} {svc coll id action : Text}
    {now : Nat} (h : (store.applyTransition svc coll id action now).2 = none) :
    (store.applyTransition svc coll id action now).1 = store := by
  rcases store.applyTransition_cases svc coll id action now with
    hsame | ⟨reg, r, m, s, s', -, -, -, -, -, hput⟩
  · rw [hsame]
  · rw [hput] at h
    cases h

theorem registry_storeStep (store : ResourceStore) (call : StoreCall) :
    (storeStep store call).registry = store.registry := by
  cases call with
  | captureCreate svc coll body hint ct status now =>
      rcases store.captureCreate_cases svc coll body hint ct status now with
        ⟨-, hsame⟩ | ⟨id, -, hput⟩
      · rw [storeStep, hsame]
      · rw [storeStep, hput]
        rfl
  | applyTransition svc coll id action now =>
      rcases store.applyTransition_cases svc coll id action now with
        hsame | ⟨reg, r, m, s, s', -, -, -, -, -, hput⟩
      · rw [storeStep, hsame]
      · rw [storeStep, hput]
        rfl
  | delete svc coll id => exact store.registry_delete svc coll id

-- ============================================================== the lives

/-- What a resource has lived through since it was captured. -/
structure Life where
  body : Json
  actions : List Text

abbrev Lives := ResourceStore.ResourceKey → Option Life

/-- The lives after a call, told whether the call succeeded. -/
def livesStep (succeeded : Bool) (lives : Lives) : StoreCall → Lives
  | .captureCreate svc coll body hint _ _ _ =>
      match extractId body coll hint with
      | none => lives
      | some id => Function.update lives (svc, coll, id) (some ⟨body, []⟩)
  | .applyTransition svc coll id action _ =>
      if succeeded then
        Function.update lives (svc, coll, id)
          ((lives (svc, coll, id)).map fun life =>
            { life with actions := life.actions ++ [action] })
      else lives
  | .delete svc coll id => Function.update lives (svc, coll, id) none

/-- Did a call succeed? Only a transition's answer matters. -/
def succeeded (store : ResourceStore) : StoreCall → Bool
  | .applyTransition svc coll id action now =>
      (store.applyTransition svc coll id action now).2.isSome
  | _ => true

/-- The store with the lives of its resources. -/
def livedStep (s : ResourceStore × Lives) (call : StoreCall) : ResourceStore × Lives :=
  (storeStep s.1 call, livesStep (succeeded s.1 call) s.2 call)

-- ========================================================= the simulation

/-- A resource that is bound to a machine: the machine is registered, the
current state is one of its states and its run over the life's actions,
and the body is the captured one with that state as its status once an
action has succeeded. -/
def BoundTo (registry : Option StatechartRegistry) (life : Life) (r : ResourceState)
    (m : Text) : Prop :=
  ∃ machine s, registry.bind (fun reg => reg.get m) = some machine
    ∧ r.currentState = some s ∧ machine.hasState s = true
    ∧ life.actions.foldlM machine.apply machine.initial = some s
    ∧ r.body = if life.actions = [] then life.body
        else ResourceStore.setStatus machine.statusField s life.body

/-- A stored resource and its life. -/
structure Simulates (registry : Option StatechartRegistry)
    (key : ResourceStore.ResourceKey) (r : ResourceState) (life : Life) : Prop where
  collection : r.collection = key.2.1
  id : r.id = key.2.2
  binding : r.statechart = ResourceStore.boundStatechart registry key.2.1
  unbound : r.statechart = none →
    r.currentState = none ∧ life.actions = [] ∧ r.body = life.body
  bound : ∀ m, r.statechart = some m → BoundTo registry life r m

/-- What is stored under a key and what has lived there: both or neither. -/
def SimulatesAt (registry : Option StatechartRegistry)
    (key : ResourceStore.ResourceKey) : Option ResourceState → Option Life → Prop
  | some r, some life => Simulates registry key r life
  | none, none => True
  | _, _ => False

/-- Each stored resource simulates its life. -/
def Simulated (registry : Option StatechartRegistry) (store : ResourceStore)
    (lives : Lives) : Prop :=
  ∀ key : ResourceStore.ResourceKey,
    SimulatesAt registry key (store.lookup key.1 key.2.1 key.2.2) (lives key)

/-- A bound collection names a registered machine. -/
theorem get_of_boundStatechart {registry : Option StatechartRegistry} {coll m : Text}
    (h : ResourceStore.boundStatechart registry coll = some m) :
    ∃ machine, registry.bind (fun reg => reg.get m) = some machine := by
  obtain ⟨reg, hreg, hbound⟩ := Option.bind_eq_some_iff.mp h
  rw [hreg, Option.bind_some]
  by_cases hself : (reg.get coll).isSome = true
  · rw [if_pos hself, Option.some.injEq] at hbound
    subst hbound
    exact Option.isSome_iff_exists.mp hself
  · rw [if_neg hself] at hbound
    cases hsing : Text.stripSuffix ['s'] coll with
    | none =>
        rw [hsing] at hbound
        cases hbound
    | some singular =>
        rw [hsing] at hbound
        dsimp only at hbound
        by_cases hsome : (reg.get singular).isSome = true
        · rw [if_pos hsome, Option.some.injEq] at hbound
          subst hbound
          exact Option.isSome_iff_exists.mp hsome
        · rw [if_neg hsome] at hbound
          cases hbound

/-- A registry, if there is one, whose machines are well formed. -/
def WellFormedRegistry (registry : Option StatechartRegistry) : Prop :=
  ∀ reg, registry = some reg → reg.WellFormed

section Steps

variable {registry : Option StatechartRegistry} (hreg : WellFormedRegistry registry)

include hreg in
/-- A capture begins a life. -/
theorem simulates_captured (key : ResourceStore.ResourceKey) (body : Json)
    (ct : Option Text) (status : UInt16) (now : Nat) :
    Simulates registry key
      (ResourceStore.captured registry key.2.1 key.2.2 body ct status now) ⟨body, []⟩ where
  collection := rfl
  id := rfl
  binding := rfl
  unbound := by
    intro hnone
    refine ⟨?_, rfl, rfl⟩
    show ResourceStore.initialState registry
      (ResourceStore.boundStatechart registry key.2.1) = none
    rw [show ResourceStore.boundStatechart registry key.2.1 = none from hnone]
    rfl
  bound := by
    intro m hm
    obtain ⟨machine, hget⟩ := get_of_boundStatechart (hm :
      ResourceStore.boundStatechart registry key.2.1 = some m)
    obtain ⟨reg, hregistry, hmachine⟩ := Option.bind_eq_some_iff.mp hget
    refine ⟨machine, machine.initial, hget, ?_,
      (hreg reg hregistry m machine hmachine).initial, rfl, rfl⟩
    show ResourceStore.initialState registry
      (ResourceStore.boundStatechart registry key.2.1) = some machine.initial
    rw [show ResourceStore.boundStatechart registry key.2.1 = some m from hm,
      ResourceStore.initialState, Option.bind_some, hget]
    rfl

include hreg in
/-- A transition that succeeds adds its action to the life. -/
theorem simulates_advanced {key : ResourceStore.ResourceKey} {r : ResourceState}
    {life : Life} {reg : StatechartRegistry} {m s s' action : Text} (now : Nat)
    (h : Simulates registry key r life) (hregistry : registry = some reg)
    (hm : r.statechart = some m) (hs : r.currentState = some s)
    (happly : reg.apply m s action = some s') :
    Simulates registry key (ResourceStore.advanced reg r m s' now)
      { life with actions := life.actions ++ [action] } where
  collection := h.collection
  id := h.id
  binding := h.binding
  unbound := by
    intro hnone
    have : r.statechart = none := hnone
    rw [hm] at this
    cases this
  bound := by
    intro m' hm'
    have heq : r.statechart = some m' := hm'
    rw [hm, Option.some.injEq] at heq
    subst heq
    obtain ⟨machine, s₀, hget, hcur, -, hfold, hbody⟩ := h.bound m hm
    rw [hs, Option.some.injEq] at hcur
    subst hcur
    have hmachine : reg.get m = some machine := by
      rw [hregistry, Option.bind_some] at hget
      exact hget
    have hmove : machine.apply s action = some s' := by
      unfold StatechartRegistry.apply at happly
      rw [hmachine] at happly
      exact happly
    refine ⟨machine, s', hget, rfl,
      (hreg reg hregistry m machine hmachine).target s action s' hmove, ?_, ?_⟩
    · rw [List.foldlM_append, hfold]
      simp [hmove]
    · have hadv : (ResourceStore.advanced reg r m s' now).body
          = ResourceStore.setStatus machine.statusField s' r.body := by
        unfold ResourceStore.advanced
        rw [hmachine]
        rfl
      rw [hadv, if_neg (by simp), hbody]
      split
      · rfl
      · exact setStatus_setStatus _ _ _ _

/-- The relation at one key after both sides have changed there only. -/
theorem simulated_update {store store' : ResourceStore} {lives : Lives}
    {key : ResourceStore.ResourceKey} {life : Option Life}
    (h : Simulated registry store lives)
    (hother : ∀ k : ResourceStore.ResourceKey, k ≠ key →
      store'.lookup k.1 k.2.1 k.2.2 = store.lookup k.1 k.2.1 k.2.2)
    (hkey : SimulatesAt registry key (store'.lookup key.1 key.2.1 key.2.2) life) :
    Simulated registry store' (Function.update lives key life) := by
  intro k
  by_cases hk : k = key
  · subst hk
    rw [Function.update_self]
    exact hkey
  · rw [Function.update_of_ne hk, hother k hk]
    exact h k

include hreg in
/-- One call keeps the simulation. -/
theorem simulates_step (s : ResourceStore × Lives) (call : StoreCall)
    (h : s.1.registry = registry ∧ Simulated registry s.1 s.2) :
    (livedStep s call).1.registry = registry
      ∧ Simulated registry (livedStep s call).1 (livedStep s call).2 := by
  obtain ⟨store, lives⟩ := s
  obtain ⟨hregistry, hsim⟩ := h
  dsimp only at hregistry hsim
  refine ⟨(registry_storeStep store call).trans hregistry, ?_⟩
  have hother : ∀ key, call.target = some key → ∀ k : ResourceStore.ResourceKey, k ≠ key →
      (storeStep store call).lookup k.1 k.2.1 k.2.2 = store.lookup k.1 k.2.1 k.2.2 := by
    intro key htarget k hk
    refine lookup_storeStep_ne store call ?_
    rw [htarget]
    exact fun heq => hk (Option.some.inj heq).symm
  cases call with
  | captureCreate svc coll body hint ct status now =>
      unfold livedStep
      dsimp only
      rcases store.captureCreate_cases svc coll body hint ct status now with
        ⟨hid, hsame⟩ | ⟨id, hid, hput⟩
      · rw [storeStep, hsame, livesStep, hid]
        exact hsim
      · simp only [livesStep, hid]
        refine simulated_update hsim (hother (svc, coll, id) ?_) ?_
        · rw [StoreCall.target, hid]
          rfl
        · rw [storeStep, hput, ResourceStore.lookup_put, if_pos rfl]
          show Simulates registry (svc, coll, id)
            (ResourceStore.captured store.registry coll id body ct status now) ⟨body, []⟩
          rw [show store.registry = registry from hregistry]
          exact simulates_captured hreg (svc, coll, id) body ct status now
  | applyTransition svc coll id action now =>
      unfold livedStep
      dsimp only
      rcases store.applyTransition_cases svc coll id action now with
        hsame | ⟨reg, r, m, s, s', hreg', hr, hm, hs, happly, hput⟩
      · rw [storeStep, hsame, livesStep, succeeded, hsame]
        exact hsim
      · rw [livesStep, succeeded, hput, Option.isSome_some, if_pos rfl]
        refine simulated_update hsim (hother (svc, coll, id) rfl) ?_
        rw [storeStep, hput, ResourceStore.lookup_put, if_pos rfl]
        have hkey := hsim (svc, coll, id)
        rw [hr] at hkey
        cases hlife : lives (svc, coll, id) with
        | none =>
            rw [hlife] at hkey
            exact hkey
        | some life =>
            rw [hlife] at hkey
            exact simulates_advanced hreg now hkey (hregistry.symm.trans hreg') hm hs happly
  | delete svc coll id =>
      unfold livedStep
      dsimp only
      unfold livesStep
      refine simulated_update hsim (hother (svc, coll, id) rfl) ?_
      unfold storeStep
      rw [ResourceStore.lookup_delete, if_pos rfl]
      trivial

end Steps

theorem simulated_new (registry : Option StatechartRegistry) :
    Simulated registry (ResourceStore.new registry) fun _ => none := by
  intro key
  have hnone : (ResourceStore.new registry).lookup key.1 key.2.1 key.2.2 = none := by
    rw [ResourceStore.lookup, ResourceStore.new, Finmap.lookup_empty]
    rfl
  rw [hnone]
  trivial

theorem run_simulates (registry : Option StatechartRegistry)
    (hreg : WellFormedRegistry registry) (calls : List StoreCall) :
    let s := Machine.run livedStep (ResourceStore.new registry, fun _ => none) calls
    s.1.registry = registry ∧ Simulated registry s.1 s.2 :=
  Machine.run_invariant
    (I := fun s : ResourceStore × Lives =>
      s.1.registry = registry ∧ Simulated registry s.1 s.2)
    (simulates_step hreg) ⟨rfl, simulated_new registry⟩ calls

-- ============================================================== the result

/-- A resource in a state of its machine, told without the code: the machine
is registered, the state is one of its own and its run over the actions since
the capture, and the body is the captured one, with the state as its status
once an action has succeeded. -/
def FollowsMachine (registry : Option StatechartRegistry) (life : Life) (r : ResourceState)
    (m : Text) : Prop :=
  ∃ machine s, registry.bind (fun reg => reg.get m) = some machine
    ∧ r.currentState = some s ∧ machine.hasState s = true
    ∧ life.actions.foldlM machine.apply machine.initial = some s
    ∧ (life.actions = [] → r.body = life.body)
    ∧ (life.actions ≠ [] → ShowsStatus machine.statusField s life.body r.body)

theorem BoundTo.followsMachine {registry : Option StatechartRegistry} {life : Life}
    {r : ResourceState} {m : Text} (h : BoundTo registry life r m) :
    FollowsMachine registry life r m := by
  obtain ⟨machine, s, hget, hcur, hstate, hfold, hbody⟩ := h
  refine ⟨machine, s, hget, hcur, hstate, hfold, fun hnil => ?_, fun hne => ?_⟩
  · rw [hbody, if_pos hnil]
  · rw [hbody, if_neg hne]
    exact showsStatus_setStatus machine.statusField s life.body

/-- What holds of a stored resource, told without the relation: it lies
under its own collection and id, it is bound exactly when it has a state,
and it follows its machine; without one its body is the captured one. -/
structure FaithfulResource (registry : Option StatechartRegistry)
    (key : ResourceStore.ResourceKey) (r : ResourceState) (life : Life) : Prop where
  place : r.collection = key.2.1 ∧ r.id = key.2.2
  binding : r.statechart = ResourceStore.boundStatechart registry key.2.1
  bound : r.statechart.isSome ↔ r.currentState.isSome
  unbound : r.statechart = none → r.body = life.body
  run : ∀ m, r.statechart = some m → FollowsMachine registry life r m

/-- What holds of a store with its lives, and of the next call on it: a
transition that returns nothing changes nothing, and no call changes
another entry than its own. -/
structure FaithfulStore (registry : Option StatechartRegistry) (store : ResourceStore)
    (lives : Lives) : Prop where
  resource : ∀ svc coll id r, store.lookup svc coll id = some r →
    ∃ life, lives (svc, coll, id) = some life
      ∧ FaithfulResource registry (svc, coll, id) r life
  failed : ∀ svc coll id action now,
    (store.applyTransition svc coll id action now).2 = none →
      (store.applyTransition svc coll id action now).1 = store
  frame : ∀ call svc coll id, call.target ≠ some (svc, coll, id) →
    (storeStep store call).lookup svc coll id = store.lookup svc coll id

theorem Simulates.faithful {registry : Option StatechartRegistry}
    {key : ResourceStore.ResourceKey} {r : ResourceState} {life : Life}
    (h : Simulates registry key r life) : FaithfulResource registry key r life where
  place := ⟨h.collection, h.id⟩
  binding := h.binding
  bound := by
    cases hchart : r.statechart with
    | none => rw [(h.unbound hchart).1]
    | some m =>
        obtain ⟨machine, state, -, hcur, -⟩ := h.bound m hchart
        rw [hcur]
        simp
  unbound := fun hn => (h.unbound hn).2.2
  run := fun m hm => (h.bound m hm).followsMachine

theorem Simulated.faithful {registry : Option StatechartRegistry}
    {store : ResourceStore} {lives : Lives} (h : Simulated registry store lives) :
    FaithfulStore registry store lives where
  resource := by
    intro svc coll id r hr
    have hkey := h (svc, coll, id)
    rw [hr] at hkey
    cases hlife : lives (svc, coll, id) with
    | none =>
        rw [hlife] at hkey
        exact hkey.elim
    | some life =>
        rw [hlife] at hkey
        exact ⟨life, rfl, Simulates.faithful hkey⟩
  failed := fun _ _ _ _ _ h => applyTransition_none h
  frame := fun call _ _ _ h => lookup_storeStep_ne store call h

/-- Over every run of calls on a fresh store, whatever machines are
registered: the store is faithful to the lives of its resources. -/
theorem store_simulates (registry : Option StatechartRegistry)
    (hreg : WellFormedRegistry registry) (calls : List StoreCall) :
    let s := Machine.run livedStep (ResourceStore.new registry, fun _ => none) calls
    FaithfulStore registry s.1 s.2 :=
  (run_simulates registry hreg calls).2.faithful

/-- A charge that is captured and refunded, under the bundled machines. -/
def chargeCalls : List StoreCall := [
  .captureCreate globalTenant "charges"
    (.object [("id", .string "ch_1"), ("status", .string "created")]) none none 201 0,
  .applyTransition globalTenant "charges" "ch_1" "capture" 1,
  .applyTransition globalTenant "charges" "ch_1" "refund" 2]

theorem store_simulates_charge :
    let s := Machine.run livedStep
      (ResourceStore.new (some withBundledFixtures), fun _ => none) chargeCalls
    FaithfulStore (some withBundledFixtures) s.1 s.2
      ∧ (s.1.lookup globalTenant "charges" "ch_1").bind (·.body.get "status")
        = some (.string "refunded") :=
  ⟨store_simulates (some withBundledFixtures)
    (fun reg h => by cases h; exact bundled_wellFormed) chargeCalls, rfl⟩

end GostlyProxy
