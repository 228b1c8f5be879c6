/-
Linked mocks, as their clients see them.

# The transcript

What was captured and which transitions were answered can be read off the
requests and the answers of a run, without a look into the store: a LEARN
round trip spawns its capture, and an answer of the transition layer says
which action was taken. `lifeStep` keeps the lives of the resources
(`ResourceStore.lean`) from that alone.

# The answers

`LinkedTo` says what the two resource layers answer, from the lives: the
captured body, with the state of the machine after the actions as its
status, member by member (`ShowsStatus`) and not by the rewrite of the
store. `linked_mocks_follow_transcript` is that the proxy answers so, in
every run of requests, posted mocks and admin calls, as far as the layers
before leave it to them; and otherwise not at all. No chaos is configured
in these runs: `plainStep` has no route that would withhold an answer.

# The bound

A machine with a rank, one that every transition lowers, answers no more
transitions of a resource between two captures than the rank of its
initial state (`moves_bounded`), and so never shows a state twice.
-/
import GostlyProxy.Proofs.Injection
import GostlyProxy.Proofs.Linked

namespace GostlyProxy

open Lib

-- ============================================================ the abstraction

section Abstraction

variable (registry : Option StatechartRegistry)

/-- The machine a collection is bound to. -/
def boundMachine (coll : Text) : Option StateMachine :=
  (ResourceStore.boundStatechart registry coll).bind fun m =>
    registry.bind fun reg => reg.get m

/-- Where its actions have taken a machine. -/
def Life.state (machine : StateMachine) (life : Life) : Option Text :=
  life.actions.foldlM machine.apply machine.initial

def Life.after (life : Life) (action : Text) : Life :=
  { life with actions := life.actions ++ [action] }

/-- The bodies a client may be shown: the captured one before the first
action, and with the state of the machine as its status after one. -/
inductive Life.Shows (coll : Text) (life : Life) : Json → Prop where
  | captured (hactions : life.actions = []) : Life.Shows coll life life.body
  | moved {machine : StateMachine} {state : Text} {body : Json}
      (hmachine : boundMachine registry coll = some machine)
      (hstate : life.state machine = some state) (hactions : life.actions ≠ [])
      (hbody : ShowsStatus machine.statusField state life.body body) :
      Life.Shows coll life body

/-- An answer of one of the two layers: its label, its header and its body. -/
structure LinkedAnswer where
  matchType : MatchType
  header : HeaderName
  value : Text
  body : Json

/-- What the lives give a request for an answer: a GET the body of a
captured resource, and an action, where no resource was read, the state
its machine takes it to. -/
inductive LinkedTo (env : Externals) (lives : Lives) (ctx : RequestContext) :
    LinkedAnswer → Prop where
  | read {coll id : Text} {life : Life} {body : Json}
      (htarget : resourceTarget ctx = some (coll, id))
      (hlife : lives (ctx.svcKey, coll, id) = some life)
      (hshows : life.Shows registry coll body) :
      LinkedTo env lives ctx ⟨.resourceStore, xGhostResource, "true", body⟩
  | move {coll id action state : Text} {life : Life} {machine : StateMachine} {body : Json}
      (hread : ∀ coll id, resourceTarget ctx = some (coll, id) →
        lives (ctx.svcKey, coll, id) = none)
      (htarget : transitionTarget env ctx = some (coll, id, action))
      (hlife : lives (ctx.svcKey, coll, id) = some life)
      (hmachine : boundMachine registry coll = some machine)
      (hstate : (life.after action).state machine = some state)
      (hshows : (life.after action).Shows registry coll body) :
      LinkedTo env lives ctx ⟨.resourceTransition, xGhostTransition, state, body⟩

variable {registry} {env : Externals} {lives : Lives} {ctx : RequestContext}

/-- A life shows one body, read member by member. -/
theorem Life.Shows.get_eq {coll : Text} {life : Life} {body body' : Json}
    (h : life.Shows registry coll body) (h' : life.Shows registry coll body') (key : Text) :
    body.get key = body'.get key := by
  cases h with
  | captured hnil =>
      cases h' with
      | captured => rfl
      | moved _ _ hne => exact absurd hnil hne
  | moved hmachine hstate hne hbody =>
      cases h' with
      | captured hnil => exact absurd hnil hne
      | moved hmachine' hstate' _ hbody' =>
          cases hmachine.symm.trans hmachine'
          cases hstate.symm.trans hstate'
          exact hbody.get_eq hbody' key

/-- The lives give a request one answer. -/
theorem LinkedTo.unique {a b : LinkedAnswer} (h : LinkedTo registry env lives ctx a)
    (h' : LinkedTo registry env lives ctx b) :
    a.matchType = b.matchType ∧ a.header = b.header ∧ a.value = b.value
      ∧ ∀ key, a.body.get key = b.body.get key := by
  cases h with
  | read htarget hlife hshows =>
      cases h' with
      | read htarget' hlife' hshows' =>
          cases htarget.symm.trans htarget'
          cases hlife.symm.trans hlife'
          exact ⟨rfl, rfl, rfl, hshows.get_eq hshows'⟩
      | move hread => cases hlife.symm.trans (hread _ _ htarget)
  | move hread htarget hlife hmachine hstate hshows =>
      cases h' with
      | read htarget' hlife' => cases hlife'.symm.trans (hread _ _ htarget')
      | move _ htarget' hlife' hmachine' hstate' hshows' =>
          cases htarget.symm.trans htarget'
          cases hlife.symm.trans hlife'
          cases hmachine.symm.trans hmachine'
          cases hstate.symm.trans hstate'
          exact ⟨rfl, rfl, rfl, hshows.get_eq hshows'⟩

end Abstraction

/-- The answer is the linked one: a 200 that shows the body. -/
def LinkedAnswer.Given (env : Externals) (a : LinkedAnswer) : Answer → Prop
  | .served matchType s =>
      matchType = a.matchType ∧ s.response.status = StatusCode.ok
        ∧ s.response.body = Text.utf8 (env.printJson a.body)
        ∧ s.response.headers.getAll a.header.toText
          = [(HeaderValue.fromStr a.value).getD valueTrue]
  | _ => False

/-- Did one of the two resource layers answer? -/
def Answer.isLinked : Answer → Bool
  | .served .resourceStore _ | .served .resourceTransition _ => true
  | _ => false

-- ============================================================= the transcript

/-- The capture a round trip has left behind. -/
def Spawned.storeCall (now : Nat) : Spawned → Option StoreCall
  | .captureCreate svcKey collection body contentType status =>
      some (.captureCreate svcKey collection body none contentType status now)
  | _ => none

section Transcript

variable (env : Externals) (cfg : Config)

/-- The transition an answer is about. -/
def transitionCall (call : Call) (ctx : RequestContext) : Answer → Option StoreCall
  | .served .resourceTransition _ =>
      (transitionTarget env ctx).map fun (coll, id, action) =>
        .applyTransition ctx.svcKey coll id action call.systemTime
  | _ => none

/-- The context a request is handled in, if it gets that far. -/
def contextOf (st : AppState) (call : Call) : Option RequestContext :=
  (collectBody cfg call.request.body).bind (requestContext env cfg st call.request)

/-- What an action does to the resources, by its answer and by the tasks it
has left behind. -/
def storeCalls (st : AppState) : PlainAction → List StoreCall
  | .request call =>
      ((contextOf env cfg st call).bind fun ctx =>
        transitionCall env call ctx (handle env cfg st call).2).toList
      ++ (proxyHandler env cfg st call).2.2.filterMap (Spawned.storeCall call.systemTime)
  | _ => []

/-- The proxy with the lives its transcript tells. -/
def lifeStep (s : AppState × Lives) (action : PlainAction) : AppState × Lives :=
  ((plainStep env cfg s.1 action).1,
    (storeCalls env cfg s.1 action).foldl (livesStep true) s.2)

variable {env cfg}

theorem resourceStore_settle (now : Nat) (spawned : List Spawned) (st : AppState) :
    (settle now st spawned).resourceStore
      = (spawned.filterMap (Spawned.storeCall now)).foldl storeStep st.resourceStore := by
  induction spawned generalizing st with
  | nil => rfl
  | cons task spawned ih =>
      show (settle now (runSpawned now st task) spawned).resourceStore = _
      rw [ih]
      cases task with
      | captureCreate => rfl
      | appendTrafficLog | appendMockLog | appendWideEvent => rfl

/-- Captures count in every case. -/
theorem run_livedStep_captures (now : Nat) (spawned : List Spawned)
    (s : ResourceStore × Lives) :
    Machine.run livedStep s (spawned.filterMap (Spawned.storeCall now))
      = ((spawned.filterMap (Spawned.storeCall now)).foldl storeStep s.1,
        (spawned.filterMap (Spawned.storeCall now)).foldl (livesStep true) s.2) := by
  induction spawned generalizing s with
  | nil => rfl
  | cons task spawned ih =>
      cases task with
      | captureCreate => exact ih _
      | appendTrafficLog | appendMockLog | appendWideEvent => exact ih _

/-- The MOCK branch changes the resources by the transition it answers. -/
theorem resourceStore_mockBranch (call : Call) (ctx : RequestContext) (st : AppState)
    (lives : Lives) :
    Machine.run livedStep (st.resourceStore, lives)
        (transitionCall env call ctx (mockBranch env cfg call ctx st).2).toList
      = ((mockBranch env cfg call ctx st).1.resourceStore,
        (transitionCall env call ctx (mockBranch env cfg call ctx st).2).toList.foldl
          (livesStep true) lives) := by
  obtain ⟨st', a, hout⟩ := exists_mockOutcome env cfg call ctx st
  rw [hout.eq]
  cases hout with
  | exact | sequence | resource | smartSwap | miss => rfl
  | transition coll id action resource nextState _ _ _ htarget htrans =>
      have happly : st.resourceStore.applyTransition ctx.svcKey coll id action call.systemTime
          = (st.resourceStore.put ctx.svcKey coll id resource, some nextState) := by
        unfold ResourceStore.applyTransition
        rw [htrans]
      show Machine.run livedStep (st.resourceStore, lives)
        ((transitionTarget env ctx).map _).toList
        = (_, ((transitionTarget env ctx).map _).toList.foldl _ _)
      rw [htarget]
      show livedStep (st.resourceStore, lives)
        (.applyTransition ctx.svcKey coll id action call.systemTime) = _
      unfold livedStep
      simp only [storeStep, succeeded, happly, Option.isSome_some]
      rfl

/-- Up to its return, a request changes the resources by the transition it
answers. -/
theorem resourceStore_proxyHandler (st : AppState) (lives : Lives) (call : Call) :
    let moves := ((contextOf env cfg st call).bind fun ctx =>
      transitionCall env call ctx (proxyHandler env cfg st call).2.1).toList
    Machine.run livedStep (st.resourceStore, lives) moves
      = ((proxyHandler env cfg st call).1.resourceStore,
        moves.foldl (livesStep true) lives) := by
  intro moves
  cases requestCase env cfg st call with
  | tooLarge h =>
      have hmoves : moves = [] := by
        simp only [moves, contextOf, collectBody, if_neg (Nat.not_le.mpr h), Option.bind_none,
          Option.toList_none]
      rw [hmoves, proxyHandler_tooLarge h]
      rfl
  | noTenant hfits h =>
      have hmoves : moves = [] := by
        simp only [moves, contextOf, collectBody, if_pos hfits, Option.bind_some,
          requestContext_eq, h, Option.map_none, Option.bind_none, Option.toList_none]
      rw [hmoves, proxyHandler_noTenant hfits h]
      rfl
  | dispatched ctx mode h =>
      have hmoves : moves
          = (transitionCall env call ctx (proxyHandler env cfg st call).2.1).toList := by
        simp only [moves, contextOf, collectBody, if_pos h.fits, Option.bind_some, h.context]
      rw [hmoves, h.proxyHandler, dispatch, h.mode]
      cases mode with
      | mock => exact resourceStore_mockBranch call ctx st lives
      | transitioning => rfl
      | passthrough =>
          unfold passthroughAnswer
          cases call.upstream (forwarded call ctx) <;> rfl
      | learn =>
          dsimp only
          unfold learnBranch
          cases call.upstream (forwarded call ctx) <;> rfl

/-- The resources change by what the transcript tells, and by nothing
else. -/
theorem resourceStore_plainStep (st : AppState) (lives : Lives) (action : PlainAction) :
    Machine.run livedStep (st.resourceStore, lives) (storeCalls env cfg st action)
      = ((plainStep env cfg st action).1.resourceStore,
        (storeCalls env cfg st action).foldl (livesStep true) lives) := by
  cases action with
  | createMock entry => rfl
  | admin call => cases call <;> rfl
  | request call =>
      let moves := ((contextOf env cfg st call).bind fun ctx =>
        transitionCall env call ctx (proxyHandler env cfg st call).2.1).toList
      let captures := (proxyHandler env cfg st call).2.2.filterMap
        (Spawned.storeCall call.systemTime)
      calc Machine.run livedStep (st.resourceStore, lives) (moves ++ captures)
          = Machine.run livedStep (Machine.run livedStep (st.resourceStore, lives) moves)
              captures := List.foldl_append ..
        _ = Machine.run livedStep ((proxyHandler env cfg st call).1.resourceStore,
              moves.foldl (livesStep true) lives) captures := by
            rw [resourceStore_proxyHandler st lives call]
        _ = (captures.foldl storeStep (proxyHandler env cfg st call).1.resourceStore,
              captures.foldl (livesStep true) (moves.foldl (livesStep true) lives)) :=
            run_livedStep_captures ..
        _ = ((handle env cfg st call).1.resourceStore,
              (moves ++ captures).foldl (livesStep true) lives) := by
            rw [List.foldl_append, ← resourceStore_settle]
            rfl

end Transcript

-- ================================================================ the lives

section Shown

variable {registry : Option StatechartRegistry} {key : ResourceStore.ResourceKey}
  {r : ResourceState} {life : Life}

/-- A bound resource is in the state its actions have taken the machine
to. -/
theorem Simulates.state {machine : StateMachine} (h : Simulates registry key r life)
    (hmachine : boundMachine registry key.2.1 = some machine) :
    ∃ m s, r.statechart = some m ∧ registry.bind (fun reg => reg.get m) = some machine
      ∧ r.currentState = some s ∧ life.state machine = some s := by
  obtain ⟨m, hm, hget⟩ := Option.bind_eq_some_iff.mp hmachine
  have hchart : r.statechart = some m := h.binding.trans hm
  obtain ⟨machine', s, hget', hcur, _, hfold, _⟩ := h.bound m hchart
  rw [hget, Option.some.injEq] at hget'
  subst hget'
  exact ⟨m, s, hchart, hget, hcur, hfold⟩

/-- A stored resource has a body its life shows. -/
theorem Simulates.shows (h : Simulates registry key r life) :
    life.Shows registry key.2.1 r.body := by
  cases hchart : r.statechart with
  | none =>
      obtain ⟨_, hactions, hbody⟩ := h.unbound hchart
      exact hbody ▸ .captured hactions
  | some m =>
      obtain ⟨machine, s, hget, _, _, hfold, hbody⟩ := h.bound m hchart
      by_cases hactions : life.actions = []
      · rw [hbody, if_pos hactions]
        exact .captured hactions
      · have hmachine : boundMachine registry key.2.1 = some machine := by
          rw [boundMachine, ← h.binding, hchart, Option.bind_some, hget]
        rw [hbody, if_neg hactions]
        exact .moved hmachine hfold hactions (showsStatus_setStatus ..)

theorem simulated_lookup {store : ResourceStore} {lives : Lives}
    (hsim : Simulated registry store lives) (svc coll id : Text) :
    (store.lookup svc coll id = none ∧ lives (svc, coll, id) = none)
      ∨ ∃ r life, store.lookup svc coll id = some r ∧ lives (svc, coll, id) = some life
        ∧ Simulates registry (svc, coll, id) r life := by
  have hkey := hsim (svc, coll, id)
  cases hr : store.lookup svc coll id with
  | none =>
      cases hlife : lives (svc, coll, id) with
      | none => exact Or.inl ⟨rfl, rfl⟩
      | some life => simp [hr, hlife, SimulatesAt] at hkey
  | some r =>
      cases hlife : lives (svc, coll, id) with
      | none => simp [hr, hlife, SimulatesAt] at hkey
      | some life =>
          rw [hr, hlife] at hkey
          exact Or.inr ⟨r, life, rfl, rfl, hkey⟩

end Shown

/-- A transition, with what it looks up in the order that matters here. -/
theorem transition_eq (store : ResourceStore) (svc coll id action : Text) (now : Nat) :
    store.transition svc coll id action now
      = (store.lookup svc coll id).bind fun r => r.statechart.bind fun m =>
          r.currentState.bind fun s => store.registry.bind fun reg =>
            (reg.apply m s action).map fun s' => (ResourceStore.advanced reg r m s' now, s') := by
  unfold ResourceStore.transition ResourceStore.lookup
  cases hreg : store.registry with
  | none => cases store.byService.lookup svc <;> simp
  | some reg =>
      cases store.byService.lookup svc <;> simp [Option.map_eq_bind]

section Answered

variable {registry : Option StatechartRegistry} {store : ResourceStore} {lives : Lives}
  {ctx : RequestContext}

/-- A GET finds a resource exactly where one lives. -/
theorem resourceHit_eq_none_iff {st : AppState}
    (hsim : Simulated registry st.resourceStore lives) :
    resourceHit ctx st = none
      ↔ ∀ coll id, resourceTarget ctx = some (coll, id) →
        lives (ctx.svcKey, coll, id) = none := by
  unfold resourceHit
  rcases resourceTarget ctx with _ | ⟨coll, id⟩
  · simp
  · rcases simulated_lookup hsim ctx.svcKey coll id with
      ⟨hr, hlife⟩ | ⟨r, life, hr, hlife, -⟩ <;>
    · simp only [Option.bind_some, hr, Option.some.injEq, Prod.mk.injEq, reduceCtorEq, false_iff,
        true_iff]
      grind

/-- What a GET finds is what the lives give it. -/
theorem linkedTo_resourceHit {st : AppState} {r : ResourceState}
    (hsim : Simulated registry st.resourceStore lives) (env : Externals)
    (hres : resourceHit ctx st = some r) :
    LinkedTo registry env lives ctx ⟨.resourceStore, xGhostResource, "true", r.body⟩ := by
  obtain ⟨⟨coll, id⟩, htarget, hlookup⟩ := Option.bind_eq_some_iff.mp hres
  rcases simulated_lookup hsim ctx.svcKey coll id with
    ⟨hr, -⟩ | ⟨r', life, hr, hlife, hsimulates⟩
  · cases hr.symm.trans hlookup
  · cases hr.symm.trans hlookup
    exact .read htarget hlife hsimulates.shows

/-- The state a transition answers is the one the life has reached with its
action; where it answers none, the machine of the life knows none. -/
theorem transition_state (hregistry : store.registry = registry)
    (hsim : Simulated registry store lives) (svc coll id action : Text) (now : Nat) :
    (store.transition svc coll id action now).map Prod.snd
      = (lives (svc, coll, id)).bind fun life =>
          (boundMachine registry coll).bind fun machine => (life.after action).state machine := by
  rcases simulated_lookup hsim svc coll id with
    ⟨hr, hlife⟩ | ⟨r, life, hr, hlife, hsimulates⟩
  · rw [hlife, transition_eq, hr]
    rfl
  rw [hlife, transition_eq, hr, Option.bind_some, Option.bind_some]
  cases hmachine : boundMachine registry coll with
  | none =>
      cases hchart : r.statechart with
      | none => rfl
      | some m =>
          have hbound := hsimulates.binding.symm.trans hchart
          obtain ⟨machine, hget⟩ := get_of_boundStatechart hbound
          rw [boundMachine, hbound, Option.bind_some, hget] at hmachine
          cases hmachine
  | some machine =>
      obtain ⟨m, s, hm, hget, hs, hstate⟩ := hsimulates.state hmachine
      obtain ⟨reg, rfl, hmachine'⟩ := Option.bind_eq_some_iff.mp hget
      have happly : reg.apply m s action = machine.apply s action := by
        rw [StatechartRegistry.apply, hmachine', Option.bind_some]
      have hnext : (life.after action).state machine = machine.apply s action := by
        unfold Life.state Life.after at *
        rw [List.foldlM_append, hstate]
        simp
      rw [hm, hs, hregistry, Option.bind_some, Option.bind_some, Option.bind_some,
        Option.bind_some, happly, hnext, Option.map_map]
      exact Option.map_id'

/-- The body a transition answers is one the life shows after its action. -/
theorem transition_shows (hreg : WellFormedRegistry registry)
    (hregistry : store.registry = registry) (hsim : Simulated registry store lives)
    {svc coll id action state : Text} {now : Nat} {life : Life} {r : ResourceState}
    (hlife : lives (svc, coll, id) = some life)
    (htrans : store.transition svc coll id action now = some (r, state)) :
    (life.after action).Shows registry coll r.body := by
  rcases simulated_lookup hsim svc coll id with
    ⟨-, hnone⟩ | ⟨r', life', hr, hlife', hsimulates⟩
  · cases hnone.symm.trans hlife
  · cases hlife'.symm.trans hlife
    rw [transition_eq, hr, Option.bind_some] at htrans
    obtain ⟨m, hm, htrans⟩ := Option.bind_eq_some_iff.mp htrans
    obtain ⟨s, hs, htrans⟩ := Option.bind_eq_some_iff.mp htrans
    obtain ⟨reg, hstore, htrans⟩ := Option.bind_eq_some_iff.mp htrans
    obtain ⟨next, happly, heq⟩ := Option.map_eq_some_iff.mp htrans
    cases heq
    exact (simulates_advanced hreg now hsimulates (hregistry.symm.trans hstore) hm hs
      happly).shows

/-- What a transition answers is what the lives give it. -/
theorem linkedTo_transition (hreg : WellFormedRegistry registry) {st : AppState}
    (hregistry : st.resourceStore.registry = registry)
    (hsim : Simulated registry st.resourceStore lives) {env : Externals}
    {coll id action state : Text} {now : Nat} {r : ResourceState}
    (hres : resourceHit ctx st = none)
    (htarget : transitionTarget env ctx = some (coll, id, action))
    (htrans : st.resourceStore.transition ctx.svcKey coll id action now = some (r, state)) :
    LinkedTo registry env lives ctx
      ⟨.resourceTransition, xGhostTransition, state, r.body⟩ := by
  have hstate := transition_state hregistry hsim ctx.svcKey coll id action now
  rw [htrans, Option.map_some] at hstate
  obtain ⟨life, hlife, hstate⟩ := Option.bind_eq_some_iff.mp hstate.symm
  obtain ⟨machine, hmachine, hstate⟩ := Option.bind_eq_some_iff.mp hstate
  exact .move ((resourceHit_eq_none_iff hsim).mp hres) htarget hlife hmachine hstate
    (transition_shows hreg hregistry hsim hlife htrans)

/-- Where neither layer finds anything, the lives give no answer. -/
theorem not_linkedTo {st : AppState} {env : Externals} {call : Call}
    (hregistry : st.resourceStore.registry = registry)
    (hsim : Simulated registry st.resourceStore lives) (hres : resourceHit ctx st = none)
    (hsilent : TransitionSilent env call ctx st) (a : LinkedAnswer) :
    ¬LinkedTo registry env lives ctx a := by
  intro hlinked
  cases hlinked with
  | read htarget hlife hshows =>
      cases hlife.symm.trans ((resourceHit_eq_none_iff hsim).mp hres _ _ htarget)
  | @move coll id action _ life machine _ _ htarget hlife hmachine hstate _ =>
      have htrans := transition_state hregistry hsim ctx.svcKey coll id action call.systemTime
      rw [hsilent coll id action htarget, hlife, Option.bind_some, hmachine, Option.bind_some,
        hstate] at htrans
      cases htrans

end Answered

-- ============================================================== the answers

/-- A served resource is a linked answer. -/
theorem given_serveResource (env : Externals) (call : Call) (matchType : MatchType)
    (header : HeaderName) (value : Text) (resource : ResourceState) :
    LinkedAnswer.Given env ⟨matchType, header, value, resource.body⟩
      (serveResource env call matchType header value resource) := by
  obtain ⟨hbody, hstatus⟩ := buildResponse_contentType env call 200 resource.contentType
    (Text.utf8 (env.printJson resource.body))
  exact ⟨rfl, hstatus, hbody, HeaderMap.getAll_insert_self⟩

section Runs

variable {env : Externals} {cfg : Config} {registry : Option StatechartRegistry}

/-- The answer of a request in MOCK mode, from the lives. -/
structure FollowsLives (env : Externals) (registry : Option StatechartRegistry)
    (s : AppState × Lives) (call : Call) (ctx : RequestContext) (answer : Answer) : Prop where
  linked : answer.isLinked = true
    ↔ ExactSilent call ctx ∧ SequenceSilent env ctx s.1
      ∧ ∃ a, LinkedTo registry env s.2 ctx a
  given : answer.isLinked = true →
    ∃ a, LinkedTo registry env s.2 ctx a ∧ a.Given env answer

theorem followsLives_mockBranch (hreg : WellFormedRegistry registry) {s : AppState × Lives}
    (hregistry : s.1.resourceStore.registry = registry)
    (hsim : Simulated registry s.1.resourceStore s.2) (call : Call) (ctx : RequestContext) :
    FollowsLives env registry s call ctx (mockBranch env cfg call ctx s.1).2 := by
  obtain ⟨st', a, hout⟩ := exists_mockOutcome env cfg call ctx s.1
  rw [hout.eq]
  cases hout with
  | exact entry hfind hbody =>
      refine ⟨iff_of_false Bool.false_ne_true ?_, fun h => absurd h Bool.false_ne_true⟩
      exact fun h => h.1 entry hfind hbody
  | sequence counters resp _ hseq =>
      refine ⟨iff_of_false Bool.false_ne_true ?_, fun h => absurd h Bool.false_ne_true⟩
      rintro ⟨_, hsilent, _⟩
      rw [SequenceSilent, hseq] at hsilent
      cases hsilent
  | resource r hexact hseq hres =>
      have hlinked := linkedTo_resourceHit hsim env hres
      exact ⟨iff_of_true rfl ⟨hexact, hseq, _, hlinked⟩,
        fun _ => ⟨_, hlinked, given_serveResource ..⟩⟩
  | transition coll id action r nextState hexact hseq hres htarget htrans =>
      have hlinked := linkedTo_transition hreg hregistry hsim hres htarget htrans
      exact ⟨iff_of_true rfl ⟨hexact, hseq, _, hlinked⟩,
        fun _ => ⟨_, hlinked, given_serveResource ..⟩⟩
  | smartSwap entry _ _ hres htrans =>
      refine ⟨iff_of_false Bool.false_ne_true ?_, fun h => absurd h Bool.false_ne_true⟩
      rintro ⟨-, -, a, hlinked⟩
      exact not_linkedTo hregistry hsim hres htrans a hlinked
  | miss _ _ hres htrans =>
      refine ⟨iff_of_false Bool.false_ne_true ?_, fun h => absurd h Bool.false_ne_true⟩
      rintro ⟨-, -, a, hlinked⟩
      exact not_linkedTo hregistry hsim hres htrans a hlinked

theorem lifeStep_simulated (hreg : WellFormedRegistry registry) (s : AppState × Lives)
    (action : PlainAction)
    (h : s.1.resourceStore.registry = registry ∧ Simulated registry s.1.resourceStore s.2) :
    (lifeStep env cfg s action).1.resourceStore.registry = registry
      ∧ Simulated registry (lifeStep env cfg s action).1.resourceStore
        (lifeStep env cfg s action).2 := by
  let calls := storeCalls env cfg s.1 action
  have hrun : (Machine.run livedStep (s.1.resourceStore, s.2) calls).1.registry = registry
      ∧ Simulated registry (Machine.run livedStep (s.1.resourceStore, s.2) calls).1
        (Machine.run livedStep (s.1.resourceStore, s.2) calls).2 :=
    Machine.run_invariant
      (I := fun t : ResourceStore × Lives =>
        t.1.registry = registry ∧ Simulated registry t.1 t.2)
      (simulates_step hreg) h calls
  rw [resourceStore_plainStep] at hrun
  exact hrun

/-- The lives of every run are those of the resources. -/
theorem lives_simulated (env : Externals) (cfg : Config) (hreg : WellFormedRegistry registry)
    {st : AppState} (hstore : st.resourceStore = ResourceStore.new registry)
    (actions : List PlainAction) :
    let s := Machine.run (lifeStep env cfg) (st, fun _ => none) actions
    s.1.resourceStore.registry = registry ∧ Simulated registry s.1.resourceStore s.2 := by
  refine Machine.run_invariant
    (I := fun s : AppState × Lives =>
      s.1.resourceStore.registry = registry ∧ Simulated registry s.1.resourceStore s.2)
    (lifeStep_simulated hreg) ?_ actions
  dsimp only
  rw [hstore]
  exact ⟨rfl, simulated_new registry⟩

/-- In every run from an empty resource store, a request in MOCK mode is
answered by a resource layer exactly when no recording or sequence answers
it and the transcript of the run gives it an answer; and that is the answer
then. -/
theorem linked_mocks_follow_transcript (hreg : WellFormedRegistry registry) (st : AppState)
    (hstore : st.resourceStore = ResourceStore.new registry) (actions : List PlainAction)
    (call : Call) (ctx : RequestContext)
    (hdisp : Dispatched env cfg
      (Machine.run (lifeStep env cfg) (st, fun _ => none) actions).1 call ctx .mock) :
    let s := Machine.run (lifeStep env cfg) (st, fun _ => none) actions
    FollowsLives env registry s call ctx (handle env cfg s.1 call).2 := by
  intro s
  obtain ⟨hregistry, hsim⟩ := lives_simulated env cfg hreg hstore actions
  rw [handle_mock hdisp]
  exact followsLives_mockBranch hreg hregistry hsim call ctx

/-- A machine that every transition takes down in rank. -/
def Ranked (machine : StateMachine) (rank : Text → Nat) : Prop :=
  ∀ s action s', machine.apply s action = some s' → rank s' < rank s

theorem Ranked.foldlM {machine : StateMachine} {rank : Text → Nat} (h : Ranked machine rank) :
    ∀ {actions : List Text} {s s' : Text}, actions.foldlM machine.apply s = some s' →
      actions.length + rank s' ≤ rank s := by
  intro actions
  induction actions with
  | nil =>
      intro s s' hrun
      cases hrun
      simp
  | cons action actions ih =>
      intro s s' hrun
      rw [List.foldlM_cons, Option.bind_eq_bind, Option.bind_eq_some_iff] at hrun
      obtain ⟨t, hstep, hrest⟩ := hrun
      have hlt := h s action t hstep
      have hle := ih hrest
      simp only [List.length_cons]
      omega

/-- The states of a list in falling rank, and every other below them. -/
def rankIn (states : List Text) (s : Text) : Nat := states.length - states.idxOf s

/-- A table whose transitions all go down. -/
def tableRanked (rank : Text → Nat) (states : List (Text × List (Text × Text))) : Bool :=
  states.all fun s => s.2.all fun t => rank t.2 < rank s.1

theorem ranked_machine {rank : Text → Nat} {id initial : Text}
    {states : List (Text × List (Text × Text))} (h : tableRanked rank states = true) :
    Ranked (machine id initial states) rank := by
  intro s action s' happly
  simp only [tableRanked, List.all_eq_true, decide_eq_true_eq] at h
  obtain ⟨st, hst, hnext⟩ := Option.bind_eq_some_iff.mp happly
  obtain ⟨row, hrow, heq⟩ := List.mem_map.mp (HashMap.mem_of_lookup_collect hst)
  cases heq
  exact h row hrow _ (HashMap.mem_of_lookup_collect hnext)

/-- Charges, invoices and orders have no way back. -/
theorem bundled_ranked :
    Ranked chargeMachine (rankIn ["created", "captured"])
      ∧ Ranked invoiceMachine (rankIn ["draft", "open", "uncollectible", "paid"])
      ∧ Ranked orderMachine (rankIn ["pending", "paid", "shipped", "delivered", "returned"]) :=
  ⟨ranked_machine (by decide), ranked_machine (by decide), ranked_machine (by decide)⟩

/-- In every run, the transitions of a resource that were answered since
its last capture are at most as many as the rank of its machine's initial
state, and each of them has shown a state of its own; and charges, invoices
and orders have such a rank. -/
theorem moves_bounded (hreg : WellFormedRegistry registry) (st : AppState)
    (hstore : st.resourceStore = ResourceStore.new registry) (actions : List PlainAction)
    {machine : StateMachine} {rank : Text → Nat} (hranked : Ranked machine rank)
    {svc coll id : Text} (hmachine : boundMachine registry coll = some machine) {life : Life}
    (hlife : (Machine.run (lifeStep env cfg) (st, fun _ => none) actions).2 (svc, coll, id)
      = some life) :
    life.actions.length ≤ rank machine.initial
      ∧ (∀ before between after, life.actions = before ++ between ++ after → between ≠ [] →
        (⟨life.body, before⟩ : Life).state machine
          ≠ (⟨life.body, before ++ between⟩ : Life).state machine)
      ∧ Ranked chargeMachine (rankIn ["created", "captured"])
      ∧ Ranked invoiceMachine (rankIn ["draft", "open", "uncollectible", "paid"])
      ∧ Ranked orderMachine (rankIn ["pending", "paid", "shipped", "delivered", "returned"]) := by
  obtain ⟨-, hsim⟩ := lives_simulated env cfg hreg hstore actions
  rcases simulated_lookup hsim svc coll id with
    ⟨-, hnone⟩ | ⟨r, life', hr, hlife', hsimulates⟩
  · cases hnone.symm.trans hlife
  · rw [hlife, Option.some.injEq] at hlife'
    subst hlife'
    obtain ⟨m, s, -, -, -, hstate⟩ := hsimulates.state hmachine
    refine ⟨(Nat.le_add_right _ _).trans (hranked.foldlM hstate), ?_, bundled_ranked⟩
    intro before between after hsplit hne heq
    unfold Life.state at hstate heq
    rw [hsplit, List.append_assoc, List.foldlM_append, Option.bind_eq_bind,
      Option.bind_eq_some_iff] at hstate
    obtain ⟨t, hbefore, hrest⟩ := hstate
    have hbetween : between.foldlM machine.apply t = some t := by
      rw [List.foldlM_append, hbefore] at heq
      exact heq.symm
    have hle := hranked.foldlM hbetween
    have hpos := List.length_pos_iff.mpr hne
    omega

end Runs

-- ============================================================== one charge

/-- A transition that was answered is all its request has done. -/
theorem storeCalls_of_served {env : Externals} {cfg : Config} {st : AppState} {call : Call}
    {ctx : RequestContext} {coll id action : Text} {served : Served}
    (hdisp : Dispatched env cfg st call ctx .mock)
    (htarget : transitionTarget env ctx = some (coll, id, action))
    (hserved : (handle env cfg st call).2 = .served .resourceTransition served) :
    storeCalls env cfg st (.request call)
      = [.applyTransition ctx.svcKey coll id action call.systemTime] := by
  have hcontext : contextOf env cfg st call = some ctx := by
    rw [contextOf, collectBody, if_pos hdisp.fits, Option.bind_some, hdisp.context]
  have hspawned : (proxyHandler env cfg st call).2.2 = [] := by
    rw [hdisp.proxyHandler, dispatch, hdisp.mode]
  simp [storeCalls, hcontext, hserved, hspawned, transitionCall, htarget]

theorem bundled_registry : WellFormedRegistry (some withBundledFixtures) :=
  fun _ hreg => Option.some.inj hreg ▸ bundled_wellFormed

/-- The charge was recorded, and the proxy set to MOCK. -/
noncomputable def replayingCharge : AppState × Lives :=
  Machine.run (lifeStep (chargeExternals "ch_1") Config.new) (chargeProxy, fun _ => none)
    [.request (learnPost "ch_1"), .admin (.setMode .mock)]

theorem replaying_replayingCharge : Replaying replayingCharge.1 :=
  replaying_afterLearning [learnPost "ch_1"]

theorem lives_replayingCharge :
    replayingCharge.2 (globalTenant, ("charges" : Text), ("ch_1" : Text))
      = some ⟨charge "ch_1" "created", []⟩ := rfl

/-- After a charge was recorded, its capture is answered from the
transcript: with the new state, and a body that reads it. -/
theorem linked_mocks_follow_transcript_charge :
    ∃ a, LinkedTo (some withBundledFixtures) (chargeExternals "ch_1") replayingCharge.2
        (chargeContext "ch_1" replayingCharge.1 (capture "ch_1")) a
      ∧ a.value = "captured" ∧ a.body.get "status" = some (.string "captured")
      ∧ a.Given (chargeExternals "ch_1")
        (handle (chargeExternals "ch_1") Config.new replayingCharge.1 (capture "ch_1")).2 := by
  let ctx := chargeContext "ch_1" replayingCharge.1 (capture "ch_1")
  have hst := replaying_replayingCharge
  have hread : ∀ coll id, resourceTarget ctx = some (coll, id) →
      replayingCharge.2 (ctx.svcKey, coll, id) = none := fun _ _ h => by cases h
  have htarget : transitionTarget (chargeExternals "ch_1") ctx
      = some (("charges" : Text), ("ch_1" : Text), ("capture" : Text)) := rfl
  have hlife : replayingCharge.2 (ctx.svcKey, ("charges" : Text), ("ch_1" : Text))
      = some ⟨charge "ch_1" "created", []⟩ := by
    rw [svcKey_chargeContext hst.routes]
    exact lives_replayingCharge
  have hmachine : boundMachine (some withBundledFixtures) ("charges" : Text)
      = some chargeMachine := rfl
  have hstate : (Life.after ⟨charge "ch_1" "created", []⟩ "capture").state chargeMachine
      = some "captured" := rfl
  have hlinked : LinkedTo (some withBundledFixtures) (chargeExternals "ch_1")
      replayingCharge.2 ctx _ :=
    .move hread htarget hlife hmachine hstate
      (.moved hmachine hstate (List.cons_ne_nil _ _) (showsStatus_setStatus ..))
  have hfollows : FollowsLives (chargeExternals "ch_1") (some withBundledFixtures)
      replayingCharge (capture "ch_1") ctx
      (handle (chargeExternals "ch_1") Config.new replayingCharge.1 (capture "ch_1")).2 :=
    linked_mocks_follow_transcript bundled_registry chargeProxy rfl _ _ ctx
      (hst.dispatched rfl rfl)
  obtain ⟨a, ha, hgiven⟩ := hfollows.given
    (hfollows.linked.mpr ⟨hst.exactSilent rfl, hst.sequenceSilent _, _, hlinked⟩)
  obtain ⟨-, -, hvalue, hbody⟩ := ha.unique hlinked
  exact ⟨a, ha, hvalue, (hbody "status").trans rfl, hgiven⟩

/-- A charge answers at most two transitions; this one has answered one. -/
theorem moves_bounded_charge :
    ∃ life, (Machine.run (lifeStep (chargeExternals "ch_1") Config.new)
        (chargeProxy, fun _ => none)
        [.request (learnPost "ch_1"), .admin (.setMode .mock), .request (capture "ch_1")]).2
          (globalTenant, ("charges" : Text), ("ch_1" : Text)) = some life
      ∧ life.actions = ["capture"]
      ∧ life.actions.length ≤ rankIn ["created", "captured"] chargeMachine.initial := by
  have hst := replaying_replayingCharge
  obtain ⟨served, hserved, -⟩ := capture_answered "ch_1" hst rfl rfl rfl
    (show _ = some (charge "ch_1" "captured") from rfl)
  have hlife : (Machine.run (lifeStep (chargeExternals "ch_1") Config.new)
      (chargeProxy, fun _ => none)
      [.request (learnPost "ch_1"), .admin (.setMode .mock), .request (capture "ch_1")]).2
        (globalTenant, ("charges" : Text), ("ch_1" : Text))
      = some ⟨charge "ch_1" "created", ["capture"]⟩ := by
    have hrun : Machine.run (lifeStep (chargeExternals "ch_1") Config.new)
        (chargeProxy, fun _ => none)
        ([.request (learnPost "ch_1"), .admin (.setMode .mock)] ++ [.request (capture "ch_1")])
        = lifeStep (chargeExternals "ch_1") Config.new replayingCharge
          (.request (capture "ch_1")) := by
      rw [Machine.run, List.foldl_append]
      rfl
    have hdisp : Dispatched (chargeExternals "ch_1") Config.new replayingCharge.1
        (capture "ch_1") (chargeContext "ch_1" replayingCharge.1 (capture "ch_1")) .mock :=
      hst.dispatched rfl rfl
    have htarget : transitionTarget (chargeExternals "ch_1")
        (chargeContext "ch_1" replayingCharge.1 (capture "ch_1"))
        = some (("charges" : Text), ("ch_1" : Text), ("capture" : Text)) := rfl
    have hcalls := storeCalls_of_served hdisp htarget hserved
    rw [svcKey_chargeContext hst.routes] at hcalls
    rw [show ∀ a b c : PlainAction, [a, b, c] = [a, b] ++ [c] from fun _ _ _ => rfl, hrun,
      lifeStep, hcalls]
    simp only [List.foldl_cons, List.foldl_nil, livesStep, if_true, Function.update_self,
      lives_replayingCharge]
    rfl
  exact ⟨_, hlife, rfl,
    (moves_bounded bundled_registry chargeProxy rfl _ bundled_ranked.1 rfl hlife).1⟩

end GostlyProxy
