/-
Replay, when the requests overlap.

# One after the other

A request takes effect at one of its steps: where a layer answers it, or
where the last layer that could has held back. The state is that of the
requests handled one at a time in the order in which they took effect,
except for the list of unmatched requests, to which a request is added later
(`Replays.step`). Whoever has been answered before another arrives is before
it in that order.

# The answers

An answer is the one the request gets in its place in that order. There is
one exception: a transition looks its resource up again for the body, and
another transition may have come in between. Then the answer names the state
of its own transition and shows the body of a later one (`Explained`). It
takes a second request that moves the same resource (`answer_of_solitary`).
-/
import GostlyProxy.Proofs.ReplaySteps

namespace GostlyProxy

open Lib

-- ================================================================ the order

section Runs

variable {ι : Type} (env : Externals) (cfg : Config) (calls : ι → Call) (st₀ : AppState)

abbrev ReplayWorld (ι : Type) := Threads.World ι (Linearize.Ordered ι AppState) ReplayPhase

/-- The requests handled one at a time. -/
def replayed (order : List ι) : AppState :=
  Machine.run (fun st i => (handle env cfg st (calls i)).1) st₀ order

/-- A request that moves a resource when its turn comes. -/
structure Moved (i : ι) (before : List ι) (ctx : RequestContext) (coll id nextState : Text)
    (resource : ResourceState) : Prop where
  key : movedKey env cfg st₀ (calls i) = some (ctx.svcKey, coll, id)
  answer : (handle env cfg (replayed env cfg calls st₀ before) (calls i)).2
    = serveResource env (calls i) .resourceTransition xGhostTransition nextState resource

/-- An answer and the order in which the requests took effect. -/
inductive Explained (i : ι) (order : List ι) : Answer → Prop where
  /-- It is the one the request gets in its turn. -/
  | inTurn {before after : List ι} : order = before ++ i :: after →
      Explained i order (handle env cfg (replayed env cfg calls st₀ before) (calls i)).2
  /-- It shows the resource as others have moved it since. -/
  | overtaken {before between after : List ι} {ctx : RequestContext}
      {coll id nextState : Text} {resource shown : ResourceState} {j : ι} :
      order = before ++ i :: (between ++ after) →
      Moved env cfg calls st₀ i before ctx coll id nextState resource →
      j ∈ between → movedKey env cfg st₀ (calls j) = some (ctx.svcKey, coll, id) →
      (replayed env cfg calls st₀ (before ++ i :: between)).resourceStore.lookup ctx.svcKey
        coll id = some shown →
      Explained i order
        (serveResource env (calls i) .resourceTransition xGhostTransition nextState shown)

/-- What is known of a request by where it stands. -/
def PhaseFact (i : ι) (s : Linearize.Ordered ι AppState) : ReplayPhase → Prop
  | .arrived => True
  | .sequences ctx =>
      Dispatched env cfg s.state (calls i) ctx .mock ∧ ExactSilent (calls i) ctx
  | .resources ctx =>
      Dispatched env cfg s.state (calls i) ctx .mock ∧ ExactSilent (calls i) ctx
        ∧ SequenceSilent env ctx s.state
  | .transitions ctx =>
      Dispatched env cfg s.state (calls i) ctx .mock ∧ ExactSilent (calls i) ctx
        ∧ SequenceSilent env ctx s.state ∧ resourceHit ctx s.state = none
  | .moved ctx coll id nextState =>
      ∃ before between resource, s.order = before ++ i :: between
        ∧ Moved env cfg calls st₀ i before ctx coll id nextState resource
        ∧ (s.state.resourceStore.lookup ctx.svcKey coll id).isSome = true
        ∧ (s.state.resourceStore.lookup ctx.svcKey coll id = some resource
          ∨ ∃ j ∈ between, movedKey env cfg st₀ (calls j) = some (ctx.svcKey, coll, id))
  | .missing ctx =>
      ∃ before after, s.order = before ++ i :: after
        ∧ (handle env cfg (replayed env cfg calls st₀ before) (calls i)).2
          = (missAnswer ctx s.state).2
  | .finished answer => Explained env cfg calls st₀ i s.order answer

variable {env cfg calls st₀}

theorem resourceHit_later {call : Call} {ctx : RequestContext} {j : ι}
    {s s' : Linearize.Ordered ι AppState} (h : resourceHit ctx s.state = none)
    (hlater : Later env cfg call j s s') : resourceHit ctx s'.state = none := by
  unfold resourceHit at *
  rcases htarget : resourceTarget ctx with _ | ⟨coll, id⟩
  · rfl
  · rw [htarget, Option.bind_some] at h
    rw [Option.bind_some]
    dsimp only at h ⊢
    rw [← Option.isNone_iff_eq_none, ← Option.not_isSome, hlater.stored, h]
    rfl

theorem Explained.later {i : ι} {order order' : List ι} {answer : Answer}
    (h : Explained env cfg calls st₀ i order answer) (horder : order <+: order') :
    Explained env cfg calls st₀ i order' answer := by
  obtain ⟨rest, rfl⟩ := horder
  cases h with
  | @inTurn before after hsplit =>
      have hlonger : order ++ rest = before ++ i :: (after ++ rest) := by
        rw [hsplit, List.append_assoc, List.cons_append]
      exact .inTurn hlonger
  | @overtaken before between after ctx coll id nextState resource shown j hsplit hmoved hj hkey
      hshown =>
      have hlonger : order ++ rest = before ++ i :: (between ++ (after ++ rest)) := by
        rw [hsplit, List.append_assoc, List.cons_append, List.append_assoc]
      exact .overtaken hlonger hmoved hj hkey hshown

/-- What is known of a request stays so while others take steps. -/
theorem PhaseFact.later {i j : ι} {s s' : Linearize.Ordered ι AppState} {phase : ReplayPhase}
    (h : PhaseFact env cfg calls st₀ i s phase) (hframe : MockFrame st₀ s.state)
    (hlater : Later env cfg (calls j) j s s') : PhaseFact env cfg calls st₀ i s' phase := by
  cases phase with
  | arrived => trivial
  | sequences ctx => exact ⟨h.1.frame hlater.frame, h.2⟩
  | resources ctx =>
      obtain ⟨hdisp, hexact, hseq⟩ := h
      exact ⟨hdisp.frame hlater.frame, hexact, sequenceSilent_frame hseq hlater.frame⟩
  | transitions ctx =>
      obtain ⟨hdisp, hexact, hseq, hres⟩ := h
      exact ⟨hdisp.frame hlater.frame, hexact, sequenceSilent_frame hseq hlater.frame,
        resourceHit_later hres hlater⟩
  | moved ctx coll id nextState =>
      obtain ⟨before, between, resource, hsplit, hmoved, hsome, hshown⟩ := h
      obtain ⟨rest, hrest⟩ := hlater.order
      refine ⟨before, between ++ rest, resource, ?_, hmoved, ?_, ?_⟩
      · rw [← hrest, hsplit, List.append_assoc, List.cons_append]
      · rw [hlater.stored]
        exact hsome
      · rcases hshown with hshown | ⟨k, hk, hkey⟩
        · rcases hlater.moved ctx.svcKey coll id with hsame | ⟨hkey, horder⟩
          · rw [hsame]
            exact .inl hshown
          · rw [movedKey_frame hframe] at hkey
            refine .inr ⟨j, List.mem_append_right _ ?_, hkey⟩
            rw [← hrest, List.append_cancel_left_eq] at horder
            rw [horder]
            exact List.mem_singleton_self j
        · exact .inr ⟨k, List.mem_append_left _ hk, hkey⟩
  | missing ctx =>
      obtain ⟨before, after, hsplit, hanswer⟩ := h
      obtain ⟨rest, hrest⟩ := hlater.order
      refine ⟨before, after ++ rest, ?_, ?_⟩
      · rw [← hrest, hsplit, List.append_assoc, List.cons_append]
      · rw [hanswer, missAnswer, missAnswer, hlater.frame.runtimeConfig]
  | finished answer => exact Explained.later h hlater.order

-- ========================================================== taking effect

variable (env cfg calls st₀) in
/-- The step at which a request takes effect does what handling it does,
whatever the list of unmatched requests: it leaves the state so, up to what
the request owes, and gets the answer that the next phase promises. -/
structure Effect (i : ι) (s s' : Linearize.Ordered ι AppState) (phase : ReplayPhase)
    (answer : Answer) : Prop where
  order : s'.order = s.order ++ [i]
  effected : phase.effected = true
  later : Later env cfg (calls i) i s s'
  unmatched : s'.state.unmatched = s.state.unmatched
  handled : ∀ u, handle env cfg { s.state with unmatched := u } (calls i)
    = ({ s'.state with unmatched := u ++ phase.owed.toList }, answer)
  promise : ∀ before, s'.order = before ++ [i] →
    (handle env cfg (replayed env cfg calls st₀ before) (calls i)).2 = answer →
    PhaseFact env cfg calls st₀ i s' phase

variable (env cfg calls st₀) in
/-- A step takes effect, or leaves the state and the order. -/
inductive StepKind (i : ι) (s : Linearize.Ordered ι AppState) :
    ReplayPhase → Linearize.Ordered ι AppState → ReplayPhase → Prop where
  | effect {phase phase' : ReplayPhase} {s' : Linearize.Ordered ι AppState} (answer : Answer) :
      phase.effected = false →
      Effect env cfg calls st₀ i s s' phase' answer →
      StepKind i s phase s' phase'
  | quiet {phase phase' : ReplayPhase} : phase'.effected = phase.effected →
      phase'.owed = phase.owed → PhaseFact env cfg calls st₀ i s phase' →
      StepKind i s phase s phase'
  | pay {ctx : RequestContext} {answer : Answer} :
      PhaseFact env cfg calls st₀ i s (.finished answer) →
      StepKind i s (.missing ctx) { s with state := (missAnswer ctx s.state).1 }
        (.finished answer)

section StepKind

variable {i : ι} {s s' : Linearize.Ordered ι AppState} {phase phase' : ReplayPhase}

/-- A layer answers, and reaches a milestone. -/
theorem Effect.served {st : AppState} {answer : Answer} (hframe : MockFrame s.state st)
    (hstore : st.resourceStore = s.state.resourceStore)
    (hunmatched : st.unmatched = s.state.unmatched)
    (hhandle : ∀ u, handle env cfg { s.state with unmatched := u } (calls i)
      = ({ st with unmatched := u }, answer)) :
    Effect env cfg calls st₀ i s (s.effect i st) (.finished answer) answer where
  order := rfl
  effected := rfl
  later := .of_store hframe (List.prefix_append _ _) hstore
  unmatched := hunmatched
  handled := fun u => by
    rw [hhandle u]
    show _ = ({ st with unmatched := u ++ [] }, answer)
    rw [List.append_nil]
  promise := fun before horder hanswer => by
    subst hanswer
    exact .inTurn horder

theorem mockFrame_unmatched (st : AppState) (u : List MockRequest) :
    MockFrame st { st with unmatched := u } := ⟨⟨rfl, rfl, rfl, rfl, rfl⟩, rfl⟩

/-- The state of the layers, with another list of unmatched requests. -/
theorem Dispatched.handle_unmatched {st st' : AppState} {call : Call} {ctx : RequestContext}
    {answer : Answer} (hdisp : Dispatched env cfg st call ctx .mock) {u : List MockRequest}
    (h : MockOutcome env cfg call ctx { st with unmatched := u } st' answer) :
    handle env cfg { st with unmatched := u } call = (st', answer) := by
  rw [handle_mock (hdisp.frame (mockFrame_unmatched ..)), h.eq]

theorem explained_readBack {ctx : RequestContext} {coll id nextState : Text}
    {shown : ResourceState}
    (hstore : (replayed env cfg calls st₀ s.order).resourceStore = s.state.resourceStore)
    (hfact : PhaseFact env cfg calls st₀ i s (.moved ctx coll id nextState))
    (hlookup : s.state.resourceStore.lookup ctx.svcKey coll id = some shown) :
    Explained env cfg calls st₀ i s.order
      (serveResource env (calls i) .resourceTransition xGhostTransition nextState shown) := by
  obtain ⟨before, between, resource, hsplit, hmoved, -, hshown | ⟨j, hj, hkey⟩⟩ := hfact
  · rw [hlookup, Option.some.injEq] at hshown
    subst hshown
    rw [← hmoved.answer]
    exact .inTurn hsplit
  · have hlast : s.order = before ++ i :: (between ++ []) := by
      rw [List.append_nil]
      exact hsplit
    refine .overtaken hlast hmoved hj hkey ?_
    rw [← hsplit, hstore]
    exact hlookup

theorem stepKind_of_step (h : ReplayStep env cfg (calls i) i s phase s' phase')
    (hframe : MockFrame st₀ s.state)
    (hstore : (replayed env cfg calls st₀ s.order).resourceStore = s.state.resourceStore)
    (hfact : PhaseFact env cfg calls st₀ i s phase) :
    StepKind env cfg calls st₀ i s phase s' phase' := by
  cases h with
  | refused hctx =>
      refine .effect _ rfl (.served (MockFrame.refl _) rfl rfl fun u => ?_)
      exact handle_of_contextOf_none hctx _
  | transitioning hdisp =>
      refine .effect _ rfl (.served (MockFrame.refl _) rfl rfl fun u => ?_)
      exact handle_transitioning (hdisp.frame (mockFrame_unmatched ..))
  | passthrough hdisp =>
      refine .effect _ rfl (.served (MockFrame.refl _) rfl rfl fun u => ?_)
      exact handle_passthrough (hdisp.frame (mockFrame_unmatched ..))
  | @exactHit ctx entry hdisp hfind hbody =>
      refine .effect _ rfl (.served (mockFrame_fireFirstMockServed ..) rfl rfl fun u => ?_)
      exact hdisp.handle_unmatched (.exact entry hfind hbody)
  | exactSilent hdisp hexact => exact .quiet rfl rfl ⟨hdisp, hexact⟩
  | @sequenceHit ctx counters resp hseq =>
      obtain ⟨hdisp, hexact⟩ := hfact
      refine .effect _ rfl (.served ⟨⟨rfl, rfl, rfl, rfl, rfl⟩, rfl⟩ rfl rfl fun u => ?_)
      exact hdisp.handle_unmatched (.sequence counters resp hexact hseq)
  | sequenceSilent hseq =>
      obtain ⟨hdisp, hexact⟩ := hfact
      exact .quiet rfl rfl ⟨hdisp, hexact, hseq⟩
  | @resourceHit ctx resource hres =>
      obtain ⟨hdisp, hexact, hseq⟩ := hfact
      refine .effect _ rfl (.served (mockFrame_fireFirstMockServed ..) rfl rfl fun u => ?_)
      exact hdisp.handle_unmatched (.resource resource hexact hseq hres)
  | resourceSilent hres =>
      obtain ⟨hdisp, hexact, hseq⟩ := hfact
      exact .quiet rfl rfl ⟨hdisp, hexact, hseq, hres⟩
  | @transition ctx coll id action nextState resource htarget htrans =>
      obtain ⟨hdisp, hexact, hseq, hres⟩ := hfact
      have hkey : movedKey env cfg st₀ (calls i) = some (ctx.svcKey, coll, id) := by
        rw [← movedKey_frame hframe]
        exact hdisp.movedKey htarget
      let answer := serveResource env (calls i) .resourceTransition xGhostTransition nextState
        resource
      refine .effect answer rfl ⟨rfl, rfl, .transition hdisp htarget htrans, rfl, fun u => ?_,
        fun before horder hanswer => ?_⟩
      · show _ = (({ s.state with unmatched := u ++ [], resourceStore := _ } : AppState), _)
        rw [List.append_nil]
        exact hdisp.handle_unmatched
          (.transition coll id action resource nextState hexact hseq hres htarget htrans)
      · have hshown : (s.state.resourceStore.put ctx.svcKey coll id resource).lookup ctx.svcKey
            coll id = some resource := by rw [ResourceStore.lookup_put, if_pos rfl]
        refine ⟨before, [], resource, horder, ⟨hkey, hanswer⟩, ?_, .inl hshown⟩
        exact Option.isSome_iff_exists.mpr ⟨resource, hshown⟩
  | @swap ctx entry htrans hswap =>
      obtain ⟨hdisp, hexact, hseq, hres⟩ := hfact
      refine .effect _ rfl (.served (mockFrame_fireFirstMockServed ..) rfl rfl fun u => ?_)
      exact hdisp.handle_unmatched (.smartSwap entry hexact hseq hres htrans hswap)
  | @miss ctx htrans hswap =>
      obtain ⟨hdisp, hexact, hseq, hres⟩ := hfact
      refine .effect (missAnswer ctx s.state).2 rfl ⟨rfl, rfl,
        .of_store (MockFrame.refl _) (List.prefix_append _ _) rfl, rfl, fun u => ?_,
        fun before horder hanswer => ⟨before, [], horder, hanswer⟩⟩
      exact hdisp.handle_unmatched (.miss hexact hseq hres htrans hswap)
  | readBack hlookup => exact .quiet rfl rfl (explained_readBack hstore hfact hlookup)
  | vanished hlookup =>
      obtain ⟨before, between, resource, -, -, hsome, -⟩ := hfact
      rw [hlookup] at hsome
      cases hsome
  | unmatched =>
      obtain ⟨before, after, hsplit, hanswer⟩ := hfact
      rw [← hanswer]
      exact .pay (.inTurn hsplit)

end StepKind

-- =========================================================== the invariant

theorem takesEffectOnce :
    Linearize.TakesEffectOnce (fun i => replayAct env cfg (calls i) i) ReplayPhase.effected := by
  intro i s phase e s' phase' h
  have hlast : ∀ ctx st, (lastLayer env cfg (calls i) ctx st).2.effected = true := by
    intro ctx st
    rw [lastLayer, smartSwapLayer_eq]
    cases swapHit env cfg (calls i) ctx <;> rfl
  cases replayStep_of_act h with
  | exactSilent | sequenceSilent | resourceSilent | readBack | unmatched => exact .inl ⟨rfl, rfl⟩
  | vanished => exact .inl ⟨hlast .., rfl⟩
  | _ => exact .inr ⟨rfl, rfl, rfl⟩

variable (env cfg calls st₀) in
/-- What holds of every run: the state is the replayed one, up to what the
requests owe. -/
structure Replays (w : ReplayWorld ι) : Prop where
  lists : Linearize.Lists ReplayPhase.effected w
  frame : MockFrame st₀ w.shared.state
  state : replayed env cfg calls st₀ w.shared.order
    = { w.shared.state with
        unmatched := (replayed env cfg calls st₀ w.shared.order).unmatched }
  unmatched : (replayed env cfg calls st₀ w.shared.order).unmatched.Perm
    (w.shared.state.unmatched ++ Linearize.debts ReplayPhase.owed w.shared.order w.thread)
  fact : ∀ i, PhaseFact env cfg calls st₀ i w.shared (w.thread i)

theorem replayed_concat (order : List ι) (i : ι) :
    replayed env cfg calls st₀ (order ++ [i])
      = (handle env cfg (replayed env cfg calls st₀ order) (calls i)).1 := by
  unfold replayed
  rw [Machine.run, List.foldl_append]
  rfl

theorem replays_start : Replays env cfg calls st₀ (.start (.start st₀) .arrived) where
  lists := ⟨List.nodup_nil, fun i => by simp [Threads.World.start, Linearize.Ordered.start,
    ReplayPhase.effected]⟩
  frame := MockFrame.refl st₀
  state := rfl
  unmatched := by
    show st₀.unmatched.Perm (st₀.unmatched ++ [])
    rw [List.append_nil]
  fact := fun _ => trivial

section Step

variable {w : ReplayWorld ι} {i : ι} {s : Linearize.Ordered ι AppState} {phase : ReplayPhase}

theorem StepKind.later (h : StepKind env cfg calls st₀ i w.shared (w.thread i) s phase) :
    Later env cfg (calls i) i w.shared s := by
  generalize w.thread i = before at h
  cases h with
  | effect answer hbefore heffect => exact heffect.later
  | quiet => exact .of_store (MockFrame.refl _) List.prefix_rfl rfl
  | pay => exact .of_store ⟨⟨rfl, rfl, rfl, rfl, rfl⟩, rfl⟩ List.prefix_rfl rfl

variable [DecidableEq ι]

/-- The others know what they knew. -/
theorem Replays.facts (h : Replays env cfg calls st₀ w)
    (hlater : Later env cfg (calls i) i w.shared s)
    (hself : PhaseFact env cfg calls st₀ i s phase) (j : ι) :
    PhaseFact env cfg calls st₀ j s (Function.update w.thread i phase j) := by
  by_cases hj : j = i
  · subst hj
    rw [Function.update_self]
    exact hself
  · rw [Function.update_of_ne hj]
    exact (h.fact j).later h.frame hlater

/-- A request takes effect: the replayed state takes one request more. -/
theorem Replays.effect (h : Replays env cfg calls st₀ w)
    (hact : replayAct env cfg (calls i) i w.shared (w.thread i) () = some (s, phase))
    {answer : Answer} (hbefore : (w.thread i).effected = false)
    (heffect : Effect env cfg calls st₀ i w.shared s phase answer) :
    Replays env cfg calls st₀
      { shared := s, thread := Function.update w.thread i phase } := by
  let u := (replayed env cfg calls st₀ w.shared.order).unmatched
  have hhandle : handle env cfg (replayed env cfg calls st₀ w.shared.order) (calls i)
      = ({ s.state with unmatched := u ++ phase.owed.toList }, answer) := by
    rw [h.state]
    exact heffect.handled u
  have hreplayed : replayed env cfg calls st₀ s.order
      = { s.state with unmatched := u ++ phase.owed.toList } := by
    rw [heffect.order, replayed_concat, hhandle]
  have hi : i ∉ w.shared.order := by
    rw [h.lists.mem i, hbefore]
    exact Bool.false_ne_true
  refine ⟨h.lists.step takesEffectOnce hact, h.frame.trans heffect.later.frame, ?_, ?_, ?_⟩
  · show replayed env cfg calls st₀ s.order = _
    rw [hreplayed]
  · show (replayed env cfg calls st₀ s.order).unmatched.Perm (s.state.unmatched ++ _)
    rw [hreplayed, heffect.unmatched, heffect.order, Linearize.debts_effect hi,
      ← List.append_assoc]
    exact h.unmatched.append_right _
  · refine h.facts heffect.later (heffect.promise w.shared.order heffect.order ?_)
    rw [hhandle]

/-- A request hands over what it owes. -/
theorem Replays.pay (h : Replays env cfg calls st₀ w) {ctx : RequestContext} {answer : Answer}
    (hact : replayAct env cfg (calls i) i w.shared (w.thread i) ()
      = some ({ w.shared with state := (missAnswer ctx w.shared.state).1 }, .finished answer))
    (hbefore : w.thread i = .missing ctx)
    (hlater : Later env cfg (calls i) i w.shared
      { w.shared with state := (missAnswer ctx w.shared.state).1 })
    (hfact : PhaseFact env cfg calls st₀ i w.shared (.finished answer)) :
    Replays env cfg calls st₀
      { shared := { w.shared with state := (missAnswer ctx w.shared.state).1 }
        thread := Function.update w.thread i (.finished answer) } := by
  have hi : i ∈ w.shared.order := by
    rw [h.lists.mem i, hbefore]
    rfl
  have howed : (w.thread i).owed = some ⟨ctx.method, ctx.pathQuery, ctx.bodyStr⟩ := by
    rw [hbefore]
    rfl
  have hdebts := Linearize.debts_pay (t := .finished answer) h.lists.nodup hi howed rfl
  refine ⟨h.lists.step takesEffectOnce hact, h.frame.trans hlater.frame, ?_, ?_,
    h.facts hlater hfact⟩
  · show replayed env cfg calls st₀ w.shared.order = _
    rw [h.state]
    rfl
  · show List.Perm _ ((w.shared.state.unmatched ++ [_]) ++ _)
    rw [List.append_assoc]
    exact h.unmatched.trans (hdebts.append_left _)

theorem Replays.step (h : Replays env cfg calls st₀ w)
    (hact : replayAct env cfg (calls i) i w.shared (w.thread i) () = some (s, phase)) :
    Replays env cfg calls st₀
      { shared := s, thread := Function.update w.thread i phase } := by
  have hstore : (replayed env cfg calls st₀ w.shared.order).resourceStore
      = w.shared.state.resourceStore := by
    rw [h.state]
  have hkind := stepKind_of_step (replayStep_of_act hact) h.frame hstore (h.fact i)
  have hlater := hkind.later
  generalize hbefore : w.thread i = before at hkind
  cases hkind with
  | effect answer heffected heffect =>
      rw [← hbefore] at heffected
      exact h.effect hact heffected heffect
  | quiet heffected howed hfact =>
      rw [← hbefore] at howed
      refine ⟨h.lists.step takesEffectOnce hact, h.frame, h.state, ?_, h.facts hlater hfact⟩
      rw [Linearize.debts_congr howed]
      exact h.unmatched
  | pay hfact => exact h.pay hact hbefore hlater hfact

end Step

-- ================================================================ the runs

variable [DecidableEq ι]

variable (env cfg calls) in
/-- One step of one of the requests. -/
abbrev replayStep : ReplayWorld ι → ι × Unit → Option (ReplayWorld ι) :=
  Threads.step fun i => replayAct env cfg (calls i) i

variable (env cfg calls st₀) in
/-- The requests that have taken effect, in an order that explains the state
and every answer. -/
structure Linearized (w : ReplayWorld ι) : Prop where
  nodup : w.shared.order.Nodup
  mem : ∀ i, i ∈ w.shared.order ↔ (w.thread i).effected = true
  state : { w.shared.state with unmatched := [] }
    = { replayed env cfg calls st₀ w.shared.order with unmatched := [] }
  unmatched : (w.shared.state.unmatched
      ++ Linearize.debts ReplayPhase.owed w.shared.order w.thread).Perm
    (replayed env cfg calls st₀ w.shared.order).unmatched
  answers : ∀ i answer, w.thread i = .finished answer →
    Explained env cfg calls st₀ i w.shared.order answer

theorem replays_of_run {schedule : List (ι × Unit)} {w : ReplayWorld ι}
    (hrun : Machine.exec (replayStep env cfg calls) (.start (.start st₀) .arrived) schedule
      = some w) : Replays env cfg calls st₀ w := by
  refine Threads.exec_history (I := fun w _ => Replays env cfg calls st₀ w) ?_ replays_start hrun
  intro w past i e s phase h hact
  exact h.step hact

/-- Requests that overlap are answered as if they were handled one at a
time: there is an order of those that have taken effect that explains the
state and the answers, and in which a request that was answered before
another arrived comes before it. -/
theorem replay_linearizable {before after : List (ι × Unit)} {v w : ReplayWorld ι}
    (hbefore : Machine.exec (replayStep env cfg calls) (.start (.start st₀) .arrived) before
      = some v)
    (hafter : Machine.exec (replayStep env cfg calls) v after = some w) :
    Linearized env cfg calls st₀ w
      ∧ ∀ i j answer, v.thread i = .finished answer → v.thread j = .arrived →
        ∃ first rest, w.shared.order = first ++ rest ∧ i ∈ first ∧ j ∉ first := by
  have hrun : Machine.exec (replayStep env cfg calls) (.start (.start st₀) .arrived)
      (before ++ after) = some w := by
    rw [Machine.exec_append, hbefore]
    exact hafter
  have h := replays_of_run hrun
  refine ⟨⟨h.lists.nodup, h.lists.mem, ?_, h.unmatched.symm, ?_⟩, ?_⟩
  · rw [h.state]
  · intro i answer hfinished
    have hfact := h.fact i
    rw [hfinished] at hfact
    exact hfact
  · intro i j answer hi hj
    refine Linearize.precedes_of_run takesEffectOnce rfl hbefore hafter ?_ ?_
    · rw [hi]
      rfl
    · rw [hj]
      rfl

/-- Where no other request moves the same resource, the order explains the
answer without exception. -/
theorem answer_of_solitary {schedule : List (ι × Unit)} {w : ReplayWorld ι}
    (hrun : Machine.exec (replayStep env cfg calls) (.start (.start st₀) .arrived) schedule
      = some w) {i : ι} {answer : Answer} (hfinished : w.thread i = .finished answer)
    (hsolitary : ∀ j, j ≠ i → movedKey env cfg st₀ (calls j) = movedKey env cfg st₀ (calls i) →
      movedKey env cfg st₀ (calls i) = none) :
    ∃ before after, w.shared.order = before ++ i :: after
      ∧ answer = (handle env cfg (replayed env cfg calls st₀ before) (calls i)).2 := by
  have h := replays_of_run hrun
  have hfact : Explained env cfg calls st₀ i w.shared.order answer := by
    have hfact := h.fact i
    rw [hfinished] at hfact
    exact hfact
  cases hfact with
  | @inTurn before after hsplit => exact ⟨before, after, hsplit, rfl⟩
  | @overtaken before between after ctx coll id nextState resource shown j hsplit hmoved hj hkey =>
      have hji : j ≠ i := by
        rintro rfl
        have hnodup := h.lists.nodup
        rw [hsplit] at hnodup
        exact (List.nodup_cons.mp (List.nodup_append.mp hnodup).2.1).1
          (List.mem_append_left _ hj)
      have hnone := hsolitary j hji (hkey.trans hmoved.key.symm)
      rw [hmoved.key] at hnone
      cases hnone

end Runs

-- ========================================================== one overtaking

section Overtaking

/-- A transition that is asked of a resource, on its way. -/
structure Moving (env : Externals) (cfg : Config) (st : AppState) (call : Call)
    (ctx : RequestContext) (coll id nextState : Text) (resource : ResourceState) : Prop where
  dispatched : Dispatched env cfg st call ctx .mock
  exact : ExactSilent call ctx
  sequence : SequenceSilent env ctx st
  noHit : resourceHit ctx st = none
  transition : ∃ action, transitionTarget env ctx = some (coll, id, action)
    ∧ st.resourceStore.transition ctx.svcKey coll id action call.systemTime
      = some (resource, nextState)

variable {ι : Type} [DecidableEq ι] {env : Externals} {cfg : Config} {calls : ι → Call}
  {thread : ι → ReplayPhase} {i : ι}

theorem exec_step {s s' : Linearize.Ordered ι AppState} {phase phase' : ReplayPhase}
    (hstep : ReplayStep env cfg (calls i) i s phase s' phase')
    {moves : List (ι × Unit)} {w : ReplayWorld ι}
    (hrest : Machine.exec (replayStep env cfg calls) ⟨s', Function.update thread i phase'⟩ moves
      = some w) :
    Machine.exec (replayStep env cfg calls) ⟨s, Function.update thread i phase⟩
      ((i, ()) :: moves) = some w := by
  refine Machine.exec_cons.mpr ⟨_, ?_, hrest⟩
  show (replayAct env cfg (calls i) i s (Function.update thread i phase i) ()).map _ = _
  rw [Function.update_self, replayAct_iff.mpr hstep, Option.map_some, Function.update_idem]

/-- The steps of a transition up to the read-back. -/
theorem exec_moving {ctx : RequestContext} {coll id nextState : Text} {resource : ResourceState}
    {s : Linearize.Ordered ι AppState} (hthread : thread i = .arrived)
    (h : Moving env cfg s.state (calls i) ctx coll id nextState resource) :
    Machine.exec (replayStep env cfg calls) ⟨s, thread⟩ [(i, ()), (i, ()), (i, ()), (i, ())]
      = some
        ⟨s.effect i { s.state with
            resourceStore := s.state.resourceStore.put ctx.svcKey coll id resource },
          Function.update thread i (.moved ctx coll id nextState)⟩ := by
  obtain ⟨action, htarget, htrans⟩ := h.transition
  rw [show thread = Function.update thread i .arrived by rw [← hthread, Function.update_eq_self]]
  refine exec_step (.exactSilent h.dispatched h.exact) ?_
  refine exec_step (.sequenceSilent h.sequence) (exec_step (.resourceSilent h.noHit) ?_)
  refine exec_step (.transition htarget htrans) ?_
  rw [Function.update_idem]
  rfl

/-- A transition takes all its steps between the last two of another. -/
def overtaking (i j : ι) : List (ι × Unit) :=
  [(i, ()), (i, ()), (i, ()), (i, ())] ++ ([(j, ()), (j, ()), (j, ()), (j, ())] ++ [(i, ())])

/-- Whenever a resource can be moved twice, the first answer can show what
the second request has made of it. -/
theorem exec_overtaking {st : AppState} {ctx ctx' : RequestContext}
    {coll id nextState nextState' : Text} {resource resource' : ResourceState} {j : ι}
    (hij : i ≠ j) (hfirst : Moving env cfg st (calls i) ctx coll id nextState resource)
    (hsecond : Moving env cfg
      { st with resourceStore := st.resourceStore.put ctx.svcKey coll id resource } (calls j) ctx'
      coll id nextState' resource')
    (hsvc : ctx'.svcKey = ctx.svcKey) :
    ∃ w, Machine.exec (replayStep env cfg calls) (.start (.start st) .arrived) (overtaking i j)
        = some w
      ∧ w.thread i = .finished
        (serveResource env (calls i) .resourceTransition xGhostTransition nextState resource') := by
  let arrived : ι → ReplayPhase := fun _ => .arrived
  let st' : AppState :=
    { st with resourceStore := st.resourceStore.put ctx.svcKey coll id resource }
  let s' : Linearize.Ordered ι AppState := ((Linearize.Ordered.start st).effect i st').effect j
    { st' with resourceStore := st'.resourceStore.put ctx'.svcKey coll id resource' }
  let answer := serveResource env (calls i) .resourceTransition xGhostTransition nextState resource'
  have hi : Machine.exec (replayStep env cfg calls) (.start (.start st) .arrived)
      [(i, ()), (i, ()), (i, ()), (i, ())]
      = some ⟨(Linearize.Ordered.start st).effect i st',
          Function.update arrived i (.moved ctx coll id nextState)⟩ := exec_moving rfl hfirst
  have hj : Machine.exec (replayStep env cfg calls)
      ⟨(Linearize.Ordered.start st).effect i st',
        Function.update arrived i (.moved ctx coll id nextState)⟩
      [(j, ()), (j, ()), (j, ()), (j, ())]
      = some ⟨s', Function.update (Function.update arrived i (.moved ctx coll id nextState)) j
          (.moved ctx' coll id nextState')⟩ :=
    exec_moving (Function.update_of_ne hij.symm ..) hsecond
  have hshown : s'.state.resourceStore.lookup ctx.svcKey coll id = some resource' := by
    show (st'.resourceStore.put ctx'.svcKey coll id resource').lookup ctx.svcKey coll id = _
    rw [hsvc, ResourceStore.lookup_put, if_pos rfl]
  have hlast : Machine.exec (replayStep env cfg calls)
      ⟨s', Function.update (Function.update arrived j (.moved ctx' coll id nextState')) i
        (.moved ctx coll id nextState)⟩ [(i, ())]
      = some ⟨s', Function.update (Function.update arrived j (.moved ctx' coll id nextState')) i
          (.finished answer)⟩ := exec_step (.readBack hshown) rfl
  refine ⟨⟨s', Function.update (Function.update arrived j (.moved ctx' coll id nextState')) i
    (.finished answer)⟩, ?_, Function.update_self ..⟩
  rw [overtaking, Machine.exec_append, hi, Option.bind_some, Machine.exec_append, hj,
    Option.bind_some, Function.update_comm hij]
  exact hlast

/-- The refund of the charge. -/
noncomputable def refund : Call :=
  Call.plain default (bareRequest "POST" "/charges/ch_1/refund") none

/-- The charge is captured and refunded at once. -/
noncomputable def captureAndRefund : Bool → Call
  | true => capture "ch_1"
  | false => refund

/-- A stored charge that shows its state. -/
structure ChargeIn (store : ResourceStore) (status : Text) (resource : ResourceState) : Prop where
  registry : store.registry = some withBundledFixtures
  stored : store.lookup globalTenant "charges" "ch_1" = some resource
  statechart : resource.statechart = some ("charge" : Text)
  state : resource.currentState = some status
  body : resource.body = charge "ch_1" status

/-- A charge as an action leaves it. -/
def chargeAfter (resource : ResourceState) (status : Text) : ResourceState :=
  ResourceStore.advanced withBundledFixtures resource "charge" status 0

variable {store : ResourceStore} {status : Text} {resource : ResourceState}

theorem ChargeIn.transition {action next : Text} (h : ChargeIn store status resource)
    (happly : withBundledFixtures.apply "charge" status action = some next) :
    store.transition globalTenant "charges" "ch_1" action 0
      = some (chargeAfter resource next, next) := by
  rw [transition_eq, h.stored, Option.bind_some, h.statechart, Option.bind_some, h.state,
    Option.bind_some, h.registry, Option.bind_some, happly]
  rfl

theorem ChargeIn.after (h : ChargeIn store status resource) (next : Text) :
    ChargeIn (store.put globalTenant "charges" "ch_1" (chargeAfter resource next)) next
      (chargeAfter resource next) := by
  refine ⟨h.registry, ?_, h.statechart, rfl, ?_⟩
  · rw [ResourceStore.lookup_put, if_pos rfl]
  · show ResourceStore.setStatus _ next resource.body = _
    rw [h.body]
    rfl

/-- A capture of the charge, or its refund, is on its way. -/
theorem Replaying.moving {st : AppState} (h : Replaying st) {call : Call}
    {action nextState : Text} (hbody : call.request.body = [])
    (htenant : resolveTenant call.request.headers call.request.query = some globalTenant)
    (hmethod : call.request.method = "POST")
    (hnone : (st.mocks.mocksOf globalTenant).lookup
      (call.request.method, lookupUri call.request, globalTenant) = none)
    (htarget : transitionTarget (chargeExternals "ch_1") (chargeContext "ch_1" st call)
      = some (("charges" : Text), ("ch_1" : Text), action))
    (hmoves : st.resourceStore.transition globalTenant "charges" "ch_1" action call.systemTime
      = some (resource, nextState)) :
    Moving (chargeExternals "ch_1") Config.new st call (chargeContext "ch_1" st call)
      "charges" "ch_1" nextState resource := by
  rw [← svcKey_chargeContext h.routes call] at hmoves
  refine ⟨h.dispatched hbody htenant, h.exactSilent hnone, h.sequenceSilent _, ?_,
    action, htarget, hmoves⟩
  have hget : (chargeContext "ch_1" st call).method ≠ "GET" := by
    show call.request.method ≠ "GET"
    rw [hmethod]
    decide
  unfold resourceHit resourceTarget
  rw [if_neg hget]
  rfl

/-- A capture is overtaken by a refund: the answer says captured, and shows
a refunded charge. -/
theorem replay_linearizable_overtaken :
    let st := afterLearning "ch_1" [learnPost "ch_1"]
    ∃ w answer, Machine.exec
        (replayStep (chargeExternals "ch_1") Config.new captureAndRefund)
        (.start (.start st) .arrived) (overtaking true false) = some w
      ∧ Linearized (chargeExternals "ch_1") Config.new captureAndRefund st w
      ∧ w.thread true = .finished answer
      ∧ LinkedAnswer.Given (chargeExternals "ch_1")
        ⟨.resourceTransition, xGhostTransition, "captured", charge "ch_1" "refunded"⟩ answer := by
  intro st
  have hst : Replaying st := replaying_afterLearning [learnPost "ch_1"]
  obtain ⟨created, hcreated⟩ : ∃ created, ChargeIn st.resourceStore "created" created :=
    ⟨_, rfl, rfl, rfl, rfl, rfl⟩
  let captured := chargeAfter created "captured"
  let ctx := chargeContext "ch_1" st (captureAndRefund true)
  let st' : AppState := { st with
    resourceStore := st.resourceStore.put ctx.svcKey "charges" "ch_1" captured }
  have hsvc : ctx.svcKey = globalTenant := svcKey_chargeContext hst.routes _
  have hcaptured : ChargeIn st'.resourceStore "captured" captured := by
    show ChargeIn (st.resourceStore.put ctx.svcKey "charges" "ch_1" captured) _ _
    rw [hsvc]
    exact hcreated.after "captured"
  have hst' : Replaying st' := ⟨hst.mode, hst.routes, hst.sequences, hst.wellFormed⟩
  have hcapture : Moving (chargeExternals "ch_1") Config.new st (captureAndRefund true)
      ctx "charges" "ch_1" "captured" captured :=
    hst.moving rfl rfl rfl rfl
      (show _ = some (("charges" : Text), ("ch_1" : Text), ("capture" : Text)) from rfl)
      (hcreated.transition rfl)
  have hrefund : Moving (chargeExternals "ch_1") Config.new st' (captureAndRefund false)
      (chargeContext "ch_1" st' (captureAndRefund false)) "charges" "ch_1" "refunded"
      (chargeAfter captured "refunded") :=
    hst'.moving rfl rfl rfl rfl
      (show _ = some (("charges" : Text), ("ch_1" : Text), ("refund" : Text)) from rfl)
      (hcaptured.transition rfl)
  obtain ⟨w, hrun, hanswer⟩ : ∃ w, Machine.exec
      (replayStep (chargeExternals "ch_1") Config.new captureAndRefund) (.start (.start st) .arrived)
      (overtaking true false) = some w ∧ w.thread true = .finished _ :=
    exec_overtaking (by decide) hcapture hrefund
      ((svcKey_chargeContext hst'.routes _).trans hsvc.symm)
  have hstart : Machine.exec (replayStep (chargeExternals "ch_1") Config.new captureAndRefund)
      (.start (.start st) .arrived) [] = some (.start (.start st) .arrived) := rfl
  refine ⟨w, _, hrun, (replay_linearizable hstart hrun).1, hanswer, ?_⟩
  rw [← (hcaptured.after "refunded").body]
  exact given_serveResource ..

end Overtaking

end GostlyProxy
