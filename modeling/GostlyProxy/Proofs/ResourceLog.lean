/-
Concurrent calls on one service's resources, and the file they leave.

# The steps

A capture updates the map and then appends what it stored; a transition
updates the map, reads the resource back and appends what it read. Each
step is atomic, and between two steps of a call any others may run. The
state keeps two histories: the resources as the map was updated to them,
and as their lines were appended.

# Memory and file

The map holds the last update of every resource, the file stands for the
last appended line of every resource (`ResourceLogInv`), so reloading gives
the map exactly when these agree (`resource_file_agrees_iff`). They do when
no call appends a state that the map no longer holds (`latest_of_fresh`). A
service whose name is a path, or ends like a resource file, is never loaded
under its name.
-/
import GostlyProxy.Proofs.Jsonl
import GostlyProxy.Proofs.ResourceFiles
import GostlyProxy.Proofs.ResourceStore

namespace GostlyProxy

open Lib

-- ============================================================== the calls

inductive ResourceCall where
  | captureCreate (collection : Text) (body : Json) (idFieldHint contentType : Option Text)
      (status : UInt16) (now : Nat)
  | applyTransition (collection id action : Text) (now : Nat)

/-- Where a call stands. -/
inductive CallPhase where
  | ready
  /-- A transition that has to read the resource back. -/
  | updated (collection id : Text)
  | toPersist (state : ResourceState)
  | ended

/-- The store, the resource directory and the calls; `updates` and
`persisted` are histories, oldest first. -/
structure CallsState (n : Nat) where
  store : ResourceStore
  dir : Dir
  phase : Fin n → CallPhase
  updates : List ResourceState
  persisted : List ResourceState

section Calls

variable {n : Nat}

def CallsState.start (registry : Option StatechartRegistry) : CallsState n where
  store := ResourceStore.new registry
  dir := ∅
  phase := fun _ => .ready
  updates := []
  persisted := []

def CallsState.Done (s : CallsState n) : Prop :=
  ∀ i, match s.phase i with
    | .ended => True
    | _ => False

def CallsState.move (s : CallsState n) (i : Fin n) (phase : CallPhase) : CallsState n :=
  { s with phase := Function.update s.phase i phase }

/-- The map under the service, updated to a resource. -/
def CallsState.put (s : CallsState n) (svc coll id : Text) (r : ResourceState) :
    CallsState n :=
  { s with
    store := s.store.put svc coll id r
    updates := s.updates ++ [r] }

variable (codec : ResourceCodec) (svc : Text) (calls : Fin n → ResourceCall)

/-- The next step of one call. -/
def callStep (s : CallsState n) (i : Fin n) : Option (CallsState n) :=
  match s.phase i with
  | .ready =>
      match calls i with
      | .captureCreate coll body hint contentType status now =>
          match extractId body coll hint with
          | none => some (s.move i .ended)
          | some id =>
              let state := ResourceStore.captured s.store.registry coll id body contentType
                status now
              some ((s.put svc coll id state).move i (.toPersist state))
      | .applyTransition coll id action now =>
          match s.store.transition svc coll id action now with
          | none => some (s.move i .ended)
          | some (state, _) => some ((s.put svc coll id state).move i (.updated coll id))
  | .updated coll id =>
      match s.store.lookup svc coll id with
      | none => some (s.move i .ended)
      | some snapshot => some (s.move i (.toPersist snapshot))
  | .toPersist state =>
      some
        { s.move i .ended with
          dir := persistJsonl codec s.dir svc state
          persisted := s.persisted ++ [state] }
  | .ended => none

/-- The call as one operation of the store. -/
def ResourceCall.storeCall (svc : Text) : ResourceCall → StoreCall
  | .captureCreate coll body hint contentType status now =>
      .captureCreate svc coll body hint contentType status now
  | .applyTransition coll id action now => .applyTransition svc coll id action now

variable {codec svc calls} in
/-- The first step of a call does to the store all the call does to it. -/
theorem callStep_store {s s' : CallsState n} {i : Fin n} (hready : s.phase i = .ready)
    (hstep : callStep codec svc calls s i = some s') :
    s'.store = storeStep s.store ((calls i).storeCall svc) := by
  unfold callStep at hstep
  rw [hready] at hstep
  cases hcall : calls i with
  | captureCreate coll body hint contentType status now =>
      rw [hcall] at hstep
      show s'.store = (s.store.captureCreate svc coll body hint contentType status now).1
      unfold ResourceStore.captureCreate
      cases hid : extractId body coll hint with
      | none =>
          simp only [hid, Option.some.injEq] at hstep
          subst hstep
          rfl
      | some id =>
          simp only [hid, Option.some.injEq] at hstep
          subst hstep
          rfl
  | applyTransition coll id action now =>
      rw [hcall] at hstep
      show s'.store = (s.store.applyTransition svc coll id action now).1
      unfold ResourceStore.applyTransition
      cases htrans : s.store.transition svc coll id action now with
      | none =>
          simp only [htrans, Option.some.injEq] at hstep
          subst hstep
          rfl
      | some moved =>
          simp only [htrans, Option.some.injEq] at hstep
          subst hstep
          rfl

-- ========================================================== last of a key

/-- The last of the resources under a key. -/
def latest (rs : List ResourceState) (coll id : Text) : Option ResourceState :=
  (rs.filter fun r => r.collection = coll ∧ r.id = id).getLast?

theorem latest_append (rs : List ResourceState) (r : ResourceState) (coll id : Text) :
    latest (rs ++ [r]) coll id
      = if r.collection = coll ∧ r.id = id then some r else latest rs coll id := by
  unfold latest
  rw [List.filter_append]
  by_cases hr : r.collection = coll ∧ r.id = id
  · rw [if_pos hr, List.filter_cons_of_pos (by simpa using hr), List.filter_nil,
      List.getLast?_concat]
  · rw [if_neg hr, List.filter_cons_of_neg (by simpa using hr), List.filter_nil,
      List.append_nil]

theorem mem_of_latest {rs : List ResourceState} {coll id : Text} {r : ResourceState}
    (h : latest rs coll id = some r) : r ∈ rs ∧ r.collection = coll ∧ r.id = id := by
  have hmem := List.mem_filter.mp (List.mem_of_getLast? h)
  exact ⟨hmem.1, by simpa using hmem.2⟩

theorem latest_ne_none {rs : List ResourceState} {r : ResourceState} (h : r ∈ rs) :
    latest rs r.collection r.id ≠ none := by
  unfold latest
  rw [Ne, List.getLast?_eq_none_iff, List.filter_eq_nil_iff]
  intro hnone
  exact hnone r h (by simp)

-- =============================================================== the file

/-- The directory after some resources of the service were persisted. -/
def resourceDir (rs : List ResourceState) : Dir :=
  if isFileName (resourceFileName svc) = true ∧ rs ≠ [] then
    Finmap.singleton (resourceFileName svc) (rs.flatMap fun r => codec.print r ++ ['\n'])
  else ∅

variable {codec svc}

theorem resourceDir_of_name (hname : isFileName (resourceFileName svc) = true)
    {rs : List ResourceState} (hrs : rs ≠ []) :
    resourceDir codec svc rs = Finmap.singleton (resourceFileName svc)
      (rs.flatMap fun r => codec.print r ++ ['\n']) := if_pos ⟨hname, hrs⟩

theorem persistJsonl_resourceDir (rs : List ResourceState) (r : ResourceState) :
    persistJsonl codec (resourceDir codec svc rs) svc r = resourceDir codec svc (rs ++ [r]) := by
  unfold persistJsonl
  by_cases hname : isFileName (resourceFileName svc) = true
  · have hwrites : (persistWrites codec r).flatten = codec.print r ++ ['\n'] := by
      simp [persistWrites]
    rw [if_pos hname, resourceDir_of_name hname (List.append_ne_nil_of_right_ne_nil _
      (List.cons_ne_nil r [])), hwrites, List.flatMap_append, List.flatMap_singleton]
    by_cases hrs : rs = []
    · subst hrs
      unfold resourceDir
      simp only [ne_eq, not_true_eq_false, and_false, if_false]
      rw [Finmap.lookup_empty]
      rfl
    · rw [resourceDir_of_name hname hrs, Finmap.lookup_singleton_eq, Option.getD_some,
        Finmap.insert_singleton_eq]
  · rw [if_neg hname]
    unfold resourceDir
    rw [if_neg fun h => hname h.1, if_neg fun h => hname h.1]

/-- The bucket of a log has the last of every resource. -/
theorem lookup_lastResources (rs : List ResourceState) (coll id : Text) :
    (lastWrites ResourceState.key rs).lookup (coll, id) = latest rs coll id := by
  rw [lookup_lastWrites]
  simp only [latest, ResourceState.key, Prod.mk.injEq]

/-- A store that is loaded anew has the last line of every resource, when
the service has a file of its own name. -/
theorem lookup_loadFromDisk {rs : List ResourceState}
    (hround : ∀ r ∈ rs, codec.RoundTrips r) (order : RandomState)
    (registry : Option StatechartRegistry) (coll id : Text) :
    ((ResourceStore.new registry).loadFromDisk codec order
        (resourceDir codec svc rs)).2.lookup svc coll id
      = if isFileName (resourceFileName svc) = true ∧ Text.endsWith svc resourceSuffix = false
        then latest rs coll id else none := by
  rw [ResourceStore.lookup]
  cases hends : Text.endsWith svc resourceSuffix with
  | true =>
      have hnone : ((ResourceStore.new registry).loadFromDisk codec order
          (resourceDir codec svc rs)).2.byService.lookup svc = none := by
        rw [← Option.not_isSome_iff_eq_none]
        intro hsome
        rw [not_endsWith_of_loaded codec order registry _ hsome] at hends
        cases hends
      rw [hnone, if_neg fun h => by cases h.2]
      rfl
  | false =>
      rw [byService_loadFromDisk]
      by_cases hfile : isFileName (resourceFileName svc) = true ∧ rs ≠ []
      · rw [resourceDir_of_name hfile.1 hfile.2, order.iter_singleton, List.filterMap_cons,
          loadedFile_printed codec hround hfile.2 hends, if_pos ⟨hfile.1, rfl⟩]
        show ((Finmap.insert svc _ ∅).lookup svc).bind _ = _
        rw [Finmap.lookup_insert, Option.bind_some, lookup_lastResources]
      · rw [resourceDir, if_neg hfile, order.iter_empty]
        show none = _
        split
        · rename_i h
          have hrs : rs = [] := by
            by_contra hne
            exact hfile ⟨h.1, hne⟩
          rw [hrs]
          rfl
        · rfl

-- =========================================================== the invariant

/-- The map holds the last update of every resource, the directory the
appended lines; what is appended was an update. -/
structure ResourceLogInv (codec : ResourceCodec) (svc : Text) (s : CallsState n) : Prop where
  memory : ∀ coll id, s.store.lookup svc coll id = latest s.updates coll id
  dir : s.dir = resourceDir codec svc s.persisted
  known : ∀ r ∈ s.persisted, r ∈ s.updates
  pending : ∀ i r, s.phase i = .toPersist r → r ∈ s.updates

theorem resourceLogInv_start (registry : Option StatechartRegistry) :
    ResourceLogInv codec svc (CallsState.start registry : CallsState n) where
  memory := fun _ _ => rfl
  dir := (if_neg fun h => h.2 rfl).symm
  known := fun _ h => absurd h List.not_mem_nil
  pending := fun _ _ h => by cases h

/-- A call that does not touch the data moves on. -/
theorem ResourceLogInv.move {s : CallsState n} (h : ResourceLogInv codec svc s) (i : Fin n)
    {phase : CallPhase} (hphase : ∀ r, phase = .toPersist r → r ∈ s.updates) :
    ResourceLogInv codec svc (s.move i phase) where
  memory := h.memory
  dir := h.dir
  known := h.known
  pending := by
    intro j r hj
    change Function.update s.phase i phase j = .toPersist r at hj
    by_cases hji : j = i
    · subst hji
      rw [Function.update_self] at hj
      exact hphase r hj
    · rw [Function.update_of_ne hji] at hj
      exact h.pending j r hj

theorem ResourceLogInv.put {s : CallsState n} (h : ResourceLogInv codec svc s)
    (r : ResourceState) : ResourceLogInv codec svc (s.put svc r.collection r.id r) where
  memory := by
    intro coll id
    show (s.store.put svc r.collection r.id r).lookup svc coll id
      = latest (s.updates ++ [r]) coll id
    rw [ResourceStore.lookup_put, latest_append, h.memory]
    have hkey : ((svc, coll, id) = (svc, r.collection, r.id))
        ↔ (r.collection = coll ∧ r.id = id) := by
      rw [Prod.mk.injEq, Prod.mk.injEq, eq_comm (a := coll), eq_comm (a := id)]
      exact and_iff_right rfl
    simp only [hkey]
  dir := h.dir
  known := fun r' hr' => List.mem_append_left _ (h.known r' hr')
  pending := fun i r' hr' => List.mem_append_left _ (h.pending i r' hr')

/-- What one step of a call does. -/
inductive CallMove (codec : ResourceCodec) (svc : Text) (s : CallsState n) (i : Fin n) :
    CallsState n → Prop where
  | refused (hphase : s.phase i = .ready) : CallMove codec svc s i (s.move i .ended)
  | captured (r : ResourceState) (hphase : s.phase i = .ready) :
      CallMove codec svc s i ((s.put svc r.collection r.id r).move i (.toPersist r))
  | transitioned (r : ResourceState) (hphase : s.phase i = .ready) :
      CallMove codec svc s i
        ((s.put svc r.collection r.id r).move i (.updated r.collection r.id))
  | missing (coll id : Text) (hphase : s.phase i = .updated coll id)
      (hlook : s.store.lookup svc coll id = none) : CallMove codec svc s i (s.move i .ended)
  | reread (r : ResourceState) (hphase : s.phase i = .updated r.collection r.id)
      (hlook : s.store.lookup svc r.collection r.id = some r) :
      CallMove codec svc s i (s.move i (.toPersist r))
  | appended (r : ResourceState) (hphase : s.phase i = .toPersist r) :
      CallMove codec svc s i
        { s.move i .ended with
          dir := persistJsonl codec s.dir svc r
          persisted := s.persisted ++ [r] }

theorem callMove_of_step {calls : Fin n → ResourceCall} {s s' : CallsState n} {i : Fin n}
    (h : ResourceLogInv codec svc s) (hstep : callStep codec svc calls s i = some s') :
    CallMove codec svc s i s' := by
  unfold callStep at hstep
  cases hphase : s.phase i with
  | ready =>
      rw [hphase] at hstep
      cases hcall : calls i with
      | captureCreate coll body hint contentType status now =>
          rw [hcall] at hstep
          cases hid : extractId body coll hint with
          | none =>
              simp only [hid, Option.some.injEq] at hstep
              subst hstep
              exact .refused hphase
          | some id =>
              simp only [hid, Option.some.injEq] at hstep
              subst hstep
              exact .captured (ResourceStore.captured s.store.registry coll id body contentType
                status now) hphase
      | applyTransition coll id action now =>
          rw [hcall] at hstep
          cases htrans : s.store.transition svc coll id action now with
          | none =>
              simp only [htrans, Option.some.injEq] at hstep
              subst hstep
              exact .refused hphase
          | some moved =>
              simp only [htrans, Option.some.injEq] at hstep
              obtain ⟨reg, r, m, state, state', -, hlook, -, -, -, rfl⟩ :=
                ResourceStore.of_transition htrans
              obtain ⟨-, rfl, rfl⟩ := mem_of_latest ((h.memory coll id).symm.trans hlook)
              subst hstep
              exact .transitioned (ResourceStore.advanced reg r m state' now) hphase
  | updated coll id =>
      rw [hphase] at hstep
      cases hlook : s.store.lookup svc coll id with
      | none =>
          simp only [hlook, Option.some.injEq] at hstep
          subst hstep
          exact .missing coll id hphase hlook
      | some r =>
          simp only [hlook, Option.some.injEq] at hstep
          obtain ⟨-, rfl, rfl⟩ := mem_of_latest ((h.memory coll id).symm.trans hlook)
          subst hstep
          exact .reread r hphase hlook
  | toPersist r =>
      rw [hphase] at hstep
      simp only [Option.some.injEq] at hstep
      subst hstep
      exact .appended r hphase
  | ended =>
      rw [hphase] at hstep
      cases hstep

theorem resourceLogInv_step {s s' : CallsState n} {i : Fin n}
    (h : ResourceLogInv codec svc s) (hmove : CallMove codec svc s i s') :
    ResourceLogInv codec svc s' := by
  have hended : ResourceLogInv codec svc (s.move i .ended) := h.move i fun r hr => by cases hr
  cases hmove with
  | refused => exact hended
  | captured r =>
      refine (h.put r).move i fun r' hr' => ?_
      cases hr'
      exact List.mem_append_right _ (List.mem_singleton_self _)
  | transitioned r => exact (h.put r).move i fun r' hr' => by cases hr'
  | missing => exact hended
  | reread r hphase hlook =>
      refine h.move i fun r' hr' => ?_
      cases hr'
      exact (mem_of_latest ((h.memory _ _).symm.trans hlook)).1
  | appended r hphase =>
      refine ⟨hended.memory, ?_, ?_, hended.pending⟩
      · show persistJsonl codec s.dir svc r = resourceDir codec svc (s.persisted ++ [r])
        rw [h.dir, persistJsonl_resourceDir]
      · intro r' hr'
        rcases List.mem_append.mp hr' with hr' | hr'
        · exact h.known r' hr'
        · rw [List.mem_singleton.mp hr']
          exact h.pending i r hphase

theorem resourceLogInv_run {calls : Fin n → ResourceCall} (registry : Option StatechartRegistry)
    {run : List (Fin n)} {s : CallsState n}
    (hrun : Machine.exec (callStep codec svc calls) (CallsState.start registry) run = some s) :
    ResourceLogInv codec svc s :=
  Machine.exec_invariant (fun _ _ _ h hstep => resourceLogInv_step h (callMove_of_step h hstep))
    (resourceLogInv_start registry) hrun

-- ========================================================== the agreement

/-- After any run of concurrent captures and transitions of one service, a
fresh store loads what memory holds exactly when the last line of every
resource carries the state of its last update, and the service, once
anything was captured, has a file that is loaded under its name. -/
theorem resource_file_agrees_iff (codec : ResourceCodec) (order : RandomState) (svc : Text)
    (registry registry' : Option StatechartRegistry) (calls : Fin n → ResourceCall)
    (run : List (Fin n)) (s : CallsState n)
    (hrun : Machine.exec (callStep codec svc calls) (CallsState.start registry) run = some s)
    (hround : ∀ r ∈ s.updates, codec.RoundTrips r) :
    (∀ coll id, ((ResourceStore.new registry').loadFromDisk codec order s.dir).2.lookup
        svc coll id = s.store.lookup svc coll id)
      ↔ (s.updates = [] ∨ (isFileName (resourceFileName svc) = true
          ∧ Text.endsWith svc resourceSuffix = false))
        ∧ ∀ coll id, latest s.persisted coll id = latest s.updates coll id := by
  have hinv : ResourceLogInv codec svc s :=
    resourceLogInv_run registry hrun
  have hloaded : ∀ coll id,
      ((ResourceStore.new registry').loadFromDisk codec order s.dir).2.lookup svc coll id
        = if isFileName (resourceFileName svc) = true
            ∧ Text.endsWith svc resourceSuffix = false
          then latest s.persisted coll id else none := by
    intro coll id
    rw [hinv.dir]
    exact lookup_loadFromDisk (fun r hr => hround r (hinv.known r hr)) order registry' coll id
  simp only [hloaded, hinv.memory]
  by_cases hname : isFileName (resourceFileName svc) = true
      ∧ Text.endsWith svc resourceSuffix = false
  · simp only [if_pos hname]
    exact ⟨fun h => ⟨Or.inr hname, h⟩, fun h => h.2⟩
  · simp only [if_neg hname]
    constructor
    · -- Nothing is loaded, so nothing was captured.
      intro h
      have hnone : s.updates = [] := by
        rw [List.eq_nil_iff_forall_not_mem]
        exact fun r hr => latest_ne_none hr (h r.collection r.id).symm
      have hpersisted : s.persisted = [] := by
        rw [List.eq_nil_iff_forall_not_mem]
        exact fun r hr => List.not_mem_nil (hnone ▸ hinv.known r hr)
      exact ⟨Or.inl hnone, fun coll id => by rw [hnone, hpersisted]⟩
    · rintro ⟨hnone | hname', -⟩ coll id
      · rw [hnone]
        rfl
      · exact absurd hname' hname

-- ======================================================== fresh appends

/-- Every append writes what the map holds at that moment. -/
def FreshAppend (svc : Text) (s : CallsState n) (i : Fin n) : Prop :=
  ∀ r, s.phase i = .toPersist r → s.store.lookup svc r.collection r.id = some r

/-- The call has yet to append a line of the resource. -/
def CallPhase.Owes (coll id : Text) : CallPhase → Prop
  | .updated coll' id' => coll' = coll ∧ id' = id
  | .toPersist r => r.collection = coll ∧ r.id = id
  | .ready | .ended => False

/-- A resource whose last line is not its last update has a call that owes
a line. -/
def LinesOwed (s : CallsState n) : Prop :=
  ∀ coll id, latest s.persisted coll id = latest s.updates coll id
    ∨ ∃ i, (s.phase i).Owes coll id

theorem linesOwed_move {s : CallsState n} {i : Fin n} {phase : CallPhase} (h : LinesOwed s)
    (hphase : ∀ coll id, (s.phase i).Owes coll id →
      latest s.persisted coll id = latest s.updates coll id ∨ phase.Owes coll id) :
    LinesOwed (s.move i phase) := by
  intro coll id
  rcases h coll id with heq | ⟨j, hj⟩
  · exact Or.inl heq
  · by_cases hji : j = i
    · subst hji
      refine (hphase coll id hj).imp_right fun howes => ⟨j, ?_⟩
      show (Function.update s.phase j phase j).Owes coll id
      rwa [Function.update_self]
    · refine Or.inr ⟨j, ?_⟩
      show (Function.update s.phase i phase j).Owes coll id
      rwa [Function.update_of_ne hji]

/-- An update and a call that owes its line. -/
theorem linesOwed_put {s : CallsState n} {i : Fin n} {phase : CallPhase} (h : LinesOwed s)
    (hready : s.phase i = .ready) (r : ResourceState)
    (howes : phase.Owes r.collection r.id) :
    LinesOwed ((s.put svc r.collection r.id r).move i phase) := by
  intro coll id
  by_cases hkey : r.collection = coll ∧ r.id = id
  · obtain ⟨rfl, rfl⟩ := hkey
    refine Or.inr ⟨i, ?_⟩
    show (Function.update s.phase i phase i).Owes r.collection r.id
    rwa [Function.update_self]
  · rcases h coll id with heq | ⟨j, hj⟩
    · left
      show latest s.persisted coll id = latest (s.updates ++ [r]) coll id
      rw [latest_append, if_neg hkey, heq]
    · have hji : j ≠ i := by
        rintro rfl
        rw [hready] at hj
        exact hj
      refine Or.inr ⟨j, ?_⟩
      show (Function.update s.phase i phase j).Owes coll id
      rwa [Function.update_of_ne hji]

theorem linesOwed_step {s s' : CallsState n} {i : Fin n} (hinv : ResourceLogInv codec svc s)
    (h : LinesOwed s) (hfresh : FreshAppend svc s i) (hmove : CallMove codec svc s i s') :
    LinesOwed s' := by
  cases hmove with
  | refused hphase =>
      refine linesOwed_move h fun coll id howes => ?_
      rw [hphase] at howes
      cases howes
  | captured r hphase => exact linesOwed_put h hphase r ⟨rfl, rfl⟩
  | transitioned r hphase => exact linesOwed_put h hphase r ⟨rfl, rfl⟩
  | missing coll id hphase hlook =>
      -- What is in no map was never updated, and so has no line.
      refine linesOwed_move h fun coll' id' howes => Or.inl ?_
      rw [hphase] at howes
      obtain ⟨rfl, rfl⟩ := howes
      have hupdates : latest s.updates coll id = none := (hinv.memory coll id).symm.trans hlook
      rw [hupdates, Option.eq_none_iff_forall_ne_some]
      intro r hr
      obtain ⟨hmem, rfl, rfl⟩ := mem_of_latest hr
      exact latest_ne_none (hinv.known r hmem) hupdates
  | reread r hphase hlook =>
      refine linesOwed_move h fun coll id howes => Or.inr ?_
      rw [hphase] at howes
      exact howes
  | appended r hphase =>
      intro coll id
      by_cases hkey : r.collection = coll ∧ r.id = id
      · obtain ⟨rfl, rfl⟩ := hkey
        left
        show latest (s.persisted ++ [r]) r.collection r.id = latest s.updates r.collection r.id
        rw [latest_append, if_pos ⟨rfl, rfl⟩, ← hinv.memory, hfresh r hphase]
      · rcases h coll id with heq | ⟨j, hj⟩
        · left
          show latest (s.persisted ++ [r]) coll id = latest s.updates coll id
          rw [latest_append, if_neg hkey, heq]
        · have hji : j ≠ i := by
            rintro rfl
            rw [hphase] at hj
            exact hkey hj
          refine Or.inr ⟨j, ?_⟩
          show (Function.update s.phase i .ended j).Owes coll id
          rwa [Function.update_of_ne hji]

/-- When every append was fresh and all calls are done, the last line of
every resource carries the state of its last update. -/
theorem latest_of_fresh {calls : Fin n → ResourceCall} (registry : Option StatechartRegistry)
    {run : List (Fin n)} {s : CallsState n}
    (hfresh : Machine.Along (callStep codec svc calls) (FreshAppend svc)
      (CallsState.start registry) run)
    (hrun : Machine.exec (callStep codec svc calls) (CallsState.start registry) run = some s)
    (hdone : s.Done) (coll id : Text) :
    latest s.persisted coll id = latest s.updates coll id := by
  have howed : ResourceLogInv codec svc s ∧ LinesOwed s :=
    Machine.exec_along (I := fun s => ResourceLogInv codec svc s ∧ LinesOwed s)
      (fun _ _ _ h hG hstep =>
        have hmove := callMove_of_step h.1 hstep
        ⟨resourceLogInv_step h.1 hmove, linesOwed_step h.1 h.2 hG hmove⟩)
      ⟨resourceLogInv_start registry, fun _ _ => Or.inl rfl⟩ hfresh hrun
  rcases howed.2 coll id with heq | ⟨i, hi⟩
  · exact heq
  · have hphase := hdone i
    revert hi hphase
    cases s.phase i with
    | ready | updated | toPersist => exact fun _ h => h.elim
    | ended => exact fun h _ => h.elim

end Calls

-- ========================================================== two captures

/-- One charge is captured twice, with another amount. -/
def twiceCaptured (i : Fin 2) : ResourceCall :=
  .captureCreate "charges"
    (.object [("amount", .number (if i.val = 0 then "1" else "2")), ("id", .string "ch_1")])
    none none 201 0

theorem roundTrips_twiceCaptured {r : ResourceState}
    (h : r = chargeState "ch_1" "1" ∨ r = chargeState "ch_1" "2") :
    chargeCodec.RoundTrips r := by
  rcases h with rfl | rfl
  · exact roundTrips_chargeState (by decide)
  · exact roundTrips_chargeState (by decide)

/-- The calls one after the other: the second amount is in memory and on
disk. -/
theorem resource_file_agrees_in_turn :
    ∃ s, Machine.exec (callStep chargeCodec "pay" twiceCaptured)
        (CallsState.start none) [0, 0, 1, 1] = some s
      ∧ s.Done
      ∧ ∀ (order : RandomState) (coll id : Text),
        ((ResourceStore.new none).loadFromDisk chargeCodec order s.dir).2.lookup "pay" coll id
          = s.store.lookup "pay" coll id := by
  refine ⟨_, rfl, Fin.forall_fin_two.mpr ⟨trivial, trivial⟩, fun order => ?_⟩
  have hround : ∀ r ∈ [chargeState "ch_1" "1", chargeState "ch_1" "2"],
      chargeCodec.RoundTrips r :=
    fun r hr => roundTrips_twiceCaptured (by simpa using hr)
  exact (resource_file_agrees_iff chargeCodec order "pay" none none twiceCaptured
    [0, 0, 1, 1] _ rfl hround).mpr ⟨Or.inr ⟨by decide, by decide⟩, fun _ _ => rfl⟩

/-- The second capture begins and is appended while the first has not been
appended: memory has the second amount, a store loaded anew the first. -/
theorem resource_file_keeps_first_amount :
    ∃ s, Machine.exec (callStep chargeCodec "pay" twiceCaptured)
        (CallsState.start none) [0, 1, 1, 0] = some s
      ∧ s.Done
      ∧ s.store.lookup "pay" "charges" "ch_1" = some (chargeState "ch_1" "2")
      ∧ (∀ order : RandomState,
        ((ResourceStore.new none).loadFromDisk chargeCodec order s.dir).2.lookup
          "pay" "charges" "ch_1" = some (chargeState "ch_1" "1"))
      ∧ chargeState "ch_1" "2" ≠ chargeState "ch_1" "1" := by
  refine ⟨_, rfl, Fin.forall_fin_two.mpr ⟨trivial, trivial⟩, ?_, fun order => ?_, ?_⟩
  · rfl
  · have hround : ∀ r ∈ [chargeState "ch_1" "2", chargeState "ch_1" "1"],
        chargeCodec.RoundTrips r :=
      fun r hr => roundTrips_twiceCaptured (by simpa [or_comm] using hr)
    have hdir := (resourceLogInv_run none (show Machine.exec
      (callStep chargeCodec "pay" twiceCaptured) (CallsState.start none) [0, 1, 1, 0]
        = some _ from rfl)).dir
    rw [hdir]
    exact (lookup_loadFromDisk hround order none "charges" "ch_1").trans
      (if_pos ⟨by decide, by decide⟩)
  · intro h
    have hbody : Json.object [("amount", .number "2"), ("id", .string "ch_1")]
        = .object [("amount", .number "1"), ("id", .string "ch_1")] :=
      congrArg ResourceState.body h
    simp at hbody

end GostlyProxy
