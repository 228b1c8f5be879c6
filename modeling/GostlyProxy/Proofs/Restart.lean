/-
What a restart restores of the captured resources.

# The calls

Captures and transitions of any services run one at a time, each followed
by the append to its service's file. The history of the updates splits into
one log for every service: memory holds the last update of every resource of
that log, the service's file the whole log (`DurableInv`).

# What comes back

No file is loaded under a name that ends like a resource file, so what was
captured comes back exactly when no service it was captured for has such a
name (`restart_restores_iff`).
-/
import GostlyProxy.Proofs.ResourceLog

namespace GostlyProxy

open Lib

-- ============================================================== the calls

/-- The store and the resource directory; `updates` is the history of the
updates, each with its service, oldest first. -/
structure DurableStore where
  store : ResourceStore
  dir : Dir
  updates : List (Text × ResourceState)

namespace DurableStore

/-- A fresh store on an empty directory. -/
def new (registry : Option StatechartRegistry) : DurableStore where
  store := ResourceStore.new registry
  dir := ∅
  updates := []

def put (s : DurableStore) (svc coll id : Text) (r : ResourceState) : DurableStore :=
  { s with
    store := s.store.put svc coll id r
    updates := s.updates ++ [(svc, r)] }

def persist (codec : ResourceCodec) (s : DurableStore) (svc : Text) (r : ResourceState) :
    DurableStore :=
  { s with dir := persistJsonl codec s.dir svc r }

end DurableStore

/-- One call with its append. -/
def serveCall (codec : ResourceCodec) (s : DurableStore) (svc : Text) :
    ResourceCall → DurableStore
  | .captureCreate coll body hint contentType status now =>
      match extractId body coll hint with
      | none => s
      | some id =>
          let state := ResourceStore.captured s.store.registry coll id body contentType status now
          (s.put svc coll id state).persist codec svc state
  | .applyTransition coll id action now =>
      match s.store.transition svc coll id action now with
      | none => s
      | some (state, _) =>
          let s' := s.put svc coll id state
          match s'.store.lookup svc coll id with
          | none => s'
          | some snapshot => s'.persist codec svc snapshot

/-- Calls for some services, one at a time. -/
def serveCalls (codec : ResourceCodec) (registry : Option StatechartRegistry)
    (calls : List (Text × ResourceCall)) : DurableStore :=
  Machine.run (fun s call => serveCall codec s call.1 call.2) (DurableStore.new registry) calls

/-- The call captures a resource. -/
def ResourceCall.captures : ResourceCall → Bool
  | .captureCreate coll body hint _ _ _ => (extractId body coll hint).isSome
  | .applyTransition .. => false

/-- To the store a call with its append does what the call does. -/
theorem serveCall_store (codec : ResourceCodec) (s : DurableStore) (svc : Text)
    (call : ResourceCall) :
    (serveCall codec s svc call).store = storeStep s.store (call.storeCall svc) := by
  cases call with
  | captureCreate coll body hint contentType status now =>
      show _ = (s.store.captureCreate svc coll body hint contentType status now).1
      rw [serveCall, ResourceStore.captureCreate]
      cases extractId body coll hint <;> rfl
  | applyTransition coll id action now =>
      show _ = (s.store.applyTransition svc coll id action now).1
      rw [serveCall, ResourceStore.applyTransition]
      cases s.store.transition svc coll id action now with
      | none => rfl
      | some moved =>
          dsimp only
          split <;> rfl

-- =========================================================== the invariant

/-- A service's log, as the text of its file. -/
def logText (codec : ResourceCodec) (log : List ResourceState) : Text :=
  log.flatMap fun r => codec.print r ++ ['\n']

/-- Memory and directory, each split by service, are what the service's log
leaves; the directory has no other files. -/
structure DurableInv (codec : ResourceCodec) (s : DurableStore) : Prop where
  memory : KeptByOwner s.store.byService id (lastWrites ResourceState.key) s.updates
  files : KeptByOwner s.dir resourceFileName (logText codec) s.updates
  names : ∀ fname content, s.dir.lookup fname = some content → ∃ svc, fname = resourceFileName svc

section Inv

variable {codec : ResourceCodec} {s : DurableStore} {svc : Text}

theorem logText_append (log : List ResourceState) (r : ResourceState) :
    logText codec (log ++ [r]) = logText codec log ++ (persistWrites codec r).flatten := by
  unfold logText
  rw [List.flatMap_append, List.flatMap_singleton]
  simp [persistWrites]

theorem DurableInv.bucket (h : DurableInv codec s) (svc : Text) :
    s.store.byService.lookup svc
      = leftBy (lastWrites ResourceState.key) (ofOwner s.updates svc) := h.memory svc

/-- A stored resource carries its key. -/
theorem DurableInv.of_lookup (h : DurableInv codec s) {coll id : Text} {r : ResourceState}
    (hr : s.store.lookup svc coll id = some r) :
    (∃ u ∈ s.updates, u.1 = svc) ∧ r.collection = coll ∧ r.id = id := by
  rw [ResourceStore.lookup, h.bucket, Option.bind_eq_some_iff] at hr
  obtain ⟨bucket, hbucket, hlook⟩ := hr
  obtain ⟨hlog, rfl⟩ := (leftBy_eq_some_iff _).mp hbucket
  have hkey : r.key = (coll, id) := key_of_lookup hlook
  exact ⟨ofOwner_ne_nil_iff.mp hlog, congrArg Prod.fst hkey, congrArg Prod.snd hkey⟩

/-- What a call does: nothing, or an update and the append of what it
stored. A service that is not known yet is captured for. -/
inductive ServeMove (codec : ResourceCodec) (s : DurableStore) (svc : Text)
    (call : ResourceCall) : DurableStore → Prop
  | refused (hno : call.captures = false) : ServeMove codec s svc call s
  | kept (r : ResourceState) (hknown : call.captures = true ∨ ∃ u ∈ s.updates, u.1 = svc) :
      ServeMove codec s svc call ((s.put svc r.collection r.id r).persist codec svc r)

theorem serveMove (h : DurableInv codec s) (svc : Text) (call : ResourceCall) :
    ServeMove codec s svc call (serveCall codec s svc call) := by
  cases call with
  | captureCreate coll body hint contentType status now =>
      rw [serveCall]
      cases hid : extractId body coll hint with
      | none => exact .refused (Option.isSome_eq_false_iff.mpr (Option.isNone_iff_eq_none.mpr hid))
      | some id =>
          exact .kept (ResourceStore.captured s.store.registry coll id body contentType status now)
            (Or.inl (Option.isSome_of_eq_some hid))
  | applyTransition coll id action now =>
      rw [serveCall]
      cases htrans : s.store.transition svc coll id action now with
      | none => exact .refused rfl
      | some moved =>
          obtain ⟨reg, r, m, st, st', -, hr, -, -, -, rfl⟩ := ResourceStore.of_transition htrans
          obtain ⟨hknown, rfl, rfl⟩ := h.of_lookup hr
          have hread : (s.put svc r.collection r.id
              (ResourceStore.advanced reg r m st' now)).store.lookup svc r.collection r.id
                = some (ResourceStore.advanced reg r m st' now) :=
            (ResourceStore.lookup_put ..).trans (if_pos rfl)
          dsimp only
          rw [hread]
          exact .kept (ResourceStore.advanced reg r m st' now) (Or.inr hknown)

theorem resourceFileName_injective : Function.Injective resourceFileName :=
  fun _ _ h => List.append_cancel_right h

/-- The services' files are loaded as the services' buckets. -/
theorem DurableInv.byService_loaded (h : DurableInv codec s) (order : RandomState)
    (registry : Option StatechartRegistry) (hround : ∀ u ∈ s.updates, codec.RoundTrips u.2)
    (hends : ∀ u ∈ s.updates, Text.endsWith u.1 resourceSuffix = false) :
    ((ResourceStore.new registry).loadFromDisk codec order s.dir).2.byService
      = s.store.byService := by
  have hloaded : ∀ svc, ofOwner s.updates svc ≠ [] →
      loadedFile codec (resourceFileName svc) (logText codec (ofOwner s.updates svc))
        = some (svc, lastWrites ResourceState.key (ofOwner s.updates svc)) := by
    intro svc hlog
    obtain ⟨u, hu, rfl⟩ := ofOwner_ne_nil_iff.mp hlog
    exact loadedFile_printed codec (fun r hr => hround (u.1, r) (mem_ofOwner.mp hr)) hlog
      (hends u hu)
  have hname : ∀ fname content svc bucket, s.dir.lookup fname = some content →
      loadedFile codec fname content = some (svc, bucket) → fname = resourceFileName svc := by
    intro fname content svc bucket hfile hload
    obtain ⟨svc', rfl⟩ := h.names fname content hfile
    rw [h.files] at hfile
    obtain ⟨hlog, rfl⟩ := (leftBy_eq_some_iff _).mp hfile
    cases (hloaded svc' hlog).symm.trans hload
    rfl
  rw [byService_loadFromDisk]
  apply Finmap.ext_lookup
  intro svc
  apply Option.ext
  intro bucket
  rw [order.lookup_loaded_eq_some_iff hname, h.files, h.bucket]
  simp only [leftBy_eq_some_iff]
  constructor
  · rintro ⟨-, ⟨hlog, rfl⟩, hload⟩
    cases (hloaded svc hlog).symm.trans hload
    exact ⟨hlog, rfl⟩
  · rintro ⟨hlog, rfl⟩
    exact ⟨_, ⟨hlog, rfl⟩, hloaded svc hlog⟩

theorem durableInv_kept (h : DurableInv codec s)
    (hname : isFileName (resourceFileName svc) = true) (r : ResourceState) :
    DurableInv codec ((s.put svc r.collection r.id r).persist codec svc r) where
  memory := by
    refine h.memory.append Function.injective_id svc r ?_
    rw [lastWrites_append, ← h.memory.getD svc]
    rfl
  files := by
    show KeptByOwner (persistJsonl codec s.dir svc r) _ _ _
    rw [persistJsonl, if_pos hname]
    refine h.files.append resourceFileName_injective svc r ?_
    rw [logText_append, ← h.files.getD svc]
    rfl
  names := by
    intro fname content hfile
    by_cases hsvc : fname = resourceFileName svc
    · exact ⟨svc, hsvc⟩
    · refine h.names fname content ?_
      rw [← hfile]
      show s.dir.lookup fname = (persistJsonl codec s.dir svc r).lookup fname
      rw [persistJsonl, if_pos hname, Finmap.lookup_insert_of_ne _ hsvc]

/-- What a call adds to the services with updates. -/
theorem ServeMove.updates {call : ResourceCall} {s' : DurableStore}
    (h : ServeMove codec s svc call s') (svc' : Text) :
    (∃ u ∈ s'.updates, u.1 = svc')
      ↔ (∃ u ∈ s.updates, u.1 = svc') ∨ (svc = svc' ∧ call.captures = true) := by
  cases h with
  | refused hno => simp [hno]
  | kept r hknown =>
      have hmore : (∃ u ∈ s.updates ++ [(svc, r)], u.1 = svc')
          ↔ (∃ u ∈ s.updates, u.1 = svc') ∨ svc = svc' := by
        simp [or_and_right, exists_or]
      refine hmore.trans ⟨?_, Or.imp_right And.left⟩
      rintro (hold | rfl)
      · exact Or.inl hold
      · exact hknown.symm.imp_right fun hcaptures => ⟨rfl, hcaptures⟩

theorem serveCalls_append (registry : Option StatechartRegistry)
    (calls : List (Text × ResourceCall)) (call : Text × ResourceCall) :
    serveCalls codec registry (calls ++ [call])
      = serveCall codec (serveCalls codec registry calls) call.1 call.2 := List.foldl_append

theorem durableInv_new (registry : Option StatechartRegistry) :
    DurableInv codec (DurableStore.new registry) where
  memory := keptByOwner_empty
  files := keptByOwner_empty
  names := by
    intro fname content hfile
    cases (Finmap.lookup_empty fname).symm.trans hfile

variable (codec) in
/-- What holds after some calls: the invariant, and the services with
updates are those something was captured for. -/
theorem serveCalls_inv (registry : Option StatechartRegistry)
    {calls : List (Text × ResourceCall)}
    (hnames : ∀ call ∈ calls, isFileName (resourceFileName call.1) = true) :
    DurableInv codec (serveCalls codec registry calls)
      ∧ ∀ svc, (∃ u ∈ (serveCalls codec registry calls).updates, u.1 = svc)
        ↔ ∃ call ∈ calls, call.1 = svc ∧ call.2.captures = true := by
  induction calls using List.reverseRecOn with
  | nil => exact ⟨durableInv_new registry, fun svc => by simp [serveCalls, Machine.run,
      DurableStore.new]⟩
  | append_singleton calls call ih =>
      obtain ⟨hinv, hknown⟩ := ih fun c hc => hnames c (List.mem_append_left _ hc)
      have hmove := serveMove hinv call.1 call.2
      rw [serveCalls_append]
      constructor
      · revert hmove
        generalize serveCall codec (serveCalls codec registry calls) call.1 call.2 = s'
        rintro (_ | ⟨r, -⟩)
        · exact hinv
        · exact durableInv_kept hinv (hnames call (by simp)) r
      · intro svc
        rw [hmove.updates, hknown]
        simp [or_and_right, exists_or]

end Inv

-- =============================================== what a restart restores

/-- After any calls one at a time a fresh store loads the map of the old one
exactly when no service that something was captured for is named like a
resource file. -/
theorem restart_restores_iff (codec : ResourceCodec) (order : RandomState)
    (registry registry' : Option StatechartRegistry) (calls : List (Text × ResourceCall))
    (hnames : ∀ call ∈ calls, isFileName (resourceFileName call.1) = true)
    (hround : ∀ u ∈ (serveCalls codec registry calls).updates, codec.RoundTrips u.2) :
    ((ResourceStore.new registry').loadFromDisk codec order
        (serveCalls codec registry calls).dir).2.byService
      = (serveCalls codec registry calls).store.byService
      ↔ ∀ call ∈ calls, call.2.captures = true →
        Text.endsWith call.1 resourceSuffix = false := by
  obtain ⟨hinv, hknown⟩ := serveCalls_inv codec registry hnames
  generalize serveCalls codec registry calls = s at hround hinv hknown ⊢
  constructor
  · intro h call hcall hcaptures
    refine not_endsWith_of_loaded codec order registry' s.dir ?_
    have hlog := ofOwner_ne_nil_iff.mpr ((hknown call.1).mpr ⟨call, hcall, rfl, hcaptures⟩)
    rw [h, hinv.bucket, leftBy_of_ne_nil _ hlog]
    rfl
  · intro h
    refine hinv.byService_loaded order registry' hround fun u hu => ?_
    obtain ⟨call, hcall, hsvc, hcaptures⟩ := (hknown u.1).mp ⟨u, hu, rfl⟩
    exact hsvc ▸ h call hcall hcaptures

/-- The capture of a charge. -/
def captureCharge (amount : Text) : ResourceCall :=
  .captureCreate "charges" (.object [("amount", .number amount), ("id", .string "ch_1")]) none none
    201 0

/-- One charge, captured for two services. -/
def twoServices : List (Text × ResourceCall) := [
  ("pay", captureCharge "1"),
  ("shop", captureCharge "2"),
  ("pay", captureCharge "2"),
  ("pay", .applyTransition "charges" "ch_1" "capture" 1)]

theorem updates_twoServices : (serveCalls chargeCodec none twoServices).updates
    = [(("pay" : Text), chargeState "ch_1" "1"), (("shop" : Text), chargeState "ch_1" "2"),
      (("pay" : Text), chargeState "ch_1" "2")] := rfl

/-- A restart brings the charges of both services back. -/
theorem restart_restores_twoServices :
    ((ResourceStore.new none).loadFromDisk chargeCodec default
        (serveCalls chargeCodec none twoServices).dir).2.byService
      = (serveCalls chargeCodec none twoServices).store.byService := by
  refine (restart_restores_iff chargeCodec default none none twoServices (by decide) ?_).mpr
    (by decide)
  intro u hu
  rw [updates_twoServices] at hu
  simp only [List.mem_cons, List.not_mem_nil, or_false] at hu
  rcases hu with rfl | rfl | rfl
  · exact roundTrips_twiceCaptured (Or.inl rfl)
  · exact roundTrips_twiceCaptured (Or.inr rfl)
  · exact roundTrips_twiceCaptured (Or.inr rfl)

/-- The service of the charge is named like a resource file. -/
def serviceLikeFile : List (Text × ResourceCall) := [("pay.jsonl", captureCharge "1")]

/-- The service is gone after a restart. -/
theorem restart_loses_service :
    ¬ ∀ (codec : ResourceCodec) (order : RandomState)
        (registry registry' : Option StatechartRegistry) (calls : List (Text × ResourceCall)),
      (∀ call ∈ calls, isFileName (resourceFileName call.1) = true) →
      (∀ u ∈ (serveCalls codec registry calls).updates, codec.RoundTrips u.2) →
      ((ResourceStore.new registry').loadFromDisk codec order
          (serveCalls codec registry calls).dir).2.byService
        = (serveCalls codec registry calls).store.byService := by
  intro h
  have hround : ∀ u ∈ (serveCalls chargeCodec none serviceLikeFile).updates,
      chargeCodec.RoundTrips u.2 := by
    intro u hu
    obtain rfl : u = (("pay.jsonl" : Text), chargeState "ch_1" "1") := List.mem_singleton.mp hu
    exact roundTrips_twiceCaptured (Or.inl rfl)
  have hload := h chargeCodec default none none serviceLikeFile (by decide) hround
  have hends : Text.endsWith "pay.jsonl" resourceSuffix = false := by
    refine not_endsWith_of_loaded chargeCodec default none
      (serveCalls chargeCodec none serviceLikeFile).dir ?_
    rw [hload]
    rfl
  exact absurd hends (by decide)

end GostlyProxy
