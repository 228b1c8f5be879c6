/-
The segmented library is a flat map.

# The argument

`WellFormed` is the invariant the writers keep without saying so: the
segment under a key holds that one service, and a mock lies under its own
method, URI and tenant. `mocksOf` is the flat view, one map of mocks per
service. Under the invariant a scan over the segments can only be answered
by the segment of the service, so `findExact` and `entriesForService` read
the flat view in every hash order (`findExact_eq`,
`mem_entriesForService`).

Each writer is then one equation about the flat view (`mocksOf_publish`,
`mocksOf_setSegment_some`, `mocksOf_setSegment_none`).
-/
import GostlyProxy.Model.Library

namespace GostlyProxy

open Lib

namespace MockLibrary

-- ========================================================== the invariant

/-- What every writer keeps: one service per segment, under the segment's
own name, and every mock under its own key. -/
structure WellFormed (lib : MockLibrary) : Prop where
  service : ∀ {k seg s svc}, lib.segments.lookup k = some seg →
    seg.services.lookup s = some svc → s = k
  key : ∀ {k seg s svc key e}, lib.segments.lookup k = some seg →
    seg.services.lookup s = some svc → svc.lookup key = some e → e.key = key

/-- The flat view: the mocks of one service, none when it has no segment. -/
def mocksOf (lib : MockLibrary) (serviceId : Text) : ServiceMocks :=
  ((lib.segments.lookup serviceId).bind fun seg => seg.services.lookup serviceId).getD ∅

theorem wellFormed_new : new.WellFormed where
  service := by
    intro k seg s svc hseg
    unfold new at hseg
    rw [Finmap.lookup_empty] at hseg
    cases hseg
  key := by
    intro k seg s svc key e hseg
    unfold new at hseg
    rw [Finmap.lookup_empty] at hseg
    cases hseg

@[simp] theorem mocksOf_new (s : Text) : new.mocksOf s = ∅ := by
  unfold mocksOf new
  rw [Finmap.lookup_empty]
  rfl

section Reads

variable {lib : MockLibrary}

theorem WellFormed.mocksOf_key (h : lib.WellFormed) {s : Text} {key : MockKey}
    {e : MockEntry} (hmem : (lib.mocksOf s).lookup key = some e) : e.key = key := by
  cases hsvc : (lib.segments.lookup s).bind fun seg => seg.services.lookup s with
  | none =>
      unfold mocksOf at hmem
      rw [hsvc, Option.getD_none, Finmap.lookup_empty] at hmem
      cases hmem
  | some svc =>
      unfold mocksOf at hmem
      rw [hsvc, Option.getD_some] at hmem
      obtain ⟨seg, hseg, hlook⟩ := Option.bind_eq_some_iff.mp hsvc
      exact h.key hseg hlook hmem

/-- Another segment than the service's own holds nothing of it. -/
theorem WellFormed.lookup_other (h : lib.WellFormed) {s k : Text} {seg : MockSegment}
    (hseg : lib.segments.lookup k = some seg) (hne : k ≠ s) :
    seg.services.lookup s = none := by
  cases hsvc : seg.services.lookup s with
  | none => rfl
  | some svc => exact absurd (h.service hseg hsvc).symm hne

/-- In every hash order the exact lookup is the lookup of the flat view. -/
theorem findExact_eq (h : lib.WellFormed) (rs : RandomState) (s m u t : Text) :
    lib.findExact rs s m u t = (lib.mocksOf s).lookup (m, u, t) := by
  have hother : ∀ k seg, lib.segments.lookup k = some seg → k ≠ s →
      findInSegment s (m, u, t) seg = none := by
    intro k seg hseg hne
    unfold findInSegment
    rw [h.lookup_other hseg hne]
    rfl
  rw [findExact, rs.findSome?_values hother, mocksOf]
  cases lib.segments.lookup s with
  | none => rw [Option.bind_none, Option.bind_none, Option.getD_none, Finmap.lookup_empty]
  | some seg =>
      rw [Option.bind_some, Option.bind_some, findInSegment]
      cases seg.services.lookup s with
      | none => rw [Option.bind_none, Option.getD_none, Finmap.lookup_empty]
      | some svc => rfl

@[simp] theorem entriesOf_empty (rs : RandomState) (tenant : Option Text) :
    entriesOf rs tenant ∅ = [] := by
  unfold entriesOf
  rw [rs.iter_empty]
  rfl

/-- In every hash order a service's entries are those of the flat view. -/
theorem entriesForService_eq (h : lib.WellFormed) (rs : RandomState) (s : Text)
    (tenant : Option Text) :
    lib.entriesForService rs s tenant = entriesOf rs tenant (lib.mocksOf s) := by
  have hother : ∀ k seg, lib.segments.lookup k = some seg → k ≠ s →
      ((seg.services.lookup s).map (entriesOf rs tenant)).getD [] = [] := by
    intro k seg hseg hne
    rw [h.lookup_other hseg hne]
    rfl
  unfold entriesForService
  rw [rs.flatMap_values hother, mocksOf]
  cases lib.segments.lookup s with
  | none => exact (entriesOf_empty rs tenant).symm
  | some seg =>
      rw [Option.map_some, Option.getD_some, Option.bind_some]
      cases seg.services.lookup s with
      | none => exact (entriesOf_empty rs tenant).symm
      | some svc => rfl

theorem mem_entriesOf {rs : RandomState} {t : Text} {svc : ServiceMocks}
    {e : MockEntry} :
    e ∈ entriesOf rs (some t) svc
      ↔ ∃ key, svc.lookup key = some e ∧ key.2.2 = t := by
  simp only [entriesOf, List.mem_map, List.mem_filter, Option.all_some,
    decide_eq_true_eq]
  constructor
  · rintro ⟨⟨key, e'⟩, ⟨hmem, ht⟩, rfl⟩
    exact ⟨key, rs.mem_iter.mp hmem, ht.symm⟩
  · rintro ⟨key, hlook, ht⟩
    exact ⟨⟨key, e⟩, ⟨rs.mem_iter.mpr hlook, ht.symm⟩, rfl⟩

/-- A tenant's entries of a service, exactly. -/
theorem mem_entriesForService (h : lib.WellFormed) {rs : RandomState} {s t : Text}
    {e : MockEntry} :
    e ∈ lib.entriesForService rs s (some t)
      ↔ e.tenant = t ∧ (lib.mocksOf s).lookup e.key = some e := by
  rw [entriesForService_eq h, mem_entriesOf]
  constructor
  · rintro ⟨key, hlook, ht⟩
    have hkey := h.mocksOf_key hlook
    subst hkey
    exact ⟨ht, hlook⟩
  · rintro ⟨ht, hlook⟩
    exact ⟨e.key, hlook, ht⟩

/-- No entry of a service's map is listed twice. -/
theorem nodup_entriesOf {svc : ServiceMocks} (rs : RandomState) (tenant : Option Text)
    (hkey : ∀ key e, svc.lookup key = some e → e.key = key) :
    (entriesOf rs tenant svc).Nodup := by
  have hnd : (rs.iter svc).Nodup := (rs.nodupKeys_iter svc).nodup
  refine List.Nodup.map_on ?_ (hnd.filter _)
  rintro ⟨k, e⟩ hk ⟨k', e'⟩ hk' (rfl : e = e')
  have h₁ := hkey k e (rs.mem_iter.mp (List.mem_filter.mp hk).1)
  have h₂ := hkey k' e (rs.mem_iter.mp (List.mem_filter.mp hk').1)
  rw [← h₁, ← h₂]

theorem nodup_entriesForService (h : lib.WellFormed) (rs : RandomState) (s : Text)
    (tenant : Option Text) : (lib.entriesForService rs s tenant).Nodup := by
  rw [entriesForService_eq h]
  exact nodup_entriesOf rs tenant fun _ _ => h.mocksOf_key

end Reads

-- ================================================================ counting

theorem length_entriesOf_none (rs : RandomState) (svc : ServiceMocks) :
    (entriesOf rs none svc).length = svc.size := by
  unfold entriesOf
  rw [List.length_map]
  simp [rs.length_iter]

theorem values_perm {κ ν : Type} (rs rs' : RandomState) (m : HashMap κ ν) :
    (rs.values m).Perm (rs'.values m) :=
  (rs.iter_perm rs' m).map _

/-- The total count is the number of entries listed, in any two orders. -/
theorem totalCount_eq (rs rs' : RandomState) (lib : MockLibrary) :
    lib.totalCount rs = (lib.allEntries rs' none).length := by
  have hseg : ∀ seg : MockSegment,
      ((rs.values seg.services).map fun m => m.size).sum
        = ((rs'.values seg.services).flatMap (entriesOf rs' none)).length := by
    intro seg
    rw [List.length_flatMap]
    calc ((rs.values seg.services).map fun m => m.size).sum
        = ((rs'.values seg.services).map fun m => m.size).sum :=
          ((values_perm rs rs' seg.services).map _).sum_eq
      _ = ((rs'.values seg.services).map fun m => (entriesOf rs' none m).length).sum := by
          simp only [length_entriesOf_none]
  unfold totalCount allEntries
  rw [List.length_flatMap]
  simp only [hseg]
  exact ((values_perm rs rs' lib.segments).map _).sum_eq

-- ============================================================ the writers

/-- The segment a publish writes. -/
theorem publish_segments (lib : MockLibrary) (s : Text) (e : MockEntry) :
    (lib.publish s e).segments = lib.segments.insert s
      (((lib.segments.lookup s).getD MockSegment.default).insertEntry s e) := rfl

/-- A publish changes one key of one service. -/
theorem mocksOf_publish (lib : MockLibrary) (svcId : Text) (e : MockEntry) (s : Text) :
    (lib.publish svcId e).mocksOf s
      = if s = svcId then (lib.mocksOf svcId).insert e.key e else lib.mocksOf s := by
  by_cases hs : s = svcId
  · subst hs
    rw [if_pos rfl, mocksOf, publish_segments, Finmap.lookup_insert, Option.bind_some,
      MockSegment.insertEntry, Finmap.lookup_insert, Option.getD_some, mocksOf]
    cases lib.segments.lookup s with
    | none =>
        rw [Option.getD_none, MockSegment.default, Finmap.lookup_empty, Option.bind_none]
    | some seg => rfl
  · rw [if_neg hs, mocksOf, publish_segments, Finmap.lookup_insert_of_ne _ hs]
    rfl

/-- A rebuilt segment replaces the mocks of its service. -/
theorem mocksOf_setSegment_some (lib : MockLibrary) (svcId : Text) (m : ServiceMocks)
    (s : Text) :
    (lib.setSegment svcId (some ⟨Finmap.singleton svcId m⟩)).mocksOf s
      = if s = svcId then m else lib.mocksOf s := by
  by_cases hs : s = svcId
  · subst hs
    rw [if_pos rfl, mocksOf, setSegment, Finmap.lookup_insert, Option.bind_some,
      Finmap.lookup_singleton_eq, Option.getD_some]
  · rw [if_neg hs, mocksOf, setSegment, Finmap.lookup_insert_of_ne _ hs]
    rfl

/-- A dropped segment takes the mocks of its service. -/
theorem mocksOf_setSegment_none (lib : MockLibrary) (svcId s : Text) :
    (lib.setSegment svcId none).mocksOf s
      = if s = svcId then ∅ else lib.mocksOf s := by
  by_cases hs : s = svcId
  · subst hs
    rw [if_pos rfl, mocksOf, setSegment, Finmap.lookup_erase]
    rfl
  · rw [if_neg hs, mocksOf, setSegment, Finmap.lookup_erase_ne hs]
    rfl

-- =============================================== the writers keep the invariant

/-- A library whose segments are those of a well-formed one, but for one
good segment, is well formed. -/
theorem WellFormed.insert {lib : MockLibrary} (h : lib.WellFormed) {k : Text}
    {seg : MockSegment}
    (hservice : ∀ {s svc}, seg.services.lookup s = some svc → s = k)
    (hkey : ∀ {s svc key e}, seg.services.lookup s = some svc →
      svc.lookup key = some e → e.key = key) :
    WellFormed { segments := lib.segments.insert k seg } where
  service := by
    intro k' seg' s svc hseg hsvc
    by_cases hk : k' = k
    · subst hk
      rw [Finmap.lookup_insert] at hseg
      cases hseg
      exact hservice hsvc
    · rw [Finmap.lookup_insert_of_ne _ hk] at hseg
      exact h.service hseg hsvc
  key := by
    intro k' seg' s svc key e hseg hsvc he
    by_cases hk : k' = k
    · subst hk
      rw [Finmap.lookup_insert] at hseg
      cases hseg
      exact hkey hsvc he
    · rw [Finmap.lookup_insert_of_ne _ hk] at hseg
      exact h.key hseg hsvc he

theorem WellFormed.publish {lib : MockLibrary} (h : lib.WellFormed) (svcId : Text)
    (e : MockEntry) : (lib.publish svcId e).WellFormed := by
  have hold : ∀ {s svc},
      ((lib.segments.lookup svcId).getD MockSegment.default).services.lookup s = some svc →
        s = svcId ∧ ∀ {key e'}, svc.lookup key = some e' → e'.key = key := by
    intro s svc hsvc
    cases hseg : lib.segments.lookup svcId with
    | none =>
        rw [hseg, Option.getD_none, MockSegment.default, Finmap.lookup_empty] at hsvc
        cases hsvc
    | some seg =>
        rw [hseg, Option.getD_some] at hsvc
        exact ⟨h.service hseg hsvc, fun he => h.key hseg hsvc he⟩
  refine h.insert ?_ ?_
  · intro s svc hsvc
    by_cases hs : s = svcId
    · exact hs
    · unfold MockSegment.insertEntry at hsvc
      rw [Finmap.lookup_insert_of_ne _ hs] at hsvc
      exact (hold hsvc).1
  · intro s svc key e' hsvc he'
    by_cases hs : s = svcId
    · subst hs
      unfold MockSegment.insertEntry at hsvc
      rw [Finmap.lookup_insert, Option.some.injEq] at hsvc
      subst hsvc
      by_cases hk : key = e.key
      · subst hk
        rw [Finmap.lookup_insert] at he'
        cases he'
        rfl
      · rw [Finmap.lookup_insert_of_ne _ hk] at he'
        cases hprev : ((lib.segments.lookup s).getD MockSegment.default).services.lookup s with
        | none =>
            rw [hprev, Option.getD_none, Finmap.lookup_empty] at he'
            cases he'
        | some prev =>
            rw [hprev, Option.getD_some] at he'
            exact (hold hprev).2 he'
    · unfold MockSegment.insertEntry at hsvc
      rw [Finmap.lookup_insert_of_ne _ hs] at hsvc
      exact (hold hsvc).2 he'

theorem WellFormed.setSegment_some {lib : MockLibrary} (h : lib.WellFormed)
    (svcId : Text) {m : ServiceMocks}
    (hkey : ∀ {key e}, m.lookup key = some e → e.key = key) :
    (lib.setSegment svcId (some ⟨Finmap.singleton svcId m⟩)).WellFormed := by
  have hone : ∀ {s svc}, (Finmap.singleton svcId m : HashMap Text ServiceMocks).lookup s
      = some svc → s = svcId ∧ svc = m := by
    intro s svc hsvc
    have hmem : s ∈ (Finmap.singleton svcId m : HashMap Text ServiceMocks) :=
      Finmap.mem_of_lookup_eq_some hsvc
    rw [Finmap.mem_singleton] at hmem
    subst hmem
    rw [Finmap.lookup_singleton_eq, Option.some.injEq] at hsvc
    exact ⟨rfl, hsvc.symm⟩
  refine h.insert (fun hsvc => (hone hsvc).1) ?_
  intro s svc key e hsvc he
  rw [(hone hsvc).2] at he
  exact hkey he

/-- A segment that is there after another was dropped was there before. -/
theorem lookup_of_setSegment_none {lib : MockLibrary} {svcId k : Text} {seg : MockSegment}
    (h : (lib.setSegment svcId none).segments.lookup k = some seg) :
    lib.segments.lookup k = some seg := by
  unfold setSegment at h
  by_cases hk : k = svcId
  · subst hk
    rw [Finmap.lookup_erase] at h
    cases h
  · rwa [Finmap.lookup_erase_ne hk] at h

theorem WellFormed.setSegment_none {lib : MockLibrary} (h : lib.WellFormed)
    (svcId : Text) : (lib.setSegment svcId none).WellFormed where
  service := by
    intro k seg s svc hseg hsvc
    exact h.service (lookup_of_setSegment_none hseg) hsvc
  key := by
    intro k seg s svc key e hseg hsvc he
    exact h.key (lookup_of_setSegment_none hseg) hsvc he

end MockLibrary

end GostlyProxy
