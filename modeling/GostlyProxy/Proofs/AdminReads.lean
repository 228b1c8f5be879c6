/-
The admin lists show what can be served.

In every state the program can reach, the mocks that `GET /ghost/mocks`
lists are those that an exact lookup of some service finds, the tenant
parameter is a filter, the counts of health and list are the same number in
any two hash orders, and the services counted are those that have a mock
(`admin_reads_agree`).

The last rests on an invariant of its own, `Stocked`: no writer leaves an
empty segment behind.
-/
import GostlyProxy.Model.AdminReads
import GostlyProxy.Proofs.Codec
import GostlyProxy.Proofs.LibraryRuns

namespace GostlyProxy

open Lib

namespace MockLibrary

-- ============================================================== the lists

theorem mem_values {κ ν : Type} [DecidableEq κ] {rs : RandomState} {m : HashMap κ ν} {v : ν} :
    v ∈ rs.values m ↔ ∃ k, m.lookup k = some v := by
  unfold RandomState.values
  rw [List.mem_map]
  constructor
  · rintro ⟨⟨k, v'⟩, hmem, rfl⟩
    exact ⟨k, rs.mem_iter.mp hmem⟩
  · rintro ⟨k, hk⟩
    exact ⟨⟨k, v⟩, rs.mem_iter.mpr hk, rfl⟩

/-- The entries of one map that a filter lets through. -/
theorem mem_entriesOf_iff {rs : RandomState} {tenant : Option Text} {svc : ServiceMocks}
    {e : MockEntry} :
    e ∈ entriesOf rs tenant svc
      ↔ ∃ key, svc.lookup key = some e ∧ ∀ t ∈ tenant, t = key.2.2 := by
  simp only [entriesOf, List.mem_map, List.mem_filter]
  constructor
  · rintro ⟨⟨key, e'⟩, ⟨hmem, ht⟩, rfl⟩
    refine ⟨key, rs.mem_iter.mp hmem, fun t htenant => ?_⟩
    rw [Option.mem_def] at htenant
    simpa [htenant] using ht
  · rintro ⟨key, hlook, ht⟩
    refine ⟨⟨key, e⟩, ⟨rs.mem_iter.mpr hlook, ?_⟩, rfl⟩
    cases tenant with
    | none => rfl
    | some t => simpa using ht t rfl

/-- A mock is listed when a service holds it under its own key. -/
theorem mem_allEntries {lib : MockLibrary} (h : lib.WellFormed) {rs : RandomState}
    {tenant : Option Text} {e : MockEntry} :
    e ∈ lib.allEntries rs tenant
      ↔ (∀ t ∈ tenant, t = e.tenant) ∧ ∃ s, (lib.mocksOf s).lookup e.key = some e := by
  simp only [allEntries, List.mem_flatMap, mem_values, mem_entriesOf_iff]
  constructor
  · rintro ⟨seg, ⟨k, hseg⟩, svc, ⟨s, hsvc⟩, key, hlook, ht⟩
    have hs := h.service hseg hsvc
    subst hs
    have hkey := h.key hseg hsvc hlook
    subst hkey
    refine ⟨ht, s, ?_⟩
    unfold mocksOf
    rw [hseg, Option.bind_some, hsvc, Option.getD_some, hlook]
  · rintro ⟨ht, s, hlook⟩
    cases hsvc : (lib.segments.lookup s).bind fun seg => seg.services.lookup s with
    | none =>
        unfold mocksOf at hlook
        rw [hsvc, Option.getD_none, Finmap.lookup_empty] at hlook
        cases hlook
    | some svc =>
        unfold mocksOf at hlook
        rw [hsvc, Option.getD_some] at hlook
        obtain ⟨seg, hseg, hs⟩ := Option.bind_eq_some_iff.mp hsvc
        exact ⟨seg, ⟨s, hseg⟩, svc, ⟨s, hs⟩, e.key, hlook, ht⟩

-- ============================================================ the services

/-- Every segment holds a mock of its service. -/
def Stocked (lib : MockLibrary) : Prop :=
  ∀ k seg, lib.segments.lookup k = some seg →
    ∃ svc, seg.services.lookup k = some svc ∧ svc ≠ ∅

theorem stocked_new : new.Stocked := by
  intro k seg hseg
  unfold new at hseg
  rw [Finmap.lookup_empty] at hseg
  cases hseg

theorem Stocked.insert {lib : MockLibrary} (h : lib.Stocked) {k : Text} {seg : MockSegment}
    (hseg : ∃ svc, seg.services.lookup k = some svc ∧ svc ≠ ∅) :
    Stocked { segments := lib.segments.insert k seg } := by
  intro k' seg' hlook
  by_cases hk : k' = k
  · subst hk
    rw [Finmap.lookup_insert, Option.some.injEq] at hlook
    exact hlook ▸ hseg
  · rw [Finmap.lookup_insert_of_ne _ hk] at hlook
    exact h k' seg' hlook

theorem Stocked.publish {lib : MockLibrary} (h : lib.Stocked) (s : Text) (e : MockEntry) :
    (lib.publish s e).Stocked := by
  refine Stocked.insert h ⟨_, Finmap.lookup_insert _, ?_⟩
  exact HashMap.insert_ne_empty _ _ _

/-- The names in the segments are the services with a mock. -/
theorem serviceCount_eq {lib : MockLibrary} (hwf : lib.WellFormed) (h : lib.Stocked)
    (rs : RandomState) :
    ∃ services : Finset Text, lib.serviceCount rs = services.card
      ∧ ∀ s, s ∈ services ↔ lib.mocksOf s ≠ ∅ := by
  refine ⟨_, rfl, fun s => ?_⟩
  simp only [List.mem_toFinset, List.mem_flatMap, mem_values, List.mem_map]
  constructor
  · rintro ⟨seg, ⟨k, hseg⟩, ⟨s', svc⟩, hsvc, rfl⟩
    have hk := hwf.service hseg (rs.mem_iter.mp hsvc)
    dsimp only at hk ⊢
    subst hk
    obtain ⟨svc', hsvc', hne⟩ := h s' seg hseg
    unfold mocksOf
    rw [hseg, Option.bind_some, hsvc']
    exact hne
  · intro hne
    cases hsvc : (lib.segments.lookup s).bind fun seg => seg.services.lookup s with
    | none =>
        unfold mocksOf at hne
        rw [hsvc] at hne
        exact absurd rfl hne
    | some svc =>
        obtain ⟨seg, hseg, hs⟩ := Option.bind_eq_some_iff.mp hsvc
        exact ⟨seg, ⟨s, hseg⟩, ⟨s, svc⟩, rs.mem_iter.mpr hs, rfl⟩

end MockLibrary

-- ================================================================= the runs

section Runs

variable (codec : EntryCodec) (rs : RandomState)

theorem stocked_segmentOf {s content : Text} {seg : MockSegment}
    (h : segmentOf codec s content = some seg) :
    ∃ svc, seg.services.lookup s = some svc ∧ svc ≠ ∅ := by
  unfold segmentOf at h
  by_cases h0 : (readMocks codec content).size = 0
  · simp only [if_pos h0] at h
    cases h
  · simp only [if_neg h0, Option.some.injEq] at h
    subst h
    exact ⟨_, Finmap.lookup_singleton_eq, fun hempty => h0 (HashMap.size_eq_zero.mpr hempty)⟩

theorem stocked_loadAll (dir : Dir) : (loadAllServiceMocks codec rs dir).2.Stocked := by
  intro k seg hseg
  rw [lookup_loadAll, Option.bind_eq_some_iff] at hseg
  obtain ⟨content, -, hseg⟩ := hseg
  exact stocked_segmentOf codec hseg

theorem stocked_reloadOneFile {lib : MockLibrary} (h : lib.Stocked) (dir : Dir)
    (fname : Text) : (reloadOneFile codec rs dir fname lib).2.Stocked := by
  cases hsvc : svcIdOf fname with
  | none =>
      rw [reloadOneFile_of_not_mock codec rs hsvc]
      exact h
  | some s =>
      rw [eq_mockFileName_of_svcIdOf hsvc, reloadOneFile_snd]
      cases hseg : (dir.lookup (mockFileName s)).bind (segmentOf codec s) with
      | none =>
          intro k seg hlook
          have hk : k ≠ s := by
            rintro rfl
            rw [MockLibrary.setSegment, Finmap.lookup_erase] at hlook
            cases hlook
          rw [MockLibrary.setSegment, Finmap.lookup_erase_ne hk] at hlook
          exact h k seg hlook
      | some seg =>
          obtain ⟨content, -, hcontent⟩ := Option.bind_eq_some_iff.mp hseg
          exact h.insert (stocked_segmentOf codec hcontent)

variable {codec} {env : Externals} {cfg : Config}

/-- No operation leaves an empty segment behind. -/
theorem Reachable.stocked {st : AppState} (h : Reachable env cfg codec st) :
    st.mocks.Stocked := by
  induction h with
  | boot st source =>
      cases source with
      | none => exact MockLibrary.stocked_new
      | some source => exact stocked_loadAll codec source.1 source.2
  | @step st _ action ih =>
      cases action with
      | request mode upstreams call =>
          show (GostlyProxy.handle env cfg _ call).1.mocks.Stocked
          rw [handle_mocks]
          cases published env cfg { st with mode := mode, upstreams := upstreams } call with
          | none => exact ih
          | some p => exact ih.publish p.1 p.2
      | createMock entry => exact ih.publish _ _
      | admin call => cases call <;> exact ih
      | reloadFull rs dir => exact stocked_loadAll codec rs dir
      | reloadOneFile rs dir fname => exact stocked_reloadOneFile codec rs ih dir fname

theorem servable_iff {lib : MockLibrary} (h : lib.WellFormed) {s : Text} :
    lib.mocksOf s ≠ ∅ ↔ ∃ rs m u t e, lib.findExact rs s m u t = some e := by
  constructor
  · intro hne
    by_contra hnone
    apply hne
    apply Finmap.ext_lookup
    rintro ⟨m, u, t⟩
    rw [Finmap.lookup_empty]
    cases hlook : (lib.mocksOf s).lookup (m, u, t) with
    | none => rfl
    | some e =>
        exact absurd ⟨default, m, u, t, e, (MockLibrary.findExact_eq h _ s m u t).trans hlook⟩
          hnone
  · rintro ⟨rs, m, u, t, e, hfind⟩ hempty
    rw [MockLibrary.findExact_eq h, hempty, Finmap.lookup_empty] at hfind
    cases hfind

/-- What the admin routes show of the library is what the proxy can serve
from it: the list is the mocks that exact lookups find, filtered by tenant,
and both counts count them and their services. -/
theorem admin_reads_agree {st : AppState} (h : Reachable env cfg codec st) :
    (∀ rs rs', (handleHealth rs st).mockCount = (handleListMocks rs' st ∅).count)
      ∧ (∀ rs params e, e ∈ (handleListMocks rs st params).mocks
        ↔ (∀ t ∈ params.lookup ("tenant" : Text), t = e.tenant)
          ∧ ∃ svc, ∀ rs', st.mocks.findExact rs' svc e.request.method e.request.uri e.tenant
            = some e)
      ∧ ∀ rs, ∃ services : Finset Text, (handleHealth rs st).services = services.card
        ∧ ∀ svc, svc ∈ services
          ↔ ∃ rs' m u t e, st.mocks.findExact rs' svc m u t = some e := by
  refine ⟨fun rs rs' => ?_, fun rs params e => ?_, fun rs => ?_⟩
  · unfold handleHealth handleListMocks
    rw [Finmap.lookup_empty]
    exact st.mocks.totalCount_eq rs rs'
  · unfold handleListMocks
    dsimp only
    rw [MockLibrary.mem_allEntries h.wellFormed]
    refine and_congr_right fun _ => exists_congr fun svc => ?_
    simp only [MockLibrary.findExact_eq h.wellFormed]
    exact ⟨fun hlook _ => hlook, fun hlook => hlook default⟩
  · obtain ⟨services, hcard, hmem⟩ := MockLibrary.serviceCount_eq h.wellFormed h.stocked rs
    exact ⟨services, hcard, fun svc => (hmem svc).trans (servable_iff h.wellFormed)⟩

end Runs

-- ============================================= two services, two tenants

/-- A mock of one tenant of one service. -/
def tenantMock (service tenant uri : Text) : MockEntry :=
  { getEntry uri "ok" with serviceId := some service, tenant := tenant }

/-- Billing has a mock for each of two tenants, orders has one. -/
def postedMocks : List MockEntry :=
  [tenantMock "billing" "blue" "/a", tenantMock "billing" "green" "/a",
    tenantMock "orders" "blue" "/b"]

def postedProxy : AppState :=
  postedMocks.foldl (fun st entry => (handleCreateMock st entry).1) emptyProxy

theorem reachable_postedProxy : Reachable default Config.new sampleCodec postedProxy :=
  (((Reachable.boot emptyProxy none).step (.createMock _)).step (.createMock _)).step
    (.createMock _)

/-- What an exact lookup finds there. -/
theorem findExact_postedProxy (rs : RandomState) (svc m u t : Text) (e : MockEntry) :
    postedProxy.mocks.findExact rs svc m u t = some e
      ↔ e ∈ postedMocks ∧ e.serviceId = some svc ∧ e.key = (m, u, t) := by
  have hmocks : postedProxy.mocks = ((MockLibrary.new.publish "billing"
      (tenantMock "billing" "blue" "/a")).publish "billing"
      (tenantMock "billing" "green" "/a")).publish "orders" (tenantMock "orders" "blue" "/b") :=
    rfl
  rw [MockLibrary.findExact_eq reachable_postedProxy.wellFormed, hmocks]
  simp only [MockLibrary.mocksOf_publish, MockLibrary.mocksOf_new, postedMocks, List.mem_cons,
    List.not_mem_nil, or_false]
  by_cases horders : svc = "orders"
  · subst horders
    simp only [if_true, show ("orders" : Text) ≠ "billing" by decide, if_false,
      HashMap.lookup_insert_eq_ite, Finmap.lookup_empty]
    grind [tenantMock]
  · by_cases hbilling : svc = "billing"
    · subst hbilling
      simp only [if_neg horders, if_true, HashMap.lookup_insert_eq_ite, Finmap.lookup_empty]
      have hne : (tenantMock "billing" "blue" "/a").key
          ≠ (tenantMock "billing" "green" "/a").key := by decide
      constructor
      · intro hlook
        split at hlook
        · next hgreen =>
            cases hlook
            exact ⟨Or.inr (Or.inl rfl), rfl, hgreen.symm⟩
        · split at hlook
          · next hblue =>
              cases hlook
              exact ⟨Or.inl rfl, rfl, hblue.symm⟩
          · cases hlook
      · rintro ⟨rfl | rfl | rfl, hsvc, hkey⟩
        · rw [if_neg (hkey ▸ hne), if_pos hkey.symm]
        · rw [if_pos hkey.symm]
        · exact absurd hsvc (by decide)
    · simp only [if_neg horders, if_neg hbilling, Finmap.lookup_empty]
      grind [tenantMock]

/-- What is served there is what was posted. -/
theorem served_postedProxy (e : MockEntry) :
    (∃ svc, ∀ rs, postedProxy.mocks.findExact rs svc e.request.method e.request.uri e.tenant
      = some e) ↔ e ∈ postedMocks := by
  simp only [findExact_postedProxy, forall_const]
  constructor
  · rintro ⟨svc, hmem, -⟩
    exact hmem
  · intro hmem
    refine ⟨e.serviceId.getD [], hmem, ?_, rfl⟩
    simp only [postedMocks, List.mem_cons, List.not_mem_nil, or_false] at hmem
    rcases hmem with rfl | rfl | rfl <;> rfl

/-- The two services have something to serve. -/
theorem services_postedProxy (svc : Text) :
    (∃ rs m u t e, postedProxy.mocks.findExact rs svc m u t = some e)
      ↔ svc = "billing" ∨ svc = "orders" := by
  simp only [findExact_postedProxy]
  constructor
  · rintro ⟨-, m, u, t, e, hmem, hsvc, -⟩
    simp only [postedMocks, List.mem_cons, List.not_mem_nil, or_false] at hmem
    rcases hmem with rfl | rfl | rfl
    · exact Or.inl (Option.some.inj hsvc).symm
    · exact Or.inl (Option.some.inj hsvc).symm
    · exact Or.inr (Option.some.inj hsvc).symm
  · rintro (rfl | rfl)
    · exact ⟨default, _, _, _, tenantMock "billing" "blue" "/a", List.mem_cons_self, rfl, rfl⟩
    · exact ⟨default, _, _, _, tenantMock "orders" "blue" "/b", by simp [postedMocks], rfl, rfl⟩

/-- Three mocks were posted: both lists show what was posted for their
tenants, health counts as many mocks as the list does, and two services. -/
theorem admin_reads_agree_postedProxy :
    (∀ rs rs', (handleHealth rs postedProxy).mockCount
        = (handleListMocks rs' postedProxy ∅).count)
      ∧ (∀ rs e, e ∈ (handleListMocks rs postedProxy ∅).mocks ↔ e ∈ postedMocks)
      ∧ (∀ rs e, e ∈ (handleListMocks rs postedProxy
          (Finmap.singleton ("tenant" : Text) ("blue" : Text))).mocks
        ↔ e = tenantMock "billing" "blue" "/a" ∨ e = tenantMock "orders" "blue" "/b")
      ∧ ∀ rs, (handleHealth rs postedProxy).services = 2 := by
  obtain ⟨hcount, hlist, hservices⟩ := admin_reads_agree reachable_postedProxy
  refine ⟨hcount, fun rs e => ?_, fun rs e => ?_, fun rs => ?_⟩
  · rw [hlist, served_postedProxy]
    simp
  · rw [hlist, served_postedProxy, Finmap.lookup_singleton_eq]
    simp only [postedMocks, List.mem_cons, List.not_mem_nil, or_false, Option.mem_def,
      Option.some.injEq, forall_eq']
    constructor
    · rintro ⟨htenant, rfl | rfl | rfl⟩
      · exact Or.inl rfl
      · exact absurd htenant (by decide)
      · exact Or.inr rfl
    · rintro (rfl | rfl)
      · exact ⟨rfl, Or.inl rfl⟩
      · exact ⟨rfl, Or.inr (Or.inr rfl)⟩
  · obtain ⟨services, hcard, hmem⟩ := hservices rs
    have htwo : services = {("billing" : Text), ("orders" : Text)} := by
      ext svc
      rw [hmem, services_postedProxy, Finset.mem_insert, Finset.mem_singleton]
    rw [hcard, htwo]
    decide

end GostlyProxy
