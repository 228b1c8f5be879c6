/-
One file at a time, or all of them.

`load_all_service_mocks` rebuilds every segment; `reload_one_file` patches
the one segment its path names. `reloadEach` patches for a list of paths,
one after another, on the directory as the patches before left it.

# The argument

A library is right about a service when its segment is what the service's
file means (`Means`). Neither way of loading changes what a file means: a
rewritten file is compacted, and compaction keeps the map. So the old
library is right about every file that was not edited, a patch makes it
right about its own file, and no patch makes it wrong about another: after
the patches it is right about all, as a full load is.
-/
import GostlyProxy.Proofs.Codec
import GostlyProxy.Proofs.Disk

namespace GostlyProxy

open Lib

section Reload

variable (codec : EntryCodec)

/-- Reload the files of some paths, one after another, each in its own
hash order. -/
def reloadEach (s : Dir × MockLibrary) (paths : List (RandomState × Text)) :
    Dir × MockLibrary :=
  paths.foldl (fun s p => reloadOneFile codec p.1 s.1 p.2 s.2) s

-- ================================================== what a file means

/-- The segment the file of a service means, if there is one. -/
def meaning (dir : Dir) (s : Text) : Option MockSegment :=
  (dir.lookup (mockFileName s)).bind (segmentOf codec s)

variable {codec}

/-- A compacted text means what the text meant. -/
theorem segmentOf_compact (hcodec : codec.Lawful) (rs : RandomState) (s : Text)
    {content : Text} (h0 : (readMocks codec content).size ≠ 0) :
    segmentOf codec s (compact codec rs (readMocks codec content))
      = segmentOf codec s content := by
  unfold segmentOf
  rw [readMocks_compact hcodec rs h0 fun _ _ => readMocks_key]

/-- Loading a file changes the meaning of no file. -/
theorem meaning_loadOneSegment (hcodec : codec.Lawful) (rs : RandomState) (dir : Dir)
    (fname s : Text) :
    meaning codec (loadOneSegment codec rs dir fname).1 s = meaning codec dir s := by
  unfold meaning
  by_cases hf : mockFileName s = fname
  · subst hf
    unfold loadOneSegment
    rw [svcIdOf_mockFileName]
    cases hlook : dir.lookup (mockFileName s) with
    | none => simp [hlook]
    | some content =>
        by_cases h0 : (readMocks codec content).size = 0
        · simp [h0, hlook]
        · simp only [if_neg h0, replaceFile, Finmap.lookup_insert, Option.bind_some]
          exact segmentOf_compact hcodec rs s h0
  · rw [loadOneSegment_fst_ne codec rs hf]

theorem fst_loadNext (rs : RandomState) (acc : Dir × MockLibrary) (fname : Text) :
    (loadNext codec rs acc fname).1 = (loadOneSegment codec rs acc.1 fname).1 := by
  unfold loadNext
  rcases loadOneSegment codec rs acc.1 fname with ⟨dir, _ | ⟨svc, seg⟩⟩ <;> rfl

/-- Nor does a full load, which compacts every file it reads. -/
theorem meaning_loadAll (hcodec : codec.Lawful) (rs : RandomState) (dir : Dir) (s : Text) :
    meaning codec (loadAllServiceMocks codec rs dir).1 s = meaning codec dir s := by
  have hscan : ∀ (fnames : List Text) (acc : Dir × MockLibrary),
      meaning codec (fnames.foldl (loadNext codec rs) acc).1 s = meaning codec acc.1 s := by
    intro fnames
    induction fnames with
    | nil => intro acc; rfl
    | cons fname fnames ih =>
        intro acc
        rw [List.foldl_cons, ih, fst_loadNext, meaning_loadOneSegment hcodec]
  exact hscan _ _

theorem fst_reloadOneFile (rs : RandomState) (dir : Dir) (fname : Text) (lib : MockLibrary) :
    (reloadOneFile codec rs dir fname lib).1 = (loadOneSegment codec rs dir fname).1 := by
  unfold reloadOneFile
  cases hsvc : svcIdOf fname with
  | none => rw [loadOneSegment_of_not_mock codec rs hsvc]
  | some svc => rfl

-- ================================================== being right

variable (codec) in
/-- The library holds what the service's file means. -/
def Means (s : Dir × MockLibrary) (svc : Text) : Prop :=
  s.2.segments.lookup svc = meaning codec s.1 svc

theorem means_loadAll (rs : RandomState) (dir : Dir) (svc : Text) :
    (loadAllServiceMocks codec rs dir).2.segments.lookup svc = meaning codec dir svc :=
  lookup_loadAll codec rs dir svc

theorem lookup_setSegment (lib : MockLibrary) (s svc : Text) (seg : Option MockSegment) :
    (lib.setSegment s seg).segments.lookup svc
      = if svc = s then seg else lib.segments.lookup svc := by
  by_cases hs : svc = s
  · subst hs
    cases seg <;> simp [MockLibrary.setSegment]
  · cases seg <;> simp [MockLibrary.setSegment, hs]

/-- A patch makes the library right about its own file. -/
theorem means_reloadOneFile_self (hcodec : codec.Lawful) (rs : RandomState)
    (s : Dir × MockLibrary) (svc : Text) :
    Means codec (reloadOneFile codec rs s.1 (mockFileName svc) s.2) svc := by
  unfold Means
  rw [reloadOneFile_snd, lookup_setSegment, if_pos rfl, fst_reloadOneFile,
    meaning_loadOneSegment hcodec]
  rfl

/-- A patch leaves the library right where it was. -/
theorem Means.reloadOneFile (hcodec : codec.Lawful) {s : Dir × MockLibrary} {svc : Text}
    (h : Means codec s svc) (rs : RandomState) (fname : Text) :
    Means codec (reloadOneFile codec rs s.1 fname s.2) svc := by
  cases hsvc : svcIdOf fname with
  | none =>
      rw [reloadOneFile_of_not_mock codec rs hsvc]
      exact h
  | some svc' =>
      have hname := eq_mockFileName_of_svcIdOf hsvc
      subst hname
      by_cases hs : svc = svc'
      · subst hs
        exact means_reloadOneFile_self hcodec rs s svc
      · unfold Means
        rw [reloadOneFile_snd, lookup_setSegment, if_neg hs, fst_reloadOneFile,
          meaning_loadOneSegment hcodec]
        exact h

/-- What the patches leave: the files mean what they meant, and the library
is right about every file it was right about or that was patched. -/
theorem reloadEach_spec (hcodec : codec.Lawful) (svc : Text) :
    ∀ (paths : List (RandomState × Text)) (s : Dir × MockLibrary),
      (Means codec s svc ∨ mockFileName svc ∈ paths.map (·.2)) →
        Means codec (reloadEach codec s paths) svc
          ∧ meaning codec (reloadEach codec s paths).1 svc = meaning codec s.1 svc := by
  intro paths
  induction paths with
  | nil =>
      intro s h
      rcases h with h | h
      · exact ⟨h, rfl⟩
      · simp at h
  | cons p paths ih =>
      intro s h
      have hnext : Means codec (reloadOneFile codec p.1 s.1 p.2 s.2) svc
          ∨ mockFileName svc ∈ paths.map (·.2) := by
        rcases h with h | h
        · exact Or.inl (h.reloadOneFile hcodec p.1 p.2)
        · rcases List.mem_cons.1 h with hp | h
          · refine Or.inl ?_
            have hself := means_reloadOneFile_self hcodec p.1 s svc
            rwa [hp] at hself
          · exact Or.inr h
      obtain ⟨hmeans, hmeaning⟩ := ih _ hnext
      refine ⟨hmeans, ?_⟩
      show meaning codec (reloadEach codec (reloadOneFile codec p.1 s.1 p.2 s.2) paths).1 svc
        = meaning codec s.1 svc
      rw [hmeaning, fst_reloadOneFile, meaning_loadOneSegment hcodec]

variable (codec) in
/-- Patching the edited files, in any order, with repetitions and with any
other paths among them, gives the library of a full load. -/
theorem reloadEach_eq_loadAll (hcodec : codec.Lawful) (rs rs' : RandomState)
    (before after : Dir) (paths : List (RandomState × Text))
    (hedited : ∀ fname, (loadAllServiceMocks codec rs before).1.lookup fname
      ≠ after.lookup fname → fname ∈ paths.map (·.2)) :
    (reloadEach codec (after, (loadAllServiceMocks codec rs before).2) paths).2.segments
      = (loadAllServiceMocks codec rs' after).2.segments := by
  apply Finmap.ext_lookup
  intro svc
  have hstart : Means codec (after, (loadAllServiceMocks codec rs before).2) svc
      ∨ mockFileName svc ∈ paths.map (·.2) := by
    by_cases hsame : (loadAllServiceMocks codec rs before).1.lookup (mockFileName svc)
        = after.lookup (mockFileName svc)
    · refine Or.inl ?_
      have hmeaning := meaning_loadAll hcodec rs before svc
      unfold meaning at hmeaning
      show (loadAllServiceMocks codec rs before).2.segments.lookup svc
        = meaning codec after svc
      rw [means_loadAll, meaning, meaning, ← hsame, hmeaning]
    · exact Or.inr (hedited _ hsame)
  obtain ⟨hmeans, hmeaning⟩ := reloadEach_spec hcodec svc paths _ hstart
  rw [means_loadAll]
  exact hmeans.trans hmeaning

end Reload

/-- A file renamed from one service to another: the new file, a temporary
file and the old file are patched. -/
theorem reloadEach_eq_loadAll_renamed :
    (reloadEach sampleCodec
        (Finmap.singleton (mockFileName "b") (sampleCodec.print entryA),
          (loadAllServiceMocks sampleCodec default
            (Finmap.singleton (mockFileName "a") (sampleCodec.print entryA))).2)
        [(default, mockFileName "b"), (default, tmpName (mockFileName "a")),
          (default, mockFileName "a")]).2.segments
      = (loadAllServiceMocks sampleCodec default
          (Finmap.singleton (mockFileName "b") (sampleCodec.print entryA))).2.segments := by
  apply reloadEach_eq_loadAll sampleCodec sampleCodec_lawful
  intro fname hne
  by_contra hmem
  simp only [List.map_cons, List.map_nil, List.mem_cons, List.not_mem_nil, or_false,
    not_or] at hmem
  obtain ⟨hb, htmp, ha⟩ := hmem
  apply hne
  have hnone : ∀ {name : Text} {content : Text}, fname ≠ name →
      (Finmap.singleton name content : Dir).lookup fname = none := by
    intro name content h
    rw [Finmap.lookup_eq_none, Finmap.mem_singleton]
    exact h
  rw [hnone hb]
  unfold loadAllServiceMocks
  rw [RandomState.iter_singleton]
  simp only [List.map_cons, List.map_nil, List.foldl_cons, List.foldl_nil, fst_loadNext]
  unfold loadOneSegment
  rw [svcIdOf_mockFileName, Finmap.lookup_singleton_eq]
  dsimp only
  split
  · exact hnone ha
  · rw [lookup_replaceFile_ne ha htmp, hnone ha]

end GostlyProxy
