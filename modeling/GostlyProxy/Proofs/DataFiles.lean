/-
The files say what memory holds, call by call.

`LibrarySync` is that every service's segment is what its mock file means,
and `ResourceSync` that every service's resources are what its resource
file says, with files of complete lines. A publish followed by its append
keeps the one, an update followed by its append the other, and so does
loading, which compacts the files: a library or a store that is loaded from
such files is the one that is live.
-/
import GostlyProxy.Model.Process
import GostlyProxy.Proofs.Compaction
import GostlyProxy.Proofs.Reload

namespace GostlyProxy

open Lib

/-- A service whose files are loaded under its name. -/
structure PlainService (svc : Text) : Prop where
  isFileName : isFileName svc = true
  noSuffix : Text.endsWith svc resourceSuffix = false

theorem PlainService.mockFile {svc : Text} (h : PlainService svc) :
    GostlyProxy.isFileName (mockFileName svc) = true := by
  have hsvc := h.isFileName
  unfold GostlyProxy.isFileName mockFileName at *
  rw [List.all_append, List.all_append, hsvc]
  decide

theorem PlainService.resourceFile {svc : Text} (h : PlainService svc) :
    GostlyProxy.isFileName (resourceFileName svc) = true := by
  have hsvc := h.isFileName
  unfold GostlyProxy.isFileName resourceFileName at *
  rw [List.all_append, hsvc]
  decide

theorem plainService_global : PlainService globalTenant := ⟨by decide, by decide⟩

-- =============================================================== the mocks

section Library

variable {codec : EntryCodec} {lib : MockLibrary} {dir : Dir}

/-- Every segment is what the service's mock file means. -/
structure LibrarySync (codec : EntryCodec) (lib : MockLibrary) (dir : Dir) : Prop where
  means : ∀ svc, Means codec (dir, lib) svc
  terminated : ∀ svc text, dir.lookup (mockFileName svc) = some text →
    Text.NewlineTerminated text

theorem librarySync_fresh : LibrarySync codec MockLibrary.new ∅ where
  means := fun svc => by
    unfold Means meaning
    rw [Finmap.lookup_empty]
    rfl
  terminated := fun svc text h => by
    rw [Finmap.lookup_empty] at h
    cases h

variable (codec) in
/-- The segment of a file is the one of its map, or the empty one. -/
theorem getD_segmentOf (svc : Text) (content : Option Text) :
    (content.bind (segmentOf codec svc)).getD MockSegment.default
        = ⟨Finmap.singleton svc (readMocks codec (content.getD []))⟩
      ∨ (content.bind (segmentOf codec svc)).getD MockSegment.default = MockSegment.default
        ∧ readMocks codec (content.getD []) = ∅ := by
  cases content with
  | none => exact Or.inr ⟨rfl, rfl⟩
  | some text =>
      rw [Option.bind_some, Option.getD_some, segmentOf]
      by_cases h0 : (readMocks codec text).size = 0
      · simp only [if_pos h0]
        exact Or.inr ⟨rfl, HashMap.size_eq_zero.mp h0⟩
      · simp only [if_neg h0]
        exact Or.inl rfl

/-- One more line in a mock file is one more entry in its segment. -/
theorem segmentOf_append (hcodec : codec.Lawful) (svc : Text) (content : Option Text)
    (hterminated : ∀ text, content = some text → Text.NewlineTerminated text) (e : MockEntry) :
    segmentOf codec svc (content.getD [] ++ (codec.print e ++ ['\n']))
      = some (((content.bind (segmentOf codec svc)).getD MockSegment.default).insertEntry svc
          e) := by
  have hget : Text.NewlineTerminated (content.getD []) := by
    cases content with
    | none => exact Or.inl rfl
    | some text => exact hterminated text rfl
  let old := readMocks codec (content.getD [])
  have hsize : HashMap.size (old.insert e.key e) ≠ 0 := by
    rw [Ne, HashMap.size_eq_zero]
    exact HashMap.insert_ne_empty _ _ _
  have hnew : segmentOf codec svc (content.getD [] ++ (codec.print e ++ ['\n']))
      = some ⟨Finmap.singleton svc (old.insert e.key e)⟩ := by
    unfold segmentOf
    rw [readMocks_append hcodec hget e]
    exact if_neg hsize
  rw [hnew]
  rcases getD_segmentOf codec svc content with hseg | ⟨hseg, hempty⟩
  · rw [hseg, MockSegment.insertEntry, Finmap.lookup_singleton_eq, Option.getD_some,
      Finmap.insert_singleton_eq]
  · rw [hseg]
    show some (MockSegment.mk (Finmap.singleton svc ((readMocks codec (content.getD [])).insert
      e.key e))) = _
    rw [hempty]
    rfl

/-- A publish and its append. -/
theorem LibrarySync.publish (hcodec : codec.Lawful) (h : LibrarySync codec lib dir) (svc : Text)
    (e : MockEntry) :
    LibrarySync codec (lib.publish svc e) (appendToMockLog dir svc (codec.print e)) where
  means := fun other => by
    unfold Means meaning appendToMockLog
    rw [MockLibrary.publish_segments]
    by_cases hother : other = svc
    · subst hother
      rw [Finmap.lookup_insert, Finmap.lookup_insert, Option.bind_some,
        segmentOf_append hcodec other _ (fun text htext => h.terminated other text htext)]
      congr 2
      congr 1
      exact h.means other
    · rw [Finmap.lookup_insert_of_ne _ hother,
        Finmap.lookup_insert_of_ne _ (mockFileName_injective.ne hother)]
      exact h.means other
  terminated := fun other text hfile => by
    unfold appendToMockLog at hfile
    by_cases hother : other = svc
    · subst hother
      rw [Finmap.lookup_insert, Option.some.injEq] at hfile
      rw [← hfile]
      exact Text.newlineTerminated_append_line _ _
    · rw [Finmap.lookup_insert_of_ne _ (mockFileName_injective.ne hother)] at hfile
      exact h.terminated other text hfile

/-- Only one library is what the files mean. -/
theorem LibrarySync.unique (h : LibrarySync codec lib dir) {lib' : MockLibrary}
    (h' : ∀ svc, Means codec (dir, lib') svc) : lib' = lib := by
  cases lib with
  | mk segments =>
      cases lib' with
      | mk segments' =>
          congr 1
          apply Finmap.ext_lookup
          intro svc
          exact (h' svc).trans (h.means svc).symm

/-- A file is left as it was, or rewritten line by line. -/
theorem terminated_loadOneSegment (rs : RandomState) (fname : Text)
    (h : ∀ svc text, dir.lookup (mockFileName svc) = some text → Text.NewlineTerminated text)
    (svc text : Text)
    (hfile : (loadOneSegment codec rs dir fname).1.lookup (mockFileName svc) = some text) :
    Text.NewlineTerminated text := by
  by_cases hf : mockFileName svc = fname
  · subst hf
    cases hlook : dir.lookup (mockFileName svc) with
    | none =>
        unfold loadOneSegment at hfile
        rw [svcIdOf_mockFileName] at hfile
        dsimp only at hfile
        rw [hlook] at hfile
        cases hlook.symm.trans hfile
    | some content =>
        by_cases hsome : parseLines codec content = []
        · rw [loadOneSegment_of_unreadable codec rs hlook hsome] at hfile
          exact h svc text hfile
        · rw [loadOneSegment_of_readable codec rs hlook hsome] at hfile
          dsimp only at hfile
          rw [lookup_replaceFile, Option.some.injEq] at hfile
          exact Or.inr ⟨_, hfile.symm⟩
  · rw [loadOneSegment_fst_ne codec rs hf] at hfile
    exact h svc text hfile

theorem terminated_loadAll (rs : RandomState)
    (h : ∀ svc text, dir.lookup (mockFileName svc) = some text → Text.NewlineTerminated text)
    (svc text : Text)
    (hfile : (loadAllServiceMocks codec rs dir).1.lookup (mockFileName svc) = some text) :
    Text.NewlineTerminated text := by
  have hscan : ∀ (fnames : List Text) (acc : Dir × MockLibrary),
      (∀ svc text, acc.1.lookup (mockFileName svc) = some text → Text.NewlineTerminated text) →
      ∀ svc text, (fnames.foldl (loadNext codec rs) acc).1.lookup (mockFileName svc) = some text →
        Text.NewlineTerminated text := by
    intro fnames
    induction fnames with
    | nil => exact fun acc hacc => hacc
    | cons fname fnames ih =>
        intro acc hacc
        apply ih
        rw [fst_loadNext]
        exact terminated_loadOneSegment rs fname hacc
  exact hscan _ _ h svc text hfile

/-- A full load of the files gives the library that is live. -/
theorem LibrarySync.loadAll (hcodec : codec.Lawful) (h : LibrarySync codec lib dir)
    (rs : RandomState) :
    (loadAllServiceMocks codec rs dir).2 = lib
      ∧ LibrarySync codec lib (loadAllServiceMocks codec rs dir).1 := by
  refine ⟨h.unique (means_loadAll rs dir), fun svc => ?_, terminated_loadAll rs h.terminated⟩
  unfold Means
  rw [meaning_loadAll hcodec]
  exact h.means svc

/-- So does a load of one file. -/
theorem LibrarySync.reloadOneFile (hcodec : codec.Lawful) (h : LibrarySync codec lib dir)
    (rs : RandomState) (fname : Text) :
    (reloadOneFile codec rs dir fname lib).2 = lib
      ∧ LibrarySync codec lib (reloadOneFile codec rs dir fname lib).1 := by
  have hmeaning : ∀ svc, meaning codec (GostlyProxy.reloadOneFile codec rs dir fname lib).1 svc
      = meaning codec dir svc := fun svc => by
    rw [fst_reloadOneFile, meaning_loadOneSegment hcodec]
  have hsame : (GostlyProxy.reloadOneFile codec rs dir fname lib).2 = lib :=
    h.unique fun svc => by
      have hright : Means codec (GostlyProxy.reloadOneFile codec rs dir fname lib) svc :=
        (h.means svc).reloadOneFile hcodec rs fname
      unfold Means at hright ⊢
      rw [hright, hmeaning svc]
  refine ⟨hsame, fun svc => ?_, fun svc text hfile => ?_⟩
  · unfold Means
    rw [hmeaning svc]
    exact h.means svc
  · rw [fst_reloadOneFile] at hfile
    exact terminated_loadOneSegment rs fname h.terminated svc text hfile

end Library

-- ============================================================ the resources

section Resources

variable {codec : ResourceCodec} {byService : HashMap Text ServiceResources} {dir : Dir}

/-- The bucket a file's text is loaded as, if it is. -/
def bucketOf (codec : ResourceCodec) (content : Text) : Option ServiceResources :=
  if parseResources codec content = [] then none else some (readResources codec content)

/-- A resource file as the appends and the compactions leave it. -/
structure ResourceFile (codec : ResourceCodec) (fname content : Text) : Prop where
  name : ∃ svc, fname = resourceFileName svc ∧ Text.endsWith svc resourceSuffix = false
  terminated : Text.NewlineTerminated content
  roundTrips : ∀ r ∈ parseResources codec content, codec.RoundTrips r

/-- Every service's resources are what its file says. -/
structure ResourceSync (codec : ResourceCodec) (byService : HashMap Text ServiceResources)
    (dir : Dir) : Prop where
  means : ∀ svc, byService.lookup svc = (dir.lookup (resourceFileName svc)).bind (bucketOf codec)
  files : ∀ fname content, dir.lookup fname = some content → ResourceFile codec fname content

theorem resourceSync_fresh : ResourceSync codec ∅ ∅ where
  means := fun svc => by
    rw [Finmap.lookup_empty, Finmap.lookup_empty]
    rfl
  files := fun fname content h => by
    rw [Finmap.lookup_empty] at h
    cases h

theorem readResources_eq (content : Text) :
    readResources codec content
      = lastWrites ResourceState.key (parseResources codec content) := rfl

/-- One more line in a resource file is one more resource. -/
theorem parseResources_append {content : Text} (hterminated : Text.NewlineTerminated content)
    {r : ResourceState} (hround : codec.RoundTrips r) :
    parseResources codec (content ++ (persistWrites codec r).flatten)
      = parseResources codec content ++ [r] := by
  have hflat : (persistWrites codec r).flatten = codec.print r ++ ['\n'] := by
    simp [persistWrites]
  have hblank : (Text.trim (codec.print r)).isEmpty = false := by
    rw [List.isEmpty_eq_false_iff]
    exact hround.nonblank
  unfold parseResources rawLines
  rw [hflat, Text.lines_append_line hterminated hround.isLine]
  simp [List.filter_append, hblank, hround.parse_print]

/-- A stored resource is stored under its own key. -/
theorem ResourceSync.key (h : ResourceSync codec byService dir) {svc coll id : Text}
    {bucket : ServiceResources} {r : ResourceState} (hbucket : byService.lookup svc = some bucket)
    (hr : bucket.lookup (coll, id) = some r) : r.collection = coll ∧ r.id = id := by
  rw [h.means svc, Option.bind_eq_some_iff] at hbucket
  obtain ⟨content, -, hcontent⟩ := hbucket
  unfold bucketOf at hcontent
  split at hcontent
  · cases hcontent
  · cases hcontent
    have hkey : r.key = (coll, id) := key_of_lookup hr
    exact ⟨congrArg Prod.fst hkey, congrArg Prod.snd hkey⟩

theorem getD_bucketOf (content : Option Text) :
    (content.bind (bucketOf codec)).getD ∅ = readResources codec (content.getD []) := by
  cases content with
  | none => rfl
  | some text =>
      rw [Option.bind_some, Option.getD_some, bucketOf]
      split
      · next hnone =>
          rw [readResources_eq, hnone]
          rfl
      · rfl

/-- An update and its append. -/
theorem ResourceSync.put {store : ResourceStore} (h : ResourceSync codec store.byService dir)
    {svc : Text} (hsvc : PlainService svc) {r : ResourceState} (hround : codec.RoundTrips r) :
    ResourceSync codec (store.put svc r.collection r.id r).byService
      (persistJsonl codec dir svc r) := by
  let old := (dir.lookup (resourceFileName svc)).getD []
  have hterminated : Text.NewlineTerminated old := by
    cases hfile : dir.lookup (resourceFileName svc) with
    | none =>
        simp only [old, hfile]
        exact Or.inl rfl
    | some content =>
        simp only [old, hfile]
        exact (h.files _ content hfile).terminated
  have hold : ∀ r' ∈ parseResources codec old, codec.RoundTrips r' := by
    intro r' hr'
    cases hfile : dir.lookup (resourceFileName svc) with
    | none =>
        simp only [old, hfile] at hr'
        cases hr'
    | some content =>
        simp only [old, hfile] at hr'
        exact (h.files _ content hfile).roundTrips r' hr'
  have hparsed := parseResources_append hterminated hround
  have hdir : persistJsonl codec dir svc r
      = dir.insert (resourceFileName svc) (old ++ (persistWrites codec r).flatten) :=
    if_pos hsvc.resourceFile
  rw [hdir]
  refine ⟨fun other => ?_, fun fname content hfile => ?_⟩
  · show (store.byService.insert svc (((store.byService.lookup svc).getD ∅).insert
      (r.collection, r.id) r)).lookup other = _
    by_cases hother : other = svc
    · subst hother
      have hbucket : bucketOf codec (old ++ (persistWrites codec r).flatten)
          = some ((readResources codec old).insert r.key r) := by
        rw [bucketOf, hparsed, if_neg (List.append_ne_nil_of_right_ne_nil _ (List.cons_ne_nil _ _)),
          readResources_eq, hparsed, lastWrites_append]
        rfl
      rw [Finmap.lookup_insert, Finmap.lookup_insert, Option.bind_some, hbucket, h.means other,
        getD_bucketOf]
      rfl
    · have hne : resourceFileName other ≠ resourceFileName svc :=
        fun heq => hother (List.append_cancel_right heq)
      rw [Finmap.lookup_insert_of_ne _ hother, Finmap.lookup_insert_of_ne _ hne]
      exact h.means other
  · by_cases hfname : fname = resourceFileName svc
    · subst hfname
      rw [Finmap.lookup_insert, Option.some.injEq] at hfile
      subst hfile
      refine ⟨⟨svc, rfl, hsvc.noSuffix⟩, ?_, fun r' hr' => ?_⟩
      · rw [show (persistWrites codec r).flatten = codec.print r ++ ['\n'] by
          simp [persistWrites]]
        exact Text.newlineTerminated_append_line _ _
      · rw [hparsed, List.mem_append, List.mem_singleton] at hr'
        rcases hr' with hr' | rfl
        · exact hold r' hr'
        · exact hround
    · rw [Finmap.lookup_insert_of_ne _ hfname] at hfile
      exact h.files fname content hfile

/-- A rewritten file says what it said. -/
theorem ResourceSync.compact (h : ResourceSync codec byService dir) (rs : RandomState)
    {fname content : Text} (hfile : dir.lookup fname = some content)
    (hsome : parseResources codec content ≠ []) :
    ResourceSync codec byService
      (replaceFile dir fname (compactResources codec rs (readResources codec content))) := by
  obtain ⟨hname, -, hround⟩ := h.files fname content hfile
  obtain ⟨-, -, hparsed⟩ := lines_compactResources rs hround hsome
  have hbucket : bucketOf codec (compactResources codec rs (readResources codec content))
      = bucketOf codec content := by
    rw [bucketOf, bucketOf, hparsed, if_neg (kept_ne_nil rs hsome), if_neg hsome, readResources_eq,
      hparsed, lastWrites_kept]
    rfl
  refine ⟨fun svc => ?_, fun other text hother => ?_⟩
  · rw [h.means svc]
    by_cases hsvc : resourceFileName svc = fname
    · subst hsvc
      rw [hfile, lookup_replaceFile, Option.bind_some, Option.bind_some, hbucket]
    · have htmp : resourceFileName svc ≠ tmpName fname := by
        intro heq
        have hends := endsWith_resourceFileName svc
        have hno : Text.endsWith (tmpName fname) resourceSuffix = false := endsWith_tmpName fname
        rw [heq, hno] at hends
        cases hends
      rw [lookup_replaceFile_ne hsvc htmp]
  · by_cases hsame : other = fname
    · subst hsame
      rw [lookup_replaceFile, Option.some.injEq] at hother
      subst hother
      refine ⟨hname, Or.inr ⟨_, rfl⟩, fun r hr => ?_⟩
      rw [hparsed] at hr
      exact hround r (mem_of_mem_kept hr)
    · by_cases htmp : other = tmpName fname
      · subst htmp
        unfold replaceFile at hother
        rw [Finmap.lookup_insert_of_ne _ hsame, Finmap.lookup_erase] at hother
        cases hother
      · rw [lookup_replaceFile_ne hsame htmp] at hother
        exact h.files other text hother

/-- The scan of a file keeps what all files say. -/
theorem ResourceSync.loadResourceFile (h : ResourceSync codec byService dir) (rs : RandomState)
    (acc : HashMap Text ServiceResources) (fname : Text) :
    ResourceSync codec byService (loadResourceFile codec rs (dir, acc) fname).1 := by
  by_cases hends : Text.endsWith fname resourceSuffix = true
  · cases hfile : dir.lookup fname with
    | none =>
        unfold GostlyProxy.loadResourceFile
        rw [if_pos hends]
        dsimp only
        rw [hfile]
        exact h
    | some content =>
        by_cases hsome : parseResources codec content = []
        · rw [loadResourceFile_of_unreadable codec rs acc hends hfile hsome]
          exact h
        · rw [loadResourceFile_of_readable codec rs acc hends hfile hsome]
          dsimp only
          split
          · exact h.compact rs hfile hsome
          · exact h
  · unfold GostlyProxy.loadResourceFile
    rw [if_neg hends]
    exact h

/-- A file is loaded under its service's name. -/
theorem loadedFile_resourceFileName {svc : Text}
    (hends : Text.endsWith svc resourceSuffix = false) (content : Text) :
    loadedFile codec (resourceFileName svc) content = (bucketOf codec content).map (svc, ·) := by
  have htrim : Text.trimEndMatches resourceSuffix (resourceFileName svc) = svc :=
    Text.trimEndMatches_append (by decide) hends
  unfold loadedFile bucketOf
  by_cases hnone : parseResources codec content = []
  · rw [if_neg fun h => h.2 hnone, if_pos hnone]
    rfl
  · rw [if_pos ⟨endsWith_resourceFileName svc, hnone⟩, if_neg hnone, htrim]
    rfl

/-- A load of the files gives the resources that are live. -/
theorem ResourceSync.load (h : ResourceSync codec byService dir) (rs : RandomState)
    (registry : Option StatechartRegistry) :
    ((ResourceStore.new registry).loadFromDisk codec rs dir).2.byService = byService
      ∧ ResourceSync codec byService
        ((ResourceStore.new registry).loadFromDisk codec rs dir).1 := by
  constructor
  · have hname : ∀ fname content svc bucket, dir.lookup fname = some content →
        loadedFile codec fname content = some (svc, bucket) → fname = resourceFileName svc := by
      intro fname content svc bucket hfile hload
      obtain ⟨⟨svc', rfl, hends⟩, -, -⟩ := h.files fname content hfile
      rw [loadedFile_resourceFileName hends, Option.map_eq_some_iff] at hload
      obtain ⟨bucket', -, hpair⟩ := hload
      cases hpair
      rfl
    rw [byService_loadFromDisk]
    apply Finmap.ext_lookup
    intro svc
    apply Option.ext
    intro bucket
    rw [rs.lookup_loaded_eq_some_iff hname, h.means svc, Option.bind_eq_some_iff]
    apply exists_congr
    intro content
    apply and_congr_right
    intro hfile
    obtain ⟨⟨svc', hsvc, hends⟩, -, -⟩ := h.files _ content hfile
    cases List.append_cancel_right hsvc
    rw [loadedFile_resourceFileName hends, Option.map_eq_some_iff]
    constructor
    · rintro ⟨bucket', hbucket, hpair⟩
      cases hpair
      exact hbucket
    · exact fun hbucket => ⟨bucket, hbucket, rfl⟩
  · have hscan : ∀ (fnames : List Text) (acc : Dir × HashMap Text ServiceResources),
        ResourceSync codec byService acc.1 →
        ResourceSync codec byService
          (fnames.foldl (GostlyProxy.loadResourceFile codec rs) acc).1 := by
      intro fnames
      induction fnames with
      | nil => exact fun acc hacc => hacc
      | cons fname fnames ih =>
          exact fun acc hacc => ih _ (hacc.loadResourceFile rs acc.2 fname)
    exact hscan _ _ h

end Resources

end GostlyProxy
