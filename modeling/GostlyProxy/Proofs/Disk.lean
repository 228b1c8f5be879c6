/-
What the files of the mock directory say, and what loading them builds.

`readMocks` of a text is last-write-wins by key (`lookup_readMocks`); an
appended line is an insert (`readMocks_append`); compaction in any order
keeps the map (`readMocks_compact`). A mock file is named after its
service and by nothing else (`eq_mockFileName_of_svcIdOf`), so a scan of the
directory builds, per service, the map of that service's one file
(`mocksOf_loadAll`).
-/
import GostlyProxy.Model.Disk
import GostlyProxy.Proofs.Library

namespace GostlyProxy

open Lib

-- ============================================================= file names

theorem svcIdOf_mockFileName (s : Text) : svcIdOf (mockFileName s) = some s := by
  have hstart : Text.startsWith (mockFileName s) mockPrefix = true := by
    unfold Text.startsWith
    rw [List.isPrefixOf_iff_prefix]
    exact List.prefix_append _ _
  have hend : Text.endsWith (mockFileName s) mockSuffix = true := by
    unfold Text.endsWith
    rw [List.isSuffixOf_iff_suffix, mockFileName, ← List.append_assoc]
    exact List.suffix_append _ _
  have hlen : (mockFileName s).length - mockPrefix.length - mockSuffix.length
      = s.length := by
    unfold mockFileName
    rw [List.length_append, List.length_append]
    omega
  unfold svcIdOf
  rw [hstart, hend, Bool.and_self, if_pos rfl, hlen, mockFileName, List.drop_left,
    List.take_left]

/-- The five characters before the id and the six after it do not overlap:
a suffix shorter than the rest lies inside the rest, and none of the overlaps
of the two fixed parts agrees. -/
theorem mockSuffix_suffix {rest : Text} (h : mockSuffix <:+ mockPrefix ++ rest) :
    mockSuffix <:+ rest := by
  rcases le_or_gt mockSuffix.length rest.length with hle | hlt
  · exact List.suffix_of_suffix_length_le h (List.suffix_append _ _) hle
  exfalso
  obtain ⟨mid, hmid⟩ := List.suffix_of_suffix_length_le (List.suffix_append _ _) h hlt.le
  obtain ⟨front, hfront⟩ := h
  have hmidlen : mid.length + rest.length = 6 := by
    have := congrArg List.length hmid
    simpa [mockSuffix] using this
  rw [← hmid, ← List.append_assoc] at hfront
  have hpre := List.append_cancel_right hfront
  have hlast : mid.getLast? = some '_' := by
    have hp : mockPrefix.getLast? = some '_' := by decide
    rw [← hpre, List.getLast?_append] at hp
    cases hm : mid.getLast? with
    | none =>
        rw [List.getLast?_eq_none_iff] at hm
        subst hm
        simp [mockSuffix] at hlt hmidlen
        omega
    | some c =>
        rw [hm, Option.some_or] at hp
        exact hp
  have hmem : '_' ∈ mockSuffix := by
    rw [← hmid]
    exact List.mem_append_left _ (List.mem_of_getLast? hlast)
  exact absurd hmem (by decide)

theorem eq_mockFileName_of_svcIdOf {fname s : Text} (h : svcIdOf fname = some s) :
    fname = mockFileName s := by
  unfold svcIdOf at h
  split at h
  case isFalse => cases h
  case isTrue hok =>
    rw [Bool.and_eq_true, Text.startsWith, Text.endsWith, List.isPrefixOf_iff_prefix,
      List.isSuffixOf_iff_suffix] at hok
    obtain ⟨⟨rest, rfl⟩, hsuffix⟩ := hok
    rw [Option.some.injEq, List.drop_left] at h
    obtain ⟨mid, rfl⟩ := mockSuffix_suffix hsuffix
    have hlen : (mockPrefix ++ (mid ++ mockSuffix)).length - mockPrefix.length
        - mockSuffix.length = mid.length := by
      rw [List.length_append, List.length_append]
      omega
    rw [hlen, List.take_left] at h
    subst h
    rfl

theorem mockFileName_injective : Function.Injective mockFileName := by
  intro s s' h
  have := svcIdOf_mockFileName s'
  rw [← h, svcIdOf_mockFileName, Option.some.injEq] at this
  exact this

/-- No scan takes the temporary file for one of its own. -/
theorem endsWith_tmpName (fname : Text) : Text.endsWith (tmpName fname) ".jsonl" = false := by
  unfold Text.endsWith
  rw [Bool.eq_false_iff, Ne, List.isSuffixOf_iff_suffix]
  intro hsuffix
  have htmp : (".tmp" : Text) <:+ tmpName fname := List.suffix_append _ _
  have hinner : (".tmp" : Text) <:+ (".jsonl" : Text) :=
    List.suffix_of_suffix_length_le htmp hsuffix (by decide)
  exact absurd hinner (by decide)

theorem svcIdOf_tmpName (fname : Text) : svcIdOf (tmpName fname) = none := by
  unfold svcIdOf
  rw [show Text.endsWith (tmpName fname) mockSuffix = false from endsWith_tmpName fname,
    Bool.and_false]
  rfl

theorem tmpName_ne_mockFileName (fname s : Text) : tmpName fname ≠ mockFileName s := by
  intro h
  have := svcIdOf_tmpName fname
  rw [h, svcIdOf_mockFileName] at this
  cases this

-- =============================================================== contents

section Contents

variable {codec : EntryCodec}

/-- Under each key lies the entry of the last line that carries it. -/
theorem lookup_readMocks (content : Text) (key : MockKey) :
    (readMocks codec content).lookup key
      = ((parseLines codec content).filter (·.key = key)).getLast? :=
  HashMap.lookup_collect_by MockEntry.key (parseLines codec content) key

theorem readMocks_key {content : Text} {key : MockKey} {e : MockEntry}
    (h : (readMocks codec content).lookup key = some e) : e.key = key := by
  rw [lookup_readMocks] at h
  simpa using (List.mem_filter.mp (List.mem_of_getLast? h)).2

/-- One more line is an insert when it can be read, and nothing else. -/
theorem readMocks_snoc {content front line : Text}
    (h : Text.lines content = Text.lines front ++ [line]) :
    readMocks codec content = match codec.parse line with
      | some e => (readMocks codec front).insert e.key e
      | none => readMocks codec front := by
  unfold readMocks parseLines
  rw [h, List.filterMap_append]
  cases hparse : codec.parse line with
  | none => simp [hparse]
  | some e =>
      rw [List.filterMap_cons, hparse, List.map_append, HashMap.collect, List.foldl_append]
      rfl

/-- A complete line appended to complete lines is an insert. -/
theorem readMocks_append (hcodec : codec.Lawful) {content : Text}
    (hc : Text.NewlineTerminated content) (e : MockEntry) :
    readMocks codec (content ++ (codec.print e ++ ['\n']))
      = (readMocks codec content).insert e.key e := by
  rw [readMocks_snoc (Text.lines_append_line hc (hcodec.isLine_print e)), hcodec.parse_print]

theorem size_readMocks_append (hcodec : codec.Lawful) {content : Text}
    (hc : Text.NewlineTerminated content) (e : MockEntry) :
    (readMocks codec (content ++ (codec.print e ++ ['\n']))).size ≠ 0 := by
  rw [readMocks_append hcodec hc, Ne, HashMap.size_eq_zero]
  exact HashMap.insert_ne_empty _ _ _

/-- The lines of a compacted map, in the order they are written in. -/
theorem lines_compact (hcodec : codec.Lawful) (rs : RandomState) {m : ServiceMocks}
    (hne : m.size ≠ 0) :
    Text.lines (compact codec rs m) = (rs.values m).map codec.print := by
  have hvals : rs.values m ≠ [] := by
    intro h
    apply hne
    rw [← rs.length_iter m, ← List.length_map (·.2)]
    exact congrArg List.length h
  unfold compact
  rw [Text.lines_join ?_ (by simpa using hvals)]
  intro l hl
  obtain ⟨e, _, rfl⟩ := List.mem_map.mp hl
  exact hcodec.isLine_print e

theorem parseLines_compact (hcodec : codec.Lawful) (rs : RandomState) {m : ServiceMocks}
    (hne : m.size ≠ 0) : parseLines codec (compact codec rs m) = rs.values m := by
  rw [parseLines, lines_compact hcodec rs hne, List.filterMap_map]
  calc (rs.values m).filterMap (codec.parse ∘ codec.print)
      = (rs.values m).filterMap some := by
        congr 1
        funext e
        exact hcodec.parse_print e
    _ = rs.values m := List.filterMap_some

/-- Compaction keeps the map, whatever order the lines are written in. -/
theorem readMocks_compact (hcodec : codec.Lawful) (rs : RandomState)
    {m : ServiceMocks} (hne : m.size ≠ 0)
    (hkey : ∀ key e, m.lookup key = some e → e.key = key) :
    readMocks codec (compact codec rs m) = m := by
  have hpairs : (rs.values m).map (fun e => (e.key, e))
      = (rs.iter m).map fun e => (e.1, e.2) := by
    unfold RandomState.values
    rw [List.map_map]
    apply List.map_congr_left
    rintro ⟨key, e⟩ hmem
    show (e.key, e) = (key, e)
    rw [hkey key e (rs.mem_iter.mp hmem)]
  unfold readMocks
  rw [parseLines_compact hcodec rs hne, hpairs, rs.collect_iter]

end Contents

-- ============================================================ one segment

section Load

variable (codec : EntryCodec) (rs : RandomState)

/-- The segment a file's text is loaded into, if it is. -/
def segmentOf (svcId content : Text) : Option MockSegment :=
  let m := readMocks codec content
  if m.size = 0 then none else some ⟨Finmap.singleton svcId m⟩

theorem loadOneSegment_of_not_mock {dir : Dir} {fname : Text}
    (h : svcIdOf fname = none) : loadOneSegment codec rs dir fname = (dir, none) := by
  unfold loadOneSegment
  rw [h]

theorem loadOneSegment_snd (dir : Dir) (s : Text) :
    (loadOneSegment codec rs dir (mockFileName s)).2
      = ((dir.lookup (mockFileName s)).bind (segmentOf codec s)).map fun seg => (s, seg) := by
  unfold loadOneSegment
  rw [svcIdOf_mockFileName]
  cases dir.lookup (mockFileName s) with
  | none => rfl
  | some content =>
      rw [Option.bind_some, segmentOf]
      by_cases h0 : (readMocks codec content).size = 0
      · simp only [if_pos h0, Option.map_none]
      · simp only [if_neg h0, Option.map_some]

theorem lookup_replaceFile_ne {dir : Dir} {fname content g : Text} (hg : g ≠ fname)
    (htmp : g ≠ tmpName fname) :
    (replaceFile dir fname content).lookup g = dir.lookup g := by
  unfold replaceFile
  rw [Finmap.lookup_insert_of_ne _ hg, Finmap.lookup_erase_ne htmp,
    Finmap.lookup_insert_of_ne _ htmp]

/-- Loading one file leaves every other mock file alone. -/
theorem loadOneSegment_fst_ne {dir : Dir} {fname s : Text} (h : mockFileName s ≠ fname) :
    (loadOneSegment codec rs dir fname).1.lookup (mockFileName s)
      = dir.lookup (mockFileName s) := by
  have htmp : mockFileName s ≠ tmpName fname := (tmpName_ne_mockFileName fname s).symm
  unfold loadOneSegment
  cases svcIdOf fname with
  | none => rfl
  | some svc =>
      cases dir.lookup fname with
      | none => rfl
      | some content =>
          by_cases h0 : (readMocks codec content).size = 0
          · simp only [if_pos h0]
          · simp only [if_neg h0]
            exact lookup_replaceFile_ne h htmp

-- ============================================================ the directory

/-- One file of a scan, for the service it belongs to: its segment, or what
was there. -/
theorem lookup_loadNext_self (acc : Dir × MockLibrary) (s : Text) :
    (loadNext codec rs acc (mockFileName s)).2.segments.lookup s
      = ((acc.1.lookup (mockFileName s)).bind (segmentOf codec s)).or
        (acc.2.segments.lookup s) := by
  have hsnd := loadOneSegment_snd codec rs acc.1 s
  unfold loadNext
  rcases hload : loadOneSegment codec rs acc.1 (mockFileName s) with ⟨dir, _ | ⟨svc, seg⟩⟩
  · rw [hload] at hsnd
    rw [Option.map_eq_none_iff.mp hsnd.symm, Option.none_or]
  · rw [hload] at hsnd
    obtain ⟨seg', hseg, heq⟩ := Option.map_eq_some_iff.mp hsnd.symm
    cases heq
    rw [hseg, Option.some_or]
    exact Finmap.lookup_insert _

/-- One file of a scan leaves the file and the segment of every other
service alone. -/
theorem lookup_loadNext_ne (acc : Dir × MockLibrary) {fname s : Text}
    (hne : fname ≠ mockFileName s) :
    (loadNext codec rs acc fname).1.lookup (mockFileName s) = acc.1.lookup (mockFileName s)
      ∧ (loadNext codec rs acc fname).2.segments.lookup s = acc.2.segments.lookup s := by
  have hkeep : (loadOneSegment codec rs acc.1 fname).1.lookup (mockFileName s)
      = acc.1.lookup (mockFileName s) :=
    loadOneSegment_fst_ne codec rs (Ne.symm hne)
  unfold loadNext
  cases hsvc : svcIdOf fname with
  | none => rw [loadOneSegment_of_not_mock codec rs hsvc]; exact ⟨rfl, rfl⟩
  | some svc =>
      have hname := eq_mockFileName_of_svcIdOf hsvc
      have hother : s ≠ svc := fun he => hne (by rw [hname, he])
      have hsnd := loadOneSegment_snd codec rs acc.1 svc
      rw [← hname] at hsnd
      rcases hload : loadOneSegment codec rs acc.1 fname with ⟨dir, _ | ⟨svc', seg⟩⟩
      · rw [hload] at hkeep
        exact ⟨hkeep, rfl⟩
      · rw [hload] at hsnd hkeep
        obtain ⟨seg', _, heq⟩ := Option.map_eq_some_iff.mp hsnd.symm
        cases heq
        exact ⟨hkeep, Finmap.lookup_insert_of_ne _ hother⟩

/-- What a scan of some files adds to a library: each scanned mock file
replaces its service's segment, as it was when the scan began. -/
theorem lookup_foldl_loadNext (s : Text) :
    ∀ (fnames : List Text) (acc : Dir × MockLibrary), fnames.Nodup →
      (fnames.foldl (loadNext codec rs) acc).2.segments.lookup s
        = (if mockFileName s ∈ fnames
            then (acc.1.lookup (mockFileName s)).bind (segmentOf codec s) else none).or
          (acc.2.segments.lookup s) := by
  intro fnames
  induction fnames with
  | nil =>
      intro acc _
      rw [List.foldl_nil, if_neg List.not_mem_nil, Option.none_or]
  | cons fname fnames ih =>
      intro acc hnd
      obtain ⟨hnot, hnd⟩ := List.nodup_cons.mp hnd
      rw [List.foldl_cons, ih _ hnd]
      by_cases hf : fname = mockFileName s
      · subst hf
        rw [if_neg hnot, if_pos (List.mem_cons_self ..), Option.none_or,
          lookup_loadNext_self]
      · obtain ⟨hdir, hlib⟩ := lookup_loadNext_ne codec rs acc hf
        rw [hdir, hlib]
        simp only [List.mem_cons, Ne.symm hf, false_or]

theorem lookup_loadAll (dir : Dir) (s : Text) :
    (loadAllServiceMocks codec rs dir).2.segments.lookup s
      = (dir.lookup (mockFileName s)).bind (segmentOf codec s) := by
  have hnd : ((rs.iter dir).map (·.1)).Nodup := rs.nodupKeys_iter dir
  unfold loadAllServiceMocks
  rw [lookup_foldl_loadNext codec rs s _ _ hnd, MockLibrary.new, Finmap.lookup_empty,
    Option.or_none]
  split
  · rfl
  · rename_i hnot
    cases hlook : dir.lookup (mockFileName s) with
    | none => rfl
    | some content =>
        exact absurd (List.mem_map.mpr ⟨_, rs.mem_iter.mpr hlook, rfl⟩) hnot

theorem mocksOf_segmentOf (s : Text) (content : Option Text) :
    (((content.bind (segmentOf codec s)).bind fun seg => seg.services.lookup s).getD ∅)
      = (content.map (readMocks codec)).getD ∅ := by
  cases content with
  | none => rfl
  | some content =>
      rw [Option.bind_some, Option.map_some, Option.getD_some, segmentOf]
      by_cases h0 : (readMocks codec content).size = 0
      · simp only [if_pos h0, Option.bind_none, Option.getD_none]
        exact (HashMap.size_eq_zero.mp h0).symm
      · simp only [if_neg h0, Option.bind_some, Finmap.lookup_singleton_eq,
          Option.getD_some]

/-- After a full load each service has the map of its one file. -/
theorem mocksOf_loadAll (dir : Dir) (s : Text) :
    (loadAllServiceMocks codec rs dir).2.mocksOf s
      = ((dir.lookup (mockFileName s)).map (readMocks codec)).getD ∅ := by
  unfold MockLibrary.mocksOf
  rw [lookup_loadAll, mocksOf_segmentOf]

/-- The segment of a file holds its service, under the entries' own keys. -/
theorem segmentOf_eq_some {s content : Text} {seg : MockSegment}
    (h : segmentOf codec s content = some seg) :
    seg = ⟨Finmap.singleton s (readMocks codec content)⟩ := by
  unfold segmentOf at h
  by_cases h0 : (readMocks codec content).size = 0
  · simp only [if_pos h0] at h
    cases h
  · simp only [if_neg h0, Option.some.injEq] at h
    exact h.symm

theorem wellFormed_loadAll (dir : Dir) :
    (loadAllServiceMocks codec rs dir).2.WellFormed := by
  have hseg : ∀ {k seg}, (loadAllServiceMocks codec rs dir).2.segments.lookup k = some seg →
      ∀ {s svc}, seg.services.lookup s = some svc →
        s = k ∧ ∀ {key e}, svc.lookup key = some e → e.key = key := by
    intro k seg hlook s svc hsvc
    rw [lookup_loadAll] at hlook
    obtain ⟨content, _, hcontent⟩ := Option.bind_eq_some_iff.mp hlook
    rw [segmentOf_eq_some codec hcontent] at hsvc
    have hmem : s ∈ (Finmap.singleton k (readMocks codec content)
        : HashMap Text ServiceMocks) := Finmap.mem_of_lookup_eq_some hsvc
    rw [Finmap.mem_singleton] at hmem
    subst hmem
    rw [Finmap.lookup_singleton_eq, Option.some.injEq] at hsvc
    subst hsvc
    exact ⟨rfl, fun he => readMocks_key he⟩
  exact
    { service := fun hlook hsvc => (hseg hlook hsvc).1
      key := fun hlook hsvc he => (hseg hlook hsvc).2 he }

-- ================================================================ one file

/-- A path that is no mock file reloads nothing. -/
theorem reloadOneFile_of_not_mock {dir : Dir} {fname : Text} {lib : MockLibrary}
    (h : svcIdOf fname = none) : reloadOneFile codec rs dir fname lib = (dir, lib) := by
  rw [reloadOneFile, h]

theorem reloadOneFile_snd (dir : Dir) (s : Text) (lib : MockLibrary) :
    (reloadOneFile codec rs dir (mockFileName s) lib).2
      = lib.setSegment s ((dir.lookup (mockFileName s)).bind (segmentOf codec s)) := by
  rw [reloadOneFile, svcIdOf_mockFileName]
  simp only [loadOneSegment_snd, Option.map_map]
  congr 1
  exact Option.map_id'

/-- Reloading a file gives its service the map of the file. -/
theorem mocksOf_reloadOneFile (dir : Dir) (s s' : Text) (lib : MockLibrary) :
    (reloadOneFile codec rs dir (mockFileName s) lib).2.mocksOf s'
      = if s' = s then ((dir.lookup (mockFileName s)).map (readMocks codec)).getD ∅
        else lib.mocksOf s' := by
  rw [reloadOneFile_snd, ← mocksOf_segmentOf]
  cases hseg : (dir.lookup (mockFileName s)).bind (segmentOf codec s) with
  | none => exact MockLibrary.mocksOf_setSegment_none lib s s'
  | some seg =>
      obtain ⟨content, _, hcontent⟩ := Option.bind_eq_some_iff.mp hseg
      rw [segmentOf_eq_some codec hcontent, MockLibrary.mocksOf_setSegment_some,
        Option.bind_some, Finmap.lookup_singleton_eq, Option.getD_some]

theorem wellFormed_reloadOneFile {lib : MockLibrary} (h : lib.WellFormed) (dir : Dir)
    (fname : Text) : (reloadOneFile codec rs dir fname lib).2.WellFormed := by
  cases hsvc : svcIdOf fname with
  | none =>
      rw [reloadOneFile_of_not_mock codec rs hsvc]
      exact h
  | some s =>
      rw [eq_mockFileName_of_svcIdOf hsvc, reloadOneFile_snd]
      cases hseg : (dir.lookup (mockFileName s)).bind (segmentOf codec s) with
      | none => exact h.setSegment_none s
      | some seg =>
          obtain ⟨content, _, hcontent⟩ := Option.bind_eq_some_iff.mp hseg
          rw [segmentOf_eq_some codec hcontent]
          exact h.setSegment_some s fun he => readMocks_key he

end Load

end GostlyProxy
