/-
Loading the resource files.

A file stands for the bucket of its readable lines (`readResources`), and is
loaded under its name without the suffix when any can be read
(`loadedFile`). The scan rewrites files as it goes, but none that it has
still to read as a resource file: a directory is loaded file by file
(`byService_loadFromDisk`), in whatever order. The suffix is taken off as
often as it stands there, so no service is loaded under a name that ends in
it (`not_endsWith_of_loaded`).
-/
import GostlyProxy.Lib.LastWrite
import GostlyProxy.Model.Files
import GostlyProxy.Proofs.Disk

namespace GostlyProxy

open Lib

-- ============================================================== one bucket

/-- The key a resource is stored under. -/
def ResourceState.key (r : ResourceState) : Text × Text := (r.collection, r.id)

section Load

variable (codec : ResourceCodec) (rs : RandomState) {dir : Dir} {fname content : Text}

/-- The text a bucket is compacted to. -/
def compactResources (bucket : ServiceResources) : Text :=
  Text.join ['\n'] ((rs.values bucket).map codec.print) ++ ['\n']

variable {codec} in
/-- Resources appended one after the other are read back, in order. -/
theorem parseResources_printed {log : List ResourceState}
    (hround : ∀ r ∈ log, codec.RoundTrips r) :
    parseResources codec (log.flatMap fun r => codec.print r ++ ['\n']) = log := by
  have hprints : ∀ r ∈ log, codec.PrintsLine r := fun r hr => (hround r hr).toPrintsLine
  unfold parseResources rawLines
  rw [LineCodec.lines_printed hprints, LineCodec.filter_nonblank hprints,
    LineCodec.filterMap_printed hround]

/-- A bucket is empty when no line parses. -/
theorem size_readResources_eq_zero :
    (readResources codec content).size = 0 ↔ parseResources codec content = [] := by
  show (lastWrites ResourceState.key (parseResources codec content)).size = 0 ↔ _
  exact size_lastWrites_eq_zero

theorem loadResourceFile_of_unreadable (acc : HashMap Text ServiceResources)
    (hname : Text.endsWith fname resourceSuffix = true) (hfile : dir.lookup fname = some content)
    (hnone : parseResources codec content = []) :
    loadResourceFile codec rs (dir, acc) fname = (dir, acc) := by
  unfold loadResourceFile
  rw [if_pos hname]
  dsimp only
  rw [hfile]
  dsimp only
  rw [if_pos ((size_readResources_eq_zero codec).mpr hnone)]

theorem loadResourceFile_of_readable (acc : HashMap Text ServiceResources)
    (hname : Text.endsWith fname resourceSuffix = true) (hfile : dir.lookup fname = some content)
    (hsome : parseResources codec content ≠ []) :
    loadResourceFile codec rs (dir, acc) fname
      = (if (readResources codec content).size < (rawLines content).length then
            replaceFile dir fname (compactResources codec rs (readResources codec content))
          else dir,
        acc.insert (Text.trimEndMatches resourceSuffix fname) (readResources codec content)) := by
  unfold loadResourceFile
  rw [if_pos hname]
  dsimp only
  rw [hfile]
  dsimp only
  rw [if_neg ((size_readResources_eq_zero codec).not.mpr hsome)]
  rfl

-- ========================================================== a directory

/-- The service and the bucket a file is loaded as. -/
def loadedFile (fname content : Text) : Option (Text × ServiceResources) :=
  if Text.endsWith fname resourceSuffix = true ∧ parseResources codec content ≠ [] then
    some (Text.trimEndMatches resourceSuffix fname, readResources codec content)
  else none

/-- Rewriting a file changes nothing that another file is loaded as. -/
theorem loadedFile_replaceFile (dir : Dir) (content : Text) {fname other : Text}
    (hother : other ≠ fname) :
    ((replaceFile dir fname content).lookup other).bind (loadedFile codec other)
      = (dir.lookup other).bind (loadedFile codec other) := by
  by_cases htmp : other = tmpName fname
  · have hnone : ∀ t, loadedFile codec other t = none := fun t =>
      if_neg fun h => by
        have hends : Text.endsWith other resourceSuffix = false := htmp ▸ endsWith_tmpName fname
        rw [hends] at h
        cases h.1
    rw [Option.bind_eq_none_iff.mpr fun t _ => hnone t,
      Option.bind_eq_none_iff.mpr fun t _ => hnone t]
  · rw [lookup_replaceFile_ne hother htmp]

/-- What the scan does with one file. -/
theorem loadResourceFile_spec (dir : Dir) (acc : HashMap Text ServiceResources) (fname : Text) :
    (loadResourceFile codec rs (dir, acc) fname).2
        = acc.extend ((dir.lookup fname).bind (loadedFile codec fname)).toList
      ∧ ∀ other, other ≠ fname →
        ((loadResourceFile codec rs (dir, acc) fname).1.lookup other).bind
            (loadedFile codec other)
          = (dir.lookup other).bind (loadedFile codec other) := by
  by_cases hends : Text.endsWith fname resourceSuffix = true
  · cases hfile : dir.lookup fname with
    | none =>
        unfold loadResourceFile
        rw [if_pos hends, hfile]
        exact ⟨rfl, fun _ _ => rfl⟩
    | some content =>
        rw [Option.bind_some]
        by_cases hsome : parseResources codec content = []
        · have hload : loadedFile codec fname content = none := if_neg fun h => h.2 hsome
          rw [loadResourceFile_of_unreadable codec rs acc hends hfile hsome, hload]
          exact ⟨rfl, fun _ _ => rfl⟩
        · have hload : loadedFile codec fname content
              = some (Text.trimEndMatches resourceSuffix fname, readResources codec content) :=
            if_pos ⟨hends, hsome⟩
          rw [loadResourceFile_of_readable codec rs acc hends hfile hsome, hload]
          refine ⟨rfl, fun other hother => ?_⟩
          dsimp only
          split
          · exact loadedFile_replaceFile codec dir _ hother
          · rfl
  · have hnone : (dir.lookup fname).bind (loadedFile codec fname) = none := by
      rw [Option.bind_eq_none_iff]
      exact fun content _ => if_neg fun h => hends h.1
    unfold loadResourceFile
    rw [if_neg hends, hnone]
    exact ⟨rfl, fun _ _ => rfl⟩

/-- Files of different names are loaded as they were found. -/
theorem foldl_loadResourceFile {names : List Text} (hnd : names.Nodup) (dir : Dir)
    (acc : HashMap Text ServiceResources) :
    (names.foldl (loadResourceFile codec rs) (dir, acc)).2
      = acc.extend (names.filterMap fun n => (dir.lookup n).bind (loadedFile codec n)) := by
  induction names generalizing dir acc with
  | nil => rfl
  | cons fname names ih =>
      obtain ⟨hacc, hdir⟩ := loadResourceFile_spec codec rs dir acc fname
      obtain ⟨hfirst, hrest⟩ := List.nodup_cons.mp hnd
      have hsame : names.filterMap (fun n =>
            ((loadResourceFile codec rs (dir, acc) fname).1.lookup n).bind (loadedFile codec n))
          = names.filterMap fun n => (dir.lookup n).bind (loadedFile codec n) :=
        List.filterMap_congr fun n hn => hdir n fun h => hfirst (h ▸ hn)
      rw [List.foldl_cons, ih hrest, hsame, hacc, ← HashMap.extend_append]
      congr 1
      rw [List.filterMap_cons]
      cases (dir.lookup fname).bind (loadedFile codec fname) <;> rfl

/-- A fresh store holds what its directory's files are loaded as. -/
theorem byService_loadFromDisk (registry : Option StatechartRegistry) (dir : Dir) :
    ((ResourceStore.new registry).loadFromDisk codec rs dir).2.byService
      = HashMap.collect ((rs.iter dir).filterMap fun e => loadedFile codec e.1 e.2) := by
  have hnd : ((rs.iter dir).map (·.1)).Nodup := rs.nodupKeys_iter dir
  show (((rs.iter dir).map (·.1)).foldl (loadResourceFile codec rs) (dir, ∅)).2 = _
  rw [foldl_loadResourceFile codec rs hnd, HashMap.extend_empty, List.filterMap_map]
  congr 1
  refine List.filterMap_congr ?_
  rintro ⟨fname, content⟩ hmem
  show (dir.lookup fname).bind (loadedFile codec fname) = _
  rw [rs.mem_iter.mp hmem, Option.bind_some]

/-- No service is loaded under a name that ends like a resource file. -/
theorem not_endsWith_of_loaded (registry : Option StatechartRegistry) (dir : Dir) {svc : Text}
    (h : (((ResourceStore.new registry).loadFromDisk codec rs dir).2.byService.lookup
      svc).isSome) : Text.endsWith svc resourceSuffix = false := by
  rw [byService_loadFromDisk, HashMap.isSome_lookup_collect] at h
  obtain ⟨⟨svc', bucket⟩, hmem, rfl⟩ := List.mem_map.mp h
  obtain ⟨⟨fname, content⟩, -, hload⟩ := List.mem_filterMap.mp hmem
  dsimp only [loadedFile] at hload
  split at hload
  · cases hload
    exact Text.endsWith_trimEndMatches (by decide : resourceSuffix ≠ []) fname
  · cases hload

theorem endsWith_resourceFileName (svc : Text) :
    Text.endsWith (resourceFileName svc) resourceSuffix = true :=
  List.isSuffixOf_iff_suffix.mpr (List.suffix_append _ _)

/-- A log of one service is loaded under the service's name when that does
not end like a resource file. -/
theorem loadedFile_printed {svc : Text} {log : List ResourceState}
    (hround : ∀ r ∈ log, codec.RoundTrips r) (hne : log ≠ [])
    (hends : Text.endsWith svc resourceSuffix = false) :
    loadedFile codec (resourceFileName svc) (log.flatMap fun r => codec.print r ++ ['\n'])
      = some (svc, lastWrites ResourceState.key log) := by
  have hparsed := parseResources_printed hround
  have htrim : Text.trimEndMatches resourceSuffix (resourceFileName svc) = svc :=
    Text.trimEndMatches_append (by decide) hends
  rw [loadedFile, if_pos ⟨endsWith_resourceFileName svc, hparsed.symm ▸ hne⟩, htrim,
    readResources, hparsed]
  rfl

end Load

end GostlyProxy
