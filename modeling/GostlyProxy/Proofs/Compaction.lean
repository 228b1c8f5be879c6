/-
What loading leaves of a file.

A mock file is rewritten whenever a line of it parses, a resource file only
when it has more lines than keys. Either way the file left behind stands
for the map of the file that was there, and a rewritten one has one line
for every key (`MockFileCompacts`, `ResourceFileCompacts`). The lines come in
the order of a traversal: a second load writes a mock file anew, with the
same lines, and finds nothing to do in a resource file.
-/
import GostlyProxy.Proofs.Codec
import GostlyProxy.Proofs.ResourceLog

namespace GostlyProxy

open Lib

/-- The lines of the text are printed values, one for every key of the
log. -/
def OneLinePerKey {α κ : Type} (print : α → Text) (key : α → κ) (log : List α) (content : Text) :
    Prop :=
  ∃ values : List α, Text.lines content = values.map print ∧ (values.map key).Nodup
    ∧ ∀ k, k ∈ values.map key ↔ k ∈ log.map key

-- ============================================================ a mock file

section Mocks

variable (codec : EntryCodec) (rs : RandomState) {dir : Dir} {svc content : Text}

/-- A map is empty when no line parses. -/
theorem size_readMocks_eq_zero :
    (readMocks codec content).size = 0 ↔ parseLines codec content = [] := by
  show (lastWrites MockEntry.key (parseLines codec content)).size = 0 ↔ _
  exact size_lastWrites_eq_zero

theorem loadOneSegment_of_unreadable (hfile : dir.lookup (mockFileName svc) = some content)
    (hnone : parseLines codec content = []) :
    loadOneSegment codec rs dir (mockFileName svc) = (dir, none) := by
  unfold loadOneSegment
  rw [svcIdOf_mockFileName]
  dsimp only
  rw [hfile]
  dsimp only
  rw [if_pos ((size_readMocks_eq_zero codec).mpr hnone)]

theorem loadOneSegment_of_readable (hfile : dir.lookup (mockFileName svc) = some content)
    (hsome : parseLines codec content ≠ []) :
    loadOneSegment codec rs dir (mockFileName svc)
      = (replaceFile dir (mockFileName svc) (compact codec rs (readMocks codec content)),
        some (svc, ⟨Finmap.singleton svc (readMocks codec content)⟩)) := by
  unfold loadOneSegment
  rw [svcIdOf_mockFileName]
  dsimp only
  rw [hfile]
  dsimp only
  rw [if_neg ((size_readMocks_eq_zero codec).not.mpr hsome)]

theorem lookup_replaceFile (dir : Dir) (fname content : Text) :
    (replaceFile dir fname content).lookup fname = some content := Finmap.lookup_insert _

/-- What a load, and a second one, do to a service's mock file. -/
structure MockFileCompacts (codec : EntryCodec) (rs rs' : RandomState) (dir : Dir)
    (svc content : Text) : Prop where
  untouched : parseLines codec content = [] →
    loadOneSegment codec rs dir (mockFileName svc) = (dir, none)
  compacted : parseLines codec content ≠ [] → ∃ left left',
    (loadOneSegment codec rs dir (mockFileName svc)).1.lookup (mockFileName svc) = some left
      ∧ readMocks codec left = readMocks codec content
      ∧ OneLinePerKey codec.print MockEntry.key (parseLines codec content) left
      ∧ (loadOneSegment codec rs' (loadOneSegment codec rs dir (mockFileName svc)).1
          (mockFileName svc)).1.lookup (mockFileName svc) = some left'
      ∧ (Text.lines left').Perm (Text.lines left)
      ∧ (loadOneSegment codec rs' (loadOneSegment codec rs dir (mockFileName svc)).1
          (mockFileName svc)).2 = (loadOneSegment codec rs dir (mockFileName svc)).2

theorem mockFileCompacts (hcodec : codec.Lawful) (rs' : RandomState)
    (hfile : dir.lookup (mockFileName svc) = some content) :
    MockFileCompacts codec rs rs' dir svc content where
  untouched := loadOneSegment_of_unreadable codec rs hfile
  compacted := by
    intro hsome
    have hsize := (size_readMocks_eq_zero codec).not.mpr hsome
    have hlines := fun order : RandomState => lines_compact hcodec order hsize
    have hread : readMocks codec (compact codec rs (readMocks codec content))
        = readMocks codec content :=
      readMocks_compact hcodec rs hsize fun _ _ => readMocks_key
    have hparsed : parseLines codec (compact codec rs (readMocks codec content)) ≠ [] := by
      rw [parseLines_compact hcodec rs hsize]
      exact kept_ne_nil rs hsome
    have hfirst := loadOneSegment_of_readable codec rs hfile hsome
    have hsecond := loadOneSegment_of_readable codec rs'
      (lookup_replaceFile dir (mockFileName svc) (compact codec rs (readMocks codec content)))
      hparsed
    rw [hread] at hsecond
    rw [hfirst]
    dsimp only
    rw [hsecond]
    refine ⟨_, _, lookup_replaceFile _ _ _, hread, ?_, lookup_replaceFile _ _ _, ?_, rfl⟩
    · exact ⟨_, hlines rs, nodup_key_kept rs _, mem_key_kept rs _⟩
    · rw [hlines rs', hlines rs]
      exact ((rs'.iter_perm rs _).map _).map _

end Mocks

-- ======================================================== a resource file

section Resources

variable (codec : ResourceCodec) (rs : RandomState) {dir : Dir} {fname content : Text}

/-- What one service's pass, and a second one, do to its resource file. -/
structure ResourceFileCompacts (codec : ResourceCodec) (rs rs' : RandomState) (dir : Dir)
    (fname content : Text) (acc acc' : HashMap Text ServiceResources) : Prop where
  untouched : parseResources codec content = [] →
    loadResourceFile codec rs (dir, acc) fname = (dir, acc)
  compacted : parseResources codec content ≠ [] → ∃ left,
    (loadResourceFile codec rs (dir, acc) fname).1.lookup fname = some left
      ∧ readResources codec left = readResources codec content
      ∧ (if (readResources codec content).size < (rawLines content).length then
          OneLinePerKey codec.print ResourceState.key (parseResources codec content) left
        else left = content)
      ∧ (loadResourceFile codec rs' ((loadResourceFile codec rs (dir, acc) fname).1, acc')
          fname).1 = (loadResourceFile codec rs (dir, acc) fname).1

variable {codec}

/-- The lines of a compacted bucket, and the resources read back from
them. -/
theorem lines_compactResources (hround : ∀ r ∈ parseResources codec content, codec.RoundTrips r)
    (hsome : parseResources codec content ≠ []) :
    Text.lines (compactResources codec rs (readResources codec content))
        = (kept ResourceState.key rs (parseResources codec content)).map codec.print
      ∧ rawLines (compactResources codec rs (readResources codec content))
        = (kept ResourceState.key rs (parseResources codec content)).map codec.print
      ∧ parseResources codec (compactResources codec rs (readResources codec content))
        = kept ResourceState.key rs (parseResources codec content) := by
  have hkept : ∀ r ∈ kept ResourceState.key rs (parseResources codec content),
      codec.RoundTrips r := fun r hr => hround r (mem_of_mem_kept hr)
  have hlines : Text.lines (compactResources codec rs (readResources codec content))
      = (kept ResourceState.key rs (parseResources codec content)).map codec.print := by
    refine Text.lines_join ?_ (List.map_eq_nil_iff.not.mpr (kept_ne_nil rs hsome))
    intro l hl
    obtain ⟨r, hr, rfl⟩ := List.mem_map.mp hl
    exact (hkept r hr).isLine
  have hraw : rawLines (compactResources codec rs (readResources codec content))
      = (kept ResourceState.key rs (parseResources codec content)).map codec.print := by
    rw [rawLines, hlines, LineCodec.filter_nonblank fun r hr => (hkept r hr).toPrintsLine]
  refine ⟨hlines, hraw, ?_⟩
  rw [parseResources, hraw, LineCodec.filterMap_printed hkept]

theorem resourceFileCompacts (rs' : RandomState) (acc acc' : HashMap Text ServiceResources)
    (hround : ∀ r ∈ parseResources codec content, codec.RoundTrips r)
    (hname : Text.endsWith fname resourceSuffix = true)
    (hfile : dir.lookup fname = some content) :
    ResourceFileCompacts codec rs rs' dir fname content acc acc' where
  untouched := loadResourceFile_of_unreadable codec rs acc hname hfile
  compacted := by
    intro hsome
    have hfirst := loadResourceFile_of_readable codec rs acc hname hfile hsome
    rw [hfirst]
    dsimp only
    by_cases hmore : (readResources codec content).size < (rawLines content).length
    · obtain ⟨hlines, hraw, hparsed⟩ := lines_compactResources rs hround hsome
      have hread : readResources codec (compactResources codec rs (readResources codec content))
          = readResources codec content := by
        show lastWrites ResourceState.key (parseResources codec _) = _
        rw [hparsed]
        exact lastWrites_kept rs (parseResources codec content)
      have hsome' : parseResources codec
          (compactResources codec rs (readResources codec content)) ≠ [] := by
        rw [hparsed]
        exact kept_ne_nil rs hsome
      -- one line per key: nothing is left to drop
      have hfull : ¬ (readResources codec content).size
          < (rawLines (compactResources codec rs (readResources codec content))).length := by
        rw [hraw, List.length_map, length_kept]
        exact lt_irrefl _
      rw [if_pos hmore]
      refine ⟨_, lookup_replaceFile _ _ _, hread, ?_, ?_⟩
      · rw [if_pos hmore]
        exact ⟨_, hlines, nodup_key_kept rs _, mem_key_kept rs _⟩
      · rw [loadResourceFile_of_readable codec rs' acc' hname (lookup_replaceFile _ _ _) hsome',
          hread, if_neg hfull]
    · rw [if_neg hmore]
      refine ⟨content, hfile, rfl, ?_, ?_⟩
      · rw [if_neg hmore]
      · rw [loadResourceFile_of_readable codec rs' acc' hname hfile hsome, if_neg hmore]

end Resources

-- ===================================================== what a load keeps

/-- Compaction keeps what a file stands for, in both stores. -/
theorem compaction_preserves (codec : EntryCodec) (rcodec : ResourceCodec)
    (rs rs' : RandomState) (mockDir resDir : Dir) (svc content fname text : Text)
    (acc acc' : HashMap Text ServiceResources) (hcodec : codec.Lawful)
    (hround : ∀ r ∈ parseResources rcodec text, rcodec.RoundTrips r)
    (hmock : mockDir.lookup (mockFileName svc) = some content)
    (hname : Text.endsWith fname resourceSuffix = true) (hres : resDir.lookup fname = some text) :
    MockFileCompacts codec rs rs' mockDir svc content
      ∧ ResourceFileCompacts rcodec rs rs' resDir fname text acc acc' :=
  ⟨mockFileCompacts codec rs hcodec rs' hmock,
    resourceFileCompacts rs rs' acc acc' hround hname hres⟩

/-- One charge, captured twice. -/
def chargeTwice : Text :=
  [chargeState "ch_1" "1", chargeState "ch_1" "2"].flatMap fun r => chargeCodec.print r ++ ['\n']

/-- An entry, and another one cut off. -/
def cutOff : Text := getLine "/a" "first" ++ ("\n\x7b\"id\":" : Text)

theorem compaction_preserves_samples :
    MockFileCompacts sampleCodec default default
        (Finmap.singleton (mockFileName "pay") cutOff) "pay" cutOff
      ∧ ResourceFileCompacts chargeCodec default default
        (Finmap.singleton ("pay.jsonl" : Text) chargeTwice) "pay.jsonl" chargeTwice ∅ ∅ := by
  have hparsed : parseResources chargeCodec chargeTwice
      = [chargeState "ch_1" "1", chargeState "ch_1" "2"] :=
    parseResources_printed fun r hr => roundTrips_twiceCaptured (by simpa using hr)
  refine compaction_preserves sampleCodec chargeCodec default default _ _ "pay" cutOff "pay.jsonl"
    chargeTwice ∅ ∅ sampleCodec_lawful ?_ Finmap.lookup_singleton_eq (by decide)
    Finmap.lookup_singleton_eq
  intro r hr
  rw [hparsed] at hr
  exact roundTrips_twiceCaptured (by simpa using hr)

end GostlyProxy
