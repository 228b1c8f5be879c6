/-
Appending a recording to a mock file of any content.

A file edited by hand need not end in a line feed. A recording is then
glued to the open line, and of a JSON reader the two together are readable
only when the open line is blank (`EntryCodec.ReadsJson`). Otherwise the
recording is lost and the open line with it, so the append is an insert
into the file's map exactly when both are on the complete lines already
(`appendToMockLog_inserts_iff`).
-/
import GostlyProxy.Lib.LastWrite
import GostlyProxy.Proofs.Codec
import GostlyProxy.Proofs.Disk

namespace GostlyProxy

open Lib

-- ============================================================ the reader

/-- The blanks of JSON. -/
def isJsonBlank (c : Char) : Bool := c = ' ' || c = '\t' || c = '\n' || c = '\r'

/-- What the JSON library promises beyond the round trip: blanks before a
value are skipped, there is no value in nothing, and an object behind
anything else is trailing input. -/
structure EntryCodec.ReadsJson (codec : EntryCodec) : Prop extends codec.Lawful where
  parse_nil : codec.parse [] = none
  parse_blanks : ∀ blanks l : Text, (∀ c ∈ blanks, isJsonBlank c = true) →
    codec.parse (blanks ++ l) = codec.parse l
  parse_glued : ∀ (t : Text) (e : MockEntry), (∃ c ∈ t, isJsonBlank c = false) →
    codec.parse (t ++ codec.print e) = none

section Reads

variable {codec : EntryCodec}

theorem EntryCodec.ReadsJson.print_ne_nil (hjson : codec.ReadsJson) (e : MockEntry) :
    codec.print e ≠ [] := by
  intro hnil
  have hparse := hjson.parse_print e
  rw [hnil, hjson.parse_nil] at hparse
  cases hparse

/-- A printed entry takes no carriage return with it. -/
theorem EntryCodec.ReadsJson.stripCr_glued (hjson : codec.ReadsJson) (t : Text) (e : MockEntry) :
    Text.stripCr (t ++ codec.print e) = t ++ codec.print e := by
  have hne := hjson.print_ne_nil e
  rw [Text.stripCr, if_neg]
  intro hlast
  rw [List.getLast?_append_of_ne_nil _ hne] at hlast
  exact (hjson.isLine_print e).no_cr (List.mem_of_getLast? hlast)

-- ============================================================== the maps

/-- The file's map: its complete lines, and the open line if it can be
read. -/
theorem readMocks_eq_complete (hjson : codec.ReadsJson) (content : Text) :
    readMocks codec content
      = match codec.parse (Text.openLine content) with
        | some e' => (readMocks codec (Text.complete content)).insert e'.key e'
        | none => readMocks codec (Text.complete content) := by
  have hlines := Text.lines_eq_complete content
  by_cases hopen : Text.openLine content = []
  · rw [if_pos hopen, List.append_nil] at hlines
    rw [hopen, hjson.parse_nil]
    unfold readMocks parseLines
    rw [hlines]
  · rw [if_neg hopen] at hlines
    exact readMocks_snoc hlines

/-- The file's map after the append. -/
theorem readMocks_append_to_open (hjson : codec.ReadsJson) (content : Text) (e : MockEntry) :
    readMocks codec (content ++ (codec.print e ++ ['\n']))
      = match codec.parse (Text.openLine content ++ codec.print e) with
        | some e' => (readMocks codec (Text.complete content)).insert e'.key e'
        | none => readMocks codec (Text.complete content) := by
  refine readMocks_snoc ?_
  rw [Text.lines_append_to_open (hjson.isLine_print e).no_lf, hjson.stripCr_glued]

/-- The open line holds nothing but blanks. -/
def OpenLineBlank (content : Text) : Prop := ∀ c ∈ Text.openLine content, isJsonBlank c = true

theorem parse_openLine_blank (hjson : codec.ReadsJson) {content : Text}
    (h : OpenLineBlank content) : codec.parse (Text.openLine content) = none := by
  have hparse := hjson.parse_blanks (Text.openLine content) [] h
  rw [List.append_nil, hjson.parse_nil] at hparse
  exact hparse

/-- Behind a blank line an append is an insert. -/
theorem readMocks_append_blank (hjson : codec.ReadsJson) {content : Text}
    (h : OpenLineBlank content) (e : MockEntry) :
    readMocks codec (content ++ (codec.print e ++ ['\n']))
      = (readMocks codec content).insert e.key e := by
  rw [readMocks_append_to_open hjson, hjson.parse_blanks _ _ h, hjson.parse_print,
    readMocks_eq_complete hjson content, parse_openLine_blank hjson h]

/-- Behind any other open line the append and the line are lost. -/
theorem readMocks_append_glued (hjson : codec.ReadsJson) {content : Text}
    (h : ¬ OpenLineBlank content) (e : MockEntry) :
    readMocks codec (content ++ (codec.print e ++ ['\n']))
      = readMocks codec (Text.complete content) := by
  have hsome : ∃ c ∈ Text.openLine content, isJsonBlank c = false := by
    simpa [OpenLineBlank] using h
  rw [readMocks_append_to_open hjson, hjson.parse_glued _ e hsome]

/-- The entry is the last one of its key on the complete lines. -/
def LastComplete (codec : EntryCodec) (content : Text) (e : MockEntry) : Prop :=
  ((parseLines codec (Text.complete content)).filter fun l => l.key = e.key).getLast? = some e

/-- Nothing is lost where the complete lines say it all already. -/
def AlreadyComplete (codec : EntryCodec) (content : Text) (e : MockEntry) : Prop :=
  LastComplete codec content e
    ∧ ∀ e', codec.parse (Text.openLine content) = some e' →
      e'.key = e.key ∨ LastComplete codec content e'

theorem lookup_complete {content : Text} {e : MockEntry} :
    (readMocks codec (Text.complete content)).lookup e.key = some e
      ↔ LastComplete codec content e := by
  unfold LastComplete
  rw [← lookup_lastWrites]
  rfl

/-- The complete lines alone make the map after the insert exactly when
nothing is lost. -/
theorem complete_eq_insert_iff (hjson : codec.ReadsJson) (content : Text) (e : MockEntry) :
    readMocks codec (Text.complete content) = (readMocks codec content).insert e.key e
      ↔ AlreadyComplete codec content e := by
  simp only [AlreadyComplete, ← lookup_complete]
  rw [readMocks_eq_complete hjson content]
  cases hopen : codec.parse (Text.openLine content) with
  | none =>
      simp only [reduceCtorEq, false_implies, implies_true, and_true]
      exact eq_comm.trans HashMap.insert_eq_self_iff
  | some e' =>
      simp only [Option.some.injEq, forall_eq']
      generalize readMocks codec (Text.complete content) = m
      by_cases hkey : e'.key = e.key
      · rw [hkey, Finmap.insert_insert]
        simp only [true_or, and_true]
        exact eq_comm.trans HashMap.insert_eq_self_iff
      · simp only [hkey, false_or]
        constructor
        · intro h
          refine ⟨by rw [h, Finmap.lookup_insert], ?_⟩
          rw [h, Finmap.lookup_insert_of_ne _ hkey, Finmap.lookup_insert]
        · rintro ⟨he, he'⟩
          rw [HashMap.insert_eq_self_iff.mpr he', HashMap.insert_eq_self_iff.mpr he]

/-- A file is loaded as a map that is not empty exactly when it stands for
it. -/
theorem loadOneSegment_eq_some_iff (rs : RandomState) {dir : Dir} {svc content : Text}
    (hfile : dir.lookup (mockFileName svc) = some content) {m : ServiceMocks} (hne : m ≠ ∅) :
    (loadOneSegment codec rs dir (mockFileName svc)).2 = some (svc, ⟨Finmap.singleton svc m⟩)
      ↔ readMocks codec content = m := by
  rw [loadOneSegment_snd, hfile, Option.bind_some, segmentOf]
  by_cases hsize : (readMocks codec content).size = 0
  · rw [if_pos hsize, HashMap.size_eq_zero.mp hsize]
    simp only [Option.map_none, reduceCtorEq, false_iff]
    exact hne.symm
  · rw [if_neg hsize]
    simp only [Option.map_some, Option.some.injEq, Prod.mk.injEq, true_and, MockSegment.mk.injEq]
    constructor
    · intro h
      have hlook := congrArg (Finmap.lookup svc) h
      rwa [Finmap.lookup_singleton_eq, Finmap.lookup_singleton_eq, Option.some.injEq] at hlook
    · intro h
      rw [h]

theorem lookup_appendToMockLog {dir : Dir} {svc content : Text}
    (hfile : dir.lookup (mockFileName svc) = some content) (line : Text) :
    (appendToMockLog dir svc line).lookup (mockFileName svc)
      = some (content ++ (line ++ ['\n'])) := by
  unfold appendToMockLog
  rw [Finmap.lookup_insert, hfile, Option.getD_some]

-- ================================================ what an append inserts

/-- After an append the file is loaded as the old map with the entry put in,
exactly when the file's last line was complete or blank, or the complete
lines said all of it before. -/
theorem appendToMockLog_inserts_iff (codec : EntryCodec) (rs : RandomState) (dir : Dir)
    (svc content : Text) (e : MockEntry) (hjson : codec.ReadsJson)
    (hfile : dir.lookup (mockFileName svc) = some content) :
    (loadOneSegment codec rs (appendToMockLog dir svc (codec.print e)) (mockFileName svc)).2
        = some (svc, ⟨Finmap.singleton svc ((readMocks codec content).insert e.key e)⟩)
      ↔ OpenLineBlank content ∨ AlreadyComplete codec content e := by
  rw [loadOneSegment_eq_some_iff rs (lookup_appendToMockLog hfile _)
    (HashMap.insert_ne_empty _ _ _)]
  by_cases hblank : OpenLineBlank content
  · exact iff_of_true (readMocks_append_blank hjson hblank e) (Or.inl hblank)
  · rw [readMocks_append_glued hjson hblank, complete_eq_insert_iff hjson, or_iff_right hblank]

end Reads

-- ============================================================ two entries

set_option maxRecDepth 4000 in
theorem getLine_not_suffix : ¬ getLine "/a" "first" <:+ getLine "/b" "second"
    ∧ ¬ getLine "/b" "second" <:+ getLine "/a" "first" := by
  decide

/-- No line of the sample codec ends in another one. -/
theorem sample_suffix {e e' : MockEntry} {t : Text}
    (h : sampleTable.print e' = t ++ sampleTable.print e) : t = [] := by
  have hno : '#' ∉ getLine "/a" "first" ∧ '#' ∉ getLine "/b" "second" := by decide
  have hyes : '\x7b' ∈ getLine "/a" "first" ∧ '\x7b' ∈ getLine "/b" "second" := by decide
  have hcross := getLine_not_suffix
  have hsame : ∀ l : Text, l = t ++ l → t = [] := fun l hl => by
    simpa using congrArg List.length hl
  rcases sampleTable.print_cases e' with ⟨r', hr', -, hp'⟩ | hp' <;>
    rcases sampleTable.print_cases e with ⟨r, hr, -, hp⟩ | hp <;> rw [hp', hp] at h
  · simp only [sampleTable, List.mem_cons, List.not_mem_nil, or_false] at hr hr'
    rcases hr' with rfl | rfl <;> rcases hr with rfl | rfl
    · exact hsame _ h
    · exact absurd ⟨t, h.symm⟩ hcross.2
    · exact absurd ⟨t, h.symm⟩ hcross.1
    · exact hsame _ h
  · have hmem : '#' ∈ r'.2 := by
      rw [h]
      simp
    simp only [sampleTable, List.mem_cons, List.not_mem_nil, or_false] at hr'
    rcases hr' with rfl | rfl
    · exact absurd hmem hno.1
    · exact absurd hmem hno.2
  · have hmem : '\x7b' ∈ '#' :: List.replicate (entryNumber e') '1' := by
      rw [h]
      simp only [sampleTable, List.mem_cons, List.not_mem_nil, or_false] at hr
      rcases hr with rfl | rfl
      · exact List.mem_append_right _ hyes.1
      · exact List.mem_append_right _ hyes.2
    simp at hmem
  · cases t with
    | nil => rfl
    | cons c t =>
        rw [List.cons_append, List.cons.injEq] at h
        have hmem : '#' ∈ List.replicate (entryNumber e') '1' := by
          rw [h.2]
          simp
        exact absurd (List.eq_of_mem_replicate hmem) (by decide)

/-- A line of the sample codec does not begin with a blank. -/
theorem dropWhile_sample (e : MockEntry) :
    (sampleTable.print e).dropWhile isJsonBlank = sampleTable.print e := by
  rcases sampleTable.print_cases e with ⟨r, hr, -, hp⟩ | hp
  · rw [hp]
    simp only [sampleTable, List.mem_cons, List.not_mem_nil, or_false] at hr
    rcases hr with rfl | rfl <;> rfl
  · rw [hp]
    rfl

theorem sample_ne_nil (e : MockEntry) : sampleTable.print e ≠ [] := by
  rcases sampleTable.print_cases e with ⟨r, hr, -, hp⟩ | hp
  · rw [hp]
    simp only [sampleTable, List.mem_cons, List.not_mem_nil, or_false] at hr
    rcases hr with rfl | rfl <;> decide
  · rw [hp]
    exact List.cons_ne_nil _ _

theorem sampleCodec_parse_eq_none {l : Text} (h : ∀ e, sampleTable.print e ≠ l) :
    sampleCodec.parse l = none := dif_neg fun ⟨e, he⟩ => h e he

/-- The sample codec, behind blanks. -/
noncomputable def jsonCodec : EntryCodec where
  parse := fun l => sampleCodec.parse (l.dropWhile isJsonBlank)
  print := sampleCodec.print

theorem jsonCodec_readsJson : jsonCodec.ReadsJson where
  parse_print := by
    intro e
    show sampleCodec.parse ((sampleTable.print e).dropWhile isJsonBlank) = some e
    rw [dropWhile_sample]
    exact sampleCodec_lawful.parse_print e
  isLine_print := sampleCodec_lawful.isLine_print
  parse_nil := sampleCodec_parse_eq_none sample_ne_nil
  parse_blanks := by
    intro blanks l hblanks
    show sampleCodec.parse ((blanks ++ l).dropWhile isJsonBlank)
      = sampleCodec.parse (l.dropWhile isJsonBlank)
    rw [List.dropWhile_append_of_pos hblanks]
  parse_glued := by
    rintro t e ⟨c, hc, hcb⟩
    have hne : t.dropWhile isJsonBlank ≠ [] := by
      intro hnil
      rw [List.dropWhile_eq_nil_iff] at hnil
      rw [hnil c hc] at hcb
      cases hcb
    show sampleCodec.parse ((t ++ sampleTable.print e).dropWhile isJsonBlank) = none
    rw [List.dropWhile_append, if_neg (by simpa using hne)]
    exact sampleCodec_parse_eq_none fun e' he' => hne (sample_suffix he')

/-- A file of one entry, saved without a line feed. -/
noncomputable def savedByHand : Text := jsonCodec.print entryA

theorem lf_not_mem_savedByHand : '\n' ∉ savedByHand :=
  (jsonCodec_readsJson.isLine_print entryA).no_lf

theorem savedByHand_open : ¬ OpenLineBlank savedByHand := by
  intro hblank
  rw [OpenLineBlank, Text.openLine_eq_self lf_not_mem_savedByHand] at hblank
  have hnil : (sampleTable.print entryA).dropWhile isJsonBlank = [] :=
    List.dropWhile_eq_nil_iff.mpr hblank
  rw [dropWhile_sample] at hnil
  exact sample_ne_nil entryA hnil

/-- An append to that file does not insert its entry; ended by a line feed,
the file takes it. -/
theorem appendToMockLog_inserts_savedByHand :
    (loadOneSegment jsonCodec default
        (appendToMockLog (Finmap.singleton (mockFileName "pay") savedByHand) "pay"
          (jsonCodec.print entryB)) (mockFileName "pay")).2
        ≠ some (("pay" : Text),
          ⟨Finmap.singleton "pay" ((readMocks jsonCodec savedByHand).insert entryB.key entryB)⟩)
      ∧ (loadOneSegment jsonCodec default
        (appendToMockLog (Finmap.singleton (mockFileName "pay") (savedByHand ++ ['\n'])) "pay"
          (jsonCodec.print entryB)) (mockFileName "pay")).2
        = some (("pay" : Text), ⟨Finmap.singleton "pay"
          ((readMocks jsonCodec (savedByHand ++ ['\n'])).insert entryB.key entryB)⟩) := by
  constructor
  · rw [Ne, appendToMockLog_inserts_iff jsonCodec default _ "pay" savedByHand entryB
      jsonCodec_readsJson Finmap.lookup_singleton_eq]
    rintro (hblank | ⟨hlast, -⟩)
    · exact savedByHand_open hblank
    · rw [LastComplete, Text.complete_eq_nil lf_not_mem_savedByHand] at hlast
      cases hlast
  · refine (appendToMockLog_inserts_iff jsonCodec default _ "pay" (savedByHand ++ ['\n']) entryB
      jsonCodec_readsJson Finmap.lookup_singleton_eq).mpr (Or.inl ?_)
    have hopen : Text.openLine (savedByHand ++ ['\n']) = [] :=
      List.rtakeWhile_concat_neg _ _ _ (by decide)
    rw [OpenLineBlank, hopen]
    exact fun c hc => absurd hc List.not_mem_nil

/-- The entry is lost with the line it was glued to. -/
theorem appendToMockLog_savedByHand :
    ¬ ∀ codec : EntryCodec, codec.Lawful → ∀ (rs : RandomState) (dir : Dir) (svc content : Text)
        (e : MockEntry), dir.lookup (mockFileName svc) = some content →
      (loadOneSegment codec rs (appendToMockLog dir svc (codec.print e)) (mockFileName svc)).2
        = some (svc, ⟨Finmap.singleton svc ((readMocks codec content).insert e.key e)⟩) := by
  intro h
  have hfile : (Finmap.singleton (mockFileName "pay") savedByHand : Dir).lookup
      (mockFileName "pay") = some savedByHand := Finmap.lookup_singleton_eq
  have hload := h jsonCodec jsonCodec_readsJson.toLawful default _ "pay" savedByHand entryB hfile
  rw [loadOneSegment_eq_some_iff default (lookup_appendToMockLog hfile _)
    (HashMap.insert_ne_empty _ _ _),
    readMocks_append_glued jsonCodec_readsJson savedByHand_open,
    Text.complete_eq_nil lf_not_mem_savedByHand] at hload
  exact HashMap.insert_ne_empty _ _ _ hload.symm

end GostlyProxy
