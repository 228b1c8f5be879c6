/-
Files of older versions, and files that other tools write.

A line says an entry when it is a JSON object that spells it
(`Proofs/Serde.lean`): the fields may stand in any order, among others,
and the fields that came later may be missing. A directory of such files
loads as the same library as the directory this version would have
written, whatever lines that are no entries lie between.
-/
import GostlyProxy.Proofs.Serde

namespace GostlyProxy

open Lib

-- ================================================ the ways to write an entry

def MockRequest.SpelledBy (r : MockRequest) (d : Doc) : Prop :=
  ∃ ms, d = .object ms ∧ Spells r.members [] ms

/-- The headers may be written in any order, and more than once. -/
def MockResponse.SpelledBy (r : MockResponse) (d : Doc) : Prop :=
  ∃ headers ms, d = .object ms ∧ Spells (r.members headers) [] ms
    ∧ Doc.asMap Doc.asString headers = some r.headers

def MockEntry.SpelledBy (e : MockEntry) (d : Doc) : Prop :=
  ∃ request response ms, d = .object ms
    ∧ Spells (e.members request response) e.optional ms
    ∧ e.request.SpelledBy request ∧ e.response.SpelledBy response

theorem MockEntry.SpelledBy.deserialize {e : MockEntry} {d : Doc} (h : e.SpelledBy d) :
    MockEntry.deserialize d = some e := by
  obtain ⟨request, response, ms, rfl, hspells, ⟨reqMs, rfl, hreq⟩,
    headers, resMs, rfl, hres, hheaders⟩ := h
  exact MockEntry.deserialize_of_spells hspells (MockRequest.deserialize_of_spells hreq)
    (MockResponse.deserialize_of_spells hres hheaders)

section Lines

variable (lib : JsonLibrary) (order : RandomState)

/-- The line says the entry, or is none. -/
inductive LineSays : Text → Option MockEntry → Prop where
  | entry {line : Text} {d : Doc} {e : MockEntry} (hline : Text.IsLine line)
      (hparse : lib.parse line = some d) (hspelled : e.SpelledBy d) : LineSays line (some e)
  | junk {line : Text} (hline : Text.IsLine line)
      (hparse : (entryCodec lib order).parse line = none) : LineSays line none

/-- The text of some lines. -/
def linesText (lines : List Text) : Text := lines.flatMap fun l => l ++ ['\n']

/-- The text `new` is what this version writes for the entries that the
lines of `old` say. -/
def Rewrites (old new : Text) : Prop :=
  ∃ lines said, List.Forall₂ (LineSays lib order) lines said ∧ old = linesText lines
    ∧ new = linesText ((said.filterMap id).map (entryCodec lib order).print)

variable {lib order}

theorem LineSays.isLine {line : Text} {said : Option MockEntry}
    (h : LineSays lib order line said) : Text.IsLine line := by
  cases h with
  | entry hline _ _ => exact hline
  | junk hline _ => exact hline

theorem LineSays.parse_eq {line : Text} {said : Option MockEntry}
    (h : LineSays lib order line said) : (entryCodec lib order).parse line = said := by
  cases h with
  | entry _ hparse hspelled =>
      show (lib.parse line).bind MockEntry.deserialize = _
      rw [hparse, Option.bind_some, hspelled.deserialize]
  | junk _ hparse => exact hparse

theorem lines_linesText {lines : List Text} (h : ∀ l ∈ lines, Text.IsLine l) :
    Text.lines (linesText lines) = lines := by
  induction lines using List.reverseRecOn with
  | nil => rfl
  | append_singleton lines l ih =>
      have hterminated : Text.NewlineTerminated (linesText lines) :=
        Text.newlineTerminated_flatMap (fun l => l) lines
      have happend : linesText (lines ++ [l]) = linesText lines ++ (l ++ ['\n']) := by
        simp [linesText]
      rw [happend, Text.lines_append_line hterminated (h l (by simp)),
        ih fun l' hl' => h l' (List.mem_append_left _ hl')]

/-- The entries of old lines are those they say. -/
theorem filterMap_said {lines : List Text} {said : List (Option MockEntry)}
    (h : List.Forall₂ (LineSays lib order) lines said) :
    lines.filterMap (entryCodec lib order).parse = said.filterMap id := by
  induction h with
  | nil => rfl
  | cons hline _ ih => rw [List.filterMap_cons, hline.parse_eq, List.filterMap_cons, ih]; rfl

/-- Old and new text stand for the same map. -/
theorem Rewrites.readMocks_eq (hlib : lib.Lawful maxNesting) {old new : Text}
    (h : Rewrites lib order old new) :
    readMocks (entryCodec lib order) old = readMocks (entryCodec lib order) new := by
  obtain ⟨lines, said, hsaid, rfl, rfl⟩ := h
  have hlawful := entryCodec_lawful hlib order
  have hold : ∀ l ∈ lines, Text.IsLine l := by
    intro l hl
    obtain ⟨i, hi, rfl⟩ := List.getElem_of_mem hl
    exact (hsaid.get hi (by rw [← hsaid.length_eq]; exact hi)).isLine
  have hnew : ∀ l ∈ (said.filterMap id).map (entryCodec lib order).print, Text.IsLine l := by
    intro l hl
    obtain ⟨e, -, rfl⟩ := List.mem_map.mp hl
    exact hlawful.isLine_print e
  have hentries : parseLines (entryCodec lib order) (linesText lines)
      = parseLines (entryCodec lib order)
        (linesText ((said.filterMap id).map (entryCodec lib order).print)) := by
    unfold parseLines
    rw [lines_linesText hold, lines_linesText hnew, filterMap_said hsaid, List.filterMap_map]
    calc said.filterMap id = (said.filterMap id).filterMap some := (List.filterMap_some).symm
      _ = (said.filterMap id).filterMap
          ((entryCodec lib order).parse ∘ (entryCodec lib order).print) :=
        List.filterMap_congr fun e _ => (hlawful.parse_print e).symm
  unfold readMocks
  rw [hentries]

end Lines

/-- A directory whose files other versions or tools wrote loads as the
library of the directory that this version would have written, in any hash
orders. -/
theorem old_files_load (lib : JsonLibrary) (order rs rs' : RandomState) (old new : Dir)
    (hlib : lib.Lawful maxNesting)
    (hfiles : ∀ svc, Option.Rel (Rewrites lib order) (old.lookup (mockFileName svc))
      (new.lookup (mockFileName svc))) :
    (reloadFull (entryCodec lib order) rs old).2.segments
      = (reloadFull (entryCodec lib order) rs' new).2.segments := by
  apply Finmap.ext_lookup
  intro svc
  show (loadAllServiceMocks _ rs old).2.segments.lookup svc
    = (loadAllServiceMocks _ rs' new).2.segments.lookup svc
  rw [lookup_loadAll, lookup_loadAll]
  have hfile := hfiles svc
  cases hold : old.lookup (mockFileName svc) with
  | none =>
      rw [hold] at hfile
      cases hnew : new.lookup (mockFileName svc) with
      | none => rfl
      | some text =>
          rw [hnew] at hfile
          cases hfile
  | some text =>
      rw [hold] at hfile
      cases hnew : new.lookup (mockFileName svc) with
      | none =>
          rw [hnew] at hfile
          cases hfile
      | some text' =>
          rw [hnew] at hfile
          cases hfile with
          | some hrewrites =>
              rw [Option.bind_some, Option.bind_some, segmentOf, segmentOf,
                hrewrites.readMocks_eq hlib]

/-- An entry as it was recorded before tenants and workload classes. -/
def oldEntry : MockEntry where
  id := "e1"
  timestamp := "2024-01-01T00:00:00Z"
  request := { method := "GET", uri := "/charges", body := [] }
  response := { status := 200, headers := ∅, body := "[]", latencyMs := 12 }
  serviceId := none
  tenant := globalTenant
  workloadClass := defaultWorkloadClass

def oldHeaders : Doc := .object []

/-- The older document: the fields the other way round, one that is not
known any more, and none of the later ones. -/
def oldDocument : Doc :=
  .object [("response", .object (oldEntry.response.members oldHeaders)),
    ("source", .null), ("request", .object oldEntry.request.members),
    ("timestamp", .string oldEntry.timestamp), ("id", .string oldEntry.id)]

theorem oldEntry_spelledBy : oldEntry.SpelledBy oldDocument := by
  have hskips := (Skips.refl oldEntry.optional ((oldEntry.members
      (.object oldEntry.request.members) (.object (oldEntry.response.members oldHeaders))).take
        4)).append ((Skips.skip (d := .null) (show ("service_id" : Text) ∈ _ by decide)).append
      ((Skips.skip (d := .string globalTenant) (show ("tenant" : Text) ∈ _ by decide)).append
        (Skips.skip (d := .string defaultWorkloadClass)
          (show ("workload_class" : Text) ∈ _ by decide))))
  refine ⟨.object oldEntry.request.members, .object (oldEntry.response.members oldHeaders), _,
    rfl, ⟨_, hskips.sublist, hskips.all, ?_⟩,
    ⟨_, rfl, .of_skips (.refl _ _)⟩, oldHeaders, _, rfl, .of_skips (.refl _ _), rfl⟩
  exact List.reverse_perm ((oldEntry.members (.object oldEntry.request.members)
    (.object (oldEntry.response.members oldHeaders))).take 4)

theorem oldDocument_printable : oldDocument.Printable maxNesting := by
  refine .object fun m hm => ?_
  simp only [List.mem_cons, List.not_mem_nil, or_false] at hm
  rcases hm with rfl | rfl | rfl | rfl | rfl
  · refine .object fun m hm => ?_
    simp only [MockResponse.members, List.mem_cons, List.not_mem_nil, or_false] at hm
    rcases hm with rfl | rfl | rfl | rfl
    · exact Doc.printable_ofUnsigned _ _
    · exact .object fun m hm => by cases hm
    · exact .string _
    · exact Doc.printable_ofUnsigned _ _
  · exact .null
  · exact oldEntry.request.printable _
  · exact .string _
  · exact .string _

/-- The old line, and half of another. -/
def oldLines : List Text := [JsonLibrary.compact.print oldDocument, ['\x7b', '"', 'i']]

def oldDir : Dir := Finmap.singleton (mockFileName "pay") (linesText oldLines)

def upgradedDir (order : RandomState) : Dir :=
  Finmap.singleton (mockFileName "pay")
    (linesText [(entryCodec JsonLibrary.compact order).print oldEntry])

theorem rewrites_oldLines (order : RandomState) :
    Rewrites JsonLibrary.compact order (linesText oldLines)
      (linesText [(entryCodec JsonLibrary.compact order).print oldEntry]) := by
  have hlib := JsonLibrary.compact_lawful maxNesting
  refine ⟨oldLines, [some oldEntry, none], .cons (.entry ?_ ?_ oldEntry_spelledBy)
    (.cons (.junk ⟨by decide, by decide⟩ rfl) .nil), rfl, rfl⟩
  · exact (hlib.visible_print _ oldDocument_printable).isLine
  · exact hlib.parse_print _ oldDocument_printable

/-- A directory with a file of an older version. -/
theorem old_files_load_pay :
    (reloadFull (entryCodec JsonLibrary.compact default) default oldDir).2.segments
      = (reloadFull (entryCodec JsonLibrary.compact default) default
          (upgradedDir default)).2.segments := by
  refine old_files_load JsonLibrary.compact default default default oldDir _
    (JsonLibrary.compact_lawful maxNesting) fun svc => ?_
  unfold oldDir upgradedDir
  by_cases hsvc : mockFileName svc = mockFileName "pay"
  · rw [hsvc, Finmap.lookup_singleton_eq, Finmap.lookup_singleton_eq]
    exact .some (rewrites_oldLines default)
  · have hnot : ∀ text : Text, Finmap.lookup (mockFileName svc)
        (Finmap.singleton (mockFileName "pay") text : Dir) = none := fun text =>
      Finmap.lookup_eq_none.mpr (by simpa using hsvc)
    rw [hnot, hnot]
    exact .none

end GostlyProxy
