/-
Records whose line feed is a write of its own.

`persist_jsonl` and `wide_events::append` open the file for appending and
make two writes, the record and its line feed; calls of detached tasks come
between them. `jsonl_wholeLines_iff` says which interleavings leave a file that
holds the line of every call, whole and once: those in which every record
is written while no other call stands between its two writes. Such a file
is read back as the records (`parseResources_wholeLines`).
-/
import GostlyProxy.Lib.Appenders
import GostlyProxy.Model.Files

namespace GostlyProxy

open Lib

-- ========================================================== whole lines

/-- The lines of the file are those of the calls, each once. -/
def WholeLines {n : Nat} (lines : Fin n → Text) (file : Text) : Prop :=
  (Text.lines file).Perm (List.ofFn lines)

theorem wholeLines_iff_alone {n : Nat} {α : Type} (codec : LineCodec α) (records : Fin n → α)
    (hprints : ∀ i, codec.PrintsLine (records i)) (run : List (Fin n))
    {s : Appenders.State (Fin n)}
    (hrun : Machine.exec Appenders.step
      (Appenders.State.start fun i => Appenders.twoWrites (codec.print (records i))) run
        = some s)
    (hdone : s.Done) :
    WholeLines (fun i => codec.print (records i)) s.file
      ↔ Machine.Along Appenders.step Appenders.Alone
        (Appenders.State.start fun i => Appenders.twoWrites (codec.print (records i)))
        run := by
  rw [← Appenders.lines_eq_records_iff (fun i => codec.print (records i))
    (fun i => (hprints i).isLine) (fun i => (hprints i).ne_nil) hrun hdone, WholeLines,
    Fin.univ_val_map, Multiset.coe_eq_coe]

/-- A file of whole lines is read back as the resources that were persisted. -/
theorem parseResources_wholeLines {n : Nat} {codec : ResourceCodec}
    {states : Fin n → ResourceState} (hround : ∀ i, codec.RoundTrips (states i))
    {file : Text} (h : WholeLines (fun i => codec.print (states i)) file) :
    (parseResources codec file).Perm (List.ofFn states) := by
  have hlines : List.ofFn (fun i => codec.print (states i))
      = (List.ofFn states).map codec.print := by
    rw [List.map_ofFn]
    rfl
  have hstates : ∀ r ∈ List.ofFn states, codec.RoundTrips r := by
    intro r hr
    obtain ⟨i, rfl⟩ := List.mem_ofFn.mp hr
    exact hround i
  unfold WholeLines at h
  rw [hlines] at h
  have hparsed := (h.filter fun l => !(Text.trim l).isEmpty).filterMap codec.parse
  rw [LineCodec.filter_nonblank fun r hr => (hstates r hr).toPrintsLine,
    LineCodec.filterMap_printed hstates] at hparsed
  exact hparsed

-- ============================================================= the callers

/-- Concurrent calls of `persist_jsonl` for one service, or of
`wide_events::append` in one directory, whose writes are all made: the file
holds the line of every call, whole and once, exactly when each record was
written while no other call stood between its two writes. A file of
resources is then read back as the resources. -/
theorem jsonl_wholeLines_iff (resources : ResourceCodec) (events : WideEventCodec) :
    (∀ (n : Nat) (states : Fin n → ResourceState) (run : List (Fin n))
      (s : Appenders.State (Fin n)), (∀ i, resources.PrintsLine (states i)) →
      Machine.exec Appenders.step
        (Appenders.State.start fun i => persistWrites resources (states i)) run = some s →
      s.Done →
      (WholeLines (fun i => resources.print (states i)) s.file
        ↔ Machine.Along Appenders.step Appenders.Alone
          (Appenders.State.start fun i => persistWrites resources (states i)) run)
      ∧ ((∀ i, resources.RoundTrips (states i)) →
        WholeLines (fun i => resources.print (states i)) s.file →
        (parseResources resources s.file).Perm (List.ofFn states)))
    ∧ ∀ (n : Nat) (calls : Fin n → WideEvent) (run : List (Fin n))
      (s : Appenders.State (Fin n)), (∀ i, events.PrintsLine (calls i)) →
      Machine.exec Appenders.step
        (Appenders.State.start fun i => wideEventWrites events (calls i)) run = some s →
      s.Done →
      (WholeLines (fun i => events.print (calls i)) s.file
        ↔ Machine.Along Appenders.step Appenders.Alone
          (Appenders.State.start fun i => wideEventWrites events (calls i)) run) := by
  refine ⟨fun n states run s hprints hrun hdone => ⟨?_, ?_⟩,
    fun n calls run s hprints hrun hdone => ?_⟩
  · exact wholeLines_iff_alone resources states hprints run hrun hdone
  · exact fun hround hwhole => parseResources_wholeLines hround hwhole
  · exact wholeLines_iff_alone events calls hprints run hrun hdone

-- ========================================================== two captures

/-- A charge as it is captured. -/
def chargeState (id amount : Text) : ResourceState :=
  ResourceStore.captured none "charges" id
    (.object [("amount", .number amount), ("id", .string id)]) none 201 0

/-- The line the JSON library prints for it. -/
def chargeLine (id amount : Text) : Text :=
  ("\x7b\"collection\":\"charges\",\"id\":\"" : Text) ++ id
  ++ ("\",\"body\":\x7b\"amount\":" : Text) ++ amount ++ (",\"id\":\"" : Text) ++ id
  ++ ("\"\x7d,\"created_at\":\"1970-01-01T00:00:00+00:00\",\"updated_at\":\"1970-01-01T00:00:00+00:00\",\"status\":201,\"content_type\":\"application/json\"\x7d" : Text)

/-- The ids and amounts of three charges. -/
def charges : List (Text × Text) := [("ch_1", "1"), ("ch_1", "2"), ("ch_2", "1")]

/-- The JSON library on the three charges. -/
def chargeCodec : ResourceCodec where
  parse := fun line =>
    (charges.find? fun r => chargeLine r.1 r.2 = line).map fun r => chargeState r.1 r.2
  print := fun r =>
    match r.body with
    | .object [(_, .number amount), _] => chargeLine r.id amount
    | _ => []

set_option maxRecDepth 4000 in
theorem roundTrips_chargeState {id amount : Text} (h : (id, amount) ∈ charges) :
    chargeCodec.RoundTrips (chargeState id amount) := by
  simp only [charges, List.mem_cons, List.not_mem_nil, or_false, Prod.mk.injEq] at h
  rcases h with ⟨rfl, rfl⟩ | ⟨rfl, rfl⟩ | ⟨rfl, rfl⟩
  · exact ⟨⟨⟨by decide, by decide⟩, by decide⟩, rfl⟩
  · exact ⟨⟨⟨by decide, by decide⟩, by decide⟩, rfl⟩
  · exact ⟨⟨⟨by decide, by decide⟩, by decide⟩, rfl⟩

/-- Two charges of one service. -/
def twoCharges (i : Fin 2) : ResourceState :=
  if i = 0 then chargeState "ch_1" "1" else chargeState "ch_2" "1"

theorem roundTrips_twoCharges (i : Fin 2) : chargeCodec.RoundTrips (twoCharges i) := by
  unfold twoCharges
  split
  · exact roundTrips_chargeState (by decide)
  · exact roundTrips_chargeState (by decide)

/-- A recorded request, as an event. -/
def recordedEvent (id : Text) : WideEvent where
  id := id
  ts := "1970-01-01T00:00:00+00:00"
  eventType := "request_recorded"
  serviceId := none
  attrs := [("method", .string "GET")]

/-- The JSON library on such events; nothing reads them back. -/
def eventCodec : WideEventCodec where
  parse := fun _ => none
  print := fun e =>
    ("\x7b\"id\":\"" : Text) ++ e.id ++ ("\",\"ts\":\"" : Text) ++ e.ts
    ++ ("\",\"event_type\":\"" : Text) ++ e.eventType
    ++ ("\",\"attrs\":\x7b\"method\":\"GET\"\x7d\x7d" : Text)

/-- Two events of one directory. -/
def twoEvents (i : Fin 2) : WideEvent :=
  if i = 0 then recordedEvent "0" else recordedEvent "1"

theorem printsLine_twoEvents (i : Fin 2) : eventCodec.PrintsLine (twoEvents i) := by
  unfold twoEvents
  split
  · exact ⟨⟨by decide, by decide⟩, by decide⟩
  · exact ⟨⟨by decide, by decide⟩, by decide⟩

/-- Of two callers with two writes each, none is in between when the other
begins. -/
theorem alone_one_after_the_other (lines : Fin 2 → Text) :
    Machine.Along Appenders.step Appenders.Alone
      (Appenders.State.start fun i => Appenders.twoWrites (lines i)) [0, 0, 1, 1] := by
  refine (Machine.along_cons rfl).mpr ⟨?_, (Machine.along_cons rfl).mpr ⟨?_,
    (Machine.along_cons rfl).mpr ⟨?_, (Machine.along_cons rfl).mpr ⟨?_, trivial⟩⟩⟩⟩
  · exact fun _ => Fin.forall_fin_two.mpr ⟨by show 2 ≠ 1; decide, by show 2 ≠ 1; decide⟩
  · intro h
    cases h
  · exact fun _ => Fin.forall_fin_two.mpr ⟨by show 0 ≠ 1; decide, by show 2 ≠ 1; decide⟩
  · intro h
    cases h

/-- One call after the other, in both files. -/
theorem wholeLines_in_turn :
    (∃ s, Machine.exec Appenders.step
        (Appenders.State.start fun i => persistWrites chargeCodec (twoCharges i))
        [0, 0, 1, 1] = some s
      ∧ WholeLines (fun i => chargeCodec.print (twoCharges i)) s.file
      ∧ (parseResources chargeCodec s.file).Perm (List.ofFn twoCharges))
    ∧ ∃ s, Machine.exec Appenders.step
        (Appenders.State.start fun i => wideEventWrites eventCodec (twoEvents i))
        [0, 0, 1, 1] = some s
      ∧ WholeLines (fun i => eventCodec.print (twoEvents i)) s.file := by
  obtain ⟨hresources, hevents⟩ := jsonl_wholeLines_iff chargeCodec eventCodec
  constructor
  · obtain ⟨hiff, hread⟩ := hresources 2 twoCharges [0, 0, 1, 1] _
      (fun i => (roundTrips_twoCharges i).toPrintsLine) rfl
      (Fin.forall_fin_two.mpr ⟨rfl, rfl⟩)
    have hwhole := hiff.mpr (alone_one_after_the_other _)
    exact ⟨_, rfl, hwhole, hread roundTrips_twoCharges hwhole⟩
  · have hiff := hevents 2 twoEvents [0, 0, 1, 1] _ printsLine_twoEvents rfl
      (Fin.forall_fin_two.mpr ⟨rfl, rfl⟩)
    exact ⟨_, rfl, hiff.mpr (alone_one_after_the_other _)⟩

/-- Both records, then both line feeds: the two charges are on one line. -/
theorem crossed_charges_share_line :
    ∃ s, Machine.exec Appenders.step
        (Appenders.State.start fun i => persistWrites chargeCodec (twoCharges i))
        [0, 1, 0, 1] = some s
      ∧ s.Done
      ∧ s.file = chargeLine "ch_1" "1" ++ (chargeLine "ch_2" "1" ++ ['\n', '\n'])
      ∧ ¬ WholeLines (fun i => chargeCodec.print (twoCharges i)) s.file := by
  refine ⟨_, rfl, Fin.forall_fin_two.mpr ⟨rfl, rfl⟩, ?_, fun hwhole => ?_⟩
  · show [] ++ chargeLine "ch_1" "1" ++ chargeLine "ch_2" "1" ++ ['\n'] ++ ['\n'] = _
    rw [List.nil_append, List.append_assoc, List.append_assoc]
    rfl
  have halone := (wholeLines_iff_alone chargeCodec twoCharges
    (fun i => (roundTrips_twoCharges i).toPrintsLine) [0, 1, 0, 1] rfl
    (Fin.forall_fin_two.mpr ⟨rfl, rfl⟩)).mp hwhole
  -- The second record is written while the first call is in between.
  have hsecond := ((Machine.along_cons rfl).mp ((Machine.along_cons rfl).mp halone).2).1
  exact hsecond rfl 0 rfl

end GostlyProxy
