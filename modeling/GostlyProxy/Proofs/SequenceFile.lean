/-
The sequences in memory and in their file, once all saves have run.

Every create and delete leaves behind a save of the list it left, and the
saves run in any order, each writing the whole file. So the list in memory
is the last one that was spawned and the file is the last one that was
saved (`listsOf_exec`), and they agree exactly when these two are the same
list (`sequence_file_agrees_iff`).
-/
import GostlyProxy.Lib.Detached
import GostlyProxy.Model.Files

namespace GostlyProxy

open Lib

-- ============================================================== the file

section Saves

variable (codec : SequenceCodec) (path : Text)

variable {codec path} in
/-- What is saved is what is loaded. -/
theorem loadSequences_text {seqs : List MockSequence}
    (hround : ∀ seq ∈ seqs, codec.RoundTrips seq) :
    codec.parseLines (sequencesText codec seqs) = seqs := by
  unfold sequencesText
  cases seqs with
  | nil => rfl
  | cons seq seqs => exact LineCodec.parseLines_joined (List.cons_ne_nil _ _) hround

theorem lookup_saveSequences (dir : Dir) (seqs : List MockSequence) :
    (saveSequences codec dir path seqs).lookup path = some (sequencesText codec seqs) := by
  unfold saveSequences replaceFile
  rw [Finmap.lookup_insert]

-- =============================================================== the runs

/-- A call on the state and the directory: the save is left behind. -/
def sequenceOp (s : AppState × Dir) (call : SequenceCall) :
    (AppState × Dir) × List (List MockSequence) :=
  (((handleSequenceCall s.1 call).1, s.2), (handleSequenceCall s.1 call).2)

/-- One save runs to its end. -/
def runSave (s : AppState × Dir) (_ : Unit) (snapshot : List MockSequence) :
    AppState × Dir :=
  (s.1, saveSequences codec s.2 path snapshot)

/-- The state as it is booted from the file. -/
def bootedWithSequences (mode : Mode) (library : MockLibrary) (store : ResourceStore)
    (dir : Dir) : AppState × Dir :=
  (AppState.boot mode library (loadSequences codec dir path) store, dir)

/-- The list in memory is the last one spawned and the text in the file the
last one saved; without any they are as at boot. -/
structure ListsOf (boot : AppState × Dir) (s : AppState × Dir)
    (spawned completed : List (List MockSequence)) : Prop where
  memory : s.1.sequences = spawned.getLast?.getD boot.1.sequences
  file : s.2.lookup path
    = (completed.getLast?.map (sequencesText codec)).or (boot.2.lookup path)

theorem listsOf_exec {boot : AppState × Dir}
    {run : List (Detached.Action SequenceCall Unit)}
    {w : Detached.World (AppState × Dir) (List MockSequence)}
    (hrun : Machine.exec (Detached.step sequenceOp (runSave codec path))
      (Detached.World.start boot) run = some w) :
    ListsOf codec path boot w.state w.spawned w.completed := by
  refine Detached.exec_inv (P := fun _ => True) ?_ ?_ ⟨rfl, rfl⟩ (fun _ _ => trivial) hrun
  · intro s spawned completed call _ h
    refine ⟨?_, h.file⟩
    rw [sequenceOp, handleSequenceCall, List.getLast?_append]
    rfl
  · intro s spawned completed _ snapshot _ h
    refine ⟨h.memory, ?_⟩
    rw [runSave, lookup_saveSequences, List.getLast?_append]
    rfl

/-- Once every save has run, the file is read back as the list in memory
exactly when the save that ran last is of the list that was spawned
last. -/
theorem sequence_file_agrees_iff (mode : Mode) (library : MockLibrary)
    (store : ResourceStore) (dir : Dir) (run : List (Detached.Action SequenceCall Unit))
    (w : Detached.World (AppState × Dir) (List MockSequence))
    (hrun : Machine.exec (Detached.step sequenceOp (runSave codec path))
      (Detached.World.start (bootedWithSequences codec path mode library store dir)) run
        = some w)
    (hquiet : w.Quiescent)
    (hround : ∀ snapshot ∈ w.spawned, ∀ seq ∈ snapshot, codec.RoundTrips seq) :
    loadSequences codec w.state.2 path = w.state.1.sequences
      ↔ w.completed.getLast? = w.spawned.getLast? := by
  have hlists := listsOf_exec codec path hrun
  have hperm := Detached.completed_perm hrun hquiet
  unfold loadSequences
  rw [hlists.memory, hlists.file]
  cases hcompleted : w.completed.getLast? with
  | none =>
      rw [List.getLast?_eq_none_iff] at hcompleted
      rw [hcompleted, List.nil_perm] at hperm
      rw [hperm]
      exact iff_of_true rfl rfl
  | some saved =>
      have hmem := hperm.mem_iff.mp (List.mem_of_getLast? hcompleted)
      have hne : w.spawned ≠ [] := List.ne_nil_of_mem hmem
      rw [List.getLast?_eq_getLast_of_ne_nil hne, Option.getD_some, Option.map_some,
        Option.some_or]
      dsimp only
      rw [loadSequences_text (hround saved hmem), Option.some.injEq]

end Saves

-- ========================================================== two sequences

/-- A sequence without responses. -/
def plainSequence (id : Text) : MockSequence where
  id := id
  method := "GET"
  uri := "/a"
  responses := []
  loopResponses := false

/-- The line the JSON library prints for it. -/
def plainLine (id : Text) : Text :=
  ("\x7b\"id\":\"" : Text) ++ id
  ++ ("\",\"method\":\"GET\",\"uri\":\"/a\",\"responses\":[],\"loop_responses\":false\x7d" : Text)

/-- The JSON library on two of them. -/
def sampleSequenceCodec : SequenceCodec where
  parse := fun line =>
    if line = plainLine "s1" then some (plainSequence "s1")
    else if line = plainLine "s2" then some (plainSequence "s2") else none
  print := fun seq => plainLine seq.id

theorem plainLine_ne : plainLine "s2" ≠ plainLine "s1" := by decide

theorem roundTrips_s1 : sampleSequenceCodec.RoundTrips (plainSequence "s1") where
  isLine := ⟨by decide, by decide⟩
  nonblank := by decide
  parse_print := by
    dsimp only [sampleSequenceCodec, plainSequence]
    rw [if_pos rfl]

theorem roundTrips_s2 : sampleSequenceCodec.RoundTrips (plainSequence "s2") where
  isLine := ⟨by decide, by decide⟩
  nonblank := by decide
  parse_print := by
    dsimp only [sampleSequenceCodec, plainSequence]
    rw [if_neg plainLine_ne, if_pos rfl]

/-- Two sequences are posted, and their two saves run. -/
def twoPosts (first second : Nat) : List (Detached.Action SequenceCall Unit) :=
  [.op (.create (plainSequence "s1")), .op (.create (plainSequence "s2")), .complete first (),
    .complete second ()]

def sequencesPath : Text := "data/sequences.jsonl"

/-- A proxy booted without a file. -/
def bootedEmpty : AppState × Dir :=
  bootedWithSequences sampleSequenceCodec sequencesPath .mock MockLibrary.new
    (ResourceStore.new none) ∅

theorem roundTrips_saved {snapshot : List MockSequence}
    (h : snapshot ∈ [[plainSequence "s1"], [plainSequence "s1", plainSequence "s2"]]) :
    ∀ seq ∈ snapshot, sampleSequenceCodec.RoundTrips seq := by
  simp only [List.mem_cons, List.not_mem_nil, or_false] at h
  rcases h with rfl | rfl
  · intro seq hseq
    rw [List.mem_singleton.mp hseq]
    exact roundTrips_s1
  · intro seq hseq
    simp only [List.mem_cons, List.not_mem_nil, or_false] at hseq
    rcases hseq with rfl | rfl
    · exact roundTrips_s1
    · exact roundTrips_s2

/-- The saves run in the order of the posts. -/
theorem sequence_file_agrees_in_turn :
    ∃ w, Machine.exec (Detached.step sequenceOp (runSave sampleSequenceCodec sequencesPath))
        (Detached.World.start bootedEmpty) (twoPosts 0 0) = some w
      ∧ loadSequences sampleSequenceCodec w.state.2 sequencesPath
        = [plainSequence "s1", plainSequence "s2"]
      ∧ w.state.1.sequences = [plainSequence "s1", plainSequence "s2"] := by
  refine ⟨_, rfl, ?_, rfl⟩
  exact (sequence_file_agrees_iff sampleSequenceCodec sequencesPath .mock MockLibrary.new
    (ResourceStore.new none) ∅ (twoPosts 0 0) _ rfl rfl
    (fun snapshot h => roundTrips_saved h)).mpr rfl

/-- The saves run in the other order: the second sequence is lost. -/
theorem sequence_file_older_list :
    ∃ w, Machine.exec (Detached.step sequenceOp (runSave sampleSequenceCodec sequencesPath))
        (Detached.World.start bootedEmpty) (twoPosts 1 0) = some w
      ∧ w.Quiescent
      ∧ w.state.1.sequences = [plainSequence "s1", plainSequence "s2"]
      ∧ loadSequences sampleSequenceCodec w.state.2 sequencesPath = [plainSequence "s1"] := by
  refine ⟨_, rfl, rfl, rfl, ?_⟩
  unfold loadSequences
  dsimp only [runSave]
  rw [lookup_saveSequences]
  exact loadSequences_text (roundTrips_saved (List.mem_cons_self ..))

end GostlyProxy
