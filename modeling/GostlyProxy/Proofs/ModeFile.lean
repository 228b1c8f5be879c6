/-
The mode in the mode file and the mode in memory, when mode switches
overlap.

A call of `handle_set_mode` writes the file, unless it switches to
TRANSITIONING, and then sets the mode in memory; no lock holds across the
two. The calls are threads (`Lib/Threads.lean`) of these two steps.

After any run the file is the write of the last call at the file, and the
mode is that of the last call in memory (`lastMoves_exec`). So once all calls
have returned the file reads back as the mode exactly when these two calls
switched to the same mode, or the mode is TRANSITIONING
(`readMode_iff_switchedAlike`). Two calls whose steps overlap in the shape of
`crossed` leave LEARN in memory and MOCK in the file.

The one thing asked of the JSON library is that it reads a quoted text
without escapes as that text (`ReadsPlainStrings`).
-/
import GostlyProxy.Lib.Threads
import GostlyProxy.Model.Files

namespace GostlyProxy

open Lib

-- ====================================================== the file's contents

/-- A character that stands for itself in a JSON string. -/
def isPlainStringChar (c : Char) : Bool := c ≠ '"' && c ≠ '\\' && 0x20 ≤ c.toNat

/-- A quoted text of such characters is read as that text. -/
def ReadsPlainStrings (env : Externals) : Prop :=
  ∀ s : Text, s.all isPlainStringChar = true →
    env.parseJson ('"' :: (s ++ ['"'])) = some (.string s)

/-- Every mode but TRANSITIONING is read back from the file it is written
to. -/
theorem readMode_writeMode {env : Externals} (hplain : ReadsPlainStrings env)
    (file : Option Text) {mode : Mode} (hmode : mode ≠ .transitioning) :
    readModeFromFile env (writeModeToFile file mode) = some mode := by
  have hread : ∀ label : Text, Text.trim label = label → label.all isPlainStringChar = true →
      readModeFromFile env (some label) = Mode.ofName label := by
    intro label htrim hchars
    rw [readModeFromFile, Option.bind_some, htrim, hplain label hchars]
  cases mode with
  | learn => exact hread "LEARN" (by decide) (by decide)
  | mock => exact hread "MOCK" (by decide) (by decide)
  | passthrough => exact hread "PASSTHROUGH" (by decide) (by decide)
  | transitioning => exact absurd rfl hmode

-- ============================================================== the calls

/-- What the calls share. -/
structure ModeCells where
  file : Option Text
  app : AppState

/-- Where a call of `handle_set_mode` stands. -/
inductive ModePhase where
  | called
  | persisted
  | returned
  deriving DecidableEq

inductive ModeMove where
  | writeFile
  | setMode
  deriving DecidableEq

/-- The two steps of a call that switches to `mode`. -/
def modeAct (mode : Mode) (cells : ModeCells) :
    ModePhase → ModeMove → Option (ModeCells × ModePhase)
  | .called, .writeFile =>
      some ({ cells with
        file := if mode ≠ .transitioning then writeModeToFile cells.file mode
          else cells.file }, .persisted)
  | .persisted, .setMode =>
      some ({ cells with app := (handleSetMode cells.app mode).1 }, .returned)
  | _, _ => none

section Calls

variable {n : Nat} (modes : Fin n → Mode)

abbrev ModeWorld (n : Nat) := Threads.World (Fin n) ModeCells ModePhase

/-- One step of one of the calls. -/
abbrev modeStep : ModeWorld n → Fin n × ModeMove → Option (ModeWorld n) :=
  Threads.step fun i => modeAct (modes i)

/-- The call that wrote the file last. -/
def lastAtFile : List (Fin n × ModeMove) → Option (Fin n) :=
  Threads.lastOf fun a => a.2 = .writeFile ∧ modes a.1 ≠ .transitioning

/-- The call that set the mode last. -/
def lastInMemory : List (Fin n × ModeMove) → Option (Fin n) :=
  Threads.lastOf fun a => a.2 = .setMode

/-- The last call in memory switched to TRANSITIONING, or the last call at
the file switched to the same mode. -/
def SwitchedAlike (schedule : List (Fin n × ModeMove)) : Prop :=
  ∀ i, lastInMemory schedule = some i → modes i ≠ .transitioning →
    ∃ j, lastAtFile modes schedule = some j ∧ modes j = modes i

variable {modes}

-- =============================================================== the runs

variable (modes) in
/-- What a run leaves behind. -/
structure LastMoves (cells : ModeCells) (w : ModeWorld n) (past : List (Fin n × ModeMove)) :
    Prop where
  file : w.shared.file =
    ((lastAtFile modes past).map fun j => writeModeToFile none (modes j)).getD cells.file
  mode : w.shared.app.mode = ((lastInMemory past).map modes).getD cells.app.mode
  persisted : ∀ i, w.thread i ≠ .called → (i, .writeFile) ∈ past
  returned : ∀ i, w.thread i = .returned → (i, .setMode) ∈ past
  order : ∀ i, (i, .setMode) ∈ past → (i, .writeFile) ∈ past

theorem writeModeToFile_eq {file file' : Option Text} {mode : Mode}
    (hmode : mode ≠ .transitioning) : writeModeToFile file mode = writeModeToFile file' mode := by
  cases mode with
  | transitioning => exact absurd rfl hmode
  | _ => rfl

/-- What one step of a call does. -/
theorem modeAct_cases {mode : Mode} {cells cells' : ModeCells} {phase phase' : ModePhase}
    {move : ModeMove} (h : modeAct mode cells phase move = some (cells', phase')) :
    (phase = .called ∧ move = .writeFile ∧ phase' = .persisted ∧ cells'.app = cells.app ∧
        cells'.file = if mode = .transitioning then cells.file
          else writeModeToFile none mode) ∨
      (phase = .persisted ∧ move = .setMode ∧ phase' = .returned ∧
        cells' = { cells with app := (handleSetMode cells.app mode).1 }) := by
  cases phase with
  | called =>
      cases move with
      | writeFile =>
          cases h
          refine .inl ⟨rfl, rfl, rfl, rfl, ?_⟩
          by_cases hmode : mode = .transitioning
          · rw [if_pos hmode]
            exact if_neg (not_not.mpr hmode)
          · rw [if_neg hmode]
            exact (if_pos hmode).trans (writeModeToFile_eq hmode)
      | setMode => cases h
  | persisted =>
      cases move with
      | writeFile => cases h
      | setMode =>
          cases h
          exact .inr ⟨rfl, rfl, rfl, rfl⟩
  | returned => cases move <;> cases h

theorem lastMoves_step {cells : ModeCells} {w : ModeWorld n} {past : List (Fin n × ModeMove)}
    {i : Fin n} {move : ModeMove} {cells' : ModeCells} {phase : ModePhase}
    (hI : LastMoves modes cells w past)
    (h : modeAct (modes i) w.shared (w.thread i) move = some (cells', phase)) :
    LastMoves modes cells { shared := cells', thread := Function.update w.thread i phase }
      (past ++ [(i, move)]) := by
  have hold : ∀ {a}, a ∈ past → a ∈ past ++ [(i, move)] := List.mem_append_left _
  have hnew : (i, move) ∈ past ++ [(i, move)] := List.mem_append_right _ (List.mem_singleton_self _)
  obtain ⟨hphase, rfl, rfl, happ, hfile⟩ | ⟨hphase, rfl, rfl, rfl⟩ := modeAct_cases h
  · constructor
    · show cells'.file = _
      rw [hfile, hI.file, lastAtFile, Threads.lastOf_concat]
      by_cases hmode : modes i = .transitioning
      · simp [hmode]
      · simp [hmode]
    · show cells'.app.mode = _
      rw [happ, hI.mode, lastInMemory, Threads.lastOf_concat]
      rfl
    · exact Threads.took_update (· ≠ ModePhase.called) hI.persisted fun _ => hnew
    · exact Threads.took_update (· = ModePhase.returned) hI.returned fun hphase => nomatch hphase
    · intro j hj
      rcases List.mem_append.mp hj with hj | hj
      · exact hold (hI.order j hj)
      · cases List.mem_singleton.mp hj
  · have hpersisted : (i, .writeFile) ∈ past := hI.persisted i (hphase ▸ ModePhase.noConfusion)
    constructor
    · show w.shared.file = _
      rw [hI.file, lastAtFile, Threads.lastOf_concat]
      rfl
    · rw [lastInMemory, Threads.lastOf_concat]
      rfl
    · exact Threads.took_update (· ≠ ModePhase.called) hI.persisted fun _ => hold hpersisted
    · exact Threads.took_update (· = ModePhase.returned) hI.returned fun _ => hnew
    · intro j hj
      rcases List.mem_append.mp hj with hj | hj
      · exact hold (hI.order j hj)
      · cases List.mem_singleton.mp hj
        exact hold hpersisted

theorem lastMoves_exec {cells : ModeCells} {w : ModeWorld n} {schedule : List (Fin n × ModeMove)}
    (hrun : Machine.exec (modeStep modes) (.start cells .called) schedule = some w) :
    LastMoves modes cells w schedule := by
  refine Threads.exec_history (fun _ _ _ _ _ _ hI h => lastMoves_step hI h) ?_ hrun
  constructor
  · rfl
  · rfl
  · intro i hi
    exact absurd rfl hi
  · intro i hi
    cases hi
  · intro i hi
    cases hi

-- ============================================================ at the end

/-- When all calls have returned, the file reads back as the mode, unless
that is TRANSITIONING, exactly when the last call at the file and the last
call in memory switched alike. -/
theorem readMode_iff_switchedAlike {env : Externals} (hplain : ReadsPlainStrings env)
    (hn : 0 < n) (modes : Fin n → Mode) (cells : ModeCells) (w : ModeWorld n)
    (schedule : List (Fin n × ModeMove))
    (hrun : Machine.exec (modeStep modes) (.start cells .called) schedule = some w)
    (hreturned : ∀ i, w.thread i = .returned) :
    (w.shared.app.mode ≠ .transitioning →
        readModeFromFile env w.shared.file = some w.shared.app.mode) ↔
      SwitchedAlike modes schedule := by
  have hI := lastMoves_exec hrun
  obtain ⟨i, hi⟩ : ∃ i, lastInMemory schedule = some i :=
    Threads.exists_lastOf (hI.returned ⟨0, hn⟩ (hreturned _)) (decide_eq_true rfl)
  have hmode : w.shared.app.mode = modes i := by rw [hI.mode, hi]; rfl
  have halike : SwitchedAlike modes schedule ↔
      (modes i ≠ .transitioning → ∃ j, lastAtFile modes schedule = some j ∧ modes j = modes i) := by
    unfold SwitchedAlike
    rw [hi]
    exact ⟨fun h => h i rfl, fun h k hk => Option.some.inj hk ▸ h⟩
  rw [halike, hmode]
  refine imp_congr_right fun hlive => ?_
  obtain ⟨e, hset, hkind⟩ := Threads.mem_of_lastOf hi
  cases of_decide_eq_true hkind
  obtain ⟨j, hj⟩ : ∃ j, lastAtFile modes schedule = some j :=
    Threads.exists_lastOf (hI.order i hset) (decide_eq_true ⟨rfl, hlive⟩)
  have hjmode : modes j ≠ .transitioning := by
    obtain ⟨e, -, hkind⟩ := Threads.mem_of_lastOf hj
    exact (of_decide_eq_true hkind).2
  have hfile : w.shared.file = writeModeToFile none (modes j) := by rw [hI.file, hj]; rfl
  rw [hfile, readMode_writeMode hplain none hjmode, Option.some.injEq]
  constructor
  · intro h
    exact ⟨j, hj, h⟩
  · rintro ⟨k, hk, h⟩
    rw [hj, Option.some.injEq] at hk
    exact hk ▸ h

end Calls

-- ============================================================== two calls

/-- A JSON library that reads quoted texts without escapes only. -/
def readQuoted : Text → Option Json
  | '"' :: rest =>
      if rest.getLast? = some '"' ∧ rest.dropLast.all isPlainStringChar then
        some (.string rest.dropLast)
      else none
  | _ => none

def quotedStrings : Externals := { (default : Externals) with parseJson := readQuoted }

theorem readsPlainStrings_quotedStrings : ReadsPlainStrings quotedStrings := by
  intro s hs
  show readQuoted ('"' :: (s ++ ['"'])) = some (.string s)
  rw [readQuoted, List.dropLast_concat, if_pos ⟨by simp, hs⟩]

/-- LEARN by the first call, MOCK by the second. -/
def learnThenMock (i : Fin 2) : Mode := if i.val = 0 then .learn else .mock

/-- No mode file, and the state of a boot. -/
def bootCells : ModeCells where
  file := none
  app := AppState.boot .learn MockLibrary.new [] (ResourceStore.new none)

abbrev firstCall : Fin 2 := ⟨0, by decide⟩
abbrev secondCall : Fin 2 := ⟨1, by decide⟩

/-- The file in one order, the memory in the other. -/
def crossed : List (Fin 2 × ModeMove) :=
  [(firstCall, .writeFile), (secondCall, .writeFile), (secondCall, .setMode),
    (firstCall, .setMode)]

/-- Overlapping calls that keep to one order. -/
def inStep : List (Fin 2 × ModeMove) :=
  [(firstCall, .writeFile), (secondCall, .writeFile), (firstCall, .setMode),
    (secondCall, .setMode)]

theorem readMode_inStep :
    ∃ w, Machine.exec (modeStep learnThenMock) (.start bootCells .called) inStep = some w ∧
      (∀ i, w.thread i = .returned) ∧ w.shared.app.mode = .mock ∧
      (w.shared.app.mode ≠ .transitioning →
        readModeFromFile quotedStrings w.shared.file = some w.shared.app.mode) := by
  refine ⟨_, rfl, by decide, rfl, ?_⟩
  exact (readMode_iff_switchedAlike readsPlainStrings_quotedStrings (by decide) learnThenMock
    bootCells _ inStep rfl (by decide)).mpr (by unfold SwitchedAlike; decide)

/-- The file need not read back as the mode: crossed calls leave LEARN in
memory and MOCK in the file. -/
theorem readMode_ne_live :
    ¬ ∀ (n : Nat) (modes : Fin n → Mode) (cells : ModeCells) (w : ModeWorld n)
      (schedule : List (Fin n × ModeMove)), 0 < n →
      Machine.exec (modeStep modes) (.start cells .called) schedule = some w →
      (∀ i, w.thread i = .returned) → w.shared.app.mode ≠ .transitioning →
        readModeFromFile quotedStrings w.shared.file = some w.shared.app.mode := by
  intro h
  have hcrossed := h 2 learnThenMock bootCells _ crossed (by decide) rfl (by decide) (by decide)
  exact absurd hcrossed (by decide)

end GostlyProxy
