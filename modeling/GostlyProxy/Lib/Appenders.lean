/-
Callers that append to one file, each in a few writes, interleaved.

A file opened for appending takes each write whole and at its end. A caller
makes its writes in order, and between two of them any others may write:
`step` is one write of one caller, a run is a list of callers.

# A record and its line feed

A caller that writes a record and then its line feed leaves the last line
open in between. When every record is written while no other caller is in
between (`Alone`), the lines are the records, in the order the callers end
(`Clean`). When one is not, it joins the open record on its line; from then
on there are fewer lines with something in them than records begun
(`Pieces`), so at the end, with as many lines as records, one is empty.
`lines_eq_records_iff` puts the two together.
-/
import GostlyProxy.Lib.Machine
import GostlyProxy.Lib.Text
import Mathlib.Data.Fintype.Card

namespace Lib.Appenders

-- ============================================================= the system

/-- The file, and the writes each caller has still to make. -/
structure State (ι : Type*) where
  file : Text
  rest : ι → List Text

section Writes

variable {ι : Type*} [DecidableEq ι]

def State.start (calls : ι → List Text) : State ι where
  file := []
  rest := calls

/-- The next write of one caller. -/
def step (s : State ι) (i : ι) : Option (State ι) :=
  match s.rest i with
  | [] => none
  | chunk :: rest =>
      some { file := s.file ++ chunk, rest := Function.update s.rest i rest }

/-- Every caller has made all its writes. -/
def State.Done (s : State ι) : Prop := ∀ i, s.rest i = []

/-- A record, then its line feed. -/
def twoWrites (record : Text) : List Text := [record, ['\n']]

/-- A caller that has both writes before it writes while no other caller
stands between its two. -/
def Alone (s : State ι) (i : ι) : Prop :=
  (s.rest i).length = 2 → ∀ j, (s.rest j).length ≠ 1

-- ========================================================== two writes each

variable (records : ι → Text)

/-- Who has written its record and who has ended, in order. -/
structure Tracks (s : State ι) (begun ended : List ι) : Prop where
  nodup_begun : begun.Nodup
  nodup_ended : ended.Nodup
  sub : ∀ i ∈ ended, i ∈ begun
  rest : ∀ i, s.rest i = if i ∈ ended then [] else if i ∈ begun then [['\n']]
    else twoWrites (records i)

theorem tracks_start : Tracks records (State.start fun i => twoWrites (records i)) [] [] where
  nodup_begun := List.nodup_nil
  nodup_ended := List.nodup_nil
  sub := by simp
  rest := by simp [State.start]

variable {records}

/-- A write is a record or a line feed. -/
theorem Tracks.step {s s' : State ι} {begun ended : List ι} {i : ι}
    (h : Tracks records s begun ended) (hstep : step s i = some s') :
    (i ∉ begun ∧ (s.rest i).length = 2 ∧ s'.file = s.file ++ records i
      ∧ Tracks records s' (begun ++ [i]) ended)
    ∨ (i ∈ begun ∧ i ∉ ended ∧ s'.file = s.file ++ ['\n']
      ∧ Tracks records s' begun (ended ++ [i])) := by
  have hrest := h.rest i
  unfold Appenders.step at hstep
  by_cases hended : i ∈ ended
  · rw [if_pos hended] at hrest
    rw [hrest] at hstep
    cases hstep
  rw [if_neg hended] at hrest
  by_cases hbegun : i ∈ begun
  · rw [if_pos hbegun] at hrest
    rw [hrest, Option.some.injEq] at hstep
    subst hstep
    refine Or.inr ⟨hbegun, hended, rfl, h.nodup_begun, ?_, ?_, ?_⟩
    · rw [← List.concat_eq_append]
      exact h.nodup_ended.concat hended
    · intro j hj
      rcases List.mem_append.mp hj with hj | hj
      · exact h.sub j hj
      · rw [List.mem_singleton.mp hj]
        exact hbegun
    · intro j
      by_cases hj : j = i
      · subst hj
        simp
      · simp only [Function.update_of_ne hj, List.mem_append, List.mem_singleton, hj, or_false]
        exact h.rest j
  · rw [if_neg hbegun] at hrest
    rw [hrest, twoWrites, Option.some.injEq] at hstep
    subst hstep
    refine Or.inl ⟨hbegun, by rw [hrest]; rfl, rfl, ?_, h.nodup_ended, ?_, ?_⟩
    · rw [← List.concat_eq_append]
      exact h.nodup_begun.concat hbegun
    · intro j hj
      exact List.mem_append_left _ (h.sub j hj)
    · intro j
      by_cases hj : j = i
      · subst hj
        simp [hended]
      · simp only [Function.update_of_ne hj, List.mem_append, List.mem_singleton, hj, or_false]
        exact h.rest j

theorem Tracks.length_eq_one {s : State ι} {begun ended : List ι} {i : ι}
    (h : Tracks records s begun ended) :
    (s.rest i).length = 1 ↔ i ∈ begun ∧ i ∉ ended := by
  rw [h.rest i]
  by_cases hended : i ∈ ended
  · simp [hended]
  · by_cases hbegun : i ∈ begun
    · simp [hended, hbegun]
    · simp [hended, hbegun, twoWrites]

theorem Tracks.mem_ended {s : State ι} {begun ended : List ι}
    (h : Tracks records s begun ended) (hdone : s.Done) (i : ι) : i ∈ ended := by
  by_contra hended
  have hrest := h.rest i
  rw [hdone i, if_neg hended] at hrest
  by_cases hbegun : i ∈ begun
  · rw [if_pos hbegun] at hrest
    cases hrest
  · rw [if_neg hbegun] at hrest
    cases hrest

-- ================================================================ the file

/-- Complete lines, then what stands after the last line feed. -/
def framed (complete : List Text) (current : Text) : Text :=
  (complete.flatMap fun l => l ++ ['\n']) ++ current

theorem framed_newline (complete : List Text) (current : Text) :
    framed complete current ++ ['\n'] = framed (complete ++ [current]) [] := by
  simp [framed]

theorem framed_append (complete : List Text) (current t : Text) :
    framed complete current ++ t = framed complete (current ++ t) := by
  simp [framed]

theorem newlineTerminated_framed (complete : List Text) :
    Text.NewlineTerminated (framed complete []) := by
  rcases List.eq_nil_or_concat complete with rfl | ⟨ls, l, rfl⟩
  · exact Or.inl rfl
  · exact Or.inr ⟨framed ls l, by rw [framed_newline, List.concat_eq_append]⟩

theorem lines_framed_nil {complete : List Text} (h : ∀ l ∈ complete, Text.IsLine l) :
    Text.lines (framed complete []) = complete := by
  induction complete using List.reverseRecOn with
  | nil => rfl
  | append_singleton ls l ih =>
      have hl := h l (List.mem_append_right _ (List.mem_singleton_self l))
      have hls := ih fun m hm => h m (List.mem_append_left _ hm)
      have hstep : framed (ls ++ [l]) [] = framed ls [] ++ (l ++ ['\n']) := by
        simp [framed]
      rw [hstep, Text.lines_append_line (newlineTerminated_framed ls) hl, hls]

theorem lines_framed {complete : List Text} {current : Text}
    (h : ∀ l ∈ complete, Text.IsLine l) (hcurrent : Text.IsLine current)
    (hne : current ≠ []) : Text.lines (framed complete current) = complete ++ [current] := by
  have happend : framed complete current = framed complete [] ++ current := by
    rw [framed_append, List.nil_append]
  rw [happend, Text.lines_append_open (newlineTerminated_framed complete) hcurrent.no_lf hne,
    lines_framed_nil h]

-- ======================================================== a line is lost

/-- How many of the lines have something in them. -/
def filled (complete : List Text) (current : Text) : Nat :=
  complete.countP (· ≠ []) + if current = [] then 0 else 1

/-- The file in lines, with at least so many records more than lines that
have something in them. -/
structure Pieces (s : State ι) (begun ended : List ι) (lost : Nat) (complete : List Text)
    (current : Text) : Prop where
  file : s.file = framed complete current
  isLine : ∀ l ∈ complete, Text.IsLine l
  isLine_current : Text.IsLine current
  length : complete.length = ended.length
  filled : filled complete current + lost ≤ begun.length

omit [DecidableEq ι] in
theorem Pieces.record {s s' : State ι} {begun ended : List ι} {lost : Nat}
    {complete : List Text} {current : Text} {i : ι} (hlines : ∀ i, Text.IsLine (records i))
    (h : Pieces s begun ended lost complete current) (hfile : s'.file = s.file ++ records i) :
    Pieces s' (begun ++ [i]) ended (lost + if current = [] then 0 else 1) complete
      (current ++ records i) where
  file := by rw [hfile, h.file, framed_append]
  isLine := h.isLine
  isLine_current := by
    constructor
    · rw [List.mem_append, not_or]
      exact ⟨h.isLine_current.no_lf, (hlines i).no_lf⟩
    · rw [List.mem_append, not_or]
      exact ⟨h.isLine_current.no_cr, (hlines i).no_cr⟩
  length := h.length
  filled := by
    have hfilled := h.filled
    unfold Appenders.filled at hfilled ⊢
    rw [List.length_append, List.length_singleton]
    by_cases hcurrent : current = []
    · rw [if_pos hcurrent] at hfilled ⊢
      split <;> omega
    · rw [if_neg hcurrent] at hfilled ⊢
      rw [if_neg (List.append_ne_nil_of_left_ne_nil hcurrent _)]
      omega

omit [DecidableEq ι] in
theorem Pieces.newline {s s' : State ι} {begun ended : List ι} {lost : Nat}
    {complete : List Text} {current : Text} (i : ι)
    (h : Pieces s begun ended lost complete current) (hfile : s'.file = s.file ++ ['\n']) :
    Pieces s' begun (ended ++ [i]) lost (complete ++ [current]) [] where
  file := by rw [hfile, h.file, framed_newline]
  isLine := by
    intro l hl
    rcases List.mem_append.mp hl with hl | hl
    · exact h.isLine l hl
    · rw [List.mem_singleton.mp hl]
      exact h.isLine_current
  isLine_current := ⟨List.not_mem_nil, List.not_mem_nil⟩
  length := by rw [List.length_append, List.length_append, h.length]; rfl
  filled := by
    have hfilled := h.filled
    unfold Appenders.filled at hfilled ⊢
    rw [List.countP_append, List.countP_singleton, if_pos rfl]
    by_cases hcurrent : current = []
    · simp [hcurrent] at hfilled ⊢
      omega
    · simp [hcurrent] at hfilled ⊢
      omega

/-- Lost lines stay lost. -/
theorem pieces_exec {lost : Nat} (hlines : ∀ i, Text.IsLine (records i)) {s s' : State ι}
    {run : List ι}
    (h : ∃ begun ended complete current, Tracks records s begun ended
      ∧ Pieces s begun ended lost complete current)
    (hrun : Machine.exec step s run = some s') :
    ∃ begun ended complete current, Tracks records s' begun ended
      ∧ Pieces s' begun ended lost complete current := by
  refine Machine.exec_invariant (I := fun s => ∃ begun ended complete current,
    Tracks records s begun ended ∧ Pieces s begun ended lost complete current) ?_ h hrun
  rintro t i t' ⟨begun, ended, complete, current, htracks, hpieces⟩ hstep
  rcases htracks.step hstep with ⟨-, -, hfile, htracks'⟩ | ⟨-, -, hfile, htracks'⟩
  · have hrecord := hpieces.record hlines hfile
    exact ⟨_, _, _, _, htracks', hrecord.file, hrecord.isLine, hrecord.isLine_current,
      hrecord.length, by have := hrecord.filled; omega⟩
  · exact ⟨_, _, _, _, htracks', hpieces.newline i hfile⟩

variable [Fintype ι]

/-- With a line lost, the lines at the end are not the records. -/
theorem lines_ne_records (hne : ∀ i, records i ≠ []) {s : State ι} {begun ended : List ι}
    {complete : List Text} {current : Text} (htracks : Tracks records s begun ended)
    (hpieces : Pieces s begun ended 1 complete current) (hdone : s.Done) :
    (Text.lines s.file : Multiset Text) ≠ Finset.univ.val.map records := by
  intro hlines
  have hbegun : begun.length ≤ Fintype.card ι := htracks.nodup_begun.length_le_card
  have hended : ended.length = Fintype.card ι := by
    have hall : ended.toFinset = Finset.univ := by
      ext i
      simp [htracks.mem_ended hdone i]
    rw [← Finset.card_univ, ← hall, List.toFinset_card_of_nodup htracks.nodup_ended]
  have hlength : (Text.lines s.file).length = Fintype.card ι := by
    have hcard := congrArg Multiset.card hlines
    rw [Multiset.coe_card, Multiset.card_map] at hcard
    exact hcard
  have hcount : (Text.lines s.file).countP (· ≠ []) = Fintype.card ι := by
    rw [← hlength, List.countP_eq_length]
    intro l hl
    have hmem : l ∈ Finset.univ.val.map records := by
      rw [← hlines]
      exact hl
    obtain ⟨i, -, rfl⟩ := Multiset.mem_map.mp hmem
    exact decide_eq_true (hne i)
  have hfilled := hpieces.filled
  rw [hpieces.file] at hlength hcount
  unfold filled at hfilled
  by_cases hcurrent : current = []
  · subst hcurrent
    rw [lines_framed_nil hpieces.isLine] at hcount
    rw [if_pos rfl] at hfilled
    omega
  · rw [lines_framed hpieces.isLine hpieces.isLine_current hcurrent, List.length_append,
      List.length_singleton, hpieces.length] at hlength
    omega

-- ============================================================= clean runs

/-- The lines are the records of the callers that have ended, and at most
one caller stands between its two writes. -/
structure Clean (records : ι → Text) (s : State ι) (begun ended : List ι) (current : Text) :
    Prop where
  tracks : Tracks records s begun ended
  pieces : Pieces s begun ended 0 (ended.map records) current
  between : (begun = ended ∧ current = [])
    ∨ ∃ j, j ∉ ended ∧ begun = ended ++ [j] ∧ current = records j

omit [Fintype ι] in
theorem clean_start :
    Clean records (State.start fun i => twoWrites (records i)) [] [] [] where
  tracks := tracks_start records
  pieces := ⟨rfl, by simp, ⟨List.not_mem_nil, List.not_mem_nil⟩, rfl, by simp [filled]⟩
  between := Or.inl ⟨rfl, rfl⟩

omit [Fintype ι] in
/-- A write of a caller that is alone keeps the file clean. -/
theorem Clean.step (hlines : ∀ i, Text.IsLine (records i)) {s s' : State ι}
    {begun ended : List ι} {current : Text} {i : ι} (h : Clean records s begun ended current)
    (halone : Alone s i) (hstep : Appenders.step s i = some s') :
    ∃ begun' ended' current', Clean records s' begun' ended' current' := by
  rcases h.tracks.step hstep with
    ⟨hbegun, htwo, hfile, htracks⟩ | ⟨hbegun, hended, hfile, htracks⟩
  · -- Nobody is in between, so the record starts a line.
    rcases h.between with ⟨rfl, rfl⟩ | ⟨j, hj, rfl, -⟩
    · have hrecord := h.pieces.record hlines hfile
      rw [if_pos rfl] at hrecord
      exact ⟨_, _, _, htracks, hrecord, Or.inr ⟨i, hbegun, rfl, rfl⟩⟩
    · refine absurd (h.tracks.length_eq_one.mpr ⟨?_, hj⟩) (halone htwo j)
      exact List.mem_append_right _ (List.mem_singleton_self j)
  · rcases h.between with ⟨rfl, -⟩ | ⟨j, hj, rfl, rfl⟩
    · exact absurd hbegun hended
    · have hi : i = j := by
        rcases List.mem_append.mp hbegun with hi | hi
        · exact absurd hi hended
        · exact List.mem_singleton.mp hi
      subst hi
      have hnewline := h.pieces.newline i hfile
      refine ⟨_, _, _, htracks, ?_, Or.inl ⟨rfl, rfl⟩⟩
      rw [List.map_append, List.map_singleton]
      exact hnewline

/-- At the end of a clean run the lines are the records. -/
theorem Clean.lines {s : State ι} {begun ended : List ι} {current : Text}
    (h : Clean records s begun ended current) (hdone : s.Done) :
    (Text.lines s.file : Multiset Text) = Finset.univ.val.map records := by
  have hcurrent : current = [] := by
    rcases h.between with ⟨-, hcurrent⟩ | ⟨j, hj, -, -⟩
    · exact hcurrent
    · exact absurd (h.tracks.mem_ended hdone j) hj
  have hended : (ended : Multiset ι) = Finset.univ.val := by
    rw [Multiset.Nodup.ext (Multiset.coe_nodup.mpr h.tracks.nodup_ended) Finset.univ.nodup]
    intro i
    simp [h.tracks.mem_ended hdone i]
  rw [h.pieces.file, hcurrent, lines_framed_nil h.pieces.isLine, ← hended]
  rfl

omit [Fintype ι] in
/-- A record that is written while another caller stands in between goes to
that caller's line. -/
theorem Clean.lose (hlines : ∀ i, Text.IsLine (records i)) (hne : ∀ i, records i ≠ [])
    {s s' : State ι} {begun ended : List ι} {current : Text} {i : ι}
    (h : Clean records s begun ended current) (halone : ¬ Alone s i)
    (hstep : Appenders.step s i = some s') :
    ∃ begun' ended' complete current', Tracks records s' begun' ended'
      ∧ Pieces s' begun' ended' 1 complete current' := by
  unfold Alone at halone
  push Not at halone
  obtain ⟨htwo, j, hone⟩ := halone
  rcases h.tracks.step hstep with
    ⟨-, -, hfile, htracks⟩ | ⟨hbegun, hended, -, -⟩
  · have hrecord := h.pieces.record hlines hfile
    rcases h.between with ⟨rfl, -⟩ | ⟨j', -, -, hcurrent⟩
    · obtain ⟨hj, hj'⟩ := h.tracks.length_eq_one.mp hone
      exact absurd hj hj'
    · rw [if_neg (by rw [hcurrent]; exact hne j')] at hrecord
      exact ⟨_, _, _, _, htracks, hrecord⟩
  · have := h.tracks.length_eq_one.mpr ⟨hbegun, hended⟩
    omega

theorem alone_of_lines (hlines : ∀ i, Text.IsLine (records i)) (hne : ∀ i, records i ≠ [])
    {s s' : State ι} {run : List ι}
    (h : ∃ begun ended current, Clean records s begun ended current)
    (hrun : Machine.exec Appenders.step s run = some s') (hdone : s'.Done)
    (hsame : (Text.lines s'.file : Multiset Text) = Finset.univ.val.map records) :
    Machine.Along Appenders.step Alone s run := by
  induction run generalizing s with
  | nil => trivial
  | cons i run ih =>
      obtain ⟨begun, ended, current, hclean⟩ := h
      obtain ⟨t, hstep, hrest⟩ := Machine.exec_cons.mp hrun
      have halone : Alone s i := by
        by_contra hnot
        obtain ⟨_, _, _, _, htracks, hpieces⟩ :=
          pieces_exec hlines (hclean.lose hlines hne hnot hstep) hrest
        exact lines_ne_records hne htracks hpieces hdone hsame
      refine ⟨halone, fun t' hstep' => ?_⟩
      rw [hstep, Option.some.injEq] at hstep'
      subst hstep'
      exact ih (hclean.step hlines halone hstep) hrest

variable (records)

/-- Once all callers have ended, the lines of the file are the records,
each once, exactly when every record was written while no other caller
stood between its two writes. -/
theorem lines_eq_records_iff (hlines : ∀ i, Text.IsLine (records i))
    (hne : ∀ i, records i ≠ []) {run : List ι} {s : State ι}
    (hrun : Machine.exec Appenders.step (State.start fun i => twoWrites (records i)) run
      = some s)
    (hdone : s.Done) :
    (Text.lines s.file : Multiset Text) = Finset.univ.val.map records
      ↔ Machine.Along Appenders.step Alone (State.start fun i => twoWrites (records i))
        run := by
  constructor
  · exact alone_of_lines hlines hne ⟨_, _, _, clean_start⟩ hrun hdone
  · intro halone
    obtain ⟨begun, ended, current, hclean⟩ := Machine.exec_along
      (I := fun s => ∃ begun ended current, Clean records s begun ended current)
      (fun t i t' ⟨_, _, _, hclean⟩ hal hstep => hclean.step hlines hal hstep)
      ⟨_, _, _, clean_start⟩ halone hrun
    exact hclean.lines hdone

end Writes

end Lib.Appenders
