/-
Substituting the words of a list.

A list whose elements are parts of identifiers or separators is words with
separators between them. `substWords` puts a list in the place of every word
and keeps the separators.

# Rules

Substituting is local: it goes past a separator on both sides
(`subst_separator`), so that substituting what was substituted is one
substitution (`subst_subst`). A list holds no fewer separators afterwards
(`separators_subst`), and that is why two substitutions of which one yields
no fewer separators on each word agree on a list only if they agree on all
its words (`subst_eq_iff`).

# Runs and occurrences

The maximal runs of identifier and other elements (`runs`) are the words and
what is between them; substituting run by run is substituting the words
(`flatMap_runs`). The delimited occurrences of a word are the words equal to
it (`scan_word`).
-/
import GostlyProxy.Lib.Delimited
import Mathlib.Data.List.SplitBy
import Mathlib.Data.List.TakeWhile

namespace Lib

section Words

variable {α : Type*} (isId : α → Bool)

/-- The words of a list, empty ones between neighbouring separators. -/
def words (l : List α) : List (List α) := l.splitOnP fun a => !isId a

/-- The word met so far is the first argument. -/
def substFrom (f : List α → List α) : List α → List α → List α
  | w, [] => f w
  | w, a :: l => if isId a then substFrom f (w ++ [a]) l else f w ++ a :: substFrom f [] l

/-- Every word replaced by what `f` makes of it. -/
def substWords (f : List α → List α) (l : List α) : List α := substFrom isId f [] l

/-- The number of separators. -/
def separators (l : List α) : Nat := l.countP fun a => !isId a

/-- The maximal runs of identifier elements and of others. -/
def runs (l : List α) : List (List α) := l.splitBy fun a b => isId a == isId b

variable {isId}

variable (isId) in
/-- A list is a word, or a word, a separator and a list. -/
theorem words_induction {P : List α → Prop} (word : ∀ w, (∀ a ∈ w, isId a = true) → P w)
    (separator : ∀ w a l, (∀ b ∈ w, isId b = true) → isId a = false → P l → P (w ++ a :: l))
    (l : List α) : P l := by
  induction hn : l.length using Nat.strong_induction_on generalizing l with
  | _ n ih =>
      subst hn
      have hfront : ∀ a ∈ l.takeWhile isId, isId a = true := fun a ha => List.mem_takeWhile_imp ha
      have hsplit := List.takeWhile_append_dropWhile (p := isId) (l := l)
      cases hrest : l.dropWhile isId with
      | nil =>
          rw [hrest, List.append_nil] at hsplit
          exact word l (hsplit ▸ hfront)
      | cons a rest =>
          have ha : isId a = false := by
            have hhead := List.head?_dropWhile_not isId l
            rw [hrest] at hhead
            simpa using hhead
          rw [hrest] at hsplit
          have hlt : rest.length < l.length := by
            rw [← hsplit, List.length_append, List.length_cons]
            omega
          rw [← hsplit]
          exact separator _ a rest hfront ha (ih _ hlt rest rfl)

-- ============================================================ the words

theorem words_word {w : List α} (hw : ∀ a ∈ w, isId a = true) : words isId w = [w] := by
  unfold words
  apply List.splitOnP_eq_singleton
  intro a ha
  rw [hw a ha, Bool.not_true]

theorem words_separator {w : List α} (hw : ∀ a ∈ w, isId a = true) {a : α}
    (ha : isId a = false) (l : List α) : words isId (w ++ a :: l) = w :: words isId l := by
  unfold words
  apply List.splitOnP_append_cons_of_forall_mem
  · intro b hb
    rw [hw b hb, Bool.not_true]
  · rw [ha, Bool.not_false]

/-- A word has no separators. -/
theorem isId_of_mem_words {l w : List α} (h : w ∈ words isId l) : ∀ a ∈ w, isId a = true := by
  induction l using words_induction isId with
  | word u hu =>
      rw [words_word hu, List.mem_singleton] at h
      rw [h]
      exact hu
  | separator u a l hu ha ih =>
      rw [words_separator hu ha, List.mem_cons] at h
      rcases h with rfl | h
      · exact hu
      · exact ih h

-- ======================================================= the substitution

theorem substFrom_word (f : List α → List α) (u : List α) {w : List α}
    (hw : ∀ a ∈ w, isId a = true) : substFrom isId f u w = f (u ++ w) := by
  induction w generalizing u with
  | nil => rw [substFrom, List.append_nil]
  | cons a w ih =>
      rw [List.forall_mem_cons] at hw
      rw [substFrom, if_pos hw.1, ih _ hw.2, List.append_assoc, List.singleton_append]

theorem substWords_word (f : List α → List α) {w : List α} (hw : ∀ a ∈ w, isId a = true) :
    substWords isId f w = f w := substFrom_word f [] hw

theorem substFrom_separator (f : List α → List α) (u l : List α) {a : α} (ha : isId a = false)
    (l' : List α) :
    substFrom isId f u (l ++ a :: l') = substFrom isId f u l ++ a :: substWords isId f l' := by
  induction l generalizing u with
  | nil =>
      have hstep : substFrom isId f u (a :: l') = f u ++ a :: substFrom isId f [] l' := by
        rw [substFrom, ha]
        rfl
      exact hstep
  | cons b l ih =>
      rw [List.cons_append, substFrom, substFrom, ih, ih]
      cases isId b with
      | true => rfl
      | false =>
          rw [if_neg Bool.false_ne_true, if_neg Bool.false_ne_true, List.append_assoc]
          rfl

/-- Substituting goes past a separator. -/
theorem subst_separator (f : List α → List α) (l : List α) {a : α} (ha : isId a = false)
    (l' : List α) :
    substWords isId f (l ++ a :: l') = substWords isId f l ++ a :: substWords isId f l' :=
  substFrom_separator f [] l ha l'

/-- What is done to the words is all that matters. -/
theorem subst_congr {f g : List α → List α} {l : List α}
    (h : ∀ w ∈ words isId l, f w = g w) : substWords isId f l = substWords isId g l := by
  induction l using words_induction isId with
  | word w hw =>
      rw [substWords_word f hw, substWords_word g hw]
      exact h w (by simp [words_word hw])
  | separator w a l hw ha ih =>
      rw [words_separator hw ha, List.forall_mem_cons] at h
      rw [subst_separator f w ha, subst_separator g w ha, substWords_word f hw,
        substWords_word g hw, h.1, ih h.2]

theorem subst_id {f : List α → List α} {l : List α} (h : ∀ w ∈ words isId l, f w = w) :
    substWords isId f l = l := by
  rw [subst_congr (g := fun w => w) h]
  induction l using words_induction isId with
  | word w hw => exact substWords_word _ hw
  | separator w a l hw ha ih =>
      rw [words_separator hw ha, List.forall_mem_cons] at h
      rw [subst_separator _ w ha, substWords_word _ hw, ih h.2]

/-- Substituting what was substituted is one substitution. -/
theorem subst_subst (f g : List α → List α) (l : List α) :
    substWords isId g (substWords isId f l)
      = substWords isId (fun w => substWords isId g (f w)) l := by
  induction l using words_induction isId with
  | word w hw => rw [substWords_word f hw, substWords_word _ hw]
  | separator w a l hw ha ih =>
      rw [subst_separator f w ha, subst_separator g _ ha, subst_separator _ w ha, ih,
        substWords_word f hw, substWords_word _ hw]

-- ========================================================= the separators

theorem separators_append (l l' : List α) :
    separators isId (l ++ l') = separators isId l + separators isId l' := List.countP_append

theorem separators_cons {a : α} (ha : isId a = false) (l : List α) :
    separators isId (a :: l) = separators isId l + 1 := by
  unfold separators
  rw [List.countP_cons_of_pos (by rw [ha, Bool.not_false])]

theorem separators_word {w : List α} (hw : ∀ a ∈ w, isId a = true) : separators isId w = 0 := by
  unfold separators
  rw [List.countP_eq_zero]
  intro a ha
  simp [hw a ha]

/-- Where a substitution yields no fewer separators on the words, it does on
the list. -/
theorem separators_subst_le {f g : List α → List α} {l : List α}
    (h : ∀ w ∈ words isId l, separators isId (f w) ≤ separators isId (g w)) :
    separators isId (substWords isId f l) ≤ separators isId (substWords isId g l) := by
  induction l using words_induction isId with
  | word w hw =>
      rw [substWords_word f hw, substWords_word g hw]
      exact h w (by simp [words_word hw])
  | separator w a l hw ha ih =>
      rw [words_separator hw ha, List.forall_mem_cons] at h
      have hrest := ih h.2
      have hword := h.1
      rw [subst_separator f w ha, subst_separator g w ha, substWords_word f hw,
        substWords_word g hw, separators_append, separators_append, separators_cons ha,
        separators_cons ha]
      omega

/-- Substituting loses no separators. -/
theorem separators_subst (f : List α → List α) (l : List α) :
    separators isId l ≤ separators isId (substWords isId f l) := by
  have hid : substWords isId (fun w => w) l = l := subst_id fun _ _ => rfl
  have hle : separators isId (substWords isId (fun w => w) l)
      ≤ separators isId (substWords isId f l) := by
    apply separators_subst_le
    intro w hw
    rw [separators_word (isId_of_mem_words hw)]
    exact Nat.zero_le _
  rwa [hid] at hle

/-- Two lists that go on with a separator after as many separators begin with
the same. -/
theorem eq_of_separators {p q l l' : List α} {a b : α} (ha : isId a = false)
    (hb : isId b = false) (h : p ++ a :: l = q ++ b :: l')
    (hcount : separators isId p = separators isId q) : p = q := by
  rcases List.append_eq_append_iff.mp h with ⟨s, hq, hs⟩ | ⟨s, hp, hs⟩
  · cases s with
    | nil => rw [hq, List.append_nil]
    | cons c s =>
        rw [List.cons_append, List.cons.injEq] at hs
        rw [hq, separators_append, ← hs.1, separators_cons ha] at hcount
        omega
  · cases s with
    | nil => rw [hp, List.append_nil]
    | cons c s =>
        rw [List.cons_append, List.cons.injEq] at hs
        rw [hp, separators_append, ← hs.1, separators_cons hb] at hcount
        omega

/-- Two substitutions, one with no fewer separators on the words, agree on a
list exactly when they agree on its words. -/
theorem subst_eq_iff {f g : List α → List α} {l : List α}
    (hle : ∀ w ∈ words isId l, separators isId (f w) ≤ separators isId (g w)) :
    substWords isId g l = substWords isId f l ↔ ∀ w ∈ words isId l, g w = f w := by
  refine ⟨fun h => ?_, subst_congr⟩
  induction l using words_induction isId with
  | word w hw =>
      rw [substWords_word f hw, substWords_word g hw] at h
      rw [words_word hw, List.forall_mem_singleton]
      exact h
  | separator w a l hw ha ih =>
      rw [words_separator hw ha, List.forall_mem_cons] at hle
      rw [subst_separator f w ha, subst_separator g w ha, substWords_word f hw,
        substWords_word g hw] at h
      have hrest := separators_subst_le hle.2
      have hcount : separators isId (g w) = separators isId (f w) := by
        have hall := congrArg (separators isId) h
        rw [separators_append, separators_append, separators_cons ha, separators_cons ha] at hall
        have := hle.1
        omega
      have hword := eq_of_separators ha ha h hcount
      rw [hword, List.append_cancel_left_eq, List.cons.injEq] at h
      rw [words_separator hw ha, List.forall_mem_cons]
      exact ⟨hword, ih hle.2 h.2⟩

-- =============================================================== the runs

/-- Maximal runs meet at no separator but at a change of kind. -/
theorem runs_append {l l' : List α}
    (h : ∀ a ∈ l.getLast?, ∀ b ∈ l'.head?, (isId a == isId b) = false) :
    runs isId (l ++ l') = runs isId l ++ runs isId l' := List.splitBy_append h

/-- Elements of one kind are one run, if any. -/
theorem runs_kind {l : List α} {kind : Bool} (h : ∀ a ∈ l, isId a = kind) (hne : l ≠ []) :
    runs isId l = [l] := by
  unfold runs
  apply List.splitBy_of_isChain hne
  apply List.Pairwise.isChain
  refine List.pairwise_of_forall_mem_list fun a ha b hb => ?_
  rw [h a ha, h b hb, beq_self_eq_true]

theorem mem_runs_kind {l : List α} {kind : Bool} (h : ∀ a ∈ l, isId a = kind) {r : List α} :
    r ∈ runs isId l ↔ r = l ∧ l ≠ [] := by
  cases l with
  | nil => simp [runs]
  | cons a l => simp [runs_kind h]

theorem flatMap_runs_kind {g : List α → List α} {l : List α} {kind : Bool}
    (h : ∀ a ∈ l, isId a = kind) (hnil : g [] = []) : (runs isId l).flatMap g = g l := by
  cases l with
  | nil => exact hnil.symm
  | cons a l => rw [runs_kind h (List.cons_ne_nil a l), List.flatMap_singleton]

variable (isId) in
/-- The separators a list begins with. -/
theorem exists_separators (l : List α) :
    ∃ s rest, l = s ++ rest ∧ (∀ a ∈ s, isId a = false)
      ∧ ∀ a ∈ rest.head?, isId a = true := by
  refine ⟨l.takeWhile fun a => !isId a, l.dropWhile fun a => !isId a,
    List.takeWhile_append_dropWhile.symm, ?_, ?_⟩
  · intro a ha
    simpa using List.mem_takeWhile_imp ha
  · intro a ha
    have hhead := List.head?_dropWhile_not (fun a => !isId a) l
    rw [Option.mem_def.mp ha] at hhead
    simpa using hhead

/-- Separators and what follows them do not share a run. -/
theorem runs_separators {s rest : List α} (hs : ∀ a ∈ s, isId a = false)
    (hrest : ∀ a ∈ rest.head?, isId a = true) :
    runs isId (s ++ rest) = runs isId s ++ runs isId rest := by
  apply runs_append
  intro a ha b hb
  rw [hs a (List.mem_of_getLast? ha), hrest b hb]
  rfl

/-- A word and the separator behind it do not share a run. -/
theorem runs_word {w : List α} (hw : ∀ a ∈ w, isId a = true) {a : α} (ha : isId a = false)
    (l : List α) : runs isId (w ++ a :: l) = runs isId w ++ runs isId (a :: l) := by
  apply runs_append
  intro b hb c hc
  rw [List.head?_cons, Option.mem_some_iff] at hc
  rw [hw b (List.mem_of_getLast? hb), ← hc, ha]
  rfl

/-- Substituting run by run is substituting the words. -/
theorem flatMap_runs {g : List α → List α} (hnil : g [] = [])
    (hseparators : ∀ s, (∀ a ∈ s, isId a = false) → g s = s) (l : List α) :
    (runs isId l).flatMap g = substWords isId g l := by
  induction l using words_induction isId with
  | word w hw => rw [flatMap_runs_kind hw hnil, substWords_word g hw]
  | separator w a l hw ha ih =>
      obtain ⟨s, rest, rfl, hs, hrest⟩ := exists_separators isId l
      have has : ∀ b ∈ a :: s, isId b = false := by
        rw [List.forall_mem_cons]
        exact ⟨ha, hs⟩
      rw [subst_separator g w ha, substWords_word g hw, ← ih, runs_word hw ha,
        List.flatMap_append, flatMap_runs_kind hw hnil, ← List.cons_append,
        runs_separators has hrest, runs_separators hs hrest, List.flatMap_append,
        List.flatMap_append, flatMap_runs_kind has hnil, flatMap_runs_kind hs hnil,
        hseparators _ has, hseparators _ hs, List.cons_append]

/-- The runs of identifier elements are the words. -/
theorem mem_runs_iff {w : List α} (hne : w ≠ []) (hw : ∀ a ∈ w, isId a = true) {l : List α} :
    w ∈ runs isId l ↔ w ∈ words isId l := by
  have hnot : ∀ s : List α, (∀ a ∈ s, isId a = false) → w ∉ runs isId s := by
    intro s hs hmem
    obtain ⟨rfl, -⟩ := (mem_runs_kind hs).mp hmem
    obtain ⟨a, ha⟩ := List.exists_mem_of_ne_nil w hne
    have hid := hs a ha
    rw [hw a ha] at hid
    cases hid
  have hword : ∀ u : List α, (∀ a ∈ u, isId a = true) → (w ∈ runs isId u ↔ w = u) := by
    intro u hu
    rw [mem_runs_kind hu]
    constructor
    · exact And.left
    · rintro rfl
      exact ⟨rfl, hne⟩
  induction l using words_induction isId with
  | word u hu => rw [words_word hu, List.mem_singleton, hword u hu]
  | separator u a l hu ha ih =>
      obtain ⟨s, rest, rfl, hs, hrest⟩ := exists_separators isId l
      have has : ∀ b ∈ a :: s, isId b = false := by
        rw [List.forall_mem_cons]
        exact ⟨ha, hs⟩
      have hl : w ∈ runs isId (s ++ rest) ↔ w ∈ words isId (s ++ rest) := ih
      rw [words_separator hu ha, List.mem_cons, ← hl, runs_word hu ha, List.mem_append,
        hword u hu, ← List.cons_append, runs_separators has hrest, runs_separators hs hrest,
        List.mem_append, List.mem_append, or_iff_right (hnot _ has), or_iff_right (hnot _ hs)]

-- ======================================================== the occurrences

variable [DecidableEq α]

/-- `into` for the word `k`. -/
def replaceWord (k into : List α) (w : List α) : List α := if w = k then into else w

/-- At the start of a word, only that word is met. -/
theorem isHit_word {k : List α} (hk : ∀ a ∈ k, isId a = true) {c : α} {w rest : List α}
    (hw : ∀ a ∈ c :: w, isId a = true) (hrest : ∀ a ∈ rest.head?, isId a = false)
    (hne : c :: w ≠ k) : isHit isId k true (c :: w ++ rest) = false := by
  rw [Bool.eq_false_iff]
  intro hhit
  obtain ⟨after, hsplit, -, hafter⟩ := isHit_eq_true.mp hhit
  rcases List.append_eq_append_iff.mp hsplit with ⟨s, hs, hr⟩ | ⟨s, hs, ha⟩
  · -- The pattern goes on behind the word, with a separator.
    cases s with
    | nil => exact hne (by rw [hs, List.append_nil])
    | cons a s =>
        have hid := hk a (by simp [hs])
        rw [hrest a (by simp [hr])] at hid
        cases hid
  · -- The word goes on behind the pattern.
    cases s with
    | nil => exact hne (by rw [hs, List.append_nil])
    | cons a s =>
        have hid := hw a (by simp [hs])
        rw [hafter a (by simp [ha])] at hid
        cases hid

/-- A separator starts no word. -/
theorem isHit_separator {k : List α} (hk : ∀ a ∈ k, isId a = true) (hne : k ≠ []) {a : α}
    (ha : isId a = false) (ok : Bool) (l : List α) : isHit isId k ok (a :: l) = false := by
  rw [Bool.eq_false_iff]
  intro hhit
  obtain ⟨rest, hrest, -⟩ := isHit_eq_true.mp hhit
  obtain ⟨c, k, rfl⟩ := List.exists_cons_of_ne_nil hne
  rw [List.cons_append, List.cons.injEq] at hrest
  rw [hrest.1, hk c (List.mem_cons_self ..)] at ha
  cases ha

theorem isHit_not_ok (k l : List α) : isHit isId k false l = false := by
  unfold isHit
  rw [Bool.and_false, Bool.false_and]

/-- The scan goes over a word: a mark if it is the one, else its elements. -/
theorem scan_over_word {k : List α} (hk : ∀ a ∈ k, isId a = true) (hne : k ≠ [])
    {w rest : List α} (hw : ∀ a ∈ w, isId a = true) (hrest : ∀ a ∈ rest.head?, isId a = false)
    {marks : List (Option α)} (h : ∀ ok, (w = [] → ok = true) → Scan isId k ok rest marks) :
    Scan isId k true (w ++ rest) ((if w = k then [none] else w.map some) ++ marks) := by
  by_cases heq : w = k
  · subst heq
    rw [if_pos rfl]
    refine .hit ?_ ?_
    · exact isHit_eq_true.mpr ⟨rest, rfl, rfl, fun a ha => hrest a ha⟩
    · exact h _ fun hnil => absurd hnil hne
  · rw [if_neg heq]
    cases w with
    | nil => exact h true fun _ => rfl
    | cons c w =>
        refine .keep (isHit_word hk hw hrest heq) ?_
        rw [List.forall_mem_cons] at hw
        rw [hw.1]
        refine .keep_all ?_ ?_ (h false fun hnil => by cases hnil)
        · intro a _ l
          exact isHit_not_ok k (a :: l)
        · intro a ha
          rw [hw.2 a ha, Bool.not_true]

/-- The delimited occurrences of a word are the words equal to it. -/
theorem scan_word {k : List α} (hk : ∀ a ∈ k, isId a = true) (hne : k ≠ []) (l : List α) :
    ∃ marks, Scan isId k true l marks
      ∧ ∀ into, render into marks = substWords isId (replaceWord k into) l := by
  have hrender : ∀ (into w : List α) (marks : List (Option α)),
      render into ((if w = k then [none] else w.map some) ++ marks)
        = replaceWord k into w ++ render into marks := by
    intro into w marks
    unfold render renderWith replaceWord
    rw [List.flatMap_append]
    by_cases heq : w = k
    · rw [if_pos heq, if_pos heq]
      simp
    · rw [if_neg heq, if_neg heq]
      simp [List.flatMap_map]
  induction l using words_induction isId with
  | word w hw =>
      have hend : ∀ a ∈ ([] : List α).head?, isId a = false := by simp
      have hover := scan_over_word hk hne hw hend fun ok _ => Scan.nil ok
      rw [List.append_nil w] at hover
      refine ⟨_, hover, ?_⟩
      intro into
      rw [hrender, substWords_word _ hw]
      exact List.append_nil _
  | separator w a l hw ha ih =>
      obtain ⟨marks, hscan, hmarks⟩ := ih
      refine ⟨(if w = k then [none] else w.map some) ++ some a :: marks, ?_, ?_⟩
      · apply scan_over_word hk hne hw
        · intro b hb
          rw [List.head?_cons, Option.mem_some_iff] at hb
          rw [← hb, ha]
        · intro ok _
          refine .keep (isHit_separator hk hne ha ok l) ?_
          rw [ha]
          exact hscan
      · intro into
        rw [hrender, subst_separator _ w ha, substWords_word _ hw, ← hmarks into]
        rfl

-- ============================================== one word after another

/-- The words replaced one after another, each in what the ones before
left. -/
def replaceWords (isId : α → Bool) (pairs : List (List α × List α)) (l : List α) : List α :=
  pairs.foldl (fun l p => substWords isId (replaceWord p.1 p.2) l) l

theorem replaceWord_of_ne {k w : List α} (h : w ≠ k) (into : List α) :
    replaceWord k into w = w := if_neg h

/-- It does to a list what it does to the words. -/
theorem replaceWords_eq (pairs : List (List α × List α)) (l : List α) :
    replaceWords isId pairs l = substWords isId (replaceWords isId pairs) l := by
  induction pairs generalizing l with
  | nil => exact (subst_id fun _ _ => rfl).symm
  | cons p pairs ih =>
      show replaceWords isId pairs (substWords isId (replaceWord p.1 p.2) l) = _
      rw [ih, subst_subst]
      apply subst_congr
      intro w hw
      show _ = replaceWords isId pairs (substWords isId (replaceWord p.1 p.2) w)
      rw [substWords_word _ (isId_of_mem_words hw), ih (replaceWord p.1 p.2 w)]

theorem separators_replaceWords (pairs : List (List α × List α)) (l : List α) :
    separators isId l ≤ separators isId (replaceWords isId pairs l) := by
  rw [replaceWords_eq]
  exact separators_subst _ l

/-- A word that is none of the keys stays. -/
theorem replaceWords_not_key {pairs : List (List α × List α)} {w : List α}
    (hw : ∀ a ∈ w, isId a = true) (h : w ∉ pairs.map (·.1)) :
    replaceWords isId pairs w = w := by
  induction pairs with
  | nil => rfl
  | cons p pairs ih =>
      rw [List.map_cons, List.mem_cons, not_or] at h
      show replaceWords isId pairs (substWords isId (replaceWord p.1 p.2) w) = w
      rw [substWords_word _ hw, replaceWord_of_ne h.1, ih h.2]

/-- A word that is a key becomes its value, and that what comes after makes
of it. -/
theorem replaceWords_key {front rest : List (List α × List α)} {w v : List α}
    (hw : ∀ a ∈ w, isId a = true) (h : w ∉ front.map (·.1)) :
    replaceWords isId (front ++ (w, v) :: rest) w = replaceWords isId rest v := by
  have hfront : replaceWords isId front w = w := replaceWords_not_key hw h
  unfold replaceWords at hfront ⊢
  rw [List.foldl_append, hfront, List.foldl_cons]
  dsimp only
  rw [substWords_word _ hw, replaceWord, if_pos rfl]

end Words

end Lib
