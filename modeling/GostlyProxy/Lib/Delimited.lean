/-
Replacing the delimited occurrences of a pattern.

Some elements are parts of identifiers (`isId`). An occurrence of a pattern
is delimited when neither the element before it nor the one after it is; the
ends of the list delimit too. A replacer goes over the list from the left,
replaces a delimited occurrence where it meets one and goes on behind it,
and keeps every other element.

# The scan

`Scan` is that walk without saying what is done: its marks are the list with
`none` for every occurrence. There is exactly one scan of a list
(`exists_scan`, `Scan.unique`), and `render` turns its marks into a result.
An occurrence is marked exactly when there is a delimited one
(`Scan.none_mem_iff`).

# Encodings

When every element is written as some units, no unit but the first of an
element starts one, and the units of an element are parts of identifiers
exactly when the element is, the scan of the units is the scan of the
elements (`IsCode.scan_flatMap`). UTF-8 is such an encoding.
-/
import Mathlib.Data.List.Infix
import Mathlib.Data.List.Basic

namespace Lib

section Delimited

variable {α : Type*} [DecidableEq α] (isId : α → Bool) (pat : List α)

/-- A delimited occurrence starts here; `ok` says that the element before is
no part of an identifier. -/
def isHit (ok : Bool) (l : List α) : Bool :=
  pat.isPrefixOf l && ok && (l.drop pat.length).head?.all fun a => !isId a

/-- The walk over a list, and its marks: every element it keeps, `none` for
every occurrence it meets. -/
inductive Scan : Bool → List α → List (Option α) → Prop
  | nil (ok : Bool) : Scan ok [] []
  | hit {ok : Bool} {rest : List α} {marks : List (Option α)}
      (h : isHit isId pat ok (pat ++ rest) = true)
      (hs : Scan (pat.getLast?.all fun a => !isId a) rest marks) :
      Scan ok (pat ++ rest) (none :: marks)
  | keep {ok : Bool} {a : α} {rest : List α} {marks : List (Option α)}
      (h : isHit isId pat ok (a :: rest) = false) (hs : Scan (!isId a) rest marks) :
      Scan ok (a :: rest) (some a :: marks)

/-- There is a delimited occurrence. -/
def Delimited (isId : α → Bool) (pat l : List α) : Prop :=
  ∃ front rest, l = front ++ pat ++ rest ∧ (∀ a, front.getLast? = some a → isId a = false)
    ∧ ∀ a, rest.head? = some a → isId a = false

/-- The marks with `into` for every occurrence and `keep` of every element. -/
def renderWith {β : Type*} (into : List β) (keep : α → List β) (marks : List (Option α)) :
    List β :=
  marks.flatMap fun m => m.elim into keep

/-- The marks with `into` for every occurrence. -/
def render (into : List α) (marks : List (Option α)) : List α :=
  renderWith into (fun a => [a]) marks

variable {isId pat}

theorem isHit_eq_true {ok : Bool} {l : List α} :
    isHit isId pat ok l = true
      ↔ ∃ rest, l = pat ++ rest ∧ ok = true ∧ ∀ a, rest.head? = some a → isId a = false := by
  unfold isHit
  rw [Bool.and_eq_true, Bool.and_eq_true, List.isPrefixOf_iff_prefix, Option.all_eq_true]
  constructor
  · rintro ⟨⟨⟨rest, rfl⟩, hok⟩, hafter⟩
    rw [List.drop_left] at hafter
    exact ⟨rest, rfl, hok, fun a ha => by simpa using hafter a ha⟩
  · rintro ⟨rest, rfl, hok, hafter⟩
    rw [List.drop_left]
    exact ⟨⟨List.prefix_append pat rest, hok⟩, fun a ha => by simp [hafter a ha]⟩

/-- What a scan begins with. -/
theorem Scan.inv {ok : Bool} {l : List α} {marks : List (Option α)}
    (h : Scan isId pat ok l marks) :
    (l = [] ∧ marks = [])
      ∨ (∃ rest marks', l = pat ++ rest ∧ isHit isId pat ok l = true ∧ marks = none :: marks'
        ∧ Scan isId pat (pat.getLast?.all fun a => !isId a) rest marks')
      ∨ ∃ a rest marks', l = a :: rest ∧ isHit isId pat ok l = false
        ∧ marks = some a :: marks' ∧ Scan isId pat (!isId a) rest marks' := by
  cases h with
  | nil => exact Or.inl ⟨rfl, rfl⟩
  | hit h hs => exact Or.inr (Or.inl ⟨_, _, rfl, h, rfl, hs⟩)
  | keep h hs => exact Or.inr (Or.inr ⟨_, _, _, rfl, h, rfl, hs⟩)

-- ====================================================== one and only one

theorem exists_scan (hpat : pat ≠ []) (ok : Bool) (l : List α) :
    ∃ marks, Scan isId pat ok l marks := by
  induction hn : l.length using Nat.strong_induction_on generalizing ok l with
  | _ n ih =>
      subst hn
      cases l with
      | nil => exact ⟨[], .nil ok⟩
      | cons a l =>
          cases hhit : isHit isId pat ok (a :: l) with
          | true =>
              obtain ⟨rest, hrest, -⟩ := isHit_eq_true.mp hhit
              have hlt : rest.length < (a :: l).length := by
                have hpos := List.length_pos_of_ne_nil hpat
                rw [hrest, List.length_append]
                omega
              obtain ⟨marks, hs⟩ := ih _ hlt (pat.getLast?.all fun a => !isId a) rest rfl
              rw [hrest] at hhit ⊢
              exact ⟨_, .hit hhit hs⟩
          | false =>
              obtain ⟨marks, hs⟩ := ih l.length (by simp) (!isId a) l rfl
              exact ⟨_, .keep hhit hs⟩

theorem Scan.unique (hpat : pat ≠ []) {ok : Bool} {l : List α} {marks marks' : List (Option α)}
    (h : Scan isId pat ok l marks) (h' : Scan isId pat ok l marks') : marks = marks' := by
  induction h generalizing marks' with
  | nil ok =>
      rcases h'.inv with ⟨-, rfl⟩ | ⟨rest, _, hl, -⟩ | ⟨_, _, _, hl, -⟩
      · rfl
      · exact absurd (List.append_eq_nil_iff.mp hl.symm).1 hpat
      · cases hl
  | hit h hs ih =>
      rcases h'.inv with ⟨hl, -⟩ | ⟨rest, _, hl, -, rfl, hs'⟩ | ⟨_, _, _, -, hnot, -⟩
      · exact absurd (List.append_eq_nil_iff.mp hl).1 hpat
      · rw [ih (List.append_cancel_left hl ▸ hs')]
      · rw [h] at hnot
        cases hnot
  | keep h hs ih =>
      rcases h'.inv with ⟨hl, -⟩ | ⟨_, _, -, hhit, -⟩ | ⟨_, _, _, hl, -, rfl, hs'⟩
      · cases hl
      · rw [h] at hhit
        cases hhit
      · cases hl
        rw [ih hs']

/-- With the pattern for every occurrence the marks are the list. -/
theorem Scan.render_pat {ok : Bool} {l : List α} {marks : List (Option α)}
    (h : Scan isId pat ok l marks) : render pat marks = l := by
  induction h with
  | nil ok => rfl
  | hit h hs ih => exact congrArg (pat ++ ·) ih
  | @keep ok a rest marks h hs ih => exact congrArg (a :: ·) ih

omit [DecidableEq α] in
/-- How long a rendering is depends on how long the replacement is. -/
theorem length_render_congr {into into' : List α} (h : into.length = into'.length)
    (marks : List (Option α)) : (render into marks).length = (render into' marks).length := by
  unfold render renderWith
  rw [List.length_flatMap, List.length_flatMap]
  congr 1
  apply List.map_congr_left
  intro m _
  cases m with
  | none => exact h
  | some a => rfl

theorem Scan.mem_of_some_mem {ok : Bool} {l : List α} {marks : List (Option α)}
    (h : Scan isId pat ok l marks) {a : α} (ha : some a ∈ marks) : a ∈ l := by
  rw [← h.render_pat]
  exact List.mem_flatMap.mpr ⟨some a, ha, List.mem_singleton.mpr rfl⟩

/-- An occurrence is marked exactly when there is a delimited one. -/
theorem Scan.none_mem_iff (hpat : pat ≠ []) {ok : Bool} {l : List α} {marks : List (Option α)}
    (h : Scan isId pat ok l marks) :
    none ∈ marks ↔ ∃ front rest, l = front ++ pat ++ rest
      ∧ (∀ a, front.getLast? = some a → isId a = false) ∧ (front = [] → ok = true)
      ∧ ∀ a, rest.head? = some a → isId a = false := by
  induction h with
  | nil ok =>
      constructor
      · intro hmem
        cases hmem
      · rintro ⟨front, rest, hl, -⟩
        exact absurd (List.append_eq_nil_iff.mp (List.append_eq_nil_iff.mp hl.symm).1).2 hpat
  | @hit ok rest marks h hs ih =>
      refine iff_of_true (List.mem_cons_self ..) ⟨[], rest, rfl, by simp, ?_⟩
      obtain ⟨rest', hrest, hok, hafter⟩ := isHit_eq_true.mp h
      exact ⟨fun _ => hok, List.append_cancel_left hrest ▸ hafter⟩
  | @keep ok a rest marks h hs ih =>
      rw [List.mem_cons, or_iff_right (by simp), ih]
      constructor
      · rintro ⟨front, rest', rfl, hlast, hstart, hafter⟩
        refine ⟨a :: front, rest', rfl, ?_, by simp, hafter⟩
        intro b hb
        cases front with
        | nil =>
            rw [List.getLast?_singleton, Option.some.injEq] at hb
            simpa [hb] using hstart rfl
        | cons c front => exact hlast b (by rwa [List.getLast?_cons_cons] at hb)
      · rintro ⟨front, rest', hl, hlast, hstart, hafter⟩
        cases front with
        | nil =>
            -- An occurrence right here would have been a hit.
            rw [List.nil_append] at hl
            rw [isHit_eq_true.mpr ⟨rest', hl, hstart rfl, hafter⟩] at h
            cases h
        | cons b front =>
            obtain ⟨rfl, htail⟩ := List.cons.inj hl
            refine ⟨front, rest', htail, ?_, ?_, hafter⟩
            · intro c hc
              apply hlast
              rw [List.getLast?_cons, hc]
              rfl
            · rintro rfl
              simp [hlast a rfl]

theorem Scan.delimited_iff (hpat : pat ≠ []) {l : List α} {marks : List (Option α)}
    (h : Scan isId pat true l marks) : none ∈ marks ↔ Delimited isId pat l := by
  unfold Delimited
  rw [h.none_mem_iff hpat]
  simp

/-- Without an occurrence everything is kept. -/
theorem Scan.eq_map_some {ok : Bool} {l : List α} {marks : List (Option α)}
    (h : Scan isId pat ok l marks) (hnone : none ∉ marks) : marks = l.map some := by
  induction h with
  | nil ok => rfl
  | hit h hs ih => exact absurd (List.mem_cons_self ..) hnone
  | keep h hs ih =>
      rw [List.mem_cons, not_or] at hnone
      rw [List.map_cons, ih hnone.2]

/-- Elements that start no occurrence are kept one by one. -/
theorem Scan.keep_all {ok : Bool} {us l : List α} {marks : List (Option α)}
    (hnot : ∀ u ∈ us, ∀ l, isHit isId pat ok (u :: l) = false)
    (hid : ∀ u ∈ us, (!isId u) = ok) (h : Scan isId pat ok l marks) :
    Scan isId pat ok (us ++ l) (us.map some ++ marks) := by
  induction us with
  | nil => exact h
  | cons u us ih =>
      rw [List.forall_mem_cons] at hnot hid
      refine .keep (hnot.1 _) ?_
      rw [hid.1]
      exact ih hnot.2 hid.2

end Delimited

-- =============================================================== encodings

/-- A code for elements, with the part of identifiers its units have. -/
structure IsCode {α γ : Type*} (enc : α → List γ) (isId : α → Bool) (isIdUnit : γ → Bool) :
    Prop where
  ne_nil : ∀ a, enc a ≠ []
  inj : ∀ a b s t, enc a ++ s = enc b ++ t → a = b
  first : ∀ a b u, u ∈ (enc a).tail → (enc b).head? ≠ some u
  isId : ∀ a u, u ∈ enc a → isIdUnit u = isId a

section Code

variable {α γ : Type*} {enc : α → List γ} {isId : α → Bool} {isIdUnit : γ → Bool} {pat : List α}

/-- The marks of the units: an occurrence stays one, an element becomes its
units. -/
def encodeMarks (enc : α → List γ) (marks : List (Option α)) : List (Option γ) :=
  marks.flatMap fun m => m.elim [none] fun a => (enc a).map some

/-- What is kept or put in by units is kept or put in by elements. -/
theorem renderWith_encodeMarks {β : Type*} (into : List β) (keep : γ → List β)
    (marks : List (Option α)) :
    renderWith into keep (encodeMarks enc marks)
      = renderWith into (fun a => (enc a).flatMap keep) marks := by
  induction marks with
  | nil => rfl
  | cons m marks ih =>
      unfold encodeMarks renderWith at ih ⊢
      rw [List.flatMap_cons, List.flatMap_append, ih, List.flatMap_cons]
      cases m with
      | none => simp
      | some a => simp [List.flatMap_map]

theorem none_mem_encodeMarks {marks : List (Option α)} :
    none ∈ encodeMarks enc marks ↔ none ∈ marks := by
  unfold encodeMarks
  rw [List.mem_flatMap]
  constructor
  · rintro ⟨m, hm, hnone⟩
    cases m with
    | none => exact hm
    | some a => simp at hnone
  · intro h
    exact ⟨none, h, List.mem_singleton.mpr rfl⟩

namespace IsCode

/-- The units may be written as others that can be told apart. -/
theorem map {δ : Type*} {isIdUnit' : δ → Bool} {f : γ → δ} (hcode : IsCode enc isId isIdUnit)
    (hf : ∀ u v, f u = f v → u = v) (hid : ∀ u, isIdUnit' (f u) = isIdUnit u) :
    IsCode (fun a => (enc a).map f) isId isIdUnit' where
  ne_nil := by
    intro a h
    exact hcode.ne_nil a (List.map_eq_nil_iff.mp h)
  inj := by
    have hstarts : ∀ a b s, (enc b).map f = (enc a).map f ++ s → a = b := by
      intro a b s h
      obtain ⟨us, vs, hsplit, hus, -⟩ := List.map_eq_append_iff.mp h
      rw [List.map_inj_right fun u v => hf u v] at hus
      exact hcode.inj a b vs [] (by rw [hsplit, hus, List.append_nil])
    intro a b s t h
    rcases List.append_eq_append_iff.mp h with ⟨r, hr, -⟩ | ⟨r, hr, -⟩
    · exact hstarts a b r hr
    · exact (hstarts b a r hr).symm
  first := by
    intro a b u hu hhead
    rw [← List.map_tail] at hu
    obtain ⟨v, hv, rfl⟩ := List.mem_map.mp hu
    rw [List.head?_map, Option.map_eq_some_iff] at hhead
    obtain ⟨w, hw, hwv⟩ := hhead
    rw [hf w v hwv] at hw
    exact hcode.first a b v hv hw
  isId := by
    intro a u hu
    obtain ⟨v, hv, rfl⟩ := List.mem_map.mp hu
    rw [hid, hcode.isId a v hv]

variable (hcode : IsCode enc isId isIdUnit)
include hcode

theorem head_flatMap (l : List α) :
    ((l.flatMap enc).head?.all fun u => !isIdUnit u) = l.head?.all fun a => !isId a := by
  cases l with
  | nil => rfl
  | cons a l =>
      obtain ⟨u, us, henc⟩ := List.exists_cons_of_ne_nil (hcode.ne_nil a)
      have hu := hcode.isId a u (by simp [henc])
      rw [List.flatMap_cons, henc]
      simp [hu]

theorem last_flatMap (l : List α) :
    ((l.flatMap enc).getLast?.all fun u => !isIdUnit u) = l.getLast?.all fun a => !isId a := by
  rcases List.eq_nil_or_concat l with rfl | ⟨init, a, rfl⟩
  · rfl
  · have hlast := List.getLast?_eq_some_getLast (hcode.ne_nil a)
    have hu := hcode.isId a _ (List.getLast_mem (hcode.ne_nil a))
    rw [List.concat_eq_append, List.flatMap_append, List.flatMap_singleton,
      List.getLast?_append, hlast]
    simp [hu]

theorem flatMap_prefix {l : List α} : pat.flatMap enc <+: l.flatMap enc ↔ pat <+: l := by
  induction pat generalizing l with
  | nil => simp
  | cons p pat ih =>
      constructor
      · rintro ⟨t, ht⟩
        rw [List.flatMap_cons, List.append_assoc] at ht
        cases l with
        | nil =>
            rw [List.flatMap_nil, List.append_eq_nil_iff] at ht
            exact absurd ht.1 (hcode.ne_nil p)
        | cons a l =>
            rw [List.flatMap_cons] at ht
            have hpa := hcode.inj p a _ _ ht
            subst hpa
            rw [List.prefix_cons_inj]
            exact ih.mp ⟨t, List.append_cancel_left ht⟩
      · rintro ⟨t, rfl⟩
        rw [List.flatMap_append]
        exact List.prefix_append _ _

variable [DecidableEq α] [DecidableEq γ]

/-- The pattern is met by units where it is met by elements. -/
theorem isHit_flatMap (ok : Bool) (l : List α) :
    isHit isIdUnit (pat.flatMap enc) ok (l.flatMap enc) = isHit isId pat ok l := by
  unfold isHit
  by_cases hstarts : pat <+: l
  · obtain ⟨rest, rfl⟩ := hstarts
    rw [List.flatMap_append, List.drop_left, List.drop_left, hcode.head_flatMap,
      List.isPrefixOf_iff_prefix.mpr (List.prefix_append _ _),
      List.isPrefixOf_iff_prefix.mpr (List.prefix_append _ _)]
  · have hunits : ¬ pat.flatMap enc <+: l.flatMap enc := fun h =>
      hstarts (hcode.flatMap_prefix.mp h)
    rw [← List.isPrefixOf_iff_prefix, Bool.not_eq_true] at hstarts hunits
    rw [hstarts, hunits, Bool.false_and, Bool.false_and, Bool.false_and]

omit [DecidableEq α] in
/-- Inside an element no pattern starts. -/
theorem isHit_tail (hpat : pat ≠ []) {a : α} {u : γ} (hu : u ∈ (enc a).tail) (ok : Bool)
    (l : List γ) : isHit isIdUnit (pat.flatMap enc) ok (u :: l) = false := by
  rw [Bool.eq_false_iff]
  intro hhit
  obtain ⟨rest, hrest, -⟩ := isHit_eq_true.mp hhit
  obtain ⟨p, ps, rfl⟩ := List.exists_cons_of_ne_nil hpat
  obtain ⟨v, vs, henc⟩ := List.exists_cons_of_ne_nil (hcode.ne_nil p)
  apply hcode.first a p u hu
  rw [List.flatMap_cons, henc] at hrest
  rw [henc, List.head?_cons, (List.cons.inj hrest).1]

/-- The scan of the units is the scan of the elements. -/
theorem scan_flatMap (hpat : pat ≠ []) {ok : Bool} {l : List α} {marks : List (Option α)}
    (h : Scan isId pat ok l marks) :
    Scan isIdUnit (pat.flatMap enc) ok (l.flatMap enc) (encodeMarks enc marks) := by
  induction h with
  | nil ok => exact .nil ok
  | @hit ok rest marks h hs ih =>
      rw [← hcode.isHit_flatMap, List.flatMap_append] at h
      rw [List.flatMap_append]
      refine .hit h ?_
      rw [hcode.last_flatMap]
      exact ih
  | @keep ok a rest marks h hs ih =>
      obtain ⟨u, us, henc⟩ := List.exists_cons_of_ne_nil (hcode.ne_nil a)
      have hmarks : encodeMarks enc (some a :: marks)
          = some u :: (us.map some ++ encodeMarks enc marks) := by
        unfold encodeMarks
        rw [List.flatMap_cons, Option.elim_some, henc]
        rfl
      have hid : ∀ v ∈ enc a, (!isIdUnit v) = !isId a := fun v hv => by rw [hcode.isId a v hv]
      rw [← hcode.isHit_flatMap, List.flatMap_cons, henc] at h
      rw [hmarks, List.flatMap_cons, henc]
      rw [henc] at hid
      refine .keep h ?_
      rw [hid u (List.mem_cons_self ..)]
      refine .keep_all ?_ (fun v hv => hid v (List.mem_cons_of_mem _ hv)) ih
      intro v hv l
      exact hcode.isHit_tail hpat (a := a) (by simpa [henc] using hv) _ l

/-- Delimited occurrences are occurrences of the units. -/
theorem delimited_flatMap (hpat : pat ≠ []) (l : List α) :
    Delimited isIdUnit (pat.flatMap enc) (l.flatMap enc) ↔ Delimited isId pat l := by
  obtain ⟨marks, hscan⟩ : ∃ marks, Scan isId pat true l marks := exists_scan hpat true l
  have hunits : pat.flatMap enc ≠ [] := by
    obtain ⟨a, as, rfl⟩ := List.exists_cons_of_ne_nil hpat
    rw [List.flatMap_cons, Ne, List.append_eq_nil_iff]
    exact fun h => hcode.ne_nil a h.1
  rw [← (hcode.scan_flatMap hpat hscan).delimited_iff hunits, none_mem_encodeMarks,
    hscan.delimited_iff hpat]

end IsCode

end Code

end Lib
