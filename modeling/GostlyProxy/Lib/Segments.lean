/-
Paths as lists of non-empty segments.

`segments` reads the segments of a path, whatever its slashes; `layout`
writes a path with one slash between segments, and one in front when it is
rooted. The root path is the layout of no segments at all, rooted or not.

Reading a layout gives its segments back (`segments_layout`), laying that
out again changes nothing (`layout_layout`), and a layout has no two
slashes in a row (`not_double_layout`).
-/
import GostlyProxy.Lib.Text

namespace Lib.Text

/-- The segments of a path, without the empty ones. -/
def segments (t : Text) : List Text := (split '/' t).filter fun s => !s.isEmpty

/-- The path of some segments. -/
def layout (rooted : Bool) (segs : List Text) : Text :=
  if segs.isEmpty then ['/']
  else (if rooted then ['/'] else []) ++ join ['/'] segs

/-- Texts that can stand between two slashes. -/
def AreSegments (segs : List Text) : Prop := ∀ s ∈ segs, s ≠ [] ∧ '/' ∉ s

theorem areSegments_segments (t : Text) : AreSegments (segments t) := by
  intro s hs
  obtain ⟨hsplit, hne⟩ := List.mem_filter.mp hs
  exact ⟨by simpa using hne, not_mem_of_mem_split hsplit⟩

theorem split_cons_slash (t : Text) : split '/' ('/' :: t) = [] :: split '/' t := by
  have h := split_append '/' [] t
  rwa [List.nil_append, split_eq_singleton List.not_mem_nil] at h

theorem segments_cons_slash (t : Text) : segments ('/' :: t) = segments t := by
  rw [segments, split_cons_slash]
  rfl

theorem segments_join {segs : List Text} (h : AreSegments segs) :
    segments (join ['/'] segs) = segs := by
  by_cases hnil : segs = []
  · subst hnil
    rfl
  · rw [segments, split_join (fun s hs => (h s hs).2) hnil]
    exact List.filter_eq_self.mpr fun s hs => by simpa using (h s hs).1

@[simp] theorem layout_nil (rooted : Bool) : layout rooted [] = ['/'] := rfl

theorem layout_of_ne_nil {rooted : Bool} {segs : List Text} (h : segs ≠ []) :
    layout rooted segs = (if rooted then ['/'] else []) ++ join ['/'] segs := by
  rw [layout, if_neg (by simpa using h)]

theorem segments_layout {rooted : Bool} {segs : List Text} (h : AreSegments segs) :
    segments (layout rooted segs) = segs := by
  by_cases hnil : segs = []
  · subst hnil
    rfl
  · rw [layout_of_ne_nil hnil]
    cases rooted with
    | true => exact (segments_cons_slash _).trans (segments_join h)
    | false => exact segments_join h

/-- Every part but the first stands behind a separator. -/
theorem join_cons (sep p : Text) (parts : List Text) :
    join sep (p :: parts) = p ++ parts.flatMap (sep ++ ·) := by
  induction parts generalizing p with
  | nil => simp [join]
  | cons q parts ih =>
      rw [join, List.intercalate_cons_cons, List.flatMap_cons, List.append_assoc,
        List.append_assoc, ← ih q]
      rfl

/-- A joined path starts with its first segment. -/
theorem exists_join_eq_cons {segs : List Text} (h : AreSegments segs) (hne : segs ≠ []) :
    ∃ c t, join ['/'] segs = c :: t ∧ c ≠ '/' := by
  obtain ⟨s, rest, rfl⟩ := List.exists_cons_of_ne_nil hne
  obtain ⟨hs, hslash⟩ := h s (List.mem_cons_self ..)
  obtain ⟨c, t, rfl⟩ := List.exists_cons_of_ne_nil hs
  have hc : c ≠ '/' := fun he => hslash (he ▸ List.mem_cons_self ..)
  exact ⟨c, _, join_cons ['/'] (c :: t) rest, hc⟩

theorem layout_ne_nil {rooted : Bool} {segs : List Text} (h : AreSegments segs) :
    layout rooted segs ≠ [] := by
  intro hlayout
  by_cases hnil : segs = []
  · rw [hnil, layout_nil] at hlayout
    cases hlayout
  · obtain ⟨c, t, hjoin, -⟩ := exists_join_eq_cons h hnil
    rw [layout_of_ne_nil hnil, hjoin] at hlayout
    exact List.cons_ne_nil c t (List.append_eq_nil_iff.mp hlayout).2

/-- A layout without segments reads as rooted, any other as it was. -/
theorem startsWith_layout {rooted : Bool} {segs : List Text} (h : AreSegments segs) :
    startsWith (layout rooted segs) ['/'] = (segs.isEmpty || rooted) := by
  by_cases hnil : segs = []
  · subst hnil
    rfl
  · obtain ⟨c, t, hjoin, hc⟩ := exists_join_eq_cons h hnil
    rw [layout_of_ne_nil hnil, hjoin, List.isEmpty_eq_false_iff.mpr hnil, Bool.false_or]
    cases rooted with
    | true => rfl
    | false =>
        show ('/' == c && true) = false
        rw [Bool.and_true, beq_eq_false_iff_ne]
        exact hc.symm

theorem layout_layout {rooted : Bool} {segs : List Text} (h : AreSegments segs) :
    layout (startsWith (layout rooted segs) ['/']) (segments (layout rooted segs)) =
      layout rooted segs := by
  rw [segments_layout h, startsWith_layout h]
  cases segs with
  | nil => rfl
  | cons s segs => rfl

/-- Two slashes in a row leave an empty piece between others. -/
theorem not_double_of_split {t : Text} (h : [] ∉ (split '/' t).tail.dropLast) :
    ¬ ['/', '/'] <:+: t := by
  rintro ⟨u, v, rfl⟩
  apply h
  obtain ⟨p, ps, hu⟩ := List.exists_cons_of_ne_nil (split_ne_nil '/' u)
  have hsplit : split '/' (u ++ ['/', '/'] ++ v) = p :: (ps ++ [] :: split '/' v) := by
    rw [List.append_assoc]
    show split '/' (u ++ '/' :: ([] ++ '/' :: v)) = _
    rw [split_append, split_append, hu, split_eq_singleton List.not_mem_nil]
    rfl
  rw [hsplit, List.tail_cons, List.dropLast_append_of_ne_nil (List.cons_ne_nil _ _),
    List.dropLast_cons_of_ne_nil (split_ne_nil '/' v)]
  exact List.mem_append_right _ (List.mem_cons_self ..)

theorem not_double_layout {rooted : Bool} {segs : List Text} (h : AreSegments segs) :
    ¬ ['/', '/'] <:+: layout rooted segs := by
  refine not_double_of_split fun hmem => ?_
  by_cases hnil : segs = []
  · subst hnil
    rw [layout_nil] at hmem
    exact absurd hmem (by decide)
  · have hsplit := split_join (fun s hs => (h s hs).2) hnil
    have hno : [] ∉ segs := fun hs => (h [] hs).1 rfl
    rw [layout_of_ne_nil hnil] at hmem
    cases rooted with
    | true =>
        rw [if_pos rfl, List.singleton_append, split_cons_slash, hsplit, List.tail_cons] at hmem
        exact hno (List.mem_of_mem_dropLast hmem)
    | false =>
        rw [if_neg Bool.false_ne_true, List.nil_append, hsplit] at hmem
        exact hno (List.mem_of_mem_tail (List.mem_of_mem_dropLast hmem))

-- ============================================================ characters

/-- A joined text holds the characters of its parts. -/
theorem mem_join {sep : Text} {parts : List Text} {p : Text} {c : Char} (hp : p ∈ parts)
    (hc : c ∈ p) : c ∈ join sep parts := by
  cases parts with
  | nil => cases hp
  | cons q parts =>
      rw [join_cons, List.mem_append]
      rcases List.mem_cons.mp hp with rfl | hp
      · exact .inl hc
      · exact .inr (List.mem_flatMap.mpr ⟨p, hp, List.mem_append_right _ hc⟩)

theorem mem_of_mem_segments {t s : Text} {c : Char} (hs : s ∈ segments t) (hc : c ∈ s) :
    c ∈ t := by
  rw [← join_split '/' t]
  exact mem_join (List.mem_filter.mp hs).1 hc

theorem exists_mem_segments {t : Text} {c : Char} (hc : c ∈ t) (hne : c ≠ '/') :
    ∃ s ∈ segments t, c ∈ s := by
  obtain ⟨s, hs, hcs⟩ := exists_mem_split hc hne
  refine ⟨s, List.mem_filter.mpr ⟨hs, ?_⟩, hcs⟩
  simpa using List.ne_nil_of_mem hcs

end Lib.Text
