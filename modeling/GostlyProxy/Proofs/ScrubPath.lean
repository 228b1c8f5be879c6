/-
The paths the chaos event log shows.

`scrubPath` is a loop with a separator flag; what it writes is the layout
(`Lib/Segments.lean`) of the path's segments with the placeholder for the
ids (`scrubPath_eq`), rooted when the path was. Everything else is read off
that: the segments of the output are the scrubbed segments of the path, and
scrubbing them once more changes none.

The two tests of a segment work on bytes; both are statements about its
characters (`isUuid_iff`, `isLongNumeric_iff`).
-/
import GostlyProxy.Lib.Segments
import GostlyProxy.Proofs.DynamicSegments

namespace GostlyProxy

open Lib

-- ======================================================== scrubbed segments

/-- Five or more digits. -/
def LongNumber (s : Text) : Prop := 5 ≤ s.length ∧ s.all isAsciiDigit = true

instance (s : Text) : Decidable (LongNumber s) := inferInstanceAs (Decidable (_ ∧ _))

/-- A segment of a path as the log shows it. -/
def scrubSegment (s : Text) : Text :=
  if UuidShape s ∨ LongNumber s then idPlaceholder else s

theorem isAsciiDigit_ascii {c : Char} (h : isAsciiDigit c = true) : c.toNat < 128 := by
  simp only [isAsciiDigit, Bool.and_eq_true, decide_eq_true_eq] at h
  omega

/-- A byte beyond ASCII is no digit. -/
theorem not_isAsciiDigit_byte {n : Nat} (hlow : 128 ≤ n) (hhigh : n < 256) :
    isAsciiDigit (Char.ofNat (UInt8.ofNat n).toNat) = false := by
  rw [Utf8.toNat_byte hhigh, Bool.eq_false_iff]
  intro h
  have hchar : (Char.ofNat n).toNat = n := Utf8.toNat_ofNat (Or.inl (by omega))
  have hascii := isAsciiDigit_ascii h
  omega

/-- The bytes of a character are digits when it is one. -/
theorem all_digits_utf8EncodeChar (c : Char) :
    ((String.utf8EncodeChar c).all fun b => isAsciiDigit (Char.ofNat b.toNat)) =
      isAsciiDigit c := by
  have hrange := Utf8.toNat_range c
  rw [Utf8.utf8EncodeChar_eq]
  by_cases hc : c.toNat ≤ 0x7F
  · rw [if_pos hc, List.all_cons, List.all_nil, Bool.and_true, Utf8.toNat_byte (by omega),
      Utf8.ofNat_toNat]
  · have hno : isAsciiDigit c = false := by
      rw [Bool.eq_false_iff]
      intro h
      have := isAsciiDigit_ascii h
      omega
    rw [if_neg hc, hno]
    split
    · rw [List.all_cons, not_isAsciiDigit_byte (by omega) (by omega), Bool.false_and]
    · split
      · rw [List.all_cons, not_isAsciiDigit_byte (by omega) (by omega), Bool.false_and]
      · rw [List.all_cons, not_isAsciiDigit_byte (by omega) (by omega), Bool.false_and]

theorem isLongNumeric_iff (s : Text) : isLongNumeric s = true ↔ LongNumber s := by
  have hall : (s.utf8.all fun b => isAsciiDigit (Char.ofNat b.toNat)) = s.all isAsciiDigit := by
    rw [Text.utf8, List.all_flatMap]
    exact congrArg s.all (funext all_digits_utf8EncodeChar)
  rw [isLongNumeric, LongNumber, Bool.and_eq_true, decide_eq_true_eq, hall]
  refine and_congr_left fun hdigits => ?_
  rw [Utf8.length_utf8_of_ascii fun c hc => isAsciiDigit_ascii (List.all_eq_true.mp hdigits c hc)]

theorem scrub_test (s : Text) :
    (isUuid s || isLongNumeric s) = true ↔ UuidShape s ∨ LongNumber s := by
  rw [Bool.or_eq_true, isUuid_iff, isLongNumeric_iff]

/-- The placeholder is no id. -/
theorem scrubSegment_clean (s : Text) :
    ¬ UuidShape (scrubSegment s) ∧ ¬ LongNumber (scrubSegment s) := by
  rw [scrubSegment]
  split
  · exact ⟨by decide, by decide⟩
  · rename_i h
    exact not_or.mp h

theorem scrubSegment_idem (s : Text) : scrubSegment (scrubSegment s) = scrubSegment s :=
  if_neg (not_or.mpr (scrubSegment_clean s))

theorem areSegments_scrubbed {segs : List Text} (h : Text.AreSegments segs) :
    Text.AreSegments (segs.map scrubSegment) := by
  intro s hs
  obtain ⟨t, ht, rfl⟩ := List.mem_map.mp hs
  rw [scrubSegment]
  split
  · decide
  · exact h t ht

-- ================================================================= the loop

/-- One turn of the loop on a segment. -/
theorem scrubSegments_cons {out seg : Text} {wroteSegment : Bool} {rest : List Text}
    (hseg : seg.isEmpty = false) :
    scrubSegments out wroteSegment (seg :: rest) =
      scrubSegments ((if wroteSegment then out ++ ['/'] else out) ++ scrubSegment seg) true
        rest := by
  have hpush : ∀ o : Text, (if isUuid seg || isLongNumeric seg then o ++ idPlaceholder
      else o ++ seg) = o ++ scrubSegment seg := by
    intro o
    rw [scrubSegment, apply_ite (o ++ ·)]
    exact if_congr (scrub_test seg) rfl rfl
  rw [scrubSegments, hseg, if_neg Bool.false_ne_true]
  exact congrArg (scrubSegments · true rest) (hpush _)

/-- After a first segment every segment is written behind a slash. -/
theorem scrubSegments_true (out : Text) (pieces : List Text) :
    scrubSegments out true pieces =
      out ++ ((pieces.filter fun s => !s.isEmpty).map scrubSegment).flatMap (['/'] ++ ·) := by
  induction pieces generalizing out with
  | nil => simp [scrubSegments]
  | cons seg rest ih =>
      cases hseg : seg.isEmpty with
      | true => rw [scrubSegments, if_pos hseg, ih, List.filter_cons_of_neg (by simp [hseg])]
      | false =>
          rw [scrubSegments_cons hseg, ih, List.filter_cons_of_pos (by simp [hseg]),
            List.map_cons, List.flatMap_cons]
          simp

theorem scrubSegments_false (out : Text) (pieces : List Text) :
    scrubSegments out false pieces =
      out ++ Text.join ['/'] ((pieces.filter fun s => !s.isEmpty).map scrubSegment) := by
  induction pieces generalizing out with
  | nil => simp [scrubSegments, Text.join]
  | cons seg rest ih =>
      cases hseg : seg.isEmpty with
      | true => rw [scrubSegments, if_pos hseg, ih, List.filter_cons_of_neg (by simp [hseg])]
      | false =>
          rw [scrubSegments_cons hseg, scrubSegments_true, List.filter_cons_of_pos (by simp [hseg]),
            List.map_cons, Text.join_cons, if_neg Bool.false_ne_true, List.append_assoc]

theorem areSegments_shown (pathQuery : Text) :
    Text.AreSegments ((Text.segments (Text.before '?' pathQuery)).map scrubSegment) :=
  areSegments_scrubbed (Text.areSegments_segments _)

/-- The output is a layout of scrubbed segments. -/
theorem scrubPath_eq (pathQuery : Text) :
    scrubPath pathQuery =
      Text.layout (Text.startsWith (Text.before '?' pathQuery) ['/'])
        ((Text.segments (Text.before '?' pathQuery)).map scrubSegment) := by
  have hclean := areSegments_shown pathQuery
  have hloop : ∀ out, scrubSegments out false (Text.split '/' (Text.before '?' pathQuery)) =
      out ++ Text.join ['/'] ((Text.segments (Text.before '?' pathQuery)).map scrubSegment) :=
    fun out => scrubSegments_false out _
  simp only [scrubPath, hloop]
  generalize (Text.segments (Text.before '?' pathQuery)).map scrubSegment = segs at hclean ⊢
  by_cases hnil : segs = []
  · subst hnil
    cases Text.startsWith (Text.before '?' pathQuery) ['/'] <;> rfl
  · obtain ⟨c, t, hjoin, -⟩ := Text.exists_join_eq_cons hclean hnil
    rw [Text.layout_of_ne_nil hnil, hjoin]
    exact if_neg (by simp)

theorem segments_scrubPath (pathQuery : Text) :
    Text.segments (scrubPath pathQuery) =
      (Text.segments (Text.before '?' pathQuery)).map scrubSegment := by
  rw [scrubPath_eq]
  exact Text.segments_layout (areSegments_shown pathQuery)

-- =========================================================== what is shown

theorem question_not_mem_before (t : Text) : '?' ∉ Text.before '?' t := by
  intro h
  simpa using List.mem_takeWhile_imp h

theorem question_not_mem_scrubPath (pathQuery : Text) : '?' ∉ scrubPath pathQuery := by
  intro h
  obtain ⟨s, hs, hq⟩ := Text.exists_mem_segments h (by decide)
  rw [segments_scrubPath] at hs
  obtain ⟨seg, hseg, rfl⟩ := List.mem_map.mp hs
  rw [scrubSegment] at hq
  split at hq
  · exact absurd hq (by decide)
  · exact question_not_mem_before pathQuery (Text.mem_of_mem_segments hseg hq)

theorem scrubPath_ne_nil (pathQuery : Text) : scrubPath pathQuery ≠ [] := by
  rw [scrubPath_eq]
  exact Text.layout_ne_nil (areSegments_shown pathQuery)

theorem scrubPath_scrubPath (pathQuery : Text) :
    scrubPath (scrubPath pathQuery) = scrubPath pathQuery := by
  have hbefore := Text.before_eq_self (question_not_mem_scrubPath pathQuery)
  calc scrubPath (scrubPath pathQuery)
      = Text.layout (Text.startsWith (scrubPath pathQuery) ['/'])
          ((Text.segments (scrubPath pathQuery)).map scrubSegment) := by
        rw [scrubPath_eq, hbefore]
    _ = Text.layout (Text.startsWith (scrubPath pathQuery) ['/'])
          (Text.segments (scrubPath pathQuery)) := by
        rw [segments_scrubPath, List.map_map]
        congr 1
        exact List.map_congr_left fun s _ => scrubSegment_idem s
    _ = scrubPath pathQuery := by
        rw [scrubPath_eq]
        exact Text.layout_layout (areSegments_shown pathQuery)

/-- A segment of a path that is empty is no id. -/
theorem segment_clean {pathQuery seg : Text} (h : seg ∈ Text.split '/' (scrubPath pathQuery)) :
    ¬ UuidShape seg ∧ ¬ LongNumber seg := by
  cases seg with
  | nil => exact ⟨by decide, by decide⟩
  | cons c s =>
      have hseg : c :: s ∈ Text.segments (scrubPath pathQuery) := List.mem_filter.mpr ⟨h, rfl⟩
      rw [segments_scrubPath] at hseg
      obtain ⟨t, -, ht⟩ := List.mem_map.mp hseg
      rw [← ht]
      exact scrubSegment_clean t

/-- What the log shows of a path, for every path and query: no `?`, the
same whatever follows the first `?`, no id, no two slashes in a row,
something, the path's segments with the placeholder for the ids, and
nothing that scrubbing again would change. -/
theorem scrubPath_scrubs (pathQuery : Text) :
    '?' ∉ scrubPath pathQuery ∧
    (∀ path query query', '?' ∉ path → pathQuery = path ++ '?' :: query →
      scrubPath pathQuery = scrubPath (path ++ '?' :: query')) ∧
    (∀ seg ∈ Text.split '/' (scrubPath pathQuery), ¬ UuidShape seg ∧ ¬ LongNumber seg) ∧
    ¬ ['/', '/'] <:+: scrubPath pathQuery ∧
    scrubPath pathQuery ≠ [] ∧
    Text.segments (scrubPath pathQuery) =
      (Text.segments (Text.before '?' pathQuery)).map (fun seg =>
        if UuidShape seg ∨ LongNumber seg then ("\x7bid\x7d" : Text) else seg) ∧
    scrubPath (scrubPath pathQuery) = scrubPath pathQuery := by
  refine ⟨question_not_mem_scrubPath pathQuery, ?_, fun seg => segment_clean, ?_,
    scrubPath_ne_nil pathQuery, segments_scrubPath pathQuery, scrubPath_scrubPath pathQuery⟩
  · rintro path query query' hpath rfl
    have hcut : ∀ q, Text.before '?' (path ++ '?' :: q) = path := fun q =>
      Text.before_eq_of_cut (Text.cut_append q hpath)
    rw [scrubPath_eq, scrubPath_eq, hcut, hcut]
  · rw [scrubPath_eq]
    exact Text.not_double_layout (areSegments_shown pathQuery)

end GostlyProxy
