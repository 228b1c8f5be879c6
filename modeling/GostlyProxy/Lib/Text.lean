/-
Text as a list of Unicode scalar values, with the string operations a
Rust program reaches for: splitting and joining on a character, cutting
at the first occurrence, trimming, line iteration, substring search and
decimal printing.

# Why lists of characters

A Rust `str` is a sequence of scalar values stored as UTF-8. Almost every
string function is a function of the scalar values alone; the few that
read bytes (lengths, slices at byte offsets) go through `utf8Len` and
`sliceTo` here, or through the byte sequences of `Lib/Utf8.lean`.

# Lines

`lines` follows `str::lines`: every line ends at a line feed, a carriage
return right before that line feed goes with it, and the text after the
last line feed is a line only when it is not empty. Logs are grown one
terminated line at a time, so the law the log proofs use is
`lines_append_line`.
-/
import Mathlib.Algebra.GroupWithZero.Nat
import Mathlib.Data.Char
import Mathlib.Data.List.Infix
import Mathlib.Data.List.Sort
import Mathlib.Data.List.Lex
import Mathlib.Data.List.TakeWhile
import Mathlib.Data.List.DropRight

namespace Lib

-- ============================================================== the type

/-- A Rust string: its Unicode scalar values, in order. -/
abbrev Text := List Char

instance : Coe String Text := ⟨String.toList⟩

/-- A quantifier over the members of a list is decided along the list, not
over the whole type. -/
instance (priority := 2000) decidableBAll {α : Type*} (p : α → Prop) [DecidablePred p]
    (l : List α) : Decidable (∀ x ∈ l, p x) := List.decidableBAll p l

namespace Text

-- ====================================================== split and join

/-- `str::split(char)`: the pieces between the separators, never none. -/
def split (sep : Char) (t : Text) : List Text := t.splitOn sep

/-- `[..].join(sep)`. -/
def join (sep : Text) (parts : List Text) : Text := sep.intercalate parts

/-- The text before the first `sep` and the text after it
(`str::find` with the two slices around the hit, or `splitn(2, sep)`). -/
def cut (sep : Char) : Text → Option (Text × Text)
  | [] => none
  | c :: t =>
      if c = sep then some ([], t)
      else (cut sep t).map fun (a, b) => (c :: a, b)

/-- The text before the first `sep`, the whole text without one
(`split(sep).next()`). -/
def before (sep : Char) (t : Text) : Text := t.takeWhile (· ≠ sep)

theorem split_ne_nil (sep : Char) (t : Text) : split sep t ≠ [] :=
  List.splitOn_ne_nil sep t

theorem join_split (sep : Char) (t : Text) :
    join [sep] (split sep t) = t :=
  List.intercalate_splitOn sep

theorem split_join {sep : Char} {parts : List Text}
    (hsep : ∀ p ∈ parts, sep ∉ p) (hne : parts ≠ []) :
    split sep (join [sep] parts) = parts :=
  List.splitOn_intercalate sep hsep hne

/-- No piece of a split holds the separator. -/
theorem not_mem_of_mem_split {sep : Char} {t p : Text} (h : p ∈ split sep t) :
    sep ∉ p := by
  induction t generalizing p with
  | nil =>
      rw [split, List.splitOn_nil, List.mem_singleton] at h
      rw [h]
      exact List.not_mem_nil
  | cons c t ih =>
      rw [split, List.splitOn_cons_eq_if_modifyHead] at h
      by_cases hc : c = sep
      · rw [if_pos (by rw [hc, beq_self_eq_true]), List.mem_cons] at h
        rcases h with rfl | h
        · exact List.not_mem_nil
        · exact ih h
      · rw [if_neg (by rwa [beq_iff_eq])] at h
        obtain ⟨q, qs, hsplit⟩ := List.exists_cons_of_ne_nil (split_ne_nil sep t)
        rw [split] at hsplit
        rw [hsplit, List.modifyHead_cons, List.mem_cons] at h
        have hq : sep ∉ q := ih (by rw [split, hsplit]; exact List.mem_cons_self ..)
        rcases h with rfl | h
        · rw [List.mem_cons, not_or]
          exact ⟨fun he => hc he.symm, hq⟩
        · exact ih (by rw [split, hsplit]; exact List.mem_cons_of_mem _ h)

/-- A text without the separator is one piece. -/
theorem split_eq_singleton {sep : Char} {t : Text} (h : sep ∉ t) : split sep t = [t] :=
  List.splitOn_eq_singleton h

/-- Around a separator the pieces are those of the two sides. -/
theorem split_append (sep : Char) (s t : Text) :
    split sep (s ++ sep :: t) = split sep s ++ split sep t :=
  List.splitOn_append_cons_self s t

/-- What is not the separator is in a piece. -/
theorem exists_mem_split {sep c : Char} {t : Text} (hc : c ∈ t) (hne : c ≠ sep) :
    ∃ p ∈ split sep t, c ∈ p := by
  induction t with
  | nil => cases hc
  | cons d t ih =>
      rw [split, List.splitOn_cons_eq_if_modifyHead]
      by_cases hd : d = sep
      · rw [if_pos (by rw [hd, beq_self_eq_true])]
        rcases List.mem_cons.mp hc with rfl | hc
        · exact absurd hd hne
        · obtain ⟨p, hp, hcp⟩ := ih hc
          exact ⟨p, List.mem_cons_of_mem _ hp, hcp⟩
      · rw [if_neg (by rwa [beq_iff_eq])]
        obtain ⟨q, qs, hsplit⟩ := List.exists_cons_of_ne_nil (split_ne_nil sep t)
        rw [split] at hsplit
        rw [hsplit, List.modifyHead_cons]
        rcases List.mem_cons.mp hc with rfl | hc
        · exact ⟨_, List.mem_cons_self .., List.mem_cons_self ..⟩
        · obtain ⟨p, hp, hcp⟩ := ih hc
          rw [split, hsplit] at hp
          rcases List.mem_cons.mp hp with rfl | hp
          · exact ⟨_, List.mem_cons_self .., List.mem_cons_of_mem _ hcp⟩
          · exact ⟨p, List.mem_cons_of_mem _ hp, hcp⟩

/-- A cut text is put back together by the separator. -/
theorem eq_of_cut {sep : Char} {t a b : Text} (h : cut sep t = some (a, b)) :
    t = a ++ sep :: b ∧ sep ∉ a := by
  induction t generalizing a with
  | nil => simp [cut] at h
  | cons c t ih =>
      by_cases hc : c = sep
      · simp only [cut, if_pos hc, Option.some.injEq, Prod.mk.injEq] at h
        obtain ⟨rfl, rfl⟩ := h
        exact ⟨by rw [hc]; rfl, by simp⟩
      · simp only [cut, if_neg hc, Option.map_eq_some_iff, Prod.mk.injEq,
          Prod.exists] at h
        obtain ⟨a', b', hcut, rfl, rfl⟩ := h
        obtain ⟨rfl, hnot⟩ := ih hcut
        refine ⟨rfl, ?_⟩
        rw [List.mem_cons, not_or]
        exact ⟨fun he => hc he.symm, hnot⟩

/-- The first occurrence is the one that is cut at. -/
theorem cut_append {sep : Char} {a : Text} (b : Text) (ha : sep ∉ a) :
    cut sep (a ++ sep :: b) = some (a, b) := by
  induction a with
  | nil => simp [cut]
  | cons c a ih =>
      rw [List.mem_cons, not_or] at ha
      rw [List.cons_append, cut, if_neg fun he => ha.1 he.symm, ih ha.2]
      rfl

theorem cut_eq_none {sep : Char} {t : Text} : cut sep t = none ↔ sep ∉ t := by
  induction t with
  | nil => simp [cut]
  | cons c t ih =>
      by_cases hc : c = sep
      · simp [cut, hc]
      · rw [cut, if_neg hc, Option.map_eq_none_iff, ih, List.mem_cons, not_or]
        exact ⟨fun h => ⟨fun he => hc he.symm, h⟩, And.right⟩

theorem before_eq_of_cut {sep : Char} {t a b : Text}
    (h : cut sep t = some (a, b)) : before sep t = a := by
  obtain ⟨rfl, hnot⟩ := eq_of_cut h
  have hkeep : ∀ x ∈ a, decide (x ≠ sep) = true := by
    intro x hx
    rw [decide_eq_true_iff]
    intro he
    exact hnot (he ▸ hx)
  rw [before, List.takeWhile_append_of_pos hkeep]
  simp

theorem before_eq_self {sep : Char} {t : Text} (h : sep ∉ t) :
    before sep t = t := by
  rw [before, List.takeWhile_eq_self_iff]
  intro x hx
  rw [decide_eq_true_iff]
  intro he
  exact h (he ▸ hx)

-- ================================================================= trim

/-- The Unicode `White_Space` property (`char::is_whitespace`). -/
def isWhitespace (c : Char) : Bool :=
  let v := c.toNat
  (9 ≤ v && v ≤ 13) || v == 0x20 || v == 0x85 || v == 0xA0 || v == 0x1680
    || (0x2000 ≤ v && v ≤ 0x200A) || v == 0x2028 || v == 0x2029
    || v == 0x202F || v == 0x205F || v == 0x3000

/-- `str::trim`. -/
def trim (t : Text) : Text :=
  ((t.dropWhile isWhitespace).reverse.dropWhile isWhitespace).reverse

/-- `str::trim_matches` for one character. -/
def trimMatches (c : Char) (t : Text) : Text :=
  (t.dropWhile fun d => d = c).rdropWhile fun d => d = c

/-- No whitespace at either end. -/
structure Trimmed (t : Text) : Prop where
  first : ∀ c, t.head? = some c → isWhitespace c = false
  last : ∀ c, t.getLast? = some c → isWhitespace c = false

theorem trim_eq_rdropWhile (t : Text) :
    trim t = (t.dropWhile isWhitespace).rdropWhile isWhitespace := rfl

theorem trimmed_trim (t : Text) : Trimmed (trim t) where
  first := by
    intro c hc
    rw [trim_eq_rdropWhile] at hc
    obtain ⟨rest, hrest⟩ := List.rdropWhile_prefix isWhitespace (l := t.dropWhile isWhitespace)
    have hhead : (t.dropWhile isWhitespace).head? = some c := by
      rw [← hrest, List.head?_append, hc]
      rfl
    have hnot := List.head?_dropWhile_not isWhitespace t
    rw [hhead] at hnot
    simpa using hnot
  last := by
    intro c hc
    rw [trim_eq_rdropWhile] at hc
    have hne : (t.dropWhile isWhitespace).rdropWhile isWhitespace ≠ [] := by
      intro h
      simp [h] at hc
    have hnot := List.rdropWhile_last_not isWhitespace (t.dropWhile isWhitespace) hne
    rw [List.getLast?_eq_some_getLast hne, Option.some.injEq] at hc
    rw [hc] at hnot
    simpa using hnot

/-- Trimming leaves exactly the trimmed texts alone. -/
theorem trim_eq_self_iff {t : Text} : trim t = t ↔ Trimmed t := by
  constructor
  · intro h
    rw [← h]
    exact trimmed_trim t
  · intro h
    rw [trim_eq_rdropWhile]
    have hfirst : t.dropWhile isWhitespace = t := by
      rw [List.dropWhile_eq_self_iff]
      intro hlen
      rw [h.first t[0] (List.head?_eq_getElem? ▸ List.getElem?_eq_getElem hlen)]
      simp
    rw [hfirst, List.rdropWhile_eq_self_iff]
    intro hne
    rw [h.last _ (List.getLast?_eq_some_getLast hne)]
    simp

-- ===================================================== bytes and offsets

/-- `str::len`: the length in UTF-8 bytes. -/
def utf8Len (t : Text) : Nat := (t.map Char.utf8Size).sum

/-- `&t[..n]` at a byte offset inside the text: `none` is the panic on an
offset that is not a character boundary. -/
def sliceTo : Nat → Text → Option Text
  | n, [] => if n = 0 then some [] else none
  | n, c :: t =>
      if n = 0 then some []
      else if c.utf8Size ≤ n then (sliceTo (n - c.utf8Size) t).map (c :: ·)
      else none

@[simp] theorem utf8Len_nil : utf8Len [] = 0 := rfl

@[simp] theorem utf8Len_cons (c : Char) (t : Text) :
    utf8Len (c :: t) = c.utf8Size + utf8Len t := by
  unfold utf8Len
  rw [List.map_cons, List.sum_cons]

theorem utf8Len_eq_zero {t : Text} : utf8Len t = 0 ↔ t = [] := by
  cases t with
  | nil => exact iff_of_true rfl rfl
  | cons c t =>
      have hc := Char.utf8Size_pos c
      rw [utf8Len_cons]
      exact iff_of_false (by omega) (List.cons_ne_nil c t)

theorem sliceTo_zero (t : Text) : sliceTo 0 t = some [] := by
  cases t with
  | nil => rfl
  | cons c t => rfl

/-- A slice that does not panic is the part of the text with so many bytes. -/
theorem sliceTo_eq_some_iff {n : Nat} {t s : Text} :
    sliceTo n t = some s ↔ (∃ rest, t = s ++ rest) ∧ utf8Len s = n := by
  have hzero : ∀ t s : Text, sliceTo 0 t = some s ↔ (∃ rest, t = s ++ rest) ∧ utf8Len s = 0 := by
    intro t s
    rw [sliceTo_zero, Option.some.injEq, utf8Len_eq_zero]
    constructor
    · rintro rfl
      exact ⟨⟨t, rfl⟩, rfl⟩
    · exact fun h => h.2.symm
  induction t generalizing n s with
  | nil =>
      by_cases hn : n = 0
      · rw [hn, hzero]
      unfold sliceTo
      rw [if_neg hn]
      constructor
      · intro h
        cases h
      · rintro ⟨⟨rest, hrest⟩, hlen⟩
        rw [(List.append_eq_nil_iff.mp hrest.symm).1] at hlen
        exact absurd hlen.symm hn
  | cons c t ih =>
      by_cases hn : n = 0
      · rw [hn, hzero]
      unfold sliceTo
      rw [if_neg hn]
      cases s with
      | nil =>
          by_cases hle : c.utf8Size ≤ n
          · simp [hle, Ne.symm hn]
          · simp [hle, Ne.symm hn]
      | cons d s =>
          rw [utf8Len_cons]
          by_cases hle : c.utf8Size ≤ n
          · simp only [if_pos hle, Option.map_eq_some_iff, List.cons.injEq, List.cons_append]
            constructor
            · rintro ⟨s', hs', rfl, rfl⟩
              obtain ⟨⟨rest, hrest⟩, hlen⟩ := ih.mp hs'
              exact ⟨⟨rest, rfl, hrest⟩, by omega⟩
            · rintro ⟨⟨rest, rfl, hrest⟩, hlen⟩
              exact ⟨s, ih.mpr ⟨⟨rest, hrest⟩, by omega⟩, rfl, rfl⟩
          · rw [if_neg hle]
            constructor
            · intro h
              cases h
            · rintro ⟨⟨rest, hrest⟩, hlen⟩
              rw [List.cons_append, List.cons.injEq] at hrest
              rw [← hrest.1] at hlen
              omega

-- ============================================================ substrings

/-- `str::contains`. -/
def contains (t pat : Text) : Bool := t.tails.any fun s => pat.isPrefixOf s

theorem contains_iff {t pat : Text} : contains t pat = true ↔ pat <:+: t := by
  unfold contains
  rw [List.any_eq_true, List.infix_iff_prefix_suffix]
  constructor
  · rintro ⟨s, hs, hp⟩
    exact ⟨s, List.isPrefixOf_iff_prefix.mp hp, (List.mem_tails ..).mp hs⟩
  · rintro ⟨s, hp, hs⟩
    exact ⟨s, (List.mem_tails ..).mpr hs, List.isPrefixOf_iff_prefix.mpr hp⟩

/-- `str::starts_with`. -/
def startsWith (t pat : Text) : Bool := pat.isPrefixOf t

/-- `str::ends_with`. -/
def endsWith (t pat : Text) : Bool := pat.isSuffixOf t

/-- `str::strip_suffix`. -/
def stripSuffix (suffix t : Text) : Option Text :=
  if suffix.isSuffixOf t then some (t.take (t.length - suffix.length)) else none

theorem stripSuffix_append (suffix t : Text) : stripSuffix suffix (t ++ suffix) = some t := by
  unfold stripSuffix
  rw [if_pos (List.isSuffixOf_iff_suffix.mpr (List.suffix_append t suffix))]
  simp

theorem stripSuffix_eq_none {suffix t : Text} (h : endsWith t suffix = false) :
    stripSuffix suffix t = none := by
  unfold endsWith at h
  unfold stripSuffix
  rw [h, if_neg Bool.false_ne_true]

/-- `str::trim_end_matches(suffix)`: the suffix is taken off as long as the
text ends with it, here at most so many times. -/
def trimEndTimes (suffix : Text) : Nat → Text → Text
  | 0, t => t
  | n + 1, t =>
      match stripSuffix suffix t with
      | some t' => trimEndTimes suffix n t'
      | none => t

def trimEndMatches (suffix t : Text) : Text := trimEndTimes suffix t.length t

/-- A suffix that stands there once is taken off once. -/
theorem trimEndMatches_append {suffix t : Text} (hne : suffix ≠ [])
    (h : endsWith t suffix = false) : trimEndMatches suffix (t ++ suffix) = t := by
  obtain ⟨n, hn⟩ : ∃ n, (t ++ suffix).length = n + 1 :=
    Nat.exists_eq_succ_of_ne_zero (by simp [hne])
  unfold trimEndMatches
  rw [hn, trimEndTimes, stripSuffix_append]
  cases n with
  | zero => rfl
  | succ n =>
      show trimEndTimes suffix (n + 1) t = t
      rw [trimEndTimes, stripSuffix_eq_none h]

/-- What is left does not end with the suffix. -/
theorem endsWith_trimEndTimes {suffix : Text} (hne : suffix ≠ []) :
    ∀ (n : Nat) (t : Text), t.length ≤ n → endsWith (trimEndTimes suffix n t) suffix = false := by
  intro n
  induction n with
  | zero =>
      intro t ht
      rw [Nat.le_zero, List.length_eq_zero_iff] at ht
      rw [trimEndTimes, ht, Bool.eq_false_iff]
      intro hends
      exact hne (List.suffix_nil.mp (List.isSuffixOf_iff_suffix.mp hends))
  | succ n ih =>
      intro t ht
      rw [trimEndTimes]
      cases hends : endsWith t suffix with
      | false =>
          rw [stripSuffix_eq_none hends]
          exact hends
      | true =>
          obtain ⟨s, rfl⟩ := List.isSuffixOf_iff_suffix.mp hends
          rw [stripSuffix_append]
          apply ih
          rw [List.length_append] at ht
          have := List.length_pos_of_ne_nil hne
          omega

theorem endsWith_trimEndMatches {suffix : Text} (hne : suffix ≠ []) (t : Text) :
    endsWith (trimEndMatches suffix t) suffix = false :=
  endsWith_trimEndTimes hne _ t le_rfl

-- =============================================================== decimal

/-- `n.to_string()` of an unsigned integer. -/
def ofNat (n : Nat) : Text := Nat.toDigits 10 n

theorem ofNat_ascii {n : Nat} {c : Char} (h : c ∈ ofNat n) : c.toNat < 128 := by
  have hdigit := Nat.isDigit_of_mem_toDigits (by decide) (by decide) h
  simp only [Char.isDigit, Bool.and_eq_true, decide_eq_true_eq] at hdigit
  have hle : c.toNat ≤ 57 := hdigit.2
  omega

theorem ofNat_injective {m n : Nat} (h : ofNat m = ofNat n) : m = n := by
  calc m = Nat.ofDigitChars 10 (Nat.toDigits 10 m) 0 := Nat.ofDigitChars_ten_toDigits.symm
    _ = Nat.ofDigitChars 10 (Nat.toDigits 10 n) 0 := congrArg (Nat.ofDigitChars 10 · 0) h
    _ = n := Nat.ofDigitChars_ten_toDigits

theorem dash_not_mem_ofNat (n : Nat) : '-' ∉ ofNat n := fun h =>
  absurd (Nat.isDigit_of_mem_toDigits (by decide) (by decide) h) (by decide)

/-- `n.to_string()` of a signed integer. -/
def ofInt (n : Int) : Text := if n < 0 then '-' :: ofNat n.natAbs else ofNat n.natAbs

theorem ofInt_natCast (n : Nat) : ofInt n = ofNat n := by
  rw [ofInt, if_neg (by omega), Int.natAbs_natCast]

theorem ofInt_injective {m n : Int} (h : ofInt m = ofInt n) : m = n := by
  unfold ofInt at h
  split at h <;> split at h
  · have := ofNat_injective (List.cons.inj h).2
    omega
  · exact absurd (h ▸ List.mem_cons_self ..) (dash_not_mem_ofNat n.natAbs)
  · exact absurd (h ▸ List.mem_cons_self ..) (dash_not_mem_ofNat m.natAbs)
  · have := ofNat_injective h
    omega

theorem underscore_not_mem_ofInt (n : Int) : '_' ∉ ofInt n := by
  unfold ofInt
  split
  · rw [List.mem_cons, not_or]
    exact ⟨by decide, Nat.underscore_not_in_toDigits⟩
  · exact Nat.underscore_not_in_toDigits

-- ================================================================= lines

/-- A carriage return at the end of a line goes with the line feed. -/
def stripCr (l : Text) : Text := if l.getLast? = some '\r' then l.dropLast else l

/-- `str::lines`. -/
def lines (t : Text) : List Text :=
  let parts := split '\n' t
  parts.dropLast.map stripCr
    ++ (match parts.getLast? with
        | some [] | none => []
        | some l => [l])

/-- Every line of the text is complete. -/
def NewlineTerminated (t : Text) : Prop := t = [] ∨ ∃ s, t = s ++ ['\n']

/-- A text that one log line may hold. -/
structure IsLine (l : Text) : Prop where
  no_lf : '\n' ∉ l
  no_cr : '\r' ∉ l

theorem IsLine.stripCr_eq {l : Text} (h : IsLine l) : stripCr l = l := by
  rw [stripCr, if_neg]
  exact fun he => h.no_cr (List.mem_of_getLast? he)

theorem lines_nil : lines [] = [] := rfl

/-- A text that ends in a line feed has the lines of its parts. -/
theorem lines_terminated (s : Text) :
    lines (s ++ ['\n']) = (split '\n' s).map stripCr := by
  have hsplit : split '\n' (s ++ ['\n']) = split '\n' s ++ [[]] := by
    rw [split, List.splitOn_append_cons_self, List.splitOn_nil, split]
  rw [lines, hsplit]
  simp

/-- A text without a line feed, completed behind a terminated text, is its
last line, up to a carriage return. -/
theorem lines_append_stripped {t l : Text} (ht : NewlineTerminated t) (hl : '\n' ∉ l) :
    lines (t ++ (l ++ ['\n'])) = lines t ++ [stripCr l] := by
  have hsingle : split '\n' l = [l] := List.splitOn_eq_singleton hl
  rcases ht with rfl | ⟨s, rfl⟩
  · rw [List.nil_append, lines_terminated, hsingle, lines_nil]
    rfl
  · have hjoin : s ++ ['\n'] ++ (l ++ ['\n']) = (s ++ '\n' :: l) ++ ['\n'] := by
      simp
    have hsplit : split '\n' (s ++ '\n' :: l) = split '\n' s ++ [l] := by
      rw [split, List.splitOn_append_cons_self, ← split, ← split, hsingle]
    rw [hjoin, lines_terminated, hsplit, lines_terminated, List.map_append]
    rfl

/-- Appending one complete line to a terminated text appends that line. -/
theorem lines_append_line {t l : Text} (ht : NewlineTerminated t)
    (hl : IsLine l) : lines (t ++ (l ++ ['\n'])) = lines t ++ [l] := by
  rw [lines_append_stripped ht hl.no_lf, hl.stripCr_eq]

/-- A line that is not complete yet is the last one. -/
theorem lines_append_open {t l : Text} (ht : NewlineTerminated t) (hl : '\n' ∉ l)
    (hne : l ≠ []) : lines (t ++ l) = lines t ++ [l] := by
  have hsingle : split '\n' l = [l] := List.splitOn_eq_singleton hl
  obtain ⟨c, l', rfl⟩ := List.exists_cons_of_ne_nil hne
  rcases ht with rfl | ⟨s, rfl⟩
  · rw [List.nil_append, lines, hsingle]
    rfl
  · have hjoin : s ++ ['\n'] ++ c :: l' = s ++ '\n' :: c :: l' := by simp
    have hsplit : split '\n' (s ++ '\n' :: c :: l') = split '\n' s ++ [c :: l'] := by
      rw [split, List.splitOn_append_cons_self, ← split, ← split, hsingle]
    rw [hjoin, lines_terminated, lines, hsplit]
    simp

/-- The complete lines of a text. -/
def complete (t : Text) : Text := t.rdropWhile fun c => c ≠ '\n'

/-- What stands behind the last line feed. -/
def openLine (t : Text) : Text := t.rtakeWhile fun c => c ≠ '\n'

theorem complete_append_openLine (t : Text) : complete t ++ openLine t = t :=
  List.rdropWhile_append_rtakeWhile

theorem newlineTerminated_complete (t : Text) : NewlineTerminated (complete t) := by
  by_cases hne : complete t = []
  · exact Or.inl hne
  · have hlast := List.rdropWhile_last_not (fun c => decide (c ≠ '\n')) t hne
    have hlf : (complete t).getLast hne = '\n' := by simpa [complete] using hlast
    exact Or.inr ⟨(complete t).dropLast, by rw [← hlf, List.dropLast_append_getLast]⟩

theorem lf_not_mem_openLine (t : Text) : '\n' ∉ openLine t := by
  intro h
  simpa using List.mem_rtakeWhile_imp h

/-- Without a line feed all of a text is its open line. -/
theorem complete_eq_nil {t : Text} (h : '\n' ∉ t) : complete t = [] :=
  List.rdropWhile_eq_nil_iff.mpr fun _ hc => decide_eq_true fun hlf => h (hlf ▸ hc)

theorem openLine_eq_self {t : Text} (h : '\n' ∉ t) : openLine t = t := by
  have hall := complete_append_openLine t
  rwa [complete_eq_nil h, List.nil_append] at hall

/-- The lines of a text are its complete ones and the open one. -/
theorem lines_eq_complete (t : Text) :
    lines t = lines (complete t) ++ if openLine t = [] then [] else [openLine t] := by
  by_cases hne : openLine t = []
  · have hall := complete_append_openLine t
    rw [hne, List.append_nil] at hall
    rw [if_pos hne, List.append_nil, hall]
  · conv_lhs => rw [← complete_append_openLine t]
    rw [if_neg hne, lines_append_open (newlineTerminated_complete t) (lf_not_mem_openLine t) hne]

/-- A line appended to a text ends the open one. -/
theorem lines_append_to_open {t l : Text} (hl : '\n' ∉ l) :
    lines (t ++ (l ++ ['\n'])) = lines (complete t) ++ [stripCr (openLine t ++ l)] := by
  have hno : '\n' ∉ openLine t ++ l := by
    rw [List.mem_append]
    rintro (h | h)
    · exact lf_not_mem_openLine t h
    · exact hl h
  conv_lhs => rw [← complete_append_openLine t]
  rw [← lines_append_stripped (newlineTerminated_complete t) hno]
  simp only [List.append_assoc]

theorem newlineTerminated_append_line (t l : Text) :
    NewlineTerminated (t ++ (l ++ ['\n'])) :=
  Or.inr ⟨t ++ l, by simp⟩

/-- Texts written each with its line feed are complete lines. -/
theorem newlineTerminated_flatMap {α : Type*} (f : α → Text) (as : List α) :
    NewlineTerminated (as.flatMap fun a => f a ++ ['\n']) := by
  rcases List.eq_nil_or_concat as with rfl | ⟨init, last, rfl⟩
  · exact Or.inl rfl
  · rw [List.concat_eq_append, List.flatMap_append, List.flatMap_singleton]
    exact newlineTerminated_append_line _ _

/-- Complete lines joined by line feeds come back as they were. -/
theorem lines_join {ls : List Text} (hls : ∀ l ∈ ls, IsLine l)
    (hne : ls ≠ []) : lines (join ['\n'] ls ++ ['\n']) = ls := by
  rw [lines_terminated, split_join (fun l hl => (hls l hl).no_lf) hne]
  calc ls.map stripCr = ls.map id :=
        List.map_congr_left fun l hl => (hls l hl).stripCr_eq
    _ = ls := List.map_id ls

end Text

end Lib
