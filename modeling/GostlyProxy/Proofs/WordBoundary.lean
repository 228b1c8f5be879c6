/-
Replacing at word boundaries.

`replaceAtWordBoundary` works on the bytes of the text. Where it replaces is
right: UTF-8 is a code in the sense of `IsCode`, so the hits of the byte walk
are the delimited occurrences of the text (`replaceAtWordBoundary_eq`). What
it keeps is not: a kept byte is pushed as the character of the same number,
which is another character outside ASCII (`mangled`).
-/
import GostlyProxy.Lib.Delimited
import GostlyProxy.Model.Matcher

namespace GostlyProxy

open Lib

-- ============================================================ UTF-8, a code

/-- ASCII alphanumeric, `-` or `_`. -/
def isIdChar (c : Char) : Bool :=
  isAsciiDigit c || isAsciiAlphabetic c || c = '-' || c = '_'

/-- The numbers of these characters, and of their bytes. -/
def isIdNumber (n : Nat) : Bool :=
  (48 ≤ n && n ≤ 57) || (65 ≤ n && n ≤ 90) || (97 ≤ n && n ≤ 122) || n = 45 || n = 95

theorem isIdByte_eq (b : UInt8) : isIdByte b = isIdNumber b.toNat := by
  have heq : ∀ n : UInt8, (b == n) = decide (b.toNat = n.toNat) := by
    intro n
    rw [beq_eq_decide, decide_eq_decide, UInt8.toNat_inj]
  unfold isIdByte isIdNumber
  rw [heq, heq]
  simp only [UInt8.le_iff_toNat_le]
  rfl

theorem isIdChar_eq (c : Char) : isIdChar c = isIdNumber c.toNat := by
  have heq : ∀ d : Char, decide (c = d) = decide (c.toNat = d.toNat) := by
    intro d
    rw [decide_eq_decide, Char.toNat_inj]
  unfold isIdChar isIdNumber isAsciiDigit isAsciiAlphabetic isAsciiUppercase
  rw [heq, heq, ← Bool.or_assoc]
  rfl

theorem isIdNumber_of_le {n : Nat} (h : 128 ≤ n) : isIdNumber n = false := by
  unfold isIdNumber
  simp
  omega

theorem isIdChar_ascii {c : Char} (h : isIdChar c = true) : c.toNat < 128 := by
  by_contra hc
  rw [isIdChar_eq, isIdNumber_of_le (by omega)] at h
  cases h

/-- The bytes of a character: one of its own number in ASCII; beyond, one
that starts a character and some that continue it, no identifier's. -/
theorem utf8EncodeChar_bytes (c : Char) :
    (c.toNat < 128 ∧ String.utf8EncodeChar c = [UInt8.ofNat c.toNat])
      ∨ (128 ≤ c.toNat ∧ ∃ b u us, String.utf8EncodeChar c = b :: u :: us
        ∧ 0xC0 ≤ b.toNat ∧ ∀ v ∈ u :: us, 0x80 ≤ v.toNat ∧ v.toNat < 0xC0) := by
  have hcont : ∀ n, 0x80 ≤ (UInt8.ofNat (n % 64 + 0x80)).toNat
      ∧ (UInt8.ofNat (n % 64 + 0x80)).toNat < 0xC0 := by
    intro n
    rw [Utf8.toNat_contByte]
    omega
  have hrange := Utf8.toNat_range c
  rw [Utf8.utf8EncodeChar_eq]
  by_cases h1 : c.toNat ≤ 0x7F
  · rw [if_pos h1]
    exact Or.inl ⟨by omega, rfl⟩
  right
  refine ⟨by omega, ?_⟩
  rw [if_neg h1]
  by_cases h2 : c.toNat ≤ 0x7FF
  · rw [if_pos h2]
    refine ⟨_, _, _, rfl, ?_, ?_⟩
    · rw [Utf8.toNat_byte (by omega)]
      omega
    · simp only [List.forall_mem_singleton, hcont, and_self]
  rw [if_neg h2]
  by_cases h3 : c.toNat ≤ 0xFFFF
  · rw [if_pos h3]
    refine ⟨_, _, _, rfl, ?_, ?_⟩
    · rw [Utf8.toNat_byte (by omega)]
      omega
    · simp only [List.forall_mem_cons, hcont, and_self, List.not_mem_nil, false_implies,
        implies_true]
  · rw [if_neg h3]
    refine ⟨_, _, _, rfl, ?_, ?_⟩
    · rw [Utf8.toNat_byte (by omega)]
      omega
    · simp only [List.forall_mem_cons, hcont, and_self, List.not_mem_nil, false_implies,
        implies_true]

theorem utf8_isCode : IsCode String.utf8EncodeChar isIdChar isIdByte where
  ne_nil := by
    intro c h
    obtain ⟨b, bs, henc, -⟩ := Utf8.decodeHead_encode c []
    rw [h] at henc
    cases henc
  inj := by
    intro c d s t h
    obtain ⟨b, bs, hc, hdecode⟩ := Utf8.decodeHead_encode c s
    obtain ⟨b', bs', hd, hdecode'⟩ := Utf8.decodeHead_encode d t
    rw [hc, hd, List.cons_append, List.cons_append, List.cons.injEq] at h
    rw [h.1, h.2, hdecode'] at hdecode
    cases hdecode
    rfl
  first := by
    intro c d u hu hd
    have hcont : 0x80 ≤ u.toNat ∧ u.toNat < 0xC0 := by
      rcases utf8EncodeChar_bytes c with ⟨-, henc⟩ | ⟨-, b, v, vs, henc, -, hcont⟩
      · rw [henc] at hu
        cases hu
      · rw [henc] at hu
        exact hcont u hu
    rcases utf8EncodeChar_bytes d with ⟨hascii, henc⟩ | ⟨-, b, v, vs, henc, hb, -⟩
    · rw [henc, List.head?_cons, Option.some.injEq] at hd
      rw [← hd, Utf8.toNat_byte (by omega)] at hcont
      omega
    · rw [henc, List.head?_cons, Option.some.injEq] at hd
      rw [← hd] at hcont
      omega
  isId := by
    intro c u hu
    rw [isIdByte_eq, isIdChar_eq]
    rcases utf8EncodeChar_bytes c with ⟨hascii, henc⟩ | ⟨hc, b, v, vs, henc, hb, hcont⟩
    · rw [henc, List.mem_singleton] at hu
      rw [hu, Utf8.toNat_byte (by omega)]
    · rw [isIdNumber_of_le hc]
      apply isIdNumber_of_le
      rw [henc, List.mem_cons] at hu
      rcases hu with rfl | hu
      · omega
      · exact (hcont u hu).1

-- ============================================================= the walk

/-- The bytes of a character, each as a character. -/
def mangled (c : Char) : Text := (String.utf8EncodeChar c).map fun b => Char.ofNat b.toNat

theorem mangled_ascii {c : Char} (h : c.toNat < 128) : mangled c = [c] := by
  unfold mangled
  rcases utf8EncodeChar_bytes c with ⟨-, henc⟩ | ⟨hc, -⟩
  · rw [henc, List.map_singleton, Utf8.toNat_byte (by omega), Utf8.ofNat_toNat]
  · omega

theorem length_mangled {c : Char} (h : 128 ≤ c.toNat) : 1 < (mangled c).length := by
  unfold mangled
  rcases utf8EncodeChar_bytes c with ⟨hc, -⟩ | ⟨-, b, u, us, henc, -⟩
  · omega
  · rw [henc]
    simp

/-- The bytes of a hit are passed over. -/
theorem replaceWalk_skip (pattern : Bytes) (into : Text) (prev : Option UInt8)
    (skipped rest : Bytes) :
    replaceWalk pattern into prev skipped.length (skipped ++ rest)
      = replaceWalk pattern into (skipped.getLast?.or prev) 0 rest := by
  induction skipped generalizing prev with
  | nil => rfl
  | cons b skipped ih =>
      rw [List.length_cons, List.cons_append, replaceWalk, ih, List.getLast?_cons]
      cases skipped.getLast? with
      | none => rfl
      | some u => rfl

theorem replaceWalk_zero (pattern : Bytes) (into : Text) (prev : Option UInt8) (b : UInt8)
    (bs : Bytes) :
    replaceWalk pattern into prev 0 (b :: bs)
      = if isHit isIdByte pattern (prev.all fun p => !isIdByte p) (b :: bs) then
          into ++ replaceWalk pattern into (some b) (pattern.length - 1) bs
        else Char.ofNat b.toNat :: replaceWalk pattern into (some b) 0 bs := rfl

/-- The walk renders the scan. -/
theorem replaceWalk_eq {pattern bytes : Bytes} (hpat : pattern ≠ []) (into : Text) {ok : Bool}
    {marks : List (Option UInt8)} (h : Scan isIdByte pattern ok bytes marks) :
    ∀ prev : Option UInt8, (prev.all fun b => !isIdByte b) = ok →
      replaceWalk pattern into prev 0 bytes
        = renderWith into (fun b => [Char.ofNat b.toNat]) marks := by
  obtain ⟨p, ps, rfl⟩ := List.exists_cons_of_ne_nil hpat
  induction h with
  | nil ok =>
      intro prev _
      rfl
  | @hit ok rest marks h hs ih =>
      intro prev hprev
      have hlast : (ps.getLast?.or (some p)).all (fun b => !isIdByte b)
          = (p :: ps).getLast?.all fun b => !isIdByte b := by
        rw [List.getLast?_cons]
        cases ps.getLast? with
        | none => rfl
        | some u => rfl
      rw [List.cons_append] at h ⊢
      rw [replaceWalk_zero, hprev, if_pos h, List.length_cons, Nat.add_sub_cancel,
        replaceWalk_skip, ih _ hlast]
      rfl
  | @keep ok b rest marks h hs ih =>
      intro prev hprev
      rw [replaceWalk_zero, hprev, if_neg (Bool.eq_false_iff.mp h), ih (some b) rfl]
      rfl

/-- The delimited occurrences of the text are replaced, and every other
character is kept as its bytes. -/
theorem replaceAtWordBoundary_eq {text pat : Text} (hpat : pat ≠ []) (into : Text)
    {marks : List (Option Char)} (h : Scan isIdChar pat true text marks) :
    replaceAtWordBoundary text pat into
      = if Text.contains text pat then renderWith into mangled marks else text := by
  have hempty : pat.isEmpty = false := List.isEmpty_eq_false_iff.mpr hpat
  have hbytes : pat.flatMap String.utf8EncodeChar ≠ [] := by
    obtain ⟨c, cs, rfl⟩ := List.exists_cons_of_ne_nil hpat
    rw [List.flatMap_cons, Ne, List.append_eq_nil_iff]
    exact fun h => utf8_isCode.ne_nil c h.1
  unfold replaceAtWordBoundary
  rw [hempty, Bool.false_or]
  cases Text.contains text pat with
  | false => rfl
  | true =>
      have hwalk := replaceWalk_eq hbytes into (utf8_isCode.scan_flatMap hpat h) none rfl
      rw [renderWith_encodeMarks] at hwalk
      rw [if_pos rfl, Bool.not_true, if_neg Bool.false_ne_true]
      refine hwalk.trans ?_
      congr 1
      funext c
      exact List.map_eq_flatMap.symm

-- ========================================================== what is exact

/-- Kept as bytes, what is outside ASCII gets longer. -/
theorem length_render_le (into : Text) (marks : List (Option Char)) :
    (render into marks).length ≤ (renderWith into mangled marks).length
      ∧ ((∃ c, some c ∈ marks ∧ 128 ≤ c.toNat) →
        (render into marks).length < (renderWith into mangled marks).length) := by
  unfold render renderWith
  induction marks with
  | nil => simp
  | cons m marks ih =>
      obtain ⟨hle, hlt⟩ := ih
      rw [List.flatMap_cons, List.flatMap_cons, List.length_append, List.length_append]
      cases m with
      | none =>
          refine ⟨Nat.add_le_add_left hle _, ?_⟩
          rintro ⟨c, hmem, hc⟩
          exact Nat.add_lt_add_left (hlt ⟨c, by simpa using hmem, hc⟩) _
      | some d =>
          rw [Option.elim_some, Option.elim_some, List.length_singleton]
          by_cases hd : 128 ≤ d.toNat
          · have hlong := length_mangled hd
            exact ⟨by omega, fun _ => by omega⟩
          · rw [mangled_ascii (by omega), List.length_singleton]
            refine ⟨by omega, ?_⟩
            rintro ⟨c, hmem, hc⟩
            rcases List.mem_cons.mp hmem with heq | hmem
            · cases heq
              exact absurd hc hd
            · have := hlt ⟨c, hmem, hc⟩
              omega

theorem renderWith_mangled_iff (into : Text) (marks : List (Option Char)) :
    renderWith into mangled marks = render into marks
      ↔ ∀ c, some c ∈ marks → c.toNat < 128 := by
  constructor
  · intro h c hmem
    by_contra hc
    have hlt := (length_render_le into marks).2 ⟨c, hmem, by omega⟩
    rw [h] at hlt
    omega
  · intro h
    apply List.flatMap_congr
    intro m hm
    cases m with
    | none => rfl
    | some c => exact mangled_ascii (h c hm)

/-- A text that does not contain the pattern is kept whole. -/
theorem render_of_not_contains {text pat : Text} (hpat : pat ≠ []) {into : Text}
    {marks : List (Option Char)} (h : Scan isIdChar pat true text marks)
    (hc : Text.contains text pat = false) : render into marks = text := by
  have hnone : none ∉ marks := by
    rw [h.none_mem_iff hpat]
    rintro ⟨front, rest, rfl, -⟩
    rw [Text.contains_iff.mpr (List.infix_append front pat rest)] at hc
    cases hc
  have hkept := h.render_pat
  rw [h.eq_map_some hnone] at hkept ⊢
  unfold render renderWith at hkept ⊢
  rw [List.flatMap_map] at hkept ⊢
  exact hkept

/-- The pattern's delimited occurrences are replaced and everything else is
kept exactly when the text does not contain the pattern or what is to be kept
is ASCII. -/
theorem replaceAtWordBoundary_exact_iff {pat : Text} (hpat : pat ≠ []) (text into : Text) :
    ∃ marks, Scan isIdChar pat true text marks
      ∧ (∀ marks', Scan isIdChar pat true text marks' → marks' = marks)
      ∧ (replaceAtWordBoundary text pat into = render into marks
        ↔ Text.contains text pat = false ∨ ∀ c, some c ∈ marks → c.toNat < 128) := by
  obtain ⟨marks, hscan⟩ : ∃ marks, Scan isIdChar pat true text marks :=
    exists_scan hpat true text
  refine ⟨marks, hscan, fun marks' h' => h'.unique hpat hscan, ?_⟩
  rw [replaceAtWordBoundary_eq hpat into hscan]
  cases hc : Text.contains text pat with
  | false => simp [render_of_not_contains hpat hscan hc]
  | true =>
      rw [if_pos rfl, renderWith_mangled_iff]
      simp

/-- A text in ASCII. -/
theorem replaceAtWordBoundary_exact_user :
    ∃ marks, Scan isIdChar "id" true "id of user" marks
      ∧ replaceAtWordBoundary "id of user" "id" "key" = render "key" marks := by
  have hne : ("id" : Text) ≠ [] := by decide
  have hascii : ∀ c ∈ ("id of user" : Text), c.toNat < 128 := by decide
  obtain ⟨marks, hscan, -, hexact⟩ :=
    replaceAtWordBoundary_exact_iff hne "id of user" "key"
  exact ⟨marks, hscan, hexact.mpr (Or.inr fun c hc => hascii c (hscan.mem_of_some_mem hc))⟩

/-- A word beside a character of two bytes: the word is replaced, and the
character becomes two. -/
theorem accent_not_kept :
    Scan isIdChar "id" true "\u00e9 id" [some '\u00e9', some ' ', none]
      ∧ render "key" [some '\u00e9', some ' ', none] = ("\u00e9 key" : Text)
      ∧ replaceAtWordBoundary "\u00e9 id" "id" "key" = "\u00c3\u00a9 key"
      ∧ replaceAtWordBoundary "\u00e9 id" "id" "key"
        ≠ render "key" [some '\u00e9', some ' ', none] := by
  have hresult : replaceAtWordBoundary "\u00e9 id" "id" "key" = "\u00c3\u00a9 key" := by decide
  have hscan : Scan isIdChar "id" true (("id" : Text) ++ []) [none] :=
    .hit (by decide) (.nil _)
  refine ⟨.keep (by decide) (.keep (by decide) hscan), by decide, hresult, ?_⟩
  rw [hresult]
  decide

end GostlyProxy
