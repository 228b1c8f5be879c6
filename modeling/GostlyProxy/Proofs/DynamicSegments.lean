/-
Which path segments are ids.

The matcher documents three classes: all digits, a UUID, and a mixed slug
(`DocumentedId`). Its UUID branch counts the groups and looks at their
characters, never at their lengths, so five hex groups of any lengths pass
(`isDynamicSegment_eq_true_iff`), among them words like `a-b-c-d-e` that
hold no digit at all.

The reference for a UUID is the byte loop of the chaos log. It is a
statement about groups as well (`isUuid_iff`): positions are peeled off
group by group.
-/
import GostlyProxy.Model.Chaos

namespace GostlyProxy

open Lib

-- ============================================================ characters

theorem isAsciiHexdigit_ascii {c : Char} (h : isAsciiHexdigit c = true) : c.toNat < 128 := by
  simp only [isAsciiHexdigit, isAsciiDigit, Bool.or_eq_true, Bool.and_eq_true,
    decide_eq_true_eq] at h
  omega

theorem isAsciiHexdigit_ne_dash {c : Char} (h : isAsciiHexdigit c = true) : c ≠ '-' := by
  rintro rfl
  exact absurd h (by decide)

theorem isAsciiDigit_ne_dash {c : Char} (h : isAsciiDigit c = true) : c ≠ '-' := by
  rintro rfl
  exact absurd h (by decide)

-- ================================================================= UUIDs

/-- Five groups of hex digits, of the lengths a UUID has. -/
structure UuidShape (s : Text) : Prop where
  widths : (Text.split '-' s).map List.length = [8, 4, 4, 4, 12]
  hex : ∀ g ∈ Text.split '-' s, g.all isAsciiHexdigit = true

instance (s : Text) : Decidable (UuidShape s) :=
  decidable_of_iff ((Text.split '-' s).map List.length = [8, 4, 4, 4, 12]
    ∧ ∀ g ∈ Text.split '-' s, g.all isAsciiHexdigit = true)
    ⟨fun h => ⟨h.1, h.2⟩, fun h => ⟨h.widths, h.hex⟩⟩

/-- The positions of a UUID's dashes. -/
def isDashPosition (i : Nat) : Prop := i = 8 ∨ i = 13 ∨ i = 18 ∨ i = 23

/-- One turn of the loop. -/
theorem uuidBytes_cons (i : Nat) (b : UInt8) (rest : Bytes) :
    uuidBytes i (b :: rest) = true
      ↔ ((isDashPosition i ↔ b = '-'.toUInt8)
          ∧ (b = '-'.toUInt8 ∨ isAsciiHexdigit (Char.ofNat b.toNat) = true))
        ∧ uuidBytes (i + 1) rest = true := by
  simp only [uuidBytes, isDashPosition, Bool.and_eq_true, decide_eq_true_eq, Bool.or_eq_true]

/-- No byte beyond ASCII passes the loop. -/
theorem uuidBytes_high {i : Nat} {b : UInt8} {rest : Bytes} (hb : 128 ≤ b.toNat) :
    uuidBytes i (b :: rest) = false := by
  rw [Bool.eq_false_iff]
  intro h
  obtain ⟨⟨-, hdash | hhex⟩, -⟩ := (uuidBytes_cons i b rest).mp h
  · rw [hdash] at hb
    exact absurd hb (by decide)
  · have hlt := b.toNat_lt
    have hchar : (Char.ofNat b.toNat).toNat = b.toNat := Utf8.toNat_ofNat (Or.inl (by omega))
    have hascii := isAsciiHexdigit_ascii hhex
    omega

/-- The loop over the bytes of a text, as a loop over its characters. -/
theorem uuidBytes_utf8_cons (i : Nat) (c : Char) (s : Text) :
    uuidBytes i (Text.utf8 (c :: s)) = true
      ↔ ((isDashPosition i ↔ c = '-') ∧ (c = '-' ∨ isAsciiHexdigit c = true))
        ∧ uuidBytes (i + 1) (Text.utf8 s) = true := by
  rw [Utf8.utf8_cons, Utf8.utf8EncodeChar_eq]
  by_cases hc : c.toNat ≤ 0x7F
  · have hbyte : (UInt8.ofNat c.toNat).toNat = c.toNat := Utf8.toNat_byte (by omega)
    have hdash : UInt8.ofNat c.toNat = '-'.toUInt8 ↔ c = '-' := by
      rw [← UInt8.toNat_inj, hbyte, ← Char.toNat_inj]
      rfl
    rw [if_pos hc, List.singleton_append, uuidBytes_cons, hdash, hbyte, Utf8.ofNat_toNat]
  · have hno : ¬ (c = '-' ∨ isAsciiHexdigit c = true) := by
      rintro (rfl | hhex)
      · exact hc (by decide)
      · have := isAsciiHexdigit_ascii hhex
        omega
    simp only [hno, and_false, false_and, iff_false, Bool.not_eq_true]
    have hrange := Utf8.toNat_range c
    rw [if_neg hc]
    split
    · exact uuidBytes_high (by rw [Utf8.toNat_byte (by omega)]; omega)
    · split
      · exact uuidBytes_high (by rw [Utf8.toNat_byte (by omega)]; omega)
      · exact uuidBytes_high (by rw [Utf8.toNat_byte (by omega)]; omega)

/-- A group: no dash is due, so every character is a hex digit. -/
theorem uuidBytes_group {i : Nat} {g : Text} (rest : Text)
    (hno : ∀ j, i ≤ j → j < i + g.length → ¬ isDashPosition j) :
    uuidBytes i (Text.utf8 (g ++ rest)) = true
      ↔ g.all isAsciiHexdigit = true ∧ uuidBytes (i + g.length) (Text.utf8 rest) = true := by
  induction g generalizing i with
  | nil => simp
  | cons c g ih =>
      have hi : ¬ isDashPosition i := hno i (Nat.le_refl i) (by simp)
      have hrest : ∀ j, i + 1 ≤ j → j < i + 1 + g.length → ¬ isDashPosition j :=
        fun j hj hlt => hno j (by omega) (by simp only [List.length_cons]; omega)
      have hchar : ((isDashPosition i ↔ c = '-') ∧ (c = '-' ∨ isAsciiHexdigit c = true))
          ↔ isAsciiHexdigit c = true := by
        constructor
        · rintro ⟨hdash, rfl | hhex⟩
          · exact absurd (hdash.mpr rfl) hi
          · exact hhex
        · intro hhex
          exact ⟨iff_of_false hi (isAsciiHexdigit_ne_dash hhex), Or.inr hhex⟩
      rw [List.cons_append, uuidBytes_utf8_cons, hchar, ih hrest, List.all_cons, Bool.and_eq_true,
        and_assoc, List.length_cons]
      rw [show i + 1 + g.length = i + (g.length + 1) by omega]

theorem uuidBytes_dash {i : Nat} (hi : isDashPosition i) (c : Char) (rest : Text) :
    uuidBytes i (Text.utf8 (c :: rest)) = true
      ↔ c = '-' ∧ uuidBytes (i + 1) (Text.utf8 rest) = true := by
  rw [uuidBytes_utf8_cons]
  refine and_congr_left fun _ => ?_
  constructor
  · rintro ⟨hdash, -⟩
    exact hdash.mp hi
  · rintro rfl
    exact ⟨iff_of_true hi rfl, Or.inl rfl⟩

/-- A text the loop accepts is ASCII. -/
theorem ascii_of_uuidBytes {i : Nat} {s : Text} (h : uuidBytes i s.utf8 = true) :
    ∀ c ∈ s, c.toNat < 128 := by
  induction s generalizing i with
  | nil => simp
  | cons d s ih =>
      obtain ⟨⟨-, hd⟩, hrest⟩ := (uuidBytes_utf8_cons i d s).mp h
      intro c hc
      rcases List.mem_cons.mp hc with rfl | hc
      · rcases hd with rfl | hhex
        · decide
        · exact isAsciiHexdigit_ascii hhex
      · exact ih hrest c hc

/-- The loop over five groups of the right lengths and what stands between
them. -/
theorem uuidBytes_groups {g₁ g₂ g₃ g₄ g₅ : Text} {c₁ c₂ c₃ c₄ : Char} (h₁ : g₁.length = 8)
    (h₂ : g₂.length = 4) (h₃ : g₃.length = 4) (h₄ : g₄.length = 4) (h₅ : g₅.length = 12) :
    uuidBytes 0 (Text.utf8 (g₁ ++ c₁ :: (g₂ ++ c₂ :: (g₃ ++ c₃ :: (g₄ ++ c₄ :: g₅))))) = true
      ↔ (c₁ = '-' ∧ c₂ = '-' ∧ c₃ = '-' ∧ c₄ = '-')
        ∧ ∀ g ∈ [g₁, g₂, g₃, g₄, g₅], g.all isAsciiHexdigit = true := by
  rw [uuidBytes_group _ (by simp only [isDashPosition]; omega), h₁,
    uuidBytes_dash (by simp [isDashPosition]),
    uuidBytes_group _ (by simp only [isDashPosition]; omega), h₂,
    uuidBytes_dash (by simp [isDashPosition]),
    uuidBytes_group _ (by simp only [isDashPosition]; omega), h₃,
    uuidBytes_dash (by simp [isDashPosition]),
    uuidBytes_group _ (by simp only [isDashPosition]; omega), h₄,
    uuidBytes_dash (by simp [isDashPosition])]
  have hlast : uuidBytes (8 + 1 + 4 + 1 + 4 + 1 + 4 + 1 + g₅.length) (Text.utf8 []) = true := rfl
  have hfive := uuidBytes_group (i := 8 + 1 + 4 + 1 + 4 + 1 + 4 + 1) (g := g₅) []
    (by simp only [isDashPosition]; omega)
  rw [List.append_nil, and_iff_left hlast] at hfive
  rw [show 0 + 8 + 1 + 4 + 1 + 4 + 1 + 4 + 1 = 8 + 1 + 4 + 1 + 4 + 1 + 4 + 1 from rfl, hfive]
  simp only [List.mem_cons, List.not_mem_nil, or_false, forall_eq_or_imp, forall_eq]
  tauto

/-- A list long enough is some front, one element and a rest. -/
theorem exists_front {α : Type*} {n : Nat} {l : List α} (h : n < l.length) :
    ∃ front a rest, l = front ++ a :: rest ∧ front.length = n
      ∧ rest.length + (n + 1) = l.length := by
  refine ⟨l.take n, l[n], l.drop (n + 1), ?_, ?_, ?_⟩
  · rw [← List.drop_eq_getElem_cons h, List.take_append_drop]
  · rw [List.length_take, min_eq_left h.le]
  · rw [List.length_drop, Nat.sub_add_cancel h]

/-- Five groups with dashes between them. -/
theorem join_groups (g₁ g₂ g₃ g₄ g₅ : Text) :
    g₁ ++ '-' :: (g₂ ++ '-' :: (g₃ ++ '-' :: (g₄ ++ '-' :: g₅)))
      = Text.join ['-'] [g₁, g₂, g₃, g₄, g₅] := by
  simp [Text.join, List.intercalate]

theorem dash_not_mem {g : Text} (h : g.all isAsciiHexdigit = true) : '-' ∉ g := fun hmem =>
  isAsciiHexdigit_ne_dash (List.all_eq_true.mp h _ hmem) rfl

/-- The chaos log's UUIDs are the texts of that shape. -/
theorem isUuid_iff (s : Text) : isUuid s = true ↔ UuidShape s := by
  rw [isUuid, Bool.and_eq_true, decide_eq_true_eq]
  constructor
  · rintro ⟨hlen, hbytes⟩
    rw [Utf8.length_utf8_of_ascii (ascii_of_uuidBytes hbytes)] at hlen
    obtain ⟨g₁, c₁, s₁, rfl, h₁, hs₁⟩ := exists_front (n := 8) (l := s) (by omega)
    obtain ⟨g₂, c₂, s₂, rfl, h₂, hs₂⟩ := exists_front (n := 4) (l := s₁) (by omega)
    obtain ⟨g₃, c₃, s₃, rfl, h₃, hs₃⟩ := exists_front (n := 4) (l := s₂) (by omega)
    obtain ⟨g₄, c₄, g₅, rfl, h₄, hs₄⟩ := exists_front (n := 4) (l := s₃) (by omega)
    obtain ⟨⟨rfl, rfl, rfl, rfl⟩, hhex⟩ :=
      (uuidBytes_groups h₁ h₂ h₃ h₄ (by omega)).mp hbytes
    have hsplit : Text.split '-' (Text.join ['-'] [g₁, g₂, g₃, g₄, g₅]) = [g₁, g₂, g₃, g₄, g₅] :=
      Text.split_join (fun g hg => dash_not_mem (hhex g hg)) (by simp)
    rw [join_groups]
    refine ⟨?_, fun g hg => hhex g (by rwa [hsplit] at hg)⟩
    rw [hsplit]
    simp only [List.map_cons, List.map_nil, h₁, h₂, h₃, h₄, List.cons.injEq, and_true, true_and]
    omega
  · rintro ⟨hwidths, hhex⟩
    have hjoin := Text.join_split '-' s
    generalize Text.split '-' s = parts at hwidths hhex hjoin
    simp only [List.map_eq_cons_iff, List.map_eq_nil_iff] at hwidths
    obtain ⟨g₁, _, rfl, h₁, g₂, _, rfl, h₂, g₃, _, rfl, h₃, g₄, _, rfl, h₄, g₅, _, rfl, h₅, rfl⟩ :=
      hwidths
    rw [← join_groups] at hjoin
    have hbytes := (uuidBytes_groups h₁ h₂ h₃ h₄ h₅).mpr ⟨⟨rfl, rfl, rfl, rfl⟩, hhex⟩
    rw [hjoin] at hbytes
    refine ⟨?_, hbytes⟩
    rw [Utf8.length_utf8_of_ascii (ascii_of_uuidBytes hbytes), ← hjoin]
    simp only [List.length_append, List.length_cons]
    omega

-- ======================================================= the id classes

/-- A slug of letters and digits with at least one of each. -/
structure MixedSlug (env : Externals) (s : Text) : Prop where
  digit : s.any isAsciiDigit = true
  letter : s.any isAsciiAlphabetic = true
  valid : ∀ c ∈ s, env.isAlphanumeric c = true ∨ c = '-' ∨ c = '_'

/-- The documented classes of ids. -/
def DocumentedId (env : Externals) (s : Text) : Prop :=
  (s ≠ [] ∧ s.all isAsciiDigit = true) ∨ UuidShape s ∨ MixedSlug env s

/-- Five groups of hex digits, of any lengths. -/
def FiveHexGroups (s : Text) : Prop :=
  (Text.split '-' s).length = 5 ∧ ∀ g ∈ Text.split '-' s, g.all isAsciiHexdigit = true

theorem fiveHexGroups_of_uuidShape {s : Text} (h : UuidShape s) : FiveHexGroups s := by
  have hlen := congrArg List.length h.widths
  rw [List.length_map] at hlen
  exact ⟨hlen, h.hex⟩

/-- Every character of hex groups is a hex digit or a dash. -/
theorem FiveHexGroups.char {s : Text} (h : FiveHexGroups s) {c : Char} (hc : c ∈ s) :
    c = '-' ∨ isAsciiHexdigit c = true := by
  by_cases hdash : c = '-'
  · exact Or.inl hdash
  · obtain ⟨g, hg, hcg⟩ := Text.exists_mem_split hc hdash
    exact Or.inr (List.all_eq_true.mp (h.2 g hg) c hcg)

theorem isAlphanumeric_hexdigit (env : Externals) {c : Char} (h : isAsciiHexdigit c = true) :
    env.isAlphanumeric c = true := by
  rw [env.isAlphanumeric_ascii c (isAsciiHexdigit_ascii h)]
  simp only [isAsciiHexdigit, isAsciiDigit, Bool.or_eq_true, Bool.and_eq_true,
    decide_eq_true_eq] at h
  have hval : c.val.toNat = c.toNat := rfl
  show ((decide ('A'.val ≤ c.val ∧ c.val ≤ 'Z'.val)
    || decide ('a'.val ≤ c.val) && decide (c.val ≤ 'z'.val))
    || decide ('0'.val ≤ c.val) && decide (c.val ≤ '9'.val)) = true
  simp only [Bool.or_eq_true, Bool.and_eq_true, decide_eq_true_eq, UInt32.le_iff_toNat_le,
    hval, show '0'.val.toNat = 48 from rfl, show '9'.val.toNat = 57 from rfl,
    show 'A'.val.toNat = 65 from rfl, show 'Z'.val.toNat = 90 from rfl,
    show 'a'.val.toNat = 97 from rfl, show 'z'.val.toNat = 122 from rfl]
  omega

/-- Groups with a digit and a letter among them are a mixed slug. -/
theorem FiveHexGroups.mixedSlug (env : Externals) {s : Text} (h : FiveHexGroups s)
    (hdigit : s.any isAsciiDigit = true) (hletter : s.any isAsciiAlphabetic = true) :
    MixedSlug env s where
  digit := hdigit
  letter := hletter
  valid := by
    intro c hc
    rcases h.char hc with hdash | hhex
    · exact Or.inr (Or.inl hdash)
    · exact Or.inl (isAlphanumeric_hexdigit env hhex)

/-- Five groups have dashes between them, so not all is digits. -/
theorem FiveHexGroups.not_digits {s : Text} (h : FiveHexGroups s) :
    s.all isAsciiDigit = false := by
  rw [Bool.eq_false_iff]
  intro hdigits
  have hdash : '-' ∉ s := fun hmem =>
    isAsciiDigit_ne_dash (List.all_eq_true.mp hdigits _ hmem) rfl
  have hlen := h.1
  rw [Text.split_eq_singleton hdash] at hlen
  cases hlen

/-- What the matcher takes for an id. -/
theorem isDynamicSegment_eq_true_iff (env : Externals) (s : Text) :
    isDynamicSegment env s = true
      ↔ (s ≠ [] ∧ s.all isAsciiDigit = true) ∨ FiveHexGroups s ∨ MixedSlug env s := by
  have hmixed : MixedSlug env s ↔ (s.any isAsciiDigit && s.any isAsciiAlphabetic
      && s.all fun c => env.isAlphanumeric c || c = '-' || c = '_') = true := by
    rw [Bool.and_eq_true, Bool.and_eq_true, List.all_eq_true, and_assoc]
    simp only [Bool.or_eq_true, decide_eq_true_eq, or_assoc]
    exact ⟨fun h => ⟨h.digit, h.letter, h.valid⟩, fun h => ⟨h.1, h.2.1, h.2.2⟩⟩
  have hfive : FiveHexGroups s ↔ ((Text.split '-' s).length = 5
      && (Text.split '-' s).all fun p => p.all isAsciiHexdigit) = true := by
    rw [FiveHexGroups, Bool.and_eq_true, decide_eq_true_eq, List.all_eq_true]
  cases s with
  | nil =>
      have hnot : ¬ FiveHexGroups [] := fun h => by cases h.1
      have hslug : ¬ MixedSlug env [] := fun h => by cases h.digit
      simp [isDynamicSegment, hnot, hslug]
  | cons c t =>
      rw [isDynamicSegment, if_neg (by simp)]
      simp only [ne_eq, reduceCtorEq, not_false_eq_true, true_and, hmixed, hfive]
      split
      · simp [*]
      · split <;> simp [*]

-- ==================================================== the documented ids

/-- The matcher keeps to the documented classes except for five hex groups
that are no UUID and lack a digit or a letter. -/
theorem isDynamicSegment_documented_iff (env : Externals) (s : Text) :
    ((isDynamicSegment env s = true ↔ DocumentedId env s)
      ∧ (isUuid s = true ↔ UuidShape s)
      ∧ (s.any isAsciiDigit = false → isUuid s = false → isDynamicSegment env s = false))
      ↔ ¬ (FiveHexGroups s ∧ ¬ UuidShape s
        ∧ (s.any isAsciiDigit = false ∨ s.any isAsciiAlphabetic = false)) := by
  have hcode := isDynamicSegment_eq_true_iff env s
  constructor
  · rintro ⟨hdoc, -⟩ ⟨hfive, huuid, hlacks⟩
    rcases hdoc.mp (hcode.mpr (Or.inr (Or.inl hfive))) with ⟨-, hdigits⟩ | h | hslug
    · rw [hfive.not_digits] at hdigits
      cases hdigits
    · exact huuid h
    · rcases hlacks with h | h
      · exact absurd hslug.digit (by rw [h]; simp)
      · exact absurd hslug.letter (by rw [h]; simp)
  · intro hcond
    have hdoc : isDynamicSegment env s = true ↔ DocumentedId env s := by
      rw [hcode]
      constructor
      · rintro (hdigits | hfive | hslug)
        · exact Or.inl hdigits
        · by_cases huuid : UuidShape s
          · exact Or.inr (Or.inl huuid)
          · simp only [hfive, huuid, not_false_eq_true, true_and, not_or,
              Bool.not_eq_false] at hcond
            exact Or.inr (Or.inr (hfive.mixedSlug env hcond.1 hcond.2))
        · exact Or.inr (Or.inr hslug)
      · rintro (hdigits | huuid | hslug)
        · exact Or.inl hdigits
        · exact Or.inr (Or.inl (fiveHexGroups_of_uuidShape huuid))
        · exact Or.inr (Or.inr hslug)
    refine ⟨hdoc, isUuid_iff s, fun hdigit huuid => ?_⟩
    rw [Bool.eq_false_iff]
    intro hdyn
    rcases hdoc.mp hdyn with ⟨hne, hdigits⟩ | h | hslug
    · obtain ⟨c, t, rfl⟩ := List.exists_cons_of_ne_nil hne
      have hc : isAsciiDigit c = true := List.all_eq_true.mp hdigits c (List.mem_cons_self ..)
      rw [List.any_cons, hc] at hdigit
      cases hdigit
    · rw [(isUuid_iff s).mpr h] at huuid
      cases huuid
    · exact absurd hslug.digit (by rw [hdigit]; simp)

/-- A slug of words made of the letters a to f stands for every other
segment. -/
theorem isDynamicSegment_words :
    ¬ ∀ (env : Externals) (s : Text), isDynamicSegment env s = true ↔ DocumentedId env s := by
  intro h
  have hcode : isDynamicSegment default "bad-cafe-feed-face-dead" = true := by decide
  rcases (h default _).mp hcode with ⟨-, hdigits⟩ | huuid | hslug
  · exact absurd hdigits (by decide)
  · exact absurd huuid (by decide)
  · exact absurd hslug.digit (by decide)

end GostlyProxy
