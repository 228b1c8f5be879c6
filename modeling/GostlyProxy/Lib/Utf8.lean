/-
UTF-8 as bytes: the encoder of a text, and the lossy decoder of
`String::from_utf8_lossy`, piece by piece.

# The decoder

`decodeHead` looks at the front of a non-empty byte sequence and takes
off one piece: a well-formed character, or the longest run of bytes that
starts like a character and cannot be finished (one to three bytes, the
unit that `from_utf8_lossy` replaces by one U+FFFD). The second byte is
checked against the range its lead byte allows (`secondOk`), which is
where overlong forms, surrogates and values past U+10FFFF are refused.

# What is proved

- `fromUtf8Lossy_utf8`: a decoded encoding is the text it came from.
- `utf8_fromUtf8Lossy_iff`: the bytes survive decoding and encoding
  exactly when they are the encoding of some text (`IsUtf8`).
- `length_utf8_fromUtf8Lossy_eq_iff`: the number of bytes survives
  exactly when every refused piece is three bytes long, as U+FFFD is.
-/
import GostlyProxy.Lib.Text
import Mathlib.Algebra.BigOperators.Group.List.Basic

namespace Lib

/-- A byte sequence (`Vec<u8>`, `Bytes`). -/
abbrev Bytes := List UInt8

-- ============================================================= encoding

/-- The UTF-8 bytes of a text (`str::as_bytes`, `String::into_bytes`). -/
def Text.utf8 (t : Text) : Bytes := t.flatMap String.utf8EncodeChar

namespace Utf8

@[simp] theorem utf8_nil : Text.utf8 [] = [] := rfl

@[simp] theorem utf8_cons (c : Char) (t : Text) :
    Text.utf8 (c :: t) = String.utf8EncodeChar c ++ Text.utf8 t := rfl

/-- Bytes that some text encodes to. -/
def IsUtf8 (bs : Bytes) : Prop := ∃ t : Text, t.utf8 = bs

-- ============================================================= decoding

/-- One unit of the lossy decoder: a character, or the bytes it refuses. -/
inductive Piece
  | char (c : Char)
  | invalid (bs : Bytes)
  deriving DecidableEq

/-- The character a piece becomes: refused bytes turn into U+FFFD. -/
def Piece.toChar : Piece → Char
  | .char c => c
  | .invalid _ => '\uFFFD'

/-- The number of bytes a lead byte announces, zero when it leads no
character. -/
def charWidth (b : UInt8) : Nat :=
  let v := b.toNat
  if v < 0x80 then 1
  else if 0xC2 ≤ v ∧ v ≤ 0xDF then 2
  else if 0xE0 ≤ v ∧ v ≤ 0xEF then 3
  else if 0xF0 ≤ v ∧ v ≤ 0xF4 then 4
  else 0

/-- `b & 0xC0 == 0x80`. -/
def isCont (b : UInt8) : Bool := 0x80 ≤ b.toNat && b.toNat ≤ 0xBF

/-- The second bytes a lead byte allows. -/
def secondOk (lead b : UInt8) : Bool :=
  let l := lead.toNat
  let v := b.toNat
  if l = 0xE0 then 0xA0 ≤ v && v ≤ 0xBF
  else if l = 0xED then 0x80 ≤ v && v ≤ 0x9F
  else if l = 0xF0 then 0x90 ≤ v && v ≤ 0xBF
  else if l = 0xF4 then 0x80 ≤ v && v ≤ 0x8F
  else 0x80 ≤ v && v ≤ 0xBF

/-- Two-byte scalar value. -/
def scalar2 (b₀ b₁ : UInt8) : Nat := b₀.toNat % 32 * 64 + b₁.toNat % 64

/-- Three-byte scalar value. -/
def scalar3 (b₀ b₁ b₂ : UInt8) : Nat :=
  b₀.toNat % 16 * 4096 + b₁.toNat % 64 * 64 + b₂.toNat % 64

/-- Four-byte scalar value. -/
def scalar4 (b₀ b₁ b₂ b₃ : UInt8) : Nat :=
  b₀.toNat % 8 * 262144 + b₁.toNat % 64 * 4096 + b₂.toNat % 64 * 64
    + b₃.toNat % 64

/-- The front piece after a lead byte that announces two bytes. -/
def decodeTwo (b₀ : UInt8) : Bytes → Piece × Bytes
  | b₁ :: r =>
      if isCont b₁ then (.char (Char.ofNat (scalar2 b₀ b₁)), r)
      else (.invalid [b₀], b₁ :: r)
  | [] => (.invalid [b₀], [])

/-- The front piece after a lead byte that announces three bytes. -/
def decodeThree (b₀ : UInt8) : Bytes → Piece × Bytes
  | b₁ :: b₂ :: r =>
      if secondOk b₀ b₁ then
        if isCont b₂ then (.char (Char.ofNat (scalar3 b₀ b₁ b₂)), r)
        else (.invalid [b₀, b₁], b₂ :: r)
      else (.invalid [b₀], b₁ :: b₂ :: r)
  | [b₁] =>
      if secondOk b₀ b₁ then (.invalid [b₀, b₁], [])
      else (.invalid [b₀], [b₁])
  | [] => (.invalid [b₀], [])

/-- The front piece after a lead byte that announces four bytes. -/
def decodeFour (b₀ : UInt8) : Bytes → Piece × Bytes
  | b₁ :: b₂ :: b₃ :: r =>
      if secondOk b₀ b₁ then
        if isCont b₂ then
          if isCont b₃ then (.char (Char.ofNat (scalar4 b₀ b₁ b₂ b₃)), r)
          else (.invalid [b₀, b₁, b₂], b₃ :: r)
        else (.invalid [b₀, b₁], b₂ :: b₃ :: r)
      else (.invalid [b₀], b₁ :: b₂ :: b₃ :: r)
  | [b₁, b₂] =>
      if secondOk b₀ b₁ then
        if isCont b₂ then (.invalid [b₀, b₁, b₂], [])
        else (.invalid [b₀, b₁], [b₂])
      else (.invalid [b₀], [b₁, b₂])
  | [b₁] =>
      if secondOk b₀ b₁ then (.invalid [b₀, b₁], [])
      else (.invalid [b₀], [b₁])
  | [] => (.invalid [b₀], [])

/-- The first piece of a non-empty byte sequence and the bytes left. -/
def decodeHead (b₀ : UInt8) (rest : Bytes) : Piece × Bytes :=
  match charWidth b₀ with
  | 1 => (.char (Char.ofNat b₀.toNat), rest)
  | 2 => decodeTwo b₀ rest
  | 3 => decodeThree b₀ rest
  | 4 => decodeFour b₀ rest
  | _ => (.invalid [b₀], rest)

/-- The pieces of a byte sequence, at most `fuel` of them. -/
def piecesUpTo : Nat → Bytes → List Piece
  | 0, _ => []
  | _ + 1, [] => []
  | fuel + 1, b :: bs =>
      (decodeHead b bs).1 :: piecesUpTo fuel (decodeHead b bs).2

/-- The pieces of a byte sequence (`[u8]::utf8_chunks`): every piece takes
at least one byte off. -/
def pieces (bs : Bytes) : List Piece := piecesUpTo bs.length bs

/-- `String::from_utf8_lossy`. -/
def fromUtf8Lossy (bs : Bytes) : Text := (pieces bs).map Piece.toChar

/-- `String::from_utf8`: the text, when nothing was replaced. -/
def fromUtf8 (bs : Bytes) : Option Text :=
  if (fromUtf8Lossy bs).utf8 = bs then some (fromUtf8Lossy bs) else none

-- ====================================================== the code points

/-- A byte built from a value below 256 holds that value. -/
theorem toNat_byte {n : Nat} (h : n < 256) : (UInt8.ofNat n).toNat = n := by
  rw [UInt8.toNat_ofNat', Nat.mod_eq_of_lt h]

/-- A character is the scalar value it is made of. -/
theorem ofNat_toNat (c : Char) : Char.ofNat c.toNat = c := Char.ofNat_toNat c

/-- The scalar values: no surrogates, nothing past U+10FFFF. -/
theorem toNat_range (c : Char) :
    c.toNat < 0xD800 ∨ (0xDFFF < c.toNat ∧ c.toNat < 0x110000) := c.valid

/-- The encoder by ranges of the scalar value. -/
theorem utf8EncodeChar_eq (c : Char) :
    String.utf8EncodeChar c =
      if c.toNat ≤ 0x7F then [UInt8.ofNat c.toNat]
      else if c.toNat ≤ 0x7FF then
        [UInt8.ofNat (c.toNat / 64 % 32 + 0xC0),
         UInt8.ofNat (c.toNat % 64 + 0x80)]
      else if c.toNat ≤ 0xFFFF then
        [UInt8.ofNat (c.toNat / 4096 % 16 + 0xE0),
         UInt8.ofNat (c.toNat / 64 % 64 + 0x80),
         UInt8.ofNat (c.toNat % 64 + 0x80)]
      else
        [UInt8.ofNat (c.toNat / 262144 % 8 + 0xF0),
         UInt8.ofNat (c.toNat / 4096 % 64 + 0x80),
         UInt8.ofNat (c.toNat / 64 % 64 + 0x80),
         UInt8.ofNat (c.toNat % 64 + 0x80)] := rfl

-- ================================================ decoding an encoding

/-- The value of a continuation byte of the encoder. -/
theorem toNat_contByte (n : Nat) :
    (UInt8.ofNat (n % 64 + 0x80)).toNat = n % 64 + 0x80 := toNat_byte (by omega)

theorem isCont_contByte (n : Nat) : isCont (UInt8.ofNat (n % 64 + 0x80)) = true := by
  simp only [isCont, toNat_contByte, Bool.and_eq_true, decide_eq_true_eq]
  omega

theorem decodeHead_one {c : Char} (h : c.toNat ≤ 0x7F) (rest : Bytes) :
    decodeHead (UInt8.ofNat c.toNat) rest = (.char c, rest) := by
  have hb : (UInt8.ofNat c.toNat).toNat = c.toNat := toNat_byte (by omega)
  have hw : charWidth (UInt8.ofNat c.toNat) = 1 := by
    simp only [charWidth, hb]
    rw [if_pos (by omega)]
  simp only [decodeHead, hw, hb, ofNat_toNat]

theorem decodeHead_two {c : Char} (hlow : 0x7F < c.toNat) (hhigh : c.toNat ≤ 0x7FF)
    (rest : Bytes) :
    decodeHead (UInt8.ofNat (c.toNat / 64 % 32 + 0xC0))
      (UInt8.ofNat (c.toNat % 64 + 0x80) :: rest) = (.char c, rest) := by
  have hb₀ : (UInt8.ofNat (c.toNat / 64 % 32 + 0xC0)).toNat
      = c.toNat / 64 % 32 + 0xC0 := toNat_byte (by omega)
  have hw : charWidth (UInt8.ofNat (c.toNat / 64 % 32 + 0xC0)) = 2 := by
    simp only [charWidth, hb₀]
    rw [if_neg (by omega), if_pos (by omega)]
  have hv : scalar2 (UInt8.ofNat (c.toNat / 64 % 32 + 0xC0))
      (UInt8.ofNat (c.toNat % 64 + 0x80)) = c.toNat := by
    simp only [scalar2, hb₀, toNat_contByte]
    omega
  simp only [decodeHead, hw, decodeTwo, isCont_contByte, hv, if_true, ofNat_toNat]

theorem decodeHead_three {c : Char} (hlow : 0x7FF < c.toNat) (hhigh : c.toNat ≤ 0xFFFF)
    (rest : Bytes) :
    decodeHead (UInt8.ofNat (c.toNat / 4096 % 16 + 0xE0))
      (UInt8.ofNat (c.toNat / 64 % 64 + 0x80)
        :: UInt8.ofNat (c.toNat % 64 + 0x80) :: rest) = (.char c, rest) := by
  have hrange := toNat_range c
  have hb₀ : (UInt8.ofNat (c.toNat / 4096 % 16 + 0xE0)).toNat
      = c.toNat / 4096 % 16 + 0xE0 := toNat_byte (by omega)
  have hw : charWidth (UInt8.ofNat (c.toNat / 4096 % 16 + 0xE0)) = 3 := by
    simp only [charWidth, hb₀]
    rw [if_neg (by omega), if_neg (by omega), if_pos (by omega)]
  have hs : secondOk (UInt8.ofNat (c.toNat / 4096 % 16 + 0xE0))
      (UInt8.ofNat (c.toNat / 64 % 64 + 0x80)) = true := by
    simp only [secondOk, hb₀, toNat_contByte]
    split_ifs <;>
      simp only [Bool.and_eq_true, decide_eq_true_eq] <;> omega
  have hv : scalar3 (UInt8.ofNat (c.toNat / 4096 % 16 + 0xE0))
      (UInt8.ofNat (c.toNat / 64 % 64 + 0x80))
      (UInt8.ofNat (c.toNat % 64 + 0x80)) = c.toNat := by
    simp only [scalar3, hb₀, toNat_contByte]
    omega
  simp only [decodeHead, hw, decodeThree, hs, isCont_contByte, hv, if_true, ofNat_toNat]

theorem decodeHead_four {c : Char} (hlow : 0xFFFF < c.toNat) (rest : Bytes) :
    decodeHead (UInt8.ofNat (c.toNat / 262144 % 8 + 0xF0))
      (UInt8.ofNat (c.toNat / 4096 % 64 + 0x80)
        :: UInt8.ofNat (c.toNat / 64 % 64 + 0x80)
        :: UInt8.ofNat (c.toNat % 64 + 0x80) :: rest) = (.char c, rest) := by
  have hrange := toNat_range c
  have hb₀ : (UInt8.ofNat (c.toNat / 262144 % 8 + 0xF0)).toNat
      = c.toNat / 262144 % 8 + 0xF0 := toNat_byte (by omega)
  have hw : charWidth (UInt8.ofNat (c.toNat / 262144 % 8 + 0xF0)) = 4 := by
    simp only [charWidth, hb₀]
    rw [if_neg (by omega), if_neg (by omega), if_neg (by omega), if_pos (by omega)]
  have hs : secondOk (UInt8.ofNat (c.toNat / 262144 % 8 + 0xF0))
      (UInt8.ofNat (c.toNat / 4096 % 64 + 0x80)) = true := by
    simp only [secondOk, hb₀, toNat_contByte]
    split_ifs <;>
      simp only [Bool.and_eq_true, decide_eq_true_eq] <;> omega
  have hv : scalar4 (UInt8.ofNat (c.toNat / 262144 % 8 + 0xF0))
      (UInt8.ofNat (c.toNat / 4096 % 64 + 0x80))
      (UInt8.ofNat (c.toNat / 64 % 64 + 0x80))
      (UInt8.ofNat (c.toNat % 64 + 0x80)) = c.toNat := by
    simp only [scalar4, hb₀, toNat_contByte]
    omega
  simp only [decodeHead, hw, decodeFour, hs, isCont_contByte, hv, if_true, ofNat_toNat]

/-- The decoder takes an encoded character off the front. -/
theorem decodeHead_encode (c : Char) (rest : Bytes) :
    ∃ b bs, String.utf8EncodeChar c = b :: bs
      ∧ decodeHead b (bs ++ rest) = (.char c, rest) := by
  rw [utf8EncodeChar_eq]
  by_cases h1 : c.toNat ≤ 0x7F
  · rw [if_pos h1]
    exact ⟨_, _, rfl, decodeHead_one h1 rest⟩
  rw [if_neg h1]
  by_cases h2 : c.toNat ≤ 0x7FF
  · rw [if_pos h2]
    exact ⟨_, _, rfl, decodeHead_two (by omega) h2 rest⟩
  rw [if_neg h2]
  by_cases h3 : c.toNat ≤ 0xFFFF
  · rw [if_pos h3]
    exact ⟨_, _, rfl, decodeHead_three (by omega) h3 rest⟩
  · rw [if_neg h3]
    exact ⟨_, _, rfl, decodeHead_four (by omega) rest⟩

-- ================================================ what a piece takes off

/-- The bytes a piece stands for in the decoded sequence. -/
def Piece.bytes : Piece → Bytes
  | .char c => String.utf8EncodeChar c
  | .invalid bs => bs

/-- A scalar value comes back from the character it makes. -/
theorem toNat_ofNat {v : Nat} (h : v < 0xD800 ∨ (0xDFFF < v ∧ v < 0x110000)) :
    (Char.ofNat v).toNat = v := by
  rw [Char.ofNat, dif_pos h]
  rfl

/-- A byte is determined by its value. -/
theorem byte_eq {b : UInt8} {n : Nat} (h : b.toNat = n) : UInt8.ofNat n = b := by
  rw [← h, UInt8.ofNat_toNat]

/-- The two-byte branch of the encoder undoes the two-byte scalar value. -/
theorem encode_scalar2 {b₀ b₁ : UInt8} (hw : charWidth b₀ = 2)
    (h₁ : isCont b₁ = true) :
    String.utf8EncodeChar (Char.ofNat (scalar2 b₀ b₁)) = [b₀, b₁] := by
  have hb₀ := b₀.toNat_lt
  have hlead : 0xC2 ≤ b₀.toNat ∧ b₀.toNat ≤ 0xDF := by
    simp only [charWidth] at hw
    split_ifs at hw <;> omega
  simp only [isCont, Bool.and_eq_true, decide_eq_true_eq] at h₁
  have hbounds : 0x80 ≤ scalar2 b₀ b₁ ∧ scalar2 b₀ b₁ ≤ 0x7FF := by
    simp only [scalar2]
    omega
  have hv : (Char.ofNat (scalar2 b₀ b₁)).toNat = scalar2 b₀ b₁ :=
    toNat_ofNat (by omega)
  rw [utf8EncodeChar_eq, hv, if_neg (by omega), if_pos (by omega)]
  simp only [scalar2]
  rw [byte_eq (b := b₀) (by omega), byte_eq (b := b₁) (by omega)]

/-- The three-byte branch of the encoder undoes the three-byte scalar
value: the second-byte ranges keep it above two bytes and off the
surrogates. -/
theorem encode_scalar3 {b₀ b₁ b₂ : UInt8} (hw : charWidth b₀ = 3)
    (h₁ : secondOk b₀ b₁ = true) (h₂ : isCont b₂ = true) :
    String.utf8EncodeChar (Char.ofNat (scalar3 b₀ b₁ b₂)) = [b₀, b₁, b₂] := by
  have hlead : 0xE0 ≤ b₀.toNat ∧ b₀.toNat ≤ 0xEF := by
    simp only [charWidth] at hw
    split_ifs at hw <;> omega
  simp only [isCont, Bool.and_eq_true, decide_eq_true_eq] at h₂
  have hsecond : 0x80 ≤ b₁.toNat ∧ b₁.toNat ≤ 0xBF
      ∧ (b₀.toNat = 0xE0 → 0xA0 ≤ b₁.toNat)
      ∧ (b₀.toNat = 0xED → b₁.toNat ≤ 0x9F) := by
    simp only [secondOk] at h₁
    split_ifs at h₁ <;>
      simp only [Bool.and_eq_true, decide_eq_true_eq] at h₁ <;> omega
  obtain ⟨hlo, hhi, hE0, hED⟩ := hsecond
  have hbounds : 0x800 ≤ scalar3 b₀ b₁ b₂ ∧ scalar3 b₀ b₁ b₂ ≤ 0xFFFF
      ∧ (scalar3 b₀ b₁ b₂ < 0xD800 ∨ 0xDFFF < scalar3 b₀ b₁ b₂) := by
    simp only [scalar3]
    omega
  have hv : (Char.ofNat (scalar3 b₀ b₁ b₂)).toNat = scalar3 b₀ b₁ b₂ :=
    toNat_ofNat (by omega)
  rw [utf8EncodeChar_eq, hv, if_neg (by omega), if_neg (by omega),
    if_pos (by omega)]
  simp only [scalar3]
  rw [byte_eq (b := b₀) (by omega), byte_eq (b := b₁) (by omega),
    byte_eq (b := b₂) (by omega)]

/-- The four-byte branch of the encoder undoes the four-byte scalar
value. -/
theorem encode_scalar4 {b₀ b₁ b₂ b₃ : UInt8} (hw : charWidth b₀ = 4)
    (h₁ : secondOk b₀ b₁ = true) (h₂ : isCont b₂ = true)
    (h₃ : isCont b₃ = true) :
    String.utf8EncodeChar (Char.ofNat (scalar4 b₀ b₁ b₂ b₃))
      = [b₀, b₁, b₂, b₃] := by
  have hlead : 0xF0 ≤ b₀.toNat ∧ b₀.toNat ≤ 0xF4 := by
    simp only [charWidth] at hw
    split_ifs at hw <;> omega
  simp only [isCont, Bool.and_eq_true, decide_eq_true_eq] at h₂ h₃
  have hsecond : 0x80 ≤ b₁.toNat ∧ b₁.toNat ≤ 0xBF
      ∧ (b₀.toNat = 0xF0 → 0x90 ≤ b₁.toNat)
      ∧ (b₀.toNat = 0xF4 → b₁.toNat ≤ 0x8F) := by
    simp only [secondOk] at h₁
    split_ifs at h₁ <;>
      simp only [Bool.and_eq_true, decide_eq_true_eq] at h₁ <;> omega
  obtain ⟨hlo, hhi, hF0, hF4⟩ := hsecond
  have hbounds : 0x10000 ≤ scalar4 b₀ b₁ b₂ b₃
      ∧ scalar4 b₀ b₁ b₂ b₃ < 0x110000 := by
    simp only [scalar4]
    omega
  have hv : (Char.ofNat (scalar4 b₀ b₁ b₂ b₃)).toNat = scalar4 b₀ b₁ b₂ b₃ :=
    toNat_ofNat (by omega)
  rw [utf8EncodeChar_eq, hv, if_neg (by omega), if_neg (by omega),
    if_neg (by omega)]
  simp only [scalar4]
  rw [byte_eq (b := b₀) (by omega), byte_eq (b := b₁) (by omega),
    byte_eq (b := b₂) (by omega), byte_eq (b := b₃) (by omega)]

/-- What taking the front piece off says about the bytes: the piece's own
bytes come first, and a refused piece has one to three of them. -/
structure HeadSpec (b₀ : UInt8) (rest : Bytes) (out : Piece × Bytes) : Prop where
  split : b₀ :: rest = out.1.bytes ++ out.2
  refused : ∀ bs, out.1 = .invalid bs → 1 ≤ bs.length ∧ bs.length ≤ 3

theorem headSpec_char {b₀ : UInt8} {rest r : Bytes} {c : Char}
    (h : b₀ :: rest = String.utf8EncodeChar c ++ r) :
    HeadSpec b₀ rest (.char c, r) :=
  ⟨h, fun bs hbs => by cases hbs⟩

theorem headSpec_invalid {b₀ : UInt8} {rest r bs : Bytes}
    (h : b₀ :: rest = bs ++ r) (hlen : 1 ≤ bs.length ∧ bs.length ≤ 3) :
    HeadSpec b₀ rest (.invalid bs, r) :=
  ⟨h, fun bs' hbs => by cases hbs; exact hlen⟩

theorem decodeTwo_spec {b₀ : UInt8} (hw : charWidth b₀ = 2) (rest : Bytes) :
    HeadSpec b₀ rest (decodeTwo b₀ rest) := by
  match rest with
  | [] => exact headSpec_invalid rfl (by simp)
  | b₁ :: r =>
      rw [decodeTwo]
      split_ifs with h₁
      · exact headSpec_char (by rw [encode_scalar2 hw h₁]; rfl)
      · exact headSpec_invalid rfl (by simp)

theorem decodeThree_spec {b₀ : UInt8} (hw : charWidth b₀ = 3) (rest : Bytes) :
    HeadSpec b₀ rest (decodeThree b₀ rest) := by
  match rest with
  | [] => exact headSpec_invalid rfl (by simp)
  | [b₁] =>
      rw [decodeThree]
      split_ifs with h₁
      · exact headSpec_invalid rfl (by simp)
      · exact headSpec_invalid rfl (by simp)
  | b₁ :: b₂ :: r =>
      rw [decodeThree]
      split_ifs with h₁ h₂
      · exact headSpec_char (by rw [encode_scalar3 hw h₁ h₂]; rfl)
      · exact headSpec_invalid rfl (by simp)
      · exact headSpec_invalid rfl (by simp)

theorem decodeFour_spec {b₀ : UInt8} (hw : charWidth b₀ = 4) (rest : Bytes) :
    HeadSpec b₀ rest (decodeFour b₀ rest) := by
  match rest with
  | [] => exact headSpec_invalid rfl (by simp)
  | [b₁] =>
      rw [decodeFour]
      split_ifs with h₁
      · exact headSpec_invalid rfl (by simp)
      · exact headSpec_invalid rfl (by simp)
  | [b₁, b₂] =>
      rw [decodeFour]
      split_ifs with h₁ h₂
      · exact headSpec_invalid rfl (by simp)
      · exact headSpec_invalid rfl (by simp)
      · exact headSpec_invalid rfl (by simp)
  | b₁ :: b₂ :: b₃ :: r =>
      rw [decodeFour]
      split_ifs with h₁ h₂ h₃
      · exact headSpec_char (by rw [encode_scalar4 hw h₁ h₂ h₃]; rfl)
      · exact headSpec_invalid rfl (by simp)
      · exact headSpec_invalid rfl (by simp)
      · exact headSpec_invalid rfl (by simp)

theorem decodeHead_spec (b₀ : UInt8) (rest : Bytes) :
    HeadSpec b₀ rest (decodeHead b₀ rest) := by
  unfold decodeHead
  split
  · next hw =>
    have hlt : b₀.toNat < 0x80 := by
      simp only [charWidth] at hw
      split_ifs at hw with h <;> omega
    refine headSpec_char ?_
    have hv : (Char.ofNat b₀.toNat).toNat = b₀.toNat := toNat_ofNat (by omega)
    rw [utf8EncodeChar_eq, hv, if_pos (by omega), UInt8.ofNat_toNat]
    rfl
  · next hw => exact decodeTwo_spec hw rest
  · next hw => exact decodeThree_spec hw rest
  · next hw => exact decodeFour_spec hw rest
  · exact headSpec_invalid rfl (by simp)

/-- A piece takes at least one byte off. -/
theorem length_decodeHead_le (b₀ : UInt8) (rest : Bytes) :
    (decodeHead b₀ rest).2.length ≤ rest.length := by
  have hspec := decodeHead_spec b₀ rest
  have hpos : 1 ≤ (decodeHead b₀ rest).1.bytes.length := by
    cases hp : (decodeHead b₀ rest).1 with
    | char c =>
        rw [Piece.bytes, utf8EncodeChar_eq]
        split_ifs <;> simp
    | invalid bs => exact (hspec.refused bs hp).1
  have hlen := congrArg List.length hspec.split
  rw [List.length_append, List.length_cons] at hlen
  omega

-- ============================================================ the pieces

/-- Fuel past the number of bytes changes nothing. -/
theorem piecesUpTo_eq {n m : Nat} {bs : Bytes} (hn : bs.length ≤ n)
    (hm : bs.length ≤ m) : piecesUpTo n bs = piecesUpTo m bs := by
  induction n generalizing m bs with
  | zero =>
      have hnil : bs = [] := List.eq_nil_of_length_eq_zero (by omega)
      subst hnil
      cases m <;> rfl
  | succ n ih =>
      cases bs with
      | nil => cases m <;> rfl
      | cons b bs =>
          cases m with
          | zero => simp at hm
          | succ m =>
              have hlt := length_decodeHead_le b bs
              rw [List.length_cons] at hn hm
              have hrest : piecesUpTo n (decodeHead b bs).2
                  = piecesUpTo m (decodeHead b bs).2 :=
                ih (by omega) (by omega)
              rw [piecesUpTo, piecesUpTo, hrest]

theorem pieces_nil : pieces [] = [] := rfl

theorem pieces_cons (b : UInt8) (bs : Bytes) :
    pieces (b :: bs) = (decodeHead b bs).1 :: pieces (decodeHead b bs).2 := by
  have hlt := length_decodeHead_le b bs
  rw [pieces, List.length_cons, piecesUpTo, pieces,
    piecesUpTo_eq hlt (Nat.le_refl _)]

/-- The pieces of a text's encoding are its characters, whatever follows. -/
theorem pieces_utf8_append (t : Text) (rest : Bytes) :
    pieces (t.utf8 ++ rest) = t.map .char ++ pieces rest := by
  induction t with
  | nil => rfl
  | cons c t ih =>
      obtain ⟨b, bs, henc, hhead⟩ := decodeHead_encode c (Text.utf8 t ++ rest)
      rw [utf8_cons, henc, List.append_assoc, List.cons_append, pieces_cons, hhead, ih]
      rfl

theorem pieces_utf8 (t : Text) : pieces t.utf8 = t.map .char := by
  have h := pieces_utf8_append t []
  rwa [List.append_nil, pieces_nil, List.append_nil] at h

/-- Induction over the pieces of a byte sequence. -/
theorem pieces_induction {P : Bytes → Prop} (hnil : P [])
    (hcons : ∀ b bs, P (decodeHead b bs).2 → P (b :: bs)) (bs : Bytes) :
    P bs := by
  induction hn : bs.length using Nat.strong_induction_on generalizing bs with
  | _ n ih =>
    cases bs with
    | nil => exact hnil
    | cons b bs =>
        refine hcons b bs (ih _ ?_ _ rfl)
        have hlt := length_decodeHead_le b bs
        rw [List.length_cons] at hn
        omega

-- =========================================================== round trips

/-- Decoding an encoding gives the text back. -/
@[simp] theorem fromUtf8Lossy_utf8 (t : Text) : fromUtf8Lossy t.utf8 = t := by
  rw [fromUtf8Lossy, pieces_utf8, List.map_map]
  exact List.map_id t

/-- Bytes survive decoding and encoding exactly when they are UTF-8. -/
theorem utf8_fromUtf8Lossy_iff (bs : Bytes) :
    (fromUtf8Lossy bs).utf8 = bs ↔ IsUtf8 bs := by
  constructor
  · intro h
    exact ⟨_, h⟩
  · rintro ⟨t, rfl⟩
    rw [fromUtf8Lossy_utf8]

/-- A byte that leads no character is replaced, whatever stands around it. -/
theorem fromUtf8Lossy_around_invalid (s t : Text) :
    fromUtf8Lossy (s.utf8 ++ 0xFF :: t.utf8) = s ++ '\uFFFD' :: t := by
  have hhead : decodeHead 0xFF t.utf8 = (.invalid [0xFF], t.utf8) := rfl
  have hchars : ∀ u : Text, (u.map Piece.char).map Piece.toChar = u := fun u => by
    rw [List.map_map]
    exact List.map_id u
  rw [fromUtf8Lossy, pieces_utf8_append, pieces_cons, hhead, pieces_utf8, List.map_append,
    List.map_cons, hchars, hchars]
  rfl

/-- Bytes whose decoding holds no replacement character were not replaced. -/
theorem isUtf8_of_not_mem {bs : Bytes} (h : '\uFFFD' ∉ fromUtf8Lossy bs) : IsUtf8 bs := by
  induction bs using pieces_induction with
  | hnil => exact ⟨[], rfl⟩
  | hcons b bs ih =>
      have hdecode : fromUtf8Lossy (b :: bs)
          = (decodeHead b bs).1.toChar :: fromUtf8Lossy (decodeHead b bs).2 := by
        rw [fromUtf8Lossy, pieces_cons]
        rfl
      rw [hdecode, List.mem_cons, not_or] at h
      obtain ⟨t, ht⟩ := ih h.2
      have hsplit := (decodeHead_spec b bs).split
      cases hpiece : (decodeHead b bs).1 with
      | char c =>
          refine ⟨c :: t, ?_⟩
          rw [hsplit, hpiece, utf8_cons, ht]
          rfl
      | invalid r =>
          rw [hpiece] at h
          exact absurd rfl h.1

/-- The decoding tells which bytes were decoded exactly when they are the
UTF-8 of a text without the replacement character. -/
theorem decoding_determines_iff (bs : Bytes) :
    (∀ bs', fromUtf8Lossy bs' = fromUtf8Lossy bs → bs' = bs)
      ↔ ∃ t : Text, t.utf8 = bs ∧ '\uFFFD' ∉ t := by
  constructor
  · intro h
    have hself : (fromUtf8Lossy bs).utf8 = bs := h _ (fromUtf8Lossy_utf8 _)
    refine ⟨fromUtf8Lossy bs, hself, fun hmem => ?_⟩
    -- Some other bytes decode alike: one refused byte for the character.
    obtain ⟨s, t, hst⟩ := List.append_of_mem hmem
    have hother := h (Text.utf8 s ++ 0xFF :: Text.utf8 t)
      (by rw [fromUtf8Lossy_around_invalid, hst])
    rw [← hself, hst] at hother
    have hlen := congrArg List.length hother
    have hchar : (Text.utf8 ('\uFFFD' :: t)).length = 3 + (Text.utf8 t).length := by
      rw [utf8_cons, List.length_append]
      rfl
    have happend : (Text.utf8 (s ++ '\uFFFD' :: t))
        = Text.utf8 s ++ Text.utf8 ('\uFFFD' :: t) := List.flatMap_append
    rw [happend, List.length_append, List.length_append, hchar, List.length_cons] at hlen
    omega
  · rintro ⟨t, rfl, hmem⟩ bs' hsame
    rw [fromUtf8Lossy_utf8] at hsame
    have hutf8 : IsUtf8 bs' := isUtf8_of_not_mem (by rw [hsame]; exact hmem)
    rw [← (utf8_fromUtf8Lossy_iff bs').mpr hutf8, hsame]

/-- An ASCII text has one byte for each character. -/
theorem length_utf8_of_ascii {t : Text} (h : ∀ c ∈ t, c.toNat < 128) :
    t.utf8.length = t.length := by
  induction t with
  | nil => rfl
  | cons c t ih =>
      have hc : c.toNat ≤ 0x7F := Nat.le_of_lt_succ (h c (List.mem_cons_self ..))
      have hrest := ih fun d hd => h d (List.mem_cons_of_mem _ hd)
      rw [utf8_cons, List.length_append, utf8EncodeChar_eq, if_pos hc, hrest]
      exact Nat.add_comm 1 t.length

/-- What the lossy decoder writes for one piece. -/
theorem length_utf8_toChar (p : Piece) :
    (String.utf8EncodeChar p.toChar).length
      = match p with
        | .char _ => p.bytes.length
        | .invalid _ => 3 := by
  cases p with
  | char c => rfl
  | invalid bs => rfl

/-- The number of bytes survives decoding and encoding exactly when every
refused piece has as many bytes as U+FFFD. -/
theorem length_utf8_fromUtf8Lossy_eq_iff (bs : Bytes) :
    (fromUtf8Lossy bs).utf8.length = bs.length
      ↔ ∀ r, .invalid r ∈ pieces bs → r.length = 3 := by
  -- every piece grows or keeps its length, so the sums agree piecewise
  have hgrow : ∀ bs : Bytes,
      bs.length ≤ (fromUtf8Lossy bs).utf8.length
        ∧ ((fromUtf8Lossy bs).utf8.length = bs.length
            ↔ ∀ r, .invalid r ∈ pieces bs → r.length = 3) := by
    intro bs
    induction bs using pieces_induction with
    | hnil => exact ⟨Nat.le_refl _, by simp [fromUtf8Lossy, pieces_nil]⟩
    | hcons b bs ih =>
        obtain ⟨hle, hiff⟩ := ih
        have hspec := decodeHead_spec b bs
        have hlen := congrArg List.length hspec.split
        have hout : (fromUtf8Lossy (b :: bs)).utf8.length
            = (String.utf8EncodeChar (decodeHead b bs).1.toChar).length
              + (fromUtf8Lossy (decodeHead b bs).2).utf8.length := by
          rw [fromUtf8Lossy, pieces_cons, List.map_cons, utf8_cons,
            List.length_append, ← fromUtf8Lossy]
        rw [List.length_append] at hlen
        rw [hout, hlen, length_utf8_toChar, pieces_cons]
        cases hp : (decodeHead b bs).1 with
        | char c =>
            simp only [Piece.bytes]
            refine ⟨by omega, ?_⟩
            rw [Nat.add_left_cancel_iff, hiff]
            simp
        | invalid r =>
            have hr := hspec.refused r hp
            simp only [Piece.bytes]
            refine ⟨by omega, ?_⟩
            constructor
            · intro h r' hr'
              rcases List.mem_cons.mp hr' with heq | hmem
              · cases heq
                omega
              · exact hiff.mp (by omega) r' hmem
            · intro h
              have hhere := h r (List.mem_cons_self ..)
              have hrest := hiff.mpr fun r' hr' =>
                h r' (List.mem_cons_of_mem _ hr')
              omega
  exact (hgrow bs).2

end Utf8

end Lib
