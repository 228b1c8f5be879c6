/-
JSON texts: documents as they are written, what a library that prints and
parses them promises, and one library that keeps the promise.

# Documents

A `Doc` is what a JSON text says before anyone decides what to make of it:
a number is its literal, and an object is its members in the order they
are written, repeated names included.

# The promise

`Doc.Printable n` bounds a document's nesting by `n` and asks its numbers
to be literals of the grammar. A `JsonLibrary` is lawful when it prints
such documents without control characters and parses what it prints. The
bound is there because parsers that recurse stop somewhere.

`JsonLibrary.compact` is an instance: it prints without blanks, escapes
what must be escaped, and its parser reads blanks between tokens and every
escape but the surrogate pairs. Its round trip is by induction on the
document; the fuel of its parser is the length of the text.
-/
import GostlyProxy.Lib.Text

namespace Lib

-- ============================================================ documents

/-- A JSON text, token for token. -/
inductive Doc where
  | null
  | bool (b : Bool)
  | number (literal : Text)
  | string (s : Text)
  | array (items : List Doc)
  | object (members : List (Text × Doc))

-- ========================================================= number literals

/-- A character of a number literal. -/
def isNumberChar (c : Char) : Bool := c.isDigit || c ∈ ['-', '+', '.', 'e', 'E']

/-- One digit or more, and what follows them. -/
def digits (t : Text) : Option (Text × Text) :=
  let ds := t.takeWhile Char.isDigit
  if ds.isEmpty then none else some (ds, t.dropWhile Char.isDigit)

/-- An exponent, or nothing. -/
def isExponent : Text → Bool
  | [] => true
  | e :: t =>
      let unsigned := match t with
        | s :: t' => if s = '+' ∨ s = '-' then t' else s :: t'
        | [] => []
      (e = 'e' || e = 'E') && !unsigned.isEmpty && unsigned.all Char.isDigit

/-- A fraction and an exponent, or either, or nothing. -/
def isFraction : Text → Bool
  | [] => true
  | c :: t =>
      if c = '.' then
        match digits t with
        | some (_, rest) => isExponent rest
        | none => false
      else isExponent (c :: t)

/-- A number literal: no leading zero, no leading plus. -/
def isNumber (t : Text) : Bool :=
  t.all isNumberChar &&
    match digits (match t with
      | c :: t' => if c = '-' then t' else c :: t'
      | [] => []) with
    | some (ds, rest) => (ds.head? ≠ some '0' || ds.length = 1) && isFraction rest
    | none => false

namespace Doc

-- ============================================================ printable

/-- Nested at most `n` deep, with numbers that are number literals. -/
inductive Printable : Nat → Doc → Prop where
  | null {n : Nat} : Printable n .null
  | bool {n : Nat} (b : Bool) : Printable n (.bool b)
  | number {n : Nat} {literal : Text} (h : isNumber literal = true) :
      Printable n (.number literal)
  | string {n : Nat} (s : Text) : Printable n (.string s)
  | array {n : Nat} {items : List Doc} (h : ∀ d ∈ items, Printable n d) :
      Printable (n + 1) (.array items)
  | object {n : Nat} {members : List (Text × Doc)} (h : ∀ m ∈ members, Printable n m.2) :
      Printable (n + 1) (.object members)

end Doc

-- ===================================================== no control characters

namespace Text

/-- A text without control characters. -/
def Visible (t : Text) : Prop := ∀ c ∈ t, 32 ≤ c.toNat

instance decidableVisible (t : Text) : Decidable (Visible t) :=
  inferInstanceAs (Decidable (∀ c ∈ t, 32 ≤ c.toNat))

/-- Joining texts adds no control character. -/
theorem Visible.append {s t : Text} (hs : Visible s) (ht : Visible t) : Visible (s ++ t) := by
  intro c hc
  rcases List.mem_append.mp hc with h | h
  · exact hs c h
  · exact ht c h

theorem Visible.cons {c : Char} {t : Text} (hc : 32 ≤ c.toNat) (ht : Visible t) :
    Visible (c :: t) := by
  intro d hd
  rcases List.mem_cons.mp hd with rfl | h
  · exact hc
  · exact ht d h

/-- A text without control characters is one line. -/
theorem Visible.isLine {t : Text} (h : Visible t) : IsLine t := by
  constructor
  · intro hlf
    exact absurd (h _ hlf) (by decide)
  · intro hcr
    exact absurd (h _ hcr) (by decide)

/-- A text is not blank when some character of it is not. -/
theorem trim_ne_nil {c : Char} {t : Text} (hc : isWhitespace c = false) (hmem : c ∈ t) :
    trim t ≠ [] := by
  intro h
  have hall : ∀ d ∈ t.dropWhile isWhitespace, isWhitespace d = true := by
    have hdrop := List.reverse_eq_nil_iff.mp h
    rw [List.dropWhile_eq_nil_iff] at hdrop
    exact fun d hd => hdrop d (List.mem_reverse.mpr hd)
  rw [← List.takeWhile_append_dropWhile (p := isWhitespace) (l := t), List.mem_append] at hmem
  rcases hmem with hmem | hmem
  · exact absurd (List.mem_takeWhile_imp hmem) (by simp [hc])
  · exact absurd (hall c hmem) (by simp [hc])

end Text

-- ============================================================ the library

/-- A JSON library, as far as texts go. -/
structure JsonLibrary where
  parse : Text → Option Doc
  print : Doc → Text

/-- What is promised of documents nested at most `depth` deep: their texts
hold no control characters, are not blank, and are parsed. -/
structure JsonLibrary.Lawful (lib : JsonLibrary) (depth : Nat) : Prop where
  parse_print : ∀ d, d.Printable depth → lib.parse (lib.print d) = some d
  visible_print : ∀ d, d.Printable depth → Text.Visible (lib.print d)
  nonblank_print : ∀ d, d.Printable depth → Text.trim (lib.print d) ≠ []

namespace Doc

-- ============================================================== printing

/-- The hexadecimal digit of a number under sixteen. -/
def hexDigit (n : Nat) : Char := if n < 10 then Char.ofNat (48 + n) else Char.ofNat (87 + n)

def escapeChar (c : Char) : Text :=
  if c = '"' then ['\\', '"']
  else if c = '\\' then ['\\', '\\']
  else if c = '\x08' then ['\\', 'b']
  else if c = '\t' then ['\\', 't']
  else if c = '\n' then ['\\', 'n']
  else if c = '\x0c' then ['\\', 'f']
  else if c = '\r' then ['\\', 'r']
  else if c.toNat < 32 then
    ['\\', 'u', '0', '0', hexDigit (c.toNat / 16), hexDigit (c.toNat % 16)]
  else [c]

/-- A string between its quotes. -/
def printString (s : Text) : Text := '"' :: (s.flatMap escapeChar ++ ['"'])

mutual

def print : Doc → Text
  | .null => ['n', 'u', 'l', 'l']
  | .bool true => ['t', 'r', 'u', 'e']
  | .bool false => ['f', 'a', 'l', 's', 'e']
  | .number literal => literal
  | .string s => printString s
  | .array [] => ['[', ']']
  | .array (d :: ds) => '[' :: (print d ++ printItems ds)
  | .object [] => ['\x7b', '\x7d']
  | .object ((k, d) :: ms) => '\x7b' :: (printString k ++ ':' :: (print d ++ printMembers ms))

/-- The items after the first, and the closing bracket. -/
def printItems : List Doc → Text
  | [] => [']']
  | d :: ds => ',' :: (print d ++ printItems ds)

/-- The members after the first, and the closing brace. -/
def printMembers : List (Text × Doc) → Text
  | [] => ['\x7d']
  | (k, d) :: ms => ',' :: (printString k ++ ':' :: (print d ++ printMembers ms))

end

-- =============================================================== parsing

def isBlank (c : Char) : Bool := c ∈ [' ', '\t', '\n', '\r']

def skipBlanks (t : Text) : Text := t.dropWhile isBlank

def hexValue (c : Char) : Option Nat :=
  let n := c.toNat
  if 48 ≤ n ∧ n ≤ 57 then some (n - 48)
  else if 65 ≤ n ∧ n ≤ 70 then some (n - 55)
  else if 97 ≤ n ∧ n ≤ 102 then some (n - 87)
  else none

/-- The character of four hexadecimal digits; none of a surrogate. -/
def unescapeHex (a b c d : Char) : Option Char := do
  let code := (← hexValue a) * 4096 + (← hexValue b) * 256 + (← hexValue c) * 16
    + (← hexValue d)
  if code < 0xd800 ∨ 0xdfff < code then some (Char.ofNat code) else none

/-- The character of a one-letter escape. -/
def unescape (c : Char) : Option Char :=
  if c = '"' ∨ c = '\\' ∨ c = '/' then some c
  else if c = 'b' then some '\x08'
  else if c = 't' then some '\t'
  else if c = 'n' then some '\n'
  else if c = 'f' then some '\x0c'
  else if c = 'r' then some '\r'
  else none

/-- A string after its opening quote, and what follows the closing one. -/
def readString : Text → Option (Text × Text)
  | [] => none
  | c :: t =>
      if c = '"' then some ([], t)
      else if c = '\\' then
        match t with
        | [] => none
        | e :: t =>
            if e = 'u' then
              match t with
              | x :: y :: z :: w :: t =>
                  (unescapeHex x y z w).bind fun ch =>
                    (readString t).map fun (s, rest) => (ch :: s, rest)
              | _ => none
            else
              (unescape e).bind fun ch =>
                (readString t).map fun (s, rest) => (ch :: s, rest)
      else if c.toNat < 32 then none
      else (readString t).map fun (s, rest) => (c :: s, rest)

/-- A word or a number. -/
def readWord (t : Text) : Option (Doc × Text) :=
  if Text.startsWith t ['n', 'u', 'l', 'l'] then some (.null, t.drop 4)
  else if Text.startsWith t ['t', 'r', 'u', 'e'] then some (.bool true, t.drop 4)
  else if Text.startsWith t ['f', 'a', 'l', 's', 'e'] then some (.bool false, t.drop 5)
  else
    let literal := t.takeWhile isNumberChar
    if isNumber literal then some (.number literal, t.dropWhile isNumberChar) else none

/-- A name and its colon. -/
def readName (t : Text) : Option (Text × Text) :=
  match skipBlanks t with
  | c :: t =>
      if c = '"' then
        (readString t).bind fun (k, rest) =>
          match skipBlanks rest with
          | c :: rest => if c = ':' then some (k, rest) else none
          | [] => none
      else none
  | [] => none

mutual

/-- A document, and what follows it. -/
def readDoc : Nat → Text → Option (Doc × Text)
  | 0, _ => none
  | fuel + 1, t =>
      match skipBlanks t with
      | [] => none
      | c :: t =>
          if c = '"' then (readString t).map fun (s, rest) => (.string s, rest)
          else if c = '[' then
            if (skipBlanks t).head? = some ']' then some (.array [], (skipBlanks t).tail)
            else
              (readDoc fuel t).bind fun (d, rest) =>
                (readItems fuel rest).map fun (ds, rest) => (.array (d :: ds), rest)
          else if c = '\x7b' then
            if (skipBlanks t).head? = some '\x7d' then some (.object [], (skipBlanks t).tail)
            else
              (readName t).bind fun (k, rest) =>
                (readDoc fuel rest).bind fun (d, rest) =>
                  (readMembers fuel rest).map fun (ms, rest) =>
                    (.object ((k, d) :: ms), rest)
          else readWord (c :: t)

/-- The items after the first. -/
def readItems : Nat → Text → Option (List Doc × Text)
  | 0, _ => none
  | fuel + 1, t =>
      match skipBlanks t with
      | [] => none
      | c :: t =>
          if c = ']' then some ([], t)
          else if c = ',' then
            (readDoc fuel t).bind fun (d, rest) =>
              (readItems fuel rest).map fun (ds, rest) => (d :: ds, rest)
          else none

/-- The members after the first. -/
def readMembers : Nat → Text → Option (List (Text × Doc) × Text)
  | 0, _ => none
  | fuel + 1, t =>
      match skipBlanks t with
      | [] => none
      | c :: t =>
          if c = '\x7d' then some ([], t)
          else if c = ',' then
            (readName t).bind fun (k, rest) =>
              (readDoc fuel rest).bind fun (d, rest) =>
                (readMembers fuel rest).map fun (ms, rest) => ((k, d) :: ms, rest)
          else none

end

/-- The document of a whole text. -/
def parse (t : Text) : Option Doc :=
  (readDoc (t.length + 1) t).bind fun (d, rest) =>
    if (skipBlanks rest).isEmpty then some d else none

-- ============================================================== strings

/-- A hexadecimal digit has the value it was made of. -/
theorem hexValue_hexDigit : ∀ n < 16, hexValue (hexDigit n) = some n := by decide

/-- The four digits of a control character name it. -/
theorem unescapeHex_control {c : Char} (h : c.toNat < 32) :
    unescapeHex '0' '0' (hexDigit (c.toNat / 16)) (hexDigit (c.toNat % 16)) = some c := by
  have hzero : hexValue '0' = some 0 := rfl
  simp only [unescapeHex, hzero, hexValue_hexDigit _ (show c.toNat / 16 < 16 by omega),
    hexValue_hexDigit _ (show c.toNat % 16 < 16 by omega), Option.bind_eq_bind, Option.bind_some]
  rw [show 0 * 4096 + 0 * 256 + c.toNat / 16 * 16 + c.toNat % 16 = c.toNat by omega,
    if_pos (Or.inl (by omega)), Char.ofNat_toNat]

/-- The closing quote ends a string. -/
theorem readString_quote (t : Text) : readString ('"' :: t) = some ([], t) := by
  unfold readString
  rfl

/-- An escape of one letter is read as its character. -/
theorem readString_escape {e c : Char} (he : e ≠ 'u') (h : unescape e = some c) (t : Text) :
    readString ('\\' :: e :: t) = (readString t).map fun p => (c :: p.1, p.2) := by
  conv_lhs => unfold readString
  simp [he, h]

/-- An escape of four digits is read as the character they name. -/
theorem readString_hex {x y z w c : Char} (h : unescapeHex x y z w = some c) (t : Text) :
    readString ('\\' :: 'u' :: x :: y :: z :: w :: t)
      = (readString t).map fun p => (c :: p.1, p.2) := by
  conv_lhs => unfold readString
  simp [h]

/-- A character that needs no escape is read as itself. -/
theorem readString_plain {c : Char} (hquote : c ≠ '"') (hslash : c ≠ '\\')
    (hvisible : ¬c.toNat < 32) (t : Text) :
    readString (c :: t) = (readString t).map fun p => (c :: p.1, p.2) := by
  conv_lhs => unfold readString
  simp [hquote, hslash, hvisible]

/-- An escaped character is read as the character. -/
theorem readString_escapeChar (c : Char) (t : Text) :
    readString (escapeChar c ++ t) = (readString t).map fun p => (c :: p.1, p.2) := by
  unfold escapeChar
  split_ifs with hquote hslash hb ht hn hf hr hcontrol
  · subst hquote
    exact readString_escape (by decide) rfl t
  · subst hslash
    exact readString_escape (by decide) rfl t
  · subst hb
    exact readString_escape (by decide) rfl t
  · subst ht
    exact readString_escape (by decide) rfl t
  · subst hn
    exact readString_escape (by decide) rfl t
  · subst hf
    exact readString_escape (by decide) rfl t
  · subst hr
    exact readString_escape (by decide) rfl t
  · exact readString_hex (unescapeHex_control hcontrol) t
  · exact readString_plain hquote hslash hcontrol t

/-- An escaped string is read up to the quote behind it. -/
theorem readString_escaped (s rest : Text) :
    readString (s.flatMap escapeChar ++ '"' :: rest) = some (s, rest) := by
  induction s with
  | nil => exact readString_quote rest
  | cons c s ih =>
      rw [List.flatMap_cons, List.append_assoc, readString_escapeChar, ih]
      rfl

/-- There is nothing to skip before a token. -/
theorem skipBlanks_cons {c : Char} (h : isBlank c = false) (t : Text) :
    skipBlanks (c :: t) = c :: t := List.dropWhile_cons_of_neg (by simp [h])

/-- A printed name is read with its colon. -/
theorem readName_printString (k rest : Text) :
    readName (printString k ++ ':' :: rest) = some (k, rest) := by
  unfold readName printString
  rw [List.cons_append, skipBlanks_cons (by decide)]
  simp only [if_true, List.append_assoc, List.cons_append, List.nil_append,
    readString_escaped, Option.bind_some, skipBlanks_cons (show isBlank ':' = false by decide)]

-- =============================================================== numbers

/-- A number that stands here ends here. -/
def Ends (rest : Text) : Prop := ∀ c ∈ rest.head?, isNumberChar c = false

/-- A number may end the text. -/
theorem ends_nil : Ends [] := by
  intro c h
  cases h

/-- A number may stand before another item. -/
theorem ends_printItems (ds : List Doc) (rest : Text) : Ends (printItems ds ++ rest) := by
  intro c h
  cases ds <;> (cases h; rfl)

/-- A number may stand before another member. -/
theorem ends_printMembers (ms : List (Text × Doc)) (rest : Text) :
    Ends (printMembers ms ++ rest) := by
  intro c h
  cases ms <;> (cases h; rfl)

/-- A number literal starts with a character of its own. -/
theorem exists_cons_of_isNumber {literal : Text} (h : isNumber literal = true) :
    ∃ c t, literal = c :: t ∧ isNumberChar c = true := by
  cases literal with
  | nil => exact absurd h (by decide)
  | cons c t =>
      refine ⟨c, t, rfl, ?_⟩
      simp only [isNumber, List.all_cons, Bool.and_eq_true] at h
      exact h.1.1

/-- No bracket, brace or quote starts a number. -/
theorem numberChar_ne {c d : Char} (hc : isNumberChar c = true) (hd : isNumberChar d = false) :
    c ≠ d := by
  intro h
  rw [h, hd] at hc
  cases hc

/-- No character of a number is blank. -/
theorem numberChar_not_whitespace {c : Char} (hc : isNumberChar c = true) :
    Text.isWhitespace c = false := by
  simp only [isNumberChar, Bool.or_eq_true, Char.isDigit, Bool.and_eq_true, decide_eq_true_eq,
    List.mem_cons, List.not_mem_nil, or_false] at hc
  rcases hc with h | rfl | rfl | rfl | rfl | rfl
  · have hlow : 48 ≤ c.toNat := h.1
    have hhigh : c.toNat ≤ 57 := h.2
    simp only [Text.isWhitespace, Bool.or_eq_false_iff, Bool.and_eq_false_iff,
      decide_eq_false_iff_not, beq_eq_false_iff_ne]
    omega
  all_goals decide

/-- The characters of a literal are taken up to where it ends. -/
theorem takeWhile_number {literal rest : Text} (h : ∀ c ∈ literal, isNumberChar c = true)
    (hrest : Ends rest) :
    (literal ++ rest).takeWhile isNumberChar = literal
      ∧ (literal ++ rest).dropWhile isNumberChar = rest := by
  rw [List.takeWhile_append_of_pos h, List.dropWhile_append_of_pos h]
  cases rest with
  | nil => simp
  | cons c rest => simp [hrest c rfl]

/-- A number literal is read whole. -/
theorem readWord_number {literal rest : Text} (h : isNumber literal = true)
    (hrest : Ends rest) : readWord (literal ++ rest) = some (.number literal, rest) := by
  obtain ⟨c, t, rfl, hc⟩ := exists_cons_of_isNumber h
  have hall : ∀ d ∈ c :: t, isNumberChar d = true := by
    simp only [isNumber, Bool.and_eq_true, List.all_eq_true] at h
    exact h.1
  obtain ⟨htake, hdrop⟩ := takeWhile_number hall hrest
  have hstarts : ∀ (d : Char) (pat : Text), isNumberChar d = false →
      Text.startsWith (c :: t ++ rest) (d :: pat) = false := by
    intro d pat hd
    have hne := numberChar_ne hc hd
    simp [Text.startsWith, List.isPrefixOf, Ne.symm hne]
  unfold readWord
  simp only [hstarts _ _ (show isNumberChar 'n' = false by decide),
    hstarts _ _ (show isNumberChar 't' = false by decide),
    hstarts _ _ (show isNumberChar 'f' = false by decide), htake, hdrop, h]
  simp

-- ============================================================= round trip

/-- What a printed document starts with. -/
theorem exists_cons_of_print {d : Doc} {n : Nat} (h : d.Printable n) :
    ∃ c t, print d = c :: t ∧ Text.isWhitespace c = false ∧ c ≠ ']' := by
  cases h with
  | null => exact ⟨_, _, rfl, by decide, by decide⟩
  | bool b => cases b <;> exact ⟨_, _, rfl, by decide, by decide⟩
  | number h =>
      obtain ⟨c, t, hlit, hc⟩ := exists_cons_of_isNumber h
      exact ⟨c, t, by rw [print, hlit], numberChar_not_whitespace hc,
        numberChar_ne hc (by decide)⟩
  | string s => exact ⟨_, _, by rw [print, printString], by decide, by decide⟩
  | @array n items h => cases items <;> exact ⟨_, _, by rw [print], by decide, by decide⟩
  | @object n members h => cases members <;> exact ⟨_, _, by rw [print], by decide, by decide⟩

/-- What is no white space is no blank. -/
theorem isBlank_eq_false {c : Char} (h : Text.isWhitespace c = false) : isBlank c = false := by
  simp only [isBlank, decide_eq_false_iff_not, List.mem_cons, List.not_mem_nil, or_false, not_or]
  refine ⟨?_, ?_, ?_, ?_⟩
  all_goals
    rintro rfl
    exact absurd h (by decide)

/-- A printed document starts with no blank. -/
theorem skipBlanks_print {d : Doc} {n : Nat} (h : d.Printable n) (rest : Text) :
    skipBlanks (print d ++ rest) = print d ++ rest := by
  obtain ⟨c, t, hprint, hspace, -⟩ := exists_cons_of_print h
  rw [hprint, List.cons_append, skipBlanks_cons (isBlank_eq_false hspace)]

/-- A printed document is not blank. -/
theorem trim_print {d : Doc} {n : Nat} (h : d.Printable n) : Text.trim (print d) ≠ [] := by
  obtain ⟨c, t, hprint, hspace, -⟩ := exists_cons_of_print h
  exact Text.trim_ne_nil hspace (by rw [hprint]; exact List.mem_cons_self ..)

mutual

/-- A printed document is read, whatever follows it. -/
theorem readDoc_print : ∀ (d : Doc) {n fuel : Nat} {rest : Text}, d.Printable n →
    (print d).length < fuel → Ends rest → readDoc fuel (print d ++ rest) = some (d, rest)
  | d, n, 0, rest, _, hfuel, _ => absurd hfuel (Nat.not_lt_zero _)
  | .null, n, fuel + 1, rest, h, hfuel, hrest => by
      simp [readDoc, print, skipBlanks_cons, isBlank, readWord, Text.startsWith]
  | .bool true, n, fuel + 1, rest, h, hfuel, hrest => by
      simp [readDoc, print, skipBlanks_cons, isBlank, readWord, Text.startsWith]
  | .bool false, n, fuel + 1, rest, h, hfuel, hrest => by
      simp [readDoc, print, skipBlanks_cons, isBlank, readWord, Text.startsWith]
  | .number literal, n, fuel + 1, rest, h, hfuel, hrest => by
      cases h with
      | number hlit =>
          have hword := readWord_number hlit hrest
          obtain ⟨c, t, rfl, hc⟩ := exists_cons_of_isNumber hlit
          have hskip := skipBlanks_print (.number hlit (n := n)) rest
          simp only [print, List.cons_append] at hskip hword ⊢
          simp only [readDoc, hskip, if_neg (numberChar_ne hc (d := '"') (by decide)),
            if_neg (numberChar_ne hc (d := '[') (by decide)),
            if_neg (numberChar_ne hc (d := '\x7b') (by decide)), hword]
  | .string s, n, fuel + 1, rest, h, hfuel, hrest => by
      simp [readDoc, print, printString, skipBlanks_cons, isBlank, readString_escaped]
  | .array [], n, fuel + 1, rest, h, hfuel, hrest => by
      simp [readDoc, print, skipBlanks_cons, isBlank]
  | .array (d :: ds), n, fuel + 1, rest, h, hfuel, hrest => by
      cases h with
      | array hitems =>
          obtain ⟨c, t, hprint, -, hc⟩ :=
            exists_cons_of_print (hitems d (List.mem_cons_self ..))
          simp only [print, List.length_cons, List.length_append] at hfuel
          have hhead := readDoc_print d (hitems d (List.mem_cons_self ..))
            (show (print d).length < fuel by omega) (ends_printItems ds rest)
          have htail : readItems fuel (printItems ds ++ rest) = some (ds, rest) :=
            readItems_print ds (fun d' hd' => hitems d' (List.mem_cons_of_mem _ hd'))
              (by omega)
          have hskip := skipBlanks_print (hitems d (List.mem_cons_self ..))
            (printItems ds ++ rest)
          have hnot : (skipBlanks (print d ++ (printItems ds ++ rest))).head? ≠ some ']' := by
            rw [hskip, hprint]
            simpa using hc
          simp only [print, List.cons_append, List.append_assoc, readDoc]
          rw [skipBlanks_cons (by decide)]
          simp [hnot, hhead, htail]
  | .object [], n, fuel + 1, rest, h, hfuel, hrest => by
      simp [readDoc, print, skipBlanks_cons, isBlank]
  | .object ((k, d) :: ms), n, fuel + 1, rest, h, hfuel, hrest => by
      cases h with
      | object hmembers =>
          simp only [print, List.length_cons, List.length_append] at hfuel
          have hhead := readDoc_print d (hmembers (k, d) (List.mem_cons_self ..))
            (show (print d).length < fuel by omega) (ends_printMembers ms rest)
          have htail : readMembers fuel (printMembers ms ++ rest) = some (ms, rest) :=
            readMembers_print ms (fun m hm => hmembers m (List.mem_cons_of_mem _ hm))
              (by omega)
          have hname := readName_printString k (print d ++ (printMembers ms ++ rest))
          have hnot : (skipBlanks (printString k ++ ':' :: (print d
              ++ (printMembers ms ++ rest)))).head? ≠ some '\x7d' := by
            rw [printString, List.cons_append, skipBlanks_cons (by decide)]
            simp
          simp only [print, List.cons_append, List.append_assoc, readDoc]
          rw [skipBlanks_cons (by decide)]
          simp [hnot, hname, hhead, htail]

/-- Printed items are read up to their bracket. -/
theorem readItems_print : ∀ (ds : List Doc) {n fuel : Nat} {rest : Text},
    (∀ d ∈ ds, d.Printable n) → (printItems ds).length < fuel →
    readItems fuel (printItems ds ++ rest) = some (ds, rest)
  | ds, n, 0, rest, _, hfuel => absurd hfuel (Nat.not_lt_zero _)
  | [], n, fuel + 1, rest, h, hfuel => by
      simp [readItems, printItems, skipBlanks_cons, isBlank]
  | d :: ds, n, fuel + 1, rest, h, hfuel => by
      simp only [printItems, List.length_cons, List.length_append] at hfuel
      have hhead := readDoc_print d (h d (List.mem_cons_self ..))
        (show (print d).length < fuel by omega) (ends_printItems ds rest)
      have htail : readItems fuel (printItems ds ++ rest) = some (ds, rest) :=
        readItems_print ds (fun d' hd' => h d' (List.mem_cons_of_mem _ hd')) (by omega)
      simp only [printItems, List.cons_append, List.append_assoc, readItems]
      rw [skipBlanks_cons (by decide)]
      simp [hhead, htail]

/-- Printed members are read up to their brace. -/
theorem readMembers_print : ∀ (ms : List (Text × Doc)) {n fuel : Nat} {rest : Text},
    (∀ m ∈ ms, m.2.Printable n) → (printMembers ms).length < fuel →
    readMembers fuel (printMembers ms ++ rest) = some (ms, rest)
  | ms, n, 0, rest, _, hfuel => absurd hfuel (Nat.not_lt_zero _)
  | [], n, fuel + 1, rest, h, hfuel => by
      simp [readMembers, printMembers, skipBlanks_cons, isBlank]
  | (k, d) :: ms, n, fuel + 1, rest, h, hfuel => by
      simp only [printMembers, List.length_cons, List.length_append] at hfuel
      have hhead := readDoc_print d (h (k, d) (List.mem_cons_self ..))
        (show (print d).length < fuel by omega) (ends_printMembers ms rest)
      have htail : readMembers fuel (printMembers ms ++ rest) = some (ms, rest) :=
        readMembers_print ms (fun m hm => h m (List.mem_cons_of_mem _ hm)) (by omega)
      have hname := readName_printString k (print d ++ (printMembers ms ++ rest))
      simp only [printMembers, List.cons_append, List.append_assoc, readMembers]
      rw [skipBlanks_cons (by decide)]
      simp [hname, hhead, htail]

end

/-- A printed document is parsed: the length of its text is fuel enough. -/
theorem parse_print {d : Doc} {n : Nat} (h : d.Printable n) : parse (print d) = some d := by
  have hread := readDoc_print d h (Nat.lt_succ_self _) ends_nil
  rw [List.append_nil] at hread
  rw [parse, hread]
  rfl

-- ======================================================= no control characters

/-- No hexadecimal digit is a control character. -/
theorem hexDigit_visible : ∀ n < 16, 32 ≤ (hexDigit n).toNat := by decide

/-- What is escaped holds no control character. -/
theorem visible_escapeChar (c : Char) : Text.Visible (escapeChar c) := by
  unfold escapeChar
  split_ifs with hquote hslash hb ht hn hf hr hcontrol
  · decide
  · decide
  · decide
  · decide
  · decide
  · decide
  · decide
  · have hhigh := hexDigit_visible (c.toNat / 16) (by omega)
    have hlow := hexDigit_visible (c.toNat % 16) (by omega)
    intro d hd
    simp only [List.mem_cons, List.not_mem_nil, or_false] at hd
    rcases hd with rfl | rfl | rfl | rfl | rfl | rfl
    · decide
    · decide
    · decide
    · decide
    · exact hhigh
    · exact hlow
  · intro d hd
    rw [List.mem_singleton.mp hd]
    omega

/-- A printed string holds no control character. -/
theorem visible_printString (s : Text) : Text.Visible (printString s) := by
  refine Text.Visible.cons (by decide) (.append ?_ (by decide))
  intro c hc
  obtain ⟨d, -, hd⟩ := List.mem_flatMap.mp hc
  exact visible_escapeChar d c hd

/-- A number holds no control character. -/
theorem visible_number {literal : Text} (h : isNumber literal = true) : Text.Visible literal := by
  intro c hc
  simp only [isNumber, Bool.and_eq_true, List.all_eq_true] at h
  have hchar := h.1 c hc
  simp only [isNumberChar, Bool.or_eq_true, Char.isDigit, Bool.and_eq_true, decide_eq_true_eq,
    List.mem_cons, List.not_mem_nil, or_false] at hchar
  rcases hchar with h | rfl | rfl | rfl | rfl | rfl
  · have hle : 48 ≤ c.toNat := h.1
    omega
  all_goals decide

mutual

/-- A printed document holds no control character. -/
theorem visible_print : ∀ (d : Doc) {n : Nat}, d.Printable n → Text.Visible (print d)
  | .null, _, _ => by decide
  | .bool true, _, _ => by decide
  | .bool false, _, _ => by decide
  | .number literal, _, h => by
      cases h with
      | number hlit => exact visible_number hlit
  | .string s, _, _ => visible_printString s
  | .array [], _, _ => by decide
  | .array (d :: ds), _, h => by
      cases h with
      | array hitems =>
          exact .cons (by decide) ((visible_print d (hitems d (List.mem_cons_self ..))).append
            (visible_printItems ds fun d' hd' => hitems d' (List.mem_cons_of_mem _ hd')))
  | .object [], _, _ => by decide
  | .object ((k, d) :: ms), _, h => by
      cases h with
      | object hmembers =>
          exact .cons (by decide) ((visible_printString k).append (.cons (by decide)
            ((visible_print d (hmembers (k, d) (List.mem_cons_self ..))).append
              (visible_printMembers ms fun m hm => hmembers m (List.mem_cons_of_mem _ hm)))))

/-- Printed items hold no control character. -/
theorem visible_printItems : ∀ (ds : List Doc) {n : Nat}, (∀ d ∈ ds, d.Printable n) →
    Text.Visible (printItems ds)
  | [], _, _ => by decide
  | d :: ds, _, h =>
      .cons (by decide) ((visible_print d (h d (List.mem_cons_self ..))).append
        (visible_printItems ds fun d' hd' => h d' (List.mem_cons_of_mem _ hd')))

/-- Printed members hold no control character. -/
theorem visible_printMembers : ∀ (ms : List (Text × Doc)) {n : Nat},
    (∀ m ∈ ms, m.2.Printable n) → Text.Visible (printMembers ms)
  | [], _, _ => by decide
  | (k, d) :: ms, _, h =>
      .cons (by decide) ((visible_printString k).append (.cons (by decide)
        ((visible_print d (h (k, d) (List.mem_cons_self ..))).append
          (visible_printMembers ms fun m hm => h m (List.mem_cons_of_mem _ hm)))))

end

end Doc

-- ============================================================== the instance

def JsonLibrary.compact : JsonLibrary where
  parse := Doc.parse
  print := Doc.print

/-- The compact library keeps the promise at every depth. -/
theorem JsonLibrary.compact_lawful (depth : Nat) : JsonLibrary.compact.Lawful depth where
  parse_print _ h := Doc.parse_print h
  visible_print d h := Doc.visible_print d h
  nonblank_print _ h := Doc.trim_print h

end Lib
