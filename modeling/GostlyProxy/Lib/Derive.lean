/-
Structs as JSON documents, the way a derive macro writes and reads them.

# Reading a struct

A struct is read from an object by the names of its fields, in any order
and past members of other names; a name that occurs twice is an error, and
a missing one is what the field says it is. It is also read from an array,
by position. `Slot` is a field with its type's reader and its two answers
to being missing.

# What an object says

`Spells full optional ms` is what makes the members `ms` a way to write
the members `full`: each of `full` once, in any order, those that are
`optional` perhaps not, and others of other names anywhere between.
`get_of_spells` reads every field of such an object.
-/
import GostlyProxy.Lib.HashMap
import GostlyProxy.Lib.JsonText

namespace Lib

namespace Doc

-- ============================================================= the types

/-- `String`. -/
def asString : Doc → Option Text
  | .string s => some s
  | _ => none

/-- `bool`. -/
def asBool : Doc → Option Bool
  | .bool b => some b
  | _ => none

/-- An unsigned integer under the bound: a sign, a fraction or an exponent
makes a literal something else. -/
def asUnsigned (bound : Nat) : Doc → Option Nat
  | .number literal =>
      if literal.all Char.isDigit && Nat.ofDigitChars 10 literal 0 < bound then
        some (Nat.ofDigitChars 10 literal 0)
      else none
  | _ => none

/-- `u16`. -/
def asU16 (d : Doc) : Option UInt16 := (d.asUnsigned (2 ^ 16)).map UInt16.ofNat

/-- `u64`. -/
def asU64 (d : Doc) : Option UInt64 := (d.asUnsigned (2 ^ 64)).map UInt64.ofNat

/-- `Option<T>`. -/
def asOption {α : Type} (read : Doc → Option α) : Doc → Option (Option α)
  | .null => some none
  | d => (read d).map some

/-- `Vec<T>`. -/
def asVec {α : Type} (read : Doc → Option α) : Doc → Option (List α)
  | .array items => items.mapM read
  | _ => none

/-- `HashMap<String, T>`: the last member of a name stays. -/
def asMap {α : Type} (read : Doc → Option α) : Doc → Option (HashMap Text α)
  | .object members =>
      (members.mapM fun m => (read m.2).map fun v => (m.1, v)).map HashMap.collect
  | _ => none

/-- An unsigned integer as it is written. -/
def ofUnsigned (n : Nat) : Doc := .number (Text.ofNat n)

/-- A map as it is written: in the order an iteration meets the entries. -/
def ofMap {α : Type} (rs : RandomState) (write : α → Doc) (m : HashMap Text α) : Doc :=
  .object ((rs.iter m).map fun e => (e.1, write e.2))

-- ------------------------------------------------------------ round trips

theorem isDigit_of_mem_ofNat {n : Nat} {c : Char} (h : c ∈ Text.ofNat n) :
    c.isDigit = true := Nat.isDigit_of_mem_toDigits (by decide) (by decide) h

theorem asUnsigned_ofUnsigned {n bound : Nat} (h : n < bound) :
    (ofUnsigned n).asUnsigned bound = some n := by
  have hdigits : (Text.ofNat n).all Char.isDigit = true := by
    rw [List.all_eq_true]
    exact fun c hc => isDigit_of_mem_ofNat hc
  have hvalue : Nat.ofDigitChars 10 (Text.ofNat n) 0 = n := Nat.ofDigitChars_ten_toDigits
  simp [ofUnsigned, asUnsigned, hdigits, hvalue, h]

theorem asU16_ofUnsigned (n : UInt16) : (ofUnsigned n.toNat).asU16 = some n := by
  rw [asU16, asUnsigned_ofUnsigned n.toNat_lt]
  simp

theorem asU64_ofUnsigned (n : UInt64) : (ofUnsigned n.toNat).asU64 = some n := by
  rw [asU64, asUnsigned_ofUnsigned n.toNat_lt]
  simp

/-- What is read back element by element is read back as a list. -/
theorem mapM_map {α β γ : Type} {write : α → β} {read : β → Option γ} {f : α → γ}
    {l : List α} (h : ∀ a ∈ l, read (write a) = some (f a)) :
    (l.map write).mapM read = some (l.map f) := by
  induction l with
  | nil => rfl
  | cons a l ih =>
      rw [List.map_cons, List.mapM_cons, h a (List.mem_cons_self ..),
        ih fun b hb => h b (List.mem_cons_of_mem _ hb)]
      rfl

/-- A map is read back, whatever order it was written in. -/
theorem asMap_ofMap {α : Type} {write : α → Doc} {read : Doc → Option α} (rs : RandomState)
    (h : ∀ a, read (write a) = some a) (m : HashMap Text α) :
    asMap read (ofMap rs write m) = some m := by
  unfold asMap ofMap
  dsimp only
  rw [mapM_map (f := fun e : HashMap.Entry Text α => (e.1, e.2)) fun e _ => by simp [h],
    Option.map_some, rs.collect_iter]

-- -------------------------------------------------------------- printable

/-- Decimal digits have no leading zero, but for zero itself. -/
theorem head?_ofNat : ∀ n : Nat, 0 < n → (Text.ofNat n).head? ≠ some '0' := by
  intro n
  induction n using Nat.strongRecOn with
  | ind n ih =>
      intro hpos
      unfold Text.ofNat
      by_cases hsmall : n < 10
      · have hdigit : ∀ n < 10, 0 < n → n.digitChar ≠ '0' := by decide
        rw [Nat.toDigits_of_lt_base hsmall, List.head?_cons, Ne, Option.some.injEq]
        exact hdigit n hsmall hpos
      · have hprefix := ih (n / 10) (by omega) (by omega)
        have hne : Nat.toDigits 10 (n / 10) ≠ [] := Nat.toDigits_ne_nil
        rw [Nat.toDigits_of_base_le (by decide) (by omega), List.head?_append_of_ne_nil _ hne]
        exact hprefix

theorem isNumber_ofNat (n : Nat) : isNumber (Text.ofNat n) = true := by
  have hdigit : ∀ c ∈ Text.ofNat n, c.isDigit = true := fun c hc => isDigit_of_mem_ofNat hc
  have hne : Text.ofNat n ≠ [] := Nat.toDigits_ne_nil
  have hzero : (Text.ofNat n).head? ≠ some '0' ∨ (Text.ofNat n).length = 1 := by
    rcases Nat.eq_zero_or_pos n with rfl | hpos
    · right
      rfl
    · left
      exact head?_ofNat n hpos
  have hsplit : digits (Text.ofNat n) = some (Text.ofNat n, []) := by
    have htake : (Text.ofNat n).takeWhile Char.isDigit = Text.ofNat n :=
      List.takeWhile_eq_self_iff.mpr hdigit
    have hdrop : (Text.ofNat n).dropWhile Char.isDigit = [] :=
      List.dropWhile_eq_nil_iff.mpr hdigit
    simp [digits, htake, hdrop, hne]
  have hchars : (Text.ofNat n).all isNumberChar = true := by
    rw [List.all_eq_true]
    intro c hc
    simp [isNumberChar, hdigit c hc]
  obtain ⟨c, t, hcons⟩ := List.exists_cons_of_ne_nil hne
  have hminus : c ≠ '-' := by
    rintro rfl
    exact absurd (hdigit '-' (by rw [hcons]; simp)) (by decide)
  rw [hcons] at hsplit hchars hzero ⊢
  simp only [isNumber, hchars, if_neg hminus, hsplit, isFraction, Bool.true_and, Bool.and_true]
  simpa using hzero

theorem printable_ofUnsigned (n depth : Nat) : (ofUnsigned n).Printable depth :=
  .number (isNumber_ofNat n)

/-- A map of strings is printable one level deep. -/
theorem printable_ofMap {α : Type} {rs : RandomState} {write : α → Doc} {m : HashMap Text α}
    {depth : Nat} (h : ∀ a, (write a).Printable depth) :
    (ofMap rs write m).Printable (depth + 1) := by
  refine .object fun p hp => ?_
  obtain ⟨e, -, rfl⟩ := List.mem_map.mp hp
  exact h e.2

-- ============================================================== the fields

/-- The values of the members of a name. -/
def valuesOf (name : Text) (members : List (Text × Doc)) : List Doc :=
  (members.filter (·.1 = name)).map (·.2)

/-- An array of more elements than the struct has fields is none. -/
def fits (arity : Nat) : Doc → Bool
  | .object _ => true
  | .array items => items.length ≤ arity
  | _ => false

end Doc

/-- A field of a struct: how its value is read, and what it is when an
object has no member of the name (`absent`) or an array ends before it
(`short`). -/
structure Slot (α : Type) where
  name : Text
  read : Doc → Option α
  absent : Option α
  short : Option α

namespace Slot

variable {α : Type}

def required (name : Text) (read : Doc → Option α) : Slot α := ⟨name, read, none, none⟩

/-- A field that is an option may be missing from an object only. -/
def option (name : Text) (read : Doc → Option α) : Slot (Option α) :=
  ⟨name, Doc.asOption read, some none, none⟩

/-- `#[serde(default = ..)]`. -/
def defaulted (name : Text) (read : Doc → Option α) (value : α) : Slot α :=
  ⟨name, read, some value, some value⟩

/-- The value of the `i`-th field. -/
def get (f : Slot α) (i : Nat) : Doc → Option α
  | .object members =>
      match Doc.valuesOf f.name members with
      | [] => f.absent
      | [d] => f.read d
      | _ => none
  | .array items =>
      match items[i]? with
      | some d => f.read d
      | none => f.short
  | _ => none

end Slot

-- ============================================================ what is spelled

/-- The members `ms` are the members `full`, perhaps without some whose
names are `optional`. -/
structure Skips (optional : List Text) (full ms : List (Text × Doc)) : Prop where
  sublist : ms.Sublist full
  all : ∀ m ∈ full, m ∈ ms ∨ m.1 ∈ optional

namespace Skips

variable {optional : List Text} {full full' ms ms' : List (Text × Doc)}

theorem refl (optional : List Text) (full : List (Text × Doc)) : Skips optional full full :=
  ⟨List.Sublist.refl _, fun _ hm => Or.inl hm⟩

theorem append (h : Skips optional full ms) (h' : Skips optional full' ms') :
    Skips optional (full ++ full') (ms ++ ms') where
  sublist := h.sublist.append h'.sublist
  all m hm := by
    rcases List.mem_append.mp hm with hm | hm
    · exact (h.all m hm).imp_left fun hin => List.mem_append_left _ hin
    · exact (h'.all m hm).imp_left fun hin => List.mem_append_right _ hin

/-- A member that may be left out is. -/
theorem skip {name : Text} {d : Doc} (h : name ∈ optional) : Skips optional [(name, d)] [] where
  sublist := List.nil_sublist _
  all m hm := by
    rw [List.mem_singleton.mp hm]
    exact Or.inr h

end Skips

/-- The members `ms` write the members `full`, each once, in any order and
among others; those whose names are `optional` need not be there. -/
def Spells (full : List (Text × Doc)) (optional : List Text) (ms : List (Text × Doc)) : Prop :=
  ∃ kept, kept.Sublist full ∧ (∀ m ∈ full, m ∈ kept ∨ m.1 ∈ optional)
    ∧ (ms.filter fun m => m.1 ∈ full.map (·.1)).Perm kept

namespace Spells

variable {full ms : List (Text × Doc)} {optional : List Text}

theorem of_skips (h : Skips optional full ms) : Spells full optional ms := by
  refine ⟨ms, h.sublist, h.all, ?_⟩
  rw [List.filter_eq_self.mpr]
  intro m hm
  simpa using ⟨m.2, h.sublist.subset hm⟩

/-- The values of a name are those of the members kept. -/
theorem valuesOf_perm {kept : List (Text × Doc)} {name : Text}
    (hperm : (ms.filter fun m => m.1 ∈ full.map (·.1)).Perm kept)
    (hname : name ∈ full.map (·.1)) :
    (Doc.valuesOf name ms).Perm (Doc.valuesOf name kept) := by
  have hfilter : ms.filter (·.1 = name)
      = (ms.filter fun m => m.1 ∈ full.map (·.1)).filter (·.1 = name) := by
    rw [List.filter_filter]
    apply List.filter_congr
    intro m _
    by_cases h : m.1 = name <;> simp [h, hname]
  unfold Doc.valuesOf
  rw [hfilter]
  exact (hperm.filter _).map _

/-- The one member of a name. -/
theorem filter_name {name : Text} {d : Doc} (hnodup : (full.map (·.1)).Nodup)
    (hmem : (name, d) ∈ full) : full.filter (·.1 = name) = [(name, d)] := by
  obtain ⟨front, rest, rfl⟩ := List.append_of_mem hmem
  rw [List.map_append, List.map_cons, List.nodup_middle, List.nodup_cons, List.mem_append,
    not_or] at hnodup
  have hother : ∀ l : List (Text × Doc), name ∉ l.map (·.1) → l.filter (·.1 = name) = [] := by
    intro l hl
    rw [List.filter_eq_nil_iff]
    intro m hm hm1
    exact hl (List.mem_map.mpr ⟨m, hm, by simpa using hm1⟩)
  rw [List.filter_append, List.filter_cons_of_pos (by simp), hother front hnodup.1.1,
    hother rest hnodup.1.2, List.nil_append]

/-- A field that is spelled is read. -/
theorem get_eq {α : Type} {f : Slot α} {d : Doc} {a : α} {i : Nat}
    (h : Spells full optional ms) (hnodup : (full.map (·.1)).Nodup)
    (hfield : full[i]? = some (f.name, d)) (hread : f.read d = some a)
    (hopt : f.name ∈ optional → f.absent = some a) : f.get i (.object ms) = some a := by
  obtain ⟨kept, hsub, hall, hperm⟩ := h
  have hmem := List.mem_of_getElem? hfield
  have hvalues := valuesOf_perm hperm (List.mem_map.mpr ⟨_, hmem, rfl⟩)
  have hkept := hsub.filter (·.1 = f.name)
  rw [filter_name hnodup hmem, List.sublist_singleton] at hkept
  unfold Slot.get
  rcases hkept with hnone | hone
  · -- The member was left out.
    rw [Doc.valuesOf.eq_def f.name kept, hnone, List.map_nil, List.perm_nil] at hvalues
    rcases hall _ hmem with hin | hin
    · rw [List.filter_eq_nil_iff] at hnone
      exact absurd (by simp) (hnone _ hin)
    · simp only [hvalues, hopt hin]
  · rw [Doc.valuesOf.eq_def f.name kept, hone, List.map_singleton,
      List.perm_singleton] at hvalues
    simp only [hvalues, hread]

end Spells

/-- The name of a field that may be left out when the condition holds. -/
def skippable (c : Prop) [Decidable c] (name : Text) : List Text := if c then [name] else []

@[simp] theorem mem_skippable {c : Prop} [Decidable c] {name name' : Text} :
    name' ∈ skippable c name ↔ c ∧ name' = name := by
  unfold skippable
  split <;> simp [*]

end Lib
