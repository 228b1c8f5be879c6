/-
Substituting in a response that is not JSON.

`substituteInJson` replaces strings all at once. The text path replaces one
key after another, the longer ones first and keys of one length in the order
the hash map yields them, each in what the ones before left. On ASCII text
with identifiers for keys every step replaces words (`replaceWords`), so
that what the words become is all there is to compare
(`applySubstitutions_eq_iff`), and the two are the same in every order
exactly when no value holds another key that is still to come, unless that
one comes back to itself (`text_simultaneous_iff`).
-/
import GostlyProxy.Lib.Chains
import GostlyProxy.Proofs.WordBoundary

namespace GostlyProxy

open Lib

-- ======================================================== ASCII and words

theorem mem_render {into : Text} {text : Text} {pat : Text} {ok : Bool}
    {marks : List (Option Char)} (h : Scan isIdChar pat ok text marks) {c : Char}
    (hc : c ∈ render into marks) : c ∈ into ∨ c ∈ text := by
  obtain ⟨m, hm, hc⟩ := List.mem_flatMap.mp hc
  cases m with
  | none => exact Or.inl hc
  | some d =>
      rw [Option.elim_some, List.mem_singleton] at hc
      exact Or.inr (h.mem_of_some_mem (hc ▸ hm))

/-- In ASCII text an identifier is replaced word by word. -/
theorem replaceAtWordBoundary_word {text k : Text} (hne : k ≠ [])
    (hk : ∀ c ∈ k, isIdChar c = true) (htext : ∀ c ∈ text, c.toNat < 128) (into : Text) :
    replaceAtWordBoundary text k into = substWords isIdChar (replaceWord k into) text
      ∧ ((∀ c ∈ into, c.toNat < 128) →
        ∀ c ∈ replaceAtWordBoundary text k into, c.toNat < 128) := by
  obtain ⟨marks, hscan, hrender⟩ := scan_word hk hne text
  have hexact : replaceAtWordBoundary text k into = render into marks := by
    rw [replaceAtWordBoundary_eq hne into hscan]
    cases hc : Text.contains text k with
    | false => exact (render_of_not_contains hne hscan hc).symm
    | true =>
        rw [if_pos rfl, renderWith_mangled_iff]
        exact fun c hc => htext c (hscan.mem_of_some_mem hc)
  refine ⟨hexact.trans (hrender into), fun hinto c hc => ?_⟩
  rw [hexact] at hc
  rcases mem_render hscan hc with hc | hc
  · exact hinto c hc
  · exact htext c hc

/-- In ASCII text a replacement as long as the pattern keeps the length. -/
theorem length_replaceAtWordBoundary {text pat into : Text} (htext : ∀ c ∈ text, c.toNat < 128)
    (hinto : ∀ c ∈ into, c.toNat < 128) (hlen : into.length = pat.length) :
    (replaceAtWordBoundary text pat into).length = text.length
      ∧ ∀ c ∈ replaceAtWordBoundary text pat into, c.toNat < 128 := by
  by_cases hpat : pat = []
  · subst hpat
    exact ⟨rfl, htext⟩
  obtain ⟨marks, hscan⟩ : ∃ marks, Scan isIdChar pat true text marks :=
    exists_scan hpat true text
  rw [replaceAtWordBoundary_eq hpat into hscan]
  cases hc : Text.contains text pat with
  | false => exact ⟨rfl, htext⟩
  | true =>
      rw [if_pos rfl, (renderWith_mangled_iff into marks).mpr fun c hc =>
        htext c (hscan.mem_of_some_mem hc)]
      refine ⟨?_, fun c hc => ?_⟩
      · rw [length_render_congr hlen, hscan.render_pat]
      · rcases mem_render hscan hc with hc | hc
        · exact hinto c hc
        · exact htext c hc

/-- A word takes a byte for each of its characters. -/
theorem utf8Len_word {k : Text} (h : ∀ c ∈ k, isIdChar c = true) :
    Text.utf8Len k = k.length := by
  induction k with
  | nil => rfl
  | cons c k ih =>
      rw [List.forall_mem_cons] at h
      have hsize : c.utf8Size = 1 := Char.utf8Size_eq_one_iff.mpr (by
        have hascii := isIdChar_ascii h.1
        rw [Char.toNat] at hascii
        show c.val.toNat ≤ 127
        omega)
      rw [Text.utf8Len_cons, ih h.2, hsize, List.length_cons, Nat.add_comm]

/-- A map from identifiers to ASCII texts. -/
structure WordMap (subs : HashMap Text Text) : Prop where
  key_ne_nil : ∀ k v, subs.lookup k = some v → k ≠ []
  key : ∀ k v, subs.lookup k = some v → ∀ c ∈ k, isIdChar c = true
  value : ∀ k v, subs.lookup k = some v → ∀ c ∈ v, c.toNat < 128

theorem wordMap_collect {pairs : List (Text × Text)}
    (h : ∀ p ∈ pairs, p.1 ≠ [] ∧ (∀ c ∈ p.1, isIdChar c = true) ∧ ∀ c ∈ p.2, c.toNat < 128) :
    WordMap (HashMap.collect pairs) where
  key_ne_nil := fun k v hlook => (h (k, v) (HashMap.mem_of_lookup_collect hlook)).1
  key := fun k v hlook => (h (k, v) (HashMap.mem_of_lookup_collect hlook)).2.1
  value := fun k v hlook => (h (k, v) (HashMap.mem_of_lookup_collect hlook)).2.2

/-- The pairs in the order in which the text path applies them. -/
def applyOrder (rs : RandomState) (subs : HashMap Text Text) : List (Text × Text) :=
  ((rs.iter subs).insertionSort fun a b => Text.utf8Len b.1 ≤ Text.utf8Len a.1).map
    fun e => (e.1, e.2)

/-- Longer keys first, and those of a kind last among the keys of a length. -/
def KindLast (P : Text → Prop) (a b : HashMap.Entry Text Text) : Prop :=
  b.1.length < a.1.length ∨ b.1.length = a.1.length ∧ (P a.1 → P b.1)

theorem KindLast.total (P : Text → Prop) (a b : HashMap.Entry Text Text) :
    KindLast P a b ∨ KindLast P b a := by
  rcases Nat.lt_trichotomy a.1.length b.1.length with hlt | heq | hlt
  · exact Or.inr (Or.inl hlt)
  · by_cases hb : P b.1
    · exact Or.inl (Or.inr ⟨heq.symm, fun _ => hb⟩)
    · exact Or.inr (Or.inr ⟨heq, fun h => absurd h hb⟩)
  · exact Or.inl (Or.inl hlt)

theorem KindLast.trans {P : Text → Prop} {a b c : HashMap.Entry Text Text}
    (hab : KindLast P a b) (hbc : KindLast P b c) : KindLast P a c := by
  rcases hab with hab | ⟨hab, hPab⟩
  · rcases hbc with hbc | ⟨hbc, -⟩
    · exact Or.inl (hbc.trans hab)
    · exact Or.inl (hbc ▸ hab)
  · rcases hbc with hbc | ⟨hbc, hPbc⟩
    · exact Or.inl (hab ▸ hbc)
    · exact Or.inr ⟨hbc.trans hab, fun h => hPbc (hPab h)⟩

/-- Every run that is a key replaced by its value, all at once. -/
def simultaneous (subs : HashMap Text Text) (body : Text) : Text :=
  (runs isIdChar body).flatMap fun run => (subs.lookup run).getD run

section TextSwap

variable {env : Externals} (rs : RandomState) {subs : HashMap Text Text} {body : Text}

/-- The text path replaces one pair after another. -/
theorem applySubstitutions_text (hjson : env.parseJson body = none) :
    applySubstitutionsToJson env rs body subs
      = (applyOrder rs subs).foldl (fun t p => replaceAtWordBoundary t p.1 p.2) body := by
  unfold applySubstitutionsToJson applyOrder
  rw [List.foldl_map, hjson]
  by_cases hsize : subs.size = 0
  · rw [if_pos hsize, HashMap.size_eq_zero.mp hsize, rs.iter_empty]
    rfl
  · rw [if_neg hsize]

theorem mem_applyOrder {k v : Text} : (k, v) ∈ applyOrder rs subs ↔ subs.lookup k = some v := by
  unfold applyOrder
  rw [List.mem_map]
  constructor
  · rintro ⟨e, he, heq⟩
    cases heq
    exact rs.mem_iter.mp ((List.mem_insertionSort _).mp he)
  · intro h
    exact ⟨⟨k, v⟩, (List.mem_insertionSort _).mpr (rs.mem_iter.mpr h), rfl⟩

theorem foldl_replace {pairs : List (Text × Text)}
    (hpairs : ∀ p ∈ pairs, p.1 ≠ [] ∧ (∀ c ∈ p.1, isIdChar c = true) ∧ ∀ c ∈ p.2, c.toNat < 128)
    {text : Text} (htext : ∀ c ∈ text, c.toNat < 128) :
    pairs.foldl (fun t p => replaceAtWordBoundary t p.1 p.2) text
      = replaceWords isIdChar pairs text := by
  induction pairs generalizing text with
  | nil => rfl
  | cons p pairs ih =>
      rw [List.forall_mem_cons] at hpairs
      obtain ⟨⟨hne, hkey, hvalue⟩, hrest⟩ := hpairs
      obtain ⟨hword, hascii⟩ := replaceAtWordBoundary_word hne hkey htext p.2
      rw [List.foldl_cons, ih hrest (hascii hvalue), hword]
      rfl

variable (hmap : WordMap subs)
include hmap

theorem longestFirst_applyOrder :
    LongestFirst isIdChar (fun k => subs.lookup k) (applyOrder rs subs) where
  mem_iff := fun _ _ => mem_applyOrder rs
  nodup := by
    have hperm := List.perm_insertionSort
      (fun a b : HashMap.Entry Text Text => Text.utf8Len b.1 ≤ Text.utf8Len a.1) (rs.iter subs)
    have hkeys : (applyOrder rs subs).map (·.1)
        = ((rs.iter subs).insertionSort fun a b => Text.utf8Len b.1 ≤ Text.utf8Len a.1).keys := by
      unfold applyOrder
      rw [List.map_map]
      rfl
    rw [hkeys]
    exact (List.perm_nodupKeys hperm).mpr (rs.nodupKeys_iter subs)
  sorted := by
    have htotal : Std.Total fun a b : HashMap.Entry Text Text =>
        Text.utf8Len b.1 ≤ Text.utf8Len a.1 := ⟨fun a b => Nat.le_total ..⟩
    have htrans : IsTrans (HashMap.Entry Text Text) fun a b =>
        Text.utf8Len b.1 ≤ Text.utf8Len a.1 := ⟨fun a b c hab hbc => hbc.trans hab⟩
    have hsorted := List.pairwise_insertionSort
      (fun a b : HashMap.Entry Text Text => Text.utf8Len b.1 ≤ Text.utf8Len a.1) (rs.iter subs)
    unfold applyOrder
    rw [List.pairwise_map]
    refine hsorted.imp_of_mem fun {a b} ha hb hle => ?_
    have hword : ∀ e : HashMap.Entry Text Text, e ∈ (rs.iter subs).insertionSort
        (fun a b => Text.utf8Len b.1 ≤ Text.utf8Len a.1) → Text.utf8Len e.1 = e.1.length := by
      intro e he
      apply utf8Len_word
      exact hmap.key e.1 e.2 (rs.mem_iter.mp ((List.mem_insertionSort _).mp he))
    rw [hword a ha, hword b hb] at hle
    exact hle
  word := hmap.key

theorem simultaneous_eq (body : Text) :
    simultaneous subs body = substWords isIdChar (fun w => (subs.lookup w).getD w) body := by
  apply flatMap_runs (g := fun w => (subs.lookup w).getD w)
  · show (subs.lookup []).getD [] = []
    cases h : subs.lookup [] with
    | none => rfl
    | some v => exact absurd rfl (hmap.key_ne_nil [] v h)
  · intro s hs
    show (subs.lookup s).getD s = s
    cases h : subs.lookup s with
    | none => rfl
    | some v =>
        obtain ⟨c, hc⟩ := List.exists_mem_of_ne_nil s (hmap.key_ne_nil s v h)
        have hid := hmap.key s v h c hc
        rw [hs c hc] at hid
        cases hid

/-- A key is a word of the text when it is one of its runs. -/
theorem WordMap.mem_runs {k : Text} (h : (subs.lookup k).isSome) {text : Text} :
    k ∈ runs isIdChar text ↔ k ∈ words isIdChar text := by
  obtain ⟨v, hv⟩ := Option.isSome_iff_exists.mp h
  exact mem_runs_iff (hmap.key_ne_nil k v hv) (hmap.key k v hv)

theorem word_of_mem_applyOrder {p : Text × Text} (hp : p ∈ applyOrder rs subs) :
    p.1 ≠ [] ∧ (∀ c ∈ p.1, isIdChar c = true) ∧ ∀ c ∈ p.2, c.toNat < 128 := by
  have hlook := (mem_applyOrder rs).mp hp
  exact ⟨hmap.key_ne_nil _ _ hlook, hmap.key _ _ hlook, hmap.value _ _ hlook⟩

omit hmap in
/-- The pairs leave a word that is no key. -/
theorem replaceWords_of_none {w : Text} (hw : ∀ c ∈ w, isIdChar c = true)
    (hlook : subs.lookup w = none) : replaceWords isIdChar (applyOrder rs subs) w = w := by
  refine replaceWords_not_key hw fun hmem => ?_
  obtain ⟨⟨w', v⟩, hp, rfl⟩ := List.mem_map.mp hmem
  rw [(mem_applyOrder rs).mp hp] at hlook
  cases hlook

/-- Of a key they make what stands behind it makes of its value. -/
theorem replaceWords_of_split {w v : Text} {front rest : List (Text × Text)}
    (hsplit : applyOrder rs subs = front ++ (w, v) :: rest) :
    subs.lookup w = some v
      ∧ replaceWords isIdChar (applyOrder rs subs) w = replaceWords isIdChar rest v := by
  have hlook : subs.lookup w = some v := (mem_applyOrder rs).mp (by simp [hsplit])
  have hfirst := longestFirst_applyOrder rs hmap
  rw [hsplit] at hfirst ⊢
  exact ⟨hlook, replaceWords_key (hmap.key w v hlook) hfirst.not_mem.1⟩

/-- Substituting one after another yields no fewer separators on a word than
substituting once. -/
theorem separators_getD_le {w : Text} :
    separators isIdChar ((subs.lookup w).getD w)
      ≤ separators isIdChar (replaceWords isIdChar (applyOrder rs subs) w) := by
  cases hlook : subs.lookup w with
  | none => exact separators_replaceWords _ w
  | some v =>
      obtain ⟨front, rest, hsplit⟩ := List.append_of_mem ((mem_applyOrder rs).mpr hlook)
      rw [(replaceWords_of_split rs hmap hsplit).2]
      exact separators_replaceWords rest v

/-- All at once, in one order: when what stands behind a key leaves its value
alone. -/
theorem applySubstitutions_eq_iff (hbody : ∀ c ∈ body, c.toNat < 128)
    (hjson : env.parseJson body = none) :
    applySubstitutionsToJson env rs body subs = simultaneous subs body
      ↔ ∀ w ∈ runs isIdChar body, ∀ v front rest,
        applyOrder rs subs = front ++ (w, v) :: rest → replaceWords isIdChar rest v = v := by
  have hpairs : ∀ p ∈ applyOrder rs subs,
      p.1 ≠ [] ∧ (∀ c ∈ p.1, isIdChar c = true) ∧ ∀ c ∈ p.2, c.toNat < 128 :=
    fun p hp => word_of_mem_applyOrder rs hmap hp
  rw [applySubstitutions_text rs hjson, foldl_replace hpairs hbody, simultaneous_eq hmap,
    replaceWords_eq, subst_eq_iff fun w _ => separators_getD_le rs hmap]
  constructor
  · intro h w hw v front rest hsplit
    obtain ⟨hlook, hresult⟩ := replaceWords_of_split rs hmap hsplit
    have heq := h w ((hmap.mem_runs (by rw [hlook]; rfl)).mp hw)
    rw [hresult, hlook] at heq
    exact heq
  · intro h w hw
    cases hlook : subs.lookup w with
    | none => exact replaceWords_of_none rs (isId_of_mem_words hw) hlook
    | some v =>
        obtain ⟨front, rest, hsplit⟩ := List.append_of_mem ((mem_applyOrder rs).mpr hlook)
        have hmem := (hmap.mem_runs (by rw [hlook]; rfl)).mpr hw
        rw [(replaceWords_of_split rs hmap hsplit).2]
        exact h w hmem v front rest hsplit

/-- In some iteration order the keys of a kind are the last of their length. -/
theorem exists_applyOrder (P : Text → Prop) :
    ∃ rs, (applyOrder rs subs).Pairwise fun p q =>
      p.1.length = q.1.length → P p.1 → P q.1 := by
  classical
  have htotal : Std.Total (KindLast P) := ⟨KindLast.total P⟩
  have htrans : IsTrans (HashMap.Entry Text Text) (KindLast P) := ⟨fun _ _ _ => KindLast.trans⟩
  have hsorted := List.pairwise_insertionSort (KindLast P) ((default : RandomState).iter subs)
  have hperm := List.perm_insertionSort (KindLast P) ((default : RandomState).iter subs)
  obtain ⟨rs, hrs⟩ := RandomState.exists_iter_eq
    ((Multiset.coe_eq_coe.mpr hperm).trans (RandomState.coe_iter default subs))
  rw [← hrs] at hsorted
  -- The sort of the text path finds these entries sorted.
  have hlongest : (rs.iter subs).Pairwise fun a b => Text.utf8Len b.1 ≤ Text.utf8Len a.1 := by
    refine hsorted.imp_of_mem fun {a b} ha hb hab => ?_
    rw [utf8Len_word (hmap.key _ _ (rs.mem_iter.mp ha)),
      utf8Len_word (hmap.key _ _ (rs.mem_iter.mp hb))]
    rcases hab with hlt | ⟨heq, -⟩
    · exact hlt.le
    · exact heq.le
  refine ⟨rs, ?_⟩
  unfold applyOrder
  rw [hlongest.insertionSort_eq, List.pairwise_map]
  refine hsorted.imp fun {a b} hab heq hP => ?_
  rcases hab with hlt | ⟨-, hPab⟩
  · dsimp only at heq
    omega
  · exact hPab hP

/-- When the substitution is simultaneous in every order, a key in a value
that can still be replaced comes back to itself. -/
theorem returnsTo_of_simultaneous (hbody : ∀ c ∈ body, c.toNat < 128)
    (hjson : env.parseJson body = none)
    (h : ∀ rs, applySubstitutionsToJson env rs body subs = simultaneous subs body)
    {w v x : Text} (hw : w ∈ runs isIdChar body) (hv : subs.lookup w = some v)
    (hx : x ∈ runs isIdChar v) (hne : x ≠ w) (hkey : (subs.lookup x).isSome)
    (hle : x.length ≤ w.length) : ReturnsTo (fun k => subs.lookup k) x x := by
  obtain ⟨rs, hlast⟩ := exists_applyOrder hmap (Reaches (fun k => subs.lookup k) x)
  have hfirst := longestFirst_applyOrder rs hmap
  obtain ⟨front, rest, hsplit⟩ := List.append_of_mem ((mem_applyOrder rs).mpr hv)
  have hresult := (applySubstitutions_eq_iff rs hmap hbody hjson).mp (h rs) w hw v front rest
    hsplit
  rw [hsplit] at hlast hfirst
  exact hfirst.returnsTo_of_value hlast hresult ((hmap.mem_runs hkey).mp hx) hne hkey hle

end TextSwap

-- =========================================================== the results

/-- The substitution in ASCII text is simultaneous, whatever the iteration
order, exactly when no value put in for a run of the body holds another key
that is not longer than the run, but for those that come back to themselves
through ever shorter keys. -/
theorem text_simultaneous_iff (env : Externals) (subs : HashMap Text Text) (hmap : WordMap subs)
    (body : Text) (hbody : ∀ c ∈ body, c.toNat < 128) (hjson : env.parseJson body = none) :
    (∀ rs, applySubstitutionsToJson env rs body subs = simultaneous subs body)
      ↔ ∀ w ∈ runs isIdChar body, ∀ v, subs.lookup w = some v →
        ∀ x ∈ runs isIdChar v, x ≠ w → (subs.lookup x).isSome → x.length ≤ w.length →
        ReturnsTo (fun k => subs.lookup k) x x := by
  constructor
  · intro h w hw v hv x hx hne hkey hle
    exact returnsTo_of_simultaneous hmap hbody hjson h hw hv hx hne hkey hle
  · intro h rs
    rw [applySubstitutions_eq_iff rs hmap hbody hjson]
    intro w hw v front rest hsplit
    have hfirst := longestFirst_applyOrder rs hmap
    have hv : subs.lookup w = some v := (mem_applyOrder rs).mp (by simp [hsplit])
    rw [hsplit] at hfirst
    apply hfirst.replaceWords_value
    intro x hx hne hkey hle
    exact h w hw v hv x ((hmap.mem_runs hkey).mpr hx) hne hkey hle

/-- What is asked of a user 7 and an order 9, recorded as 12 and 34. -/
def pairSubs : HashMap Text Text := HashMap.collect [("12", "7"), ("34", "9")]

/-- Two numbers of one length, side by side: both are replaced, whichever
the map yields first. -/
theorem text_simultaneous_user :
    simultaneous pairSubs "user 12 34" = ("user 7 9" : Text)
      ∧ ∀ rs, applySubstitutionsToJson default rs "user 12 34" pairSubs
        = ("user 7 9" : Text) := by
  have hmap : WordMap pairSubs := wordMap_collect (by decide)
  have hresult : simultaneous pairSubs "user 12 34" = ("user 7 9" : Text) := by decide
  refine ⟨hresult, fun rs => ?_⟩
  rw [← hresult]
  refine (text_simultaneous_iff default _ hmap "user 12 34" (by decide) rfl).mpr ?_ rs
  intro w _ v hv x hx _ hkey _
  -- Neither value has a key among its runs.
  have hpair := HashMap.mem_of_lookup_collect hv
  have hnone : ∀ p ∈ [(("12" : Text), ("7" : Text)), (("34" : Text), ("9" : Text))],
      ∀ x ∈ runs isIdChar p.2, pairSubs.lookup x = none := by decide
  rw [hnone _ hpair x hx] at hkey
  cases hkey

/-- What is asked of a user 7 and an order 9, recorded as 12 and 7. -/
def numberSubs : HashMap Text Text := HashMap.collect [("12", "7"), ("7", "9")]

/-- The number put in for the user is replaced as the order's. -/
theorem number_replaced_twice :
    WordMap numberSubs
      ∧ simultaneous numberSubs "user 12 order 7" = ("user 7 order 9" : Text)
      ∧ ¬ ∀ rs, applySubstitutionsToJson default rs "user 12 order 7" numberSubs
        = simultaneous numberSubs "user 12 order 7" := by
  have hmap : WordMap numberSubs := wordMap_collect (by decide)
  have hseven : numberSubs.lookup ("7" : Text) = some ("9" : Text) := by decide
  refine ⟨hmap, by decide, fun h => ?_⟩
  have hback := returnsTo_of_simultaneous hmap (w := "12") (v := "7") (x := "7") (by decide) rfl
    h (by decide) (by decide) (by decide) (by decide) (by decide) (by decide)
  cases hback with
  | done hx =>
      rw [hseven, Option.some.injEq] at hx
      exact absurd hx (by decide)
  | next hy hlt _ =>
      rw [hseven, Option.some.injEq] at hy
      subst hy
      exact absurd hlt (by decide)

end GostlyProxy
