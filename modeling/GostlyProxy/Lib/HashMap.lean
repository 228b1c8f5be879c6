/-
Hash maps without their order, and the order an iteration meets them in.

A Rust `HashMap` is a finite map: Mathlib's `Finmap`, extensional and
with the lookup, insert and erase laws ready. What a program can see
beyond that is the order in which one traversal visits the entries, and
that order is fixed by nothing but the hasher's random keys and the
table's history. `RandomState` is one such choice: any enumeration of any
map. A program that iterates takes a `RandomState`, and a law that must
hold for every iteration order quantifies over it.

The two laws a lookup by scanning rests on are `findSome?_values` and
`flatMap_values`: a scan that can only hit under one key is the lookup of
that key, in every order.
-/
import Mathlib.Data.Finmap
import Mathlib.Algebra.BigOperators.Group.Multiset.Basic
import Mathlib.Algebra.GroupWithZero.Nat

namespace Lib

/-- A hash map: a finite map, with no order of its own. -/
abbrev HashMap (κ ν : Type) := Finmap fun _ : κ => ν

/-- One entry of a hash map, as an iteration yields it. -/
abbrev HashMap.Entry (κ ν : Type) := Σ _ : κ, ν

namespace HashMap

variable {κ ν : Type}

/-- `HashMap::len`. -/
def size (m : HashMap κ ν) : Nat := m.entries.card

@[simp] theorem size_empty : size (∅ : HashMap κ ν) = 0 := rfl

-- ====================================================== mapping values

/-- Rebuild the map with every value replaced under its key
(`iter().map(..).collect()` with the keys kept). -/
def mapValues {ν' : Type} (f : κ → ν → ν') (m : HashMap κ ν) : HashMap κ ν' where
  entries := m.entries.map fun e => ⟨e.1, f e.1 e.2⟩
  nodupKeys := by
    obtain ⟨l, hl⟩ := Quot.exists_rep m.entries
    have hkeys := m.nodupKeys
    rw [← hl] at hkeys ⊢
    have hfst : (Sigma.fst ∘ fun e : Entry κ ν => (⟨e.1, f e.1 e.2⟩ : Entry κ ν'))
        = Sigma.fst := rfl
    have hnodup : (l.map Sigma.fst).Nodup := hkeys
    show ((l.map fun e => (⟨e.1, f e.1 e.2⟩ : Entry κ ν')).map Sigma.fst).Nodup
    rw [List.map_map, hfst]
    exact hnodup

variable [DecidableEq κ]

@[simp] theorem lookup_mapValues {ν' : Type} (f : κ → ν → ν') (m : HashMap κ ν)
    (k : κ) : (mapValues f m).lookup k = (m.lookup k).map (f k) := by
  cases h : m.lookup k with
  | none =>
      rw [Option.map_none, Finmap.lookup_eq_none, Finmap.mem_iff]
      rintro ⟨b, hb⟩
      rw [Finmap.lookup_eq_some_iff] at hb
      obtain ⟨e, he, heq⟩ := Multiset.mem_map.mp hb
      cases heq
      rw [Finmap.lookup_eq_some_iff.mpr he] at h
      cases h
  | some v =>
      rw [Option.map_some, Finmap.lookup_eq_some_iff]
      rw [Finmap.lookup_eq_some_iff] at h
      exact Multiset.mem_map.mpr ⟨_, h, rfl⟩

-- ============================================================ inserting

theorem lookup_insert_eq_ite (m : HashMap κ ν) (k k' : κ) (v : ν) :
    (m.insert k v).lookup k' = if k' = k then some v else m.lookup k' := by
  split
  · next h => rw [h, Finmap.lookup_insert]
  · next h => exact Finmap.lookup_insert_of_ne _ h

-- =========================================================== collecting

/-- `iter.collect::<HashMap<_, _>>()`: later pairs replace earlier ones. -/
def collect (l : List (κ × ν)) : HashMap κ ν :=
  l.foldl (fun m kv => m.insert kv.1 kv.2) ∅

/-- What collecting leaves under a key: the last pair that carries it, or
what was there before. -/
theorem lookup_foldl_insert (l : List (κ × ν)) (m : HashMap κ ν) (k : κ) :
    (l.foldl (fun m kv => m.insert kv.1 kv.2) m).lookup k
      = ((l.filter (·.1 = k)).getLast?.map (·.2)).or (m.lookup k) := by
  induction l generalizing m with
  | nil => rfl
  | cons kv l ih =>
      rw [List.foldl_cons, ih]
      by_cases hk : kv.1 = k
      · subst hk
        rw [List.filter_cons_of_pos (by simp), Finmap.lookup_insert,
          List.getLast?_cons]
        cases (l.filter (·.1 = kv.1)).getLast? with
        | none => rfl
        | some x => rfl
      · rw [List.filter_cons_of_neg (by simpa using hk),
          Finmap.lookup_insert_of_ne _ (fun h => hk h.symm)]

theorem lookup_collect (l : List (κ × ν)) (k : κ) :
    (collect l).lookup k = (l.filter (·.1 = k)).getLast?.map (·.2) := by
  rw [collect, lookup_foldl_insert, Finmap.lookup_empty, Option.or_none]

/-- Values collected by a key of their own: the last one of a key stays. -/
theorem lookup_collect_by (key : ν → κ) (l : List ν) (k : κ) :
    (collect (l.map fun v => (key v, v))).lookup k
      = (l.filter fun v => key v = k).getLast? := by
  rw [lookup_collect, List.filter_map, List.getLast?_map, Option.map_map]
  exact Option.map_id'

/-- A key is in a collected map when some pair carries it. -/
theorem isSome_lookup_collect {l : List (κ × ν)} {k : κ} :
    ((collect l).lookup k).isSome ↔ k ∈ l.map (·.1) := by
  rw [lookup_collect, Option.isSome_map, List.getLast?_isSome, Ne,
    List.filter_eq_nil_iff]
  simp

theorem mem_of_lookup_collect {l : List (κ × ν)} {k : κ} {v : ν}
    (h : (collect l).lookup k = some v) : (k, v) ∈ l := by
  rw [lookup_collect, Option.map_eq_some_iff] at h
  obtain ⟨⟨k', v'⟩, hlast, rfl⟩ := h
  have hmem := List.mem_filter.mp (List.mem_of_getLast? hlast)
  have hk : k' = k := by simpa using hmem.2
  exact hk ▸ hmem.1

/-- Collecting pairs with distinct keys keeps every pair. -/
theorem lookup_collect_of_mem {l : List (κ × ν)} {k : κ} {v : ν}
    (hnd : (l.map (·.1)).Nodup) (h : (k, v) ∈ l) : (collect l).lookup k = some v := by
  have hsome : ((collect l).lookup k).isSome :=
    isSome_lookup_collect.mpr (List.mem_map.mpr ⟨_, h, rfl⟩)
  obtain ⟨v', hv'⟩ := Option.isSome_iff_exists.mp hsome
  have heq : (k, v) = (k, v') :=
    List.inj_on_of_nodup_map hnd h (mem_of_lookup_collect hv') rfl
  cases heq
  exact hv'

/-- `HashMap::extend`: the pairs are inserted in order. -/
def extend (m : HashMap κ ν) (l : List (κ × ν)) : HashMap κ ν :=
  l.foldl (fun m kv => m.insert kv.1 kv.2) m

theorem extend_append (m : HashMap κ ν) (l l' : List (κ × ν)) :
    m.extend (l ++ l') = (m.extend l).extend l' := List.foldl_append

theorem extend_empty (l : List (κ × ν)) : extend ∅ l = collect l := rfl

omit [DecidableEq κ] in
theorem size_eq_zero {m : HashMap κ ν} : size m = 0 ↔ m = ∅ := by
  rw [size, Multiset.card_eq_zero]
  constructor
  · intro h
    exact Finmap.ext (by rw [h]; rfl)
  · rintro rfl
    rfl

theorem insert_ne_empty (m : HashMap κ ν) (k : κ) (v : ν) : m.insert k v ≠ ∅ := by
  intro h
  have hlook := congrArg (Finmap.lookup k) h
  rw [Finmap.lookup_insert, Finmap.lookup_empty] at hlook
  cases hlook

/-- Writing what is there changes nothing, and nothing else does so. -/
theorem insert_eq_self_iff {m : HashMap κ ν} {k : κ} {v : ν} :
    m.insert k v = m ↔ m.lookup k = some v := by
  constructor
  · intro h
    rw [← h, Finmap.lookup_insert]
  · intro h
    apply Finmap.ext_lookup
    intro k'
    by_cases hk : k' = k
    · rw [hk, Finmap.lookup_insert, h]
    · rw [Finmap.lookup_insert_of_ne _ hk]

theorem collect_eq_empty {l : List (κ × ν)} : collect l = ∅ ↔ l = [] := by
  constructor
  · intro h
    rcases List.eq_nil_or_concat l with hl | ⟨l', kv, rfl⟩
    · exact hl
    · rw [List.concat_eq_append, collect, List.foldl_append] at h
      exact absurd h (insert_ne_empty _ _ _)
  · rintro rfl
    rfl

end HashMap

-- ================================================== the iteration order

/-- One choice of iteration order for every map: the list of a map's
entries that a traversal yields. -/
structure RandomState where
  iter : {κ ν : Type} → HashMap κ ν → List (HashMap.Entry κ ν)
  coe_iter : ∀ {κ ν : Type} (m : HashMap κ ν),
    (iter m : Multiset (HashMap.Entry κ ν)) = m.entries

/-- Some order exists: maps are quotients of their own enumerations. -/
noncomputable instance : Inhabited RandomState where
  default :=
    { iter := fun m => m.entries.toList
      coe_iter := fun m => m.entries.coe_toList }

namespace RandomState

variable (rs : RandomState) {κ ν : Type}

/-- `HashMap::values`. -/
def values (m : HashMap κ ν) : List ν := (rs.iter m).map (·.2)

/-- No key is visited twice. -/
theorem nodupKeys_iter (m : HashMap κ ν) : (rs.iter m).NodupKeys := by
  have h := m.nodupKeys
  rw [← rs.coe_iter m] at h
  exact Multiset.coe_nodupKeys.mp h

theorem length_iter (m : HashMap κ ν) : (rs.iter m).length = m.size := by
  rw [HashMap.size, ← rs.coe_iter m, Multiset.coe_card]

theorem iter_empty : rs.iter (∅ : HashMap κ ν) = [] := by
  apply List.eq_nil_of_length_eq_zero
  rw [length_iter]
  rfl

theorem iter_singleton (k : κ) (v : ν) :
    rs.iter (Finmap.singleton k v : HashMap κ ν) = [⟨k, v⟩] := by
  have h := rs.coe_iter (Finmap.singleton k v : HashMap κ ν)
  exact List.perm_singleton.mp (Multiset.coe_eq_coe.mp h)

/-- Two orders visit the same entries. -/
theorem iter_perm (rs' : RandomState) (m : HashMap κ ν) :
    (rs.iter m).Perm (rs'.iter m) :=
  Multiset.coe_eq_coe.mp (by rw [rs.coe_iter, rs'.coe_iter])

variable [DecidableEq κ]

/-- A traversal visits exactly the entries of the map. -/
@[simp] theorem mem_iter {m : HashMap κ ν} {k : κ} {v : ν} :
    (⟨k, v⟩ : HashMap.Entry κ ν) ∈ rs.iter m ↔ m.lookup k = some v := by
  rw [Finmap.lookup_eq_some_iff, ← rs.coe_iter m]
  exact Multiset.mem_coe.symm

/-- Looking a key up in the visited list is looking it up in the map. -/
theorem dlookup_iter (m : HashMap κ ν) (k : κ) :
    (rs.iter m).dlookup k = m.lookup k := by
  apply Option.ext
  intro v
  rw [← Option.mem_def, List.mem_dlookup_iff (rs.nodupKeys_iter m), rs.mem_iter]

/-- Collecting what a traversal yields gives the map back. -/
theorem collect_iter (m : HashMap κ ν) :
    HashMap.collect ((rs.iter m).map fun e => (e.1, e.2)) = m := by
  have hnd : (((rs.iter m).map fun e => (e.1, e.2)).map (·.1)).Nodup := by
    rw [List.map_map]
    exact rs.nodupKeys_iter m
  apply Finmap.ext_lookup
  intro k
  apply Option.ext
  intro v
  constructor
  · intro h
    obtain ⟨⟨k', v'⟩, hmem, heq⟩ := List.mem_map.mp (HashMap.mem_of_lookup_collect h)
    cases heq
    exact rs.mem_iter.mp hmem
  · intro h
    exact HashMap.lookup_collect_of_mem hnd
      (List.mem_map.mpr ⟨⟨k, v⟩, rs.mem_iter.mpr h, rfl⟩)

-- ============================================== entries loaded from entries

/-- Where an entry that is loaded under `k` is the one named `name k`, the
loaded map holds what the entries of those names say, whatever the
order. -/
theorem lookup_loaded_eq_some_iff {α β : Type} [DecidableEq α] {m : HashMap α β}
    {load : α → β → Option (κ × ν)} {name : κ → α}
    (hname : ∀ a b k v, m.lookup a = some b → load a b = some (k, v) → a = name k)
    {k : κ} {v : ν} :
    (HashMap.collect ((rs.iter m).filterMap fun e => load e.1 e.2)).lookup k = some v
      ↔ ∃ b, m.lookup (name k) = some b ∧ load (name k) b = some (k, v) := by
  have hfrom : ∀ v', (k, v') ∈ ((rs.iter m).filterMap fun e => load e.1 e.2) →
      ∃ b, m.lookup (name k) = some b ∧ load (name k) b = some (k, v') := by
    intro v' hmem
    obtain ⟨⟨a, b⟩, hab, hload⟩ := List.mem_filterMap.mp hmem
    obtain rfl := hname a b k v' (rs.mem_iter.mp hab) hload
    exact ⟨b, rs.mem_iter.mp hab, hload⟩
  constructor
  · exact fun h => hfrom v (HashMap.mem_of_lookup_collect h)
  · rintro ⟨b, hb, hload⟩
    have hmem : (k, v) ∈ (rs.iter m).filterMap fun e => load e.1 e.2 :=
      List.mem_filterMap.mpr ⟨⟨name k, b⟩, rs.mem_iter.mpr hb, hload⟩
    obtain ⟨v', hv'⟩ := Option.isSome_iff_exists.mp
      (HashMap.isSome_lookup_collect.mpr (List.mem_map.mpr ⟨_, hmem, rfl⟩))
    -- The entry that was collected last is the same one.
    obtain ⟨b', hb', hload'⟩ := hfrom v' (HashMap.mem_of_lookup_collect hv')
    obtain rfl : b = b' := Option.some.inj (hb.symm.trans hb')
    cases hload.symm.trans hload'
    exact hv'

-- ===================================================== scans are lookups

/-- The values of a list of entries are the one under a key, if any, between
values of other keys. -/
theorem dlookup_split (P : ν → Prop) {k : κ} {l : List (HashMap.Entry κ ν)}
    (hnd : l.NodupKeys) (hother : ∀ e ∈ l, e.1 ≠ k → P e.2) :
    (l.dlookup k = none ∧ ∀ v ∈ l.map (·.2), P v)
      ∨ ∃ v front rest, l.map (·.2) = front ++ v :: rest ∧ l.dlookup k = some v
        ∧ (∀ u ∈ front, P u) ∧ ∀ u ∈ rest, P u := by
  cases hlook : l.dlookup k with
  | none =>
      refine Or.inl ⟨rfl, List.forall_mem_map.mpr fun e he => hother e he fun hk => ?_⟩
      exact List.dlookup_eq_none.mp hlook (hk ▸ List.mem_keys_of_mem he)
  | some v =>
      obtain ⟨front, rest, rfl⟩ := List.append_of_mem (List.of_mem_dlookup hlook)
      rw [List.NodupKeys, List.keys, List.map_append, List.map_cons, List.nodup_middle,
        List.nodup_cons, List.mem_append, not_or] at hnd
      refine Or.inr ⟨v, front.map (·.2), rest.map (·.2), by simp, rfl, ?_, ?_⟩
      · refine List.forall_mem_map.mpr fun e he => hother e (by simp [he]) fun hk => ?_
        exact hnd.1.1 (List.mem_map.mpr ⟨e, he, hk⟩)
      · refine List.forall_mem_map.mpr fun e he => hother e (by simp [he]) fun hk => ?_
        exact hnd.1.2 (List.mem_map.mpr ⟨e, he, hk⟩)

/-- In a list of entries, a scan that only key `k` can answer is the
answer of `k`. -/
theorem findSome?_dlookup {β : Type*} {f : ν → Option β} {k : κ}
    {l : List (HashMap.Entry κ ν)} (hother : ∀ e ∈ l, e.1 ≠ k → f e.2 = none)
    (hnd : l.NodupKeys) : (l.map (·.2)).findSome? f = (l.dlookup k).bind f := by
  rcases dlookup_split (f · = none) hnd hother with
    ⟨hlook, hall⟩ | ⟨v, front, rest, hsplit, hlook, hf, hr⟩
  · rw [hlook, List.findSome?_eq_none_iff.mpr hall]
    rfl
  · rw [hlook, hsplit, List.findSome?_append, List.findSome?_eq_none_iff.mpr hf,
      List.findSome?_cons, List.findSome?_eq_none_iff.mpr hr, Option.none_or, Option.bind_some]
    cases f v <;> rfl

/-- In a list of entries, a concatenation that only key `k` contributes to
is the contribution of `k`. -/
theorem flatMap_dlookup {β : Type*} {f : ν → List β} {k : κ}
    {l : List (HashMap.Entry κ ν)} (hother : ∀ e ∈ l, e.1 ≠ k → f e.2 = [])
    (hnd : l.NodupKeys) : (l.map (·.2)).flatMap f = ((l.dlookup k).map f).getD [] := by
  rcases dlookup_split (f · = []) hnd hother with
    ⟨hlook, hall⟩ | ⟨v, front, rest, hsplit, hlook, hf, hr⟩
  · rw [hlook, List.flatMap_eq_nil_iff.mpr hall]
    rfl
  · rw [hlook, hsplit, List.flatMap_append, List.flatMap_eq_nil_iff.mpr hf, List.flatMap_cons,
      List.flatMap_eq_nil_iff.mpr hr, List.append_nil, List.nil_append, Option.map_some,
      Option.getD_some]

/-- A scan over the values that only key `k` can answer finds what `k`
holds, whatever the order. -/
theorem findSome?_values {β : Type*} {m : HashMap κ ν} {f : ν → Option β} {k : κ}
    (hother : ∀ k' v, m.lookup k' = some v → k' ≠ k → f v = none) :
    (rs.values m).findSome? f = (m.lookup k).bind f := by
  rw [values, findSome?_dlookup (k := k) ?_ (rs.nodupKeys_iter m), dlookup_iter]
  intro e he hk
  exact hother e.1 e.2 (rs.mem_iter.mp he) hk

/-- A concatenation over the values that only key `k` contributes to is
what `k` contributes, whatever the order. -/
theorem flatMap_values {β : Type*} {m : HashMap κ ν} {f : ν → List β} {k : κ}
    (hother : ∀ k' v, m.lookup k' = some v → k' ≠ k → f v = []) :
    (rs.values m).flatMap f = ((m.lookup k).map f).getD [] := by
  rw [values, flatMap_dlookup (k := k) ?_ (rs.nodupKeys_iter m), dlookup_iter]
  intro e he hk
  exact hother e.1 e.2 (rs.mem_iter.mp he) hk

omit [DecidableEq κ] in
/-- Any listing of a map's entries is one of its orders. -/
theorem exists_iter_eq {m : HashMap κ ν} {l : List (HashMap.Entry κ ν)}
    (h : (l : Multiset (HashMap.Entry κ ν)) = m.entries) :
    ∃ rs : RandomState, rs.iter m = l := by
  classical
  -- A listing of a map, and this one of this map.
  have hlist : ∀ {κ' ν' : Type} (m' : HashMap κ' ν'), ∃ l' : List (HashMap.Entry κ' ν'),
      (l' : Multiset (HashMap.Entry κ' ν')) = m'.entries
        ∧ ((⟨κ', ν', m'⟩ : Σ (κ : Type) (ν : Type), HashMap κ ν) = ⟨κ, ν, m⟩ → HEq l' l) := by
    intro κ' ν' m'
    by_cases heq : (⟨κ', ν', m'⟩ : Σ (κ : Type) (ν : Type), HashMap κ ν) = ⟨κ, ν, m⟩
    · cases heq
      exact ⟨l, h, fun _ => HEq.rfl⟩
    · exact ⟨m'.entries.toList, m'.entries.coe_toList, fun h' => absurd h' heq⟩
  refine ⟨⟨fun m' => (hlist m').choose, fun m' => (hlist m').choose_spec.1⟩, ?_⟩
  exact eq_of_heq ((hlist m).choose_spec.2 rfl)

end RandomState

/-- Where no two members pass, a scan finds the same in every order. -/
theorem find?_eq_of_unique {α : Type*} {p : α → Bool} {l l' : List α}
    (hmem : ∀ x, x ∈ l ↔ x ∈ l')
    (hunique : ∀ x ∈ l, ∀ y ∈ l, p x = true → p y = true → x = y) :
    l.find? p = l'.find? p := by
  cases hfind : l.find? p with
  | none =>
      rw [List.find?_eq_none] at hfind
      exact (List.find?_eq_none.mpr fun x hx => hfind x ((hmem x).mpr hx)).symm
  | some x =>
      have hx := List.mem_of_find?_eq_some hfind
      have hpx := List.find?_some hfind
      cases hfind' : l'.find? p with
      | none => exact absurd hpx (List.find?_eq_none.mp hfind' x ((hmem x).mp hx))
      | some y =>
          have hy := (hmem y).mpr (List.mem_of_find?_eq_some hfind')
          rw [hunique x hx y hy hpx (List.find?_some hfind')]

/-- A list of pairs that is sorted by key is given by what it holds under
each key. -/
theorem eq_of_filter_key {κ ν : Type*} [LinearOrder κ] [DecidableEq κ] {l l' : List (κ × ν)}
    (hl : l.Pairwise fun p q => p.1 ≤ q.1) (hl' : l'.Pairwise fun p q => p.1 ≤ q.1)
    (h : ∀ k, l.filter (fun p => p.1 = k) = l'.filter fun p => p.1 = k) : l = l' := by
  induction l generalizing l' with
  | nil =>
      cases l' with
      | nil => rfl
      | cons q l' => simpa using h q.1
  | cons p l ih =>
      cases l' with
      | nil => simpa using h p.1
      | cons q l' =>
          rw [List.pairwise_cons] at hl hl'
          -- Each head has its key in the other list, so neither key is smaller.
          have hp : p ∈ (q :: l').filter fun r => r.1 = p.1 := by
            rw [← h p.1]
            simp
          have hq : q ∈ (p :: l).filter fun r => r.1 = q.1 := by
            rw [h q.1]
            simp
          have hqp : q.1 ≤ p.1 := by
            rcases List.mem_cons.mp (List.mem_filter.mp hp).1 with heq | hmem
            · exact heq ▸ le_rfl
            · exact hl'.1 p hmem
          have hpq : p.1 ≤ q.1 := by
            rcases List.mem_cons.mp (List.mem_filter.mp hq).1 with heq | hmem
            · exact heq ▸ le_rfl
            · exact hl.1 q hmem
          have hkey : p.1 = q.1 := le_antisymm hpq hqp
          have hhead := h p.1
          rw [List.filter_cons_of_pos (by simp),
            List.filter_cons_of_pos (by simp [hkey])] at hhead
          obtain ⟨hpq', -⟩ := List.cons.inj hhead
          subst hpq'
          congr 1
          apply ih hl.2 hl'.2
          intro k
          have hk := h k
          by_cases hpk : p.1 = k
          · rw [List.filter_cons_of_pos (by simp [hpk]),
              List.filter_cons_of_pos (by simp [hpk])] at hk
            exact (List.cons.inj hk).2
          · rwa [List.filter_cons_of_neg (by simp [hpk]),
              List.filter_cons_of_neg (by simp [hpk])] at hk

end Lib
