/-
The key a request is looked up under, and when it is the request's own
words.

`normalizeUri` rewrites the query: every parameter gets its equals sign and
the parameters are sorted by key. `NormalUri` is that form, stated on the
URI, and `normalizeUri_eq_self_iff` says that exactly these URIs are left
alone. `clampTenant` trims and cuts; `clampTenant_eq_self_iff` says which
tenants it leaves alone.
-/
import GostlyProxy.Model.Matcher
import GostlyProxy.Model.Routes
import Mathlib.Algebra.Order.BigOperators.Group.List
import Mathlib.Algebra.Order.Group.Nat

namespace GostlyProxy

open Lib

-- ================================================================ the URI

/-- Every parameter with its equals sign, sorted by key. -/
structure NormalQuery (query : Text) : Prop where
  equals : ∀ kv ∈ Text.split '&' query, '=' ∈ kv
  sorted : ((Text.split '&' query).map (Text.before '=')).Pairwise (· ≤ ·)

/-- A URI without a query, or with one in normal form. -/
def NormalUri (uri : Text) : Prop :=
  ∀ path query, Text.cut '?' uri = some (path, query) → NormalQuery query

theorem fst_splitParam (kv : Text) : (splitParam kv).1 = Text.before '=' kv := by
  unfold splitParam
  cases hcut : Text.cut '=' kv with
  | none => exact (Text.before_eq_self (Text.cut_eq_none.mp hcut)).symm
  | some p => exact (Text.before_eq_of_cut hcut).symm

theorem printParam_splitParam {kv : Text} (h : '=' ∈ kv) :
    printParam (splitParam kv) = kv := by
  cases hcut : Text.cut '=' kv with
  | none => exact absurd h (Text.cut_eq_none.mp hcut)
  | some p =>
      unfold splitParam
      rw [hcut]
      exact (Text.eq_of_cut hcut).1.symm

theorem splitParam_printParam {p : Text × Text} (h : '=' ∉ p.1) :
    splitParam (printParam p) = p := by
  unfold splitParam printParam
  rw [Text.cut_append p.2 h]
  rfl

theorem not_mem_fst_splitParam (kv : Text) : '=' ∉ (splitParam kv).1 := by
  rw [fst_splitParam, Text.before]
  intro h
  simpa using List.mem_takeWhile_imp h

theorem mem_printParam (p : Text × Text) : '=' ∈ printParam p := by
  unfold printParam
  exact List.mem_append_right _ (List.mem_cons_self ..)

/-- A parameter of a query holds no ampersand, nor does it when printed. -/
theorem not_mem_printParam {query kv : Text} (h : kv ∈ Text.split '&' query) :
    '&' ∉ printParam (splitParam kv) := by
  have hkv := Text.not_mem_of_mem_split h
  cases hcut : Text.cut '=' kv with
  | none =>
      unfold splitParam
      rw [hcut, printParam]
      simp [hkv]
  | some p =>
      rw [printParam_splitParam]
      · exact hkv
      · rw [(Text.eq_of_cut hcut).1]
        exact List.mem_append_right _ (List.mem_cons_self ..)

theorem sortedParams_ne_nil (query : Text) : sortedParams query ≠ [] := by
  intro h
  have hlen := congrArg List.length h
  unfold sortedParams at hlen
  rw [List.length_insertionSort, List.length_map, List.length_nil] at hlen
  exact Text.split_ne_nil '&' query (List.eq_nil_of_length_eq_zero hlen)

theorem mem_sortedParams {query : Text} {p : Text × Text} :
    p ∈ sortedParams query ↔ ∃ kv ∈ Text.split '&' query, splitParam kv = p := by
  unfold sortedParams
  rw [List.mem_insertionSort, List.mem_map]

/-- The keys come out in order. -/
theorem pairwise_sortedParams (query : Text) :
    (sortedParams query).Pairwise fun p q => p.1 ≤ q.1 := by
  have htotal : Std.Total fun p q : Text × Text => p.1 ≤ q.1 :=
    ⟨fun p q => le_total p.1 q.1⟩
  have htrans : IsTrans (Text × Text) fun p q => p.1 ≤ q.1 :=
    ⟨fun _ _ _ => le_trans⟩
  exact List.pairwise_insertionSort _ _

/-- Splitting a normalised query gives the sorted parameters back. -/
theorem split_normalized (query : Text) :
    Text.split '&' (Text.join ['&'] ((sortedParams query).map printParam))
      = (sortedParams query).map printParam := by
  refine Text.split_join ?_ ?_
  · intro s hs
    obtain ⟨p, hp, rfl⟩ := List.mem_map.mp hs
    obtain ⟨kv, hkv, rfl⟩ := mem_sortedParams.mp hp
    exact not_mem_printParam hkv
  · rw [Ne, List.map_eq_nil_iff]
    exact sortedParams_ne_nil query

theorem normalQuery_normalized (query : Text) :
    NormalQuery (Text.join ['&'] ((sortedParams query).map printParam)) where
  equals := by
    intro kv hkv
    rw [split_normalized] at hkv
    obtain ⟨p, -, rfl⟩ := List.mem_map.mp hkv
    exact mem_printParam p
  sorted := by
    rw [split_normalized, List.map_map, List.pairwise_map]
    refine (pairwise_sortedParams query).imp_of_mem ?_
    intro p q hp hq hle
    obtain ⟨kv, -, rfl⟩ := mem_sortedParams.mp hp
    obtain ⟨kv', -, rfl⟩ := mem_sortedParams.mp hq
    rw [Function.comp_apply, Function.comp_apply, ← fst_splitParam, ← fst_splitParam,
      splitParam_printParam (not_mem_fst_splitParam kv),
      splitParam_printParam (not_mem_fst_splitParam kv')]
    exact hle

/-- A query in normal form is put back together as it was. -/
theorem join_sortedParams {query : Text} (h : NormalQuery query) :
    Text.join ['&'] ((sortedParams query).map printParam) = query := by
  have hsorted : sortedParams query = (Text.split '&' query).map splitParam := by
    refine List.Pairwise.insertionSort_eq ?_
    have hkeys := h.sorted
    rw [List.pairwise_map] at hkeys ⊢
    refine hkeys.imp ?_
    intro kv kv' hle
    rw [fst_splitParam, fst_splitParam]
    exact hle
  have hprint : ((Text.split '&' query).map splitParam).map printParam
      = Text.split '&' query := by
    rw [List.map_map]
    calc (Text.split '&' query).map (printParam ∘ splitParam)
        = (Text.split '&' query).map id :=
          List.map_congr_left fun kv hkv => printParam_splitParam (h.equals kv hkv)
      _ = Text.split '&' query := List.map_id _
  rw [hsorted, hprint, Text.join_split]

/-- Normalising leaves exactly the normal URIs alone. -/
theorem normalizeUri_eq_self_iff (uri : Text) : normalizeUri uri = uri ↔ NormalUri uri := by
  constructor
  · intro h path query hcut
    have huri := (Text.eq_of_cut hcut).1
    unfold normalizeUri at h
    rw [hcut] at h
    dsimp only at h
    rw [huri, List.append_right_inj, List.cons_inj_right] at h
    rw [← h]
    exact normalQuery_normalized query
  · intro h
    unfold normalizeUri
    cases hcut : Text.cut '?' uri with
    | none => rfl
    | some p =>
        obtain ⟨path, query⟩ := p
        dsimp only
        rw [join_sortedParams (h path query hcut)]
        exact (Text.eq_of_cut hcut).1.symm

-- ======================================================= the same target

/-- The values of one query parameter, in order; a parameter without an
equals sign has the empty value. -/
def queryValues (pathQuery key : Text) : List Text :=
  match Text.cut '?' pathQuery with
  | none => []
  | some (_, query) =>
      (((Text.split '&' query).map splitParam).filter fun p => p.1 = key).map (·.2)

/-- Sorting by key keeps the parameters of one key as they stand. -/
theorem filter_sortedParams (query key : Text) :
    (sortedParams query).filter (fun p => p.1 = key)
      = ((Text.split '&' query).map splitParam).filter fun p => p.1 = key := by
  have hsub : (((Text.split '&' query).map splitParam).filter fun p => p.1 = key).Sublist
      (sortedParams query) := by
    apply List.sublist_insertionSort _ List.filter_sublist
    refine List.pairwise_of_forall_mem_list fun p hp q hq => ?_
    have hpk : p.1 = key := by simpa using (List.mem_filter.mp hp).2
    have hqk : q.1 = key := by simpa using (List.mem_filter.mp hq).2
    rw [hpk, hqk]
  have hkeep := hsub.filter fun p : Text × Text => decide (p.1 = key)
  rw [List.filter_filter] at hkeep
  simp only [Bool.and_self] at hkeep
  refine (hkeep.eq_of_length ?_).symm
  exact ((List.perm_insertionSort _ _).filter _).length_eq.symm

/-- Normalising keeps the path and the values of every parameter. -/
theorem normalizeUri_same (uri key : Text) :
    Text.before '?' (normalizeUri uri) = Text.before '?' uri
      ∧ queryValues (normalizeUri uri) key = queryValues uri key := by
  unfold normalizeUri
  cases hcut : Text.cut '?' uri with
  | none => exact ⟨rfl, rfl⟩
  | some p =>
      obtain ⟨path, query⟩ := p
      have hpath : '?' ∉ path := (Text.eq_of_cut hcut).2
      have hnormal := Text.cut_append
        (Text.join ['&'] ((sortedParams query).map printParam)) hpath
      dsimp only
      refine ⟨by rw [Text.before_eq_of_cut hnormal, Text.before_eq_of_cut hcut], ?_⟩
      have hparams : ((sortedParams query).map printParam).map splitParam
          = sortedParams query := by
        rw [List.map_map]
        calc (sortedParams query).map (splitParam ∘ printParam)
            = (sortedParams query).map id := by
              apply List.map_congr_left
              intro q hq
              obtain ⟨kv, -, rfl⟩ := mem_sortedParams.mp hq
              exact splitParam_printParam (not_mem_fst_splitParam kv)
          _ = sortedParams query := List.map_id _
      unfold queryValues
      rw [hnormal, hcut]
      dsimp only
      rw [split_normalized, hparams, filter_sortedParams]

/-- Taking the tenant parameter out keeps the path and the values of every
other parameter. -/
theorem stripTenantParam_same (uri : Text) {key : Text} (hkey : key ≠ "_tenant") :
    Text.before '?' (stripTenantParam uri) = Text.before '?' uri
      ∧ queryValues (stripTenantParam uri) key = queryValues uri key := by
  unfold stripTenantParam
  cases hcut : Text.cut '?' uri with
  | none => exact ⟨rfl, rfl⟩
  | some p =>
      obtain ⟨path, query⟩ := p
      have hpath : '?' ∉ path := (Text.eq_of_cut hcut).2
      -- A parameter that is taken out has another key.
      have hkept : ((((Text.split '&' query).filter fun kv => Text.before '=' kv ≠ "_tenant").map
            splitParam).filter fun p => p.1 = key)
          = ((Text.split '&' query).map splitParam).filter fun p => p.1 = key := by
        rw [List.filter_map, List.filter_map, List.filter_filter]
        congr 1
        apply List.filter_congr
        intro kv _
        rw [Function.comp_apply, fst_splitParam]
        by_cases hk : Text.before '=' kv = key
        · rw [hk, decide_eq_true hkey, Bool.and_true]
        · rw [decide_eq_false hk, Bool.false_and]
      dsimp only
      by_cases hempty : ((Text.split '&' query).filter fun kv =>
          Text.before '=' kv ≠ "_tenant").isEmpty = true
      · rw [if_pos hempty]
        refine ⟨by rw [Text.before_eq_self hpath, Text.before_eq_of_cut hcut], ?_⟩
        rw [List.isEmpty_iff] at hempty
        unfold queryValues
        rw [Text.cut_eq_none.mpr hpath, hcut]
        dsimp only
        rw [← hkept, hempty]
        rfl
      · have hjoin := Text.cut_append (Text.join ['&'] ((Text.split '&' query).filter fun kv =>
          Text.before '=' kv ≠ "_tenant")) hpath
        rw [if_neg hempty]
        refine ⟨by rw [Text.before_eq_of_cut hjoin, Text.before_eq_of_cut hcut], ?_⟩
        unfold queryValues
        rw [hjoin, hcut]
        dsimp only
        rw [Text.split_join ?_ fun h => hempty (List.isEmpty_iff.mpr h), hkept]
        intro kv hkv
        exact Text.not_mem_of_mem_split (List.mem_filter.mp hkv).1

-- ================================================== the tenant parameter

/-- No parameter of the URI's query is the tenant's. -/
def NoTenantParam (uri : Text) : Prop :=
  ∀ path query, Text.cut '?' uri = some (path, query) →
    ∀ kv ∈ Text.split '&' query, Text.before '=' kv ≠ "_tenant"

theorem stripTenantParam_eq_self {uri : Text} (h : NoTenantParam uri) :
    stripTenantParam uri = uri := by
  unfold stripTenantParam
  cases hcut : Text.cut '?' uri with
  | none => rfl
  | some p =>
      obtain ⟨path, query⟩ := p
      have hkept : ((Text.split '&' query).filter fun kv =>
          Text.before '=' kv ≠ "_tenant") = Text.split '&' query :=
        List.filter_eq_self.mpr fun kv hkv =>
          decide_eq_true (h path query hcut kv hkv)
      have hne : (Text.split '&' query).isEmpty = false := by
        rw [List.isEmpty_eq_false_iff]
        exact Text.split_ne_nil '&' query
      dsimp only
      rw [hkept, hne, Text.join_split]
      exact (Text.eq_of_cut hcut).1.symm

theorem tenantParam_eq_none {uri path query : Text} (h : NoTenantParam uri)
    (hcut : Text.cut '?' uri = some (path, query)) : tenantParam query = none := by
  unfold tenantParam
  rw [List.findSome?_eq_none_iff]
  intro kv hkv
  cases hkvcut : Text.cut '=' kv with
  | none => rfl
  | some p =>
      obtain ⟨k, v⟩ := p
      have hk := h path query hcut kv hkv
      rw [Text.before_eq_of_cut hkvcut] at hk
      rw [Option.bind_some]
      exact if_neg hk

-- ======================================================= clamping a tenant

theorem trim_sublist (t : Text) : (Text.trim t).Sublist t := by
  have hends : ((t.dropWhile Text.isWhitespace).reverse.dropWhile
      Text.isWhitespace).Sublist (t.dropWhile Text.isWhitespace).reverse :=
    (List.dropWhile_suffix _).sublist
  have hstart : (t.dropWhile Text.isWhitespace).Sublist t :=
    (List.dropWhile_suffix _).sublist
  unfold Text.trim
  exact (List.reverse_sublist.mpr hends).trans (by rwa [List.reverse_reverse])

theorem utf8Len_trim_le (t : Text) : Text.utf8Len (Text.trim t) ≤ Text.utf8Len t :=
  ((trim_sublist t).map Char.utf8Size).sum_le_sum fun _ _ => Nat.zero_le _

/-- A tenant that is kept as it is: not empty, no blanks at its ends, and
not over the limit. -/
structure KeptTenant (tenant : Text) : Prop where
  nonempty : tenant ≠ []
  trimmed : Text.trim tenant = tenant
  short : Text.utf8Len tenant ≤ maxTenantLen

theorem clampTenant_eq_self_iff {tenant : Text} (hne : tenant ≠ []) :
    clampTenant tenant = some tenant ↔ KeptTenant tenant := by
  rw [clampTenant]
  constructor
  · intro h
    by_cases hempty : (Text.trim tenant).isEmpty = true
    · rw [if_pos hempty, Option.some.injEq] at h
      rw [← h] at hempty
      exact absurd hempty (by decide)
    rw [if_neg hempty] at h
    by_cases hlong : maxTenantLen < Text.utf8Len (Text.trim tenant)
    · rw [if_pos hlong] at h
      have hlen := (Text.sliceTo_eq_some_iff.mp h).2
      have hle := utf8Len_trim_le tenant
      omega
    · rw [if_neg hlong, Option.some.injEq] at h
      exact ⟨hne, h, by rw [← h]; omega⟩
  · intro h
    have hempty : tenant.isEmpty = false := List.isEmpty_eq_false_iff.mpr hne
    rw [h.trimmed, hempty, if_neg Bool.false_ne_true, if_neg (by have := h.short; omega)]

end GostlyProxy
