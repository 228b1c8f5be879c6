/-
What the lookup key of a request forgets.

`normalizeUri` is a canonical form: two URIs get the same key exactly when
they have the same path and every parameter the same values in the same
order (`normalizeUri_canonical`). `stripTenantParam` takes out the tenant's
parameters and nothing else, wherever they stand, and the scanner of
`resolveTenant` reads the tenant off a parameter that is taken out
(`tenantParam_stays_out`).

# Sorted by key

A list of pairs that is sorted by key is given by what it holds under each
key: that is the converse half of the canonical form, and the only place
where the order of the parameters matters.
-/
import GostlyProxy.Proofs.Keys

namespace GostlyProxy

open Lib

-- ======================================================== the normal form

theorem mem_normalizeUri {uri : Text} : '?' ∈ normalizeUri uri ↔ '?' ∈ uri := by
  unfold normalizeUri
  cases hcut : Text.cut '?' uri with
  | none => exact Iff.rfl
  | some p => simp [(Text.eq_of_cut hcut).1]

theorem normalizeUri_of_not_mem {uri : Text} (h : '?' ∉ uri) : normalizeUri uri = uri := by
  unfold normalizeUri
  rw [Text.cut_eq_none.mpr h]

/-- Parameters that agree under each key are sorted into the same list. -/
theorem sortedParams_congr {query query' : Text}
    (h : ∀ key, ((Text.split '&' query).map splitParam).filter (fun p => p.1 = key)
      = ((Text.split '&' query').map splitParam).filter fun p => p.1 = key) :
    sortedParams query = sortedParams query' := by
  apply eq_of_filter_key (pairwise_sortedParams query) (pairwise_sortedParams query')
  intro key
  rw [filter_sortedParams, filter_sortedParams, h]

/-- Under one key the parameters are known by their values. -/
theorem filter_of_queryValues {uri uri' path path' query query' : Text}
    (hcut : Text.cut '?' uri = some (path, query))
    (hcut' : Text.cut '?' uri' = some (path', query')) {key : Text}
    (h : queryValues uri key = queryValues uri' key) :
    ((Text.split '&' query).map splitParam).filter (fun p => p.1 = key)
      = ((Text.split '&' query').map splitParam).filter fun p => p.1 = key := by
  have hpairs : ∀ l : List (Text × Text),
      l.filter (fun p => p.1 = key)
        = ((l.filter fun p => p.1 = key).map (·.2)).map fun v => (key, v) := by
    intro l
    rw [List.map_map]
    refine ((List.map_congr_left fun p hp => ?_).trans (List.map_id _)).symm
    have hpk : p.1 = key := by simpa using (List.mem_filter.mp hp).2
    show (key, p.2) = p
    rw [← hpk]
  unfold queryValues at h
  rw [hcut, hcut'] at h
  dsimp only at h
  rw [hpairs, hpairs ((Text.split '&' query').map splitParam), h]

/-- What is normal already stays. -/
theorem normalizeUri_normalizeUri (u : Text) : normalizeUri (normalizeUri u) = normalizeUri u := by
  rw [normalizeUri_eq_self_iff]
  intro path query hcut
  cases hu : Text.cut '?' u with
  | none =>
      rw [normalizeUri_of_not_mem (Text.cut_eq_none.mp hu), hu] at hcut
      cases hcut
  | some p =>
      obtain ⟨path', query'⟩ := p
      unfold normalizeUri at hcut
      rw [hu] at hcut
      dsimp only at hcut
      rw [Text.cut_append _ (Text.eq_of_cut hu).2, Option.some.injEq, Prod.mk.injEq] at hcut
      rw [← hcut.2]
      exact normalQuery_normalized query'

/-- With the same path and the same values of every parameter, the normal
forms are one. -/
theorem normalizeUri_congr {u v : Text} (hu : '?' ∈ u) (hv : '?' ∈ v)
    (hpath : Text.before '?' u = Text.before '?' v)
    (hvalues : ∀ key, queryValues u key = queryValues v key) :
    normalizeUri u = normalizeUri v := by
  cases hcut : Text.cut '?' u with
  | none => exact absurd hu (Text.cut_eq_none.mp hcut)
  | some p =>
      cases hcut' : Text.cut '?' v with
      | none => exact absurd hv (Text.cut_eq_none.mp hcut')
      | some p' =>
          obtain ⟨path, query⟩ := p
          obtain ⟨path', query'⟩ := p'
          rw [Text.before_eq_of_cut hcut, Text.before_eq_of_cut hcut'] at hpath
          have hsorted : sortedParams query = sortedParams query' :=
            sortedParams_congr fun key => filter_of_queryValues hcut hcut' (hvalues key)
          unfold normalizeUri
          rw [hcut, hcut']
          dsimp only
          rw [hpath, hsorted]

/-- Normalising twice is normalising once, and two URIs have the same normal
form exactly when they are one URI without a query, or have the same path and
the same values of every parameter. -/
theorem normalizeUri_canonical (u v : Text) :
    normalizeUri (normalizeUri u) = normalizeUri u
      ∧ (normalizeUri u = normalizeUri v
        ↔ ('?' ∉ u ∧ '?' ∉ v ∧ u = v)
          ∨ ('?' ∈ u ∧ '?' ∈ v ∧ Text.before '?' u = Text.before '?' v
            ∧ ∀ key, queryValues u key = queryValues v key)) := by
  refine ⟨normalizeUri_normalizeUri u, ?_, ?_⟩
  · intro h
    have hmem : '?' ∈ u ↔ '?' ∈ v := by rw [← mem_normalizeUri, h, mem_normalizeUri]
    by_cases hu : '?' ∈ u
    · refine Or.inr ⟨hu, hmem.mp hu, ?_, fun key => ?_⟩
      · rw [← (normalizeUri_same u []).1, h, (normalizeUri_same v []).1]
      · rw [← (normalizeUri_same u key).2, h, (normalizeUri_same v key).2]
    · have hv : '?' ∉ v := fun hv => hu (hmem.mpr hv)
      rw [normalizeUri_of_not_mem hu, normalizeUri_of_not_mem hv] at h
      exact Or.inl ⟨hu, hv, h⟩
  · rintro (⟨-, -, rfl⟩ | ⟨hu, hv, hpath, hvalues⟩)
    · rfl
    · exact normalizeUri_congr hu hv hpath hvalues

-- ================================================== the tenant parameters

/-- The parameters of a URI, none without a question mark. -/
def uriParams (uri : Text) : List Text :=
  match Text.cut '?' uri with
  | none => []
  | some (_, query) => Text.split '&' query

/-- A path with parameters, without a question mark when there are none. -/
def printUri (path : Text) (params : List Text) : Text :=
  if params.isEmpty then path else path ++ '?' :: Text.join ['&'] params

/-- A parameter that sets the tenant, or names it without a value. -/
inductive TenantParam : Text → Prop
  | bare : TenantParam "_tenant"
  | value {v : Text} (hv : '&' ∉ v) : TenantParam ("_tenant=" ++ v)

/-- The second list is the first with tenant parameters put in. -/
inductive TenantInserted : List Text → List Text → Prop
  | nil : TenantInserted [] []
  | keep (p : Text) {params params' : List Text} (h : TenantInserted params params') :
      TenantInserted (p :: params) (p :: params')
  | insert {p : Text} {params params' : List Text} (hp : TenantParam p)
      (h : TenantInserted params params') : TenantInserted params (p :: params')

theorem uriParams_printUri {path : Text} {params : List Text} (hpath : '?' ∉ path)
    (hparams : ∀ p ∈ params, '&' ∉ p) : uriParams (printUri path params) = params := by
  unfold uriParams printUri
  by_cases hempty : params.isEmpty = true
  · rw [if_pos hempty, Text.cut_eq_none.mpr hpath]
    exact (List.isEmpty_iff.mp hempty).symm
  · rw [if_neg hempty, Text.cut_append _ hpath]
    exact Text.split_join hparams fun h => hempty (List.isEmpty_iff.mpr h)

theorem before_printUri {path : Text} (params : List Text) (hpath : '?' ∉ path) :
    Text.before '?' (printUri path params) = path := by
  unfold printUri
  by_cases hempty : params.isEmpty = true
  · rw [if_pos hempty, Text.before_eq_self hpath]
  · rw [if_neg hempty, Text.before_eq_of_cut (Text.cut_append _ hpath)]

theorem not_mem_before (sep : Char) (t : Text) : sep ∉ Text.before sep t := by
  intro h
  simpa using List.mem_takeWhile_imp h

/-- A URI without its tenant parameters. -/
theorem stripTenantParam_eq (uri : Text) :
    stripTenantParam uri = printUri (Text.before '?' uri)
      ((uriParams uri).filter fun kv => Text.before '=' kv ≠ "_tenant") := by
  unfold stripTenantParam uriParams printUri
  cases hcut : Text.cut '?' uri with
  | none => exact (Text.before_eq_self (Text.cut_eq_none.mp hcut)).symm
  | some p => rw [Text.before_eq_of_cut hcut]

theorem not_mem_of_mem_uriParams {uri kv : Text} (h : kv ∈ uriParams uri) : '&' ∉ kv := by
  unfold uriParams at h
  cases hcut : Text.cut '?' uri with
  | none => simp [hcut] at h
  | some p =>
      rw [hcut] at h
      exact Text.not_mem_of_mem_split h

/-- The parameters with another key are kept, in order. -/
theorem uriParams_stripTenantParam (uri : Text) :
    uriParams (stripTenantParam uri)
      = (uriParams uri).filter fun kv => Text.before '=' kv ≠ "_tenant" := by
  rw [stripTenantParam_eq, uriParams_printUri (not_mem_before '?' uri)]
  intro kv hkv
  exact not_mem_of_mem_uriParams (List.mem_filter.mp hkv).1

theorem noTenantParam_stripTenantParam (uri : Text) : NoTenantParam (stripTenantParam uri) := by
  intro path query hcut kv hkv
  have hmem : kv ∈ uriParams (stripTenantParam uri) := by
    unfold uriParams
    rw [hcut]
    exact hkv
  rw [uriParams_stripTenantParam, List.mem_filter] at hmem
  exact of_decide_eq_true hmem.2

theorem TenantParam.not_mem {p : Text} (h : TenantParam p) : '&' ∉ p := by
  cases h with
  | bare => decide
  | value hv =>
      rw [List.mem_append, not_or]
      exact ⟨by decide, hv⟩

theorem TenantParam.before_eq {p : Text} (h : TenantParam p) :
    Text.before '=' p = "_tenant" := by
  cases h with
  | bare => decide
  | @value v _ => exact Text.before_eq_of_cut (Text.cut_append (a := "_tenant") v (by decide))

/-- The tenant parameters that are put in are the ones that are taken out. -/
theorem TenantInserted.filter {params params' : List Text} (h : TenantInserted params params') :
    params'.filter (fun kv => Text.before '=' kv ≠ "_tenant")
      = params.filter fun kv => Text.before '=' kv ≠ "_tenant" := by
  induction h with
  | nil => rfl
  | keep p _ ih => rw [List.filter_cons, List.filter_cons, ih]
  | insert hp _ ih =>
      rw [List.filter_cons_of_neg ?_, ih]
      rw [decide_eq_true_iff]
      exact not_not.mpr hp.before_eq

theorem TenantInserted.not_mem {params params' : List Text} (h : TenantInserted params params')
    (hparams : ∀ p ∈ params, '&' ∉ p) : ∀ p ∈ params', '&' ∉ p := by
  induction h with
  | nil => exact hparams
  | keep p _ ih =>
      rw [List.forall_mem_cons] at hparams ⊢
      exact ⟨hparams.1, ih hparams.2⟩
  | insert hp _ ih =>
      rw [List.forall_mem_cons]
      exact ⟨hp.not_mem, ih hparams⟩

-- ================================================== reading the tenant off

/-- What `tenantParam` looks for in one parameter. -/
theorem tenantValue_eq_some {kv v : Text} :
    ((Text.cut '=' kv).bind fun (k, v) => if k = "_tenant" then some v else none) = some v
      ↔ kv = ("_tenant=" : Text) ++ v := by
  have hkey : ∀ w : Text, ("_tenant=" : Text) ++ w = ("_tenant" : Text) ++ '=' :: w :=
    fun w => rfl
  constructor
  · intro h
    obtain ⟨⟨k, w⟩, hcut, h⟩ := Option.bind_eq_some_iff.mp h
    dsimp only at h
    by_cases hk : k = "_tenant"
    · rw [if_pos hk, Option.some.injEq] at h
      rw [(Text.eq_of_cut hcut).1, hk, h, hkey]
    · rw [if_neg hk] at h
      cases h
  · rintro rfl
    rw [hkey, Text.cut_append v (by decide)]
    rfl

/-- Parameters without a tenant's among them. -/
theorem findSome?_tenantValue {params : List Text}
    (h : ∀ p ∈ params, ∀ w : Text, p ≠ "_tenant=" ++ w) :
    params.findSome? (fun kv => (Text.cut '=' kv).bind fun (k, v) =>
      if k = "_tenant" then some v else none) = none := by
  rw [List.findSome?_eq_none_iff]
  intro p hp
  rw [Option.eq_none_iff_forall_ne_some]
  intro w hw
  exact h p hp w (tenantValue_eq_some.mp hw)

/-- The tenant of a query is the value of its first parameter that has the
tenant's key and an equals sign. -/
theorem tenantParam_of_first {query v : Text} {front rest : List Text}
    (hquery : Text.split '&' query = front ++ ("_tenant=" ++ v) :: rest)
    (hfirst : ∀ p ∈ front, ∀ w : Text, p ≠ "_tenant=" ++ w) :
    tenantParam query = some v := by
  unfold tenantParam
  rw [hquery, List.findSome?_append, List.findSome?_cons, tenantValue_eq_some.mpr rfl,
    findSome?_tenantValue hfirst]
  rfl

theorem tenantParam_of_none {query : Text}
    (h : ∀ p ∈ Text.split '&' query, ∀ w : Text, p ≠ "_tenant=" ++ w) :
    tenantParam query = none := by
  unfold tenantParam
  exact findSome?_tenantValue h

/-- Tenant parameters put in anywhere leave the lookup key as it was. What is
left after taking them out has none, is left as it is, and holds all the
others in order. Without a tenant header the tenant is the first value of the
parameter, clamped, or the global one. -/
theorem tenantParam_stays_out :
    (∀ {path : Text} {params params' : List Text}, '?' ∉ path → (∀ p ∈ params, '&' ∉ p) →
        TenantInserted params params' →
        normalizeUri (stripTenantParam (printUri path params'))
          = normalizeUri (stripTenantParam (printUri path params)))
      ∧ (∀ uri : Text, stripTenantParam (stripTenantParam uri) = stripTenantParam uri
        ∧ (∀ kv ∈ uriParams (stripTenantParam uri), Text.before '=' kv ≠ "_tenant")
        ∧ uriParams (stripTenantParam uri)
          = (uriParams uri).filter fun kv => Text.before '=' kv ≠ "_tenant")
      ∧ ∀ headers : HeaderMap,
        (headers.get tenantHeader.toText).bind HeaderValue.toStr = none →
        resolveTenant headers none = some globalTenant
          ∧ ∀ query : Text,
            (∀ (front rest : List Text) (v : Text),
              Text.split '&' query = front ++ ("_tenant=" ++ v) :: rest →
              (∀ p ∈ front, ∀ w : Text, p ≠ "_tenant=" ++ w) →
              resolveTenant headers (some query) = clampTenant v)
            ∧ ((∀ p ∈ Text.split '&' query, ∀ w : Text, p ≠ "_tenant=" ++ w) →
              resolveTenant headers (some query) = some globalTenant) := by
  refine ⟨?_, ?_, ?_⟩
  · intro path params params' hpath hparams hins
    have hparams' := hins.not_mem hparams
    rw [stripTenantParam_eq, stripTenantParam_eq (printUri path params),
      before_printUri params' hpath, before_printUri params hpath,
      uriParams_printUri hpath hparams', uriParams_printUri hpath hparams, hins.filter]
  · intro uri
    refine ⟨stripTenantParam_eq_self (noTenantParam_stripTenantParam uri), ?_,
      uriParams_stripTenantParam uri⟩
    intro kv hkv
    rw [uriParams_stripTenantParam, List.mem_filter] at hkv
    exact of_decide_eq_true hkv.2
  · intro headers hheader
    unfold resolveTenant
    rw [hheader]
    refine ⟨rfl, fun query => ⟨?_, ?_⟩⟩
    · intro front rest v hquery hfirst
      rw [Option.bind_some, tenantParam_of_first hquery hfirst]
    · intro hnone
      rw [Option.bind_some, tenantParam_of_none hnone]

/-- A tenant in front of another parameter. -/
theorem tenantParam_stays_out_front :
    normalizeUri (stripTenantParam (printUri "/x" ["_tenant=t", "a=1"]))
        = normalizeUri (stripTenantParam (printUri "/x" ["a=1"]))
      ∧ resolveTenant [] (some "_tenant=t&a=1") = clampTenant "t" :=
  ⟨tenantParam_stays_out.1 (by decide) (by decide)
      (.insert (.value (v := "t") (by decide)) (.keep _ .nil)),
    ((tenantParam_stays_out.2.2 [] (by decide)).2 "_tenant=t&a=1").1 [] ["a=1"] "t"
      (by decide) (by simp)⟩

end GostlyProxy
