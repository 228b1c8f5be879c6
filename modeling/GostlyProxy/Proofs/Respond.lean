/-
The two builders, read by header name.

`build_response` goes through a header map in hash order and appends. The
names of a recorded map are distinct and good, so what the response holds
under a name is read off the map (`getAll_buildResponse`), in every order.

`getAll_replayed` is the whole way of a header through a recording: the
upstream's list under a name, collected, redacted, stored and built again,
comes out as at most one value.
-/
import GostlyProxy.Proofs.Handler

namespace GostlyProxy

open Lib

-- ========================================================= header values

namespace HeaderValue

@[simp] theorem fromBytes_asBytes (v : HeaderValue) : fromBytes v.asBytes = some v := by
  unfold fromBytes
  exact dif_pos v.2

/-- What `to_str` gives is the value's own bytes. -/
theorem utf8_of_toStr {v : HeaderValue} {t : Text} (h : v.toStr = some t) :
    Text.utf8 t = v.asBytes := by
  unfold toStr at h
  by_cases hvis : ∀ b ∈ v.1, isVisibleByte b = true
  · rw [if_pos hvis, Option.some.injEq] at h
    subst h
    have hbytes : ∀ bs : Bytes, (∀ b ∈ bs, isVisibleByte b = true) →
        Text.utf8 (bs.map fun b => Char.ofNat b.toNat) = bs := by
      intro bs
      induction bs with
      | nil => intro _; rfl
      | cons b bs ih =>
          intro hbs
          have hb : b.toNat ≤ 0x7F := by
            have hvis := hbs b (List.mem_cons_self ..)
            simp only [isVisibleByte, Bool.or_eq_true, Bool.and_eq_true,
              decide_eq_true_eq, beq_iff_eq] at hvis
            rcases hvis with ⟨-, hlt⟩ | rfl
            · have hlt' : b.toNat < 127 := hlt
              omega
            · decide
          rw [List.map_cons, Utf8.utf8_cons, ih fun b' hb' => hbs b' (List.mem_cons_of_mem _ hb'),
            Utf8.utf8EncodeChar_eq, Utf8.toNat_ofNat (Or.inl (by omega)), if_pos hb,
            UInt8.ofNat_toNat]
          rfl
    exact hbytes v.1 hvis
  · rw [if_neg hvis] at h
    cases h

/-- The value a stored header is built from: the upstream's, or nothing
where the upstream's is not a string. -/
def kept (v : HeaderValue) : HeaderValue :=
  match v.toStr with
  | some _ => v
  | none => ⟨[], fun _ hb => absurd hb List.not_mem_nil⟩

theorem fromBytes_kept (v : HeaderValue) :
    fromBytes (Text.utf8 (v.toStr.getD [])) = some v.kept := by
  unfold kept
  cases h : v.toStr with
  | none => rfl
  | some t => rw [Option.getD_some, utf8_of_toStr h, fromBytes_asBytes]

/-- A value is kept exactly when it is a string. -/
theorem kept_eq_self_iff (v : HeaderValue) : v.kept = v ↔ v.toStr.isSome := by
  unfold kept
  cases h : v.toStr with
  | some t => exact iff_of_true rfl rfl
  | none =>
      refine iff_of_false (fun hkept => ?_) Bool.false_ne_true
      rw [← show _ = v from hkept] at h
      cases h

end HeaderValue

-- =========================================================== the builder

section Build

variable (env : Externals)

/-- The value the builder takes from a stored header. -/
def builtValue (name value : Text) : Option HeaderValue :=
  if isHopByHop (env.toLowercase name) then none
  else HeaderValue.fromBytes (Text.utf8 value)

/-- The header the builder appends for an entry of the map. -/
def builtHeader (e : HashMap.Entry Text Text) : Option (HeaderName × HeaderValue) :=
  (builtValue env e.1 e.2).bind fun value =>
    (HeaderName.fromBytes e.1).map fun name => (name, value)

/-- Every name of the map is a good one. -/
def GoodNames (headers : HashMap Text Text) : Prop :=
  ∀ k v, headers.lookup k = some v → ∃ n : HeaderName, n.toText = k

theorem builtHeader_name (n : HeaderName) (value : Text) :
    builtHeader env ⟨n.toText, value⟩
      = (builtValue env n.toText value).map fun v => (n, v) := by
  unfold builtHeader
  dsimp only
  rw [HeaderName.fromBytes_toText]
  cases builtValue env n.toText value <;> rfl

theorem addHeader_eq (acc : HeaderMap) (name : HeaderName) (value : Text) :
    addHeader env (some acc) ⟨name.toText, value⟩
      = some (acc ++ (builtHeader env ⟨name.toText, value⟩).toList) := by
  unfold addHeader
  rw [builtHeader_name, builtValue]
  by_cases hhop : isHopByHop (env.toLowercase name.toText) = true
  · simp only [if_pos hhop, Option.map_none, Option.toList_none, List.append_nil]
  · simp only [if_neg hhop]
    cases HeaderValue.fromBytes (Text.utf8 value) with
    | none => simp
    | some v => simp [HeaderMap.append]

/-- Good names never spoil the builder. -/
theorem foldl_addHeader (l : List (HashMap.Entry Text Text)) (acc : HeaderMap)
    (hgood : ∀ e ∈ l, ∃ n : HeaderName, n.toText = e.1) :
    l.foldl (addHeader env) (some acc) = some (acc ++ l.filterMap (builtHeader env)) := by
  induction l generalizing acc with
  | nil => simp
  | cons e l ih =>
      obtain ⟨key, value⟩ := e
      obtain ⟨n, rfl⟩ := hgood _ (List.mem_cons_self ..)
      rw [List.foldl_cons, addHeader_eq, ih _ fun e he => hgood e (List.mem_cons_of_mem _ he)]
      cases hhead : builtHeader env ⟨n.toText, value⟩ with
      | none => simp [hhead]
      | some h => simp [hhead]

/-- In a list with distinct names, the built headers under a name are the
one of its entry. -/
theorem getAll_filterMap (l : List (HashMap.Entry Text Text)) (hnd : l.NodupKeys)
    (hgood : ∀ e ∈ l, ∃ n : HeaderName, n.toText = e.1) (n : HeaderName) :
    HeaderMap.getAll (l.filterMap (builtHeader env)) n.toText
      = ((l.dlookup n.toText).bind (builtValue env n.toText)).toList := by
  induction l with
  | nil => rfl
  | cons e l ih =>
      obtain ⟨key, value⟩ := e
      obtain ⟨m, rfl⟩ := hgood _ (List.mem_cons_self ..)
      have hrest := ih (List.nodupKeys_cons.mp hnd).2
        fun e he => hgood e (List.mem_cons_of_mem _ he)
      have hsplit : ((⟨m.toText, value⟩ :: l).filterMap (builtHeader env))
          = (builtHeader env ⟨m.toText, value⟩).toList
            ++ l.filterMap (builtHeader env) := by
        cases hhead : builtHeader env ⟨m.toText, value⟩ <;> simp [hhead]
      rw [hsplit, HeaderMap.getAll_append, hrest, builtHeader_name]
      by_cases hm : m = n
      · subst hm
        have hnone : l.dlookup m.toText = none :=
          List.dlookup_eq_none.mpr (List.nodupKeys_cons.mp hnd).1
        rw [hnone, List.dlookup_cons_eq]
        cases hval : builtValue env m.toText value <;> simp [HeaderMap.getAll, hval]
      · have hne : m.toText ≠ n.toText := fun h => hm (HeaderName.toText_injective h)
        rw [List.dlookup_cons_ne _ _ (Ne.symm hne)]
        cases builtValue env m.toText value <;> simp [HeaderMap.getAll, hne]

theorem buildResponse_eq (rs : RandomState) (status : UInt16)
    {headers : HashMap Text Text} (hgood : GoodNames headers) (body : Bytes) :
    buildResponse env rs status headers body
      = { status := (StatusCode.fromU16 status).getD StatusCode.ok
          headers := (rs.iter headers).filterMap (builtHeader env)
          body := body } := by
  have hiter : ∀ e ∈ rs.iter headers, ∃ n : HeaderName, n.toText = e.1 :=
    fun e he => hgood e.1 e.2 (rs.mem_iter.mp he)
  unfold buildResponse
  rw [foldl_addHeader env _ _ hiter]
  rfl

/-- What the response holds under a name, in every hash order. -/
theorem getAll_buildResponse (rs : RandomState) (status : UInt16)
    {headers : HashMap Text Text} (hgood : GoodNames headers) (body : Bytes)
    (n : HeaderName) :
    (buildResponse env rs status headers body).headers.getAll n.toText
      = ((headers.lookup n.toText).bind (builtValue env n.toText)).toList := by
  rw [buildResponse_eq env rs status hgood, getAll_filterMap env _ (rs.nodupKeys_iter _)
    (fun e he => hgood e.1 e.2 (rs.mem_iter.mp he)), rs.dlookup_iter]

end Build

-- ====================================================== through a recording

section Replay

variable (env : Externals) (cfg : Config) (ctx : RequestContext)

/-- A header map collected by name: the last value, as a string. -/
theorem lookup_collectHeaders (headers : HeaderMap) (n : HeaderName) :
    (collectHeaders headers).lookup n.toText
      = (headers.getAll n.toText).getLast?.map fun v => v.toStr.getD [] := by
  unfold collectHeaders
  rw [HashMap.lookup_collect, List.filter_map, HeaderMap.getAll]
  rw [List.getLast?_map, Option.map_map, List.getLast?_map, Option.map_map]
  rfl

theorem goodNames_collectHeaders (headers : HeaderMap) :
    GoodNames (collectHeaders headers) := by
  intro k v h
  obtain ⟨p, -, heq⟩ := List.mem_map.mp (HashMap.mem_of_lookup_collect h)
  exact ⟨p.1, congrArg Prod.fst heq⟩

/-- The headers a recording stores. -/
def storedHeaders (headers : HeaderMap) : HashMap Text Text :=
  HashMap.mapValues (fun k v => if isRedacted env cfg ctx k then redacted else v)
    (collectHeaders headers)

theorem goodNames_storedHeaders (headers : HeaderMap) :
    GoodNames (storedHeaders env cfg ctx headers) := by
  intro k v h
  unfold storedHeaders at h
  rw [HashMap.lookup_mapValues, Option.map_eq_some_iff] at h
  obtain ⟨v', hv', -⟩ := h
  exact goodNames_collectHeaders headers k v' hv'

def redactedValue : HeaderValue := ⟨Text.utf8 redacted, by decide⟩

/-- The way of one header through recording and replay: hop-by-hop headers
go, of the others at most one value stays, redacted or kept. -/
theorem getAll_replayed (rs : RandomState) (status : UInt16) (headers : HeaderMap)
    (body : Bytes) (n : HeaderName) :
    (buildResponse env rs status (storedHeaders env cfg ctx headers) body).headers.getAll
        n.toText
      = if isHopByHop n.toText then []
        else ((headers.getAll n.toText).getLast?.map fun v =>
          if isRedacted env cfg ctx n.toText then redactedValue else v.kept).toList := by
  rw [getAll_buildResponse env rs status (goodNames_storedHeaders env cfg ctx headers),
    storedHeaders, HashMap.lookup_mapValues, lookup_collectHeaders]
  cases hlast : (headers.getAll n.toText).getLast? with
  | none => simp
  | some v =>
      rw [Option.map_some, Option.map_some, Option.bind_some, builtValue,
        env.toLowercase_headerName]
      by_cases hhop : isHopByHop n.toText = true
      · rw [if_pos hhop, if_pos hhop]
        rfl
      · rw [if_neg hhop, if_neg hhop]
        by_cases hred : isRedacted env cfg ctx n.toText = true
        · rw [if_pos hred, Option.map_some, if_pos hred]
          rfl
        · rw [if_neg hred, Option.map_some, if_neg hred, HeaderValue.fromBytes_kept]

end Replay

end GostlyProxy
