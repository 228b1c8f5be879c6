/-
The substitution map of a smart swap.

Steps 2a to 2c of `find_smart_swap` go over three kinds of positions: path
segments, query parameters and strings of the request bodies. Each finds
pairs of a recorded value and the request's value in its place
(`segmentDiffs`, `queryDiffs`, `bodyDiffs`), keeps those whose recorded
value occurs in the recorded response, and inserts them into one map. So
the map is what collecting the kept pairs gives (`swapSubs_of_fits`), later
pairs in place of earlier ones.

`DiffersAt` says the same of a pair without lists: at some position the
recorded value is this and the request's is that. `mem_differences`
connects the two.
-/
import GostlyProxy.Model.Matcher

namespace GostlyProxy

open Lib

-- ============================================================== positions

/-- The strings that stand at one place of two JSON values. -/
inductive StringsAt : Json → Json → Text → Text → Prop
  | here (r i : Text) : StringsAt (.string r) (.string i) r i
  | member {rs is : List (Text × Json)} {key r i : Text} {rv iv : Json}
      (hr : (key, rv) ∈ rs) (hi : Json.lookup key is = some iv) (h : StringsAt rv iv r i) :
      StringsAt (.object rs) (.object is) r i
  | item {rs is : List Json} {r i : Text} {rv iv : Json} (n : Nat)
      (hr : rs[n]? = some rv) (hi : is[n]? = some iv) (h : StringsAt rv iv r i) :
      StringsAt (.array rs) (.array is) r i

/-- The segments of a URI's path. -/
def uriSegments (uri : Text) : List Text := Text.split '/' (splitUri uri).1

/-- The parameters of a URI's query. -/
def queryParams (uri : Text) : HashMap Text Text := parseQuery (splitUri uri).2

/-- A recorded value and the request's value at one position: a path segment,
a query parameter, a string of the bodies. -/
inductive ValuesAt (env : Externals) (recorded : MockEntry) (uri body : Text) :
    Text → Text → Prop
  | segment {r i : Text} (n : Nat) (hr : (uriSegments recorded.request.uri)[n]? = some r)
      (hi : (uriSegments uri)[n]? = some i) : ValuesAt env recorded uri body r i
  | param {r i : Text} (key : Text)
      (hr : (queryParams recorded.request.uri).lookup key = some r)
      (hi : (queryParams uri).lookup key = some i) : ValuesAt env recorded uri body r i
  | body {r i : Text} {recJson incJson : Json} (hrec : recorded.request.body ≠ [])
      (hinc : body ≠ []) (hne : recorded.request.body ≠ body)
      (hr : env.parseJson recorded.request.body = some recJson)
      (hi : env.parseJson body = some incJson) (h : StringsAt recJson incJson r i) :
      ValuesAt env recorded uri body r i

/-- The values at one position differ. -/
def DiffersAt (env : Externals) (recorded : MockEntry) (uri body r i : Text) : Prop :=
  ValuesAt env recorded uri body r i ∧ r ≠ i

section Diffs

variable (env : Externals) (rs : RandomState)

-- ======================================================= the pairs, listed

def segmentDiffs (segs : List (Text × Text)) : List (Text × Text) :=
  segs.filter fun p => p.1 ≠ p.2

def queryDiffs (recParams incParams : HashMap Text Text) : List (Text × Text) :=
  (rs.iter recParams).filterMap fun p =>
    match incParams.lookup p.1 with
    | some incVal => if p.2 ≠ incVal then some (p.2, incVal) else none
    | none => none

def bodyDiffs (recBody incBody : Text) : List (Text × Text) :=
  if !recBody.isEmpty && !incBody.isEmpty && recBody ≠ incBody then
    match env.parseJson recBody, env.parseJson incBody with
    | some recJson, some incJson => collectValueDiffs recJson incJson
    | _, _ => []
  else []

/-- All of them, in the order they are met. -/
def differences (recorded : MockEntry) (uri body : Text) : List (Text × Text) :=
  segmentDiffs ((uriSegments recorded.request.uri).zip (uriSegments uri))
    ++ queryDiffs rs (queryParams recorded.request.uri) (queryParams uri)
    ++ bodyDiffs env recorded.request.body body

/-- The pairs whose recorded value occurs in the recorded response. -/
def evidence (responseBody : Text) (diffs : List (Text × Text)) : List (Text × Text) :=
  diffs.filter fun p => Text.contains responseBody p.1

theorem evidence_append (responseBody : Text) (l l' : List (Text × Text)) :
    evidence responseBody (l ++ l') = evidence responseBody l ++ evidence responseBody l' :=
  List.filter_append ..

-- ====================================================== the map of a step

/-- On segments that fit no static one differs, so step 2a inserts its pairs. -/
theorem segmentSubs_of_dynamic (responseBody : Text) (segs : List (Text × Text))
    (subs : HashMap Text Text)
    (h : ∀ p ∈ segs, p.1 = p.2 ∨ isDynamicSegment env p.1 = true
      ∨ isDynamicSegment env p.2 = true) :
    segmentSubs env responseBody segs subs
      = some (subs.extend (evidence responseBody (segmentDiffs segs))) := by
  induction segs generalizing subs with
  | nil => rfl
  | cons p segs ih =>
      obtain ⟨r, i⟩ := p
      rw [List.forall_mem_cons] at h
      unfold segmentSubs
      by_cases heq : r = i
      · rw [if_pos heq, ih subs h.2]
        simp [segmentDiffs, heq]
      · have hdyn : (!isDynamicSegment env r && !isDynamicSegment env i) = false := by
          rcases h.1 with hp | hp | hp
          · exact absurd hp heq
          · simp [show isDynamicSegment env r = true from hp]
          · simp [show isDynamicSegment env i = true from hp]
        rw [if_neg heq, hdyn, if_neg Bool.false_ne_true]
        cases hc : Text.contains responseBody r with
        | true =>
            rw [if_pos rfl, ih _ h.2]
            simp [segmentDiffs, evidence, heq, hc, HashMap.extend]
        | false =>
            rw [if_neg Bool.false_ne_true, ih _ h.2]
            simp [segmentDiffs, evidence, heq, hc]

theorem querySubs_eq (responseBody : Text) (recParams incParams subs : HashMap Text Text) :
    querySubs rs responseBody recParams incParams subs
      = subs.extend (evidence responseBody (queryDiffs rs recParams incParams)) := by
  unfold querySubs queryDiffs evidence HashMap.extend
  rw [List.foldl_filter, List.foldl_filterMap]
  congr 1
  funext subs p
  cases hinc : incParams.lookup p.1 with
  | none => rfl
  | some incVal =>
      by_cases hne : p.2 = incVal
      · simp [hne]
      · simp [hne]

theorem bodySubs_eq (responseBody recBody incBody : Text) (subs : HashMap Text Text) :
    bodySubs env responseBody recBody incBody subs
      = subs.extend (evidence responseBody (bodyDiffs env recBody incBody)) := by
  unfold bodySubs bodyDiffs evidence HashMap.extend
  rw [List.foldl_filter]
  split
  · cases env.parseJson recBody with
    | none => rfl
    | some recJson =>
        cases env.parseJson incBody with
        | none => rfl
        | some incJson => rfl
  · rfl

-- =================================================== the pairs, positioned

theorem stringsAt_string {s r i : Text} {iv : Json} :
    StringsAt (.string s) iv r i ↔ s = r ∧ iv = .string i := by
  constructor
  · intro h
    cases h
    exact ⟨rfl, rfl⟩
  · rintro ⟨rfl, rfl⟩
    exact .here s i

/-- At one index of two arrays. -/
def ItemsAt (xs is : List Json) (r i : Text) : Prop :=
  ∃ (n : Nat) (rv iv : Json), xs[n]? = some rv ∧ is[n]? = some iv ∧ StringsAt rv iv r i

/-- Under one key of two objects. -/
def MembersAt (ms is : List (Text × Json)) (r i : Text) : Prop :=
  ∃ key rv iv, (key, rv) ∈ ms ∧ Json.lookup key is = some iv ∧ StringsAt rv iv r i

theorem stringsAt_array {xs is : List Json} {r i : Text} :
    StringsAt (.array xs) (.array is) r i ↔ ItemsAt xs is r i := by
  constructor
  · intro h
    cases h with
    | item n hr hi h => exact ⟨n, _, _, hr, hi, h⟩
  · rintro ⟨n, rv, iv, hr, hi, h⟩
    exact .item n hr hi h

theorem stringsAt_object {ms is : List (Text × Json)} {r i : Text} :
    StringsAt (.object ms) (.object is) r i ↔ MembersAt ms is r i := by
  constructor
  · intro h
    cases h with
    | member hr hi h => exact ⟨_, _, _, hr, hi, h⟩
  · rintro ⟨key, rv, iv, hr, hi, h⟩
    exact .member hr hi h

theorem itemsAt_cons {x y : Json} {xs ys : List Json} {r i : Text} :
    ItemsAt (x :: xs) (y :: ys) r i ↔ StringsAt x y r i ∨ ItemsAt xs ys r i := by
  constructor
  · rintro ⟨n, rv, iv, hr, hi, h⟩
    cases n with
    | zero =>
        rw [List.getElem?_cons_zero, Option.some.injEq] at hr hi
        exact Or.inl (hr ▸ hi ▸ h)
    | succ n => exact Or.inr ⟨n, rv, iv, hr, hi, h⟩
  · rintro (h | ⟨n, rv, iv, hr, hi, h⟩)
    · exact ⟨0, x, y, rfl, rfl, h⟩
    · exact ⟨n + 1, rv, iv, hr, hi, h⟩

theorem membersAt_cons {key : Text} {x : Json} {ms is : List (Text × Json)} {r i : Text} :
    MembersAt ((key, x) :: ms) is r i
      ↔ (∃ y, Json.lookup key is = some y ∧ StringsAt x y r i) ∨ MembersAt ms is r i := by
  constructor
  · rintro ⟨k, rv, iv, hr, hi, h⟩
    rcases List.mem_cons.mp hr with heq | hr
    · cases heq
      exact Or.inl ⟨iv, hi, h⟩
    · exact Or.inr ⟨k, rv, iv, hr, hi, h⟩
  · rintro (⟨y, hi, h⟩ | ⟨k, rv, iv, hr, hi, h⟩)
    · exact ⟨key, x, y, List.mem_cons_self .., hi, h⟩
    · exact ⟨k, rv, iv, List.mem_cons_of_mem _ hr, hi, h⟩

/-- Values without strings in the same place have no differences. -/
theorem mem_nil_iff_stringsAt {rv iv : Json} {r i : Text} (h : ¬ StringsAt rv iv r i) :
    (r, i) ∈ ([] : List (Text × Text)) ↔ StringsAt rv iv r i ∧ r ≠ i :=
  ⟨fun hmem => absurd hmem List.not_mem_nil, fun hat => absurd hat.1 h⟩

mutual

/-- The differences of two values are the strings that differ in place. -/
theorem mem_collectValueDiffs {r i : Text} : ∀ {rv iv : Json},
    (r, i) ∈ collectValueDiffs rv iv ↔ StringsAt rv iv r i ∧ r ≠ i
  | .null, iv => mem_nil_iff_stringsAt fun h => nomatch h
  | .bool b, iv => mem_nil_iff_stringsAt fun h => nomatch h
  | .number n, iv => mem_nil_iff_stringsAt fun h => nomatch h
  | .string s, iv => by
      rw [stringsAt_string]
      cases iv with
      | string s' =>
          rw [collectValueDiffs, Json.string.injEq]
          by_cases hne : s = s'
          · rw [if_neg (not_not.mpr hne)]
            simp only [List.not_mem_nil, false_iff]
            rintro ⟨⟨rfl, rfl⟩, hdiff⟩
            exact hdiff hne
          · rw [if_pos hne, List.mem_singleton, Prod.mk.injEq]
            constructor
            · rintro ⟨rfl, rfl⟩
              exact ⟨⟨rfl, rfl⟩, hne⟩
            · rintro ⟨⟨rfl, rfl⟩, -⟩
              exact ⟨rfl, rfl⟩
      | _ => simp [collectValueDiffs]
  | .array xs, iv => by
      cases iv with
      | array is => rw [stringsAt_array, collectValueDiffs, mem_collectItemDiffs]
      | _ => exact mem_nil_iff_stringsAt fun h => nomatch h
  | .object ms, iv => by
      cases iv with
      | object is => rw [stringsAt_object, collectValueDiffs, mem_collectMemberDiffs]
      | _ => exact mem_nil_iff_stringsAt fun h => nomatch h

theorem mem_collectMemberDiffs {r i : Text} : ∀ {ms is : List (Text × Json)},
    (r, i) ∈ collectMemberDiffs ms is ↔ MembersAt ms is r i ∧ r ≠ i
  | [], is => by simp [collectMemberDiffs, MembersAt]
  | (key, rv) :: ms, is => by
      rw [collectMemberDiffs, List.mem_append, mem_collectMemberDiffs, membersAt_cons,
        or_and_right]
      cases hlook : Json.lookup key is with
      | none => simp
      | some iv => simp [mem_collectValueDiffs]

theorem mem_collectItemDiffs {r i : Text} : ∀ {xs is : List Json},
    (r, i) ∈ collectItemDiffs xs is ↔ ItemsAt xs is r i ∧ r ≠ i
  | [], is => by simp [collectItemDiffs, ItemsAt]
  | rv :: xs, [] => by simp [collectItemDiffs, ItemsAt]
  | rv :: xs, iv :: is => by
      rw [collectItemDiffs, List.mem_append, mem_collectValueDiffs, mem_collectItemDiffs,
        itemsAt_cons, or_and_right]

end

theorem mem_segmentDiffs {recSegs incSegs : List Text} {r i : Text} :
    (r, i) ∈ segmentDiffs (recSegs.zip incSegs)
      ↔ (∃ n : Nat, recSegs[n]? = some r ∧ incSegs[n]? = some i) ∧ r ≠ i := by
  unfold segmentDiffs
  rw [List.mem_filter, List.mem_iff_getElem?, decide_eq_true_iff]
  simp only [List.getElem?_zip_eq_some]

theorem mem_queryDiffs {recParams incParams : HashMap Text Text} {r i : Text} :
    (r, i) ∈ queryDiffs rs recParams incParams
      ↔ (∃ key, recParams.lookup key = some r ∧ incParams.lookup key = some i) ∧ r ≠ i := by
  unfold queryDiffs
  rw [List.mem_filterMap]
  constructor
  · rintro ⟨⟨key, recVal⟩, hmem, hpair⟩
    cases hinc : incParams.lookup key with
    | none => simp [hinc] at hpair
    | some incVal =>
        by_cases hne : recVal = incVal
        · simp [hinc, hne] at hpair
        · simp only [hinc, if_pos hne, ne_eq, Option.some.injEq, Prod.mk.injEq] at hpair
          obtain ⟨rfl, rfl⟩ := hpair
          exact ⟨⟨key, rs.mem_iter.mp hmem, hinc⟩, hne⟩
  · rintro ⟨⟨key, hrec, hinc⟩, hne⟩
    exact ⟨⟨key, r⟩, rs.mem_iter.mpr hrec, by simp [hinc, hne]⟩

theorem mem_bodyDiffs {recBody incBody r i : Text} :
    (r, i) ∈ bodyDiffs env recBody incBody
      ↔ (∃ recJson incJson, recBody ≠ [] ∧ incBody ≠ [] ∧ recBody ≠ incBody
        ∧ env.parseJson recBody = some recJson ∧ env.parseJson incBody = some incJson
        ∧ StringsAt recJson incJson r i) ∧ r ≠ i := by
  unfold bodyDiffs
  by_cases hread : recBody ≠ [] ∧ incBody ≠ [] ∧ recBody ≠ incBody
  · obtain ⟨hrec, hinc, hne⟩ := hread
    rw [if_pos (by simp [hrec, hinc, hne])]
    cases env.parseJson recBody with
    | none => simp
    | some recJson =>
        cases env.parseJson incBody with
        | none => simp
        | some incJson => simp [mem_collectValueDiffs, hrec, hinc, hne]
  · rw [if_neg (by simpa using hread)]
    constructor
    · intro h
      cases h
    · rintro ⟨⟨recJson, incJson, hrec, hinc, hne, -⟩, -⟩
      exact absurd ⟨hrec, hinc, hne⟩ hread

/-- The listed pairs are the values that differ at some position. -/
theorem mem_differences {recorded : MockEntry} {uri body r i : Text} :
    (r, i) ∈ differences env rs recorded uri body ↔ DiffersAt env recorded uri body r i := by
  unfold differences
  rw [List.mem_append, List.mem_append, mem_segmentDiffs, mem_queryDiffs, mem_bodyDiffs]
  constructor
  · rintro ((⟨⟨n, hr, hi⟩, hne⟩ | ⟨⟨key, hr, hi⟩, hne⟩)
      | ⟨⟨recJson, incJson, hrec, hinc, hbody, hr, hi, h⟩, hne⟩)
    · exact ⟨.segment n hr hi, hne⟩
    · exact ⟨.param key hr hi, hne⟩
    · exact ⟨.body hrec hinc hbody hr hi h, hne⟩
  · rintro ⟨hvalues, hne⟩
    cases hvalues with
    | segment n hr hi => exact Or.inl (Or.inl ⟨⟨n, hr, hi⟩, hne⟩)
    | param key hr hi => exact Or.inl (Or.inr ⟨⟨key, hr, hi⟩, hne⟩)
    | body hrec hinc hbody hr hi h => exact Or.inr ⟨⟨_, _, hrec, hinc, hbody, hr, hi, h⟩, hne⟩

-- ===================================================== the map of an entry

theorem fst_splitUri (uri : Text) : (splitUri uri).1 = Text.before '?' uri := by
  unfold splitUri
  cases hcut : Text.cut '?' uri with
  | none => exact (Text.before_eq_self (Text.cut_eq_none.mp hcut)).symm
  | some p => exact (Text.before_eq_of_cut hcut).symm

/-- An entry that fits has as many segments as the request, and where they
differ one of the two is dynamic. -/
theorem segments_of_fits {method uri : Text} {e : MockEntry}
    (h : fitsRequest env method uri e = true) :
    (uriSegments e.request.uri).length = (uriSegments uri).length
      ∧ ∀ p ∈ (uriSegments e.request.uri).zip (uriSegments uri),
        p.1 = p.2 ∨ isDynamicSegment env p.1 = true ∨ isDynamicSegment env p.2 = true := by
  simp only [fitsRequest, Bool.and_eq_true, Bool.or_eq_true, decide_eq_true_eq] at h
  unfold uriSegments
  rcases h.2 with huri | hpaths
  · rw [huri]
    refine ⟨rfl, fun p hp => Or.inl ?_⟩
    obtain ⟨i, hi, hget⟩ := List.mem_iff_getElem.mp hp
    rw [← hget]
    simp
  · rw [fst_splitUri, fst_splitUri]
    simp only [pathsMatch, Bool.and_eq_true, decide_eq_true_eq, List.all_eq_true,
      Bool.or_eq_true] at hpaths
    refine ⟨hpaths.1, fun p hp => ?_⟩
    have := hpaths.2 p hp
    rwa [or_assoc] at this

/-- What smart swap replaces in the response of an entry: steps 2a to 2c. -/
def swapSubs (recorded : MockEntry) (uri body : Text) : Option (HashMap Text Text) :=
  let (recPath, recQs) := splitUri recorded.request.uri
  let (incPath, incQs) := splitUri uri
  if (Text.split '/' recPath).length ≠ (Text.split '/' incPath).length then none
  else
    (segmentSubs env recorded.response.body
      ((Text.split '/' recPath).zip (Text.split '/' incPath)) ∅).map fun subs =>
    bodySubs env recorded.response.body recorded.request.body body
      (querySubs rs recorded.response.body (parseQuery recQs) (parseQuery incQs) subs)

/-- The entry with its response body replaced. -/
def MockEntry.withBody (e : MockEntry) (body : Text) : MockEntry :=
  { e with response := { e.response with body := body } }

/-- Steps 3 and 4: reject without evidence, or substitute. -/
def finishSwap (recorded : MockEntry) (uri body : Text) (subs : HashMap Text Text) :
    Option MockEntry :=
  if subs.size = 0 && (recorded.request.uri ≠ uri || recorded.request.body ≠ body) then none
  else some (recorded.withBody
    (applySubstitutionsToJson env rs recorded.response.body subs))

theorem swapEntry_eq (recorded : MockEntry) (uri body : Text) :
    swapEntry env rs recorded uri body
      = (swapSubs env rs recorded uri body).bind (finishSwap env rs recorded uri body) := by
  unfold swapEntry swapSubs
  dsimp only
  by_cases hlen : (Text.split '/' (splitUri recorded.request.uri).1).length
      ≠ (Text.split '/' (splitUri uri).1).length
  · rw [if_pos hlen, if_pos hlen]
    rfl
  · rw [if_neg hlen, if_neg hlen]
    cases segmentSubs env recorded.response.body
        ((Text.split '/' (splitUri recorded.request.uri).1).zip
          (Text.split '/' (splitUri uri).1)) ∅ with
    | none => rfl
    | some subs => rfl

/-- The pairs with evidence, collected. -/
def evidenceMap (recorded : MockEntry) (uri body : Text) : HashMap Text Text :=
  HashMap.collect (evidence recorded.response.body (differences env rs recorded uri body))

/-- On an entry that fits, the map collects the pairs with evidence. -/
theorem swapSubs_of_fits {method uri : Text} {recorded : MockEntry} (body : Text)
    (h : fitsRequest env method uri recorded = true) :
    swapSubs env rs recorded uri body = some (evidenceMap env rs recorded uri body) := by
  obtain ⟨hlen, hdyn⟩ := segments_of_fits env h
  unfold evidenceMap differences
  unfold uriSegments at hlen hdyn ⊢
  unfold swapSubs queryParams
  dsimp only
  rw [if_neg (not_not.mpr hlen), segmentSubs_of_dynamic env _ _ _ hdyn, Option.map_some,
    querySubs_eq, bodySubs_eq, evidence_append, evidence_append, ← HashMap.extend_append,
    ← HashMap.extend_append, HashMap.extend_empty, List.append_assoc]

/-- The swap of an entry that fits. -/
theorem swapEntry_of_fits {method uri : Text} {recorded : MockEntry} (body : Text)
    (h : fitsRequest env method uri recorded = true) :
    swapEntry env rs recorded uri body
      = finishSwap env rs recorded uri body (evidenceMap env rs recorded uri body) := by
  rw [swapEntry_eq, swapSubs_of_fits env rs body h, Option.bind_some]

variable {env rs} {recorded : MockEntry} {uri body : Text}

theorem mem_evidence {r i : Text} :
    (r, i) ∈ evidence recorded.response.body (differences env rs recorded uri body)
      ↔ DiffersAt env recorded uri body r i
        ∧ Text.contains recorded.response.body r = true := by
  unfold evidence
  rw [List.mem_filter, mem_differences]

/-- What the map replaces by what. -/
theorem differsAt_of_lookup {r i : Text}
    (h : (evidenceMap env rs recorded uri body).lookup r = some i) :
    DiffersAt env recorded uri body r i ∧ Text.contains recorded.response.body r = true :=
  mem_evidence.mp (HashMap.mem_of_lookup_collect h)

variable (rs) in
/-- The keys of the map. -/
theorem isSome_lookup_evidenceMap {r : Text} :
    ((evidenceMap env rs recorded uri body).lookup r).isSome
      ↔ (∃ i, DiffersAt env recorded uri body r i)
        ∧ Text.contains recorded.response.body r = true := by
  unfold evidenceMap
  rw [HashMap.isSome_lookup_collect, List.mem_map]
  constructor
  · rintro ⟨⟨r', i⟩, hmem, rfl⟩
    obtain ⟨hdiff, hc⟩ := mem_evidence.mp hmem
    exact ⟨⟨i, hdiff⟩, hc⟩
  · rintro ⟨⟨i, hdiff⟩, hc⟩
    exact ⟨(r, i), mem_evidence.mpr ⟨hdiff, hc⟩, rfl⟩

/-- The map is empty when no recorded value that differs is in the
response. -/
theorem evidenceMap_eq_empty :
    evidenceMap env rs recorded uri body = ∅
      ↔ ∀ r i, DiffersAt env recorded uri body r i →
        Text.contains recorded.response.body r = false := by
  unfold evidenceMap
  rw [HashMap.collect_eq_empty, List.eq_nil_iff_forall_not_mem, Prod.forall]
  refine forall_congr' fun r => forall_congr' fun i => ?_
  rw [mem_evidence, not_and, Bool.not_eq_true]

end Diffs

end GostlyProxy
