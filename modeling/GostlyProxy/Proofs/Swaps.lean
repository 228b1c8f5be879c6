/-
What a smart swap returns.

`findSmartSwap_sound` says when there is no result and what a result is: the
entry that was picked, with nothing but the response body changed, and in a
JSON body nothing but strings that stand for values of the request
(`Json.Rel`). Two of the things one expects of it are not so in general:
values may be replaced although it is not clear by what
(`swap_unambiguous_iff`), and empty strings may be filled
(`swap_keeps_blanks_iff`).
-/
import GostlyProxy.Proofs.SmartSwap

namespace GostlyProxy

open Lib

-- ==================================================== strings of a value

namespace Json

mutual

/-- Two values of one shape: the same members, items, numbers, booleans and
nulls, and `R` between strings that stand in one place. -/
inductive Rel (R : Text → Text → Prop) : Json → Json → Prop
  | null : Rel R .null .null
  | bool (b : Bool) : Rel R (.bool b) (.bool b)
  | number (repr : Text) : Rel R (.number repr) (.number repr)
  | string {s s' : Text} (h : R s s') : Rel R (.string s) (.string s')
  | array {xs ys : List Json} (h : RelItems R xs ys) : Rel R (.array xs) (.array ys)
  | object {ms ns : List (Text × Json)} (h : RelMembers R ms ns) :
      Rel R (.object ms) (.object ns)

inductive RelItems (R : Text → Text → Prop) : List Json → List Json → Prop
  | nil : RelItems R [] []
  | cons {x y : Json} {xs ys : List Json} (h : Rel R x y) (hs : RelItems R xs ys) :
      RelItems R (x :: xs) (y :: ys)

inductive RelMembers (R : Text → Text → Prop) :
    List (Text × Json) → List (Text × Json) → Prop
  | nil : RelMembers R [] []
  | cons {x y : Json} {ms ns : List (Text × Json)} (key : Text) (h : Rel R x y)
      (hs : RelMembers R ms ns) : RelMembers R ((key, x) :: ms) ((key, y) :: ns)

end

mutual

/-- The strings of a value, keys aside. -/
def strings : Json → List Text
  | .string s => [s]
  | .array xs => itemStrings xs
  | .object ms => memberStrings ms
  | _ => []

def itemStrings : List Json → List Text
  | [] => []
  | x :: xs => strings x ++ itemStrings xs

def memberStrings : List (Text × Json) → List Text
  | [] => []
  | (_, x) :: ms => strings x ++ memberStrings ms

end

end Json

/-- What a string is replaced by. -/
def swapped (subs : HashMap Text Text) (s : Text) : Text := (subs.lookup s).getD s

mutual

/-- Substituting keeps the shape, and relates the strings as it replaces
them. -/
theorem rel_substitute_iff {R : Text → Text → Prop} {subs : HashMap Text Text} : ∀ {v : Json},
    Json.Rel R v (substituteInJson subs v) ↔ ∀ s ∈ v.strings, R s (swapped subs s)
  | .null => iff_of_true .null (by simp [Json.strings])
  | .bool b => iff_of_true (.bool b) (by simp [Json.strings])
  | .number n => iff_of_true (.number n) (by simp [Json.strings])
  | .string s => by
      rw [substituteInJson, Json.strings, List.forall_mem_singleton]
      constructor
      · intro h
        cases h with
        | string h => exact h
      · intro h
        exact .string h
  | .array xs => by
      rw [substituteInJson, Json.strings, ← relItems_substitute_iff]
      constructor
      · intro h
        cases h with
        | array h => exact h
      · intro h
        exact .array h
  | .object ms => by
      rw [substituteInJson, Json.strings, ← relMembers_substitute_iff]
      constructor
      · intro h
        cases h with
        | object h => exact h
      · intro h
        exact .object h

theorem relItems_substitute_iff {R : Text → Text → Prop} {subs : HashMap Text Text} :
    ∀ {xs : List Json}, Json.RelItems R xs (substituteInItems subs xs)
      ↔ ∀ s ∈ Json.itemStrings xs, R s (swapped subs s)
  | [] => iff_of_true .nil (by simp [Json.itemStrings])
  | x :: xs => by
      rw [substituteInItems, Json.itemStrings, List.forall_mem_append, ← rel_substitute_iff,
        ← relItems_substitute_iff]
      constructor
      · intro h
        cases h with
        | cons h hs => exact ⟨h, hs⟩
      · rintro ⟨h, hs⟩
        exact .cons h hs

theorem relMembers_substitute_iff {R : Text → Text → Prop} {subs : HashMap Text Text} :
    ∀ {ms : List (Text × Json)}, Json.RelMembers R ms (substituteInMembers subs ms)
      ↔ ∀ s ∈ Json.memberStrings ms, R s (swapped subs s)
  | [] => iff_of_true .nil (by simp [Json.memberStrings])
  | (key, x) :: ms => by
      rw [substituteInMembers, Json.memberStrings, List.forall_mem_append,
        ← rel_substitute_iff, ← relMembers_substitute_iff]
      constructor
      · intro h
        cases h with
        | cons _ h hs => exact ⟨h, hs⟩
      · rintro ⟨h, hs⟩
        exact .cons key h hs

end

mutual

/-- A value none of whose strings is a key is left as it is. -/
theorem substituteInJson_of_none {subs : HashMap Text Text} :
    ∀ {v : Json}, (∀ s ∈ v.strings, subs.lookup s = none) → substituteInJson subs v = v
  | .null, _ => by rw [substituteInJson] <;> simp
  | .bool b, _ => by rw [substituteInJson] <;> simp
  | .number n, _ => by rw [substituteInJson] <;> simp
  | .string s, h => by
      rw [Json.strings, List.forall_mem_singleton] at h
      rw [substituteInJson, h, Option.getD_none]
  | .array xs, h => by
      rw [Json.strings] at h
      rw [substituteInJson, substituteInItems_of_none h]
  | .object ms, h => by
      rw [Json.strings] at h
      rw [substituteInJson, substituteInMembers_of_none h]

theorem substituteInItems_of_none {subs : HashMap Text Text} :
    ∀ {xs : List Json}, (∀ s ∈ Json.itemStrings xs, subs.lookup s = none) →
      substituteInItems subs xs = xs
  | [], _ => rfl
  | x :: xs, h => by
      rw [Json.itemStrings, List.forall_mem_append] at h
      rw [substituteInItems, substituteInJson_of_none h.1, substituteInItems_of_none h.2]

theorem substituteInMembers_of_none {subs : HashMap Text Text} :
    ∀ {ms : List (Text × Json)}, (∀ s ∈ Json.memberStrings ms, subs.lookup s = none) →
      substituteInMembers subs ms = ms
  | [], _ => rfl
  | (key, x) :: ms, h => by
      rw [Json.memberStrings, List.forall_mem_append] at h
      rw [substituteInMembers, substituteInJson_of_none h.1, substituteInMembers_of_none h.2]

end

section Swaps

variable (env : Externals) (rs : RandomState)

/-- The JSON library reads back what it prints of a value, whatever its
strings are replaced by. -/
def PrintsBack (v : Json) : Prop :=
  ∀ w, Json.Rel (fun _ _ => True) v w → env.parseJson (env.printJson w) = some w

variable {env}

theorem printsBack_substitute {v : Json} (h : PrintsBack env v) (subs : HashMap Text Text) :
    env.parseJson (env.printJson (substituteInJson subs v)) = some (substituteInJson subs v) :=
  h _ (rel_substitute_iff.mpr fun _ _ => trivial)

/-- In a JSON body the strings are substituted. -/
theorem parseJson_applySubstitutions {body : Text} {v : Json} (subs : HashMap Text Text)
    (hparse : env.parseJson body = some v) (hprint : PrintsBack env v) :
    env.parseJson (applySubstitutionsToJson env rs body subs)
      = some (substituteInJson subs v) := by
  unfold applySubstitutionsToJson
  by_cases hsize : subs.size = 0
  · rw [if_pos hsize, HashMap.size_eq_zero.mp hsize,
      substituteInJson_of_none fun s _ => Finmap.lookup_empty s, hparse]
  · rw [if_neg hsize, hparse]
    exact printsBack_substitute hprint subs

/-- A string that a swap does not leave is replaced by the request's value in
the place of the recorded one. -/
theorem swapped_evidenceMap (recorded : MockEntry) (uri body s : Text) :
    swapped (evidenceMap env rs recorded uri body) s = s
      ∨ DiffersAt env recorded uri body s
        (swapped (evidenceMap env rs recorded uri body) s) := by
  unfold swapped
  cases hlook : (evidenceMap env rs recorded uri body).lookup s with
  | none => exact Or.inl rfl
  | some i => exact Or.inr (differsAt_of_lookup hlook).1

variable {rs}

/-- A result is the entry with its substitutions in the body. -/
theorem finishSwap_eq_some {recorded e : MockEntry} {uri body : Text}
    {subs : HashMap Text Text} (h : finishSwap env rs recorded uri body subs = some e) :
    e = recorded.withBody (applySubstitutionsToJson env rs recorded.response.body subs) := by
  unfold finishSwap at h
  split at h
  · cases h
  · exact (Option.some.inj h).symm

variable {mocks : List MockEntry} {method uri body : Text} {recorded : MockEntry}

/-- A JSON result has the strings of the recorded body substituted. -/
theorem parseJson_finishSwap {e : MockEntry} {subs : HashMap Text Text} {v : Json}
    (h : finishSwap env rs recorded uri body subs = some e)
    (hparse : env.parseJson recorded.response.body = some v) (hprint : PrintsBack env v) :
    env.parseJson e.response.body = some (substituteInJson subs v) := by
  rw [finishSwap_eq_some h]
  exact parseJson_applySubstitutions rs subs hparse hprint

/-- The entry that is picked fits. -/
theorem fits_of_picked
    (h : mocks.reverse.find? (fitsRequest env method uri) = some recorded) :
    fitsRequest env method uri recorded = true := List.find?_some h

theorem findSmartSwap_of_picked
    (h : mocks.reverse.find? (fitsRequest env method uri) = some recorded) :
    findSmartSwap env rs mocks method uri body = finishSwap env rs recorded uri body
      (evidenceMap env rs recorded uri body) := by
  unfold findSmartSwap
  rw [h, Option.bind_some, swapEntry_of_fits env rs body (fits_of_picked h)]

/-- A segment of the path differs. -/
theorem differsAt_segment (n : Nat)
    {r i : Text} (hr : (uriSegments recorded.request.uri)[n]? = some r)
    (hi : (uriSegments uri)[n]? = some i) (hne : r ≠ i) :
    DiffersAt env recorded uri body r i := ⟨.segment n hr hi, hne⟩

variable (rs) in
/-- An entry with evidence for the request gives a result. -/
theorem exists_swap_of_evidence {r i : Text}
    (hpick : mocks.reverse.find? (fitsRequest env method uri) = some recorded)
    (hdiff : DiffersAt env recorded uri body r i)
    (hc : Text.contains recorded.response.body r = true) :
    ∃ e, findSmartSwap env rs mocks method uri body = some e := by
  rw [← Option.ne_none_iff_exists', findSmartSwap_of_picked hpick, Ne, finishSwap_eq_none,
    evidenceMap_eq_empty]
  rintro ⟨hnone, -⟩
  rw [hnone r i hdiff] at hc
  cases hc

-- ========================================================= a JSON library

/-- The text of an object whose one member is the id. -/
def idBody (id : Text) : Text := ("\x7b\"id\":\"" : Text) ++ (id ++ ("\"\x7d" : Text))

def idValue (id : Text) : Json := .object [("id", .string id)]

def parseId (t : Text) : Option Json :=
  if Text.startsWith t "\x7b\"id\":\"" then
    (Text.stripSuffix "\"\x7d" (t.drop 7)).map idValue
  else none

def printId : Json → Text
  | .object [(_, .string id)] => idBody id
  | _ => []

/-- A JSON library for such objects with an id that needs no escapes. -/
def idJson : Externals where
  __ := (default : Externals)
  parseJson := parseId
  printJson := printId

theorem parseId_idBody (id : Text) : parseId (idBody id) = some (idValue id) := by
  have hstart : Text.startsWith (idBody id) "\x7b\"id\":\"" = true := rfl
  have hdrop : (idBody id).drop 7 = id ++ ("\"\x7d" : Text) := rfl
  unfold parseId
  rw [if_pos hstart, hdrop, Text.stripSuffix_append]
  rfl

theorem printsBack_idValue (id : Text) : PrintsBack idJson (idValue id) := by
  intro w h
  unfold idValue at h
  cases h with
  | object h =>
      cases h with
      | @cons x y ms ns _ h hs =>
          cases h with
          | @string _ id' h =>
              cases hs with
              | nil => exact parseId_idBody id'

/-- A user's recording, found under a URI. -/
def userEntry (uri id : Text) : MockEntry := getEntry uri (idBody id)

/-- Asked for another URI it is swapped, when a segment is evidence. -/
theorem exists_user_swapped {uri uri' id r i : Text}
    (hfits : fitsRequest idJson "GET" uri' (userEntry uri id) = true) (n : Nat)
    (hr : (uriSegments uri)[n]? = some r) (hi : (uriSegments uri')[n]? = some i) (hne : r ≠ i)
    (hc : Text.contains (idBody id) r = true) :
    ∃ e, findSmartSwap idJson default [userEntry uri id] "GET" uri' [] = some e
      ∧ idJson.parseJson e.response.body = some (substituteInJson
        (evidenceMap idJson default (userEntry uri id) uri' []) (idValue id)) := by
  have hpick : [userEntry uri id].reverse.find? (fitsRequest idJson "GET" uri')
      = some (userEntry uri id) := by
    rw [List.reverse_singleton, List.find?_cons_of_pos hfits]
  have hdiff : DiffersAt idJson (userEntry uri id) uri' [] r i := differsAt_segment n hr hi hne
  obtain ⟨e, he⟩ := exists_swap_of_evidence default hpick hdiff hc
  refine ⟨e, he, ?_⟩
  rw [findSmartSwap_of_picked hpick] at he
  exact parseJson_finishSwap he (parseId_idBody id) (printsBack_idValue id)

-- =========================================================== the results

variable (env rs)

/-- Without an entry that fits there is no result. With one, the checks on
its segments pass, and there is no result exactly when the request differs
from it and nothing is to be replaced. A result is that entry with another
response body; when the body is JSON, it is of the same shape, and each of its
strings is the recorded one or the request's value where that one was the
recorded value. -/
theorem findSmartSwap_sound (mocks : List MockEntry) (method uri body : Text) :
    (mocks.reverse.find? (fitsRequest env method uri) = none →
        findSmartSwap env rs mocks method uri body = none)
      ∧ ∀ m, mocks.reverse.find? (fitsRequest env method uri) = some m →
        (uriSegments m.request.uri).length = (uriSegments uri).length
        ∧ ∃ subs, swapSubs env rs m uri body = some subs
          ∧ (findSmartSwap env rs mocks method uri body = none
            ↔ subs = ∅ ∧ (m.request.uri ≠ uri ∨ m.request.body ≠ body))
          ∧ ∀ e, findSmartSwap env rs mocks method uri body = some e →
            e = { m with response := { m.response with body := e.response.body } }
            ∧ ∀ v, env.parseJson m.response.body = some v → PrintsBack env v →
              ∃ w, env.parseJson e.response.body = some w
                ∧ Json.Rel (fun s s' => s' = s ∨ DiffersAt env m uri body s s') v w := by
  refine ⟨?_, ?_⟩
  · intro hnone
    unfold findSmartSwap
    rw [hnone]
    rfl
  · intro m hpick
    have hfits := fits_of_picked hpick
    refine ⟨(segments_of_fits env hfits).1, _, swapSubs_of_fits env rs body hfits, ?_, ?_⟩
    · rw [findSmartSwap_of_picked hpick, finishSwap_eq_none]
    · intro e he
      rw [findSmartSwap_of_picked hpick] at he
      refine ⟨?_, ?_⟩
      · rw [finishSwap_eq_some he]
        rfl
      · intro v hparse hprint
        exact ⟨_, parseJson_finishSwap he hparse hprint,
          rel_substitute_iff.mpr fun s _ => swapped_evidenceMap rs m uri body s⟩

/-- A user's recording answers for another user, with a body of its shape. -/
theorem findSmartSwap_sound_user :
    ∃ e w, findSmartSwap idJson default [userEntry "/users/1" "1"] "GET" "/users/2" [] = some e
      ∧ idJson.parseJson e.response.body = some w
      ∧ Json.Rel (fun s s' => s' = s
        ∨ DiffersAt idJson (userEntry "/users/1" "1") "/users/2" [] s s') (idValue "1") w := by
  have hfits : fitsRequest idJson "GET" "/users/2" (userEntry "/users/1" "1") = true := by decide
  obtain ⟨e, he, -⟩ := exists_user_swapped hfits 2 (r := "1") (i := "2") (by decide) (by decide)
    (by decide) (by decide)
  obtain ⟨-, subs, -, -, hsome⟩ := (findSmartSwap_sound idJson default
    [userEntry "/users/1" "1"] "GET" "/users/2" []).2 (userEntry "/users/1" "1") (by decide)
  obtain ⟨w, hw, hrel⟩ := (hsome e he).2 (idValue "1") (parseId_idBody "1")
    (printsBack_idValue "1")
  exact ⟨e, w, he, hw, hrel⟩

-- ================================================== conflicting positions

/-- A recorded value that is in the response has one value to be replaced
by, wherever it stands in the request. -/
def Unambiguous (recorded : MockEntry) (uri body : Text) : Prop :=
  ∀ r i i', DiffersAt env recorded uri body r i → DiffersAt env recorded uri body r i' →
    Text.contains recorded.response.body r = true → i = i'

variable {env} in
theorem lookup_evidenceMap {m : MockEntry} {uri body : Text}
    (h : Unambiguous env m uri body) {r i : Text} :
    (evidenceMap env rs m uri body).lookup r = some i
      ↔ DiffersAt env m uri body r i ∧ Text.contains m.response.body r = true := by
  refine ⟨differsAt_of_lookup, ?_⟩
  rintro ⟨hdiff, hc⟩
  have hsome := (isSome_lookup_evidenceMap rs).mpr ⟨⟨i, hdiff⟩, hc⟩
  obtain ⟨i', hi'⟩ := Option.isSome_iff_exists.mp hsome
  rw [hi', h r i i' hdiff (differsAt_of_lookup hi').1 hc]

/-- Without conflicts the order of the parameters does not matter. -/
theorem evidenceMap_order_free {m : MockEntry} {uri body : Text}
    (h : Unambiguous env m uri body) (rs rs' : RandomState) :
    evidenceMap env rs m uri body = evidenceMap env rs' m uri body := by
  apply Finmap.ext_lookup
  intro r
  apply Option.ext
  intro i
  rw [lookup_evidenceMap rs h, lookup_evidenceMap rs' h]

/-- Every result is unambiguous, and none depends on the order in which the
parameters are visited, exactly when the entry that is picked has no conflict
with the request. The order in which the text of a response is replaced is
another one. -/
theorem swap_unambiguous_iff (mocks : List MockEntry) (method uri body : Text) :
    (∀ m, mocks.reverse.find? (fitsRequest env method uri) = some m →
        (∀ rs, (findSmartSwap env rs mocks method uri body).isSome →
          Unambiguous env m uri body)
        ∧ ∀ rs params params' : RandomState,
          (swapSubs env params m uri body).bind (finishSwap env rs m uri body)
            = (swapSubs env params' m uri body).bind (finishSwap env rs m uri body))
      ↔ ∀ m, mocks.reverse.find? (fitsRequest env method uri) = some m →
        Unambiguous env m uri body := by
  refine forall_congr' fun m => forall_congr' fun hpick => ?_
  constructor
  · rintro ⟨hsome, -⟩ r i i' hdiff hdiff' hc
    -- The value itself is evidence, so there is a result.
    obtain ⟨e, he⟩ := exists_swap_of_evidence default hpick hdiff hc
    exact hsome default (Option.isSome_of_mem he) r i i' hdiff hdiff' hc
  · intro h
    refine ⟨fun _ _ => h, fun rs params params' => ?_⟩
    have hfits := fits_of_picked hpick
    rw [swapSubs_of_fits env params body hfits, swapSubs_of_fits env params' body hfits,
      evidenceMap_order_free env h params params']

/-- Two numbers of a path are one number of the response. -/
def orderEntry : MockEntry := getEntry "/users/1/orders/1" "order 1 of user 1"

/-- A request for another user and another order gets a result all the
same. -/
theorem order_swapped_ambiguously :
    [orderEntry].reverse.find? (fitsRequest default "GET" "/users/2/orders/3") = some orderEntry
      ∧ (findSmartSwap default default [orderEntry] "GET" "/users/2/orders/3" []).isSome
      ∧ ¬ Unambiguous default orderEntry "/users/2/orders/3" [] := by
  have hpick : [orderEntry].reverse.find? (fitsRequest default "GET" "/users/2/orders/3")
      = some orderEntry := by decide
  have hr : (uriSegments orderEntry.request.uri)[2]? = some ("1" : Text) := by decide
  have hr' : (uriSegments orderEntry.request.uri)[4]? = some ("1" : Text) := by decide
  have hi : (uriSegments "/users/2/orders/3")[2]? = some ("2" : Text) := by decide
  have hi' : (uriSegments "/users/2/orders/3")[4]? = some ("3" : Text) := by decide
  have huser : DiffersAt default orderEntry "/users/2/orders/3" [] "1" "2" :=
    differsAt_segment 2 hr hi (by decide)
  have horder : DiffersAt default orderEntry "/users/2/orders/3" [] "1" "3" :=
    differsAt_segment 4 hr' hi' (by decide)
  obtain ⟨e, he⟩ := exists_swap_of_evidence default hpick huser (by decide)
  refine ⟨hpick, Option.isSome_of_mem he, fun h => ?_⟩
  exact absurd (h "1" "2" "3" huser horder (by decide)) (by decide)

-- ========================================================== empty strings

variable {env}

theorem contains_nil (t : Text) : Text.contains t [] = true :=
  Text.contains_iff.mpr List.nil_infix

/-- An empty string stays empty exactly when no recorded value that differs is
empty. -/
theorem swapped_nil_iff {m : MockEntry} {uri body : Text} :
    swapped (evidenceMap env rs m uri body) [] = []
      ↔ ∀ i, ¬ DiffersAt env m uri body [] i := by
  unfold swapped
  constructor
  · intro h i hdiff
    have hsome := (isSome_lookup_evidenceMap rs).mpr
      ⟨⟨i, hdiff⟩, contains_nil m.response.body⟩
    obtain ⟨i', hi'⟩ := Option.isSome_iff_exists.mp hsome
    rw [hi', Option.getD_some] at h
    exact (differsAt_of_lookup hi').1.2 h.symm
  · intro h
    cases hlook : (evidenceMap env rs m uri body).lookup [] with
    | none => rfl
    | some i => exact absurd (differsAt_of_lookup hlook).1 (h i)

theorem rel_blanks_iff {m : MockEntry} {uri body : Text} {v : Json} :
    Json.Rel (fun s s' => s = [] → s' = []) v
        (substituteInJson (evidenceMap env rs m uri body) v)
      ↔ [] ∉ v.strings ∨ ∀ i, ¬ DiffersAt env m uri body [] i := by
  rw [rel_substitute_iff, ← swapped_nil_iff rs]
  constructor
  · intro h
    by_cases hmem : [] ∈ v.strings
    · exact Or.inr (h [] hmem rfl)
    · exact Or.inl hmem
  · rintro (h | h) s hs rfl
    · exact absurd hs h
    · exact h

/-- A JSON response keeps its empty strings exactly when it has none, or no
recorded value that differs is empty. -/
theorem swap_keeps_blanks_iff {mocks : List MockEntry} {method uri body : Text}
    {m : MockEntry} {v : Json}
    (hpick : mocks.reverse.find? (fitsRequest env method uri) = some m)
    (hparse : env.parseJson m.response.body = some v) (hprint : PrintsBack env v) :
    (∀ e, findSmartSwap env rs mocks method uri body = some e →
        ∃ w, env.parseJson e.response.body = some w
          ∧ Json.Rel (fun s s' => s = [] → s' = []) v w)
      ↔ [] ∉ v.strings ∨ ∀ i, ¬ DiffersAt env m uri body [] i := by
  rw [findSmartSwap_of_picked hpick, ← rel_blanks_iff rs]
  constructor
  · intro h
    cases hswap : finishSwap env rs m uri body (evidenceMap env rs m uri body) with
    | none =>
        -- Without a result there was no evidence, and nothing to replace.
        rw [(finishSwap_eq_none env rs).mp hswap |>.1, rel_substitute_iff]
        rintro s - rfl
        rfl
    | some e =>
        obtain ⟨w, hw, hrel⟩ := h e hswap
        rw [parseJson_finishSwap hswap hparse hprint, Option.some.injEq] at hw
        rw [hw]
        exact hrel
  · intro h e he
    exact ⟨_, parseJson_finishSwap he hparse hprint, h⟩

end Swaps

/-- A user without an id, asked for by field: the field's name is all that
differs. -/
theorem differsAt_field {r i : Text}
    (h : DiffersAt idJson (userEntry "/users?field=id" []) "/users?field=name" [] r i) :
    r = "id" := by
  obtain ⟨hvalues, hne⟩ := h
  cases hvalues with
  | segment n hr hi =>
      have hsame : uriSegments (userEntry "/users?field=id" []).request.uri
          = uriSegments "/users?field=name" := by decide
      rw [hsame, hi, Option.some.injEq] at hr
      exact absurd hr.symm hne
  | param key hr hi =>
      have hone : queryParams (userEntry "/users?field=id" []).request.uri
          = HashMap.collect [(("field" : Text), ("id" : Text))] := rfl
      rw [hone] at hr
      have hpair := HashMap.mem_of_lookup_collect hr
      rw [List.mem_singleton] at hpair
      cases hpair
      rfl
  | body hrec hinc => exact absurd rfl hinc

/-- The id stays empty when nothing that differs is: another field is asked
for, and its name is in the response. -/
theorem swap_keeps_blanks_user :
    ∃ e w, findSmartSwap idJson default [userEntry "/users?field=id" []] "GET"
        "/users?field=name" [] = some e
      ∧ [] ∈ (idValue []).strings
      ∧ idJson.parseJson e.response.body = some w
      ∧ Json.Rel (fun s s' => s = [] → s' = []) (idValue []) w := by
  have hpick : [userEntry "/users?field=id" []].reverse.find?
      (fitsRequest idJson "GET" "/users?field=name") = some (userEntry "/users?field=id" []) := by
    decide
  have hdiff : DiffersAt idJson (userEntry "/users?field=id" []) "/users?field=name" []
      "id" "name" := ⟨.param "field" (by decide) (by decide), by decide⟩
  obtain ⟨e, he⟩ := exists_swap_of_evidence default hpick hdiff (by decide)
  obtain ⟨w, hw, hrel⟩ := (swap_keeps_blanks_iff default hpick (parseId_idBody [])
    (printsBack_idValue [])).mpr (Or.inr fun i h => absurd (differsAt_field h) (by decide)) e he
  exact ⟨e, w, he, by decide, hw, hrel⟩

/-- A recording of the list of users, without an id, answers for a user with
that user's id put in. -/
theorem blank_filled :
    ∃ e, findSmartSwap idJson default [userEntry "/users/" []] "GET" "/users/5" [] = some e
      ∧ idJson.parseJson (userEntry "/users/" []).response.body = some (idValue [])
      ∧ ¬ ∃ w, idJson.parseJson e.response.body = some w
        ∧ Json.Rel (fun s s' => s = [] → s' = []) (idValue []) w := by
  have hr : (uriSegments "/users/")[2]? = some [] := by decide
  have hi : (uriSegments "/users/5")[2]? = some ("5" : Text) := by decide
  have hfits : fitsRequest idJson "GET" "/users/5" (userEntry "/users/" []) = true := by decide
  obtain ⟨e, he, hparse⟩ := exists_user_swapped hfits 2 hr hi (by decide) (by decide)
  refine ⟨e, he, parseId_idBody [], ?_⟩
  rintro ⟨w, hw, hrel⟩
  rw [hparse, Option.some.injEq] at hw
  rw [← hw] at hrel
  rcases (rel_blanks_iff default).mp hrel with hmem | hnone
  · exact hmem (by decide)
  · exact hnone "5" (differsAt_segment 2 hr hi (by decide))

end GostlyProxy
