/-
Evidence and replacements.

Smart swap serves a recording for another request only with evidence: a
changed value that occurs in the recorded response (`Evidence`). Evidence is
looked for anywhere in the response, while the substitution replaces whole
JSON strings or, in text, delimited occurrences (`Performed`). So a recording
is served as it is to a request that differs from it when there is evidence
but none that is such a string or occurrence (`swap_performed_iff`).

# What is left of a text

A pass over a text that replaces nothing still reads it again byte by byte,
if it contains the value (`reread`). That moves no delimited occurrence of an
ASCII value (`delimited_reread`); one of any other value may come or go.
-/
import GostlyProxy.Proofs.Swaps
import GostlyProxy.Proofs.TextSwap

namespace GostlyProxy

open Lib

-- ============================================================ the notions

/-- A recorded value that the request changes occurs in the recorded
response. -/
def Evidence (env : Externals) (recorded : MockEntry) (uri body r : Text) : Prop :=
  (∃ i, DiffersAt env recorded uri body r i)
    ∧ Text.contains recorded.response.body r = true

/-- Of the pairs replaced in a text, one is met when its turn comes. -/
def ReplacedInTurn (pairs : List (Text × Text)) (text : Text) : Prop :=
  ∃ front k v rest marks, pairs = front ++ (k, v) :: rest ∧ k ≠ []
    ∧ Scan isIdChar k true (front.foldl (fun t p => replaceAtWordBoundary t p.1 p.2) text) marks
    ∧ none ∈ marks

/-- Something of the recorded response is replaced: a string of the JSON, or
an occurrence in the text. -/
def Performed (env : Externals) (rs : RandomState) (recorded : MockEntry) (uri body : Text) :
    Prop :=
  ∃ subs, swapSubs env rs recorded uri body = some subs
    ∧ match env.parseJson recorded.response.body with
      | some v => ∃ s ∈ v.strings, (subs.lookup s).isSome
      | none => ReplacedInTurn (applyOrder rs subs) recorded.response.body

/-- The text that passes for these values leave when they replace nothing. -/
def reread (keys : List Text) (text : Text) : Text :=
  keys.foldl (fun t k => if !k.isEmpty && Text.contains t k then t.flatMap mangled else t) text

/-- Evidence that the substitution looks for in the same way: a string of the
JSON; in text, a value in ASCII that occurs delimited, or another value that
does in the text that is left when its turn comes. -/
def Traceable (env : Externals) (rs : RandomState) (recorded : MockEntry) (uri body : Text) :
    Prop :=
  match env.parseJson recorded.response.body with
  | some v => ∃ r ∈ v.strings, Evidence env recorded uri body r
  | none =>
    (∃ r, Evidence env recorded uri body r ∧ r ≠ [] ∧ (∀ c ∈ r, c.toNat < 128)
      ∧ Delimited isIdChar r recorded.response.body)
    ∨ ∃ front k v rest, applyOrder rs (evidenceMap env rs recorded uri body)
        = front ++ (k, v) :: rest
      ∧ (∃ c ∈ k, 128 ≤ c.toNat)
      ∧ Delimited isIdChar k (reread (front.map (·.1)) recorded.response.body)

-- ========================================================= a text, reread

/-- A character's bytes as characters are no identifier's unless it is one. -/
theorem mangled_isCode : IsCode mangled isIdChar isIdChar := by
  have hnat : ∀ b : UInt8, (Char.ofNat b.toNat).toNat = b.toNat := by
    intro b
    have hlt := b.toNat_lt
    exact Utf8.toNat_ofNat (by omega)
  refine utf8_isCode.map ?_ ?_
  · intro b b' h
    have heq := congrArg Char.toNat h
    rw [hnat, hnat] at heq
    exact UInt8.toNat_inj.mp heq
  · intro b
    rw [isIdChar_eq, isIdByte_eq, hnat]

theorem flatMap_mangled_ascii {t : Text} (h : ∀ c ∈ t, c.toNat < 128) :
    t.flatMap mangled = t := by
  calc t.flatMap mangled = t.flatMap fun c => [c] :=
        List.flatMap_congr fun c hc => mangled_ascii (h c hc)
    _ = t := List.flatMap_singleton' t

/-- The delimited occurrences of an ASCII value stay. -/
theorem delimited_reread {k : Text} (hne : k ≠ []) (hascii : ∀ c ∈ k, c.toNat < 128)
    (keys : List Text) (text : Text) :
    Delimited isIdChar k (reread keys text) ↔ Delimited isIdChar k text := by
  induction keys generalizing text with
  | nil => rfl
  | cons k' keys ih =>
      unfold reread at ih ⊢
      rw [List.foldl_cons, ih]
      split
      · have hcode := mangled_isCode.delimited_flatMap hne text
        rwa [flatMap_mangled_ascii hascii] at hcode
      · rfl

/-- A pass that replaces nothing reads the text again, if it contains the
value. -/
theorem replaceAtWordBoundary_of_not_delimited {text k : Text}
    (h : ¬ (k ≠ [] ∧ Delimited isIdChar k text)) (into : Text) :
    replaceAtWordBoundary text k into = reread [k] text := by
  show _ = if !k.isEmpty && Text.contains text k then text.flatMap mangled else text
  by_cases hk : k = []
  · subst hk
    rfl
  · have hnot : ¬ Delimited isIdChar k text := fun hd => h ⟨hk, hd⟩
    obtain ⟨marks, hscan⟩ : ∃ marks, Scan isIdChar k true text marks := exists_scan hk true text
    rw [← hscan.delimited_iff hk] at hnot
    rw [replaceAtWordBoundary_eq hk into hscan, hscan.eq_map_some hnot,
      List.isEmpty_eq_false_iff.mpr hk]
    unfold renderWith
    rw [List.flatMap_map]
    rfl

-- ================================================== the turns of the pairs

/-- A split of a list is one at its head or one of its tail. -/
theorem exists_split_cons {α : Type*} {P : List α → α → Prop} {a : α} {l : List α} :
    (∃ front b rest, a :: l = front ++ b :: rest ∧ P front b)
      ↔ P [] a ∨ ∃ front b rest, l = front ++ b :: rest ∧ P (a :: front) b := by
  constructor
  · rintro ⟨front, b, rest, hsplit, h⟩
    cases front with
    | nil =>
        cases hsplit
        exact Or.inl h
    | cons c front =>
        cases hsplit
        exact Or.inr ⟨front, b, rest, rfl, h⟩
  · rintro (h | ⟨front, b, rest, rfl, h⟩)
    · exact ⟨[], a, l, rfl, h⟩
    · exact ⟨a :: front, b, rest, rfl, h⟩

/-- A pair is met in what is left when nothing was met before. -/
theorem replacedInTurn_iff {pairs : List (Text × Text)} {text : Text} :
    ReplacedInTurn pairs text
      ↔ ∃ front p rest, pairs = front ++ p :: rest ∧ p.1 ≠ []
        ∧ Delimited isIdChar p.1 (reread (front.map (·.1)) text) := by
  have hmet : ReplacedInTurn pairs text ↔ ∃ front p rest, pairs = front ++ p :: rest ∧ p.1 ≠ []
      ∧ Delimited isIdChar p.1
        (front.foldl (fun t q => replaceAtWordBoundary t q.1 q.2) text) := by
    constructor
    · rintro ⟨front, k, v, rest, marks, hsplit, hk, hscan, hnone⟩
      exact ⟨front, (k, v), rest, hsplit, hk, (hscan.delimited_iff hk).mp hnone⟩
    · rintro ⟨front, ⟨k, v⟩, rest, hsplit, hk, hd⟩
      obtain ⟨marks, hscan⟩ := exists_scan hk true
        (front.foldl (fun t q => replaceAtWordBoundary t q.1 q.2) text)
      exact ⟨front, k, v, rest, marks, hsplit, hk, hscan, (hscan.delimited_iff hk).mpr hd⟩
  rw [hmet]
  clear hmet
  induction pairs generalizing text with
  | nil => simp
  | cons p pairs ih =>
      rw [exists_split_cons, exists_split_cons]
      by_cases hfirst : p.1 ≠ [] ∧ Delimited isIdChar p.1 text
      · exact iff_of_true (Or.inl hfirst) (Or.inl hfirst)
      · have hpass := replaceAtWordBoundary_of_not_delimited hfirst p.2
        have htail := @ih (replaceAtWordBoundary text p.1 p.2)
        refine (or_iff_right hfirst).trans (htail.trans ?_)
        rw [hpass]
        exact (or_iff_right hfirst).symm

-- ========================================================== what is exact

section Traces

variable {env : Externals} (rs : RandomState) {recorded : MockEntry} {uri body : Text}

theorem evidence_iff {r : Text} :
    ((evidenceMap env rs recorded uri body).lookup r).isSome
      ↔ Evidence env recorded uri body r := isSome_lookup_evidenceMap rs

/-- With what is put in for the evidence, the substitution replaces something
exactly when it looks for some in the same way. -/
theorem performed_iff {method : Text} (hfits : fitsRequest env method uri recorded = true) :
    Performed env rs recorded uri body ↔ Traceable env rs recorded uri body := by
  have hsubs := swapSubs_of_fits env rs body hfits
  have hperformed : Performed env rs recorded uri body
      ↔ match env.parseJson recorded.response.body with
        | some v => ∃ s ∈ v.strings, ((evidenceMap env rs recorded uri body).lookup s).isSome
        | none => ReplacedInTurn (applyOrder rs (evidenceMap env rs recorded uri body))
          recorded.response.body := by
    constructor
    · rintro ⟨subs, hsome, h⟩
      rw [hsubs, Option.some.injEq] at hsome
      rw [hsome]
      exact h
    · intro h
      exact ⟨_, hsubs, h⟩
  rw [hperformed]
  unfold Traceable
  cases env.parseJson recorded.response.body with
  | some v => simp only [evidence_iff]
  | none =>
      dsimp only
      rw [replacedInTurn_iff]
      constructor
      · rintro ⟨front, ⟨k, v⟩, rest, hsplit, hk, hd⟩
        by_cases hascii : ∀ c ∈ k, c.toNat < 128
        · have hlook : (evidenceMap env rs recorded uri body).lookup k = some v :=
            (mem_applyOrder rs).mp (by simp [hsplit])
          refine Or.inl ⟨k, (evidence_iff rs).mp (by rw [hlook]; rfl), hk, hascii, ?_⟩
          exact (delimited_reread hk hascii _ _).mp hd
        · push Not at hascii
          exact Or.inr ⟨front, k, v, rest, hsplit, hascii, hd⟩
      · rintro (⟨k, hev, hk, hascii, hd⟩ | ⟨front, k, v, rest, hsplit, ⟨c, hc, -⟩, hd⟩)
        · obtain ⟨v, hlook⟩ := Option.isSome_iff_exists.mp ((evidence_iff rs).mpr hev)
          obtain ⟨front, rest, hsplit⟩ := List.append_of_mem ((mem_applyOrder rs).mpr hlook)
          exact ⟨front, (k, v), rest, hsplit, hk, (delimited_reread hk hascii _ _).mpr hd⟩
        · exact ⟨front, (k, v), rest, hsplit, List.ne_nil_of_mem hc, hd⟩

/-- In an ASCII text that is any evidence that occurs delimited, in whatever
order the pairs are replaced. -/
theorem traceable_ascii_iff (hjson : env.parseJson recorded.response.body = none)
    (hbody : ∀ c ∈ recorded.response.body, c.toNat < 128) :
    Traceable env rs recorded uri body ↔ ∃ r, Evidence env recorded uri body r ∧ r ≠ []
      ∧ Delimited isIdChar r recorded.response.body := by
  have hascii : ∀ r, Evidence env recorded uri body r → ∀ c ∈ r, c.toNat < 128 :=
    fun r hr c hc => hbody c ((Text.contains_iff.mp hr.2).subset hc)
  unfold Traceable
  rw [hjson]
  constructor
  · rintro (⟨r, hev, hr, -, hd⟩ | ⟨front, k, v, rest, hsplit, ⟨c, hc, hwide⟩, -⟩)
    · exact ⟨r, hev, hr, hd⟩
    · -- What the map holds is evidence, and so in ASCII.
      have hlook : (evidenceMap env rs recorded uri body).lookup k = some v :=
        (mem_applyOrder rs).mp (by simp [hsplit])
      have hev := (evidence_iff rs).mp (by rw [hlook]; rfl)
      have hlt := hascii k hev c hc
      omega
  · rintro ⟨r, hev, hr, hd⟩
    exact Or.inl ⟨r, hev, hr, hascii r hev, hd⟩

end Traces

-- =========================================================== the results

/-- A recording that is served to a request that differs from it has something
replaced exactly when evidence, if there is any, is also what the substitution
looks for. -/
theorem swap_performed_iff (env : Externals) (rs : RandomState) (mocks : List MockEntry)
    (method uri body : Text) :
    (∀ m e, mocks.reverse.find? (fitsRequest env method uri) = some m →
        findSmartSwap env rs mocks method uri body = some e →
        (m.request.uri, m.request.body) ≠ (uri, body) → Performed env rs m uri body)
      ↔ ∀ m, mocks.reverse.find? (fitsRequest env method uri) = some m →
        (m.request.uri, m.request.body) ≠ (uri, body) →
        (∃ r, Evidence env m uri body r) → Traceable env rs m uri body := by
  constructor
  · rintro h m hpick hne ⟨r, ⟨i, hdiff⟩, hc⟩
    obtain ⟨e, he⟩ := exists_swap_of_evidence rs hpick hdiff hc
    exact (performed_iff rs (fits_of_picked hpick)).mp (h m e hpick he hne)
  · intro h m e hpick hswap hne
    rw [performed_iff rs (fits_of_picked hpick)]
    apply h m hpick hne
    -- A result for another request has evidence.
    by_contra hnone
    rw [findSmartSwap_of_picked hpick] at hswap
    have hempty : evidenceMap env rs m uri body = ∅ := by
      rw [evidenceMap_eq_empty]
      intro r i hdiff
      rw [← Bool.not_eq_true]
      intro hc
      exact hnone ⟨r, ⟨i, hdiff⟩, hc⟩
    have hdiffers : m.request.uri ≠ uri ∨ m.request.body ≠ body := by
      rwa [Ne, Prod.mk.injEq, not_and_or] at hne
    rw [(finishSwap_eq_none env rs).mpr ⟨hempty, hdiffers⟩] at hswap
    cases hswap

/-- Without a query and a body, a recorded value is a segment. -/
theorem mem_uriSegments_of_valuesAt {env : Externals} {recorded : MockEntry}
    {uri body r i : Text} (hquery : queryParams recorded.request.uri = ∅)
    (hbody : recorded.request.body = []) (h : ValuesAt env recorded uri body r i) :
    r ∈ uriSegments recorded.request.uri := by
  cases h with
  | segment n hr hi => exact List.mem_of_getElem? hr
  | param key hr hi =>
      rw [hquery, Finmap.lookup_empty] at hr
      cases hr
  | body hrec => exact absurd hbody hrec

/-- The number in the path is only part of the one in the response: the first
user's id is served for the second. -/
theorem served_unswapped :
    ∃ e, [userEntry "/users/1" "10"].reverse.find? (fitsRequest idJson "GET" "/users/2")
        = some (userEntry "/users/1" "10")
      ∧ ((userEntry "/users/1" "10").request.uri, (userEntry "/users/1" "10").request.body)
        ≠ (("/users/2" : Text), ([] : Text))
      ∧ findSmartSwap idJson default [userEntry "/users/1" "10"] "GET" "/users/2" [] = some e
      ∧ idJson.parseJson e.response.body = some (idValue "10")
      ∧ ¬ Performed idJson default (userEntry "/users/1" "10") "/users/2" [] := by
  have hfits : fitsRequest idJson "GET" "/users/2" (userEntry "/users/1" "10") = true := by decide
  -- The id is no recorded value.
  have hid : ¬ Evidence idJson (userEntry "/users/1" "10") "/users/2" [] "10" := by
    rintro ⟨⟨i, hvalues, -⟩, -⟩
    have hmem := mem_uriSegments_of_valuesAt (by decide) rfl hvalues
    exact absurd hmem (by decide)
  obtain ⟨e, he, hparse⟩ := exists_user_swapped hfits 2 (r := "1") (i := "2")
    (by decide) (by decide) (by decide) (by decide)
  refine ⟨e, by decide, by decide, he, ?_, ?_⟩
  · rw [← evidence_iff default, Option.not_isSome_iff_eq_none] at hid
    rw [hparse]
    show some (Json.object [("id", substituteInJson _ (.string "10"))]) = _
    rw [substituteInJson, hid]
    rfl
  · rw [performed_iff default hfits]
    intro htrace
    have hbody : idJson.parseJson (userEntry "/users/1" "10").response.body
        = some (idValue "10") := parseId_idBody "10"
    unfold Traceable at htrace
    rw [hbody] at htrace
    obtain ⟨r, hr, hev⟩ := htrace
    have hr10 : r = "10" := List.mem_singleton.mp hr
    exact hid (hr10 ▸ hev)

end GostlyProxy
