/-
Smart swap and the order of the entries.

`findSmartSwap` takes the last entry of the slice that fits the request,
then accepts or rejects that one. The slice comes out of a hash map, so
"last" is no property of the entries.

# When the order does not matter

An entry that fits is rejected for one reason only: the request differs
from it and no recorded value that differs occurs in the recorded response
(`NoEvidence`); the other early returns cannot be taken
(`swapEntry_eq_none_iff`). An accepted entry is served under its own
request, so two entries that fit and are not both rejected give two
different results, each in the order that puts it last
(`swap_order_free_iff`).
-/
import GostlyProxy.Proofs.Codec
import GostlyProxy.Proofs.Substitutions

namespace GostlyProxy

open Lib

-- ================================================================ evidence

/-- The request differs from the recorded one, and no recorded value that
differs (a path segment, a parameter, a string of the body) occurs in the
recorded response. -/
structure NoEvidence (env : Externals) (recorded : MockEntry) (uri body : Text) : Prop where
  differs : recorded.request.uri ≠ uri ∨ recorded.request.body ≠ body
  path : ∀ p ∈ (Text.split '/' (splitUri recorded.request.uri).1).zip
      (Text.split '/' (splitUri uri).1),
    p.1 ≠ p.2 → Text.contains recorded.response.body p.1 = false
  query : ∀ key recVal incVal,
    (parseQuery (splitUri recorded.request.uri).2).lookup key = some recVal →
    (parseQuery (splitUri uri).2).lookup key = some incVal →
    recVal ≠ incVal → Text.contains recorded.response.body recVal = false
  body : recorded.request.body ≠ [] → body ≠ [] → recorded.request.body ≠ body →
    ∀ recJson incJson, env.parseJson recorded.request.body = some recJson →
      env.parseJson body = some incJson →
      ∀ d ∈ collectValueDiffs recJson incJson,
        Text.contains recorded.response.body d.1 = false

section Swap

variable (env : Externals) (rs : RandomState)

-- ====================================================== one fitting entry

/-- An accepted entry keeps all but its response body. -/
theorem swapEntry_some {recorded e : MockEntry} {uri body : Text}
    (h : swapEntry env rs recorded uri body = some e) :
    e = { recorded with response := { recorded.response with body := e.response.body } } := by
  unfold swapEntry at h
  dsimp only at h
  split at h
  · cases h
  · obtain ⟨subs, -, h⟩ := Option.bind_eq_some_iff.mp h
    split at h
    · cases h
    · cases h
      rfl

theorem finishSwap_eq_none {recorded : MockEntry} {uri body : Text}
    {subs : HashMap Text Text} :
    finishSwap env rs recorded uri body subs = none
      ↔ subs = ∅ ∧ (recorded.request.uri ≠ uri ∨ recorded.request.body ≠ body) := by
  unfold finishSwap
  split
  · next h =>
      simp only [Bool.and_eq_true, decide_eq_true_eq, Bool.or_eq_true,
        HashMap.size_eq_zero] at h
      exact iff_of_true rfl h
  · next h =>
      simp only [Bool.and_eq_true, decide_eq_true_eq, Bool.or_eq_true,
        HashMap.size_eq_zero] at h
      exact iff_of_false (Option.some_ne_none _) h

/-- `NoEvidence`, without its three kinds of positions. -/
theorem noEvidence_iff {recorded : MockEntry} {uri body : Text} :
    NoEvidence env recorded uri body
      ↔ (recorded.request.uri ≠ uri ∨ recorded.request.body ≠ body)
        ∧ ∀ r i, DiffersAt env recorded uri body r i →
          Text.contains recorded.response.body r = false := by
  constructor
  · intro h
    refine ⟨h.differs, ?_⟩
    rintro r i ⟨hvalues, hne⟩
    cases hvalues with
    | segment n hr hi =>
        refine h.path (r, i) (List.mem_iff_getElem?.mpr ⟨n, ?_⟩) hne
        exact List.getElem?_zip_eq_some.mpr ⟨hr, hi⟩
    | param key hr hi => exact h.query key r i hr hi hne
    | body hrec hinc hbody hr hi hat =>
        exact h.body hrec hinc hbody _ _ hr hi (r, i) (mem_collectValueDiffs.mpr ⟨hat, hne⟩)
  · rintro ⟨hdiffers, h⟩
    refine ⟨hdiffers, ?_, ?_, ?_⟩
    · rintro ⟨r, i⟩ hp hne
      obtain ⟨n, hn⟩ := List.mem_iff_getElem?.mp hp
      obtain ⟨hr, hi⟩ := List.getElem?_zip_eq_some.mp hn
      exact h r i ⟨.segment n hr hi, hne⟩
    · intro key r i hr hi hne
      exact h r i ⟨.param key hr hi, hne⟩
    · rintro hrec hinc hbody recJson incJson hr hi ⟨r, i⟩ hd
      obtain ⟨hat, hne⟩ := mem_collectValueDiffs.mp hd
      exact h r i ⟨.body hrec hinc hbody hr hi hat, hne⟩

/-- An entry that fits is rejected exactly when there is no evidence for a
swap. -/
theorem swapEntry_eq_none_iff {method uri : Text} {recorded : MockEntry} (body : Text)
    (h : fitsRequest env method uri recorded = true) :
    swapEntry env rs recorded uri body = none ↔ NoEvidence env recorded uri body := by
  rw [swapEntry_of_fits env rs body h, finishSwap_eq_none, evidenceMap_eq_empty,
    noEvidence_iff]
  exact and_comm

/-- Entries recorded for different requests give the same result only by
giving none. -/
theorem swapEntry_eq_none_of_agree {a b : MockEntry} {uri body : Text}
    (hne : (a.request.method, a.request.uri) ≠ (b.request.method, b.request.uri))
    (h : swapEntry env rs a uri body = swapEntry env rs b uri body) :
    swapEntry env rs a uri body = none := by
  cases hswap : swapEntry env rs a uri body with
  | none => rfl
  | some x =>
      have hx : x.request = a.request := by rw [swapEntry_some env rs hswap]
      have hx' : x.request = b.request := by rw [swapEntry_some env rs (h.symm.trans hswap)]
      rw [← hx, ← hx'] at hne
      exact absurd rfl hne

-- ========================================================= all the orders

/-- Whatever fits can be picked: it is last in some order. -/
theorem findSmartSwap_last {mocks : List MockEntry} {method uri : Text} (body : Text)
    {e : MockEntry} (he : e ∈ mocks) (h : fitsRequest env method uri e = true) :
    ∃ order : List MockEntry, order.Perm mocks
      ∧ findSmartSwap env rs order method uri body = swapEntry env rs e uri body := by
  classical
  refine ⟨mocks.erase e ++ [e], ?_, ?_⟩
  · exact (List.perm_append_singleton e _).trans (List.perm_cons_erase he).symm
  · unfold findSmartSwap
    simp [h]

/-- Whatever is picked is rejected when nothing that fits has evidence. -/
theorem findSmartSwap_of_noEvidence {order : List MockEntry} {method uri body : Text}
    (hreject : ∀ e ∈ order, fitsRequest env method uri e = true → NoEvidence env e uri body) :
    findSmartSwap env rs order method uri body = none := by
  unfold findSmartSwap
  cases hfind : order.reverse.find? (fitsRequest env method uri) with
  | none => rfl
  | some e =>
      have he := List.mem_reverse.mp (List.mem_of_find?_eq_some hfind)
      have hfit := List.find?_some hfind
      exact (swapEntry_eq_none_iff env rs body hfit).mpr (hreject e he hfit)

/-- The result is one and the same in every order of the entries exactly
when at most one entry fits the request, or none that fits has evidence. -/
theorem swap_order_free_iff (mocks : List MockEntry) (method uri body : Text)
    (hdistinct : mocks.Pairwise fun e e' =>
      (e.request.method, e.request.uri) ≠ (e'.request.method, e'.request.uri)) :
    (∀ order order' : List MockEntry, order.Perm mocks → order'.Perm mocks →
        findSmartSwap env rs order method uri body
          = findSmartSwap env rs order' method uri body)
      ↔ (∀ e ∈ mocks, ∀ e' ∈ mocks, fitsRequest env method uri e = true →
          fitsRequest env method uri e' = true → e = e')
        ∨ ∀ e ∈ mocks, fitsRequest env method uri e = true →
          NoEvidence env e uri body := by
  constructor
  · intro horder
    -- In the order that puts it last, each fitting entry gives the result.
    have hsame : ∀ e ∈ mocks, ∀ e' ∈ mocks, fitsRequest env method uri e = true →
        fitsRequest env method uri e' = true →
        swapEntry env rs e uri body = swapEntry env rs e' uri body := by
      intro e he e' he' hfit hfit'
      obtain ⟨order, hperm, hlast⟩ := findSmartSwap_last env rs body he hfit
      obtain ⟨order', hperm', hlast'⟩ := findSmartSwap_last env rs body he' hfit'
      rw [← hlast, ← hlast', horder order order' hperm hperm']
    by_cases hone : ∀ e ∈ mocks, ∀ e' ∈ mocks, fitsRequest env method uri e = true →
        fitsRequest env method uri e' = true → e = e'
    · exact Or.inl hone
    · refine Or.inr fun e he hfit => ?_
      push Not at hone
      obtain ⟨a, ha, b, hb, hfita, hfitb, hab⟩ := hone
      -- Two entries fit, so the result of each is none.
      have hsymm : Std.Symm fun e e' : MockEntry =>
          (e.request.method, e.request.uri) ≠ (e'.request.method, e'.request.uri) :=
        ⟨fun _ _ h => Ne.symm h⟩
      have hreject : swapEntry env rs a uri body = none :=
        swapEntry_eq_none_of_agree env rs (hdistinct.forall ha hb hab)
          (hsame a ha b hb hfita hfitb)
      exact (swapEntry_eq_none_iff env rs body hfit).mp
        ((hsame e he a ha hfit hfita).trans hreject)
  · intro hcond order order' hperm hperm'
    have hmem : ∀ e, e ∈ order.reverse ↔ e ∈ order'.reverse := by
      intro e
      rw [List.mem_reverse, List.mem_reverse, hperm.mem_iff, hperm'.mem_iff]
    rcases hcond with hone | hreject
    · unfold findSmartSwap
      rw [find?_eq_of_unique hmem]
      intro e he e' he' hfit hfit'
      rw [List.mem_reverse, hperm.mem_iff] at he he'
      exact hone e he e' he' hfit hfit'
    · rw [findSmartSwap_of_noEvidence env rs fun e he => hreject e (hperm.mem_iff.mp he),
        findSmartSwap_of_noEvidence env rs fun e he => hreject e (hperm'.mem_iff.mp he)]

end Swap

-- ========================================================== two recordings

/-- Of a user who was there, and of an order. -/
def oneFits : List MockEntry := [getEntry "/users/1" "user 1", getEntry "/orders/7" "order 7"]

/-- A request only one of them fits gets the same result from either end. -/
theorem swap_order_free_oneFits :
    findSmartSwap default default oneFits "GET" "/users/3" []
      = findSmartSwap default default oneFits.reverse "GET" "/users/3" [] :=
  (swap_order_free_iff default default oneFits "GET" "/users/3" [] (by decide)).mpr
    (Or.inl (by decide)) oneFits oneFits.reverse (List.Perm.refl oneFits)
    (List.reverse_perm oneFits)

/-- A recording of a user who was gone. -/
def goneEntry : MockEntry :=
  let e := getEntry "/users/2" "user 2"
  { e with response := { e.response with status := 404 } }

def twoFit : List MockEntry := [getEntry "/users/1" "user 1", goneEntry]

/-- With evidence a fitting entry is accepted, and keeps its status. -/
theorem status_of_evidence {e : MockEntry} (he : e ∈ twoFit)
    (hfits : fitsRequest default "GET" "/users/3" e = true)
    (hev : ¬ NoEvidence default e "/users/3" []) :
    ∃ order x, order.Perm twoFit
      ∧ findSmartSwap default default order "GET" "/users/3" [] = some x
      ∧ x.response.status = e.response.status := by
  obtain ⟨order, hperm, hlast⟩ := findSmartSwap_last default default [] he hfits
  cases hswap : swapEntry default default e "/users/3" [] with
  | none => exact absurd ((swapEntry_eq_none_iff default default [] hfits).mp hswap) hev
  | some x =>
      refine ⟨order, x, hperm, hlast.trans hswap, ?_⟩
      rw [swapEntry_some default default hswap]

/-- The same two recordings, the same request: one order answers 200, the
other 404. -/
theorem last_fitting_entry_decides :
    ¬ ∀ (env : Externals) (rs : RandomState) (mocks : List MockEntry)
        (method uri body : Text),
      (mocks.Pairwise fun e e' =>
        (e.request.method, e.request.uri) ≠ (e'.request.method, e'.request.uri)) →
      ∀ order order' : List MockEntry, order.Perm mocks → order'.Perm mocks →
        findSmartSwap env rs order method uri body
          = findSmartSwap env rs order' method uri body := by
  intro h
  have hdigit : ∀ e ∈ twoFit, ∃ p ∈ (Text.split '/' (splitUri e.request.uri).1).zip
      (Text.split '/' (splitUri "/users/3").1),
      p.1 ≠ p.2 ∧ Text.contains e.response.body p.1 = true := by decide
  have hev : ∀ e ∈ twoFit, ¬ NoEvidence default e "/users/3" [] := by
    intro e he hno
    obtain ⟨p, hp, hne, hc⟩ := hdigit e he
    rw [hno.path p hp hne] at hc
    cases hc
  obtain ⟨order, x, hperm, hx, h200⟩ := status_of_evidence (e := getEntry "/users/1" "user 1")
    (by decide) (by decide) (hev _ (by decide))
  obtain ⟨order', x', hperm', hx', h404⟩ := status_of_evidence (e := goneEntry)
    (by decide) (by decide) (hev _ (by decide))
  have heq := h default default twoFit "GET" "/users/3" [] (by decide) order order' hperm hperm'
  rw [hx, hx', Option.some.injEq] at heq
  rw [heq, h404] at h200
  exact absurd h200 (by decide)

end GostlyProxy
