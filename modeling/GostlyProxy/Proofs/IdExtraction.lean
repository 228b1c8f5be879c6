/-
What `extractId` finds: the id of an object no more than
`maxIdExtractionDepth` steps below the root.

The walk is a bounded search (`Lib/Descent.lean`) of the tree of a value's
members and items, where an object's own value is its first usable
candidate (`firstUsable`) and everything else has none (`walkForId_eq`).
The statement speaks of objects and candidates only: `HasUsable`,
`FirstUsable` and `Descent` are read off the JSON value.
-/
import GostlyProxy.Lib.Descent
import GostlyProxy.Model.ResourceStore

namespace GostlyProxy

open Lib

-- ================================================= objects and candidates

/-- One step down: to a member of an object or an item of an array. -/
inductive Json.Step : Json → Json → Prop where
  | member {ms : List (Text × Json)} {key : Text} {v : Json} :
      (key, v) ∈ ms → Step (.object ms) v
  | item {items : List Json} {v : Json} : v ∈ items → Step (.array items) v

/-- `Descent body above v`: steps lead from `body` down to `v`, through
the values of `above`, the body first. -/
abbrev Descent : Json → List Json → Json → Prop := Lib.Descent.Path Json.Step

/-- A value that serves as an id, with the id it gives. -/
inductive UsableId : Json → Text → Prop where
  | string {s : Text} : s ≠ [] → UsableId (.string s) s
  | number (digits : Text) : UsableId (.number digits) digits

/-- The candidate keys, in the order they are tried. -/
def idCandidates (collection : Text) (hint : Option Text) : List Text :=
  hint.toList ++
    [("id" : Text), "_id", (Text.stripSuffix ['s'] collection).getD collection ++ ("_id" : Text)]

/-- An object with a candidate key that holds a usable id. -/
def HasUsable (candidates : List Text) (v : Json) : Prop :=
  ∃ ms, v = .object ms ∧
    ∃ cand ∈ candidates, ∃ w s, Json.lookup cand ms = some w ∧ UsableId w s

/-- An object whose first usable candidate gives the id `s`. -/
def FirstUsable (candidates : List Text) (v : Json) (s : Text) : Prop :=
  ∃ ms, v = .object ms ∧
    ∃ tried cand rest w, candidates = tried ++ cand :: rest ∧
      Json.lookup cand ms = some w ∧ UsableId w s ∧
      ∀ c ∈ tried, ∀ w' s', Json.lookup c ms = some w' → ¬ UsableId w' s'

theorem stringifyId_eq_some {v : Json} {s : Text} : stringifyId v = some s ↔ UsableId v s := by
  constructor
  · intro h
    cases v with
    | string t =>
        cases t with
        | nil => cases h
        | cons c cs =>
            cases h
            exact .string (List.cons_ne_nil c cs)
    | number digits =>
        cases h
        exact .number s
    | _ => cases h
  · rintro (⟨hne⟩ | _)
    · rw [stringifyId, if_neg (by simpa using hne)]
    · rfl

/-- The candidate under a key of an object, when it is usable. -/
theorem lookup_bind_stringifyId {cand s : Text} {ms : List (Text × Json)} :
    (Json.lookup cand ms).bind stringifyId = some s ↔
      ∃ w, Json.lookup cand ms = some w ∧ UsableId w s := by
  rw [Option.bind_eq_some_iff]
  exact exists_congr fun w => and_congr_right fun _ => stringifyId_eq_some

-- ============================================ the walk is a bounded search

/-- The values one step down. -/
def Json.children : Json → List Json
  | .object ms => ms.map (·.2)
  | .array items => items
  | _ => []

theorem Json.mem_children {v w : Json} : w ∈ v.children ↔ Json.Step v w := by
  constructor
  · intro h
    cases v with
    | object ms =>
        obtain ⟨m, hm, rfl⟩ := List.mem_map.mp h
        exact .member hm
    | array items => exact .item h
    | _ => cases h
  · rintro (hm | hi)
    · exact List.mem_map_of_mem hm
    · exact hi

/-- An object's own id; the other values have none. -/
def firstUsable (candidates : List Text) : Json → Option Text
  | .object ms => candidates.findSome? fun cand => (Json.lookup cand ms).bind stringifyId
  | _ => none

theorem walkForId_eq (candidates : List Text) (levels : Nat) (v : Json) :
    walkForId candidates levels v =
      Lib.Descent.search Json.children (firstUsable candidates) levels v := by
  induction levels generalizing v with
  | zero => cases v <;> rfl
  | succ levels ih =>
      have hwalk : walkForId candidates levels =
          Lib.Descent.search Json.children (firstUsable candidates) levels := funext ih
      cases v with
      | object ms =>
          rw [walkForId, Lib.Descent.search, firstUsable, Json.children, List.findSome?_map, hwalk]
          cases candidates.findSome? fun cand => (Json.lookup cand ms).bind stringifyId <;> rfl
      | array items =>
          rw [walkForId, Lib.Descent.search, firstUsable, Json.children, hwalk, Option.none_or]
          intro ms hms
          cases hms
      | _ => rfl

theorem firstUsable_eq_none {candidates : List Text} {v : Json} :
    firstUsable candidates v = none ↔ ¬ HasUsable candidates v := by
  cases v with
  | object ms =>
      rw [firstUsable, List.findSome?_eq_none_iff]
      constructor
      · rintro h ⟨_, hv, cand, hcand, w, s, hlook, husable⟩
        cases hv
        have hsome := lookup_bind_stringifyId.mpr ⟨w, hlook, husable⟩
        rw [h cand hcand] at hsome
        cases hsome
      · intro h cand hcand
        refine Option.eq_none_iff_forall_not_mem.mpr fun s hs => h ⟨ms, rfl, cand, hcand, ?_⟩
        obtain ⟨w, hlook, husable⟩ := lookup_bind_stringifyId.mp hs
        exact ⟨w, s, hlook, husable⟩
  | _ =>
      refine ⟨?_, fun _ => rfl⟩
      rintro - ⟨_, hv, _⟩
      cases hv

theorem firstUsable_eq_some {candidates : List Text} {v : Json} {s : Text}
    (h : firstUsable candidates v = some s) : FirstUsable candidates v s := by
  cases v with
  | object ms =>
      rw [firstUsable, List.findSome?_eq_some_iff] at h
      obtain ⟨tried, cand, rest, hsplit, hcand, htried⟩ := h
      obtain ⟨w, hlook, husable⟩ := lookup_bind_stringifyId.mp hcand
      refine ⟨ms, rfl, tried, cand, rest, w, hsplit, hlook, husable, ?_⟩
      intro c hc w' s' hlook' husable'
      have hsome := lookup_bind_stringifyId.mpr ⟨w', hlook', husable'⟩
      rw [htried c hc] at hsome
      cases hsome
  | _ => cases h

-- ========================================================== what is found

/-- No id is found exactly when no object within three steps has a usable
candidate; an id that is found is the one of the first usable candidate of
such an object, and the objects above it have none. -/
theorem extractId_finds (body : Json) (collection : Text) (hint : Option Text) :
    (extractId body collection hint = none ↔
      ∀ above v, Descent body above v → above.length ≤ 3 →
        ¬ HasUsable (idCandidates collection hint) v) ∧
    ∀ s, extractId body collection hint = some s →
      ∃ above v, Descent body above v ∧ above.length ≤ 3 ∧
        FirstUsable (idCandidates collection hint) v s ∧
        ∀ a ∈ above, ¬ HasUsable (idCandidates collection hint) a := by
  have hsearch : extractId body collection hint =
      Lib.Descent.search Json.children (firstUsable (idCandidates collection hint))
        (maxIdExtractionDepth + 1) body :=
    walkForId_eq _ _ body
  rw [hsearch]
  constructor
  · simp only [Lib.Descent.search_eq_none fun _ _ => Json.mem_children, firstUsable_eq_none]
    exact forall₂_congr fun above v => imp_congr_right fun _ => by
      rw [maxIdExtractionDepth, Nat.lt_succ_iff]
  · intro s h
    obtain ⟨above, v, hpath, hlt, hfound, habove⟩ :=
      Lib.Descent.exists_path_of_search (fun _ _ => Json.mem_children) h
    exact ⟨above, v, hpath, Nat.lt_succ_iff.mp hlt,
      firstUsable_eq_some hfound, fun a ha => firstUsable_eq_none.mp (habove a ha)⟩

end GostlyProxy
