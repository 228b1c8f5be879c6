/-
Concurrent publishers of the library.

# The model

The live library is a shared cell (`Lib/Cell.lean`). The LEARN branch,
`handle_create_mock` and `reload_one_file` each load it, change their copy
and store the copy. The first two add an entry, the third swaps in or
drops the segment of a file it reads in between; what the file holds may
be anything, so it is part of the publisher.

# What is lost

A store puts back the snapshot, so an entry stored since the snapshot was
taken can be gone. `entries_found_of_fresh` says what is enough for none to
be lost: as long as no entry is stored between a publisher's load and its
own store, every published entry is found, in every state of the run and in
every hash order. Only that direction is proved; that the condition cannot
be dropped is `overlapping_publishers_lose_an_entry`.
-/
import GostlyProxy.Lib.Cell
import GostlyProxy.Proofs.Codec
import GostlyProxy.Proofs.LibraryRuns
import Mathlib.Data.Fintype.Basic
import Mathlib.Tactic.FinCases

namespace GostlyProxy

open Lib

-- ========================================================= the publishers

inductive Publisher where
  /-- The LEARN publish and `handle_create_mock`. -/
  | entry (svcId : Text) (e : MockEntry)
  /-- `reload_one_file` on the service's file. -/
  | reload (svcId : Text) (content : Option Text)

/-- What a publisher does to its copy between load and store. -/
def Publisher.change (codec : EntryCodec) : Publisher → MockLibrary → MockLibrary
  | .entry svcId e, lib => lib.publish svcId e
  | .reload svcId content, lib =>
      lib.setSegment svcId (content.bind (segmentOf codec svcId))

def Publisher.isEntry : Publisher → Bool
  | .entry _ _ => true
  | .reload _ _ => false

/-- `handle_create_mock` changes its copy as an entry publisher. -/
theorem handleCreateMock_change (codec : EntryCodec) (st : AppState) (e : MockEntry) :
    (handleCreateMock st e).1.mocks
      = (Publisher.entry (injectedService (acceptedEntry e)) (acceptedEntry e)).change
          codec st.mocks := rfl

/-- A LEARN round trip changes its copy as an entry publisher. -/
theorem handle_change (env : Externals) (cfg : Config) (codec : EntryCodec)
    (st : AppState) (call : Call) {svcId : Text} {e : MockEntry}
    (h : published env cfg st call = some (svcId, e)) :
    (handle env cfg st call).1.mocks = (Publisher.entry svcId e).change codec st.mocks := by
  rw [handle_mocks, h]
  rfl

/-- `reload_one_file` changes its copy as a reload publisher. -/
theorem reloadOneFile_change (codec : EntryCodec) (rs : RandomState) (dir : Dir)
    (svcId : Text) (lib : MockLibrary) :
    (reloadOneFile codec rs dir (mockFileName svcId) lib).2
      = (Publisher.reload svcId (dir.lookup (mockFileName svcId))).change codec lib :=
  reloadOneFile_snd codec rs dir svcId lib

theorem wellFormed_change (codec : EntryCodec) (p : Publisher) {lib : MockLibrary}
    (h : lib.WellFormed) : (p.change codec lib).WellFormed := by
  cases p with
  | entry svcId e => exact h.publish svcId e
  | reload svcId content =>
      rw [Publisher.change]
      cases hseg : content.bind (segmentOf codec svcId) with
      | none => exact h.setSegment_none svcId
      | some seg =>
          obtain ⟨text, _, htext⟩ := Option.bind_eq_some_iff.mp hseg
          rw [segmentOf_eq_some codec htext]
          exact h.setSegment_some svcId fun he => readMocks_key he

theorem mocksOf_reload_ne (codec : EntryCodec) {svcId s : Text} (content : Option Text)
    (lib : MockLibrary) (hne : s ≠ svcId) :
    ((Publisher.reload svcId content).change codec lib).mocksOf s = lib.mocksOf s := by
  rw [Publisher.change]
  cases hseg : content.bind (segmentOf codec svcId) with
  | none => rw [MockLibrary.mocksOf_setSegment_none, if_neg hne]
  | some seg =>
      obtain ⟨text, _, htext⟩ := Option.bind_eq_some_iff.mp hseg
      rw [segmentOf_eq_some codec htext, MockLibrary.mocksOf_setSegment_some,
        if_neg hne]

-- ================================================================ the runs

section Runs

variable {n : Nat} (codec : EntryCodec) (pubs : Fin n → Publisher)

abbrev PublishState (n : Nat) := Cell.State (Fin n) MockLibrary

def publishStep : PublishState n → Cell.Action (Fin n) → Option (PublishState n) :=
  Cell.step (fun i => (pubs i).change codec) fun i => (pubs i).isEntry

/-- Distinct keys for the entries, other services' files for the reloads. -/
structure Disjoint : Prop where
  keys : ∀ i j s e s' e', i ≠ j → pubs i = .entry s e → pubs j = .entry s' e' →
    (s, e.key) ≠ (s', e'.key)
  services : ∀ i j s e s' content, pubs i = .entry s e → pubs j = .reload s' content →
    s ≠ s'

/-- Every entry that has been stored is found, in every hash order. -/
def EntriesFound (s : PublishState n) : Prop :=
  ∀ i svcId e, pubs i = .entry svcId e → s.phase i = .stored →
    ∀ rs, s.cell.findExact rs svcId e.request.method e.request.uri e.tenant = some e

/-- The library's flat view holds the publisher's entry. -/
def HasEntry (i : Fin n) (lib : MockLibrary) : Prop :=
  ∀ svcId e, pubs i = .entry svcId e → (lib.mocksOf svcId).lookup e.key = some e

variable {pubs}

theorem hasEntry_own (i : Fin n) (lib : MockLibrary) :
    HasEntry pubs i ((pubs i).change codec lib) := by
  intro svcId e hi
  rw [hi, Publisher.change, MockLibrary.mocksOf_publish, if_pos rfl,
    Finmap.lookup_insert]

theorem hasEntry_keep (hdis : Disjoint pubs) {i j : Fin n} {lib : MockLibrary}
    (hij : i ≠ j) (h : HasEntry pubs j lib) :
    HasEntry pubs j ((pubs i).change codec lib) := by
  intro svcId e hj
  have hold := h svcId e hj
  cases hi : pubs i with
  | entry s' e' =>
      have hne := hdis.keys i j s' e' svcId e hij hi hj
      unfold Publisher.change
      rw [MockLibrary.mocksOf_publish]
      by_cases hs : svcId = s'
      · subst hs
        have hk : e.key ≠ e'.key := fun he => hne (by rw [he])
        rw [if_pos rfl, Finmap.lookup_insert_of_ne _ hk]
        exact hold
      · rw [if_neg hs]
        exact hold
  | reload s' content =>
      rw [mocksOf_reload_ne codec content lib (hdis.services j i svcId e s' content hj hi)]
      exact hold

theorem entriesFound_of_held {s : PublishState n} (hwf : s.cell.WellFormed)
    (h : Cell.Held (fun i => (pubs i).isEntry) (HasEntry pubs) s) :
    EntriesFound pubs s := by
  intro i svcId e hi hstored rs
  rw [MockLibrary.findExact_eq hwf]
  exact h.cell i (by rw [hi]; rfl) hstored svcId e hi

variable (pubs) in
/-- Publishers that store only snapshots no entry has overtaken lose
nothing: in every state they reach, every stored entry is found. -/
theorem entries_found_of_fresh (boot : Option (RandomState × Dir))
    (schedule : List (Cell.Action (Fin n))) (s : PublishState n)
    (hdis : Disjoint pubs)
    (hfresh : Machine.Along (publishStep codec pubs) Cell.Fresh
      (Cell.start (bootLibrary codec boot)) schedule)
    (hrun : Machine.exec (publishStep codec pubs)
      (Cell.start (bootLibrary codec boot)) schedule = some s) :
    EntriesFound pubs s := by
  have hwf : s.cell.WellFormed :=
    Cell.cell_invariant (P := MockLibrary.WellFormed)
      (fun i _ h => wellFormed_change codec (pubs i) h)
      (refines_boot boot : Refines codec _ _).wellFormed hrun
  refine entriesFound_of_held hwf (Cell.held_of_fresh ?_ ?_ hfresh hrun)
  · intro i lib _
    exact hasEntry_own codec i lib
  · intro i j lib hij _ h
    exact hasEntry_keep codec hdis hij h

end Runs

-- ============================================================ two of them

/-- Two entries published for unrouted traffic. -/
def twoPublishers : Fin 2 → Publisher
  | 0 => .entry globalTenant entryA
  | 1 => .entry globalTenant entryB

theorem twoPublishers_disjoint : Disjoint twoPublishers where
  keys := by
    intro i j s e s' e' hij hi hj
    fin_cases i <;> fin_cases j
    · exact absurd rfl hij
    · cases hi
      cases hj
      decide
    · cases hi
      cases hj
      decide
    · exact absurd rfl hij
  services := by
    intro i j s e s' content hi hj
    fin_cases j <;> cases hj

/-- One publisher after the other: both entries are found. -/
theorem entries_found_in_turn :
    ∃ s, Machine.exec (publishStep sampleCodec twoPublishers)
        (Cell.start (bootLibrary sampleCodec none))
        [.load 0, .store 0, .load 1, .store 1] = some s
      ∧ EntriesFound twoPublishers s := by
  refine ⟨_, rfl, entries_found_of_fresh sampleCodec twoPublishers none
    [.load 0, .store 0, .load 1, .store 1] _ twoPublishers_disjoint ?_ rfl⟩
  refine ⟨trivial, fun s₁ h₁ => ?_⟩
  cases h₁
  refine ⟨fun snapshot version h => by cases h; rfl, fun s₂ h₂ => ?_⟩
  cases h₂
  refine ⟨trivial, fun s₃ h₃ => ?_⟩
  cases h₃
  refine ⟨fun snapshot version h => by cases h; rfl, fun s₄ h₄ => ?_⟩
  trivial

/-- Both load, both store: the second store takes the first entry away. -/
theorem overlapping_publishers_lose_an_entry :
    ¬ ∀ (n : Nat) (codec : EntryCodec) (pubs : Fin n → Publisher)
      (boot : Option (RandomState × Dir)) (schedule : List (Cell.Action (Fin n)))
      (s : PublishState n), Disjoint pubs →
      Machine.exec (publishStep codec pubs) (Cell.start (bootLibrary codec boot))
        schedule = some s →
      (∀ i, s.phase i = .stored) → EntriesFound pubs s := by
  intro h
  have hfound := h 2 sampleCodec twoPublishers none [.load 0, .load 1, .store 0, .store 1]
    _ twoPublishers_disjoint rfl (Fin.forall_fin_two.mpr ⟨rfl, rfl⟩) 0 globalTenant
    entryA rfl rfl default
  have hwf : (MockLibrary.new.publish globalTenant entryB).WellFormed :=
    MockLibrary.wellFormed_new.publish _ _
  have hcell : (MockLibrary.new.publish globalTenant
      entryB).findExact default globalTenant "GET" "/a" globalTenant
      = some entryA := hfound
  have hne : (("GET", "/a", globalTenant) : MockKey) ≠ entryB.key := by
    decide
  rw [MockLibrary.findExact_eq hwf, MockLibrary.mocksOf_publish, if_pos rfl,
    Finmap.lookup_insert_of_ne _ hne, MockLibrary.mocksOf_new, Finmap.lookup_empty]
    at hcell
  cases hcell

end GostlyProxy
