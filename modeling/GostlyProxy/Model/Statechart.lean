/-
The statechart interpreter (`statechart.rs`): flat machines, a registry of
them, and the five bundled machines.

`with_bundled_fixtures` parses the fixtures at boot and keeps those whose
initial state exists; the fixtures are written out here as the machines
they parse to, and `bundled_wellFormed` says that none is dropped.
-/
import GostlyProxy.Model.Types

namespace GostlyProxy

open Lib

/-- The outgoing transitions of one state: event name to next state. -/
structure ChartState where
  transitions : HashMap Text Text

structure StateMachine where
  id : Text
  initial : Text
  states : HashMap Text ChartState
  statusField : Text

def defaultStatusField : Text := "status"

namespace StateMachine

def hasState (m : StateMachine) (name : Text) : Bool := (m.states.lookup name).isSome

/-- The next state, when the current state is known and the action leaves it. -/
def apply (m : StateMachine) (currentState action : Text) : Option Text :=
  (m.states.lookup currentState).bind fun st => st.transitions.lookup action

/-- The initial state and every transition target are states. -/
structure WellFormed (m : StateMachine) : Prop where
  initial : m.hasState m.initial = true
  target : ∀ s a s', m.apply s a = some s' → m.hasState s' = true

end StateMachine

structure StatechartRegistry where
  machines : HashMap Text StateMachine

namespace StatechartRegistry

def get (reg : StatechartRegistry) (id : Text) : Option StateMachine :=
  reg.machines.lookup id

def apply (reg : StatechartRegistry) (machineId currentState action : Text) :
    Option Text :=
  (reg.get machineId).bind fun m => m.apply currentState action

/-- Every registered machine is well formed. -/
def WellFormed (reg : StatechartRegistry) : Prop :=
  ∀ id m, reg.get id = some m → m.WellFormed

end StatechartRegistry

-- ======================================================= bundled fixtures

/-- A machine from its table of states and transitions. -/
def machine (id initial : Text) (states : List (Text × List (Text × Text))) :
    StateMachine where
  id := id
  initial := initial
  states := HashMap.collect
    (states.map fun s => (s.1, { transitions := HashMap.collect s.2 }))
  statusField := "status"

def chargeMachine : StateMachine := machine "charge" "created" [
  ("created", [("capture", "captured"), ("void", "voided")]),
  ("captured", [("refund", "refunded")]),
  ("refunded", []),
  ("voided", [])]

def customerMachine : StateMachine := machine "customer" "active" [
  ("active", [("suspend", "suspended"), ("delete", "deleted")]),
  ("suspended", [("reactivate", "active"), ("delete", "deleted")]),
  ("deleted", [])]

def invoiceMachine : StateMachine := machine "invoice" "draft" [
  ("draft", [("finalize", "open"), ("void", "voided")]),
  ("open", [("pay", "paid"), ("void", "voided"), ("uncollectible", "uncollectible")]),
  ("paid", [("refund", "refunded")]),
  ("refunded", []),
  ("voided", []),
  ("uncollectible", [("pay", "paid"), ("void", "voided")])]

def orderMachine : StateMachine := machine "order" "pending" [
  ("pending", [("pay", "paid"), ("cancel", "cancelled")]),
  ("paid", [("ship", "shipped"), ("refund", "refunded")]),
  ("shipped", [("deliver", "delivered"), ("return", "returned")]),
  ("delivered", [("return", "returned")]),
  ("returned", [("refund", "refunded")]),
  ("refunded", []),
  ("cancelled", [])]

def subscriptionMachine : StateMachine := machine "subscription" "trialing" [
  ("trialing", [("activate", "active"), ("cancel", "cancelled")]),
  ("active", [("pause", "paused"), ("cancel", "cancelled")]),
  ("paused", [("resume", "active"), ("cancel", "cancelled")]),
  ("cancelled", [])]

def bundledFixtures : List (Text × StateMachine) := [
  ("charge", chargeMachine),
  ("customer", customerMachine),
  ("invoice", invoiceMachine),
  ("order", orderMachine),
  ("subscription", subscriptionMachine)]

/-- Register the fixtures whose initial state exists. -/
def withBundledFixtures : StatechartRegistry where
  machines := HashMap.collect
    ((bundledFixtures.map fun f => (f.1, { f.2 with id := f.1 })).filter
      fun f => f.2.hasState f.2.initial)

-- ================================================= the fixtures are sound

/-- A machine table whose initial state and targets are all states. -/
def tableOk (initial : Text) (states : List (Text × List (Text × Text))) : Bool :=
  (states.map (·.1)).contains initial
    && states.all fun s => s.2.all fun t => (states.map (·.1)).contains t.2

theorem machine_hasState {id initial : Text}
    {states : List (Text × List (Text × Text))} {name : Text} :
    (machine id initial states).hasState name = true ↔ name ∈ states.map (·.1) := by
  rw [StateMachine.hasState, machine, HashMap.isSome_lookup_collect]
  simp

theorem machine_wellFormed {id initial : Text}
    {states : List (Text × List (Text × Text))} (h : tableOk initial states = true) :
    (machine id initial states).WellFormed := by
  simp only [tableOk, Bool.and_eq_true, List.contains_iff_mem, List.all_eq_true] at h
  refine ⟨machine_hasState.mpr h.1, ?_⟩
  intro s a s' happly
  obtain ⟨st, hst, hnext⟩ := Option.bind_eq_some_iff.mp happly
  obtain ⟨row, hrow, heq⟩ := List.mem_map.mp (HashMap.mem_of_lookup_collect hst)
  cases heq
  exact machine_hasState.mpr (h.2 row hrow _ (HashMap.mem_of_lookup_collect hnext))

/-- Every bundled machine is well formed. -/
theorem bundled_wellFormed : withBundledFixtures.WellFormed := by
  have hall : ∀ f ∈ bundledFixtures, f.2.WellFormed ∧ { f.2 with id := f.1 } = f.2 := by
    simp only [bundledFixtures, List.forall_mem_cons, List.not_mem_nil, false_implies,
      implies_true, and_true]
    exact ⟨⟨machine_wellFormed (by decide), rfl⟩, ⟨machine_wellFormed (by decide), rfl⟩,
      ⟨machine_wellFormed (by decide), rfl⟩, ⟨machine_wellFormed (by decide), rfl⟩,
      ⟨machine_wellFormed (by decide), rfl⟩⟩
  intro id m hget
  have hmem := (List.mem_filter.mp (HashMap.mem_of_lookup_collect hget)).1
  obtain ⟨f, hf, heq⟩ := List.mem_map.mp hmem
  cases heq
  rw [(hall f hf).2]
  exact (hall f hf).1

end GostlyProxy
