/-
The laws assumed of the entry codec can be met, together with any lines
one cares to fix.

Entries are countable, so they can be numbered, and a numbered entry can
be written as that many marks after a sign no JSON line starts with.
`LineTable.codec` prints the entries of a table as the table says and the rest
by number; what a line stands for is whatever entry prints it.
-/
import GostlyProxy.Model.Disk
import GostlyProxy.Model.Workload
import Mathlib.Data.Countable.Basic
import Mathlib.Logic.Equiv.List

namespace GostlyProxy

open Lib

-- ================================================== entries are countable

instance countableChar : Countable Char :=
  Function.Injective.countable (f := Char.toNat) fun _ _ h => Char.toNat_inj.mp h

instance countableUInt16 : Countable UInt16 :=
  Function.Injective.countable (f := UInt16.toNat) fun _ _ h => UInt16.toNat_inj.mp h

instance countableUInt64 : Countable UInt64 :=
  Function.Injective.countable (f := UInt64.toNat) fun _ _ h => UInt64.toNat_inj.mp h

instance countableHeaders : Countable (HashMap Text Text) :=
  Function.Injective.countable (f := Finmap.entries) fun _ _ h => Finmap.ext h

instance countableMockRequest : Countable MockRequest :=
  Function.Injective.countable (f := fun r => (r.method, r.uri, r.body)) <| by
    rintro ⟨m, u, b⟩ ⟨m', u', b'⟩ h
    simpa using h

instance countableMockResponse : Countable MockResponse :=
  Function.Injective.countable
    (f := fun r => (r.status, r.headers, r.body, r.latencyMs)) <| by
    rintro ⟨s, h, b, l⟩ ⟨s', h', b', l'⟩ heq
    simpa using heq

instance countableMockEntry : Countable MockEntry :=
  Function.Injective.countable
    (f := fun e => (e.id, e.timestamp, e.request, e.response, e.serviceId, e.tenant,
      e.workloadClass)) <| by
    rintro ⟨i, t, r, s, v, n, w⟩ ⟨i', t', r', s', v', n', w'⟩ heq
    simpa using heq

/-- A number for every entry. -/
noncomputable def entryNumber : MockEntry → Nat :=
  (exists_injective_nat MockEntry).choose

/-- Different entries have different numbers. -/
theorem entryNumber_injective : Function.Injective entryNumber :=
  (exists_injective_nat MockEntry).choose_spec

-- ======================================================== the table codec

/-- The lines fixed for some entries. -/
structure LineTable where
  rows : List (MockEntry × Text)
  isLine : ∀ r ∈ rows, Text.IsLine r.2
  unmarked : ∀ r ∈ rows, r.2.head? ≠ some '#'
  distinct : rows.Pairwise fun r r' => r.2 ≠ r'.2

namespace LineTable

/-- A line that a table may fix. -/
def Fixes (l : Text) : Prop := Text.IsLine l ∧ l.head? ≠ some '#'

/-- A table of two lines. -/
def pair (e e' : MockEntry) (l l' : Text) (hl : Fixes l) (hl' : Fixes l') (hne : l ≠ l') :
    LineTable where
  rows := [(e, l), (e', l')]
  isLine := by simpa using ⟨hl.1, hl'.1⟩
  unmarked := by simpa using ⟨hl.2, hl'.2⟩
  distinct := List.pairwise_pair.mpr hne

variable (table : LineTable)

/-- The line of an entry: the table's, or the number's. -/
noncomputable def print (e : MockEntry) : Text :=
  ((table.rows.find? fun r => r.1 = e).map (·.2)).getD
    ('#' :: List.replicate (entryNumber e) '1')

/-- Either the table fixes the line, or it is the numbered one. -/
theorem print_cases (e : MockEntry) :
    (∃ r ∈ table.rows, r.1 = e ∧ table.print e = r.2)
      ∨ table.print e = '#' :: List.replicate (entryNumber e) '1' := by
  unfold print
  cases hfind : table.rows.find? fun r => r.1 = e with
  | none => exact Or.inr rfl
  | some r =>
      refine Or.inl ⟨r, List.mem_of_find?_eq_some hfind, ?_, rfl⟩
      simpa using List.find?_some hfind

/-- A line of the table is printed as it stands there. -/
theorem print_of_find {e : MockEntry} {r : MockEntry × Text}
    (h : (table.rows.find? fun r => r.1 = e) = some r) : table.print e = r.2 := by
  unfold print
  rw [h, Option.map_some, Option.getD_some]

/-- No two entries share a line: fixed lines differ, and carry no mark. -/
theorem print_injective : Function.Injective table.print := by
  intro e e' h
  rcases table.print_cases e with ⟨r, hr, hre, hp⟩ | hp <;>
    rcases table.print_cases e' with ⟨r', hr', hre', hp'⟩ | hp'
  · by_cases hrr : r = r'
    · rw [← hre, ← hre', hrr]
    · exfalso
      have hsymm : Std.Symm fun r r' : MockEntry × Text => r.2 ≠ r'.2 :=
        ⟨fun _ _ h => Ne.symm h⟩
      exact table.distinct.forall hr hr' hrr (by rw [← hp, ← hp', h])
  · exact absurd (by rw [← hp, h, hp']; rfl) (table.unmarked r hr)
  · exact absurd (by rw [← hp', ← h, hp]; rfl) (table.unmarked r' hr')
  · rw [hp, hp', List.cons.injEq, List.replicate_inj] at h
    exact entryNumber_injective h.2.1

/-- What is printed is one line. -/
theorem isLine_print (e : MockEntry) : Text.IsLine (table.print e) := by
  rcases table.print_cases e with ⟨r, hr, -, hp⟩ | hp
  · rw [hp]
    exact table.isLine r hr
  · rw [hp]
    constructor
    · intro h
      rcases List.mem_cons.mp h with h | h
      · exact absurd h (by decide)
      · exact absurd (List.eq_of_mem_replicate h) (by decide)
    · intro h
      rcases List.mem_cons.mp h with h | h
      · exact absurd h (by decide)
      · exact absurd (List.eq_of_mem_replicate h) (by decide)

open Classical in
/-- The codec of the table: a line stands for the entry it is printed for. -/
noncomputable def codec : EntryCodec where
  parse := fun line =>
    if h : ∃ e, table.print e = line then some h.choose else none
  print := table.print

theorem print_codec : table.codec.print = table.print := rfl

/-- So the codec reads back what it prints. -/
theorem codec_lawful : table.codec.Lawful where
  parse_print := by
    intro e
    have hex : ∃ e', table.print e' = table.print e := ⟨e, rfl⟩
    have hchoose : hex.choose = e := table.print_injective hex.choose_spec
    exact (dif_pos hex).trans (congrArg some hchoose)
  isLine_print := table.isLine_print

end LineTable

-- ======================================================= two sample entries

/-- A recorded GET without a body, for unrouted traffic. -/
def getEntry (uri responseBody : Text) : MockEntry where
  id := "1"
  timestamp := "2024-01-01T00:00:00Z"
  request := { method := "GET", uri := uri, body := [] }
  response := { status := 200, headers := ∅, body := responseBody, latencyMs := 0 }
  serviceId := none
  tenant := globalTenant
  workloadClass := defaultWorkloadClass

/-- The line the JSON library prints for it, when uri and body need no
escapes. -/
def getLine (uri responseBody : Text) : Text :=
  ("\x7b\"id\":\"1\",\"timestamp\":\"2024-01-01T00:00:00Z\",\"request\":\x7b\"method\":\"GET\",\"uri\":\"" : Text)
  ++ uri ++ ("\",\"body\":\"\"\x7d,\"response\":\x7b\"status\":200,\"headers\":\x7b\x7d,\"body\":\"" : Text)
  ++ responseBody
  ++ ("\",\"latency_ms\":0\x7d,\"tenant\":\"_global\",\"workload_class\":\"unknown\"\x7d" : Text)

def entryA : MockEntry := getEntry "/a" "first"
def entryB : MockEntry := getEntry "/b" "second"

/-- The two entries' lines as the JSON library prints them. -/
def sampleTable : LineTable where
  rows := [(entryA, getLine "/a" "first"), (entryB, getLine "/b" "second")]
  isLine := by
    intro r hr
    simp only [List.mem_cons, List.not_mem_nil, or_false] at hr
    rcases hr with rfl | rfl
    · exact ⟨by decide, by decide⟩
    · exact ⟨by decide, by decide⟩
  unmarked := by
    intro r hr
    simp only [List.mem_cons, List.not_mem_nil, or_false] at hr
    rcases hr with rfl | rfl <;> decide
  distinct := by
    refine List.pairwise_pair.mpr ?_
    decide

noncomputable def sampleCodec : EntryCodec := sampleTable.codec

theorem sampleCodec_lawful : sampleCodec.Lawful := sampleTable.codec_lawful

end GostlyProxy
