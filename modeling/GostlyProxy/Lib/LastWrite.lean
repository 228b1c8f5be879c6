/-
Logs of keyed values, and the map of the last write of every key.

A value carries its own key. `lastWrites` is the map a log stands for, and
traversing that map in some order gives a log again, the kept values: one
for every key (`nodup_key_kept`, `mem_key_kept`). The kept log stands for
the same map (`lastWrites_kept`).

A log of several owners is split into the logs of each (`ofOwner`), and
what is kept for an owner is there once the owner wrote something
(`KeptByOwner`).
-/
import GostlyProxy.Lib.HashMap

namespace Lib

variable {κ ν : Type} [DecidableEq κ] (key : ν → κ)

/-- The map of the last value of every key. -/
abbrev lastWrites (l : List ν) : HashMap κ ν := HashMap.collect (l.map fun v => (key v, v))

/-- The log that a traversal of the map writes. -/
abbrev kept (rs : RandomState) (l : List ν) : List ν := rs.values (lastWrites key l)

variable {key}

theorem lookup_lastWrites (l : List ν) (k : κ) :
    (lastWrites key l).lookup k = (l.filter fun v => key v = k).getLast? :=
  HashMap.lookup_collect_by key l k

theorem key_of_lookup {l : List ν} {k : κ} {v : ν} (h : (lastWrites key l).lookup k = some v) :
    key v = k := by
  rw [lookup_lastWrites] at h
  simpa using (List.mem_filter.mp (List.mem_of_getLast? h)).2

/-- One more value is one more insert. -/
theorem lastWrites_append (l : List ν) (v : ν) :
    lastWrites key (l ++ [v]) = (lastWrites key l).insert (key v) v := by
  unfold lastWrites HashMap.collect
  rw [List.map_append, List.foldl_append]
  rfl

/-- Every kept value is a value of the log. -/
theorem mem_of_mem_kept {rs : RandomState} {l : List ν} {v : ν} (h : v ∈ kept key rs l) :
    v ∈ l := by
  obtain ⟨⟨k, v'⟩, hmem, rfl⟩ := List.mem_map.mp h
  have hlook := rs.mem_iter.mp hmem
  rw [lookup_lastWrites] at hlook
  exact (List.mem_filter.mp (List.mem_of_getLast? hlook)).1

/-- The kept values carry the keys they are stored under. -/
theorem map_key_kept (rs : RandomState) (l : List ν) :
    (kept key rs l).map key = (rs.iter (lastWrites key l)).map (·.1) := by
  rw [kept, RandomState.values, List.map_map]
  refine List.map_congr_left ?_
  rintro ⟨k, v⟩ hmem
  show key v = k
  exact key_of_lookup (rs.mem_iter.mp hmem)

theorem nodup_key_kept (rs : RandomState) (l : List ν) : ((kept key rs l).map key).Nodup := by
  rw [map_key_kept]
  exact rs.nodupKeys_iter _

/-- The keys of the log are the keys of the kept values. -/
theorem mem_key_kept (rs : RandomState) (l : List ν) (k : κ) :
    k ∈ (kept key rs l).map key ↔ k ∈ l.map key := by
  have hsome : ((lastWrites key l).lookup k).isSome ↔ k ∈ l.map key := by
    rw [HashMap.isSome_lookup_collect, List.map_map]
    rfl
  rw [map_key_kept, ← hsome, Option.isSome_iff_exists, List.mem_map]
  constructor
  · rintro ⟨⟨k', v⟩, hmem, rfl⟩
    exact ⟨v, rs.mem_iter.mp hmem⟩
  · rintro ⟨v, hlook⟩
    exact ⟨⟨k, v⟩, rs.mem_iter.mpr hlook, rfl⟩

/-- The kept log stands for the same map. -/
theorem lastWrites_kept (rs : RandomState) (l : List ν) :
    lastWrites key (kept key rs l) = lastWrites key l := by
  have hpairs : (kept key rs l).map (fun v => (key v, v))
      = (rs.iter (lastWrites key l)).map fun e => (e.1, e.2) := by
    rw [kept, RandomState.values, List.map_map]
    refine List.map_congr_left ?_
    rintro ⟨k, v⟩ hmem
    show (key v, v) = (k, v)
    rw [key_of_lookup (rs.mem_iter.mp hmem)]
  show HashMap.collect ((kept key rs l).map fun v => (key v, v)) = lastWrites key l
  rw [hpairs, rs.collect_iter]

variable (key) in
theorem length_kept (rs : RandomState) (l : List ν) :
    (kept key rs l).length = (lastWrites key l).size := by
  rw [kept, RandomState.values, List.length_map, rs.length_iter]

/-- Only the empty log stands for the empty map. -/
theorem size_lastWrites_eq_zero {l : List ν} : (lastWrites key l).size = 0 ↔ l = [] := by
  rw [HashMap.size_eq_zero, HashMap.collect_eq_empty, List.map_eq_nil_iff]

theorem kept_ne_nil (rs : RandomState) {l : List ν} (h : l ≠ []) : kept key rs l ≠ [] := by
  intro hnil
  have hlen := length_kept key rs l
  rw [hnil] at hlen
  exact h (size_lastWrites_eq_zero.mp hlen.symm)

-- ================================================== logs of several owners

section Owners

variable {ω : Type} [DecidableEq ω]

/-- What one owner wrote. -/
def ofOwner (log : List (ω × ν)) (o : ω) : List ν := (log.filter (·.1 = o)).map (·.2)

theorem mem_ofOwner {log : List (ω × ν)} {o : ω} {v : ν} :
    v ∈ ofOwner log o ↔ (o, v) ∈ log := by
  simp [ofOwner]

theorem ofOwner_append (log : List (ω × ν)) (o : ω) (v : ν) (o' : ω) :
    ofOwner (log ++ [(o, v)]) o'
      = if o = o' then ofOwner log o' ++ [v] else ofOwner log o' := by
  unfold ofOwner
  rw [List.filter_append, List.map_append]
  by_cases ho : o = o'
  · rw [if_pos ho, List.filter_cons_of_pos (by simpa using ho)]
    rfl
  · rw [if_neg ho, List.filter_cons_of_neg (by simpa using ho), List.filter_nil, List.map_nil,
      List.append_nil]

theorem ofOwner_ne_nil_iff {log : List (ω × ν)} {o : ω} :
    ofOwner log o ≠ [] ↔ ∃ u ∈ log, u.1 = o := by
  simp [ofOwner, List.filter_eq_nil_iff]

end Owners

-- ===================================================== what a log leaves

section Leaves

variable {α β : Type*} (f : List α → β)

/-- What a log leaves behind once something was written. -/
def leftBy (log : List α) : Option β := if log = [] then none else some (f log)

theorem leftBy_of_ne_nil {log : List α} (h : log ≠ []) : leftBy f log = some (f log) := if_neg h

theorem leftBy_eq_some_iff {log : List α} {b : β} :
    leftBy f log = some b ↔ log ≠ [] ∧ f log = b := by
  unfold leftBy
  split
  · rename_i hlog
    simp [hlog]
  · rename_i hlog
    simp [hlog]

/-- Reading what was left, or what an empty log stands for. -/
theorem getD_leftBy (log : List α) : (leftBy f log).getD (f []) = f log := by
  unfold leftBy
  split
  · rename_i hlog
    rw [hlog]
    rfl
  · rfl

end Leaves

-- ======================================================== maps by owner

section ByOwner

variable {ω α β : Type} [DecidableEq ω] [DecidableEq α]

/-- The map has, under the name of every owner, what the owner's log
leaves. -/
def KeptByOwner (m : HashMap α β) (name : ω → α) (f : List ν → β) (log : List (ω × ν)) : Prop :=
  ∀ o, m.lookup (name o) = leftBy f (ofOwner log o)

variable {m : HashMap α β} {name : ω → α} {f : List ν → β} {log : List (ω × ν)}

theorem KeptByOwner.getD (h : KeptByOwner m name f log) (o : ω) :
    (m.lookup (name o)).getD (f []) = f (ofOwner log o) := by
  rw [h]
  exact getD_leftBy f _

/-- An owner writes one more value, and what is kept for it is replaced. -/
theorem KeptByOwner.append (h : KeptByOwner m name f log) (hname : Function.Injective name)
    (o : ω) (v : ν) {b : β} (hb : f (ofOwner log o ++ [v]) = b) :
    KeptByOwner (m.insert (name o) b) name f (log ++ [(o, v)]) := by
  intro o'
  rw [ofOwner_append]
  by_cases ho : o = o'
  · subst ho
    rw [if_pos rfl, Finmap.lookup_insert, leftBy_of_ne_nil f (List.concat_ne_nil v _), hb]
  · rw [if_neg ho, Finmap.lookup_insert_of_ne _ fun heq => ho (hname heq).symm]
    exact h o'

theorem keptByOwner_empty : KeptByOwner (∅ : HashMap α β) name f [] :=
  fun _ => Finmap.lookup_empty _

end ByOwner

end Lib
