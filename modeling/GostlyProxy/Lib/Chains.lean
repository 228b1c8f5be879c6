/-
Chains of replacements.

When the words of a map are replaced one after another, what one of them
puts in can be a key of another one that is still to come, and so on. With
the longest keys first, a chain can only go on from a key to keys that are
no longer.

# When a value stays

The words that `replaceWords` puts in for a key are left alone by the pairs
behind it when every other key among them that is not longer comes back to
itself through ever shorter keys (`LongestFirst.replaceWords_value`). The
order of keys of one length is free; in an order that is bad for a key this
is the only way its words are left alone (`LongestFirst.returnsTo_of_value`).
-/
import GostlyProxy.Lib.Words

namespace Lib

section Chains

variable {α : Type*} {isId : α → Bool}

-- ============================================================ the chains

/-- From `k` on, value after value through ever shorter keys, to `x`. -/
inductive ReturnsTo (value : List α → Option (List α)) (x : List α) : List α → Prop
  | done {k : List α} (h : value k = some x) : ReturnsTo value x k
  | next {k y : List α} (h : value k = some y) (hlt : y.length < k.length)
      (hy : ReturnsTo value x y) : ReturnsTo value x k

/-- Reached from `x`, value after value through ever shorter keys. -/
inductive Reaches (value : List α → Option (List α)) (x : List α) : List α → Prop
  | refl : Reaches value x x
  | step {k y : List α} (hk : Reaches value x k) (h : value k = some y)
      (hlt : y.length < k.length) : Reaches value x y

namespace Reaches

variable {value : List α → Option (List α)} {x : List α}

theorem eq_or_lt {k : List α} (h : Reaches value x k) : k = x ∨ k.length < x.length := by
  induction h with
  | refl => exact Or.inl rfl
  | step _ _ hlt ih =>
      right
      rcases ih with rfl | ih
      · exact hlt
      · omega

/-- The first step is the only one there is. -/
theorem head {k : List α} (h : Reaches value x k) :
    k = x ∨ ∃ y, value x = some y ∧ y.length < x.length ∧ Reaches value y k := by
  induction h with
  | refl => exact Or.inl rfl
  | @step k y hk hvalue hlt ih =>
      right
      rcases ih with rfl | ⟨y', hy', hlt', hreach⟩
      · exact ⟨y, hvalue, hlt, .refl⟩
      · exact ⟨y', hy', hlt', hreach.step hvalue hlt⟩

/-- Of two reached keys one is reached from the other. -/
theorem linear {k k' : List α} (h : Reaches value x k) (h' : Reaches value x k') :
    Reaches value k k' ∨ Reaches value k' k := by
  induction h with
  | refl => exact Or.inl h'
  | @step k y hk hvalue hlt ih =>
      rcases ih with hkk | hkk
      · rcases hkk.head with rfl | ⟨y', hy', -, hreach⟩
        · exact Or.inr (.step .refl hvalue hlt)
        · rw [hvalue, Option.some.injEq] at hy'
          exact Or.inl (hy' ▸ hreach)
      · exact Or.inr (hkk.step hvalue hlt)

/-- So they have different lengths. -/
theorem eq_of_length {k k' : List α} (h : Reaches value x k) (h' : Reaches value x k')
    (hlen : k.length = k'.length) : k = k' := by
  rcases h.linear h' with hreach | hreach
  · rcases hreach.eq_or_lt with heq | hlt
    · exact heq.symm
    · omega
  · rcases hreach.eq_or_lt with heq | hlt
    · exact heq
    · omega

end Reaches

-- ================================================== longest keys first

/-- The pairs of a map of words, longer keys first. -/
structure LongestFirst (isId : α → Bool) (value : List α → Option (List α))
    (pairs : List (List α × List α)) : Prop where
  mem_iff : ∀ k v, (k, v) ∈ pairs ↔ value k = some v
  nodup : (pairs.map (·.1)).Nodup
  sorted : pairs.Pairwise fun p q => q.1.length ≤ p.1.length
  word : ∀ k v, value k = some v → ∀ a ∈ k, isId a = true

namespace LongestFirst

variable {value : List α → Option (List α)} {pairs : List (List α × List α)}

/-- A key stands once. -/
theorem not_mem {front rest : List (List α × List α)} {k v : List α}
    (h : LongestFirst isId value (front ++ (k, v) :: rest)) :
    k ∉ front.map (·.1) ∧ k ∉ rest.map (·.1) := by
  have hnd := h.nodup
  rw [List.map_append, List.map_cons, List.nodup_append, List.nodup_cons] at hnd
  exact ⟨fun hmem => hnd.2.2 k hmem k (List.mem_cons_self ..) rfl, hnd.2.1.1⟩

/-- What stands behind a key is not longer. -/
theorem length_le {front rest : List (List α × List α)} {k v : List α}
    (h : LongestFirst isId value (front ++ (k, v) :: rest)) {p : List α × List α}
    (hp : p ∈ rest) : p.1.length ≤ k.length :=
  (List.pairwise_cons.mp (List.pairwise_append.mp h.sorted).2.1).1 p hp

/-- A shorter key stands behind. -/
theorem mem_rest {front rest : List (List α × List α)} {k v y y' : List α}
    (h : LongestFirst isId value (front ++ (k, v) :: rest)) (hy : value y = some y')
    (hlt : y.length < k.length) : (y, y') ∈ rest := by
  have hmem := (h.mem_iff y y').mpr hy
  rw [List.mem_append, List.mem_cons] at hmem
  rcases hmem with hfront | heq | hrest
  · have hle := (List.pairwise_append.mp h.sorted).2.2 _ hfront (k, v) (List.mem_cons_self ..)
    dsimp only at hle
    omega
  · cases heq
    omega
  · exact hrest

variable [DecidableEq α]

/-- A key that stands behind another: there it becomes its value, and what
stands behind makes of it what it makes. -/
theorem follow {front rest : List (List α × List α)} {k v x y : List α}
    (h : LongestFirst isId value (front ++ (k, v) :: rest)) (hmem : (x, y) ∈ rest) :
    ∃ f r, rest = f ++ (x, y) :: r
      ∧ front ++ (k, v) :: rest = (front ++ (k, v) :: f) ++ (x, y) :: r
      ∧ replaceWords isId rest x = replaceWords isId r y := by
  obtain ⟨f, r, rfl⟩ := List.append_of_mem hmem
  have hsplit : front ++ (k, v) :: (f ++ (x, y) :: r)
      = (front ++ (k, v) :: f) ++ (x, y) :: r := by simp
  have hvalue : value x = some y := (h.mem_iff x y).mp (by simp)
  rw [hsplit] at h
  have hx := h.not_mem.1
  rw [List.map_append, List.mem_append, not_or, List.map_cons, List.mem_cons, not_or] at hx
  exact ⟨f, r, rfl, hsplit, replaceWords_key (h.word x y hvalue) hx.2.2⟩

/-- A chain that comes back is followed to its end. -/
theorem replaceWords_returnsTo {x k : List α} (hback : ReturnsTo value x k)
    (hx : ∀ a ∈ x, isId a = true) :
    ∀ {front rest : List (List α × List α)} {v : List α},
      LongestFirst isId value (front ++ (k, v) :: rest) → x ∉ rest.map (·.1) →
      replaceWords isId rest v = x := by
  induction hback with
  | @done k hk =>
      intro front rest v h hnot
      have hv := (h.mem_iff k v).mp (by simp)
      rw [hk, Option.some.injEq] at hv
      rw [← hv]
      exact replaceWords_not_key hx hnot
  | @next k y hk hlt hy ih =>
      intro front rest v h hnot
      have hv := (h.mem_iff k v).mp (by simp)
      rw [hk, Option.some.injEq] at hv
      subst hv
      obtain ⟨y', hy'⟩ : ∃ y', value y = some y' := by
        cases hy with
        | done hy => exact ⟨_, hy⟩
        | next hy => exact ⟨_, hy⟩
      obtain ⟨f, r, rfl, hsplit, hresult⟩ := h.follow (h.mem_rest hy' hlt)
      rw [hsplit] at h
      rw [List.map_append, List.map_cons, List.mem_append, not_or, List.mem_cons, not_or] at hnot
      rw [hresult]
      exact ih h hnot.2.2

/-- A value is left alone when every other key among its words that is not
longer comes back. -/
theorem replaceWords_value {front rest : List (List α × List α)} {w v : List α}
    (h : LongestFirst isId value (front ++ (w, v) :: rest))
    (hback : ∀ x ∈ words isId v, x ≠ w → (value x).isSome → x.length ≤ w.length →
      ReturnsTo value x x) : replaceWords isId rest v = v := by
  rw [replaceWords_eq]
  apply subst_id
  intro x hx
  have hword := isId_of_mem_words hx
  by_cases hkey : x ∈ rest.map (·.1)
  · obtain ⟨⟨x', y⟩, hmem, rfl⟩ := List.mem_map.mp hkey
    have hvalue : value x' = some y := (h.mem_iff x' y).mp (by simp [hmem])
    have hne : x' ≠ w := by
      rintro rfl
      exact h.not_mem.2 hkey
    have hxx := hback x' hx hne (by rw [hvalue]; rfl) (h.length_le hmem)
    obtain ⟨f, r, rfl, hsplit, hresult⟩ := h.follow hmem
    rw [hsplit] at h
    rw [hresult]
    exact replaceWords_returnsTo hxx hword h h.not_mem.2
  · exact replaceWords_not_key hword hkey

/-- In an order that puts the keys reached from `x` last among those of their
length, what is made of a chain says where it leads. -/
theorem returnsTo_of_replaceWords {x : List α} (hx : ∀ a ∈ x, isId a = true) :
    ∀ {n : Nat} {front rest : List (List α × List α)} {k v : List α}, k.length = n →
      LongestFirst isId value (front ++ (k, v) :: rest) →
      ((front ++ (k, v) :: rest).Pairwise fun p q =>
        p.1.length = q.1.length → Reaches value x p.1 → Reaches value x q.1) →
      Reaches value x k → replaceWords isId rest v = x → ReturnsTo value x k := by
  intro n
  induction n using Nat.strong_induction_on with
  | _ n ih =>
      intro front rest k v hn h hlast hk hresult
      have hvalue := (h.mem_iff k v).mp (by simp)
      by_cases hvx : v = x
      · exact .done (hvx ▸ hvalue)
      -- The value is a word, since the result is.
      have hword : ∀ a ∈ v, isId a = true := by
        have hle : separators isId v ≤ separators isId (replaceWords isId rest v) :=
          separators_replaceWords rest v
        rw [hresult, separators_word hx, Nat.le_zero, separators, List.countP_eq_zero] at hle
        intro a ha
        simpa using hle a ha
      have hkey : v ∈ rest.map (·.1) := by
        by_contra hnot
        rw [replaceWords_not_key hword hnot] at hresult
        exact hvx hresult
      obtain ⟨⟨v', y⟩, hmem, rfl⟩ := List.mem_map.mp hkey
      have hle := h.length_le hmem
      have hlt : v'.length < k.length := by
        refine lt_of_le_of_ne hle fun heq => ?_
        have hreach := (List.pairwise_cons.mp (List.pairwise_append.mp hlast).2.1).1
          (v', y) hmem heq.symm hk
        rw [hreach.eq_of_length hk heq] at hkey
        exact h.not_mem.2 hkey
      obtain ⟨f, r, rfl, hsplit, hfollow⟩ := h.follow hmem
      rw [hsplit] at h hlast
      exact .next hvalue hlt
        (ih _ (hn ▸ hlt) rfl h hlast (hk.step hvalue hlt) (hfollow.symm.trans hresult))

/-- In such an order, a value that is left alone has only words that come
back. -/
theorem returnsTo_of_value {front rest : List (List α × List α)} {w v x : List α}
    (h : LongestFirst isId value (front ++ (w, v) :: rest))
    (hlast : (front ++ (w, v) :: rest).Pairwise fun p q =>
      p.1.length = q.1.length → Reaches value x p.1 → Reaches value x q.1)
    (hresult : replaceWords isId rest v = v) (hx : x ∈ words isId v) (hne : x ≠ w)
    (hkey : (value x).isSome) (hle : x.length ≤ w.length) : ReturnsTo value x x := by
  have hword := isId_of_mem_words hx
  have hfixed : replaceWords isId rest x = x := by
    have hid : substWords isId (fun w => w) v = v := subst_id fun _ _ => rfl
    have hsub : substWords isId (replaceWords isId rest) v = substWords isId (fun w => w) v := by
      rw [← replaceWords_eq, hresult, hid]
    refine (subst_eq_iff ?_).mp hsub x hx
    intro u hu
    rw [separators_word (isId_of_mem_words hu)]
    exact Nat.zero_le _
  obtain ⟨y, hy⟩ := Option.isSome_iff_exists.mp hkey
  have hmem : (x, y) ∈ rest := by
    have hall := (h.mem_iff x y).mpr hy
    rw [List.mem_append, List.mem_cons] at hall
    rcases hall with hfront | heq | hrest
    · -- In front of `w` it would be as long, and reached from itself.
      have hsorted := (List.pairwise_append.mp h.sorted).2.2 _ hfront (w, v)
        (List.mem_cons_self ..)
      have hreach := (List.pairwise_append.mp hlast).2.2 _ hfront (w, v)
        (List.mem_cons_self ..) (le_antisymm hle hsorted) .refl
      exact absurd (hreach.eq_of_length .refl (le_antisymm hsorted hle)).symm hne
    · cases heq
      exact absurd rfl hne
    · exact hrest
  obtain ⟨f, r, rfl, hsplit, hfollow⟩ := h.follow hmem
  rw [hsplit] at h hlast
  exact returnsTo_of_replaceWords hword rfl h hlast .refl (hfollow.symm.trans hfixed)

end LongestFirst

end Chains

end Lib
