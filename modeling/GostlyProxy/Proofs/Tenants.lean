/-
The tenant a request is served under.

`clampTenant` trims, then slices at byte 128. The slice panics when a
character lies across that byte, and when it ends in a blank the tenant it
gives is not the one that same tenant resolves to. `resolveTenant_stable_iff`
says that these two are all that can go wrong: what is left is a text that
may be sent back as it is.
-/
import GostlyProxy.Proofs.Canonical

namespace GostlyProxy

open Lib

/-- The text a request gives for its tenant. -/
def rawTenant (headers : HeaderMap) (query : Option Text) : Option Text :=
  ((headers.get tenantHeader.toText).bind HeaderValue.toStr).or (query.bind tenantParam)

theorem resolveTenant_eq (headers : HeaderMap) (query : Option Text) :
    resolveTenant headers query = match rawTenant headers query with
      | some raw => clampTenant raw
      | none => some globalTenant := by
  unfold resolveTenant rawTenant
  cases (headers.get tenantHeader.toText).bind HeaderValue.toStr with
  | some v => rfl
  | none => rfl

-- ============================================================ stable texts

/-- A tenant that a client may send back: some text, within the limit, and
left alone by the clamp. -/
structure StableTenant (tenant : Text) : Prop where
  nonempty : tenant ≠ []
  short : Text.utf8Len tenant ≤ maxTenantLen
  fixed : clampTenant tenant = some tenant

/-- What is trimmed and within the limit is stable. -/
theorem stableTenant_of_trimmed {tenant : Text} (hne : tenant ≠ [])
    (htrim : Text.Trimmed tenant) (hshort : Text.utf8Len tenant ≤ maxTenantLen) :
    StableTenant tenant :=
  ⟨hne, hshort, (clampTenant_eq_self_iff hne).mpr ⟨hne, Text.trim_eq_self_iff.mpr htrim, hshort⟩⟩

theorem StableTenant.trimmed {tenant : Text} (h : StableTenant tenant) : Text.Trimmed tenant :=
  Text.trim_eq_self_iff.mp ((clampTenant_eq_self_iff h.nonempty).mp h.fixed).trimmed

theorem stableTenant_global : StableTenant globalTenant :=
  ⟨by decide, by decide, by decide⟩

/-- The trimmed text is within the limit, or it can be cut there: between two
characters, the last one kept no blank. -/
def CutsClean (raw : Text) : Prop :=
  Text.utf8Len (Text.trim raw) ≤ maxTenantLen
    ∨ ∃ (kept : Text) (c : Char) (rest : Text), Text.trim raw = kept ++ [c] ++ rest
      ∧ Text.utf8Len (kept ++ [c]) = maxTenantLen ∧ Text.isWhitespace c = false

/-- The front part of a trimmed text starts without a blank. -/
theorem trimmed_front {kept rest : Text} {c : Char} (h : Text.Trimmed (kept ++ [c] ++ rest))
    (hc : Text.isWhitespace c = false) : Text.Trimmed (kept ++ [c]) where
  first := by
    intro d hd
    apply h.first
    rw [List.head?_append, hd]
    rfl
  last := by
    intro d hd
    simp only [List.getLast?_append, List.getLast?_singleton, Option.some_or,
      Option.some.injEq] at hd
    rw [← hd]
    exact hc

/-- Clamping gives a stable tenant exactly when the text can be cut. -/
theorem clampTenant_stable_iff (raw : Text) :
    (∃ tenant, clampTenant raw = some tenant ∧ StableTenant tenant) ↔ CutsClean raw := by
  have htrim := Text.trimmed_trim raw
  unfold clampTenant CutsClean
  dsimp only
  by_cases hempty : (Text.trim raw).isEmpty = true
  · rw [if_pos hempty]
    constructor
    · intro _
      left
      rw [List.isEmpty_iff.mp hempty]
      exact Nat.zero_le _
    · intro _
      exact ⟨globalTenant, rfl, stableTenant_global⟩
  rw [if_neg hempty]
  by_cases hlong : maxTenantLen < Text.utf8Len (Text.trim raw)
  · rw [if_pos hlong]
    constructor
    · rintro ⟨tenant, hcut, hstable⟩
      right
      obtain ⟨⟨rest, hrest⟩, hlen⟩ := Text.sliceTo_eq_some_iff.mp hcut
      -- The slice ends in a character, and that is no blank.
      have hlast := List.dropLast_append_getLast hstable.nonempty
      refine ⟨tenant.dropLast, tenant.getLast hstable.nonempty, rest, ?_, ?_, ?_⟩
      · rw [hlast, hrest]
      · rw [hlast, hlen]
      · exact hstable.trimmed.last _ (List.getLast?_eq_some_getLast hstable.nonempty)
    · rintro (hshort | ⟨kept, c, rest, hsplit, hlen, hc⟩)
      · omega
      refine ⟨kept ++ [c], Text.sliceTo_eq_some_iff.mpr ⟨⟨rest, hsplit⟩, hlen⟩, ?_⟩
      rw [hsplit] at htrim
      apply stableTenant_of_trimmed
      · simp
      · exact trimmed_front htrim hc
      · exact hlen.le
  · rw [if_neg hlong]
    constructor
    · intro _
      exact Or.inl (by omega)
    · intro _
      refine ⟨Text.trim raw, rfl, stableTenant_of_trimmed ?_ htrim (by omega)⟩
      intro h
      exact hempty (List.isEmpty_iff.mpr h)

/-- A request resolves to a tenant, and to one that resolves to itself,
exactly when the text it gives, if any, can be cut. -/
theorem resolveTenant_stable_iff (headers : HeaderMap) (query : Option Text) :
    (∃ tenant, resolveTenant headers query = some tenant ∧ tenant ≠ []
        ∧ Text.utf8Len tenant ≤ maxTenantLen ∧ clampTenant tenant = some tenant)
      ↔ ∀ raw, rawTenant headers query = some raw → CutsClean raw := by
  have hstable : ∀ tenant, (tenant ≠ [] ∧ Text.utf8Len tenant ≤ maxTenantLen
      ∧ clampTenant tenant = some tenant) ↔ StableTenant tenant :=
    fun tenant => ⟨fun h => ⟨h.1, h.2.1, h.2.2⟩, fun h => ⟨h.nonempty, h.short, h.fixed⟩⟩
  simp only [hstable, resolveTenant_eq]
  cases rawTenant headers query with
  | none =>
      constructor
      · intro _ raw hraw
        cases hraw
      · intro _
        exact ⟨globalTenant, rfl, stableTenant_global⟩
  | some raw =>
      simp only [clampTenant_stable_iff, Option.some.injEq, forall_eq']

/-- A value with a character of two bytes across byte 128. -/
def acrossLimit : Text := List.replicate 127 'a' ++ ['\u00e9']

/-- A value whose first 128 bytes end in a no-break space. -/
def blankAtLimit : Text := List.replicate 126 'a' ++ ['\u00a0', 'b']

set_option maxRecDepth 4000 in
/-- The one panics, the other gives a tenant that resolves to another. -/
theorem resolveTenant_unstable :
    (¬ ∃ tenant, resolveTenant [] (some ("_tenant=" ++ acrossLimit)) = some tenant
        ∧ tenant ≠ [] ∧ Text.utf8Len tenant ≤ maxTenantLen ∧ clampTenant tenant = some tenant)
      ∧ ¬ ∃ tenant, resolveTenant [] (some ("_tenant=" ++ blankAtLimit)) = some tenant
        ∧ tenant ≠ [] ∧ Text.utf8Len tenant ≤ maxTenantLen
        ∧ clampTenant tenant = some tenant := by
  have hacross : resolveTenant [] (some ("_tenant=" ++ acrossLimit)) = none := by decide
  have hblank : resolveTenant [] (some ("_tenant=" ++ blankAtLimit))
      = some (List.replicate 126 'a' ++ ['\u00a0']) := by decide
  have hnext : clampTenant (List.replicate 126 'a' ++ ['\u00a0'])
      = some (List.replicate 126 'a') := by decide
  constructor
  · rintro ⟨tenant, h, -⟩
    rw [hacross] at h
    cases h
  · rintro ⟨tenant, h, -, -, hfixed⟩
    rw [hblank, Option.some.injEq] at h
    rw [← h, hnext] at hfixed
    have hlen := congrArg (Option.map List.length) hfixed
    simp at hlen

end GostlyProxy
