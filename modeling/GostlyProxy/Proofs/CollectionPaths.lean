/-
Where a LEARN write is filed and where a GET looks.

A capture files a resource under the last segment of the written path
(`pathCollectionSegment`) and an id out of the response. `itemPath` is the
written path with that id behind it; a GET on it reads the two back
(`namesResource_itemPath`), whatever slashes end the written path
and whatever query follows, so the resource layer finds what was captured
(`learned_resource_found`).

A path that ends in an id should file nothing. The check for that looks for
an underscore and a digit only: a numeric id and a UUID pass as collections
(`pathCollectionSegment_ids_iff`).
-/
import GostlyProxy.Proofs.DynamicSegments
import GostlyProxy.Proofs.Linked

namespace GostlyProxy

open Lib

-- ============================================================== segments

/-- Around a slash the segments are those of the two sides. -/
theorem nonempty_segments_append (s t : Text) :
    ((Text.split '/' (s ++ '/' :: t)).filter fun p => !p.isEmpty)
      = ((Text.split '/' s).filter fun p => !p.isEmpty)
        ++ (Text.split '/' t).filter fun p => !p.isEmpty := by
  rw [Text.split_append, List.filter_append]

/-- Slashes at the end make no segment. -/
theorem nonempty_segments_slashes (t : Text) (n : Nat) :
    ((Text.split '/' (t ++ List.replicate n '/')).filter fun p => !p.isEmpty)
      = (Text.split '/' t).filter fun p => !p.isEmpty := by
  induction n with
  | zero => rw [List.replicate_zero, List.append_nil]
  | succ n ih =>
      have hnil : (Text.split '/' []).filter (fun p => !p.isEmpty) = [] := rfl
      rw [List.replicate_succ', ← List.append_assoc, nonempty_segments_append, ih, hnil,
        List.append_nil]

theorem nonempty_segments_trimmed (t : Text) :
    ((Text.split '/' (t.rdropWhile fun c => c = '/')).filter fun p => !p.isEmpty)
      = (Text.split '/' t).filter fun p => !p.isEmpty := by
  have hslashes : t.rtakeWhile (fun c => c = '/')
      = List.replicate (t.rtakeWhile fun c => c = '/').length '/' :=
    List.eq_replicate_of_mem fun c hc => by simpa using List.mem_rtakeWhile_imp hc
  have hsplit : t.rdropWhile (fun c => c = '/') ++ t.rtakeWhile (fun c => c = '/') = t :=
    List.rdropWhile_append_rtakeWhile
  rw [hslashes] at hsplit
  conv_rhs => rw [← hsplit]
  rw [nonempty_segments_slashes]

/-- A path without its query and the slashes at its end, and an id behind
it. -/
def itemPath (path id : Text) : Text :=
  (Text.before '?' path).rdropWhile (fun c => c = '/') ++ '/' :: id

/-- What may follow a path: nothing or a query. -/
def IsQueryPart (tail : Text) : Prop := tail = [] ∨ ∃ query, tail = '?' :: query

theorem before_itemPath {path id tail : Text} (hid : '?' ∉ id) (htail : IsQueryPart tail) :
    Text.before '?' (itemPath path id ++ tail) = itemPath path id := by
  have hno : '?' ∉ itemPath path id := by
    rw [itemPath, List.mem_append, List.mem_cons]
    rintro (h | h | h)
    · have hmem := (List.rdropWhile_prefix (fun c => decide (c = '/')) _).subset h
      simpa using List.mem_takeWhile_imp hmem
    · cases h
    · exact hid h
  rcases htail with rfl | ⟨query, rfl⟩
  · rw [List.append_nil, Text.before_eq_self hno]
  · exact Text.before_eq_of_cut (Text.cut_append query hno)

/-- An id that a path can carry and the parser does not take for something
else. -/
structure PlainId (id : Text) : Prop where
  nonempty : id ≠ []
  noSlash : '/' ∉ id
  noQuery : '?' ∉ id
  notWord : id ∉ nonIdSegments
  notVersion : ¬ ∃ digits, id = 'v' :: digits ∧ digits.length ≤ 2
    ∧ digits.all isAsciiDigit = true

theorem pathSegments_itemPath {path id tail : Text} (hid : PlainId id)
    (htail : IsQueryPart tail) :
    pathSegments (itemPath path id ++ tail) = pathSegments path ++ [id] := by
  unfold pathSegments
  rw [before_itemPath hid.noQuery htail, itemPath, nonempty_segments_append,
    nonempty_segments_trimmed, Text.split_eq_singleton hid.noSlash]
  simp [hid.nonempty]

theorem length_le_utf8Len (t : Text) : t.length ≤ Text.utf8Len t := by
  induction t with
  | nil => exact Nat.le_refl 0
  | cons c t ih =>
      have hpos := c.utf8Size_pos
      rw [Text.utf8Len_cons, List.length_cons]
      omega

theorem PlainId.isApiVersion_eq_false {id : Text} (hid : PlainId id) :
    isApiVersion id = false := by
  rw [Bool.eq_false_iff]
  intro hv
  simp only [isApiVersion, Bool.and_eq_true, decide_eq_true_eq] at hv
  obtain ⟨⟨hhead, hlen⟩, hdigits⟩ := hv
  obtain ⟨digits, rfl⟩ := List.head?_eq_some_iff.mp hhead
  refine hid.notVersion ⟨digits, rfl, ?_, hdigits⟩
  have hle := length_le_utf8Len ('v' :: digits)
  rw [List.length_cons] at hle
  omega

/-- A collection is the last segment of its path. -/
theorem getLast?_of_collection {path c : Text} (h : pathCollectionSegment path = some c) :
    (pathSegments path).getLast? = some c := by
  unfold pathCollectionSegment at h
  split at h
  · cases h
  · rename_i last hlast
    split at h
    · cases h
    · split at h
      · cases h
      · rw [hlast, h]

theorem namesResource_itemPath {path c id tail : Text} (hc : pathCollectionSegment path = some c)
    (hid : PlainId id) (htail : IsQueryPart tail) :
    NamesResource (itemPath path id ++ tail) c id where
  segments := by
    obtain ⟨front, hfront⟩ := List.getLast?_eq_some_iff.mp (getLast?_of_collection hc)
    refine ⟨front.reverse, ?_⟩
    rw [pathSegments_itemPath hid htail, hfront]
    simp
  isId := ⟨by simpa using hid.notWord, hid.isApiVersion_eq_false⟩

-- =========================================================== the capture

section Capture

variable (env : Externals) {call : Call} {ctx : RequestContext} {res : UpstreamResponse}

/-- A created resource is captured under the collection of its path and the
id in its body. -/
theorem learned_resource_stored {c id : Text} {body : Json} (hmethod : ctx.method = "POST")
    (hstatus : 200 ≤ res.status.1 ∧ res.status.1 < 300)
    (hc : pathCollectionSegment ctx.pathQuery = some c)
    (hbody : env.parseJsonSlice res.body = some body) (hextract : extractId body c none = some id)
    (now : Nat) (st : AppState) :
    ∃ r, r.body = body
      ∧ (settle now st (learnCapture env call ctx res)).resourceStore.lookup ctx.svcKey c id
        = some r := by
  have hguard : ((ctx.method = "POST" || ctx.method = "PUT") && 200 ≤ res.status.1
      && res.status.1 < 300) = true := by
    simp [hmethod, hstatus.1, hstatus.2]
  rw [learnCapture, if_pos hguard, hc]
  dsimp only
  rw [hbody]
  dsimp only
  rw [settle, List.foldl_cons, List.foldl_nil, runSpawned]
  dsimp only
  rw [ResourceStore.captureCreate, hextract]
  dsimp only
  exact ⟨_, rfl, by rw [ResourceStore.lookup_put, if_pos rfl]⟩

variable (call ctx res) in
/-- What a LEARN write creates, a GET on the path of its item finds. -/
theorem learned_resource_found {c id tail : Text} {body : Json} (hmethod : ctx.method = "POST")
    (hstatus : 200 ≤ res.status.1 ∧ res.status.1 < 300)
    (hc : pathCollectionSegment ctx.pathQuery = some c)
    (hbody : env.parseJsonSlice res.body = some body) (hextract : extractId body c none = some id)
    (hid : PlainId id) (htail : IsQueryPart tail) (now : Nat) (st : AppState) :
    parseCollectionAndId (itemPath ctx.pathQuery id ++ tail) = some (c, id)
      ∧ ∃ r, r.body = body
        ∧ (settle now st (learnCapture env call ctx res)).resourceStore.lookup ctx.svcKey c id
          = some r
        ∧ ∀ (call' : Call) (ctx' : RequestContext), ctx'.method = "GET" →
            ctx'.svcKey = ctx.svcKey → ctx'.pathQuery = itemPath ctx.pathQuery id ++ tail →
            (resourceLayer env call' ctx' (settle now st (learnCapture env call ctx res))).2
              = some (serveResource env call' .resourceStore xGhostResource "true" r) := by
  have hparse := (namesResource_itemPath hc hid htail).parse
  obtain ⟨r, hr, hstored⟩ := learned_resource_stored env hmethod hstatus hc hbody hextract now st
  refine ⟨hparse, r, hr, hstored, fun call' ctx' hget hsvc hpath => ?_⟩
  have hhit : resourceHit ctx' (settle now st (learnCapture env call ctx res)) = some r := by
    rw [resourceHit, resourceTarget, if_pos hget, hpath, hparse, ← hstored, ← hsvc]
    rfl
  rw [resourceLayer_of_hit hhit]

/-- A charge is created on a path with a slash at its end. -/
noncomputable def slashedPost : RequestContext :=
  { chargeContext "ch_1" chargeProxy (learnPost "ch_1") with pathQuery := "/v1/charges/" }

/-- The charge is read with a query. -/
theorem learned_resource_found_charge :
    parseCollectionAndId (itemPath slashedPost.pathQuery "ch_1" ++ ("?expand=1" : Text))
        = some (("charges" : Text), ("ch_1" : Text))
      ∧ ∃ r, r.body = charge "ch_1" "created"
        ∧ (settle 0 chargeProxy (learnCapture (chargeExternals "ch_1") (learnPost "ch_1")
            slashedPost (chargeAnswer "ch_1" created))).resourceStore.lookup slashedPost.svcKey
              "charges" "ch_1"
          = some r
        ∧ ∀ (call' : Call) (ctx' : RequestContext), ctx'.method = "GET" →
            ctx'.svcKey = slashedPost.svcKey →
            ctx'.pathQuery = itemPath slashedPost.pathQuery "ch_1" ++ ("?expand=1" : Text) →
            (resourceLayer (chargeExternals "ch_1") call' ctx' (settle 0 chargeProxy
              (learnCapture (chargeExternals "ch_1") (learnPost "ch_1") slashedPost
                (chargeAnswer "ch_1" created)))).2
              = some (serveResource (chargeExternals "ch_1") call' .resourceStore xGhostResource
                "true" r) := by
  have hplain : PlainId "ch_1" := {
    nonempty := by decide
    noSlash := by decide
    noQuery := by decide
    notWord := by decide
    notVersion := by
      rintro ⟨digits, h, -⟩
      have hhead : some 'c' = some 'v' := congrArg List.head? h
      exact absurd hhead (by decide) }
  have hbody : (chargeExternals "ch_1").parseJsonSlice (chargeAnswer "ch_1" created).body
      = some (charge "ch_1" "created") := by
    rw [Externals.parseJsonSlice, Utf8.fromUtf8, chargeAnswer, Utf8.fromUtf8Lossy_utf8,
      if_pos rfl]
    rfl
  exact learned_resource_found (chargeExternals "ch_1") (learnPost "ch_1") slashedPost
    (chargeAnswer "ch_1" created) rfl ⟨by decide, by decide⟩ (by decide) hbody (by decide) hplain
    (Or.inr ⟨("expand=1" : Text), rfl⟩) 0 chargeProxy

end Capture

-- ============================================== paths that end in an id

/-- The ids a path can end in: the matcher's all-digit and UUID classes, and
the underscore-and-digit ids of the capture's own check. -/
def IsItemId (seg : Text) : Prop :=
  (seg ≠ [] ∧ seg.all isAsciiDigit = true) ∨ UuidShape seg
    ∨ ('_' ∈ seg ∧ seg.any isAsciiDigit = true)

theorem ne_nil_of_segment {path seg : Text} (h : (pathSegments path).getLast? = some seg) :
    seg ≠ [] := by
  have hmem := List.mem_of_getLast? h
  rw [pathSegments, List.mem_filter] at hmem
  simpa using hmem.2

/-- What the capture's check makes of a path by its last segment. -/
theorem pathCollectionSegment_of_last {path seg : Text}
    (h : (pathSegments path).getLast? = some seg) :
    pathCollectionSegment path = none
      ↔ ('_' ∈ seg ∧ seg.any isAsciiDigit = true) ∨ seg ∈ actionVerbs := by
  have hdigit : (seg.any fun c => 48 ≤ c.toNat && c.toNat ≤ 57) = seg.any isAsciiDigit := rfl
  rw [pathCollectionSegment, h]
  dsimp only
  rw [hdigit, List.contains_eq_mem]
  split
  · simp_all
  · split <;> simp_all

/-- Digits are no verb and hold no underscore. -/
theorem digits_pass {seg : Text} (h : seg.all isAsciiDigit = true) :
    '_' ∉ seg ∧ seg ∉ actionVerbs := by
  have hchars := List.all_eq_true.mp h
  refine ⟨fun hmem => absurd (hchars _ hmem) (by decide), fun hverb => ?_⟩
  have hnone : ∀ v ∈ actionVerbs, v.all isAsciiDigit = false := by decide
  rw [hnone seg hverb] at h
  cases h

/-- A UUID is no verb and holds no underscore. -/
theorem uuid_pass {seg : Text} (h : UuidShape seg) : '_' ∉ seg ∧ seg ∉ actionVerbs := by
  refine ⟨fun hmem => ?_, fun hverb => ?_⟩
  · rcases (fiveHexGroups_of_uuidShape h).char hmem with hdash | hhex
    · exact absurd hdash (by decide)
    · exact absurd hhex (by decide)
  · have hnone : ∀ v ∈ actionVerbs, (Text.split '-' v).map List.length ≠ [8, 4, 4, 4, 12] := by
      decide
    exact hnone seg hverb h.widths

/-- No capture without a collection. -/
theorem learnCapture_of_none (env : Externals) (call : Call) {ctx : RequestContext}
    (res : UpstreamResponse) (h : pathCollectionSegment ctx.pathQuery = none) :
    learnCapture env call ctx res = [] := by
  unfold learnCapture
  split
  · rw [h]
  · rfl

/-- A path that ends in an id files nothing exactly when the id is neither
all digits nor a UUID. -/
theorem pathCollectionSegment_ids_iff (path : Text) :
    (∀ seg, (pathSegments path).getLast? = some seg → IsItemId seg →
      pathCollectionSegment path = none
        ∧ ∀ (env : Externals) (call : Call) (ctx : RequestContext) (res : UpstreamResponse),
            ctx.pathQuery = path → learnCapture env call ctx res = [])
      ↔ ∀ seg, (pathSegments path).getLast? = some seg →
          seg.all isAsciiDigit = false ∧ ¬ UuidShape seg := by
  constructor
  · intro h seg hseg
    have hpasses : '_' ∉ seg ∧ seg ∉ actionVerbs → ¬ IsItemId seg := by
      rintro ⟨hunder, hverb⟩ hid
      rcases (pathCollectionSegment_of_last hseg).mp (h seg hseg hid).1 with ⟨hmem, -⟩ | hmem
      · exact hunder hmem
      · exact hverb hmem
    have hne := ne_nil_of_segment hseg
    refine ⟨?_, fun huuid => hpasses (uuid_pass huuid) (Or.inr (Or.inl huuid))⟩
    rw [Bool.eq_false_iff]
    intro hdigits
    exact hpasses (digits_pass hdigits) (Or.inl ⟨hne, hdigits⟩)
  · rintro h seg hseg (⟨-, hdigits⟩ | huuid | hunder)
    · rw [(h seg hseg).1] at hdigits
      cases hdigits
    · exact absurd huuid (h seg hseg).2
    · have hnone := (pathCollectionSegment_of_last hseg).mpr (Or.inl hunder)
      refine ⟨hnone, fun env call ctx res hpath => ?_⟩
      rw [← hpath] at hnone
      exact learnCapture_of_none env call res hnone

/-- An update of charge 42 is filed under the collection `42`. -/
theorem pathCollectionSegment_number :
    ¬ ∀ path seg : Text, (pathSegments path).getLast? = some seg → IsItemId seg →
      pathCollectionSegment path = none := by
  intro h
  have hcode : pathCollectionSegment "/charges/42" = some ("42" : Text) := by decide
  have hnone := h "/charges/42" "42" (by decide) (Or.inl ⟨by decide, by decide⟩)
  rw [hcode] at hnone
  cases hnone

end GostlyProxy
