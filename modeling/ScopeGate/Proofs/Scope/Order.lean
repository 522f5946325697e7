import Mathlib.Data.List.Infix
import Mathlib.Order.Defs.Unbundled
import ScopeGate.Proofs.Scope.Matching
import ScopeGate.Proofs.Scope.Parts

/-!
# The order of scopes

One scope covers another when it is enough for it on its own. Between structured scopes this is an
order, since the segments of a permission determine it and starts of lists are ordered.

Above a structured scope there is a chain. A broader permission is joined from the first segments of
a narrower one, and all but one condition of being written survive that: the last segment must not
end in a colon, which would begin the pair that follows. So the chain has a scope for each segment
at which a permission may end (`Parts.broader`).

Aliases take part in coverage without being structured. Among them only `profile` covers anything
but itself, and it is the one scope from which coverage does not pass on.
-/

namespace ScopeGate

section Starts

variable {α : Type}

/-- Among the starts of a list each one starts those that follow and is none of them. -/
theorem pairwise_inits (l : List α) : l.inits.Pairwise fun xs ys => xs <+: ys ∧ xs ≠ ys := by
  induction l with
  | nil => simp
  | cons a l ih =>
    rw [List.inits_cons, List.pairwise_cons, List.pairwise_map]
    constructor
    · intro ys hys
      obtain ⟨zs, -, rfl⟩ := List.mem_map.mp hys
      exact ⟨List.nil_prefix, (List.cons_ne_nil a zs).symm⟩
    · refine ih.imp ?_
      rintro xs ys ⟨hstarts, hne⟩
      exact ⟨(List.prefix_cons_inj a).mpr hstarts, fun h => hne (List.cons_injective h)⟩

theorem inits_eq_cons_tail (l : List α) : l.inits = [] :: l.inits.tail := by
  cases l <;> simp

theorem mem_tail_inits {xs l : List α} : xs ∈ l.inits.tail ↔ xs <+: l ∧ xs ≠ [] := by
  have hmem := List.mem_inits xs l
  have hnew := pairwise_inits l
  rw [inits_eq_cons_tail, List.pairwise_cons] at hnew
  rw [inits_eq_cons_tail, List.mem_cons] at hmem
  constructor
  · intro h
    exact ⟨hmem.mp (.inr h), (hnew.1 xs h).2.symm⟩
  · rintro ⟨h, hne⟩
    exact (hmem.mpr h).resolve_left hne

/-- The starts of a list that are not empty end with its members, one after the other. -/
theorem map_getLast?_tail_inits (l : List α) : l.inits.tail.map List.getLast? = l.map some := by
  induction l with
  | nil => rfl
  | cons a l ih =>
    have hlater : ∀ xs ∈ l.inits.tail, (a :: xs).getLast? = xs.getLast? := fun xs hxs =>
      List.getLast?_cons_of_ne_nil (mem_tail_inits.mp hxs).2
    rw [List.inits_cons, List.tail_cons, List.map_map, inits_eq_cons_tail, List.map_cons,
      List.map_cons, ← ih]
    congr 1
    exact List.map_congr_left hlater

end Starts

namespace Scope

/-- Whether `s` is enough for `t` on its own. -/
def Covers (s t : Scope) : Prop := anyMeets [s] t = true

def IsStructured (s : Scope) : Prop := ∃ p, s.parts? = some p

theorem anyMeets_iff_exists_covers (granted : List Scope) (r : Scope) :
    anyMeets granted r = true ↔ ∃ g ∈ granted, g.Covers r := by
  unfold Covers anyMeets
  cases r.isMalformed <;> simp

theorem covers_iff_entails (s t : Scope) : s.Covers t ↔ t.isMalformed = false ∧ s.Entails t := by
  unfold Covers
  cases ht : t.isMalformed with
  | true => simp [anyMeets_eq_false_of_isMalformed ht]
  | false => simp [anyMeets_of_isMalformed_eq_false ht]

theorem IsStructured.isMalformed_eq_false {s : Scope} (h : s.IsStructured) :
    s.isMalformed = false := (isMalformed_eq_false_iff s).mpr (.inr h)

theorem IsStructured.ne_profile {s : Scope} (h : s.IsStructured) : s ≠ profile := by
  rintro rfl
  obtain ⟨p, hp⟩ := h
  rw [parts?_eq_none_of_isAlias isAlias_profile] at hp
  cases hp

theorem covers_iff_parts {s t : Scope} {p q : Parts} (hs : s.parts? = some p)
    (ht : t.parts? = some q) :
    s.Covers t ↔ p.service = q.service ∧ p.action = q.action ∧ p.segments <+: q.segments := by
  rw [covers_iff_entails]
  constructor
  · rintro ⟨-, h⟩
    cases h with
    | same h =>
      rw [h, ht, Option.some.injEq] at hs
      rw [hs]
      exact ⟨rfl, rfl, List.prefix_refl _⟩
    | profile hg _ => exact absurd hg (IsStructured.ne_profile ⟨p, hs⟩)
    | broader hg hr hservice haction hpath =>
      rw [hs, Option.some.injEq] at hg
      rw [ht, Option.some.injEq] at hr
      rw [hg, hr]
      exact ⟨hservice, haction, hpath⟩
  · rintro ⟨hservice, haction, hpath⟩
    exact ⟨IsStructured.isMalformed_eq_false ⟨q, ht⟩, .broader hs ht hservice haction hpath⟩

theorem covers_refl {s : Scope} (hs : s.IsStructured) : s.Covers s :=
  (covers_iff_entails s s).mpr ⟨hs.isMalformed_eq_false, .same rfl⟩

/-- Coverage passes on from every scope but `profile`, whatever stands in between. -/
theorem Covers.trans {s t u : Scope} (hs : s ≠ profile) (hst : s.Covers t) (htu : t.Covers u) :
    s.Covers u := by
  rw [covers_iff_entails] at hst htu ⊢
  refine ⟨htu.1, ?_⟩
  cases hst.2 with
  | same h => exact h ▸ htu.2
  | profile h _ => exact absurd h hs
  | @broader p q hp hq hservice haction hpath =>
    cases htu.2 with
    | same h => exact h ▸ .broader hp hq hservice haction hpath
    | profile h _ => exact absurd h (IsStructured.ne_profile ⟨q, hq⟩)
    | broader hq' hr hservice' haction' hpath' =>
      rw [hq, Option.some.injEq] at hq'
      subst hq'
      exact .broader hp hr (hservice.trans hservice') (haction.trans haction')
        (hpath.trans hpath')

namespace Parts

def withSegments (p : Parts) (path : List String) : Parts :=
  { p with permission := String.ofList ([segmentSeparator].intercalate (path.map String.toList)) }

/-- Whether a permission may end with a segment: a colon at the end would begin the pair that
follows. -/
def mayEndWith (segment : String) : Bool := segment.toList.getLast? != some ':'

/-- The scopes with the same service and action whose permission starts that of the parts, the
broadest first. -/
def broader (p : Parts) : List Scope :=
  (p.segments.inits.tail.filter fun path => path.getLast?.any mayEndWith).map fun path =>
    (p.withSegments path).toScope

theorem segments_withSegments (p : Parts) {path : List String} (hne : path ≠ [])
    (hdots : ∀ segment ∈ path, segmentSeparator ∉ segment.toList) :
    (p.withSegments path).segments = path := by
  have hsplit : ([segmentSeparator].intercalate (path.map String.toList)).splitOn segmentSeparator
      = path.map String.toList :=
    List.splitOn_intercalate segmentSeparator (by simpa using hdots) (by simpa using hne)
  simp [segments, withSegments, hsplit, Function.comp_def]

theorem withSegments_segments {p q : Parts} (hservice : p.service = q.service)
    (haction : p.action = q.action) : q.withSegments p.segments = p := by
  simp [withSegments, intercalate_segments, ← hservice, ← haction]

/-- All that the first segments of a permission have to do to be a permission again is to end with
one that a permission may end with. -/
theorem IsWritable.withSegments_iff {q : Parts} (hq : q.IsWritable) {path : List String}
    (hpath : path <+: q.segments) (hne : path ≠ []) :
    (q.withSegments path).IsWritable ↔ path.getLast?.any mayEndWith = true := by
  have hsegments : (q.withSegments path).segments = path :=
    q.segments_withSegments hne fun _ h => segmentSeparator_not_mem (hpath.mem h)
  have hfull : ∀ segment ∈ path, segment ≠ "" := fun _ h =>
    hq.segments_ne_empty _ (hpath.mem h)
  have hstart : (q.withSegments path).permission.toList <+: q.permission.toList :=
    permission_isPrefix_of_segments (hsegments.symm ▸ hpath)
  obtain ⟨segment, hlast⟩ := Option.isSome_iff_exists.mp (List.getLast?_isSome.mpr hne)
  have hends := getLast?_permission (hsegments.symm ▸ hlast)
    (hfull segment (List.mem_of_getLast? hlast))
  rw [hlast, Option.any_some, mayEndWith, bne_iff_ne, ← hends]
  constructor
  · exact fun h => h.permission_no_colon_last
  · intro hcolon
    have hsegments_full : ∀ x ∈ (q.withSegments path).segments, x ≠ "" := hsegments.symm ▸ hfull
    exact ⟨hq.service_ne_empty, Parts.permission_ne_empty hsegments_full, hq.action_ne_empty,
      hq.service_holds_none, fun h => hq.permission_holds_none (h.trans hstart.isInfix),
      hq.action_holds_none, hq.service_no_colon_last, hcolon, hsegments_full⟩

end Parts

/-- Coverage of structured scopes goes both ways only between a scope and itself. -/
theorem Covers.antisymm {s t : Scope} (hs : s.IsStructured) (ht : t.IsStructured)
    (hst : s.Covers t) (hts : t.Covers s) : s = t := by
  obtain ⟨p, hp⟩ := hs
  obtain ⟨q, hq⟩ := ht
  obtain ⟨hservice, haction, hpath⟩ := (covers_iff_parts hp hq).mp hst
  obtain ⟨-, -, hback⟩ := (covers_iff_parts hq hp).mp hts
  have hsegments : p.segments = q.segments :=
    hpath.eq_of_length (le_antisymm hpath.length_le hback.length_le)
  have hpq : p = q := by
    obtain ⟨service, permission, action⟩ := p
    obtain ⟨service', permission', action'⟩ := q
    exact (Parts.mk.injEq ..).mpr ⟨hservice, Parts.permission_eq_of_segments_eq hsegments, haction⟩
  rw [((parts?_eq_some_iff s p).mp hp).1, ((parts?_eq_some_iff t q).mp hq).1, hpq]

theorem isPartialOrder_covers :
    IsPartialOrder {s : Scope // s.IsStructured} fun s t => s.val.Covers t.val where
  refl s := covers_refl s.property
  trans s _ _ hst htu := hst.trans s.property.ne_profile htu
  antisymm s t hst hts := Subtype.ext (hst.antisymm s.property t.property hts)

/-- The segment with which the permission of a structured scope ends. -/
def lastSegment? (s : Scope) : Option String := s.parts?.bind fun p => p.segments.getLast?

/-- A list of the structured scopes that cover `t`, each of them once, in which each scope covers
those that follow. -/
structure IsChainTo (t : Scope) (chain : List Scope) : Prop where
  mem_iff : ∀ s, s ∈ chain ↔ s.IsStructured ∧ s.Covers t
  nodup : chain.Nodup
  covers : chain.Pairwise Covers

section Broader

variable {t : Scope} {q : Parts}

/-- The permissions above one are those of its first segments that may end where they do. -/
theorem parts?_withSegments (hq : q.IsWritable) {path : List String}
    (hpath : path ∈ q.segments.inits.tail.filter fun path => path.getLast?.any Parts.mayEndWith) :
    (q.withSegments path).toScope.parts? = some (q.withSegments path)
      ∧ (q.withSegments path).segments = path ∧ path <+: q.segments := by
  obtain ⟨hinits, hends⟩ := List.mem_filter.mp hpath
  obtain ⟨hstarts, hne⟩ := mem_tail_inits.mp hinits
  refine ⟨(parts?_eq_some_iff _ _).mpr ⟨rfl, (hq.withSegments_iff hstarts hne).mpr hends⟩, ?_,
    hstarts⟩
  exact q.segments_withSegments hne fun _ h => Parts.segmentSeparator_not_mem (hstarts.mem h)

theorem mem_broader_iff (ht : t.parts? = some q) (s : Scope) :
    s ∈ q.broader ↔ s.IsStructured ∧ s.Covers t := by
  obtain ⟨-, hq⟩ := (parts?_eq_some_iff t q).mp ht
  unfold Parts.broader
  constructor
  · intro h
    obtain ⟨path, hpath, rfl⟩ := List.mem_map.mp h
    obtain ⟨hparts, hsegments, hstarts⟩ := parts?_withSegments hq hpath
    exact ⟨⟨_, hparts⟩, (covers_iff_parts hparts ht).mpr ⟨rfl, rfl, hsegments.symm ▸ hstarts⟩⟩
  · rintro ⟨⟨p, hp⟩, hcovers⟩
    obtain ⟨hservice, haction, hstarts⟩ := (covers_iff_parts hp ht).mp hcovers
    obtain ⟨rfl, hwritable⟩ := (parts?_eq_some_iff s p).mp hp
    have hparts : q.withSegments p.segments = p := Parts.withSegments_segments hservice haction
    refine List.mem_map.mpr ⟨p.segments, List.mem_filter.mpr ⟨?_, ?_⟩, by rw [hparts]⟩
    · exact mem_tail_inits.mpr ⟨hstarts, p.segments_ne_nil⟩
    · exact (hq.withSegments_iff hstarts p.segments_ne_nil).mp (hparts.symm ▸ hwritable)

theorem isChainTo_broader (ht : t.parts? = some q) : IsChainTo t q.broader := by
  obtain ⟨-, hq⟩ := (parts?_eq_some_iff t q).mp ht
  have hordered : q.broader.Pairwise fun s u => s.Covers u ∧ s ≠ u := by
    refine List.pairwise_map.mpr ?_
    refine (((pairwise_inits q.segments).sublist (List.tail_sublist _)).filter _).imp_of_mem ?_
    rintro path path' hpath hpath' ⟨hstarts, hne⟩
    obtain ⟨hparts, hsegments, -⟩ := parts?_withSegments hq hpath
    obtain ⟨hparts', hsegments', -⟩ := parts?_withSegments hq hpath'
    refine ⟨(covers_iff_parts hparts hparts').mpr ⟨rfl, rfl, ?_⟩, fun h => hne ?_⟩
    · rw [hsegments, hsegments']
      exact hstarts
    · rw [h, hparts', Option.some.injEq] at hparts
      rw [← hsegments, ← hsegments', hparts]
  exact ⟨mem_broader_iff ht, hordered.imp And.right, hordered.imp And.left⟩

/-- The scopes above a structured scope end with those of its segments that a permission may end
with, one after the other. -/
theorem map_lastSegment?_broader (ht : t.parts? = some q) :
    q.broader.map lastSegment? = (q.segments.filter Parts.mayEndWith).map some := by
  obtain ⟨-, hq⟩ := (parts?_eq_some_iff t q).mp ht
  unfold Parts.broader
  rw [List.map_map]
  calc _ = (q.segments.inits.tail.filter fun path => path.getLast?.any Parts.mayEndWith).map
        List.getLast? := by
        refine List.map_congr_left fun path hpath => ?_
        obtain ⟨hparts, hsegments, -⟩ := parts?_withSegments hq hpath
        rw [Function.comp_apply, lastSegment?, hparts, Option.bind_some, hsegments]
    _ = (q.segments.inits.tail.map List.getLast?).filter fun last =>
        last.any Parts.mayEndWith := by rw [List.filter_map]; rfl
    _ = (q.segments.filter Parts.mayEndWith).map some := by
        rw [map_getLast?_tail_inits, List.filter_map]; rfl

example : (Parts.mk "a" "b:.c.d" "e").broader = [⟨"a::b:.c::e"⟩, ⟨"a::b:.c.d::e"⟩] := by cbv

end Broader

end Scope

end ScopeGate
