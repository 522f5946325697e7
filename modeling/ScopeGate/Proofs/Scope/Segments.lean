import Mathlib.Data.List.Basic
import ScopeGate.Scope.Coverage

/-!
# Coverage by segments

`Parts.permissionCovers` compares two permissions character by character: the one is found at the
start of the other, and what is left is nothing or starts with a dot. Read by segments this says
that the list of the one's segments starts the list of the other's. The two readings agree on every
text, also where segments are empty, since cutting a text at its dots loses nothing: the text is
what its segments give when they are joined again.
-/

namespace ScopeGate

section SplitOn

variable {α : Type}

/-- Joining splits where the list of what is joined does, with a separator in between unless one
side is empty. -/
theorem intercalate_append (sep : List α) {xs ys : List (List α)} (hx : xs ≠ []) (hy : ys ≠ []) :
    sep.intercalate (xs ++ ys) = sep.intercalate xs ++ sep ++ sep.intercalate ys := by
  induction xs with
  | nil => exact absurd rfl hx
  | cons x xs ih =>
    rw [List.cons_append,
      List.intercalate_cons_of_ne_nil (List.append_ne_nil_of_right_ne_nil xs hy)]
    cases xs with
    | nil => simp
    | cons x' xs =>
      rw [ih (List.cons_ne_nil x' xs), List.intercalate_cons_of_ne_nil (List.cons_ne_nil x' xs)]
      simp only [List.append_assoc]

/-- The pieces of one text start those of another exactly when the two are the same, or the second
goes on with a separator after the first. -/
theorem splitOn_isPrefix_iff [BEq α] [LawfulBEq α] (a : α) (xs ys : List α) :
    xs.splitOn a <+: ys.splitOn a ↔ ys = xs ∨ ∃ rest, ys = xs ++ a :: rest := by
  constructor
  · rintro ⟨t, ht⟩
    have hjoin : [a].intercalate (xs.splitOn a ++ t) = ys := by
      rw [ht, List.intercalate_splitOn]
    cases t with
    | nil =>
      left
      rw [← hjoin, List.append_nil, List.intercalate_splitOn]
    | cons p ps =>
      right
      refine ⟨[a].intercalate (p :: ps), ?_⟩
      rw [intercalate_append [a] (List.splitOn_ne_nil a xs) (List.cons_ne_nil p ps),
        List.intercalate_splitOn] at hjoin
      rw [← hjoin, List.append_assoc, List.singleton_append]
  · rintro (rfl | ⟨rest, rfl⟩)
    · exact List.prefix_refl _
    · rw [List.splitOn_append_cons_self]
      exact List.prefix_append _ _

theorem not_mem_of_mem_splitOn [BEq α] [LawfulBEq α] {a : α} {xs p : List α}
    (hp : p ∈ xs.splitOn a) : a ∉ p := by
  induction xs generalizing p with
  | nil =>
    rw [List.splitOn_nil, List.mem_singleton] at hp
    simp [hp]
  | cons x xs ih =>
    rw [List.splitOn_cons_eq_if_modifyHead] at hp
    split at hp
    · rcases List.mem_cons.mp hp with rfl | hp
      · exact List.not_mem_nil
      · exact ih hp
    · rename_i hx
      cases hsplit : xs.splitOn a with
      | nil => exact absurd hsplit (List.splitOn_ne_nil a xs)
      | cons q qs =>
        rw [hsplit, List.modifyHead_cons] at hp
        rw [hsplit] at ih
        rcases List.mem_cons.mp hp with rfl | hp
        · have hne : a ≠ x := fun h => hx (by simp [h])
          simpa [hne] using ih List.mem_cons_self
        · exact ih (List.mem_cons_of_mem q hp)

end SplitOn

namespace Scope.Parts

theorem string_ofList_injective : Function.Injective String.ofList := by
  intro xs ys h
  simpa using congrArg String.toList h

/-- The test on characters: the permission is the same, or goes on with a dot. -/
theorem permissionCovers_eq_true (p q : Parts) :
    p.permissionCovers q = true ↔
      q.permission.toList = p.permission.toList
        ∨ ∃ rest, q.permission.toList = p.permission.toList ++ segmentSeparator :: rest := by
  unfold permissionCovers
  cases h : p.permission.toList.isPrefixOf? q.permission.toList with
  | none =>
    have hno : ∀ zs, p.permission.toList ++ zs ≠ q.permission.toList := by
      intro zs hz
      rw [List.isPrefixOf?_eq_some_iff_append_eq.mpr hz] at h
      cases h
    simp only [Bool.false_eq_true, false_iff, not_or, not_exists]
    exact ⟨fun he => hno [] (by simpa using he.symm), fun rest he => hno _ he.symm⟩
  | some zs =>
    have hq := List.append_eq_of_isPrefixOf?_eq_some h
    rw [← hq]
    cases zs with
    | nil => simp
    | cons c cs =>
      simp

/-- Coverage of permissions is the order of lists of segments by prefix. -/
theorem permissionCovers_iff_segments (p q : Parts) :
    p.permissionCovers q = true ↔ p.segments <+: q.segments := by
  rw [permissionCovers_eq_true, segments, segments,
    List.prefix_map_iff_of_injective string_ofList_injective, splitOn_isPrefix_iff]

theorem intercalate_segments (p : Parts) :
    [segmentSeparator].intercalate (p.segments.map String.toList) = p.permission.toList := by
  simp [segments, Function.comp_def]

theorem segments_ne_nil (p : Parts) : p.segments ≠ [] := by
  simp [segments, List.splitOn_ne_nil]

theorem segmentSeparator_not_mem {p : Parts} {segment : String} (h : segment ∈ p.segments) :
    segmentSeparator ∉ segment.toList := by
  obtain ⟨cs, hcs, rfl⟩ := List.mem_map.mp h
  rw [String.toList_ofList]
  exact not_mem_of_mem_splitOn hcs

theorem permission_eq_of_segments_eq {p q : Parts} (h : p.segments = q.segments) :
    p.permission = q.permission := by
  rw [← String.toList_inj, ← p.intercalate_segments, ← q.intercalate_segments, h]

theorem getLast?_permission {p : Parts} {segment : String} (h : p.segments.getLast? = some segment)
    (hne : segment ≠ "") : p.permission.toList.getLast? = segment.toList.getLast? := by
  obtain ⟨path, hpath⟩ := List.getLast?_eq_some_iff.mp h
  have hlist : segment.toList ≠ [] := by simpa using hne
  rw [← p.intercalate_segments, hpath, List.map_append, List.map_singleton]
  cases path with
  | nil => simp
  | cons x xs =>
    rw [intercalate_append _ (by simp) (by simp), List.intercalate_singleton,
      List.getLast?_append_of_ne_nil _ hlist]

/-- A permission whose segments start those of another one starts it as a text. -/
theorem permission_isPrefix_of_segments {p q : Parts} (h : p.segments <+: q.segments) :
    p.permission.toList <+: q.permission.toList := by
  have hcovers := (permissionCovers_eq_true p q).mp ((permissionCovers_iff_segments p q).mpr h)
  rcases hcovers with hsame | ⟨rest, hmore⟩
  · exact hsame.symm ▸ List.prefix_refl _
  · exact ⟨_, hmore.symm⟩

theorem depth_le_of_permissionCovers {p q : Parts} (h : p.permissionCovers q = true) :
    p.depth ≤ q.depth :=
  ((permissionCovers_iff_segments p q).mp h).length_le

theorem permission_eq_of_permissionCovers {p q : Parts} (h : p.permissionCovers q = true)
    (hback : q.permissionCovers p = true) : p.permission = q.permission := by
  have hpath := (permissionCovers_iff_segments p q).mp h
  exact permission_eq_of_segments_eq
    (hpath.eq_of_length_le (depth_le_of_permissionCovers hback))

theorem permissionCovers_of_permission_eq {p q : Parts} (h : p.permission = q.permission) :
    p.permissionCovers q = true :=
  (permissionCovers_eq_true p q).mpr (.inl (by rw [h]))

/-- The test on characters decides whether the segments of the one permission start those of the
other, of whatever texts the parts are put together. Services and actions play no part in it, what
covers is no deeper than what it covers, and only equal permissions cover each other. -/
theorem permissionCovers_orders_segments (p q : Parts) :
    (p.permissionCovers q = true ↔ p.segments <+: q.segments)
      ∧ (∀ service action service' action',
        permissionCovers ⟨service, p.permission, action⟩ ⟨service', q.permission, action'⟩
          = p.permissionCovers q)
      ∧ (p.permissionCovers q = true → p.depth ≤ q.depth)
      ∧ (p.permissionCovers q = true ∧ q.permissionCovers p = true ↔
        p.permission = q.permission) := by
  refine ⟨permissionCovers_iff_segments p q, fun _ _ _ _ => rfl, depth_le_of_permissionCovers, ?_⟩
  constructor
  · rintro ⟨h, hback⟩
    exact permission_eq_of_permissionCovers h hback
  · intro h
    exact ⟨permissionCovers_of_permission_eq h, permissionCovers_of_permission_eq h.symm⟩

example : permissionCovers ⟨"s", "user.", "read"⟩ ⟨"s", "user..name", "read"⟩ = true := by decide

example : permissionCovers ⟨"s", "user.", "read"⟩ ⟨"s", "user.name", "read"⟩ = false := by decide

end Scope.Parts

end ScopeGate
