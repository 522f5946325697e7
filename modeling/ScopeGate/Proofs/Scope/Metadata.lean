import ScopeGate.Proofs.Scope.Registration
import ScopeGate.Scope.Registry

/-!
# Namespaces of metadata

`metadataNamespace` reads the namespace off the text of a permission. Its test on characters is one
of its own, and it draws the line where coverage draws it: a permission names a namespace exactly if
the permission over all metadata covers it. The namespace is made of the segments that come after.

On any text the two tests differ in one place. Where a dot ends the text, coverage finds an empty
segment after it, and there is no namespace. The permissions that may stand in a scope have no empty
segments. Nor have they a star, so that the name for all metadata is not the namespace of anything
else, and no two of them share a namespace.
-/

namespace ScopeGate.Scope

/-- The permissions that may stand in a scope fit for registration. -/
def IsPermission (permission : String) : Prop :=
  ∃ service action, Parts.validate ⟨service, permission, action⟩ = .ok ()

theorem Parts.areSpelled_of_validate {p : Parts} (h : p.validate = .ok ()) : p.AreSpelled := by
  refine p.areSpelled_or_partFault.resolve_right ?_
  rintro ⟨f, hf⟩
  rw [hf.validate_eq] at h
  cases h

/-- The permissions are the paths, whatever stands beside them. -/
theorem isPermission_iff (permission : String) :
    IsPermission permission ↔ IsPathText permission.toList := by
  constructor
  · rintro ⟨service, action, h⟩
    exact (Parts.areSpelled_of_validate h).permission
  · intro h
    have hservice : IsNameText "a".toList := (isName_iff _).mp (by decide)
    have hspelled : Parts.AreSpelled ⟨"a", permission, "read"⟩ := ⟨hservice, h, by simp⟩
    exact ⟨"a", "read", hspelled.validate_eq⟩

theorem IsPathText.of_append {cs rest : List Char}
    (h : IsPathText (cs ++ segmentSeparator :: rest)) :
    IsPathText rest := by
  rw [← all_isName_splitOn_iff, List.splitOn_append_cons_self, List.all_append,
    Bool.and_eq_true] at h
  exact (all_isName_splitOn_iff rest).mp h.2

theorem not_isPathText_nil : ¬ IsPathText [] := by
  rw [← all_isName_splitOn_iff]
  decide

theorem not_isPathText_star : ¬ IsPathText "*".toList := by
  rw [← all_isName_splitOn_iff]
  decide

/-! ## The test on characters -/

theorem metadataNamespace_self : metadataNamespace metadataPermission = .ok "*" := by cbv

theorem metadataNamespace_of_append {permission ns : String}
    (h : permission.toList = metadataPermission.toList ++ segmentSeparator :: ns.toList)
    (hns : ns ≠ "") : metadataNamespace permission = .ok ns := by
  have hrest : metadataPermission.toList.isPrefixOf? permission.toList
      = some (segmentSeparator :: ns.toList) :=
    List.isPrefixOf?_eq_some_iff_append_eq.mpr h.symm
  simp [metadataNamespace, hrest, hns]

/-- A permission on metadata is the one over all of it, or goes on with a dot and something more. -/
theorem metadataNamespace_eq_ok_iff (permission ns : String) :
    metadataNamespace permission = .ok ns ↔
      (permission = metadataPermission ∧ ns = "*")
        ∨ (permission.toList = metadataPermission.toList ++ segmentSeparator :: ns.toList
          ∧ ns ≠ "") := by
  constructor
  · intro h
    unfold metadataNamespace at h
    split at h
    · rename_i hrest
      have hself := List.append_eq_of_isPrefixOf?_eq_some hrest
      rw [List.append_nil, String.toList_inj] at hself
      exact .inl ⟨hself.symm, (Except.ok.inj h).symm⟩
    · rename_i c name hrest
      have happend := List.append_eq_of_isPrefixOf?_eq_some hrest
      split at h
      · rename_i hdot
        obtain ⟨rfl, hname⟩ := hdot
        obtain rfl := Except.ok.inj h
        exact .inr ⟨by rw [String.toList_ofList, happend], by simpa using hname⟩
      · cases h
    · cases h
  · rintro (⟨rfl, rfl⟩ | ⟨h, hns⟩)
    · exact metadataNamespace_self
    · exact metadataNamespace_of_append h hns

theorem metadataNamespace_ok_or_error (permission : String) :
    (∃ ns, metadataNamespace permission = .ok ns)
      ∨ metadataNamespace permission = .error (.notMetadata permission) := by
  unfold metadataNamespace
  split
  · exact .inl ⟨_, rfl⟩
  · split
    · exact .inl ⟨_, rfl⟩
    · exact .inr rfl
  · exact .inr rfl

/-! ## Permissions -/

/-- What follows a permission after a dot is joined from the segments that follow its own. -/
theorem Parts.segments_of_append {p q : Parts} {text : String}
    (h : q.permission.toList = p.permission.toList ++ segmentSeparator :: text.toList) :
    ∃ rest, q.segments = p.segments ++ rest ∧ text = ".".intercalate rest := by
  refine ⟨(text.toList.splitOn segmentSeparator).map String.ofList, ?_, ?_⟩
  · rw [segments, segments, h, List.splitOn_append_cons_self, List.map_append]
  · have hdot : ".".toList = [segmentSeparator] := rfl
    have hid : String.toList ∘ String.ofList = id := funext fun _ => String.toList_ofList
    rw [← String.toList_inj, String.toList_intercalate, List.map_map, hdot, hid, List.map_id,
      List.intercalate_splitOn]

section

variable {permission : String} (h : IsPermission permission)

include h

theorem IsPermission.path_of_append {cs rest : List Char}
    (happend : permission.toList = cs ++ segmentSeparator :: rest) : IsPathText rest := by
  have hpath := (isPermission_iff permission).mp h
  rw [happend] at hpath
  exact hpath.of_append

theorem IsPermission.metadataNamespace_eq_star_iff :
    metadataNamespace permission = .ok "*" ↔ permission = metadataPermission := by
  constructor
  · intro hstar
    rcases (metadataNamespace_eq_ok_iff permission "*").mp hstar with ⟨hself, -⟩ | ⟨happend, -⟩
    · exact hself
    · exact absurd (h.path_of_append happend) not_isPathText_star
  · rintro rfl
    exact metadataNamespace_self

theorem IsPermission.exists_namespace_iff {all p : Parts}
    (hall : all.permission = metadataPermission) (hp : p.permission = permission) :
    (∃ ns, metadataNamespace permission = .ok ns) ↔ all.permissionCovers p = true := by
  rw [Parts.permissionCovers_eq_true, hall, hp]
  constructor
  · rintro ⟨ns, hns⟩
    rcases (metadataNamespace_eq_ok_iff permission ns).mp hns with ⟨rfl, -⟩ | ⟨happend, -⟩
    · exact .inl rfl
    · exact .inr ⟨_, happend⟩
  · rintro (hself | ⟨rest, happend⟩)
    · rw [String.toList_inj.mp hself]
      exact ⟨_, metadataNamespace_self⟩
    · refine ⟨String.ofList rest, metadataNamespace_of_append ?_ ?_⟩
      · rw [String.toList_ofList, happend]
      · intro hempty
        obtain rfl : rest = [] := by simpa using hempty
        exact not_isPathText_nil (h.path_of_append happend)

theorem IsPermission.eq_of_namespace_eq {other ns : String} (hother : IsPermission other)
    (hns : metadataNamespace permission = .ok ns) (hns' : metadataNamespace other = .ok ns) :
    other = permission := by
  by_cases hstar : ns = "*"
  · subst hstar
    rw [hother.metadataNamespace_eq_star_iff.mp hns', h.metadataNamespace_eq_star_iff.mp hns]
  · have happend := (metadataNamespace_eq_ok_iff permission ns).mp hns
    have happend' := (metadataNamespace_eq_ok_iff other ns).mp hns'
    simp only [hstar, and_false, false_or] at happend happend'
    rw [← String.toList_inj, happend.1, happend'.1]

end

/-- Among the permissions that may stand in scopes, those have a namespace that the permission over
all metadata covers. The namespace of that permission itself is the star, every other one is joined
from the segments that come after, and no two permissions have the same. Any text without a
namespace is refused as a whole. -/
theorem metadataNamespace_follows_coverage {p : Parts} (hp : IsPermission p.permission)
    (service action : String) :
    let all : Parts := ⟨service, metadataPermission, action⟩
    ((∃ ns, metadataNamespace p.permission = .ok ns) ↔ all.permissionCovers p = true)
      ∧ (metadataNamespace p.permission = .ok "*" ↔ p.permission = metadataPermission)
      ∧ (∀ ns, metadataNamespace p.permission = .ok ns → p.permission ≠ metadataPermission →
        ∃ rest, p.segments = all.segments ++ rest ∧ ns = ".".intercalate rest)
      ∧ (∀ other ns, IsPermission other → metadataNamespace p.permission = .ok ns →
        metadataNamespace other = .ok ns → other = p.permission)
      ∧ ∀ text, (∃ ns, metadataNamespace text = .ok ns)
        ∨ metadataNamespace text = .error (.notMetadata text) := by
  intro all
  refine ⟨hp.exists_namespace_iff rfl rfl, hp.metadataNamespace_eq_star_iff, ?_,
    fun _ _ hother => hp.eq_of_namespace_eq hother, metadataNamespace_ok_or_error⟩
  intro ns hns hself
  rcases (metadataNamespace_eq_ok_iff p.permission ns).mp hns with ⟨h, -⟩ | ⟨happend, -⟩
  · exact absurd h hself
  · exact Parts.segments_of_append happend

/-- A namespace of two segments. -/
theorem nested_namespace_joined :
    IsPermission "user.metadata.cody.editor"
      ∧ metadataNamespace "user.metadata.cody.editor" = .ok "cody.editor"
      ∧ ∀ other, IsPermission other → metadataNamespace other = .ok "cody.editor" →
        other = "user.metadata.cody.editor" := by
  have hp : IsPermission "user.metadata.cody.editor" :=
    (isPermission_iff _).mpr ((all_isName_splitOn_iff _).mp (by decide))
  obtain ⟨hfound, -, hjoined, hsame, -⟩ :=
    metadataNamespace_follows_coverage (p := ⟨"sams", "user.metadata.cody.editor", "read"⟩) hp
      "sams" "read"
  obtain ⟨ns, hns⟩ := hfound.mpr (by decide +kernel)
  obtain ⟨rest, hsegments, rfl⟩ := hjoined ns hns (by decide)
  have hparts : Parts.segments ⟨"sams", "user.metadata.cody.editor", "read"⟩
      = Parts.segments ⟨"sams", metadataPermission, "read"⟩ ++ ["cody", "editor"] := by
    decide +kernel
  obtain rfl : rest = ["cody", "editor"] := List.append_cancel_left (hsegments.symm.trans hparts)
  exact ⟨hp, hns, fun other hother => hsame other _ hother hns⟩

example : metadataNamespace "user.metadatax" = .error (.notMetadata "user.metadatax") := by cbv

end ScopeGate.Scope
