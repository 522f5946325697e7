import Mathlib.Data.List.DropRight
import ScopeGate.Text.Blank

/-!
# Trimmed texts

`trim` takes off what is blank at both ends of a text and nothing else: what is left is bare, so
that it holds no character at all or has one that is not blank at each end, and between two gaps it
is the text again. This says which text is left (`trim_eq_iff`).
-/

namespace ScopeGate.Text

def IsGap (cs : List Char) : Prop := ∀ c ∈ cs, isBlank c = true

theorem isGap_nil : IsGap [] := List.forall_mem_nil _

theorem IsGap.append {cs ds : List Char} (hcs : IsGap cs) (hds : IsGap ds) : IsGap (cs ++ ds) :=
  fun c hc => (List.mem_append.mp hc).elim (hcs c) (hds c)

structure IsBare (cs : List Char) : Prop where
  first : ∀ c ∈ cs.head?, isBlank c = false
  last : ∀ c ∈ cs.getLast?, isBlank c = false

/-- Whether a text is what stands between the blanks at both ends of another. -/
structure IsCore (core cs : List Char) : Prop where
  isBare : IsBare core
  exists_gaps : ∃ lead trail, IsGap lead ∧ IsGap trail ∧ cs = lead ++ core ++ trail

theorem trimLeft_eq_self {c : Char} (h : isBlank c = false) (cs : List Char) :
    trimLeft (c :: cs) = c :: cs :=
  List.dropWhile_cons_of_neg (by simp [h])

theorem trimRight_trimRight (cs : List Char) : trimRight (trimRight cs) = trimRight cs :=
  List.rdropWhile_idempotent isBlank cs

theorem isBlank_of_trimLeft_eq_cons {c : Char} {cs ds : List Char} (h : trimLeft cs = c :: ds) :
    isBlank c = false := by
  induction cs with
  | nil => cases h
  | cons d cs ih =>
    cases hd : isBlank d with
    | true => exact ih (by simpa [trimLeft, hd] using h)
    | false =>
      rw [trimLeft_eq_self hd] at h
      cases h
      exact hd

theorem trimLeft_trim (cs : List Char) : trimLeft (trim cs) = trim cs := by
  have hsplit : trim cs ++ (trimLeft cs).rtakeWhile isBlank = trimLeft cs :=
    List.rdropWhile_append_rtakeWhile
  cases ht : trim cs with
  | nil => rfl
  | cons c rest =>
    rw [ht, List.cons_append] at hsplit
    exact trimLeft_eq_self (isBlank_of_trimLeft_eq_cons hsplit.symm) rest

theorem mem_of_mem_trim {c : Char} {cs : List Char} (h : c ∈ trim cs) : c ∈ cs := by
  have hleft : c ∈ trimLeft cs := (List.rdropWhile_prefix isBlank _).subset h
  exact (List.dropWhile_suffix isBlank).subset hleft

theorem trimLeft_eq_self_iff (cs : List Char) :
    trimLeft cs = cs ↔ ∀ c ∈ cs.head?, isBlank c = false := by
  cases cs with
  | nil => simp [trimLeft]
  | cons c cs =>
    rw [List.head?_cons]
    constructor
    · rintro h d ⟨⟩
      exact isBlank_of_trimLeft_eq_cons h
    · intro h
      exact trimLeft_eq_self (h c rfl) cs

theorem trimRight_eq_self_iff (cs : List Char) :
    trimRight cs = cs ↔ ∀ c ∈ cs.getLast?, isBlank c = false := by
  have hreverse : trimRight cs = cs ↔ trimLeft cs.reverse = cs.reverse := by
    rw [trimRight, trimLeft, ← List.reverse_inj, List.reverse_reverse]
  rw [hreverse, trimLeft_eq_self_iff, List.head?_reverse]

theorem isBare_iff (cs : List Char) : IsBare cs ↔ trimLeft cs = cs ∧ trimRight cs = cs := by
  rw [trimLeft_eq_self_iff, trimRight_eq_self_iff]
  exact ⟨fun h => ⟨h.first, h.last⟩, fun h => ⟨h.1, h.2⟩⟩

theorem isBare_trim (cs : List Char) : IsBare (trim cs) :=
  (isBare_iff _).mpr ⟨trimLeft_trim cs, trimRight_trimRight _⟩

theorem exists_gaps (cs : List Char) :
    ∃ lead trail, IsGap lead ∧ IsGap trail ∧ cs = lead ++ trim cs ++ trail := by
  refine ⟨cs.takeWhile isBlank, (trimLeft cs).rtakeWhile isBlank, fun c hc => ?_, fun c hc => ?_,
    ?_⟩
  · exact List.mem_takeWhile_imp hc
  · exact List.mem_rtakeWhile_imp hc
  · have hright : trim cs ++ (trimLeft cs).rtakeWhile isBlank = trimLeft cs :=
      List.rdropWhile_append_rtakeWhile
    rw [List.append_assoc, hright, trimLeft, List.takeWhile_append_dropWhile]

theorem trim_eq_nil_iff (cs : List Char) : trim cs = [] ↔ IsGap cs := by
  constructor
  · intro h
    obtain ⟨lead, trail, hlead, htrail, hcs⟩ := exists_gaps cs
    rw [h, List.append_nil] at hcs
    exact hcs ▸ hlead.append htrail
  · intro h
    rw [trim, trimLeft, List.dropWhile_eq_nil_iff.mpr h]
    rfl

theorem trim_append {lead core trail : List Char} (hcore : IsBare core) (hlead : IsGap lead)
    (htrail : IsGap trail) : trim (lead ++ core ++ trail) = core := by
  rw [isBare_iff] at hcore
  cases core with
  | nil =>
    rw [trim_eq_nil_iff, List.append_nil]
    exact hlead.append htrail
  | cons c cs =>
    have hl : trimLeft (lead ++ (c :: cs) ++ trail) = (c :: cs) ++ trail := by
      rw [trimLeft, List.append_assoc, List.dropWhile_append_of_pos hlead]
      exact trimLeft_eq_self (isBlank_of_trimLeft_eq_cons hcore.1) (cs ++ trail)
    have hr : trimRight ((c :: cs) ++ trail) = trimRight (c :: cs) := by
      rw [trimRight, List.reverse_append,
        List.dropWhile_append_of_pos fun d hd => htrail d (List.mem_reverse.mp hd), trimRight]
    rw [trim, hl, hr, hcore.2]

theorem trim_eq_iff (cs core : List Char) : trim cs = core ↔ IsCore core cs := by
  constructor
  · rintro rfl
    obtain ⟨lead, trail, hlead, htrail, hcs⟩ := exists_gaps cs
    exact ⟨isBare_trim cs, lead, trail, hlead, htrail, hcs⟩
  · rintro ⟨hcore, lead, trail, hlead, htrail, rfl⟩
    exact trim_append hcore hlead htrail

end ScopeGate.Text
