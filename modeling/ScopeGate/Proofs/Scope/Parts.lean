import ScopeGate.Proofs.Scope.Segments

/-!
# Taking scopes apart

`pieces` cuts a text at its pairs of colons from the left. Since the cuts do not overlap, a colon
next to a pair moves the cut: the text `a:` before a pair is not a piece of the whole, and `:b`
after one is. A text stands as a piece before a pair exactly when no pair begins inside it, that is,
when it holds none and does not end in a colon; after the last pair it only has to hold none. From
this `pieces_eq_iff` says when a list of texts is the list of pieces of a given text.

The main statement is that `Scope.parts?` and `Parts.toScope` undo each other on the parts that can
be written, and that nothing else is taken apart.
-/

namespace ScopeGate.Scope

def HoldsSeparator (cs : List Char) : Prop := separator.toList <:+: cs

/-- Whether a pair of colons that follows the text is the first one in the whole: none lies in the
text, and none begins with its last character. -/
def StandsBefore (cs : List Char) : Prop := ¬ HoldsSeparator cs ∧ cs.getLast? ≠ some ':'

/-- The parts that can be written, so that they are found again where they were put. -/
structure Parts.IsWritable (p : Parts) : Prop where
  service_ne_empty : p.service ≠ ""
  permission_ne_empty : p.permission ≠ ""
  action_ne_empty : p.action ≠ ""
  service_holds_none : ¬ HoldsSeparator p.service.toList
  permission_holds_none : ¬ HoldsSeparator p.permission.toList
  action_holds_none : ¬ HoldsSeparator p.action.toList
  service_no_colon_last : p.service.toList.getLast? ≠ some ':'
  permission_no_colon_last : p.permission.toList.getLast? ≠ some ':'
  segments_ne_empty : ∀ s ∈ p.segments, s ≠ ""

theorem separator_toList : separator.toList = [':', ':'] := by decide

theorem not_holdsSeparator_nil : ¬ HoldsSeparator [] := by
  rw [HoldsSeparator, separator_toList, List.infix_nil]
  exact List.cons_ne_nil _ _

theorem holdsSeparator_cons_iff (c : Char) (cs : List Char) :
    HoldsSeparator (c :: cs) ↔ (c = ':' ∧ cs.head? = some ':') ∨ HoldsSeparator cs := by
  unfold HoldsSeparator
  rw [List.infix_cons_iff, separator_toList]
  refine or_congr ?_ Iff.rfl
  cases cs with
  | nil => simp
  | cons d ds => simp [eq_comm]

/-- A character that begins no pair belongs to the first piece. -/
theorem pieces_cons {c : Char} {cs : List Char} (h : ¬ (c = ':' ∧ cs.head? = some ':')) :
    pieces (c :: cs) = (pieces cs).modifyHead (c :: ·) := by
  rw [pieces]
  rintro ds rfl rfl
  exact h ⟨rfl, rfl⟩

theorem pieces_eq_singleton {cs : List Char} (h : ¬ HoldsSeparator cs) : pieces cs = [cs] := by
  induction cs with
  | nil => exact pieces_nil
  | cons c cs ih =>
    rw [holdsSeparator_cons_iff, not_or] at h
    rw [pieces_cons h.1, ih h.2, List.modifyHead_cons]

theorem pieces_append_separator {x : List Char} (h : StandsBefore x) (cs : List Char) :
    pieces (x ++ separator.toList ++ cs) = x :: pieces cs := by
  induction x with
  | nil => exact pieces_separator cs
  | cons c x ih =>
    obtain ⟨hnone, hlast⟩ := h
    rw [holdsSeparator_cons_iff, not_or] at hnone
    have hx : StandsBefore x := by
      refine ⟨hnone.2, fun hx => hlast ?_⟩
      rw [List.getLast?_cons, hx, Option.getD_some]
    have hfront : ¬ (c = ':' ∧ (x ++ separator.toList ++ cs).head? = some ':') := by
      cases x with
      | nil =>
        rintro ⟨rfl, -⟩
        exact hlast rfl
      | cons d ds => exact hnone.1
    rw [List.cons_append, List.cons_append, pieces_cons hfront, ih hx, List.modifyHead_cons]

/-- What `pieces` gives: the pieces joined again are the text, none of them holds a pair of colons,
and all but the last stand before one. -/
structure AreCut (cs : List Char) (ps : List (List Char)) : Prop where
  joined : separator.toList.intercalate ps = cs
  holds_none : ∀ p ∈ ps, ¬ HoldsSeparator p
  no_colon_last : ∀ p ∈ ps.dropLast, p.getLast? ≠ some ':'

theorem AreCut.separator {cs : List Char} {ps : List (List Char)} (h : AreCut cs ps)
    (hps : ps ≠ []) : AreCut (':' :: ':' :: cs) ([] :: ps) where
  joined := by
    rw [List.intercalate_cons_of_ne_nil hps, h.joined, separator_toList]
    rfl
  holds_none := by
    intro p hp
    rcases List.mem_cons.mp hp with rfl | hp
    · exact not_holdsSeparator_nil
    · exact h.holds_none p hp
  no_colon_last := by
    intro p hp
    rw [List.dropLast_cons_of_ne_nil hps] at hp
    rcases List.mem_cons.mp hp with rfl | hp
    · simp
    · exact h.no_colon_last p hp

theorem AreCut.cons {c : Char} {cs p : List Char} {ps : List (List Char)} (h : AreCut cs (p :: ps))
    (hc : ¬ (c = ':' ∧ cs.head? = some ':')) : AreCut (c :: cs) ((c :: p) :: ps) where
  joined := by
    rw [← h.joined]
    cases ps with
    | nil => simp
    | cons q qs => simp [List.intercalate_cons_cons]
  holds_none := by
    intro q hq
    rcases List.mem_cons.mp hq with rfl | hq
    · rw [holdsSeparator_cons_iff]
      rintro (⟨hcolon, hhead⟩ | hp)
      · refine hc ⟨hcolon, ?_⟩
        rw [← h.joined]
        cases p with
        | nil => cases hhead
        | cons d ds =>
          cases ps with
          | nil => simpa using hhead
          | cons q qs => simpa [List.intercalate_cons_cons] using hhead
      · exact h.holds_none p List.mem_cons_self hp
    · exact h.holds_none q (List.mem_cons_of_mem p hq)
  no_colon_last := by
    intro q hq
    cases ps with
    | nil => simp at hq
    | cons r rs =>
      rw [List.dropLast_cons_cons] at hq
      rcases List.mem_cons.mp hq with rfl | hq
      · cases p with
        | nil =>
          -- A lone colon before a pair would begin an earlier pair.
          intro hlast
          refine hc ⟨by simpa using hlast, ?_⟩
          rw [← h.joined, List.intercalate_cons_cons, separator_toList]
          rfl
        | cons d ds =>
          rw [List.getLast?_cons_cons]
          exact h.no_colon_last _ (by rw [List.dropLast_cons_cons]; exact List.mem_cons_self)
      · exact h.no_colon_last q (by
          rw [List.dropLast_cons_cons]; exact List.mem_cons_of_mem p hq)

theorem areCut_pieces (cs : List Char) : AreCut cs (pieces cs) := by
  induction cs using pieces.induct with
  | case1 cs ih =>
    rw [pieces_separator]
    exact ih.separator (pieces_ne_nil cs)
  | case2 c cs hfront ih =>
    have hc : ¬ (c = ':' ∧ cs.head? = some ':') := by
      rintro ⟨rfl, hhead⟩
      obtain ⟨ds, rfl⟩ := List.head?_eq_some_iff.mp hhead
      exact hfront ds rfl rfl
    rw [pieces_cons hc]
    cases hp : pieces cs with
    | nil => exact absurd hp (pieces_ne_nil cs)
    | cons p ps => exact (hp ▸ ih).cons hc
  | case3 =>
    rw [pieces_nil]
    exact ⟨rfl, by simpa using not_holdsSeparator_nil, by simp⟩

theorem pieces_eq_of_areCut {cs : List Char} {ps : List (List Char)} (h : AreCut cs ps)
    (hps : ps ≠ []) : pieces cs = ps := by
  induction ps generalizing cs with
  | nil => exact absurd rfl hps
  | cons p ps ih =>
    obtain ⟨rfl, hnone, hlast⟩ := h
    cases ps with
    | nil =>
      rw [List.intercalate_singleton]
      exact pieces_eq_singleton (hnone p List.mem_cons_self)
    | cons q qs =>
      rw [List.dropLast_cons_cons] at hlast
      have hp : StandsBefore p := ⟨hnone p List.mem_cons_self, hlast p List.mem_cons_self⟩
      rw [List.intercalate_cons_cons, pieces_append_separator hp]
      congr 1
      exact ih ⟨rfl, fun r hr => hnone r (List.mem_cons_of_mem p hr),
        fun r hr => hlast r (List.mem_cons_of_mem p hr)⟩ (List.cons_ne_nil q qs)

theorem pieces_eq_iff (cs : List Char) (ps : List (List Char)) :
    pieces cs = ps ↔ ps ≠ [] ∧ AreCut cs ps := by
  constructor
  · rintro rfl
    exact ⟨pieces_ne_nil cs, areCut_pieces cs⟩
  · rintro ⟨hps, h⟩
    exact pieces_eq_of_areCut h hps

theorem pieces_eq_three_iff (cs x y z : List Char) :
    pieces cs = [x, y, z] ↔
      cs = x ++ separator.toList ++ y ++ separator.toList ++ z
        ∧ StandsBefore x ∧ StandsBefore y ∧ ¬ HoldsSeparator z := by
  rw [pieces_eq_iff]
  constructor
  · rintro ⟨-, hjoined, hnone, hlast⟩
    refine ⟨?_, ⟨hnone x (by simp), hlast x (by simp)⟩, ⟨hnone y (by simp), hlast y (by simp)⟩,
      hnone z (by simp)⟩
    rw [← hjoined]
    simp [List.intercalate_cons_cons]
  · rintro ⟨rfl, ⟨hx, hxlast⟩, ⟨hy, hylast⟩, hz⟩
    refine ⟨by simp, by simp [List.intercalate_cons_cons], ?_, ?_⟩
    · simp [hx, hy, hz]
    · simp [hxlast, hylast]

theorem parts?_eq_some_iff_pieces (s : Scope) (p : Parts) :
    s.parts? = some p ↔
      pieces s.text.toList = [p.service.toList, p.permission.toList, p.action.toList]
        ∧ p.service ≠ "" ∧ p.action ≠ "" ∧ ∀ x ∈ p.segments, x ≠ "" := by
  obtain ⟨service, permission, action⟩ := p
  unfold parts? Parts.segments
  constructor
  · intro h
    split at h
    · rename_i x y z hpieces
      split at h
      · cases h
      · rename_i hfull
        simp only [Option.some.injEq, Parts.mk.injEq] at h
        obtain ⟨rfl, rfl, rfl⟩ := h
        simp only [Bool.or_eq_true, not_or, Bool.not_eq_true] at hfull
        obtain ⟨⟨hx, hz⟩, hsegments⟩ := hfull
        simp only [String.toList_ofList]
        refine ⟨hpieces, ?_, ?_, ?_⟩
        · simpa using hx
        · simpa using hz
        · simpa using hsegments
    · cases h
  · rintro ⟨hpieces, hservice, haction, hsegments⟩
    rw [hpieces]
    simp only [String.ofList_toList]
    refine if_neg ?_
    simp only [Bool.or_eq_true, not_or, Bool.not_eq_true]
    refine ⟨⟨?_, ?_⟩, ?_⟩
    · simpa using hservice
    · simpa using haction
    · simpa using hsegments

theorem toList_toScope (p : Parts) :
    p.toScope.text.toList = p.service.toList ++ separator.toList ++ p.permission.toList
      ++ separator.toList ++ p.action.toList := by
  simp [Parts.toScope]

theorem Parts.permission_ne_empty {p : Parts} (h : ∀ x ∈ p.segments, x ≠ "") :
    p.permission ≠ "" := by
  intro hempty
  refine h "" ?_ rfl
  simp [Parts.segments, hempty]

theorem parts?_eq_some_iff (s : Scope) (p : Parts) :
    s.parts? = some p ↔ s = p.toScope ∧ p.IsWritable := by
  have htext : s = p.toScope ↔ s.text.toList = p.toScope.text.toList := by
    rw [String.toList_inj, Scope.mk.injEq]
  rw [parts?_eq_some_iff_pieces, pieces_eq_three_iff, htext, toList_toScope]
  constructor
  · rintro ⟨⟨htext, hx, hy, hz⟩, hservice, haction, hsegments⟩
    exact ⟨htext, hservice, p.permission_ne_empty hsegments, haction, hx.1, hy.1, hz, hx.2, hy.2,
      hsegments⟩
  · rintro ⟨htext, h⟩
    exact ⟨⟨htext, ⟨h.service_holds_none, h.service_no_colon_last⟩,
      ⟨h.permission_holds_none, h.permission_no_colon_last⟩, h.action_holds_none⟩,
      h.service_ne_empty, h.action_ne_empty, h.segments_ne_empty⟩

/-- Taking scopes apart and putting parts together undo each other, exactly on the parts that can be
written: a scope has the parts `p` when `p` can be written and is what stands in it. So parts found
in a scope give it back, different scopes have different parts, writable parts are the only ones of
the scope that they are written as, and parts put together by hand are found again when they can be
written and not otherwise. -/
theorem parts?_toScope_inverse (s t : Scope) (p q : Parts) :
    (s.parts? = some p ↔ s = p.toScope ∧ p.IsWritable)
      ∧ (s.parts? = some p → p.toScope = s)
      ∧ (s.parts? = some p → t.parts? = some p → s = t)
      ∧ (p.IsWritable → q.IsWritable → p.toScope = q.toScope → p = q)
      ∧ (p.toScope.parts? = some p ↔ p.IsWritable) := by
  refine ⟨parts?_eq_some_iff s p, ?_, ?_, ?_, ?_⟩
  · intro h
    exact ((parts?_eq_some_iff s p).mp h).1.symm
  · intro hs ht
    rw [((parts?_eq_some_iff s p).mp hs).1, ((parts?_eq_some_iff t p).mp ht).1]
  · intro hp hq heq
    have hpp := (parts?_eq_some_iff p.toScope p).mpr ⟨rfl, hp⟩
    have hpq := (parts?_eq_some_iff p.toScope q).mpr ⟨heq, hq⟩
    rw [hpp] at hpq
    exact Option.some.inj hpq
  · rw [parts?_eq_some_iff]
    exact ⟨fun h => h.2, fun h => ⟨rfl, h⟩⟩

example : (Parts.mk "a" ":b" "c:").toScope.parts? = some ⟨"a", ":b", "c:"⟩ := by cbv

example : (Parts.mk "a:" "b" "c").toScope.parts? = some ⟨"a", ":b", "c"⟩ := by cbv

end ScopeGate.Scope
