import Mathlib.Data.List.Basic
import Mathlib.Logic.ExistsUnique
import ScopeGate.Proofs.Scope.Parts
import ScopeGate.Scope.Fault

/-!
# What may be registered

The texts that `Scope.validate` accepts, said by a grammar. Names are spelled with small letters,
digits and underscores; paths are names with dots between them; a structured scope is a name, a path
and one of three words with two colons between them. Besides these there are the aliases, and no
text is longer than 255 bytes.

The grammar speaks of how a text is put together and `validate` takes it apart. The two meet because
neither names nor paths hold a colon: whatever the grammar puts together can be written
(`Parts.IsWritable`), so that it is found again in its parts.

What is not accepted is refused for its first fault. The order of the faults is that of the
constructors of `FirstFault` and, within the parts, of `PartFault`.
-/

namespace ScopeGate.Scope

inductive SpellsNames (c : Char) : Prop where
  | letter (h : 'a' ≤ c ∧ c ≤ 'z')
  | digit (h : '0' ≤ c ∧ c ≤ '9')
  | underscore (h : c = '_')

inductive IsNameText : List Char → Prop where
  | single {c : Char} (hc : SpellsNames c) : IsNameText [c]
  | cons {c : Char} {cs : List Char} (hc : SpellsNames c) (h : IsNameText cs) : IsNameText (c :: cs)

inductive IsPathText : List Char → Prop where
  | name {cs : List Char} (h : IsNameText cs) : IsPathText cs
  | narrowed {cs path : List Char} (h : IsNameText cs) (hpath : IsPathText path) :
      IsPathText (cs ++ '.' :: path)

inductive IsScopeText : String → Prop where
  | written {service permission action : String} (hservice : IsNameText service.toList)
      (hpermission : IsPathText permission.toList)
      (haction : action ∈ ["read", "write", "delete"]) :
      IsScopeText (service ++ "::" ++ permission ++ "::" ++ action)

structure Parts.AreSpelled (p : Parts) : Prop where
  service : IsNameText p.service.toList
  permission : IsPathText p.permission.toList
  action : p.action ∈ ["read", "write", "delete"]

/-- Whether a scope is fit for registration. -/
inductive IsFit (s : Scope) : Prop where
  | ofAlias (h : s.text ∈ aliasTexts)
  | ofGrammar (hbytes : s.text.utf8ByteSize ≤ 255) (h : IsScopeText s.text)

inductive PartFault (p : Parts) : ScopeFault → Prop where
  | service (h : ¬ IsNameText p.service.toList) : PartFault p (.service p.service)
  | permission (hservice : IsNameText p.service.toList) (h : ¬ IsPathText p.permission.toList) :
      PartFault p (.permission p.permission)
  | action (hservice : IsNameText p.service.toList) (hpermission : IsPathText p.permission.toList)
      (h : p.action ∉ ["read", "write", "delete"]) : PartFault p (.action p.action)

/-- The first fault of a scope. -/
inductive FirstFault (s : Scope) : ScopeFault → Prop where
  | empty (h : s.text = "") : FirstFault s .empty
  | tooLong (h : 255 < s.text.utf8ByteSize) : FirstFault s (.tooLong s.text.utf8ByteSize)
  | malformed (hnonempty : s.text ≠ "") (hbytes : s.text.utf8ByteSize ≤ 255)
      (halias : s.text ∉ aliasTexts) (h : s.parts? = none) : FirstFault s (.malformed s.text)
  | part {p : Parts} {f : ScopeFault} (hbytes : s.text.utf8ByteSize ≤ 255)
      (hparts : s.parts? = some p) (h : PartFault p f) : FirstFault s f

theorem isNameChar_iff (c : Char) : isNameChar c = true ↔ SpellsNames c := by
  simp only [isNameChar, Bool.or_eq_true, Bool.and_eq_true, decide_eq_true_eq, beq_iff_eq]
  constructor
  · rintro ((h | h) | h)
    · exact .letter h
    · exact .digit h
    · exact .underscore h
  · intro h
    cases h with
    | letter h => exact .inl (.inl h)
    | digit h => exact .inl (.inr h)
    | underscore h => exact .inr h

theorem isName_iff (cs : List Char) : isName cs = true ↔ IsNameText cs := by
  induction cs with
  | nil => exact ⟨(fun h => nomatch h), (fun h => nomatch h)⟩
  | cons c cs ih =>
    have hcons : isName (c :: cs) = true ↔ SpellsNames c ∧ (cs = [] ∨ isName cs = true) := by
      cases cs <;> simp [isName, isNameChar_iff]
    rw [hcons, ih]
    constructor
    · rintro ⟨hc, rfl | h⟩
      · exact .single hc
      · exact .cons hc h
    · intro h
      cases h with
      | single hc => exact ⟨hc, .inl rfl⟩
      | cons hc h => exact ⟨hc, .inr h⟩

theorem IsNameText.spells {cs : List Char} (h : IsNameText cs) : ∀ c ∈ cs, SpellsNames c := by
  induction h with
  | single hc => simpa using hc
  | cons hc _ ih => exact List.forall_mem_cons.mpr ⟨hc, ih⟩

theorem not_spellsNames_segmentSeparator : ¬ SpellsNames segmentSeparator := by
  rw [← isNameChar_iff]
  decide

theorem not_spellsNames_colon : ¬ SpellsNames ':' := by
  rw [← isNameChar_iff]
  decide

theorem IsNameText.splitOn_eq {cs : List Char} (h : IsNameText cs) :
    cs.splitOn segmentSeparator = [cs] :=
  List.splitOn_eq_singleton fun hdot => not_spellsNames_segmentSeparator (h.spells _ hdot)

theorem isPathText_intercalate {names : List (List Char)} (hne : names ≠ [])
    (h : ∀ cs ∈ names, IsNameText cs) : IsPathText ([segmentSeparator].intercalate names) := by
  induction names with
  | nil => exact absurd rfl hne
  | cons cs names ih =>
    obtain ⟨hcs, hnames⟩ := List.forall_mem_cons.mp h
    cases names with
    | nil => simpa using IsPathText.name hcs
    | cons ds names =>
      rw [List.intercalate_cons_cons, List.append_assoc, List.singleton_append]
      exact .narrowed hcs (ih (List.cons_ne_nil ds names) hnames)

theorem all_isName_splitOn_iff (cs : List Char) :
    (cs.splitOn segmentSeparator).all isName = true ↔ IsPathText cs := by
  simp only [List.all_eq_true, isName_iff]
  constructor
  · intro h
    have hjoined : [segmentSeparator].intercalate (cs.splitOn segmentSeparator) = cs :=
      List.intercalate_splitOn segmentSeparator
    rw [← hjoined]
    exact isPathText_intercalate (List.splitOn_ne_nil _ cs) h
  · intro h
    induction h with
    | name h =>
      rw [h.splitOn_eq]
      simpa using h
    | @narrowed cs path h _ ih =>
      have hsplit : (cs ++ '.' :: path).splitOn segmentSeparator
          = cs :: path.splitOn segmentSeparator :=
        List.splitOn_append_cons_self_of_not_mem
          (fun hdot => not_spellsNames_segmentSeparator (h.spells _ hdot)) path
      rw [hsplit]
      exact List.forall_mem_cons.mpr ⟨h, ih⟩

theorem isNameText_of_mem_segments {p : Parts} (h : IsPathText p.permission.toList)
    {segment : String} (hsegment : segment ∈ p.segments) : IsNameText segment.toList := by
  obtain ⟨cs, hcs, rfl⟩ := List.mem_map.mp hsegment
  have hall := (all_isName_splitOn_iff _).mpr h
  rw [List.all_eq_true] at hall
  rw [String.toList_ofList, ← isName_iff]
  exact hall cs hcs

theorem IsNameText.colon_not_mem {cs : List Char} (h : IsNameText cs) : ':' ∉ cs := fun hcolon =>
  not_spellsNames_colon (h.spells _ hcolon)

theorem IsPathText.colon_not_mem {cs : List Char} (h : IsPathText cs) : ':' ∉ cs := by
  induction h with
  | name h => exact h.colon_not_mem
  | narrowed h _ ih => simp [h.colon_not_mem, ih]

theorem standsBefore_of_colon_not_mem {cs : List Char} (h : ':' ∉ cs) : StandsBefore cs := by
  refine ⟨fun hpair => h (hpair.subset ?_), fun hlast => h (List.mem_of_getLast? hlast)⟩
  simp [separator_toList]

theorem IsNameText.ne_nil {cs : List Char} (h : IsNameText cs) : cs ≠ [] := by
  cases h <;> exact List.cons_ne_nil _ _

theorem any_word_eq_iff (action : String) :
    Action.all.any (fun a => a.word == action) = true ↔ action ∈ ["read", "write", "delete"] := by
  simp only [Action.all, Action.word, List.any_cons, List.any_nil, Bool.or_false, Bool.or_eq_true,
    beq_iff_eq, List.mem_cons, List.not_mem_nil, or_false]
  exact or_congr eq_comm (or_congr eq_comm eq_comm)

theorem Parts.AreSpelled.isWritable {p : Parts} (h : p.AreSpelled) : p.IsWritable := by
  obtain ⟨hservice, hpermission, haction⟩ := h
  have hcolon : ':' ∉ p.action.toList := by
    simp only [List.mem_cons, List.not_mem_nil, or_false] at haction
    rcases haction with h | h | h <;> rw [h] <;> decide
  have hsegments : ∀ segment ∈ p.segments, segment ≠ "" := by
    intro segment hsegment
    simpa using (isNameText_of_mem_segments hpermission hsegment).ne_nil
  have hs := standsBefore_of_colon_not_mem hservice.colon_not_mem
  have hp := standsBefore_of_colon_not_mem hpermission.colon_not_mem
  refine ⟨by simpa using hservice.ne_nil, Parts.permission_ne_empty hsegments, ?_, hs.1, hp.1,
    (standsBefore_of_colon_not_mem hcolon).1, hs.2, hp.2, hsegments⟩
  rintro hempty
  simp [hempty] at haction

theorem isScopeText_iff_parts (s : Scope) :
    IsScopeText s.text ↔ ∃ p, s.parts? = some p ∧ p.AreSpelled := by
  obtain ⟨t⟩ := s
  constructor
  · rintro ⟨hservice, hpermission, haction⟩
    rename_i service permission action
    have hspelled : Parts.AreSpelled ⟨service, permission, action⟩ :=
      ⟨hservice, hpermission, haction⟩
    exact ⟨⟨service, permission, action⟩,
      (parts?_eq_some_iff _ _).mpr ⟨rfl, hspelled.isWritable⟩, hspelled⟩
  · rintro ⟨p, hp, h⟩
    rw [((parts?_eq_some_iff _ p).mp hp).1]
    exact .written h.service h.permission h.action

theorem Parts.AreSpelled.validate_eq {p : Parts} (h : p.AreSpelled) : p.validate = .ok () := by
  have hservice := (isName_iff _).mpr h.service
  have hpermission := (all_isName_splitOn_iff _).mpr h.permission
  have haction := (any_word_eq_iff _).mpr h.action
  simp [Parts.validate, hservice, hpermission, haction]

theorem PartFault.validate_eq {p : Parts} {f : ScopeFault} (h : PartFault p f) :
    p.validate = .error f := by
  unfold Parts.validate
  cases h with
  | service h =>
    rw [← isName_iff] at h
    rw [if_pos (by simpa using h)]
  | permission hservice h =>
    rw [← isName_iff] at hservice
    rw [← all_isName_splitOn_iff] at h
    rw [if_neg (by simpa using hservice), if_pos (by simpa using h)]
  | action hservice hpermission h =>
    rw [← isName_iff] at hservice
    rw [← all_isName_splitOn_iff] at hpermission
    rw [← any_word_eq_iff] at h
    rw [if_neg (by simpa using hservice), if_neg (by simpa using hpermission),
      if_pos (by simpa using h)]

theorem Parts.areSpelled_or_partFault (p : Parts) : p.AreSpelled ∨ ∃ f, PartFault p f := by
  by_cases hservice : IsNameText p.service.toList
  · by_cases hpermission : IsPathText p.permission.toList
    · by_cases haction : p.action ∈ ["read", "write", "delete"]
      · exact .inl ⟨hservice, hpermission, haction⟩
      · exact .inr ⟨_, .action hservice hpermission haction⟩
    · exact .inr ⟨_, .permission hservice hpermission⟩
  · exact .inr ⟨_, .service hservice⟩

theorem isAlias_iff (s : Scope) : s.isAlias = true ↔ s.text ∈ aliasTexts := by
  rw [isAlias, List.contains_iff_mem]

theorem text_ne_empty_of_parts? {s : Scope} {p : Parts} (h : s.parts? = some p) : s.text ≠ "" := by
  obtain ⟨t⟩ := s
  rintro rfl
  have hnone : (Scope.mk "").parts? = none := by cbv
  rw [hnone] at h
  cases h

theorem validate_of_not_alias {s : Scope} (hnonempty : s.text ≠ "")
    (hbytes : s.text.utf8ByteSize ≤ 255) (halias : s.text ∉ aliasTexts) :
    (s.parts? = none → s.validate = .error (.malformed s.text))
      ∧ ∀ p, s.parts? = some p → s.validate = p.validate := by
  rw [← isAlias_iff] at halias
  rw [validate, if_neg (by simpa using hnonempty), if_neg (by rw [maxBytes]; omega),
    if_neg halias]
  constructor
  · intro h
    rw [h]
  · intro p h
    rw [h]

theorem validate_of_parts? {s : Scope} {p : Parts} (hbytes : s.text.utf8ByteSize ≤ 255)
    (h : s.parts? = some p) : s.validate = p.validate := by
  have halias : s.text ∉ aliasTexts := by
    rw [← isAlias_iff]
    intro halias
    rw [parts?_eq_none_of_isAlias halias] at h
    cases h
  exact (validate_of_not_alias (text_ne_empty_of_parts? h) hbytes halias).2 p h

theorem IsFit.validate_eq {s : Scope} (h : s.IsFit) : s.validate = .ok () := by
  cases h with
  | ofAlias h => exact validate_of_isAlias ((isAlias_iff s).mpr h)
  | ofGrammar hbytes h =>
    obtain ⟨p, hp, hspelled⟩ := (isScopeText_iff_parts s).mp h
    rw [validate_of_parts? hbytes hp, hspelled.validate_eq]

theorem FirstFault.validate_eq {s : Scope} {f : ScopeFault} (h : FirstFault s f) :
    s.validate = .error f := by
  cases h with
  | empty h => rw [validate, if_pos (by simpa using h)]
  | tooLong h =>
    have hnonempty : s.text ≠ "" := by
      intro hempty
      rw [hempty] at h
      simp at h
    rw [validate, if_neg (by simpa using hnonempty), if_pos (by rw [maxBytes]; exact h)]
  | malformed hnonempty hbytes halias h =>
    exact (validate_of_not_alias hnonempty hbytes halias).1 h
  | part hbytes hparts h => rw [validate_of_parts? hbytes hparts, h.validate_eq]

theorem isFit_or_firstFault (s : Scope) : s.IsFit ∨ ∃ f, FirstFault s f := by
  by_cases hempty : s.text = ""
  · exact .inr ⟨_, .empty hempty⟩
  by_cases hbytes : s.text.utf8ByteSize ≤ 255
  · by_cases halias : s.text ∈ aliasTexts
    · exact .inl (.ofAlias halias)
    cases hparts : s.parts? with
    | none => exact .inr ⟨_, .malformed hempty hbytes halias hparts⟩
    | some p =>
      rcases p.areSpelled_or_partFault with h | ⟨f, h⟩
      · exact .inl (.ofGrammar hbytes ((isScopeText_iff_parts s).mpr ⟨p, hparts, h⟩))
      · exact .inr ⟨f, .part hbytes hparts h⟩
  · exact .inr ⟨_, .tooLong (Nat.lt_of_not_le hbytes)⟩

theorem validate_eq_ok_iff (s : Scope) : s.validate = .ok () ↔ s.IsFit := by
  refine ⟨fun h => (isFit_or_firstFault s).resolve_right ?_, IsFit.validate_eq⟩
  rintro ⟨f, hf⟩
  rw [hf.validate_eq] at h
  cases h

theorem validate_eq_error_iff (s : Scope) (f : ScopeFault) :
    s.validate = .error f ↔ FirstFault s f := by
  refine ⟨fun h => ?_, FirstFault.validate_eq⟩
  rcases isFit_or_firstFault s with hfit | ⟨f', hf'⟩
  · rw [hfit.validate_eq] at h
    cases h
  · rw [hf'.validate_eq, Except.error.injEq] at h
    exact h ▸ hf'

/-- Exactly the aliases and the scopes of the grammar are accepted, and everything else is refused
for its first fault, of which there is one. -/
theorem validate_decides_grammar (s : Scope) :
    (s.validate = .ok () ↔ s.IsFit)
      ∧ (∀ f, s.validate = .error f ↔ FirstFault s f)
      ∧ (¬ s.IsFit → ∃! f, FirstFault s f) := by
  refine ⟨validate_eq_ok_iff s, validate_eq_error_iff s, fun hunfit => ?_⟩
  obtain ⟨f, hf⟩ := (isFit_or_firstFault s).resolve_left hunfit
  refine ⟨f, hf, fun f' hf' => ?_⟩
  have hsame := hf'.validate_eq.symm.trans hf.validate_eq
  rwa [Except.error.injEq] at hsame

example : (Scope.mk "a::b::read\n").validate = .error (.action "read\n") := by cbv

end ScopeGate.Scope
