import Mathlib.Data.List.Forall2
import ScopeGate.Proofs.FirstFailure
import ScopeGate.Proofs.Gate.Tokens

/-!
# Which token is extracted

A request carries a token when the value of its first `Authorization` field is written as a
credential: the word `bearer` in any mixture of small and capital letters, a space, and the token
with any spaces and tabs around it. Nothing else of the request matters. What the value lacks first
is the fault: it is missing or empty, holds an octet that is not visible, has no space, starts with
another word or goes on with nothing.

The conditions speak of the text that the octets of the value spell. There is at most one, so that
scheme and token are told by the value.
-/

namespace ScopeGate

namespace Text

theorem toNat_toUpper {d : Char} (hd : 'a' ≤ d ∧ d ≤ 'z') : d.toUpper.toNat + 32 = d.toNat := by
  have hbounds : 97 ≤ d.toNat ∧ d.toNat ≤ 122 := hd
  have hval : d.toUpper.val = d.val + ('A'.val - 'a'.val) := by
    unfold Char.toUpper
    split
    · rfl
    · exact absurd hd ‹_›
  rw [← Char.toNat_val, hval, UInt32.toNat_add]
  change (d.toNat + 4294967264) % 4294967296 + 32 = d.toNat
  omega

theorem toNat_toLower (c : Char) :
    c.toLower.toNat = if 65 ≤ c.toNat ∧ c.toNat ≤ 90 then c.toNat + 32 else c.toNat := by
  unfold Char.toLower
  split
  · rename_i hc
    have hcapital : 65 ≤ c.toNat ∧ c.toNat ≤ 90 := hc
    rw [if_pos hcapital]
    change (c.val + ('a'.val - 'A'.val)).toNat = c.toNat + 32
    rw [UInt32.toNat_add]
    change (c.toNat + 32) % 4294967296 = c.toNat + 32
    omega
  · rename_i hc
    have hother : ¬ (65 ≤ c.toNat ∧ c.toNat ≤ 90) := hc
    rw [if_neg hother]

theorem toLower_eq_iff {d : Char} (hd : 'a' ≤ d ∧ d ≤ 'z') (c : Char) :
    c.toLower = d ↔ c = d ∨ c = d.toUpper := by
  have hbounds : 97 ≤ d.toNat ∧ d.toNat ≤ 122 := hd
  have hupper := toNat_toUpper hd
  simp only [← Char.toNat_inj, toNat_toLower]
  split <;> omega

theorem map_toLower_eq_iff {ds : List Char} (hds : ∀ d ∈ ds, 'a' ≤ d ∧ d ≤ 'z')
    (cs : List Char) :
    cs.map Char.toLower = ds ↔ List.Forall₂ (fun c d => c = d ∨ c = d.toUpper) cs ds := by
  induction ds generalizing cs with
  | nil => simp
  | cons d ds ih =>
    rw [List.forall_mem_cons] at hds
    cases cs with
    | nil => simp
    | cons c cs => simp [toLower_eq_iff hds.1, ih hds.2]

end Text

namespace Bearer

/-- Whether a value is that of the first `Authorization` field. -/
def IsFirstValue (fields : List Http.Field) (value : Octets) : Prop :=
  ∃ before x after, fields = before ++ x :: after
    ∧ (∀ y ∈ before, Http.sameName y.name "authorization" = false)
    ∧ Http.sameName x.name "authorization" = true ∧ x.value = value

def AreVisible (value : Octets) : Prop := ∀ b ∈ value, (0x20 ≤ b ∧ b ≤ 0x7E) ∨ b = 0x09

/-- Whether a text is the word `bearer`, each of its letters small or capital. -/
def IsAnyCase (scheme : String) : Prop :=
  List.Forall₂ (fun c d => c = d ∨ c = d.toUpper) scheme.toList "bearer".toList

/-- Whether a text holds nothing but spaces and tabs. -/
def IsPadding (s : String) : Prop := ∀ c ∈ s.toList, c = ' ' ∨ c = '\t'

/-- Whether a text neither starts nor ends with a space or a tab. -/
def IsUnpadded (s : String) : Prop :=
  ∀ c, s.toList.head? = some c ∨ s.toList.getLast? = some c → c ≠ ' ' ∧ c ≠ '\t'

/-- Whether a value is written as a credential with this token. -/
inductive Carries (value : Octets) (token : String) : Prop where
  | written {scheme lead trail : String} (hvisible : AreVisible value)
      (hvalue : value = .ofString (scheme ++ " " ++ lead ++ token ++ trail))
      (hspace : ' ' ∉ scheme.toList) (hcase : IsAnyCase scheme) (hlead : IsPadding lead)
      (htrail : IsPadding trail) (hne : token ≠ "") (htoken : IsUnpadded token) :
      Carries value token

inductive ValueFault (value : Octets) : BearerFault → Prop where
  | missing (h : value = []) : ValueFault value .missing
  | notAscii (h : ¬ AreVisible value) : ValueFault value .notAscii
  | missingType {text : String} (hvisible : AreVisible value) (hvalue : value = .ofString text)
      (hne : text ≠ "") (hspace : ' ' ∉ text.toList) : ValueFault value .missingType
  | invalidType {scheme rest : String} (hvisible : AreVisible value)
      (hvalue : value = .ofString (scheme ++ " " ++ rest)) (hspace : ' ' ∉ scheme.toList)
      (hcase : ¬ IsAnyCase scheme) : ValueFault value (.invalidType scheme)
  | emptyToken {scheme padding : String} (hvisible : AreVisible value)
      (hvalue : value = .ofString (scheme ++ " " ++ padding)) (hspace : ' ' ∉ scheme.toList)
      (hcase : IsAnyCase scheme) (hpadding : IsPadding padding) : ValueFault value .emptyToken

/-- What a request lacks first to carry a token. -/
inductive FirstFault (fields : List Http.Field) : BearerFault → Prop where
  | absent (h : ∀ x ∈ fields, Http.sameName x.name "authorization" = false) :
      FirstFault fields .missing
  | value {value : Octets} {f : BearerFault} (hfirst : IsFirstValue fields value)
      (h : ValueFault value f) : FirstFault fields f

/-! ## Visible octets -/

theorem areVisible_iff (value : Octets) : AreVisible value ↔ value.all isVisible = true := by
  simp [AreVisible, isVisible]

theorem isBlank_iff_of_isPlain {c : Char} (h : isPlain c = true) :
    Text.isBlank c = true ↔ c = ' ' ∨ c = '\t' := by
  rw [isPlain_iff] at h
  have hspace : c = ' ' ↔ c.toNat = 32 := by rw [← Char.toNat_inj]; rfl
  have htab : c = '\t' ↔ c.toNat = 9 := by rw [← Char.toNat_inj]; rfl
  rw [hspace, htab]
  simp [Text.isBlank, Text.inRanges, Text.blankRanges]
  omega

theorem AreVisible.chars?_eq {text : String} (h : AreVisible (.ofString text)) :
    chars? (.ofString text) = some text.toList := by
  rw [areVisible_iff] at h
  have hchars : ∃ cs, chars? (.ofString text) = some cs := ⟨_, if_pos h⟩
  obtain ⟨cs, hcs⟩ := hchars
  have htext := Octets.ofString_injective (eq_ofString_of_chars? hcs)
  rw [hcs, htext, String.toList_ofList]

theorem AreVisible.isPlain {text : String} (h : AreVisible (.ofString text)) :
    ∀ c ∈ text.toList, isPlain c = true := isPlain_of_chars? h.chars?_eq

theorem areVisible_of_isPlain {text : String} (h : ∀ c ∈ text.toList, isPlain c = true) :
    AreVisible (.ofString text) := by
  have hchars := chars?_ofString h
  rw [String.ofList_toList] at hchars
  rw [areVisible_iff]
  unfold chars? at hchars
  split at hchars
  · assumption
  · cases hchars

theorem AreVisible.exists_text {value : Octets} (h : AreVisible value) :
    ∃ text, value = .ofString text := by
  rw [areVisible_iff] at h
  exact ⟨_, eq_ofString_of_chars? (if_pos h)⟩

theorem isScheme_iff (scheme : String) : isScheme scheme.toList = true ↔ IsAnyCase scheme := by
  have hsmall : ∀ d ∈ "bearer".toList, 'a' ≤ d ∧ d ≤ 'z' := by simp
  rw [isScheme, beq_iff_eq, Text.map_toLower_eq_iff hsmall, IsAnyCase]

theorem isGap_iff_isPadding {s : String} (h : ∀ c ∈ s.toList, isPlain c = true) :
    Text.IsGap s.toList ↔ IsPadding s :=
  forall₂_congr fun c hc => isBlank_iff_of_isPlain (h c hc)

theorem isBare_iff_isUnpadded {s : String} (h : ∀ c ∈ s.toList, isPlain c = true) :
    Text.IsBare s.toList ↔ IsUnpadded s := by
  have hblank : ∀ c ∈ s.toList, Text.isBlank c = false ↔ c ≠ ' ' ∧ c ≠ '\t' := by
    intro c hc
    rw [← not_or, ← isBlank_iff_of_isPlain (h c hc), Bool.not_eq_true]
  constructor
  · rintro ⟨hfirst, hlast⟩ c (hc | hc)
    · exact (hblank c (List.mem_of_mem_head? hc)).mp (hfirst c hc)
    · exact (hblank c (List.mem_of_getLast? hc)).mp (hlast c hc)
  · intro hunpadded
    exact ⟨fun c hc => (hblank c (List.mem_of_mem_head? hc)).mpr (hunpadded c (.inl hc)),
      fun c hc => (hblank c (List.mem_of_getLast? hc)).mpr (hunpadded c (.inr hc))⟩

/-! ## Values -/

theorem cutAtSpace_eq_none_iff (cs : List Char) : cutAtSpace cs = none ↔ ' ' ∉ cs := by
  fun_induction cutAtSpace cs with
  | case1 => simp
  | case2 rest => simp
  | case3 c rest hc ih =>
    rw [Option.map_eq_none_iff, ih, List.mem_cons, not_or]
    exact ⟨fun h => ⟨fun e => hc e.symm, h⟩, fun h => h.2⟩

theorem ofValue_of_not_areVisible {value : Octets} (h : ¬ AreVisible value) :
    ofValue value = .error .notAscii := by
  rw [areVisible_iff] at h
  rw [ofValue, chars?, if_neg h]

theorem ofValue_of_space_not_mem {text : String} (hvisible : AreVisible (.ofString text))
    (hne : text ≠ "") (hspace : ' ' ∉ text.toList) :
    ofValue (.ofString text) = .error .missingType := by
  have hchars := hvisible.chars?_eq
  have hcut := (cutAtSpace_eq_none_iff _).mpr hspace
  obtain ⟨c, cs, hcons⟩ := List.exists_cons_of_ne_nil (mt String.toList_eq_nil_iff.mp hne)
  rw [hcons] at hchars hcut
  simp only [ofValue, hchars, hcut]

theorem ofValue_of_space {scheme rest : String}
    (hvisible : AreVisible (.ofString (scheme ++ " " ++ rest))) (hspace : ' ' ∉ scheme.toList) :
    ofValue (.ofString (scheme ++ " " ++ rest)) =
      if isScheme scheme.toList then
        if Text.trim rest.toList = [] then .error .emptyToken
        else .ok (String.ofList (Text.trim rest.toList))
      else .error (.invalidType scheme) := by
  have hchars := hvisible.chars?_eq
  have hcut := cutAtSpace_append hspace rest.toList
  have htoList : (scheme ++ " " ++ rest).toList = scheme.toList ++ ' ' :: rest.toList := by simp
  rw [← htoList] at hcut
  obtain ⟨c, cs, hcons⟩ : ∃ c cs, (scheme ++ " " ++ rest).toList = c :: cs :=
    List.exists_cons_of_ne_nil (by simp)
  rw [hcons] at hchars hcut
  simp only [ofValue, hchars, hcut, String.ofList_toList]
  cases isScheme scheme.toList with
  | false => simp
  | true => cases htrim : Text.trim rest.toList <;> simp

theorem Carries.ofValue_eq {value : Octets} {token : String} (h : Carries value token) :
    ofValue value = .ok token := by
  cases h with
  | @written scheme lead trail hvisible hvalue hspace hcase hlead htrail hne htoken =>
    have happend : scheme ++ " " ++ lead ++ token ++ trail
        = scheme ++ " " ++ (lead ++ token ++ trail) := by simp [String.append_assoc]
    rw [hvalue, happend] at hvisible
    have hplain : ∀ c ∈ (scheme ++ " " ++ (lead ++ token ++ trail)).toList, isPlain c = true :=
      hvisible.isPlain
    simp only [String.toList_append, List.mem_append, or_imp, forall_and] at hplain
    obtain ⟨-, ⟨hl, ht⟩, htr⟩ := hplain
    have htrim : Text.trim (lead ++ token ++ trail).toList = token.toList := by
      rw [String.toList_append, String.toList_append]
      exact Text.trim_append ((isBare_iff_isUnpadded ht).mpr htoken)
        ((isGap_iff_isPadding hl).mpr hlead) ((isGap_iff_isPadding htr).mpr htrail)
    rw [hvalue, happend, ofValue_of_space hvisible hspace, if_pos ((isScheme_iff scheme).mpr hcase),
      htrim, if_neg (by simpa using hne), String.ofList_toList]

theorem ValueFault.ofValue_eq {value : Octets} {f : BearerFault} (h : ValueFault value f) :
    ofValue value = .error f := by
  cases h with
  | missing h => rw [h]; rfl
  | notAscii h => exact ofValue_of_not_areVisible h
  | missingType hvisible hvalue hne hspace =>
    subst hvalue
    exact ofValue_of_space_not_mem hvisible hne hspace
  | invalidType hvisible hvalue hspace hcase =>
    subst hvalue
    rw [ofValue_of_space hvisible hspace, if_neg (by rwa [isScheme_iff])]
  | @emptyToken scheme padding hvisible hvalue hspace hcase hpadding =>
    subst hvalue
    have hplain : ∀ c ∈ padding.toList, isPlain c = true := fun c hc =>
      hvisible.isPlain c (by simp [hc])
    have htrim : Text.trim padding.toList = [] :=
      (Text.trim_eq_nil_iff _).mpr ((isGap_iff_isPadding hplain).mpr hpadding)
    rw [ofValue_of_space hvisible hspace, if_pos ((isScheme_iff scheme).mpr hcase), if_pos htrim]

/-- A value that goes on with something behind its first space is a credential, if it starts with
the right word. -/
theorem carries_of_space {scheme rest : String}
    (hvisible : AreVisible (.ofString (scheme ++ " " ++ rest))) (hspace : ' ' ∉ scheme.toList)
    (hcase : IsAnyCase scheme) (hne : Text.trim rest.toList ≠ []) :
    Carries (.ofString (scheme ++ " " ++ rest)) (String.ofList (Text.trim rest.toList)) := by
  obtain ⟨lead, trail, hlead, htrail, hrest⟩ := Text.exists_gaps rest.toList
  have hplain : ∀ c ∈ rest.toList, isPlain c = true := fun c hc =>
    hvisible.isPlain c (by simp [hc])
  have hparts := hplain
  rw [hrest] at hparts
  simp only [List.mem_append, or_imp, forall_and] at hparts
  obtain ⟨⟨hl, ht⟩, htr⟩ := hparts
  have htext : scheme ++ " " ++ rest = scheme ++ " " ++ String.ofList lead
      ++ String.ofList (Text.trim rest.toList) ++ String.ofList trail := by
    rw [← String.toList_inj]
    simp [← hrest]
  refine .written hvisible (congrArg Octets.ofString htext) hspace hcase ?_ ?_ ?_ ?_
  · rw [← isGap_iff_isPadding (by simpa using hl), String.toList_ofList]
    exact hlead
  · rw [← isGap_iff_isPadding (by simpa using htr), String.toList_ofList]
    exact htrail
  · simpa using hne
  · rw [← isBare_iff_isUnpadded (by simpa using ht), String.toList_ofList]
    exact Text.isBare_trim _

theorem exists_append_of_space_mem {text : String} (h : ' ' ∈ text.toList) :
    ∃ scheme rest : String, text = scheme ++ " " ++ rest ∧ ' ' ∉ scheme.toList := by
  obtain ⟨l, r, htext, hl⟩ := List.eq_append_cons_of_mem h
  refine ⟨String.ofList l, String.ofList r, ?_, by simpa using hl⟩
  rw [← String.toList_inj, htext]
  simp

theorem carries_or_valueFault (value : Octets) :
    (∃ token, Carries value token) ∨ ∃ f, ValueFault value f := by
  -- In the order of the faults, each case knows that the faults before it are absent.
  by_cases hvisible : AreVisible value
  · obtain ⟨text, rfl⟩ := hvisible.exists_text
    by_cases hempty : text = ""
    · subst hempty
      exact .inr ⟨_, .missing rfl⟩
    by_cases hspace : ' ' ∈ text.toList
    · obtain ⟨scheme, rest, rfl, hscheme⟩ := exists_append_of_space_mem hspace
      by_cases hcase : IsAnyCase scheme
      · by_cases htrim : Text.trim rest.toList = []
        · have hplain : ∀ c ∈ rest.toList, isPlain c = true := fun c hc =>
            hvisible.isPlain c (by simp [hc])
          have hpadding := (isGap_iff_isPadding hplain).mp ((Text.trim_eq_nil_iff _).mp htrim)
          exact .inr ⟨_, .emptyToken hvisible rfl hscheme hcase hpadding⟩
        · exact .inl ⟨_, carries_of_space hvisible hscheme hcase htrim⟩
      · exact .inr ⟨_, .invalidType hvisible rfl hscheme hcase⟩
    · exact .inr ⟨_, .missingType hvisible rfl hempty hspace⟩
  · exact .inr ⟨_, .notAscii hvisible⟩

theorem ofValue_eq_ok_iff_carries (value : Octets) (token : String) :
    ofValue value = .ok token ↔ Carries value token :=
  (outcome_iff Carries.ofValue_eq ValueFault.ofValue_eq (carries_or_valueFault value)).1 token

theorem ofValue_eq_error_iff (value : Octets) (f : BearerFault) :
    ofValue value = .error f ↔ ValueFault value f :=
  (outcome_iff Carries.ofValue_eq ValueFault.ofValue_eq (carries_or_valueFault value)).2 f

theorem IsAnyCase.isPlain {scheme : String} (h : IsAnyCase scheme) :
    ∀ c ∈ scheme.toList, isPlain c = true ∧ c ≠ ' ' := by
  intro c hc
  rw [← isScheme_iff, isScheme, beq_iff_eq] at h
  have hletter : ∀ d ∈ "bearer".toList, 97 ≤ d.toNat ∧ d.toNat ≤ 122 := by simp
  have hlower := hletter c.toLower (h ▸ List.mem_map_of_mem hc)
  rw [Text.toNat_toLower] at hlower
  have hbounds : 65 ≤ c.toNat ∧ c.toNat ≤ 122 := by
    split at hlower <;> omega
  refine ⟨(isPlain_iff c).mpr (.inl ⟨by omega, by omega⟩), ?_⟩
  rintro rfl
  exact absurd hbounds.1 (by decide)

theorem carries_of_isPlain {scheme lead token trail : String} (hcase : IsAnyCase scheme)
    (hlead : IsPadding lead) (htrail : IsPadding trail) (hne : token ≠ "")
    (hplain : ∀ c ∈ token.toList, isPlain c = true) (htoken : IsUnpadded token) :
    Carries (.ofString (scheme ++ " " ++ lead ++ token ++ trail)) token := by
  have hpadding : ∀ {s : String}, IsPadding s → ∀ c ∈ s.toList, Bearer.isPlain c = true := by
    intro s hs c hc
    rcases hs c hc with rfl | rfl <;> rfl
  refine .written (areVisible_of_isPlain ?_) rfl (fun hspace => (hcase.isPlain _ hspace).2 rfl)
    hcase hlead htrail hne htoken
  have hspace : ∀ c ∈ " ".toList, isPlain c = true := by simp [isPlain_iff]
  simp only [String.toList_append, List.mem_append, or_imp, forall_and]
  exact ⟨⟨⟨⟨fun c hc => (hcase.isPlain c hc).1, hspace⟩, hpadding hlead⟩, hplain⟩,
    hpadding htrail⟩

/-! ## Fields -/

theorem firstValue?_eq_some_iff (fields : List Http.Field) (value : Octets) :
    Http.firstValue? "authorization" fields = some value ↔ IsFirstValue fields value := by
  simp only [Http.firstValue?, Option.map_eq_some_iff, List.find?_eq_some_iff_append,
    Bool.not_eq_eq_eq_not, Bool.not_true, IsFirstValue]
  constructor
  · rintro ⟨x, ⟨hx, before, after, hfields, hbefore⟩, hvalue⟩
    exact ⟨before, x, after, hfields, hbefore, hx, hvalue⟩
  · rintro ⟨before, x, after, hfields, hbefore, hx, hvalue⟩
    exact ⟨x, ⟨hx, before, after, hfields, hbefore⟩, hvalue⟩

theorem firstValue?_eq_none_iff (fields : List Http.Field) :
    Http.firstValue? "authorization" fields = none ↔
      ∀ x ∈ fields, Http.sameName x.name "authorization" = false := by
  simp [Http.firstValue?]

theorem IsFirstValue.ofFields_eq {fields : List Http.Field} {value : Octets}
    (h : IsFirstValue fields value) : ofFields fields = ofValue value := by
  rw [ofFields, (firstValue?_eq_some_iff fields value).mpr h]

theorem ofFields_eq_ok_iff (fields : List Http.Field) (token : String) :
    ofFields fields = .ok token ↔ ∃ value, IsFirstValue fields value ∧ Carries value token := by
  constructor
  · intro h
    cases hfirst : Http.firstValue? "authorization" fields with
    | none => simp [ofFields, hfirst] at h
    | some value =>
      rw [firstValue?_eq_some_iff] at hfirst
      exact ⟨value, hfirst, (ofValue_eq_ok_iff_carries _ _).mp (hfirst.ofFields_eq ▸ h)⟩
  · rintro ⟨value, hfirst, hcarries⟩
    rw [hfirst.ofFields_eq, hcarries.ofValue_eq]

theorem ofFields_eq_error_iff (fields : List Http.Field) (f : BearerFault) :
    ofFields fields = .error f ↔ FirstFault fields f := by
  constructor
  · intro h
    cases hfirst : Http.firstValue? "authorization" fields with
    | none =>
      simp only [ofFields, hfirst, Except.error.injEq] at h
      exact h ▸ .absent ((firstValue?_eq_none_iff fields).mp hfirst)
    | some value =>
      rw [firstValue?_eq_some_iff] at hfirst
      exact .value hfirst ((ofValue_eq_error_iff _ _).mp (hfirst.ofFields_eq ▸ h))
  · intro h
    cases h with
    | absent h => rw [ofFields, (firstValue?_eq_none_iff fields).mpr h]
    | value hfirst h => rw [hfirst.ofFields_eq, h.ofValue_eq]

/-- A request carries the token of its first `Authorization` field, and the first thing that this
lacks is its fault. Of a token in plain characters nothing is lost, however the word before it is
spelled and whatever spaces and tabs stand around it; and no other field matters. -/
theorem bearer_tokens_extracted (fields : List Http.Field) :
    (∀ token, ofFields fields = .ok token ↔
        ∃ value, IsFirstValue fields value ∧ Carries value token)
      ∧ (∀ f, ofFields fields = .error f ↔ FirstFault fields f)
      ∧ (∀ scheme lead token trail : String,
          IsFirstValue fields (.ofString (scheme ++ " " ++ lead ++ token ++ trail)) →
          IsAnyCase scheme → IsPadding lead → IsPadding trail → token ≠ "" →
          (∀ c ∈ token.toList, (0x20 ≤ c.toNat ∧ c.toNat ≤ 0x7E) ∨ c.toNat = 0x09) →
          IsUnpadded token → ofFields fields = .ok token)
      ∧ ∀ (before : List Http.Field) (x : Http.Field) (after : List Http.Field),
          fields = before ++ x :: after →
          (∀ y ∈ before, Http.sameName y.name "authorization" = false) →
          Http.sameName x.name "authorization" = true → ofFields fields = ofFields [x] := by
  refine ⟨ofFields_eq_ok_iff fields, ofFields_eq_error_iff fields, ?_, ?_⟩
  · intro scheme lead token trail hfirst hcase hlead htrail hne hplain htoken
    have hcarries := carries_of_isPlain hcase hlead htrail hne
      (fun c hc => (isPlain_iff c).mpr (hplain c hc)) htoken
    rw [hfirst.ofFields_eq, hcarries.ofValue_eq]
  · intro before x after hfields hbefore hx
    have hfirst : IsFirstValue fields x.value := ⟨before, x, after, hfields, hbefore, hx, rfl⟩
    have halone : IsFirstValue [x] x.value := ⟨[], x, [], rfl, by simp, hx, rfl⟩
    rw [hfirst.ofFields_eq, halone.ofFields_eq]

end Bearer

end ScopeGate
