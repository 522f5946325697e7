import ScopeGate.Gate.Bearer
import ScopeGate.Proofs.Text.Trim

/-!
# Tokens in header fields

A bearer token is a text of printing ASCII characters and tabs that is not empty and has no blank at
its ends. Whatever is extracted from header fields is one (`isToken_of_ofFields`).

`relabel` puts another token in the place of the one that header fields carry. What stands around
it, the scheme, the blanks and all other fields, stays as it is, and so does a header that carries
no token. The token that is extracted then is the other one (`ofFields_relabel`).
-/

namespace ScopeGate

namespace Bearer

def isPlain (c : Char) : Bool := (0x20 ≤ c.toNat && c.toNat ≤ 0x7E) || c.toNat == 0x09

def isToken (t : String) : Bool :=
  !t.toList.isEmpty && t.toList.all isPlain && decide (Text.trimLeft t.toList = t.toList)
    && decide (Text.trimRight t.toList = t.toList)

theorem isToken_iff (t : String) :
    isToken t = true ↔ t.toList ≠ [] ∧ (∀ c ∈ t.toList, isPlain c = true)
      ∧ Text.trimLeft t.toList = t.toList ∧ Text.trimRight t.toList = t.toList := by
  simp [isToken, and_assoc]

def relabelRest (f : String → String) (rest : List Char) : List Char :=
  rest.takeWhile Text.isBlank ++ (f (String.ofList (Text.trim rest))).toList
    ++ (Text.trimLeft rest).rtakeWhile Text.isBlank

def relabelText (f : String → String) (cs : List Char) : List Char :=
  match cutAtSpace cs with
  | none => cs
  | some (scheme, rest) => scheme ++ ' ' :: relabelRest f rest

def relabelValue (f : String → String) (value : Octets) : Octets :=
  match chars? value, ofValue value with
  | some cs, .ok _ => .ofString (String.ofList (relabelText f cs))
  | _, _ => value

def relabel (f : String → String) : List Http.Field → List Http.Field
  | [] => []
  | x :: rest =>
    if Http.sameName x.name "authorization" then ⟨x.name, relabelValue f x.value⟩ :: rest
    else x :: relabel f rest

/-! ## Plain characters -/

theorem toNat_of_isPlain {c : Char} (h : isPlain c = true) :
    (UInt8.ofNat c.toNat).toNat = c.toNat ∧ c.toNat ≤ 0x7E := by
  have hsmall : c.toNat ≤ 0x7E := by
    simp only [isPlain, Bool.or_eq_true, Bool.and_eq_true, decide_eq_true_eq, beq_iff_eq] at h
    omega
  refine ⟨?_, hsmall⟩
  rw [UInt8.toNat_ofNat']
  omega

theorem ofChar_of_isPlain {c : Char} (h : isPlain c = true) :
    Octets.ofChar c = [UInt8.ofNat c.toNat] := by
  have hsmall := (toNat_of_isPlain h).2
  have hle : c.val.toNat ≤ 0x7F := Nat.le_succ_of_le hsmall
  rw [Octets.ofChar, String.utf8EncodeChar, if_pos hle]
  rfl

theorem isVisible_iff (b : UInt8) :
    isVisible b = true ↔ (0x20 ≤ b.toNat ∧ b.toNat ≤ 0x7E) ∨ b.toNat = 0x09 := by
  simp [isVisible, UInt8.le_iff_toNat_le, ← UInt8.toNat_inj]

theorem isPlain_iff (c : Char) :
    isPlain c = true ↔ (0x20 ≤ c.toNat ∧ c.toNat ≤ 0x7E) ∨ c.toNat = 0x09 := by
  simp [isPlain]

theorem toNat_ofNat_of_isVisible {b : UInt8} (h : isVisible b = true) :
    (Char.ofNat b.toNat).toNat = b.toNat := by
  rw [isVisible_iff] at h
  have hvalid : b.toNat.isValidChar := by left; omega
  rw [Char.ofNat, dif_pos hvalid]
  rfl

theorem isPlain_of_isVisible {b : UInt8} (h : isVisible b = true) :
    isPlain (Char.ofNat b.toNat) = true := by
  rw [isPlain_iff, toNat_ofNat_of_isVisible h, ← isVisible_iff, h]

theorem ofString_of_isPlain {cs : List Char} (h : ∀ c ∈ cs, isPlain c = true) :
    Octets.ofString (String.ofList cs) = cs.map fun c => UInt8.ofNat c.toNat := by
  rw [Octets.ofString, String.toList_ofList]
  induction cs with
  | nil => rfl
  | cons c cs ih =>
    rw [List.flatMap_cons, ofChar_of_isPlain (h c List.mem_cons_self),
      ih fun d hd => h d (List.mem_cons_of_mem c hd)]
    rfl

theorem chars?_ofString {cs : List Char} (h : ∀ c ∈ cs, isPlain c = true) :
    chars? (.ofString (String.ofList cs)) = some cs := by
  have hvisible : (cs.map fun c => UInt8.ofNat c.toNat).all isVisible = true := by
    simp only [List.all_map, List.all_eq_true, Function.comp_apply]
    intro c hc
    rw [isVisible_iff, (toNat_of_isPlain (h c hc)).1]
    exact (isPlain_iff c).mp (h c hc)
  have hback : ∀ c ∈ cs, ((fun b : UInt8 => Char.ofNat b.toNat) ∘ fun c => UInt8.ofNat c.toNat) c
      = id c := by
    intro c hc
    rw [Function.comp_apply, (toNat_of_isPlain (h c hc)).1, Char.ofNat_toNat, id]
  rw [ofString_of_isPlain h, chars?, if_pos hvisible, List.map_map, List.map_congr_left hback,
    List.map_id]

theorem isPlain_of_chars? {value : Octets} {cs : List Char} (h : chars? value = some cs) :
    ∀ c ∈ cs, isPlain c = true := by
  unfold chars? at h
  split at h
  · rename_i hvisible
    cases h
    intro c hc
    obtain ⟨b, hb, rfl⟩ := List.mem_map.mp hc
    exact isPlain_of_isVisible (List.all_eq_true.mp hvisible b hb)
  · cases h

theorem eq_ofString_of_chars? {value : Octets} {cs : List Char} (h : chars? value = some cs) :
    value = .ofString (String.ofList cs) := by
  rw [ofString_of_isPlain (isPlain_of_chars? h)]
  unfold chars? at h
  split at h
  · rename_i hvisible
    cases h
    rw [List.all_eq_true] at hvisible
    have hback : ∀ b ∈ value,
        ((fun c : Char => UInt8.ofNat c.toNat) ∘ fun b : UInt8 => Char.ofNat b.toNat) b = id b := by
      intro b hb
      rw [Function.comp_apply, toNat_ofNat_of_isVisible (hvisible b hb), UInt8.ofNat_toNat, id]
    rw [List.map_map, List.map_congr_left hback, List.map_id]
  · cases h

/-! ## Values -/

theorem cutAtSpace_append {l : List Char} (h : ' ' ∉ l) (r : List Char) :
    cutAtSpace (l ++ ' ' :: r) = some (l, r) := by
  induction l with
  | nil => rfl
  | cons c l ih =>
    rw [List.mem_cons, not_or] at h
    rw [List.cons_append, cutAtSpace, ih h.2]
    · rfl
    · exact fun hc => h.1 hc.symm

theorem ofValue_eq_ok_iff (value : Octets) (token : String) :
    ofValue value = .ok token ↔
      ∃ cs scheme rest, chars? value = some cs ∧ cutAtSpace cs = some (scheme, rest)
        ∧ isScheme scheme = true ∧ Text.trim rest ≠ []
        ∧ token = String.ofList (Text.trim rest) := by
  constructor
  · intro h
    unfold ofValue at h
    split at h
    · cases h
    · cases h
    · rename_i cs hne hcs
      split at h
      · cases h
      · rename_i scheme rest hcut
        split at h
        · cases h
        · rename_i hscheme
          split at h
          · cases h
          · rename_i htrim
            cases h
            exact ⟨cs, scheme, rest, hcs, hcut, by simpa using hscheme, htrim, rfl⟩
  · rintro ⟨cs, scheme, rest, hcs, hcut, hscheme, htrim, rfl⟩
    cases cs with
    | nil => cases hcut
    | cons c cs =>
      obtain ⟨d, ds, hd⟩ := List.exists_cons_of_ne_nil htrim
      simp only [ofValue, hcs, hcut, hscheme, hd, Bool.not_true, Bool.false_eq_true, if_false]

theorem isToken_of_ofValue {value : Octets} {token : String} (h : ofValue value = .ok token) :
    isToken token = true := by
  obtain ⟨cs, scheme, rest, hcs, hcut, -, htrim, rfl⟩ := (ofValue_eq_ok_iff value token).mp h
  rw [isToken_iff, String.toList_ofList]
  refine ⟨htrim, ?_, Text.trimLeft_trim rest, Text.trimRight_trimRight _⟩
  intro c hc
  refine isPlain_of_chars? hcs c ?_
  rw [(eq_of_cutAtSpace hcut).1]
  exact List.mem_append_right _ (List.mem_cons_of_mem _ (Text.mem_of_mem_trim hc))

variable {f : String → String}

theorem trim_relabelRest {rest : List Char}
    (h : isToken (f (String.ofList (Text.trim rest))) = true) :
    Text.trim (relabelRest f rest) = (f (String.ofList (Text.trim rest))).toList := by
  obtain ⟨-, -, hleft, hright⟩ := (isToken_iff _).mp h
  refine Text.trim_append ((Text.isBare_iff _).mpr ⟨hleft, hright⟩) ?_ ?_
  · exact fun c hc => List.mem_takeWhile_imp hc
  · exact fun c hc => List.mem_rtakeWhile_imp hc

theorem isPlain_of_mem_relabelRest {rest : List Char}
    (h : isToken (f (String.ofList (Text.trim rest))) = true)
    (hrest : ∀ c ∈ rest, isPlain c = true) {c : Char} (hc : c ∈ relabelRest f rest) :
    isPlain c = true := by
  obtain ⟨-, hplain, -⟩ := (isToken_iff _).mp h
  rw [relabelRest, List.mem_append, List.mem_append] at hc
  rcases hc with (hlead | htoken) | htrail
  · exact hrest c ((List.takeWhile_prefix Text.isBlank).subset hlead)
  · exact hplain c htoken
  · have hleft : c ∈ Text.trimLeft rest := (List.rtakeWhile_suffix Text.isBlank _).subset htrail
    exact hrest c ((List.dropWhile_suffix Text.isBlank).subset hleft)

/-- The token is replaced in its place, and what stands around it is the same. -/
theorem ofValue_relabelValue (hf : ∀ t, isToken t = true → isToken (f t) = true) (value : Octets) :
    ofValue (relabelValue f value) = (ofValue value).map f := by
  cases hvalue : ofValue value with
  | error fault =>
    have hsame : relabelValue f value = value := by
      unfold relabelValue
      cases chars? value <;> simp [hvalue]
    rw [hsame, hvalue]
    rfl
  | ok token =>
    have htoken := hf token (isToken_of_ofValue hvalue)
    obtain ⟨cs, scheme, rest, hcs, hcut, hscheme, htrim, rfl⟩ := (ofValue_eq_ok_iff _ _).mp hvalue
    obtain ⟨rfl, hspace⟩ := eq_of_cutAtSpace hcut
    have hall := isPlain_of_chars? hcs
    have hlabel : relabelValue f value
        = .ofString (String.ofList (scheme ++ ' ' :: relabelRest f rest)) := by
      simp only [relabelValue, hcs, hvalue, relabelText, hcut]
    have hplain : ∀ c ∈ scheme ++ ' ' :: relabelRest f rest, isPlain c = true := by
      intro c hc
      rcases List.mem_append.mp hc with hc | hc
      · exact hall c (List.mem_append_left _ hc)
      · rcases List.mem_cons.mp hc with rfl | hc
        · rfl
        · refine isPlain_of_mem_relabelRest htoken (fun d hd => ?_) hc
          exact hall d (List.mem_append_right _ (List.mem_cons_of_mem _ hd))
    have htrimmed := trim_relabelRest htoken
    rw [hlabel]
    refine (ofValue_eq_ok_iff _ _).mpr ⟨_, scheme, relabelRest f rest, chars?_ofString hplain,
      cutAtSpace_append hspace _, hscheme, ?_, ?_⟩
    · rw [htrimmed]
      exact ((isToken_iff _).mp htoken).1
    · rw [htrimmed, String.ofList_toList]

example : relabelValue (fun _ => "s") (.ofString "bearer  t\t") = .ofString "bearer  s\t" := by
  decide +kernel

theorem ofFields_relabel (hf : ∀ t, isToken t = true → isToken (f t) = true)
    (fields : List Http.Field) : ofFields (relabel f fields) = (ofFields fields).map f := by
  induction fields with
  | nil => rfl
  | cons x rest ih =>
    cases hx : Http.sameName x.name "authorization" with
    | true =>
      have hvalue := ofValue_relabelValue hf x.value
      simpa [ofFields, relabel, Http.firstValue?, hx] using hvalue
    | false => simpa [ofFields, relabel, Http.firstValue?, hx] using ih

theorem isToken_of_ofFields {fields : List Http.Field} {token : String}
    (h : ofFields fields = .ok token) : isToken token = true := by
  unfold ofFields at h
  split at h
  · cases h
  · exact isToken_of_ofValue h

end Bearer

end ScopeGate
