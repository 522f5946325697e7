import ScopeGate.Proofs.Text.Trim

/-!
# Words

The words of a text are its maximal runs of characters that are not blank. This is said in two ways.
`Spells` puts a text together: gaps and words take turns, and only at the ends of the text may there
be no gap. It is what `words` takes apart (`words_eq_iff`), so that the gaps are all that is lost.
`IsRun` looks at a text as it is: a word stands in a certain place, and there is no character before
or after it that would prolong it. The words are the runs in the order of their places, each listed
as often as it occurs (`exists_runs`).
-/

namespace ScopeGate.Text

/-- Whether a text is one or more characters, none of them blank. -/
structure IsWord (cs : List Char) : Prop where
  ne_nil : cs ≠ []
  not_blank : ∀ c ∈ cs, isBlank c = false

def EndsWord (cs : List Char) : Prop := ∀ c ∈ cs.head?, isBlank c = true

/-- Whether a text consists of these words, with gaps around and between them. -/
inductive Spells : List (List Char) → List Char → Prop where
  | gap {cs : List Char} (h : IsGap cs) : Spells [] cs
  | word {lead w rest : List Char} {ws : List (List Char)} (hlead : IsGap lead) (hw : IsWord w)
      (hend : EndsWord rest) (h : Spells ws rest) : Spells (w :: ws) (lead ++ w ++ rest)

/-- A text with what stands before and after it in a longer one. -/
structure Place where
  before : List Char
  text : List Char
  after : List Char

/-- Whether a word stands in this place of a text and cannot be prolonged there. -/
structure Place.IsRun (cs : List Char) (p : Place) : Prop where
  eq_append : cs = p.before ++ (p.text ++ p.after)
  isWord : IsWord p.text
  before : ∀ c ∈ p.before.getLast?, isBlank c = true
  after : EndsWord p.after

theorem Spells.first {w rest : List Char} {ws : List (List Char)} (hw : IsWord w)
    (hend : EndsWord rest) (h : Spells ws rest) : Spells (w :: ws) (w ++ rest) :=
  .word isGap_nil hw hend h

/-! ## Taking apart -/

theorem words_append_cons {c : Char} (hc : isBlank c = true) (cs ds : List Char) :
    words (cs ++ c :: ds) = words cs ++ words ds := by
  rw [words, List.splitOnP_append_cons cs ds hc, List.filter_append, words, words]

theorem words_append_gap {gap : List Char} (hgap : IsGap gap) (cs : List Char) :
    words (gap ++ cs) = words cs := by
  induction gap with
  | nil => rfl
  | cons c gap ih =>
    rw [IsGap, List.forall_mem_cons] at hgap
    rw [List.cons_append, words_cons_of_isBlank hgap.1, ih hgap.2]

theorem words_of_isGap {gap : List Char} (hgap : IsGap gap) : words gap = [] := by
  rw [← List.append_nil gap, words_append_gap hgap, words_nil]

theorem IsWord.words_eq {w : List Char} (hw : IsWord w) : words w = [w] := by
  rw [words, List.splitOnP_eq_singleton hw.not_blank]
  simp [hw.ne_nil]

theorem IsWord.words_append {w rest : List Char} (hw : IsWord w) (hend : EndsWord rest) :
    words (w ++ rest) = w :: words rest := by
  cases rest with
  | nil => rw [List.append_nil, hw.words_eq, words_nil]
  | cons c rest =>
    have hc : isBlank c = true := hend c rfl
    rw [words_append_cons hc, hw.words_eq, words_cons_of_isBlank hc, List.singleton_append]

theorem Spells.words_eq {ws : List (List Char)} {cs : List Char} (h : Spells ws cs) :
    words cs = ws := by
  induction h with
  | gap h => exact words_of_isGap h
  | word hlead hw hend _ ih =>
    rw [List.append_assoc, words_append_gap hlead, hw.words_append hend, ih]

theorem exists_spells (cs : List Char) : ∃ ws, Spells ws cs := by
  induction cs with
  | nil => exact ⟨[], .gap isGap_nil⟩
  | cons c cs ih =>
    obtain ⟨ws, h⟩ := ih
    cases hc : isBlank c with
    | true =>
      -- The blank goes to the gap in front.
      have hgap : ∀ {gap : List Char}, IsGap gap → IsGap (c :: gap) := fun h =>
        List.forall_mem_cons.mpr ⟨hc, h⟩
      cases h with
      | gap h => exact ⟨[], .gap (hgap h)⟩
      | word hlead hw hend h => exact ⟨_, .word (hgap hlead) hw hend h⟩
    | false =>
      have hsingle : IsWord [c] := ⟨List.cons_ne_nil c [], by simpa using hc⟩
      cases h with
      | gap h =>
        exact ⟨[[c]], .first hsingle (fun d hd => h d (List.mem_of_mem_head? hd)) (.gap h)⟩
      | @word lead w rest ws hlead hw hend h =>
        cases lead with
        | nil =>
          -- The character prolongs the word in front.
          have hlonger : IsWord (c :: w) :=
            ⟨List.cons_ne_nil c w, List.forall_mem_cons.mpr ⟨hc, hw.not_blank⟩⟩
          exact ⟨(c :: w) :: ws, .first hlonger hend h⟩
        | cons d lead =>
          have hends : EndsWord (d :: lead ++ w ++ rest) := by
            rintro e ⟨⟩
            exact hlead d List.mem_cons_self
          exact ⟨[c] :: w :: ws, .first hsingle hends (.word hlead hw hend h)⟩

theorem words_eq_iff (cs : List Char) (ws : List (List Char)) : words cs = ws ↔ Spells ws cs := by
  refine ⟨?_, Spells.words_eq⟩
  rintro rfl
  obtain ⟨ws, h⟩ := exists_spells cs
  rwa [h.words_eq]

theorem isWord_of_mem_words {cs w : List Char} (h : w ∈ words cs) : IsWord w := by
  obtain ⟨ws, hspells⟩ := exists_spells cs
  rw [hspells.words_eq] at h
  induction hspells with
  | gap => cases h
  | word _ hw _ _ ih =>
    rcases List.mem_cons.mp h with rfl | h
    · exact hw
    · exact ih h

theorem words_append_gap_append {gap : List Char} (hgap : IsGap gap) (hne : gap ≠ [])
    (cs ds : List Char) : words (cs ++ gap ++ ds) = words cs ++ words ds := by
  obtain ⟨c, rest, rfl⟩ := List.exists_cons_of_ne_nil hne
  rw [IsGap, List.forall_mem_cons] at hgap
  rw [List.append_assoc, List.cons_append, words_append_cons hgap.1, words_append_gap hgap.2]

/-! ## Putting together -/

def spaced (items : List (List Char × List Char)) (trail : List Char) : List Char :=
  items.flatMap (fun item => item.1 ++ item.2) ++ trail

variable {items : List (List Char × List Char)} {trail : List Char}

theorem endsWord_spaced (hitems : ∀ item ∈ items, IsGap item.1 ∧ item.1 ≠ [])
    (htrail : IsGap trail) : EndsWord (spaced items trail) := by
  intro c hc
  cases items with
  | nil => exact htrail c (List.mem_of_mem_head? hc)
  | cons item items =>
    obtain ⟨hgap, hne⟩ := hitems item List.mem_cons_self
    obtain ⟨d, gap, hcons⟩ := List.exists_cons_of_ne_nil hne
    rw [hcons] at hgap
    simp only [spaced, List.flatMap_cons, hcons, List.cons_append, List.head?_cons] at hc
    cases hc
    exact hgap c List.mem_cons_self

theorem spells_spaced
    (hitems : ∀ item ∈ items, (IsGap item.1 ∧ item.1 ≠ []) ∧ IsWord item.2)
    (htrail : IsGap trail) : Spells (items.map Prod.snd) (spaced items trail) := by
  induction items with
  | nil => exact .gap htrail
  | cons item items ih =>
    obtain ⟨⟨⟨hgap, -⟩, hw⟩, hitems⟩ := List.forall_mem_cons.mp hitems
    have hend := endsWord_spaced (fun item h => (hitems item h).1) htrail
    have h := Spells.word hgap hw hend (ih hitems)
    simpa [spaced] using h

/-- Words with gaps between them are read back, whatever gaps there are at the ends. -/
theorem words_spaced {lead w : List Char} (hlead : IsGap lead) (hw : IsWord w)
    (hitems : ∀ item ∈ items, (IsGap item.1 ∧ item.1 ≠ []) ∧ IsWord item.2)
    (htrail : IsGap trail) :
    words (lead ++ w ++ spaced items trail) = w :: items.map Prod.snd :=
  (Spells.word hlead hw (endsWord_spaced (fun item h => (hitems item h).1) htrail)
    (spells_spaced hitems htrail)).words_eq

/-! ## Places -/

theorem IsWord.exists_eq_cons {w : List Char} (hw : IsWord w) :
    ∃ c cs, w = c :: cs ∧ isBlank c = false := by
  obtain ⟨c, cs, rfl⟩ := List.exists_cons_of_ne_nil hw.ne_nil
  exact ⟨c, cs, rfl, hw.not_blank c List.mem_cons_self⟩

theorem IsWord.append_inj {v w r s : List Char} (hv : IsWord v) (hw : IsWord w) (hr : EndsWord r)
    (hs : EndsWord s) (h : v ++ r = w ++ s) : v = w ∧ r = s := by
  have hwords : v :: words r = w :: words s := by
    rw [← hv.words_append hr, h, hw.words_append hs]
  obtain ⟨rfl, -⟩ := List.cons.inj hwords
  exact ⟨rfl, List.append_cancel_left h⟩

def Place.behind (front : List Char) (p : Place) : Place := { p with before := front ++ p.before }

theorem not_isRun_of_isGap {gap : List Char} (hgap : IsGap gap) (p : Place) : ¬ p.IsRun gap := by
  intro h
  obtain ⟨c, cs, htext, hc⟩ := h.isWord.exists_eq_cons
  have hmem : c ∈ gap := by
    rw [h.eq_append, htext]
    simp
  rw [hgap c hmem] at hc
  cases hc

theorem Place.IsRun.before_ne_nil {cs : List Char} {p : Place} (h : p.IsRun cs)
    (hend : EndsWord cs) : p.before ≠ [] := by
  intro hbefore
  obtain ⟨c, ds, htext, hc⟩ := h.isWord.exists_eq_cons
  have hblank : isBlank c = true := hend c (by rw [h.eq_append, hbefore, htext]; rfl)
  rw [hblank] at hc
  cases hc

variable {lead w rest : List Char}

theorem isRun_first (hlead : IsGap lead) (hw : IsWord w) (hend : EndsWord rest) :
    (Place.mk lead w rest).IsRun (lead ++ w ++ rest) where
  eq_append := List.append_assoc lead w rest
  isWord := hw
  before := fun c hc => hlead c (List.mem_of_getLast? hc)
  after := hend

theorem Place.IsRun.behind {q : Place} (h : q.IsRun rest) (hend : EndsWord rest)
    (front : List Char) : (q.behind front).IsRun (front ++ rest) where
  eq_append := by
    rw [Place.behind, List.append_assoc, ← h.eq_append]
  isWord := h.isWord
  before := by
    intro c hc
    rw [Place.behind, List.getLast?_append_of_ne_nil _ (h.before_ne_nil hend)] at hc
    exact h.before c hc
  after := h.after

theorem isRun_append_iff (hlead : IsGap lead) (hw : IsWord w) (hend : EndsWord rest) (p : Place) :
    p.IsRun (lead ++ w ++ rest) ↔
      p = ⟨lead, w, rest⟩ ∨ ∃ q : Place, q.IsRun rest ∧ q.behind (lead ++ w) = p := by
  constructor
  · intro h
    obtain ⟨before, text, after⟩ := p
    obtain ⟨heq, htext, hbefore, hafter⟩ := h
    simp only at heq htext hbefore hafter
    rw [List.append_assoc] at heq
    -- Where the run starts: in the gap, in the word or behind it.
    rcases List.append_eq_append_iff.mp heq with ⟨x, rfl, hx⟩ | ⟨y, rfl, hy⟩
    · rcases List.append_eq_append_iff.mp hx with ⟨y, rfl, hy⟩ | ⟨z, rfl, hz⟩
      · refine .inr ⟨⟨y, text, after⟩, ⟨hy, htext, fun c hc => ?_, hafter⟩, ?_⟩
        · refine hbefore c ?_
          rw [← List.append_assoc, List.getLast?_append, hc]
          rfl
        · rw [Place.behind, List.append_assoc]
      · cases x.eq_nil_or_concat with
        | inl hnil =>
          subst hnil
          obtain ⟨rfl, rfl⟩ := htext.append_inj hw hafter hend hz
          rw [List.append_nil, List.nil_append]
          exact .inl rfl
        | inr hconcat =>
          obtain ⟨x, c, rfl⟩ := hconcat
          have hc := hw.not_blank c (by simp)
          rw [hbefore c (by simp)] at hc
          cases hc
    · cases y with
      | nil =>
        obtain ⟨rfl, rfl⟩ := htext.append_inj hw hafter hend hy
        rw [List.append_nil]
        exact .inl rfl
      | cons c y =>
        obtain ⟨d, ds, rfl, hd⟩ := htext.exists_eq_cons
        rw [List.cons_append, List.cons_append, List.cons.injEq] at hy
        rw [hy.1, hlead c (by simp)] at hd
        cases hd
  · rintro (rfl | ⟨q, hq, rfl⟩)
    · exact isRun_first hlead hw hend
    · exact hq.behind hend (lead ++ w)

/-- The words of a text are its runs, in the order of their places. -/
theorem exists_runs (cs : List Char) :
    ∃ places : List Place, places.map Place.text = words cs
      ∧ places.Pairwise (fun p q => p.before.length < q.before.length)
      ∧ ∀ p, p ∈ places ↔ p.IsRun cs := by
  obtain ⟨ws, h⟩ := exists_spells cs
  rw [h.words_eq]
  induction h with
  | gap h => exact ⟨[], rfl, .nil, fun p => by simp [not_isRun_of_isGap h]⟩
  | @word lead w rest ws hlead hw hend _ ih =>
    obtain ⟨places, htexts, hordered, hruns⟩ := ih
    refine ⟨⟨lead, w, rest⟩ :: places.map (Place.behind (lead ++ w)), ?_, ?_, fun p => ?_⟩
    · rw [List.map_cons, List.map_map, ← htexts]
      rfl
    · rw [List.pairwise_cons, List.pairwise_map]
      refine ⟨fun p hp => ?_, hordered.imp fun hpq => ?_⟩
      · obtain ⟨q, -, rfl⟩ := List.mem_map.mp hp
        have hlength := List.length_pos_of_ne_nil hw.ne_nil
        simp only [Place.behind, List.length_append]
        omega
      · simpa [Place.behind] using hpq
    · rw [isRun_append_iff hlead hw hend, List.mem_cons, List.mem_map]
      simp only [hruns]

end ScopeGate.Text
