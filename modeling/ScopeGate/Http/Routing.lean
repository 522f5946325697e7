import ScopeGate.Http.Pattern

/-!
# Routing

Of several ways, each a pattern and what it leads to, a path takes the one that it finds when it is
followed from its start. The ways run together as long as all continue with the same character.
Where they fork, those with the next character of the path come first; only a path that goes astray
on them takes the way on which something stands for a part of it.

A path that would arrive with one slash more or less at its end is refused as soon as that shows,
and no less definite way is tried for it. The same holds where nothing but a slash is left of it.

`leadsTo?` gives what a path leads to, and its pattern fits the path, see `exists_fits_of_leadsTo?`.
-/

namespace ScopeGate.Http

abbrev Way (α : Type) := Pattern × α

namespace Way

variable {α : Type}

inductive Result (α : Type) where
  | arrived (a : α)
  /-- The path does not continue, but a less definite way may be tried. -/
  | astray
  | refused

def here? (ways : List (Way α)) : Option α :=
  ways.findSome? fun w => if w.1.isEmpty then some w.2 else none

def after (piece : Piece) (ways : List (Way α)) : List (Way α) :=
  ways.filterMap fun w =>
    match w.1 with
    | [] => none
    | p :: ps => if p = piece then some (ps, w.2) else none

/-- The character with which all ways continue. There is none where they fork. -/
def common? : List (Way α) → Option Char
  | (.char c :: _, _) :: ways =>
    if ways.all fun w => w.1.head? = some (.char c) then some c else none
  | _ => none

def isOpen (ways : List (Way α)) : Bool :=
  ways.any fun w => w.1.head? = some .segment || w.1.head? = some .rest

/-- What comes of a path that does not continue, of which nothing but a slash was left at the last
fork or more than that. -/
def lost (isSlash : Bool) : Result α := if isSlash then .refused else .astray

def endsWithSlash (ways : List (Way α)) : Bool := (here? (after (.char '/') ways)).isSome

/-- Whether a way ends here, while those with a slash run on together. -/
def endsWithoutSlash (ways : List (Way α)) : Bool :=
  (here? ways).isSome && (common? (after (.char '/') ways)).isSome

def behindSlash? : List Char → Option (List Char)
  | [] => none
  | c :: cs => if c = '/' then some cs else behindSlash? cs

theorem length_lt_of_behindSlash? {cs ds : List Char} (h : behindSlash? cs = some ds) :
    ds.length < cs.length := by
  induction cs with
  | nil => cases h
  | cons c cs ih =>
    rw [behindSlash?] at h
    split at h
    · cases h
      simp
    · exact Nat.lt_succ_of_lt (ih h)

/-- Follows a path, of which nothing but a slash was left at the last fork or more than that. -/
def follow (isSlash : Bool) (ways : List (Way α)) (cs : List Char) : Result α :=
  if ways.isEmpty then lost isSlash
  else
    match common? ways, cs with
    | some c, [] => if c = '/' && endsWithSlash ways then .refused else lost isSlash
    | some c, d :: ds => if c = d then follow isSlash (after (.char c) ways) ds else lost isSlash
    | none, [] => ((here? ways).map .arrived).getD (lost isSlash)
    | none, d :: ds =>
      let isSlash := d == '/' && ds.isEmpty
      let definite := after (.char d) ways
      let result :=
        if definite.isEmpty && isOpen ways then .astray
        else if isSlash && endsWithoutSlash ways then .refused
        else follow isSlash definite ds
      match result with
      | .arrived a => .arrived a
      | .refused => .refused
      | .astray =>
        let others := after .segment ways
        match here? (after .rest ways), h : behindSlash? (d :: ds) with
        | some a, _ => .arrived a
        | none, none =>
          match here? others with
          | some a => .arrived a
          | none => if endsWithSlash others then .refused else .astray
        | none, some rest =>
          have := length_lt_of_behindSlash? h
          if !isOpen ways then .astray
          else if rest.isEmpty && endsWithoutSlash others then .refused
          else follow rest.isEmpty (after (.char '/') others) rest
termination_by cs.length
decreasing_by
  · exact Nat.lt_succ_self _
  · exact Nat.lt_succ_self _
  · exact this

def leadsTo? (ways : List (Way α)) (path : List Char) : Option α :=
  match follow false ways path with
  | .arrived a => some a
  | _ => none

theorem mem_of_mem_after {piece : Piece} {ways : List (Way α)} {p : Pattern} {a : α}
    (h : (p, a) ∈ after piece ways) : (piece :: p, a) ∈ ways := by
  obtain ⟨⟨q, b⟩, hq, he⟩ := List.mem_filterMap.mp h
  cases q with
  | nil => cases he
  | cons x q =>
    simp only at he
    split at he
    · cases he
      simp_all
    · cases he

theorem mem_of_here? {ways : List (Way α)} {a : α} (h : here? ways = some a) :
    ([], a) ∈ ways := by
  obtain ⟨⟨q, b⟩, hq, he⟩ := List.exists_of_findSome?_eq_some h
  cases q with
  | nil => simp_all
  | cons x q => simp at he

theorem dropWhile_of_behindSlash? {cs ds : List Char} (h : behindSlash? cs = some ds) :
    cs.dropWhile (· != '/') = '/' :: ds := by
  induction cs with
  | nil => cases h
  | cons c cs ih =>
    rw [behindSlash?] at h
    split at h
    · next hc =>
      cases h
      simp [hc]
    · next hc => simp [hc, ih h]

theorem dropWhile_of_behindSlash?_eq_none {cs : List Char} (h : behindSlash? cs = none) :
    cs.dropWhile (· != '/') = [] := by
  induction cs with
  | nil => rfl
  | cons c cs ih =>
    rw [behindSlash?] at h
    split at h
    · cases h
    · next hc => simp [hc, ih h]

theorem lost_ne_arrived {isSlash : Bool} {a : α} : lost isSlash ≠ .arrived a := by
  cases isSlash <;> simp [lost]

def Fits (ways : List (Way α)) (cs : List Char) (a : α) : Prop :=
  ∃ p, (p, a) ∈ ways ∧ p.fits cs = true

theorem Fits.of_here? {ways : List (Way α)} {a : α} (h : here? ways = some a) : Fits ways [] a :=
  ⟨[], mem_of_here? h, rfl⟩

theorem Fits.char {ways : List (Way α)} {c : Char} {cs : List Char} {a : α}
    (h : Fits (after (.char c) ways) cs a) : Fits ways (c :: cs) a :=
  let ⟨p, hp, hf⟩ := h
  ⟨.char c :: p, mem_of_mem_after hp, by simpa [Pattern.fits] using hf⟩

theorem Fits.segment {ways : List (Way α)} {c : Char} {cs : List Char} {a : α}
    (h : Fits (after .segment ways) ((c :: cs).dropWhile (· != '/')) a) : Fits ways (c :: cs) a :=
  let ⟨p, hp, hf⟩ := h
  ⟨.segment :: p, mem_of_mem_after hp, by simpa [Pattern.fits] using hf⟩

theorem Fits.rest {ways : List (Way α)} {c : Char} {cs : List Char} {a : α}
    (h : here? (after .rest ways) = some a) : Fits ways (c :: cs) a :=
  ⟨[.rest], mem_of_mem_after (mem_of_here? h), rfl⟩

theorem fits_of_follow {isSlash : Bool} {ways : List (Way α)} {cs : List Char} {a : α}
    (h : follow isSlash ways cs = .arrived a) : Fits ways cs a := by
  fun_induction follow isSlash ways cs with
  | case1 | case3 | case5 => exact absurd h lost_ne_arrived
  | case2 | case8 | case11 | case12 | case13 | case14 => cases h
  | case4 _ _ _ _ _ _ ih => exact (ih h).char
  | case6 _ ways _ _ =>
    cases hw : here? ways with
    | none => exact absurd (by simpa [hw] using h) lost_ne_arrived
    | some b =>
      simp only [hw, Option.map_some, Option.getD_some, Result.arrived.injEq] at h
      exact .of_here? (h ▸ hw)
  | case7 _ _ _ _ _ _ _ _ result b hb ih =>
    obtain rfl : b = a := by simpa using h
    refine (ih ?_).char
    dsimp only [result] at hb
    split at hb
    · cases hb
    · split at hb
      · cases hb
      · exact hb
  | case9 _ _ _ _ _ _ _ _ _ _ b hb _ =>
    obtain rfl : b = a := by simpa using h
    exact .rest hb
  | case10 _ _ _ _ _ _ _ _ _ _ _ hs _ b hb _ =>
    obtain rfl : b = a := by simpa using h
    refine .segment ?_
    rw [dropWhile_of_behindSlash?_eq_none hs]
    exact .of_here? hb
  | case15 _ _ _ _ _ _ _ _ _ _ _ _ hs _ _ _ _ _ ih =>
    refine .segment ?_
    rw [dropWhile_of_behindSlash? hs]
    exact (ih h).char

/-- What a path leads to stands under a pattern that fits it. -/
theorem exists_fits_of_leadsTo? {ways : List (Way α)} {path : List Char} {a : α}
    (h : leadsTo? ways path = some a) : ∃ p, (p, a) ∈ ways ∧ p.fits path = true := by
  rw [leadsTo?] at h
  split at h
  · next b hb =>
    cases h
    exact fits_of_follow hb
  · cases h

theorem follow_chars (isSlash : Bool) (cs : List Char) (a : α) :
    follow isSlash [(cs.map .char, a)] cs = .arrived a := by
  induction cs generalizing isSlash with
  | nil => rw [follow.eq_def]; rfl
  | cons c cs ih =>
    have hcommon : common? [(List.map Piece.char (c :: cs), a)] = some c := by simp [common?]
    have hafter : after (.char c) [(List.map Piece.char (c :: cs), a)] = [(cs.map .char, a)] := by
      simp [after]
    rw [follow.eq_def]
    simp only [List.isEmpty_cons, hcommon, hafter, ih, if_true, Bool.false_eq_true, if_false]

/-- A way alone, whose characters stand for themselves, is found at its own path. -/
theorem leadsTo?_chars (cs : List Char) (a : α) : leadsTo? [(cs.map .char, a)] cs = some a := by
  rw [leadsTo?, follow_chars]

example : leadsTo? [(.ofString "/a/:b", 1), (.ofString "/a/b", 2)] "/a/b".toList = some 2 := by
  cbv

example : leadsTo? [(.ofString "/a/b", 1), (.ofString "/*c", 2)] "/a/".toList = some 2 := by cbv

example : leadsTo? [(.ofString "/a", 1), (.ofString "/*c", 2)] "/a/".toList = none := by cbv

end Way

end ScopeGate.Http
