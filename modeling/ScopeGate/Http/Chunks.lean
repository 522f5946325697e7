import ScopeGate.Http.Head

/-!
# Bodies in chunks

A body whose length is not known beforehand comes in chunks. Each follows a line with its length in
base sixteen, perhaps with an extension after a semicolon, and ends with a line break of its own. A
chunk of length zero ends the body; fields may follow it, up to an empty line. Line breaks are a
carriage return and a line feed.

`joinChunks?` gives the body, if it is complete and follows these rules.
-/

namespace ScopeGate.Http

/-- The greatest number of octets that the extensions of all chunks of a body may take. -/
def maxExtension : Nat := 16383

def afterBreak? : Octets → Option Octets
  | 0x0D :: 0x0A :: os => some os
  | _ => none

theorem length_lt_of_afterBreak? {os rest : Octets} (h : afterBreak? os = some rest) :
    rest.length < os.length := by
  rw [afterBreak?.eq_def] at h
  split at h
  · cases h
    simp only [List.length_cons]
    omega
  · cases h

/-- The line in front of a chunk: the length of the chunk, the number of octets of the extension,
and what follows the line. -/
def chunkLine? (os : Octets) : Option (Nat × Nat × Octets) := do
  let digits := os.takeWhile fun b => (Text.hexOctet? b).isSome
  let line := (os.drop digits.length).takeWhile (· != 0x0D)
  let rest ← afterBreak? (os.drop (digits.length + line.length))
  let length ← Text.numeralIn? 16 (Head.latin digits).toList
  if digits.isEmpty || UInt64.size ≤ length then none
  else
    match line.dropWhile isPadding with
    | [] => some (length, 0, rest)
    | 0x3B :: extension =>
      if extension.contains 0x0A then none else some (length, extension.length, rest)
    | _ => none

theorem length_lt_of_chunkLine? {os rest : Octets} {length extension : Nat}
    (h : chunkLine? os = some (length, extension, rest)) : rest.length < os.length := by
  simp only [chunkLine?, Option.bind_eq_bind, Option.bind_eq_some_iff] at h
  obtain ⟨behind, hb, n, _, h⟩ := h
  have hl := length_lt_of_afterBreak? hb
  rw [List.length_drop] at hl
  have : rest = behind := by
    split at h
    · cases h
    · split at h
      · cases h
        rfl
      · split at h
        · cases h
        · cases h
          rfl
      · cases h
  rw [this]
  omega

/-- Whether the fields after the last chunk come to an end, read from inside a line or from its
start. -/
def endsWell (isInLine : Bool) : Octets → Bool
  | [] => false
  | 0x0D :: 0x0A :: os => !isInLine || endsWell false os
  | 0x0D :: _ => false
  | _ :: os => endsWell true os

/-- The body that comes in chunks, where `room` octets are left for extensions. -/
def joinChunks? (room : Nat) (os : Octets) : Option Octets :=
  match h : chunkLine? os with
  | none => none
  | some (length, extension, rest) =>
    if room < extension then none
    else if length = 0 then if endsWell false rest then some [] else none
    else
      match h' : afterBreak? (rest.drop length) with
      | none => none
      | some more =>
        have : more.length < os.length := by
          have := length_lt_of_chunkLine? h
          have := length_lt_of_afterBreak? h'
          rw [List.length_drop] at this
          omega
        (joinChunks? (room - extension) more).map (rest.take length ++ ·)
termination_by os.length

example : joinChunks? 2 (.ofString "3;x\r\nabc\r\n0\r\n\r\n") = some (.ofString "abc") := by cbv

example : joinChunks? 0 (.ofString "3;x\r\nabc\r\n0\r\n\r\n") = none := by cbv

example : joinChunks? 0 (.ofString "3\r\nabc\r\n") = none := by cbv

end ScopeGate.Http
