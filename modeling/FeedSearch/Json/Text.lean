-- Strings of JSON: the escapes, read by a strict reader that wants the text and
-- by a lenient one that only wants to get past it.
import FeedSearch.Json.Fault
import FeedSearch.Text.Ascii
import FeedSearch.Text.Utf8

namespace FeedSearch.Json

/-! ## Escapes -/

/-- The character that a one-letter escape stands for. -/
def shortEscape? : Char → Option Char
  | '"' => some '"'
  | '\\' => some '\\'
  | '/' => some '/'
  | 'b' => some '\x08'
  | 'f' => some '\x0c'
  | 'n' => some '\n'
  | 'r' => some '\r'
  | 't' => some '\t'
  | _ => none

def isControl (c : Char) : Bool := c.toNat < 0x20

/-- Four hexadecimal digits from the front, read by octets: a text of less than four octets has
ended, and a character of several octets is no digit. -/
def fourDigits (offset : Nat) (s : List Char) : Except Fault (Nat × Nat × List Char) :=
  match s with
  | a :: b :: c :: d :: rest =>
    match Text.hexValue? a, Text.hexValue? b, Text.hexValue? c, Text.hexValue? d with
    | some a, some b, some c, some d => .ok (((a * 16 + b) * 16 + c) * 16 + d, offset + 4, rest)
    | _, _, _, _ => .error ⟨.badEscape, offset + 4⟩
  | _ =>
    if Text.Utf8.size s < 4 then .error ⟨.endInString, offset + Text.Utf8.size s⟩
    else .error ⟨.badEscape, offset + 4⟩

theorem length_fourDigits {offset n next : Nat} {s rest : List Char}
    (h : fourDigits offset s = .ok (n, next, rest)) : rest.length < s.length := by
  simp only [fourDigits] at h
  split at h
  · split at h
    · simp only [Except.ok.injEq, Prod.mk.injEq] at h
      obtain ⟨_, _, rfl⟩ := h
      simp only [List.length_cons]
      omega
    · cases h
  · split at h <;> cases h

/-! ## The strict reader -/

/-- What a character or an escape gives: its character, the offset after it, the rest. -/
abbrev Piece := Except Fault (Char × Nat × List Char)

/-- The second half of a pair of surrogates, after the first. -/
def lowSurrogate (first offset : Nat) (s : List Char) : Piece :=
  match s with
  | [] => .error ⟨.endInString, offset⟩
  | '\\' :: [] => .error ⟨.endInString, offset + 1⟩
  | '\\' :: 'u' :: rest =>
    match fourDigits (offset + 2) rest with
    | .error f => .error f
    | .ok (n, next, rest) =>
      if 0xDC00 ≤ n ∧ n ≤ 0xDFFF then
        .ok (Char.ofNat (0x10000 + (first - 0xD800) * 0x400 + (n - 0xDC00)), next, rest)
      else .error ⟨.loneSurrogate, next⟩
  | '\\' :: _ => .error ⟨.escapePairExpected, offset + 2⟩
  | _ => .error ⟨.escapePairExpected, offset + 1⟩

/-- An escape by code unit, after its `u`. -/
def unitEscape (offset : Nat) (s : List Char) : Piece :=
  match fourDigits offset s with
  | .error f => .error f
  | .ok (n, next, rest) =>
    if 0xDC00 ≤ n ∧ n ≤ 0xDFFF then .error ⟨.loneSurrogate, next⟩
    else if 0xD800 ≤ n ∧ n ≤ 0xDBFF then lowSurrogate n next rest
    else .ok (Char.ofNat n, next, rest)

/-- An escape, after its backslash. -/
def escape (offset : Nat) (s : List Char) : Piece :=
  match s with
  | [] => .error ⟨.endInString, offset⟩
  | 'u' :: rest => unitEscape (offset + 1) rest
  | c :: rest =>
    match shortEscape? c with
    | some d => .ok (d, offset + 1, rest)
    | none => .error ⟨.badEscape, offset + 1⟩

/-- One character of a string from the front. -/
def piece (offset : Nat) (c : Char) (rest : List Char) : Piece :=
  if c == '\\' then escape (offset + 1) rest
  else if isControl c then .error ⟨.controlCharacter, offset + 1⟩
  else .ok (c, offset + c.utf8Size, rest)

theorem length_lowSurrogate {first offset next : Nat} {s rest : List Char} {c : Char}
    (h : lowSurrogate first offset s = .ok (c, next, rest)) : rest.length < s.length := by
  simp only [lowSurrogate] at h
  split at h <;> try cases h
  next s' =>
    split at h
    · cases h
    · next n nx r hr =>
      split at h
      · simp only [Except.ok.injEq, Prod.mk.injEq] at h
        obtain ⟨_, _, rfl⟩ := h
        have := length_fourDigits hr
        simp only [List.length_cons]
        omega
      · cases h

theorem length_unitEscape {offset next : Nat} {s rest : List Char} {c : Char}
    (h : unitEscape offset s = .ok (c, next, rest)) : rest.length < s.length := by
  simp only [unitEscape] at h
  split at h
  · cases h
  · next n nx r hr =>
    have h4 := length_fourDigits hr
    split at h
    · cases h
    · split at h
      · exact Nat.lt_trans (length_lowSurrogate h) h4
      · simp only [Except.ok.injEq, Prod.mk.injEq] at h
        obtain ⟨_, _, rfl⟩ := h
        exact h4

theorem length_escape {offset next : Nat} {s rest : List Char} {c : Char}
    (h : escape offset s = .ok (c, next, rest)) : rest.length < s.length := by
  simp only [escape] at h
  split at h
  · cases h
  · exact Nat.lt_succ_of_lt (length_unitEscape h)
  · split at h
    · simp only [Except.ok.injEq, Prod.mk.injEq] at h
      obtain ⟨_, _, rfl⟩ := h
      simp
    · cases h

theorem length_piece {offset next : Nat} {s rest : List Char} {c d : Char}
    (h : piece offset c s = .ok (d, next, rest)) : rest.length < (c :: s).length := by
  simp only [piece] at h
  split at h
  · exact Nat.lt_succ_of_lt (length_escape h)
  · split at h
    · cases h
    · simp only [Except.ok.injEq, Prod.mk.injEq] at h
      obtain ⟨_, _, rfl⟩ := h
      simp

/-- The text of a string, after its opening quote. -/
def strictText (offset : Nat) (s : List Char) : Except Fault (List Char) :=
  match s with
  | [] => .error ⟨.endInString, offset⟩
  | c :: rest =>
    if c == '"' then .ok []
    else match _read : piece offset c rest with
      | .error f => .error f
      | .ok (d, next, rest') => (strictText next rest').map (d :: ·)
termination_by s.length
decreasing_by exact length_piece ‹_›

/-! ## The lenient reader -/

/-- Gets past an escape, after its backslash: code units need not be characters. -/
def skipEscape (offset : Nat) (s : List Char) : Except Fault (Nat × List Char) :=
  match s with
  | [] => .error ⟨.endInString, offset⟩
  | 'u' :: rest => (fourDigits (offset + 1) rest).map fun r => (r.2.1, r.2.2)
  | c :: rest =>
    if (shortEscape? c).isSome then .ok (offset + 1, rest) else .error ⟨.badEscape, offset + 1⟩

theorem length_skipEscape {offset next : Nat} {s rest : List Char}
    (h : skipEscape offset s = .ok (next, rest)) : rest.length < s.length := by
  simp only [skipEscape] at h
  split at h
  · cases h
  · next s' =>
    match hf : fourDigits (offset + 1) s' with
    | .error f => rw [hf] at h; cases h
    | .ok (n, nx, r) =>
      rw [hf] at h
      simp only [Except.map, Except.ok.injEq, Prod.mk.injEq] at h
      obtain ⟨_, rfl⟩ := h
      exact Nat.lt_succ_of_lt (length_fourDigits hf)
  · split at h
    · simp only [Except.ok.injEq, Prod.mk.injEq] at h
      obtain ⟨_, rfl⟩ := h
      simp
    · cases h

/-- Gets past a string, after its opening quote: the offset after it and the rest. -/
def skipText (offset : Nat) (s : List Char) : Except Fault (Nat × List Char) :=
  match s with
  | [] => .error ⟨.endInString, offset⟩
  | c :: rest =>
    if c == '"' then .ok (offset + 1, rest)
    else if c == '\\' then
      match _read : skipEscape (offset + 1) rest with
      | .error f => .error f
      | .ok (next, rest') => skipText next rest'
    else if isControl c then .error ⟨.controlCharacter, offset⟩
    else skipText (offset + c.utf8Size) rest
termination_by s.length
decreasing_by
  · exact Nat.lt_succ_of_lt (length_skipEscape ‹_›)
  · simp

theorem length_skipText {offset next : Nat} {s rest : List Char}
    (h : skipText offset s = .ok (next, rest)) : rest.length < s.length := by
  fun_induction skipText offset s with
  | case1 => cases h
  | case2 =>
    simp only [Except.ok.injEq, Prod.mk.injEq] at h
    obtain ⟨_, rfl⟩ := h
    simp
  | case3 => cases h
  | case4 offset c s _ _ next' rest' hr ih =>
    have := length_skipEscape hr
    have := ih h
    simp only [List.length_cons]
    omega
  | case5 => cases h
  | case6 offset c s _ _ _ ih =>
    have := ih h
    simp only [List.length_cons]
    omega

end FeedSearch.Json
