/-!
# String literals

The text between the quotes of a JSON string, both ways. Writing escapes the
quote, the backslash and the control characters and leaves everything else as it
is. Reading goes in two steps: `pieces?` cuts the text up to the closing quote
into characters and the 16-bit units written as `\uXXXX`, and `join?` puts two
units that form a pair together. A unit that needs a partner and has none makes
the literal invalid, as do raw control characters and unknown escapes.

> `decode?_encode`: what is written reads back, whatever text follows it.
-/

namespace SearchRules.StringLiteral

/-- The characters below the space, which a literal may not hold as they are. -/
def isControl (c : Char) : Bool := c.toNat < 32

/-- One character inside the quotes. -/
def escapeChar (c : Char) : List Char :=
  if c = '\"' then ['\\', '\"']
  else if c = '\\' then ['\\', '\\']
  else if c = '\x08' then ['\\', 'b']
  else if c = '\x0c' then ['\\', 'f']
  else if c = '\n' then ['\\', 'n']
  else if c = '\r' then ['\\', 'r']
  else if c = '\t' then ['\\', 't']
  else if isControl c then
    ['\\', 'u', '0', '0', Nat.digitChar (c.toNat / 16), Nat.digitChar (c.toNat % 16)]
  else [c]

/-- A string between quotes. -/
def encode (s : List Char) : List Char := '\"' :: (s.flatMap escapeChar ++ ['\"'])

/-- What the text of a literal is made of. -/
inductive Piece where
  /-- A character, as it is or by a short escape. -/
  | char (c : Char)
  /-- A 16-bit unit, by its four hexadecimal digits. -/
  | unit (u : Nat)
deriving DecidableEq

/-- The character that a backslash and `c` stand for. -/
def shortEscape? (c : Char) : Option Char :=
  match c with
  | '\"' => some '\"'
  | '\\' => some '\\'
  | '/' => some '/'
  | 'b' => some '\x08'
  | 'f' => some '\x0c'
  | 'n' => some '\n'
  | 'r' => some '\r'
  | 't' => some '\t'
  | _ => none

/-- The value of a hexadecimal digit of either case. -/
def hexDigit? (c : Char) : Option Nat :=
  if '0' ≤ c ∧ c ≤ '9' then some (c.toNat - '0'.toNat)
  else if 'a' ≤ c ∧ c ≤ 'f' then some (c.toNat - 'a'.toNat + 10)
  else if 'A' ≤ c ∧ c ≤ 'F' then some (c.toNat - 'A'.toNat + 10)
  else none

/-- The unit of four hexadecimal digits. -/
def unit? (a b c d : Char) : Option Nat := do
  let a ← hexDigit? a
  let b ← hexDigit? b
  let c ← hexDigit? c
  let d ← hexDigit? d
  some (((a * 16 + b) * 16 + c) * 16 + d)

/-- The pieces up to the closing quote, and the text after it. -/
def pieces? : List Char → Option (List Piece × List Char)
  | [] => none
  | '\\' :: 'u' :: a :: b :: c :: d :: rest => do
    let u ← unit? a b c d
    let (ps, rest) ← pieces? rest
    some (.unit u :: ps, rest)
  | '\\' :: c :: rest => do
    let c ← shortEscape? c
    let (ps, rest) ← pieces? rest
    some (.char c :: ps, rest)
  | c :: rest =>
    if c = '\"' then some ([], rest)
    else if isControl c then none
    else do
      let (ps, rest) ← pieces? rest
      some (.char c :: ps, rest)

/-- A unit that opens a pair. -/
def isHigh (u : Nat) : Bool := 0xD800 ≤ u && u < 0xDC00

/-- A unit that closes a pair. -/
def isLow (u : Nat) : Bool := 0xDC00 ≤ u && u < 0xE000

/-- The character of a pair of units. -/
def pairChar (high low : Nat) : Char :=
  Char.ofNat (0x10000 + (high - 0xD800) * 0x400 + (low - 0xDC00))

/-- The characters that pieces stand for, unless a unit lacks its partner. -/
def join? : List Piece → Option (List Char)
  | [] => some []
  | .char c :: ps => (join? ps).map (c :: ·)
  | .unit u :: .unit v :: ps =>
    if isHigh u && isLow v then (join? ps).map (pairChar u v :: ·)
    else if isHigh u || isLow u then none
    else (join? (.unit v :: ps)).map (Char.ofNat u :: ·)
  | .unit u :: ps =>
    if isHigh u || isLow u then none else (join? ps).map (Char.ofNat u :: ·)

/-- The characters of a literal whose opening quote has been read, and the text
after its closing quote. -/
def decode? (cs : List Char) : Option (List Char × List Char) := do
  let (ps, rest) ← pieces? cs
  let s ← join? ps
  some (s, rest)

theorem length_lt_of_pieces? {cs rest : List Char} {ps : List Piece}
    (h : pieces? cs = some (ps, rest)) : rest.length < cs.length := by
  -- along the reader: an escape takes two characters or six, any other piece one
  fun_induction pieces? cs generalizing ps rest with
  | case1 => simp at h
  | case2 a b c d tail ih =>
    simp only [Option.bind_eq_bind, Option.bind_eq_some_iff] at h
    obtain ⟨_, _, ⟨qs, tail'⟩, hq, he⟩ := h
    simp only [Option.some.injEq, Prod.mk.injEq] at he
    have := ih hq
    simp only [List.length_cons, ← he.2]
    omega
  | case3 c tail _ ih =>
    simp only [Option.bind_eq_bind, Option.bind_eq_some_iff] at h
    obtain ⟨_, _, ⟨qs, tail'⟩, hq, he⟩ := h
    simp only [Option.some.injEq, Prod.mk.injEq] at he
    have := ih hq
    simp only [List.length_cons, ← he.2]
    omega
  | case4 tail =>
    simp only [Option.some.injEq, Prod.mk.injEq] at h
    simp [← h.2]
  | case5 => simp at h
  | case6 c tail _ _ _ _ ih =>
    simp only [Option.bind_eq_bind, Option.bind_eq_some_iff] at h
    obtain ⟨⟨qs, tail'⟩, hq, he⟩ := h
    simp only [Option.some.injEq, Prod.mk.injEq] at he
    have := ih hq
    simp only [List.length_cons, ← he.2]
    omega

theorem length_lt_of_decode? {cs s rest : List Char}
    (h : decode? cs = some (s, rest)) : rest.length < cs.length := by
  simp only [decode?, Option.bind_eq_bind, Option.bind_eq_some_iff] at h
  obtain ⟨⟨ps, tail⟩, hp, s', _, he⟩ := h
  simp only [Option.some.injEq, Prod.mk.injEq] at he
  exact he.2 ▸ length_lt_of_pieces? hp

/-! ## What is written reads back -/

/-- The piece that a character is written as. -/
def pieceOf (c : Char) : Piece :=
  if isControl c ∧ c ≠ '\x08' ∧ c ≠ '\x0c' ∧ c ≠ '\n' ∧ c ≠ '\r' ∧ c ≠ '\t' then
    .unit c.toNat
  else .char c

/-- A control character is written with two zeros and two hexadecimal digits, and they
read back as its code. -/
theorem unit?_of_control :
    ∀ n < 32, unit? '0' '0' (Nat.digitChar (n / 16)) (Nat.digitChar (n % 16)) = some n := by
  decide

/-- Whichever way a character is escaped, it is read as one piece. -/
theorem pieces?_escapeChar_append (c : Char) (cs : List Char) :
    pieces? (escapeChar c ++ cs) =
      (pieces? cs).map fun (ps, rest) => (pieceOf c :: ps, rest) := by
  by_cases hq : c = '\"'
  · subst hq
    simp [escapeChar, pieces?, shortEscape?, pieceOf, isControl]
    cases pieces? cs <;> rfl
  by_cases hs : c = '\\'
  · subst hs
    simp [escapeChar, pieces?, shortEscape?, pieceOf, isControl]
    cases pieces? cs <;> rfl
  -- the five that have a letter of their own
  by_cases hshort : c = '\x08' ∨ c = '\x0c' ∨ c = '\n' ∨ c = '\r' ∨ c = '\t'
  · rcases hshort with h | h | h | h | h <;> subst h <;>
      simp [escapeChar, pieces?, shortEscape?, pieceOf] <;>
      cases pieces? cs <;> rfl
  simp only [not_or] at hshort
  obtain ⟨h1, h2, h3, h4, h5⟩ := hshort
  -- the other control characters go by their code, and everything else by itself
  by_cases hc : isControl c = true
  · have hlt : c.toNat < 32 := by simpa [isControl] using hc
    simp only [escapeChar, hq, hs, h1, h2, h3, h4, h5, hc, if_false, if_true, pieceOf, ne_eq,
      not_false_eq_true, and_self, List.cons_append, List.nil_append, pieces?,
      unit?_of_control _ hlt]
    cases pieces? cs <;> rfl
  · simp only [Bool.not_eq_true] at hc
    simp only [escapeChar, hq, hs, h1, h2, h3, h4, h5, hc, Bool.false_eq_true, if_false, pieceOf,
      false_and, List.cons_append, List.nil_append]
    rw [pieces?]
    · simp only [hq, hc, Bool.false_eq_true, if_false]
      cases pieces? cs <;> rfl
    · intro a b d e f h
      exact absurd h hs
    · intro a b h
      exact absurd h hs

/-- A string is read piece by piece, up to the quote behind it. -/
theorem pieces?_flatMap_escapeChar (s cs : List Char) :
    pieces? (s.flatMap escapeChar ++ '\"' :: cs) = some (s.map pieceOf, cs) := by
  induction s with
  | nil => simp [pieces?]
  | cons c s ih =>
    rw [List.flatMap_cons, List.append_assoc, pieces?_escapeChar_append, ih]
    rfl

/-- The piece of a character is never half of a surrogate pair. -/
theorem join?_pieceOf_cons (c : Char) (ps : List Piece) :
    join? (pieceOf c :: ps) = (join? ps).map (c :: ·) := by
  unfold pieceOf
  split
  · next h =>
    have hlt : c.toNat < 32 := by simpa [isControl] using h.1
    -- a code below thirty-two is no half of a surrogate pair
    have hhigh : isHigh c.toNat = false := by
      simp only [isHigh, Bool.and_eq_false_iff, decide_eq_false_iff_not]
      omega
    have hlow : isLow c.toNat = false := by
      simp only [isLow, Bool.and_eq_false_iff, decide_eq_false_iff_not]
      omega
    cases ps with
    | nil => simp [join?, hhigh, hlow, Char.ofNat_toNat]
    | cons p ps =>
      cases p <;> simp [join?, hhigh, hlow, Char.ofNat_toNat]
  · simp only [join?]

theorem join?_map_pieceOf (s : List Char) : join? (s.map pieceOf) = some s := by
  induction s with
  | nil => rfl
  | cons c s ih => rw [List.map_cons, join?_pieceOf_cons, ih, Option.map_some]

/-- A string is decoded from its literal, whatever follows it. -/
theorem decode?_encode (s cs : List Char) :
    decode? (s.flatMap escapeChar ++ '\"' :: cs) = some (s, cs) := by
  simp [decode?, pieces?_flatMap_escapeChar, join?_map_pieceOf]

end SearchRules.StringLiteral
