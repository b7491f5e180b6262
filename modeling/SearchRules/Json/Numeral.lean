import SearchRules.Json.Basic

/-!
# Numerals

The text of a JSON number, both ways. A numeral is an optional minus sign, the
digits of the whole part without a needless zero in front, and perhaps a
fraction and an exponent; `Numeral.ofChars?` takes it apart and
`Numeral.number?` says what it stands for.

A numeral of digits alone is an integer if sixty-four bits hold it, with a sign
for a negative one and without for the others. All other numerals are doubles,
`-0` among them because no integer has a signed zero; one that would be infinite
stands for nothing. A double is read from the first digits that fit sixty-four
bits and the power of ten that goes with them (`Binary64.readDecimal?`), which is
not always the nearest double to the numeral.

> `Number.ofChars?_render_int`: an integer that is written reads back.
-/

namespace SearchRules

/-- The parts of the text of a number. -/
structure Numeral where
  /-- Whether a minus sign stands in front. -/
  negative : Bool
  /-- The digits before the point. -/
  whole : List Char
  /-- The digits after the point, if there is one. -/
  fraction : Option (List Char)
  /-- The exponent, if there is one. -/
  exponent : Option Int
deriving DecidableEq

namespace Numeral

/-- The natural number that decimal digits write. -/
def value (digits : List Char) : Nat := Nat.ofDigitChars 10 digits 0

/-- Take digits off the front; there must be at least one. -/
def digits? (cs : List Char) : Option (List Char × List Char) :=
  match cs.takeWhile Char.isDigit with
  | [] => none
  | ds => some (ds, cs.dropWhile Char.isDigit)

/-- Take a minus sign off the front, if there is one. -/
def sign : List Char → Bool × List Char
  | '-' :: rest => (true, rest)
  | cs => (false, cs)

/-- Take the whole part off the front: `0`, or digits that begin with another. -/
def whole? (cs : List Char) : Option (List Char × List Char) := do
  let (ds, rest) ← digits? cs
  if ds.head? = some '0' ∧ ds ≠ ['0'] then none else some (ds, rest)

/-- Take a point and digits off the front, if there is a point. -/
def fraction? : List Char → Option (Option (List Char) × List Char)
  | '.' :: rest => do
    let (ds, rest) ← digits? rest
    some (some ds, rest)
  | cs => some (none, cs)

/-- Read all that is left as an exponent, or as nothing if nothing is left. -/
def exponent? : List Char → Option (Option Int)
  | [] => some none
  | e :: rest =>
    if e = 'e' ∨ e = 'E' then
      let (negative, rest) := match rest with
        | '-' :: rest => (true, rest)
        | '+' :: rest => (false, rest)
        | rest => (false, rest)
      match digits? rest with
      | some (ds, []) => some (some (if negative then -(value ds : Int) else value ds))
      | _ => none
    else none

/-- Take the text of a number apart, if it is one. -/
def ofChars? (cs : List Char) : Option Numeral := do
  let (negative, cs) := sign cs
  let (whole, cs) ← whole? cs
  let (fraction, cs) ← fraction? cs
  let exponent ← exponent? cs
  some ⟨negative, whole, fraction, exponent⟩

/-- Take in digits on top of the number read so far, as long as sixty-four bits
hold it: the number, and how many digits were taken in. -/
def gather (sofar : Nat) : List Char → Nat × Nat
  | [] => (sofar, 0)
  | c :: rest =>
    let next := 10 * sofar + (c.toNat - '0'.toNat)
    if next ≤ 18446744073709551615 then
      let (digits, taken) := gather next rest
      (digits, taken + 1)
    else (sofar, 0)

/-- The numeral as a decimal, its sign left out, with as many digits as sixty-four
bits hold. Digits of the whole part that are left out still count as places; the
fraction begins with whatever number there is by then. -/
def decimal (n : Numeral) : Decimal :=
  let (whole, before) := gather 0 n.whole
  let (digits, after) := gather whole (n.fraction.getD [])
  ⟨digits, n.exponent.getD 0 + (n.whole.length - before : Nat) - after⟩

/-- The numeral as a double. -/
def float? (n : Numeral) : Option Number :=
  (Binary64.readDecimal? n.negative n.decimal).map .float

/-- The numeral as an integer: without fraction and exponent, in the range of
the integers, and not a negative zero. -/
def int? (n : Numeral) : Option Number :=
  if n.fraction.isSome ∨ n.exponent.isSome ∨ (n.negative ∧ value n.whole = 0) then none
  else Number.ofInt? (if n.negative then -(value n.whole : Int) else value n.whole)

/-- What a numeral stands for. -/
def number? (n : Numeral) : Option Number := n.int?.or n.float?

end Numeral

namespace Number

/-- The number that a text writes. -/
def ofChars? (cs : List Char) : Option Number := Numeral.ofChars? cs >>= Numeral.number?

/-- The text of a number. -/
def render : Number → List Char
  | .int n _ => (if n < 0 then ['-'] else []) ++ Nat.toDigits 10 n.natAbs
  | .float x => x.render

end Number

/-! ## Integers read back -/

namespace Numeral

theorem isDigit_of_mem {n : Nat} {c : Char} (h : c ∈ Nat.toDigits 10 n) : c.isDigit = true :=
  Nat.isDigit_of_mem_toDigits (by decide) (by decide) h

/-- Only zero is written with a zero in front. -/
theorem eq_zero_of_head?_toDigits {n : Nat} (h : (Nat.toDigits 10 n).head? = some '0') :
    n = 0 := by
  induction n using Nat.strongRecOn with
  | ind n ih =>
    rw [Nat.toDigits_eq_if (by decide)] at h
    split at h
    · simpa [Nat.digitChar_eq_zero] using h
    · next hn =>
      have hne : Nat.toDigits 10 (n / 10) ≠ [] := Nat.toDigits_ne_nil
      rw [List.head?_append, Option.or_of_isSome (by simp [hne])] at h
      have := ih (n / 10) (by omega) h
      omega

/-- The digits of a number are read to the last one. -/
theorem digits?_toDigits (n : Nat) :
    digits? (Nat.toDigits 10 n) = some (Nat.toDigits 10 n, []) := by
  have hall : ∀ c ∈ Nat.toDigits 10 n, c.isDigit = true := fun c => isDigit_of_mem
  -- all of it is digits, so nothing is left behind them
  have htake : (Nat.toDigits 10 n ++ []).takeWhile Char.isDigit = Nat.toDigits 10 n ++ [] :=
    List.takeWhile_append_of_pos hall
  have hdrop : (Nat.toDigits 10 n ++ []).dropWhile Char.isDigit = [] :=
    List.dropWhile_append_of_pos hall
  rw [List.append_nil] at htake hdrop
  unfold digits?
  rw [htake, hdrop]
  cases h : Nat.toDigits 10 n with
  | nil => exact absurd h Nat.toDigits_ne_nil
  | cons => rfl

/-- The digits of a number have no leading zero and are accepted as a whole part. -/
theorem whole?_toDigits (n : Nat) :
    whole? (Nat.toDigits 10 n) = some (Nat.toDigits 10 n, []) := by
  have hzero : ¬((Nat.toDigits 10 n).head? = some '0' ∧ Nat.toDigits 10 n ≠ ['0']) := by
    rintro ⟨hhead, hne⟩
    rw [eq_zero_of_head?_toDigits hhead] at hne
    exact hne (Nat.toDigits_zero 10)
  simp [whole?, digits?_toDigits, hzero]

theorem sign_toDigits (n : Nat) :
    sign (Nat.toDigits 10 n) = (false, Nat.toDigits 10 n) := by
  cases h : Nat.toDigits 10 n with
  | nil => rfl
  | cons c cs =>
    have hc : c.isDigit = true := isDigit_of_mem (h ▸ List.mem_cons_self)
    unfold sign
    split
    · next heq =>
      rw [List.cons.injEq] at heq
      rw [heq.1] at hc
      exact absurd hc (by decide)
    · rfl

/-- Digits with or without a minus are a numeral with no fraction and no exponent. -/
theorem ofChars?_toDigits (negative : Bool) (n : Nat) :
    ofChars? ((if negative then ['-'] else []) ++ Nat.toDigits 10 n) =
      some ⟨negative, Nat.toDigits 10 n, none, none⟩ := by
  cases negative with
  | false => simp [ofChars?, sign_toDigits, whole?_toDigits, fraction?, exponent?]
  | true => simp [ofChars?, sign, whole?_toDigits, fraction?, exponent?]

theorem value_toDigits (n : Nat) : value (Nat.toDigits 10 n) = n :=
  Nat.ofDigitChars_toDigits (by decide) (by decide)

end Numeral

/-- An integer that fits a word is read from its numeral, sign included, and not as a
double. -/
theorem Number.ofChars?_render_int (n : Int) (h : FitsWord n) :
    Number.ofChars? (Number.int n h).render = some (.int n h) := by
  have hparts : Numeral.ofChars? (Number.int n h).render =
      some ⟨decide (n < 0), Nat.toDigits 10 n.natAbs, none, none⟩ := by
    rw [← Numeral.ofChars?_toDigits]
    by_cases hn : n < 0 <;> simp [Number.render, hn]
  -- no fraction, no exponent, and not a zero with a minus: the numeral of an integer
  have hwhole : ¬((none : Option (List Char)).isSome = true ∨
      (none : Option Int).isSome = true ∨ decide (n < 0) = true ∧ n.natAbs = 0) := by
    rintro (h | h | ⟨hn, hzero⟩)
    · exact absurd h (by decide)
    · exact absurd h (by decide)
    · have := of_decide_eq_true hn
      omega
  have habs : (if decide (n < 0) = true then -(n.natAbs : Int) else n.natAbs) = n := by
    by_cases hn : n < 0
    · rw [if_pos (decide_eq_true hn)]
      omega
    · rw [if_neg (by simpa using hn)]
      omega
  rw [Number.ofChars?, hparts, Option.bind_eq_bind, Option.bind_some, Numeral.number?,
    Numeral.int?, Numeral.value_toDigits, if_neg hwhole, habs, Number.ofInt?, dif_pos h]
  rfl

end SearchRules
