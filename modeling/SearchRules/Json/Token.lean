import SearchRules.Json.Numeral
import SearchRules.Json.StringLiteral

/-!
# Tokens of JSON text

Between the characters of a text and the value it writes stand its tokens.
`Token.render` writes one token; `Token.scan` reads them all, skipping blanks.
Numerals are cut off as the longest run of numeral characters and must then be
numbers as a whole, so that `1.`, `+1`, `01` and `1e5e5` are not numbers. What may
follow what is not decided here: `[]1` is three tokens, and no value is written
with them.

> `Token.scan_flatMap_render`: tokens that are written one after the other are
> scanned as the same tokens, if none is a float and no two numbers meet.
-/

namespace SearchRules

/-- A token of a JSON text. -/
inductive Token where
  | openArray
  | closeArray
  | openObject
  | closeObject
  | comma
  | colon
  | null
  | bool (b : Bool)
  | number (n : Number)
  | string (s : String)
deriving DecidableEq

namespace Token

/-- The text of a token. -/
def render : Token → List Char
  | .openArray => ['[']
  | .closeArray => [']']
  | .openObject => ['{']
  | .closeObject => ['}']
  | .comma => [',']
  | .colon => [':']
  | .null => ['n', 'u', 'l', 'l']
  | .bool true => ['t', 'r', 'u', 'e']
  | .bool false => ['f', 'a', 'l', 's', 'e']
  | .number n => n.render
  | .string s => StringLiteral.encode s.toList

/-- The four characters that may stand between tokens. -/
def isBlank (c : Char) : Bool := c = ' ' || c = '\t' || c = '\n' || c = '\r'

/-- The characters that numbers are written with. -/
def isNumeral (c : Char) : Bool :=
  c.isDigit || c = '-' || c = '+' || c = '.' || c = 'e' || c = 'E'

/-- The number that begins with `c`: as many numeral characters as there are. -/
def number? (c : Char) (rest : List Char) : Option (Token × List Char) :=
  if isNumeral c then
    (Number.ofChars? (c :: rest.takeWhile isNumeral)).map
      fun n => (.number n, rest.dropWhile isNumeral)
  else none

/-- The first token of a text that begins with none of the blanks, and the text
after it. -/
def next? : List Char → Option (Token × List Char)
  | '[' :: rest => some (.openArray, rest)
  | ']' :: rest => some (.closeArray, rest)
  | '{' :: rest => some (.openObject, rest)
  | '}' :: rest => some (.closeObject, rest)
  | ',' :: rest => some (.comma, rest)
  | ':' :: rest => some (.colon, rest)
  | '\"' :: rest =>
    (StringLiteral.decode? rest).map fun (s, rest) => (.string (String.ofList s), rest)
  | 'n' :: 'u' :: 'l' :: 'l' :: rest => some (.null, rest)
  | 't' :: 'r' :: 'u' :: 'e' :: rest => some (.bool true, rest)
  | 'f' :: 'a' :: 'l' :: 's' :: 'e' :: rest => some (.bool false, rest)
  | c :: rest => number? c rest
  | [] => none

theorem length_lt_of_number? {c : Char} {cs rest : List Char} {t : Token}
    (h : number? c cs = some (t, rest)) : rest.length < (c :: cs).length := by
  unfold number? at h
  split at h
  · rw [Option.map_eq_some_iff] at h
    obtain ⟨n, _, he⟩ := h
    rw [Prod.mk.injEq] at he
    have := (List.dropWhile_sublist isNumeral (l := cs)).length_le
    rw [← he.2, List.length_cons]
    omega
  · simp at h

/-- Every token takes at least one character. -/
theorem length_lt_of_next? {cs rest : List Char} {t : Token}
    (h : next? cs = some (t, rest)) : rest.length < cs.length := by
  unfold next? at h
  split at h
  -- a string and a number take what their readers take, any other token its own characters
  case h_7 tail =>
    rw [Option.map_eq_some_iff] at h
    obtain ⟨⟨s, tail'⟩, hd, he⟩ := h
    have := StringLiteral.length_lt_of_decode? hd
    simp only [Prod.mk.injEq] at he
    rw [← he.2, List.length_cons]
    omega
  case h_11 => exact length_lt_of_number? h
  case h_12 => simp at h
  all_goals
    simp only [Option.some.injEq, Prod.mk.injEq] at h
    simp only [← h.2, List.length_cons]
    omega

/-- The tokens of a text, if it is made of tokens and blanks. -/
def scan (cs : List Char) : Option (List Token) :=
  match cs with
  | [] => some []
  | c :: rest =>
    if isBlank c then scan rest
    else
      match _h : next? (c :: rest) with
      | none => none
      | some (t, tail) => (scan tail).map (t :: ·)
termination_by cs.length
decreasing_by
  · simp
  · exact length_lt_of_next? _h

/-! ## What is written reads back -/

/-- Whether a text goes on with a character that numbers are written with. -/
def continuesNumeral (cs : List Char) : Bool := cs.head?.any isNumeral

/-- Whether the token is a number. -/
def isNumber : Token → Bool
  | .number _ => true
  | _ => false

theorem isNumeral_of_isDigit {c : Char} (h : c.isDigit = true) : isNumeral c = true := by
  simp [isNumeral, h]

/-- Where a numeral character stands, a number begins. -/
theorem next?_of_isNumeral {c : Char} {cs : List Char} (h : isNumeral c = true) :
    next? (c :: cs) = number? c cs := by
  unfold next?
  split
  case h_11 heq =>
    rw [List.cons.injEq] at heq
    rw [heq.1, heq.2]
  case h_12 heq => exact absurd heq (List.cons_ne_nil c cs)
  all_goals
    rename_i heq
    rw [List.cons.injEq] at heq
    rw [heq.1] at h
    exact absurd h (by decide)

/-- An integer is written with characters of numerals only. -/
theorem isNumeral_of_mem_render_int {n : Int} {fits : FitsWord n} {c : Char}
    (h : c ∈ (Number.int n fits).render) : isNumeral c = true := by
  rw [Number.render, List.mem_append] at h
  rcases h with h | h
  · by_cases hn : n < 0
    · rw [if_pos hn, List.mem_singleton] at h
      rw [h]
      decide
    · rw [if_neg hn] at h
      exact absurd h List.not_mem_nil
  · exact isNumeral_of_isDigit (Numeral.isDigit_of_mem h)

theorem render_int_ne_nil (n : Int) (fits : FitsWord n) : (Number.int n fits).render ≠ [] := by
  intro h
  rw [Number.render, List.append_eq_nil_iff] at h
  exact Nat.toDigits_ne_nil h.2

/-- An integer is scanned from its numeral if what follows does not continue it. -/
theorem next?_render_int_append (n : Int) (fits : FitsWord n) {cs : List Char}
    (hcs : continuesNumeral cs = false) :
    next? ((Number.int n fits).render ++ cs) = some (.number (.int n fits), cs) := by
  have hread := Number.ofChars?_render_int n fits
  have hall : ∀ c ∈ (Number.int n fits).render, isNumeral c = true :=
    fun c => isNumeral_of_mem_render_int
  cases hr : (Number.int n fits).render with
  | nil => exact absurd hr (render_int_ne_nil n fits)
  | cons d ds =>
    rw [hr] at hread hall
    have hd : isNumeral d = true := hall d List.mem_cons_self
    have hds : ∀ c ∈ ds, isNumeral c = true := fun c hc => hall c (List.mem_cons_of_mem d hc)
    -- the scanner takes what belongs to numerals: the integer, and nothing of what follows
    have htake : (ds ++ cs).takeWhile isNumeral = ds := by
      rw [List.takeWhile_append_of_pos hds]
      cases cs with
      | nil => simp
      | cons c cs => simp_all [continuesNumeral]
    have hdrop : (ds ++ cs).dropWhile isNumeral = cs := by
      rw [List.dropWhile_append_of_pos hds]
      cases cs with
      | nil => simp
      | cons c cs => simp_all [continuesNumeral]
    rw [List.cons_append, next?_of_isNumeral hd, number?, if_pos hd, htake, hdrop, hread]
    rfl

/-- Whether what is written for the token can be read back: all but floats. -/
def isExact : Token → Bool
  | .number (.float _) => false
  | _ => true

/-- A token that is written reads back, whatever text follows it; after a number
no numeral character may follow. -/
theorem next?_render_append (t : Token) (h : t.isExact = true) (cs : List Char)
    (hcs : t.isNumber = true → continuesNumeral cs = false) :
    next? (t.render ++ cs) = some (t, cs) := by
  cases t with
  | number n =>
    cases n with
    | int n fits => exact next?_render_int_append n fits (hcs rfl)
    | float x => simp [isExact] at h
  | string s =>
    simp only [render, StringLiteral.encode, List.cons_append, List.append_assoc,
      List.nil_append, next?, StringLiteral.decode?_encode, Option.map_some,
      String.ofList_toList]
  | bool b => cases b <;> rfl
  | _ => rfl

/-- A token other than a number begins with no numeral character. -/
theorem continuesNumeral_render {t : Token} (h : t.isNumber = false) (cs : List Char) :
    continuesNumeral (t.render ++ cs) = false := by
  cases t with
  | number n => simp [isNumber] at h
  | bool b => cases b <;> rfl
  | _ => rfl

theorem isBlank_of_isNumeral {c : Char} (h : isNumeral c = true) : isBlank c = false := by
  rw [isBlank]
  simp only [Bool.or_eq_false_iff, decide_eq_false_iff_not]
  refine ⟨⟨⟨?_, ?_⟩, ?_⟩, ?_⟩ <;>
  · rintro rfl
    exact absurd h (by decide)

/-- A token that is written exactly does not start with a blank. -/
theorem exists_render_eq_cons (t : Token) (h : t.isExact = true) :
    ∃ c cs, t.render = c :: cs ∧ isBlank c = false := by
  cases t with
  | number n =>
    cases n with
    | int n fits =>
      cases hr : (Number.int n fits).render with
      | nil => exact absurd hr (render_int_ne_nil n fits)
      | cons c cs =>
        have hc : isNumeral c = true :=
          isNumeral_of_mem_render_int (hr ▸ List.mem_cons_self)
        exact ⟨c, cs, hr, isBlank_of_isNumeral hc⟩
    | float x => simp [isExact] at h
  | bool b => cases b <;> exact ⟨_, _, rfl, by decide⟩
  | _ => exact ⟨_, _, rfl, by decide⟩

/-- A token is scanned from its text if what follows does not continue a numeral. -/
theorem scan_render_append (t : Token) (h : t.isExact = true) (cs : List Char)
    (hcs : t.isNumber = true → continuesNumeral cs = false) :
    scan (t.render ++ cs) = (scan cs).map (t :: ·) := by
  have hnext := next?_render_append t h cs hcs
  obtain ⟨c, tail, hr, hblank⟩ := exists_render_eq_cons t h
  rw [hr, List.cons_append] at hnext ⊢
  rw [scan]
  simp only [hblank, Bool.false_eq_true, if_false]
  split
  · next heq => rw [hnext] at heq; exact absurd heq (by simp)
  · next t' tail' heq =>
    rw [hnext, Option.some.injEq, Prod.mk.injEq] at heq
    rw [← heq.1, ← heq.2]

/-- Whether a list of tokens begins with a number. -/
def startsWithNumber (ts : List Token) : Bool := ts.head?.any isNumber

/-- The text of the tokens can be cut into them again: none is a float, and no
number stands before a number. -/
def Readable : List Token → Prop
  | [] => True
  | t :: rest =>
    t.isExact = true ∧ (t.isNumber = true → startsWithNumber rest = false) ∧ Readable rest

/-- Only a number continues a numeral: all other tokens start with another character. -/
theorem continuesNumeral_flatMap_render {ts : List Token} (h : startsWithNumber ts = false) :
    continuesNumeral (ts.flatMap render) = false := by
  cases ts with
  | nil => rfl
  | cons t rest =>
    rw [List.flatMap_cons]
    exact continuesNumeral_render (by simpa [startsWithNumber] using h) _

/-- Tokens that can be told apart are scanned from their text, by induction on the
tokens. -/
theorem scan_flatMap_render {ts : List Token} (h : Readable ts) :
    scan (ts.flatMap render) = some ts := by
  -- on the tokens: behind a number stands one that does not continue it
  induction ts with
  | nil => simp [scan]
  | cons t rest ih =>
    obtain ⟨hexact, hnumber, hrest⟩ := h
    rw [List.flatMap_cons, scan_render_append t hexact _ fun hn =>
      continuesNumeral_flatMap_render (hnumber hn), ih hrest, Option.map_some]

end Token

end SearchRules
