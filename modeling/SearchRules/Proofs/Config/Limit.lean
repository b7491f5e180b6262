import Mathlib.Algebra.GroupWithZero.Nat
import SearchRules.Config
import SearchRules.Proofs.Text.Setting

/-!
# The text of a limit

A limit is the word `none` or a positive number of sixty-four bits, in decimal
digits, perhaps with zeros and a plus sign in front. Every other text is refused
for the first place at which reading it fails. Reading goes from left to right:
what comes after a number that is already too large is not looked at, but the
digit itself that makes it too large has to be a digit.

> `readLimitDigits_append`: digits in front of a text are read first, as long as
> their number is small enough.
>
> `fits_or_stops`: after the digits that can be read, either the text ends or
> there is a first place that is at fault.
>
> `decodeLimit_eq_iff`: what a text sets, or why it is refused.
-/

namespace SearchRules.Config

open Text (InAnyCase)

/-! ## What a text says -/

/-- Nothing but decimal digits. -/
def Digits (cs : List Char) : Prop := ∀ c ∈ cs, c.isDigit = true

/-- The number that decimal digits write. -/
def number (digits : List Char) : Nat := Nat.ofDigitChars 10 digits 0

/-- A text writes a number: digits, at least one, with or without a plus sign in
front. -/
def Writes (s : List Char) (n : Nat) : Prop :=
  ∃ digits, (s = digits ∨ s = '+' :: digits) ∧ digits ≠ [] ∧ Digits digits ∧ number digits = n

/-- A text without one plus sign in front. -/
def unsigned (s : List Char) : List Char := if s.head? = some '+' then s.tail else s

/-- The first place at which a text is no number of sixty-four bits. -/
inductive Stops (s : List Char) : LimitFault → Prop
  /-- There is nothing to read. -/
  | empty (h : s = []) : Stops s .empty
  /-- There is a sign and nothing else. -/
  | loneSign (h : s = ['+'] ∨ s = ['-']) : Stops s .invalidDigit
  /-- After digits that can be read stands something else. -/
  | invalidDigit {before after : List Char} {c : Char} (h : unsigned s = before ++ c :: after)
    (hbefore : Digits before) (hfits : number before < 2 ^ 64) (hc : c.isDigit = false) :
    Stops s .invalidDigit
  /-- With one more digit, the number is too large. -/
  | tooLarge {before after : List Char} {c : Char} (h : unsigned s = before ++ c :: after)
    (hdigits : Digits (before ++ [c])) (hfits : number before < 2 ^ 64)
    (hlarge : 2 ^ 64 ≤ number (before ++ [c])) : Stops s .tooLarge

/-- What the text of a limit gives: a limit or none, or what is said about it. -/
inductive LimitGives (s : List Char) : Except String (Option Nat) → Prop
  /-- The word for no limit. -/
  | unlimited (h : InAnyCase "none" s) : LimitGives s (.ok none)
  /-- A positive number of sixty-four bits. -/
  | limited {n : Nat} (h : Writes s n) (hpos : 1 ≤ n) (hfits : n < 2 ^ 64) :
    LimitGives s (.ok (some n))
  /-- Zero. -/
  | zero (h : Writes s 0) : LimitGives s (.error (maxRulesVariable ++ " must be positive"))
  /-- Anything else. -/
  | refused {fault : LimitFault} (hword : ¬InAnyCase "none" s) (h : Stops s fault) :
    LimitGives s (.error
      ("Invalid " ++ maxRulesVariable ++ " '" ++ String.ofList s ++ "': " ++ fault.message))

/-! ## Digits from left to right -/

/-- More digits make no smaller number. -/
theorem le_ofDigitChars (n : Nat) (digits : List Char) : n ≤ Nat.ofDigitChars 10 digits n := by
  induction digits generalizing n with
  | nil => exact Nat.le_refl n
  | cons c rest ih =>
    rw [Nat.ofDigitChars_cons]
    exact Nat.le_trans (by omega) (ih _)

/-- One digit more. -/
theorem readLimitDigits_cons {c : Char} (hc : c.isDigit = true) (n : Nat) (rest : List Char) :
    readLimitDigits n (c :: rest) =
      if Nat.ofDigitChars 10 [c] n < 2 ^ 64 then readLimitDigits (Nat.ofDigitChars 10 [c] n) rest
      else .error .tooLarge := by
  have hbound : Nat.ofDigitChars 10 [c] n ≤ 18446744073709551615 ↔
      Nat.ofDigitChars 10 [c] n < 2 ^ 64 := by omega
  rw [readLimitDigits, if_pos hc]
  exact if_congr hbound rfl rfl

/-- Digits in front are taken as long as the number that they make fits. -/
theorem readLimitDigits_append {before : List Char} (hbefore : Digits before) {n : Nat}
    (hfits : Nat.ofDigitChars 10 before n < 2 ^ 64) (rest : List Char) :
    readLimitDigits n (before ++ rest) = readLimitDigits (Nat.ofDigitChars 10 before n) rest := by
  -- on the digits, from any number read so far
  induction before generalizing n with
  | nil => rfl
  | cons c before ih =>
    rw [Digits, List.forall_mem_cons] at hbefore
    have hnext : Nat.ofDigitChars 10 (c :: before) n =
        Nat.ofDigitChars 10 before (Nat.ofDigitChars 10 [c] n) := rfl
    rw [hnext] at hfits ⊢
    -- the number does not get smaller, so no digit on the way is one too many
    have hstep := Nat.lt_of_le_of_lt (le_ofDigitChars (Nat.ofDigitChars 10 [c] n) before) hfits
    rw [List.cons_append, readLimitDigits_cons hbefore.1, if_pos hstep, ih hbefore.2 hfits]

/-- Either all of a text can be read as digits, or there is a first place where
that ends. -/
theorem fits_or_stops {n : Nat} (hn : n < 2 ^ 64) (cs : List Char) :
    (Digits cs ∧ Nat.ofDigitChars 10 cs n < 2 ^ 64) ∨
      ∃ before c after, cs = before ++ c :: after ∧ Digits before ∧
        Nat.ofDigitChars 10 before n < 2 ^ 64 ∧
        (c.isDigit = true → 2 ^ 64 ≤ Nat.ofDigitChars 10 (before ++ [c]) n) := by
  -- on the characters, for whatever number the earlier digits made
  induction cs generalizing n with
  | nil => exact Or.inl ⟨nofun, hn⟩
  | cons c rest ih =>
    by_cases hstep : c.isDigit = true ∧ Nat.ofDigitChars 10 [c] n < 2 ^ 64
    · rcases ih hstep.2 with ⟨hrest, hfits⟩ | ⟨before, c', after, rfl, hbefore, hfits, hstop⟩
      · exact Or.inl ⟨List.forall_mem_cons.2 ⟨hstep.1, hrest⟩, hfits⟩
      · exact Or.inr ⟨c :: before, c', after, rfl, List.forall_mem_cons.2 ⟨hstep.1, hbefore⟩,
          hfits, hstop⟩
    · -- the reader stops here: at something else than a digit, or at a digit too many
      refine Or.inr ⟨[], c, rest, rfl, nofun, hn, fun hc => ?_⟩
      exact Nat.le_of_not_lt fun hlt => hstep ⟨hc, hlt⟩

/-! ## The number of a text -/

/-- A plus in front is passed over, unless it is all there is. -/
theorem readLimit_of_unsigned {s : List Char} (h : unsigned s ≠ []) :
    readLimit s = readLimitDigits 0 (unsigned s) := by
  unfold unsigned at *
  unfold readLimit
  split
  · exact absurd rfl h
  · exact absurd rfl h
  · rfl
  · next hplus =>
    rw [if_neg]
    intro hhead
    obtain ⟨rest, rfl⟩ := List.head?_eq_some_iff.1 hhead
    exact hplus rest rfl

/-- The digits of a number are what its text is without a sign. -/
theorem Writes.unsigned {s : List Char} {n : Nat} (h : Writes s n) :
    Config.unsigned s ≠ [] ∧ Digits (Config.unsigned s) ∧ number (Config.unsigned s) = n := by
  obtain ⟨digits, hs, hne, hdigits, hn⟩ := h
  have hunsigned : Config.unsigned s = digits := by
    rcases hs with rfl | rfl
    · refine if_neg fun hhead => ?_
      exact absurd (hdigits '+' (List.mem_of_mem_head? hhead)) (by decide)
    · rfl
  rw [hunsigned]
  exact ⟨hne, hdigits, hn⟩

/-- Digits behind a plus, or without one, write the number that they make. -/
theorem writes_of_unsigned {s : List Char} (hne : unsigned s ≠ []) (h : Digits (unsigned s)) :
    Writes s (number (unsigned s)) := by
  refine ⟨unsigned s, ?_, hne, h, rfl⟩
  unfold unsigned
  split
  · next hhead =>
    obtain ⟨rest, rfl⟩ := List.head?_eq_some_iff.1 hhead
    exact Or.inr rfl
  · exact Or.inl rfl

/-- A number that fits is read. -/
theorem readLimit_of_writes {s : List Char} {n : Nat} (h : Writes s n) (hfits : n < 2 ^ 64) :
    readLimit s = .ok n := by
  obtain ⟨hne, hdigits, rfl⟩ := h.unsigned
  have hread := readLimitDigits_append hdigits hfits []
  rw [List.append_nil] at hread
  exact (readLimit_of_unsigned hne).trans hread

/-- Anything else is refused for the first place at fault. -/
theorem readLimit_of_stops {s : List Char} {fault : LimitFault} (h : Stops s fault) :
    readLimit s = .error fault := by
  cases h with
  | empty h => rw [h]; rfl
  | loneSign h => rcases h with rfl | rfl <;> rfl
  | @invalidDigit before after c h hbefore hfits hc =>
    rw [readLimit_of_unsigned (by simp [h]), h, readLimitDigits_append hbefore hfits,
      readLimitDigits, if_neg (by simp [hc])]
  | @tooLarge before after c h hdigits hfits hlarge =>
    have hbefore : Digits before := fun d hd => hdigits d (List.mem_append_left _ hd)
    have hc : c.isDigit = true := hdigits c (List.mem_append_right _ List.mem_cons_self)
    rw [number, Nat.ofDigitChars_append] at hlarge
    rw [readLimit_of_unsigned (by simp [h]), h, readLimitDigits_append hbefore hfits,
      readLimitDigits_cons hc, if_neg (Nat.not_lt_of_le hlarge)]

/-- Every text writes a number of sixty-four bits, or there is a first place at
which it does not. -/
theorem writes_or_stops (s : List Char) :
    (∃ n, Writes s n ∧ n < 2 ^ 64) ∨ ∃ fault, Stops s fault := by
  by_cases hne : unsigned s = []
  · -- nothing is left without a sign
    unfold unsigned at hne
    split at hne
    · next hhead =>
      obtain ⟨rest, rfl⟩ := List.head?_eq_some_iff.1 hhead
      obtain rfl : rest = [] := hne
      exact Or.inr ⟨_, .loneSign (Or.inl rfl)⟩
    · exact Or.inr ⟨_, .empty hne⟩
  · rcases fits_or_stops (Nat.two_pow_pos 64) (unsigned s) with
      ⟨hdigits, hfits⟩ | ⟨before, c, after, h, hbefore, hfits, hstop⟩
    · exact Or.inl ⟨_, writes_of_unsigned hne hdigits, hfits⟩
    · cases hc : c.isDigit with
      | false => exact Or.inr ⟨_, .invalidDigit h hbefore hfits hc⟩
      | true =>
        have hdigits : Digits (before ++ [c]) := by
          intro d hd
          rcases List.mem_append.1 hd with hd | hd
          · exact hbefore d hd
          · exact List.mem_singleton.1 hd ▸ hc
        exact Or.inr ⟨_, .tooLarge h hdigits hfits (hstop hc)⟩

/-! ## The limit -/

/-- No limit is said by a word, and a limit of zero is refused apart. -/
theorem decodeLimit_eq_ite (s : List Char) [Decidable (InAnyCase "none" s)] :
    decodeLimit s =
      if InAnyCase "none" s then .ok none
      else
        match readLimit s with
        | .ok 0 => .error .zeroLimit
        | .ok limit => .ok (some limit)
        | .error fault => .error (.badLimit (String.ofList s) fault) := by
  have hword : s.map Char.toLower = ['n', 'o', 'n', 'e'] ↔ InAnyCase "none" s :=
    @Text.map_toLower_eq_iff "none" (by simp) s
  exact if_congr hword rfl rfl

/-- The word does not begin as a number does. -/
theorem Writes.not_inAnyCase {s : List Char} {n : Nat} (h : Writes s n) :
    ¬InAnyCase "none" s := by
  intro hword
  obtain ⟨digits, hs, hne, hdigits, -⟩ := h
  obtain ⟨d, rest, rfl⟩ := List.exists_cons_of_ne_nil hne
  have hd : d.isDigit = true := hdigits d List.mem_cons_self
  -- a digit or a plus is no letter of the word
  rcases hs with rfl | rfl
  · rcases (List.forall₂_cons.1 hword).1 with rfl | rfl
    · exact absurd hd (by decide)
    · exact absurd hd (by decide)
  · exact absurd (List.forall₂_cons.1 hword).1 (by decide)

/-- Every text gives something. -/
theorem exists_limitGives (s : List Char) : ∃ outcome, LimitGives s outcome := by
  by_cases hword : InAnyCase "none" s
  · exact ⟨_, .unlimited hword⟩
  · rcases writes_or_stops s with ⟨n, hn, hfits⟩ | ⟨fault, hfault⟩
    · rcases Nat.eq_zero_or_pos n with rfl | hpos
      · exact ⟨_, .zero hn⟩
      · exact ⟨_, .limited hn hpos hfits⟩
    · exact ⟨_, .refused hword hfault⟩

/-- What a text gives is what is read from it. -/
theorem decodeLimit_of_gives {s : List Char} {outcome : Except String (Option Nat)}
    (h : LimitGives s outcome) : (decodeLimit s).mapError SettingFault.message = outcome := by
  classical
  rw [decodeLimit_eq_ite]
  cases h with
  | unlimited h => rw [if_pos h]; rfl
  | @limited n h hpos hfits =>
    rw [if_neg h.not_inAnyCase, readLimit_of_writes h hfits]
    obtain ⟨n, rfl⟩ := Nat.exists_eq_add_one.2 hpos
    rfl
  | zero h => rw [if_neg h.not_inAnyCase, readLimit_of_writes h (Nat.two_pow_pos 64)]; rfl
  | refused hword h => rw [if_neg hword, readLimit_of_stops h]; rfl

/-- A value that is all that a relation gives is what it gives, if it gives
anything. -/
theorem eq_iff_of_gives {α : Type} {gives : α → Prop} {a : α} (hsome : ∃ b, gives b)
    (hgiven : ∀ {b}, gives b → a = b) {b : α} : a = b ↔ gives b := by
  refine ⟨?_, hgiven⟩
  rintro rfl
  obtain ⟨c, hc⟩ := hsome
  exact (hgiven hc).symm ▸ hc

/-- What a text sets, and what is said where it sets nothing, is told by the text
itself. -/
theorem decodeLimit_eq_iff {s : List Char} {outcome : Except String (Option Nat)} :
    (decodeLimit s).mapError SettingFault.message = outcome ↔ LimitGives s outcome :=
  eq_iff_of_gives (exists_limitGives s) decodeLimit_of_gives

/-- One more than the largest number, and then letters. -/
example : readLimit "018446744073709551616z".toList = .error .tooLarge := by decide

end SearchRules.Config
