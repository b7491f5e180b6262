import Mathlib.Data.List.Forall2
import Mathlib.Data.List.TakeWhile
import SearchRules.Text

/-!
# What counts in the text of a setting

White space at the ends of a setting does not count, and where a setting is a
word, the case of its letters does not count either. Both are told here without
the functions that do it: the text that is left and the text as it was given are
related by what may be put around the one to get the other, and a word and its
spelling letter by letter.

> `trim_eq_iff`: there is one text that is left.
>
> `map_toLower_eq_iff`: the small letters of a spelling give the word.
-/

namespace SearchRules.Text

/-! ## White space at the ends -/

/-- What is left of `raw` without the white space at its ends. -/
structure Trimmed (raw s : List Char) : Prop where
  /-- Only white space was taken away, before and after. -/
  around : ∃ before after, raw = before ++ s ++ after ∧
    (∀ c ∈ before, isWhiteSpace c = true) ∧ ∀ c ∈ after, isWhiteSpace c = true
  /-- What is left does not begin with any. -/
  head : ∀ c ∈ s.head?, isWhiteSpace c = false
  /-- What is left does not end with any. -/
  last : ∀ c ∈ s.getLast?, isWhiteSpace c = false

/-- What is left when elements are dropped from the front: all that was dropped
satisfies the predicate, and what comes next does not. -/
theorem dropWhile_eq_iff {α : Type} {p : α → Bool} {xs ys : List α} :
    xs.dropWhile p = ys ↔
      ∃ before, xs = before ++ ys ∧ (∀ x ∈ before, p x = true) ∧ ∀ y ∈ ys.head?, p y = false := by
  constructor
  · rintro rfl
    refine ⟨xs.takeWhile p, List.takeWhile_append_dropWhile.symm,
      fun x hx => List.mem_takeWhile_imp hx, fun y hy => ?_⟩
    have hhead := List.head?_dropWhile_not p xs
    rw [Option.mem_def.1 hy] at hhead
    exact hhead
  · rintro ⟨before, rfl, hbefore, hhead⟩
    rw [List.dropWhile_append_of_pos hbefore]
    cases ys with
    | nil => rfl
    | cons y ys => exact List.dropWhile_cons_of_neg (by simp [hhead y rfl])

/-- A text is trimmed to what is left of it, and there is one such text. -/
theorem trim_eq_iff {raw s : List Char} : trim raw = s ↔ Trimmed raw s := by
  rw [trim, List.reverse_eq_iff, dropWhile_eq_iff]
  constructor
  · rintro ⟨after, hrest, hafter, hlast⟩
    obtain ⟨before, hraw, hbefore, hhead⟩ := dropWhile_eq_iff.1 (rfl : raw.dropWhile _ = _)
    have hsplit : raw.dropWhile isWhiteSpace = s ++ after.reverse := by
      rw [← List.reverse_reverse (raw.dropWhile isWhiteSpace), hrest, List.reverse_append,
        List.reverse_reverse]
    refine ⟨⟨before, after.reverse, ?_, hbefore, fun c hc => hafter c (List.mem_reverse.1 hc)⟩,
      fun c hc => hhead c ?_, fun c hc => hlast c ?_⟩
    · rw [List.append_assoc, ← hsplit]
      exact hraw
    · rw [hsplit, List.head?_append, Option.mem_def.1 hc]
      rfl
    · rw [List.head?_reverse]
      exact hc
  · rintro ⟨⟨before, after, rfl, hbefore, hafter⟩, hhead, hlast⟩
    cases s with
    | nil =>
      -- nothing but white space
      have hblank : (before ++ [] ++ after).dropWhile isWhiteSpace = [] := by
        rw [List.dropWhile_eq_nil_iff]
        intro c hc
        rw [List.append_nil, List.mem_append] at hc
        exact hc.elim (hbefore c) (hafter c)
      rw [hblank]
      exact ⟨[], rfl, nofun, nofun⟩
    | cons c rest =>
      have hfront : (before ++ c :: rest ++ after).dropWhile isWhiteSpace = c :: rest ++ after :=
        dropWhile_eq_iff.2 ⟨before, List.append_assoc _ _ _, hbefore, hhead⟩
      rw [hfront]
      refine ⟨after.reverse, List.reverse_append, fun d hd => hafter d (List.mem_reverse.1 hd),
        fun d hd => hlast d ?_⟩
      rw [List.head?_reverse] at hd
      exact hd

/-! ## The case of letters -/

/-- A word that is written in small letters, spelled with every letter small or
capital. -/
def InAnyCase (word : String) (s : List Char) : Prop :=
  List.Forall₂ (fun w c => c = w ∨ c = w.toUpper) word.toList s

/-- A capital has a code point that is thirty-two less than that of its small letter. -/
theorem toNat_toLower (c : Char) :
    c.toLower.toNat = if 65 ≤ c.toNat ∧ c.toNat ≤ 90 then c.toNat + 32 else c.toNat := by
  have hrange : 'A'.val ≤ c.val ∧ c.val ≤ 'Z'.val ↔ 65 ≤ c.toNat ∧ c.toNat ≤ 90 :=
    and_congr UInt32.le_iff_toNat_le UInt32.le_iff_toNat_le
  unfold Char.toLower
  by_cases h : 65 ≤ c.toNat ∧ c.toNat ≤ 90
  · have hshift : (c.val + ('a'.val - 'A'.val)).toNat = (c.toNat + 32) % 2 ^ 32 :=
      UInt32.toNat_add c.val ('a'.val - 'A'.val)
    rw [dif_pos (hrange.2 h), if_pos h]
    exact hshift.trans (Nat.mod_eq_of_lt (by omega))
  · rw [dif_neg (mt hrange.1 h), if_neg h]

/-- The same for the capital of a letter. -/
theorem toNat_toUpper (c : Char) :
    c.toUpper.toNat = if 97 ≤ c.toNat ∧ c.toNat ≤ 122 then c.toNat - 32 else c.toNat := by
  have hrange : 'a'.val ≤ c.val ∧ c.val ≤ 'z'.val ↔ 97 ≤ c.toNat ∧ c.toNat ≤ 122 :=
    and_congr UInt32.le_iff_toNat_le UInt32.le_iff_toNat_le
  unfold Char.toUpper
  by_cases h : 97 ≤ c.toNat ∧ c.toNat ≤ 122
  · -- thirty-two less is a sum that wraps around
    have hdown : ('A'.val - 'a'.val).toNat = 2 ^ 32 - 32 := by decide
    have hshift : (c.val + ('A'.val - 'a'.val)).toNat = (c.toNat + (2 ^ 32 - 32)) % 2 ^ 32 := by
      rw [UInt32.toNat_add, hdown]
      rfl
    rw [dif_pos (hrange.2 h), if_pos h]
    refine hshift.trans ?_
    omega
  · rw [dif_neg (mt hrange.1 h), if_neg h]

/-- What has a small letter as its small letter: that letter and its capital. -/
theorem toLower_eq_iff {c w : Char} (hw : w.toLower = w) :
    c.toLower = w ↔ c = w ∨ c = w.toUpper := by
  rw [← Char.toNat_inj, toNat_toLower] at hw
  rw [← Char.toNat_inj, ← Char.toNat_inj, ← Char.toNat_inj, toNat_toLower, toNat_toUpper]
  grind

/-- In small letters, the spellings of a word are that word. -/
theorem map_toLower_eq_iff {word : String} (h : ∀ w ∈ word.toList, w.toLower = w)
    {s : List Char} : s.map Char.toLower = word.toList ↔ InAnyCase word s := by
  unfold InAnyCase
  generalize word.toList = ws at h ⊢
  -- on the word, letter by letter
  induction ws generalizing s with
  | nil => rw [List.map_eq_nil_iff, List.forall₂_nil_left_iff]
  | cons w ws ih =>
    rw [List.forall_mem_cons] at h
    cases s with
    | nil => exact ⟨nofun, nofun⟩
    | cons c s => rw [List.map_cons, List.cons.injEq, List.forall₂_cons, toLower_eq_iff h.1, ih h.2]

end SearchRules.Text
