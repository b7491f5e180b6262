import Mathlib.Data.List.Induction
import Mathlib.Data.List.Nodup
import SearchRules.OrderedMap

/-!
# What a list of writes leaves in an ordered map

Writing pairs into an ordered map one after the other has a closed form. The
keys are those of the writes, each once, in the order of the *first* write of
each; under a key stands what the *last* write of it put there. Place and value
of one entry may therefore come from two different writes.

> `lastWrites`: the closed form, read off the list of writes alone.
>
> `entries_ofList_eq_lastWrites`: an ordered map that starts empty holds exactly
> that, however often keys repeat.

Both halves are stated for any starting map (`keys_insertMany`,
`get?_insertMany`), where its own keys come first.

> `insertMany_insertMany_self`: writing the same pairs again changes nothing.
>
> `lastWrites_shadowed`: of a write that is followed by another one under its key
> nothing but the key is left.
-/

namespace SearchRules

universe u v w

variable {κ : Type u} {α : Type v} {β : Type w} [DecidableEq κ]

/-! ## Distinct elements in order of first occurrence -/

/-- One more element at the end counts only if it is new. -/
theorem eraseDups_append_singleton (ks : List κ) (k : κ) :
    (ks ++ [k]).eraseDups = if k ∈ ks then ks.eraseDups else ks.eraseDups ++ [k] := by
  rw [List.eraseDups_append]
  by_cases h : k ∈ ks
  · have hgone : [k].removeAll ks = [] := by simp [List.removeAll, h]
    rw [if_pos h, hgone, List.eraseDups_nil, List.append_nil]
  · have hstays : [k].removeAll ks = [k] := by simp [List.removeAll, h]
    rw [if_neg h, hstays]
    rfl

theorem nodup_eraseDups (ks : List κ) : ks.eraseDups.Nodup := by
  -- from the end, so that the step is one more element after all others
  induction ks using List.reverseRecOn with
  | nil => exact List.nodup_nil
  | append_singleton ks k ih =>
    rw [eraseDups_append_singleton]
    split
    · exact ih
    · next hk =>
      refine List.nodup_append.2 ⟨ih, List.nodup_singleton k, ?_⟩
      intro x hx y hy hxy
      rw [List.mem_singleton] at hy
      exact hk (List.mem_eraseDups.1 (hy ▸ hxy ▸ hx))

/-- A list without repetitions is its own list of distinct elements. -/
theorem eraseDups_of_nodup {ks : List κ} (h : ks.Nodup) : ks.eraseDups = ks := by
  induction ks using List.reverseRecOn with
  | nil => rfl
  | append_singleton ks k ih =>
    rw [List.nodup_append] at h
    have hk : k ∉ ks := fun hmem => h.2.2 k hmem k List.mem_cons_self rfl
    rw [eraseDups_append_singleton, if_neg hk, ih h.1]

/-- Of two lists without repetitions one after the other, the second loses what is
in the first. -/
theorem eraseDups_append_of_nodup {ks more : List κ} (hks : ks.Nodup) (hmore : more.Nodup) :
    (ks ++ more).eraseDups = ks ++ more.filter (· ∉ ks) := by
  have hremove : more.removeAll ks = more.filter (· ∉ ks) := by
    simp [List.removeAll]
  rw [List.eraseDups_append, eraseDups_of_nodup hks, hremove, eraseDups_of_nodup (hmore.filter _)]

/-- Elements that are all there already count for nothing. -/
theorem eraseDups_append_of_subset {ks more : List κ} (h : ∀ k ∈ more, k ∈ ks) :
    (ks ++ more).eraseDups = ks.eraseDups := by
  have hgone : more.removeAll ks = [] := by
    rw [List.removeAll, List.filter_eq_nil_iff]
    intro k hk
    simp [h k hk]
  rw [List.eraseDups_append, hgone, List.eraseDups_nil, List.append_nil]

/-- Elements in order of first occurrence stand in the order of their places. -/
theorem pairwise_idxOf_eraseDups (ks : List κ) :
    ks.eraseDups.Pairwise fun k l => ks.idxOf k < ks.idxOf l := by
  -- from the end, where one more element changes no place before it
  induction ks using List.reverseRecOn with
  | nil => exact List.Pairwise.nil
  | append_singleton ks k ih =>
    have hplaces : ks.eraseDups.Pairwise fun x y => (ks ++ [k]).idxOf x < (ks ++ [k]).idxOf y := by
      refine ih.imp_of_mem fun {x y} hx hy hlt => ?_
      rw [List.idxOf_append_of_mem (List.mem_eraseDups.1 hx),
        List.idxOf_append_of_mem (List.mem_eraseDups.1 hy)]
      exact hlt
    rw [eraseDups_append_singleton]
    split
    · exact hplaces
    · next hk =>
      refine List.pairwise_append.2 ⟨hplaces, List.pairwise_singleton _ _, fun x hx y hy => ?_⟩
      rw [List.mem_singleton.1 hy, List.idxOf_append_of_mem (List.mem_eraseDups.1 hx),
        List.idxOf_append_of_notMem hk]
      exact Nat.lt_add_right _ (List.idxOf_lt_length_of_mem (List.mem_eraseDups.1 hx))

/-- Steps that each put one key, if it is new, after those that are there: in the
end the keys stand in the order in which they first came. -/
theorem keys_foldl {σ ι : Type*} {keys : σ → List κ} {key : ι → κ}
    {step : σ → ι → σ} (hnodup : ∀ s, (keys s).Nodup)
    (hstep : ∀ s x, keys (step s x) = if key x ∈ keys s then keys s else keys s ++ [key x])
    (s : σ) (xs : List ι) : keys (xs.foldl step s) = (keys s ++ xs.map key).eraseDups := by
  induction xs using List.reverseRecOn with
  | nil =>
    rw [List.map_nil, List.append_nil, eraseDups_of_nodup (hnodup s)]
    rfl
  | append_singleton xs x ih =>
    rw [List.foldl_append, List.foldl_cons, List.foldl_nil, hstep, ih, List.map_append,
      List.map_singleton, ← List.append_assoc, eraseDups_append_singleton]
    simp only [List.mem_eraseDups]

/-! ## Looking keys up -/

theorem mem_of_lookup_eq_some {k : κ} {a : α} {pairs : List (κ × α)}
    (h : pairs.lookup k = some a) : (k, a) ∈ pairs := by
  obtain ⟨before, after, rfl, _⟩ := List.lookup_eq_some_iff.1 h
  exact List.mem_append_right before List.mem_cons_self

theorem isSome_lookup_iff {k : κ} {pairs : List (κ × α)} :
    (pairs.lookup k).isSome = true ↔ k ∈ pairs.map Prod.fst := by
  rw [List.lookup_isSome_iff, List.mem_map]
  constructor
  · rintro ⟨pair, hmem, hkey⟩
    exact ⟨pair, hmem, (beq_iff_eq.1 hkey).symm⟩
  · rintro ⟨pair, hmem, rfl⟩
    exact ⟨pair, hmem, beq_self_eq_true _⟩

/-- Where keys are distinct, every pair is found under its key. -/
theorem lookup_eq_some_of_mem {k : κ} {a : α} {pairs : List (κ × α)}
    (hnd : (pairs.map Prod.fst).Nodup) (h : (k, a) ∈ pairs) : pairs.lookup k = some a := by
  induction pairs with
  | nil => exact absurd h List.not_mem_nil
  | cons pair rest ih =>
    obtain ⟨k₀, a₀⟩ := pair
    rw [List.map_cons, List.nodup_cons] at hnd
    rw [OrderedMap.lookup_cons_eq_ite]
    rcases List.mem_cons.1 h with heq | hmem
    · rw [Prod.mk.injEq] at heq
      rw [if_pos heq.1, heq.2]
    · have hne : k ≠ k₀ := by
        rintro rfl
        exact hnd.1 (List.mem_map.2 ⟨(k, a), hmem, rfl⟩)
      rw [if_neg hne]
      exact ih hnd.2 hmem

/-- Keys that are renamed, no two to one, are found as before. -/
theorem lookup_map_of_injective {γ : Type*} [DecidableEq γ] {rename : κ → γ}
    (hinj : Function.Injective rename) (f : α → β) (pairs : List (κ × α)) (k : κ) :
    (pairs.map fun p => (rename p.1, f p.2)).lookup (rename k) = (pairs.lookup k).map f := by
  induction pairs with
  | nil => rfl
  | cons pair rest ih =>
    rw [List.map_cons, OrderedMap.lookup_cons_eq_ite, OrderedMap.lookup_cons_eq_ite, ih]
    simp only [hinj.eq_iff]
    split <;> rfl

theorem lookup_map_snd (f : α → β) (pairs : List (κ × α)) (k : κ) :
    (pairs.map fun p => (p.1, f p.2)).lookup k = (pairs.lookup k).map f :=
  lookup_map_of_injective Function.injective_id f pairs k

namespace OrderedMap

/-! ## The closed form -/

/-- What is left of a list of writes: the distinct keys in order of their first
write, each with the value of its last. -/
def lastWrites (pairs : List (κ × α)) : List (κ × α) :=
  (pairs.map Prod.fst).eraseDups.filterMap fun k =>
    (pairs.reverse.lookup k).map fun a => (k, a)

/-- Insertions in a row are one insertion of all the pairs. -/
theorem insertMany_append (m : OrderedMap κ α) (pairs more : List (κ × α)) :
    m.insertMany (pairs ++ more) = (m.insertMany pairs).insertMany more :=
  List.foldl_append

/-- The keys in the order of their first insertion, those of the map before. -/
theorem keys_insertMany (m : OrderedMap κ α) (pairs : List (κ × α)) :
    (m.insertMany pairs).keys = (m.keys ++ pairs.map Prod.fst).eraseDups :=
  keys_foldl keys_nodup (fun m pair => m.keys_insert pair.1 pair.2) m pairs

/-- A key holds its last insertion, and what the map held if there is none. -/
theorem get?_insertMany (m : OrderedMap κ α) (pairs : List (κ × α)) (k : κ) :
    (m.insertMany pairs).get? k = (pairs.reverse.lookup k).or (m.get? k) := by
  -- on the pairs from their end, since the last insertion decides
  induction pairs using List.reverseRecOn with
  | nil => rfl
  | append_singleton pairs pair ih =>
    have hlast : (m.insertMany (pairs ++ [pair])).get? k =
        ((m.insertMany pairs).insert pair.1 pair.2).get? k := by
      rw [insertMany_append]
      rfl
    rw [hlast, get?_insert, ih, List.reverse_append, List.reverse_singleton,
      List.singleton_append, lookup_cons_eq_ite]
    split <;> rfl

/-- A map filled from a list of writes has their keys, each once, in the order in
which they first came. -/
theorem keys_ofList (pairs : List (κ × α)) :
    (ofList pairs).keys = (pairs.map Prod.fst).eraseDups :=
  keys_insertMany empty pairs

theorem get?_ofList (pairs : List (κ × α)) (k : κ) :
    (ofList pairs).get? k = pairs.reverse.lookup k :=
  (get?_insertMany empty pairs k).trans Option.or_none

/-! ## A map is its keys and what they hold -/

theorem get?_eq_some_iff (m : OrderedMap κ α) (k : κ) (a : α) :
    m.get? k = some a ↔ (k, a) ∈ m.entries :=
  ⟨mem_of_lookup_eq_some, lookup_eq_some_of_mem m.nodup⟩

theorem isSome_get?_iff (m : OrderedMap κ α) (k : κ) :
    (m.get? k).isSome = true ↔ k ∈ m.keys :=
  isSome_lookup_iff

/-- A map is its keys in order, each with what is held under it. -/
theorem entries_eq_filterMap_keys (m : OrderedMap κ α) :
    m.entries = m.keys.filterMap fun k => (m.get? k).map fun a => (k, a) := by
  have hfind : ∀ pair ∈ m.entries,
      ((m.get? pair.1).map fun a => (pair.1, a)) = some pair := by
    intro pair hmem
    rw [(m.get?_eq_some_iff pair.1 pair.2).2 hmem]
    rfl
  rw [keys, List.filterMap_map]
  exact List.filterMap_some.symm.trans (List.filterMap_congr hfind).symm

/-- Two maps with the same keys in the same order that hold the same under each
are one map. -/
theorem ext_get? {m n : OrderedMap κ α} (hkeys : m.keys = n.keys)
    (hget : ∀ k, m.get? k = n.get? k) : m = n := by
  apply OrderedMap.ext
  rw [m.entries_eq_filterMap_keys, n.entries_eq_filterMap_keys, hkeys]
  simp only [hget]

/-- An ordered map filled from a list of writes holds the last write of each key
at the place of the first. -/
theorem entries_ofList_eq_lastWrites (pairs : List (κ × α)) :
    (ofList pairs).entries = lastWrites pairs := by
  rw [entries_eq_filterMap_keys, keys_ofList, lastWrites]
  simp only [get?_ofList]

example : lastWrites [("a", 1), ("b", 2), ("a", 3)] = [("a", 3), ("b", 2)] := by decide

/-- A map is the map of its own entries. -/
theorem ofList_entries (m : OrderedMap κ α) : ofList m.entries = m :=
  OrderedMap.ext (entries_ofList m.nodup)

/-- What is left was written. -/
theorem mem_of_mem_lastWrites {pairs : List (κ × α)} {pair : κ × α}
    (h : pair ∈ lastWrites pairs) : pair ∈ pairs := by
  obtain ⟨k, -, hpair⟩ := List.mem_filterMap.1 h
  obtain ⟨a, hlookup, rfl⟩ := Option.map_eq_some_iff.1 hpair
  exact List.mem_reverse.1 (mem_of_lookup_eq_some hlookup)

/-! ## Writes that are made again -/

/-- Making the same writes again moves no key and changes no value, from whatever
map they start. Keys that they overwrite on the way are overwritten again. -/
theorem insertMany_insertMany_self (m : OrderedMap κ α) (pairs : List (κ × α)) :
    (m.insertMany pairs).insertMany pairs = m.insertMany pairs := by
  refine ext_get? ?_ fun k => ?_
  · have hthere : ∀ k ∈ pairs.map Prod.fst, k ∈ (m.insertMany pairs).keys := by
      intro k hk
      rw [keys_insertMany, List.mem_eraseDups]
      exact List.mem_append_right _ hk
    rw [keys_insertMany, eraseDups_append_of_subset hthere,
      eraseDups_of_nodup (m.insertMany pairs).keys_nodup]
  · -- what the writes put under the key, they put there in the first pass
    rw [get?_insertMany, get?_insertMany, ← Option.or_assoc, Option.or_self]

/-- Inserting pairs any number of times is inserting them once. -/
theorem insertMany_flatten_replicate (m : OrderedMap κ α) (pairs : List (κ × α)) (n : Nat) :
    m.insertMany (List.replicate (n + 1) pairs).flatten = m.insertMany pairs := by
  induction n generalizing m with
  | zero => rw [List.replicate_one, List.flatten_singleton]
  | succ n ih =>
    rw [List.replicate_succ, List.flatten_cons, insertMany_append, ih,
      insertMany_insertMany_self]

/-- Writes that are made several times over leave what they leave once. -/
theorem lastWrites_flatten_replicate (pairs : List (κ × α)) {n : Nat} (hn : 0 < n) :
    lastWrites (List.replicate n pairs).flatten = lastWrites pairs := by
  obtain ⟨n, rfl⟩ := Nat.exists_eq_add_one.2 hn
  rw [← entries_ofList_eq_lastWrites, ← entries_ofList_eq_lastWrites, ofList, ofList,
    insertMany_flatten_replicate]

/-! ## Writes that do not last -/

/-- The last writes are known from the keys in order and the last value of each. -/
theorem lastWrites_congr {pairs others : List (κ × α)}
    (hkeys : pairs.map Prod.fst = others.map Prod.fst)
    (hlast : ∀ k, pairs.reverse.lookup k = others.reverse.lookup k) :
    lastWrites pairs = lastWrites others := by
  rw [lastWrites, lastWrites, hkeys]
  simp only [hlast]

/-- The last write to a key, looked for behind a pair, at the pair and before it. -/
theorem lookup_reverse_append_cons (before after : List (κ × α)) (pair : κ × α) (k : κ) :
    (before ++ pair :: after).reverse.lookup k =
      (after.reverse.lookup k).or (([pair].lookup k).or (before.reverse.lookup k)) := by
  rw [List.reverse_append, List.reverse_cons, List.append_assoc, List.lookup_append,
    List.lookup_append]

/-- A write with a later one under its key may as well have put something else
there. -/
theorem lastWrites_shadowed {before after : List (κ × α)} {k : κ}
    (h : k ∈ after.map Prod.fst) (a b : α) :
    lastWrites (before ++ (k, a) :: after) = lastWrites (before ++ (k, b) :: after) := by
  refine lastWrites_congr ?_ fun k' => ?_
  · rw [List.map_append, List.map_append, List.map_cons, List.map_cons]
  · rw [lookup_reverse_append_cons, lookup_reverse_append_cons]
    by_cases hk : k' = k
    · -- from the end, the later write is found first
      have hlater : (after.reverse.lookup k').isSome := by
        rw [isSome_lookup_iff, List.map_reverse, List.mem_reverse, hk]
        exact h
      rw [Option.or_of_isSome hlater, Option.or_of_isSome hlater]
    · rw [lookup_cons_eq_ite, lookup_cons_eq_ite, if_neg hk, if_neg hk]

/-- The same where only some elements of a list write: one of them may be
replaced by any that writes under the same key as a later one. -/
theorem lastWrites_filterMap_shadowed {ι : Type} {write? : ι → Option (κ × α)}
    {before after : List ι} {x y later : ι} (hlater : later ∈ after)
    (hx : (write? x).map Prod.fst = (write? later).map Prod.fst)
    (hy : (write? y).map Prod.fst = (write? later).map Prod.fst) :
    lastWrites ((before ++ x :: after).filterMap write?) =
      lastWrites ((before ++ y :: after).filterMap write?) := by
  rw [List.filterMap_append, List.filterMap_append, List.filterMap_cons, List.filterMap_cons]
  -- either none of the three writes, or all write under one key
  cases hwrite : write? later with
  | none =>
    rw [hwrite] at hx hy
    rw [Option.map_eq_none_iff.1 hx, Option.map_eq_none_iff.1 hy]
  | some pair =>
    rw [hwrite] at hx hy
    obtain ⟨⟨k, a⟩, ha, hk⟩ := Option.map_eq_some_iff.1 hx
    obtain ⟨⟨k', b⟩, hb, hk'⟩ := Option.map_eq_some_iff.1 hy
    obtain rfl : k = k' := hk.trans hk'.symm
    rw [ha, hb]
    refine lastWrites_shadowed ?_ a b
    exact List.mem_map.2 ⟨pair, List.mem_filterMap.2 ⟨later, hlater, hwrite⟩, hk.symm⟩

/-- Values may be changed before or after they are written. -/
theorem lastWrites_map (f : α → β) (pairs : List (κ × α)) :
    lastWrites (pairs.map fun p => (p.1, f p.2)) =
      (lastWrites pairs).map fun p => (p.1, f p.2) := by
  have hkeys : (pairs.map fun p => (p.1, f p.2)).map Prod.fst = pairs.map Prod.fst := by
    rw [List.map_map]
    rfl
  rw [lastWrites, lastWrites, hkeys, List.map_filterMap]
  refine List.filterMap_congr fun k _ => ?_
  rw [← List.map_reverse, lookup_map_snd, Option.map_map, Option.map_map]
  rfl

end OrderedMap

end SearchRules
