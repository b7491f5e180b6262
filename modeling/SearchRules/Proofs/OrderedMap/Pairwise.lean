import Mathlib.Data.List.Forall2
import Mathlib.Data.List.Perm.Subperm
import SearchRules.Proofs.OrderedMap.LastWrite

/-!
# Maps related value by value

Two ways to compare maps whose values are related. The strict one goes pair by
pair, so that keys stand in the same order (`List.Forall₂ (Paired R)`); a map of
rules keeps it, since its keys come from equal strings. The other one looks at
what is held under each key and at no order (`OrderedMap.Agree R`), which is how
the members of equal objects compare.

> `insertEntry_of_forall₂`: related writes keep maps related pair by pair.
>
> `agree_iff_size_eq`: maps that agree have the same number of keys; given that, the
> pairs of one of the two decide.
-/

namespace SearchRules

universe u v w

variable {κ : Type u} {α : Type v} {β : Type w} {R : α → α → Prop} {S : β → β → Prop}

/-- Pairs of one key with related values. -/
def Paired (R : α → α → Prop) (p q : κ × α) : Prop := p.1 = q.1 ∧ R p.2 q.2

theorem isSome_of_rel {a b : Option α} (h : Option.Rel R a b) : a.isSome = b.isSome := by
  cases h <;> rfl

theorem exists_of_some_rel {a : α} {b : Option α} (h : Option.Rel R (some a) b) :
    ∃ b', b = some b' ∧ R a b' := by
  cases h with
  | some hab => exact ⟨_, rfl, hab⟩

theorem exists_of_rel_some {a : Option α} {b : α} (h : Option.Rel R a (some b)) :
    ∃ a', a = some a' ∧ R a' b := by
  cases h with
  | some hab => exact ⟨_, rfl, hab⟩

/-- The first of two that is there is related if both are. -/
theorem rel_or {a b a' b' : Option α} (h : Option.Rel R a b) (h' : Option.Rel R a' b') :
    Option.Rel R (a.or a') (b.or b') := by
  cases h with
  | some hab => exact .some hab
  | none => exact h'

/-- Related steps after related values. -/
theorem rel_bind {a b : Option α} (h : Option.Rel R a b) {f g : α → Option β}
    (hfg : ∀ {x y}, R x y → Option.Rel S (f x) (g y)) :
    Option.Rel S (a.bind f) (b.bind g) := by
  cases h with
  | some hab => exact hfg hab
  | none => exact .none

/-- Filters that agree on related things keep both or neither. -/
theorem rel_filter {a b : Option α} (h : Option.Rel R a b) {p q : α → Bool}
    (hpq : ∀ {x y}, R x y → p x = q y) : Option.Rel R (a.filter p) (b.filter q) := by
  cases h with
  | none => exact .none
  | some hab =>
    rw [Option.filter_some, Option.filter_some, hpq hab]
    split
    · exact .some hab
    · exact .none

theorem isEmpty_of_forall₂ {as bs : List α} (h : List.Forall₂ R as bs) :
    as.isEmpty = bs.isEmpty := by
  cases h <;> rfl

section Paired

variable [DecidableEq κ]

/-- Lists of the same keys with related values have related look-ups. -/
theorem lookup_of_forall₂ {es fs : List (κ × α)} (h : List.Forall₂ (Paired R) es fs) (k : κ) :
    Option.Rel R (es.lookup k) (fs.lookup k) := by
  induction h with
  | nil => exact .none
  | @cons p q es fs hpair _ ih =>
    obtain ⟨key, a⟩ := p
    obtain ⟨key', b⟩ := q
    obtain ⟨rfl, hab⟩ : key = key' ∧ R a b := hpair
    rw [OrderedMap.lookup_cons_eq_ite, OrderedMap.lookup_cons_eq_ite]
    split
    · exact .some hab
    · exact ih

/-- The order of pairs with distinct keys does not show in a look-up. -/
theorem lookup_of_perm {es fs : List (κ × α)} (h : es.Perm fs)
    (hnd : (fs.map Prod.fst).Nodup) (k : κ) : es.lookup k = fs.lookup k := by
  have hnd' : (es.map Prod.fst).Nodup := (h.map Prod.fst).nodup_iff.2 hnd
  apply Option.ext
  intro a
  constructor
  · intro ha
    exact lookup_eq_some_of_mem hnd (h.mem_iff.1 (mem_of_lookup_eq_some ha))
  · intro ha
    exact lookup_eq_some_of_mem hnd' (h.mem_iff.2 (mem_of_lookup_eq_some ha))

/-- One write of related values into maps that are related pair by pair. -/
theorem insertEntry_of_forall₂ {es fs : List (κ × α)} (h : List.Forall₂ (Paired R) es fs)
    (k : κ) {a b : α} (hab : R a b) :
    List.Forall₂ (Paired R) (OrderedMap.insertEntry k a es) (OrderedMap.insertEntry k b fs) := by
  induction h with
  | nil => exact .cons ⟨rfl, hab⟩ .nil
  | @cons p q es fs hpair hrest ih =>
    obtain ⟨key, a'⟩ := p
    obtain ⟨key', b'⟩ := q
    obtain ⟨rfl, hab'⟩ : key = key' ∧ R a' b' := hpair
    rw [OrderedMap.insertEntry, OrderedMap.insertEntry]
    -- the keys are the same, so both entries are put in at the same place
    split
    · exact .cons ⟨rfl, hab⟩ hrest
    · exact .cons ⟨rfl, hab'⟩ ih

end Paired

namespace OrderedMap

variable [DecidableEq κ]

/-- Maps that hold related values under every key, whatever the order of keys. -/
def Agree (R : α → α → Prop) (m n : OrderedMap κ α) : Prop :=
  ∀ k, Option.Rel R (m.get? k) (n.get? k)

variable {m n : OrderedMap κ α}

theorem agree_empty : Agree R (.empty : OrderedMap κ α) .empty := fun _ => .none

theorem Agree.size_eq (h : Agree R m n) : m.size = n.size := by
  have hkeys : m.keys.Perm n.keys := by
    refine (List.perm_ext_iff_of_nodup m.keys_nodup n.keys_nodup).2 fun k => ?_
    rw [← m.isSome_get?_iff, ← n.isSome_get?_iff, isSome_of_rel (h k)]
  have hlength := hkeys.length_eq
  rwa [keys, keys, List.length_map, List.length_map] at hlength

/-- With as many keys on either side it is enough to look at the pairs of one map. -/
theorem agree_iff_size_eq :
    Agree R m n ↔
      m.size = n.size ∧ ∀ pair ∈ m.entries, ∃ b, n.get? pair.1 = some b ∧ R pair.2 b := by
  constructor
  · intro h
    refine ⟨h.size_eq, fun pair hpair => ?_⟩
    have hk := h pair.1
    rw [(m.get?_eq_some_iff pair.1 pair.2).2 hpair] at hk
    exact exists_of_some_rel hk
  · rintro ⟨hsize, hpairs⟩ k
    have hsub : m.keys ⊆ n.keys := by
      intro key hkey
      obtain ⟨pair, hpair, rfl⟩ := List.mem_map.1 hkey
      obtain ⟨b, hb, -⟩ := hpairs pair hpair
      rw [← n.isSome_get?_iff, hb]
      rfl
    have hlength : n.keys.length ≤ m.keys.length := by
      rw [keys, keys, List.length_map, List.length_map]
      exact Nat.le_of_eq hsize.symm
    -- no key of the second map is left over
    have hkeys : m.keys.Perm n.keys := (m.keys_nodup.subperm hsub).perm_of_length_le hlength
    cases hm : m.get? k with
    | some a =>
      obtain ⟨b, hb, hab⟩ := hpairs (k, a) ((m.get?_eq_some_iff k a).1 hm)
      rw [hb]
      exact .some hab
    | none =>
      have hn : n.get? k = none := by
        rw [← Option.not_isSome_iff_eq_none, n.isSome_get?_iff, ← hkeys.mem_iff,
          ← m.isSome_get?_iff, hm]
        exact Bool.false_ne_true
      rw [hn]
      exact .none

theorem Agree.isEmpty_eq (h : Agree R m n) : m.isEmpty = n.isEmpty := by
  have hsize : m.entries.length = n.entries.length := h.size_eq
  rw [Bool.eq_iff_iff, isEmpty, isEmpty, List.isEmpty_iff_length_eq_zero,
    List.isEmpty_iff_length_eq_zero, hsize]

end OrderedMap

end SearchRules
