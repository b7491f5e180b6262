/-!
# Insertion-ordered maps

A map is a list of pairs with distinct keys, in the order in which the keys
first came. Order is part of the value: the objects of a query document, the
rules drafted so far and the registered handlers are all written out in it.

The main statements describe one insertion through the two views of a map:

> `keys_insert`: a key that is already there keeps its place, a new one goes to
> the end.
>
> `get?_insert`: the inserted key holds the new value, every other key what it
> held before.

`entries_ofList` adds that a list whose keys are distinct is a map as it stands.
-/

namespace SearchRules

universe u v

/-- A map that keeps its keys in the order of their first insertion. -/
@[ext]
structure OrderedMap (κ : Type u) (α : Type v) where
  /-- The pairs of the map, in order. -/
  entries : List (κ × α)
  /-- No key occurs twice. -/
  nodup : (entries.map Prod.fst).Nodup
deriving DecidableEq

namespace OrderedMap

variable {κ : Type u} {α : Type v}

/-- The map without entries. -/
def empty : OrderedMap κ α := ⟨[], List.nodup_nil⟩

instance : Inhabited (OrderedMap κ α) := ⟨empty⟩

/-- The keys in order. -/
def keys (m : OrderedMap κ α) : List κ := m.entries.map Prod.fst

/-- The values in the order of their keys. -/
def values (m : OrderedMap κ α) : List α := m.entries.map Prod.snd

/-- The number of keys. -/
def size (m : OrderedMap κ α) : Nat := m.entries.length

/-- Whether there is no key at all. -/
def isEmpty (m : OrderedMap κ α) : Bool := m.entries.isEmpty

theorem keys_nodup (m : OrderedMap κ α) : m.keys.Nodup := m.nodup

variable [DecidableEq κ]

/-- Write `a` under `k` in a list of pairs: in place of the first pair with that
key, or at the end if there is none. -/
def insertEntry (k : κ) (a : α) : List (κ × α) → List (κ × α)
  | [] => [(k, a)]
  | (k', a') :: rest =>
    if k' = k then (k, a) :: rest else (k', a') :: insertEntry k a rest

/-- Inserting keeps the places of the keys; a new key goes to the end. -/
theorem map_fst_insertEntry (k : κ) (a : α) (es : List (κ × α)) :
    (insertEntry k a es).map Prod.fst =
      if k ∈ es.map Prod.fst then es.map Prod.fst else es.map Prod.fst ++ [k] := by
  induction es with
  | nil => simp [insertEntry]
  | cons e rest ih =>
    obtain ⟨k', a'⟩ := e
    unfold insertEntry
    by_cases h : k' = k
    · simp [h]
    · have hne : k ≠ k' := fun e => h e.symm
      simp only [h, if_false, List.map_cons, ih, List.mem_cons, hne, false_or]
      split <;> rfl

/-- Inserting keeps the keys distinct, the invariant of a map. -/
theorem nodup_insertEntry {k : κ} {a : α} {es : List (κ × α)}
    (h : (es.map Prod.fst).Nodup) : ((insertEntry k a es).map Prod.fst).Nodup := by
  rw [map_fst_insertEntry]
  split
  · exact h
  · next hk =>
    rw [List.nodup_append]
    refine ⟨h, by simp, ?_⟩
    intro x hx y hy hxy
    rw [List.mem_singleton] at hy
    exact hk (hy ▸ hxy ▸ hx)

/-- Put `a` under `k`. A key that is there keeps its place and takes the new
value; a new key goes to the end. -/
def insert (m : OrderedMap κ α) (k : κ) (a : α) : OrderedMap κ α :=
  ⟨insertEntry k a m.entries, nodup_insertEntry m.nodup⟩

/-- The value under `k`. -/
def get? (m : OrderedMap κ α) (k : κ) : Option α := m.entries.lookup k

/-- Whether `k` is a key. -/
def contains (m : OrderedMap κ α) (k : κ) : Bool := (m.get? k).isSome

/-- Insert pairs one after the other. -/
def insertMany (m : OrderedMap κ α) (pairs : List (κ × α)) : OrderedMap κ α :=
  pairs.foldl (fun m pair => m.insert pair.1 pair.2) m

/-- The map of a list of pairs: a repeated key has the place of its first pair
and the value of its last. -/
def ofList (pairs : List (κ × α)) : OrderedMap κ α := empty.insertMany pairs

/-- A key that is in the map keeps its place, and a new one is the last. -/
theorem keys_insert (m : OrderedMap κ α) (k : κ) (a : α) :
    (m.insert k a).keys = if k ∈ m.keys then m.keys else m.keys ++ [k] :=
  map_fst_insertEntry k a m.entries

/-- Looking a key up in a list of pairs, one pair at a time. -/
theorem lookup_cons_eq_ite (k k₀ : κ) (a₀ : α) (es : List (κ × α)) :
    ((k₀, a₀) :: es).lookup k = if k = k₀ then some a₀ else es.lookup k := by
  rw [List.lookup_cons]
  by_cases h : k = k₀
  · simp [h]
  · simp [beq_false_of_ne h, h]

/-- What is inserted is found under its key and changes no other. -/
theorem lookup_insertEntry (k k' : κ) (a : α) (es : List (κ × α)) :
    (insertEntry k a es).lookup k' = if k' = k then some a else es.lookup k' := by
  induction es with
  | nil => exact lookup_cons_eq_ite k' k a []
  | cons e rest ih =>
    obtain ⟨k₀, a₀⟩ := e
    unfold insertEntry
    -- the entry is put in place of one of its key, or behind all others
    by_cases h₀ : k₀ = k
    · subst h₀
      simp only [if_true, lookup_cons_eq_ite]
      split <;> rfl
    · simp only [h₀, if_false, lookup_cons_eq_ite, ih]
      by_cases h : k' = k₀
      · subst h; simp only [if_true, h₀, if_false]
      · simp only [h, if_false]

/-- The map holds what was last inserted under a key. -/
theorem get?_insert (m : OrderedMap κ α) (k k' : κ) (a : α) :
    (m.insert k a).get? k' = if k' = k then some a else m.get? k' :=
  lookup_insertEntry k k' a m.entries

theorem mem_insertEntry {k : κ} {a : α} {es : List (κ × α)} {e : κ × α}
    (h : e ∈ insertEntry k a es) : e = (k, a) ∨ e ∈ es := by
  induction es with
  | nil => exact Or.inl (List.mem_singleton.1 h)
  | cons e' rest ih =>
    obtain ⟨k', a'⟩ := e'
    unfold insertEntry at h
    split at h
    · rcases List.mem_cons.1 h with h | h
      · exact Or.inl h
      · exact Or.inr (List.mem_cons_of_mem _ h)
    · rcases List.mem_cons.1 h with h | h
      · exact Or.inr (h ▸ List.mem_cons_self)
      · exact (ih h).imp_right (List.mem_cons_of_mem _)

/-- What is in a map after insertions was there before or was inserted. -/
theorem mem_of_mem_insertMany {m : OrderedMap κ α} {pairs : List (κ × α)} {pair : κ × α}
    (h : pair ∈ (m.insertMany pairs).entries) : pair ∈ m.entries ∨ pair ∈ pairs := by
  induction pairs generalizing m with
  | nil => exact Or.inl h
  | cons first rest ih =>
    rcases ih h with hmap | hrest
    · rcases mem_insertEntry hmap with rfl | hold
      · exact Or.inr List.mem_cons_self
      · exact Or.inl hold
    · exact Or.inr (List.mem_cons_of_mem first hrest)

/-- What is in the map of a list is in the list. -/
theorem mem_of_mem_ofList {pairs : List (κ × α)} {pair : κ × α}
    (h : pair ∈ (ofList pairs).entries) : pair ∈ pairs :=
  (mem_of_mem_insertMany h).resolve_left List.not_mem_nil

/-- A key that is not there yet is appended with its value. -/
theorem insertEntry_of_not_mem {k : κ} {a : α} {es : List (κ × α)}
    (h : k ∉ es.map Prod.fst) : insertEntry k a es = es ++ [(k, a)] := by
  induction es with
  | nil => rfl
  | cons e rest ih =>
    obtain ⟨k', a'⟩ := e
    simp only [List.map_cons, List.mem_cons, not_or] at h
    have hne : k' ≠ k := fun e => h.1 e.symm
    simp only [insertEntry, hne, if_false, ih h.2, List.cons_append]

/-- Pairs whose keys are distinct, and new to the map, are appended as they are. -/
theorem entries_insertMany {pairs : List (κ × α)} {m : OrderedMap κ α}
    (h : (m.entries ++ pairs).map Prod.fst |>.Nodup) :
    (m.insertMany pairs).entries = m.entries ++ pairs := by
  induction pairs generalizing m with
  | nil => simp [insertMany]
  | cons p rest ih =>
    obtain ⟨k, a⟩ := p
    have hk : k ∉ m.entries.map Prod.fst := by
      intro hmem
      rw [List.map_append, List.nodup_append] at h
      exact h.2.2 k hmem k (by simp) rfl
    have he : (m.insert k a).entries = m.entries ++ [(k, a)] := insertEntry_of_not_mem hk
    -- the key is at the end now, so the others are still new
    have := @ih (m.insert k a) (by rw [he, List.append_assoc]; exact h)
    rw [he, List.append_assoc] at this
    exact this

/-- Pairs with distinct keys are the entries of their map, unchanged. -/
theorem entries_ofList {pairs : List (κ × α)} (h : (pairs.map Prod.fst).Nodup) :
    (ofList pairs).entries = pairs :=
  @entries_insertMany _ _ _ pairs empty h

end OrderedMap

end SearchRules
