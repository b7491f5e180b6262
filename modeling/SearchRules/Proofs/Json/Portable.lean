import SearchRules.Proofs.Json.Grammar
import SearchRules.Proofs.OrderedMap.LastWrite

/-!
# Values that survive their text

A value comes back from its own text, the same down to the order of members, if
nothing about it is lost on the way: no object repeats a key, no number is a
float, and it nests no deeper than the reader goes. With the depth as a parameter
that is a notion which arrays and objects pass on to what they hold, one level
less deep (`portable_array_iff`, `portable_object_iff`).

> `portable_normalize`, `portable_of_read?`: what is read from a text is portable,
> as deep as the text nests or less, since of a repeated key only the last value
> stays. By induction on the value.
>
> `read?_write_of_portable`: a portable value comes back from its text.
-/

namespace SearchRules.Json

theorem itemsDepth_le_iff {items : List Json} {n : Nat} :
    itemsDepth items ≤ n ↔ ∀ v ∈ items, v.depth ≤ n := by
  induction items with
  | nil => simp [itemsDepth]
  | cons v rest ih => rw [itemsDepth, Nat.max_le, ih, List.forall_mem_cons]

theorem membersDepth_le_iff {members : List (String × Json)} {n : Nat} :
    membersDepth members ≤ n ↔ ∀ m ∈ members, m.2.depth ≤ n := by
  induction members with
  | nil => simp [membersDepth]
  | cons m rest ih => rw [membersDepth, Nat.max_le, ih, List.forall_mem_cons]

theorem itemsFloatFree_iff {items : List Json} :
    itemsFloatFree items = true ↔ ∀ v ∈ items, v.floatFree = true := by
  induction items with
  | nil => simp [itemsFloatFree]
  | cons v rest ih => simp [itemsFloatFree, ih]

theorem membersFloatFree_iff {members : List (String × Json)} :
    membersFloatFree members = true ↔ ∀ m ∈ members, m.2.floatFree = true := by
  induction members with
  | nil => simp [membersFloatFree]
  | cons m rest ih => simp [membersFloatFree, ih]

/-- A value that is written without loss and nests at most `n` arrays and objects. -/
structure Portable (n : Nat) (v : Json) : Prop where
  /-- No object repeats a key. -/
  wellFormed : v.WellFormed
  /-- No number is a float. -/
  floatFree : v.floatFree = true
  /-- It nests no deeper. -/
  depth_le : v.depth ≤ n

variable {n k : Nat} {v : Json} {items : List Json} {members : List (String × Json)}

theorem Portable.mono (h : v.Portable n) (hn : n ≤ k) : v.Portable k :=
  ⟨h.wellFormed, h.floatFree, Nat.le_trans h.depth_le hn⟩

theorem portable_null : null.Portable n := ⟨trivial, rfl, Nat.zero_le n⟩

theorem portable_string (s : String) : (string s).Portable n := ⟨trivial, rfl, Nat.zero_le n⟩

/-! ## Arrays and objects -/

/-- An array is one level deeper than its items. -/
theorem portable_array_iff : (array items).Portable (n + 1) ↔ ∀ v ∈ items, v.Portable n := by
  constructor
  · intro h v hv
    exact ⟨itemsWellFormed_iff.1 h.wellFormed v hv, itemsFloatFree_iff.1 h.floatFree v hv,
      itemsDepth_le_iff.1 (Nat.le_of_succ_le_succ h.depth_le) v hv⟩
  · intro h
    exact ⟨itemsWellFormed_iff.2 fun v hv => (h v hv).wellFormed,
      itemsFloatFree_iff.2 fun v hv => (h v hv).floatFree,
      Nat.succ_le_succ (itemsDepth_le_iff.2 fun v hv => (h v hv).depth_le)⟩

/-- An object is one level deeper than its values, and its keys are distinct. -/
theorem portable_object_iff :
    (object members).Portable (n + 1) ↔
      (members.map Prod.fst).Nodup ∧ ∀ m ∈ members, m.2.Portable n := by
  constructor
  · intro h
    refine ⟨h.wellFormed.1, fun m hm => ?_⟩
    exact ⟨membersWellFormed_iff.1 h.wellFormed.2 m hm, membersFloatFree_iff.1 h.floatFree m hm,
      membersDepth_le_iff.1 (Nat.le_of_succ_le_succ h.depth_le) m hm⟩
  · rintro ⟨hnd, h⟩
    exact ⟨⟨hnd, membersWellFormed_iff.2 fun m hm => (h m hm).wellFormed⟩,
      membersFloatFree_iff.2 fun m hm => (h m hm).floatFree,
      Nat.succ_le_succ (membersDepth_le_iff.2 fun m hm => (h m hm).depth_le)⟩

/-- The keys of a map are distinct, so only its values count. -/
theorem portable_ofMap_iff {m : OrderedMap String Json} :
    (ofMap m).Portable (n + 1) ↔ ∀ e ∈ m.entries, e.2.Portable n := by
  rw [ofMap, portable_object_iff]
  exact and_iff_right m.nodup

/-- An object of one member is one level deeper than its value. -/
theorem portable_single_iff {key : String} :
    (object [(key, v)]).Portable (n + 1) ↔ v.Portable n := by
  rw [portable_object_iff, List.forall_mem_singleton]
  exact and_iff_right (List.nodup_singleton key)

/-- What stands in an array is at least as portable as the array. -/
theorem Portable.of_mem_array (h : (array items).Portable n) (hv : v ∈ items) :
    v.Portable n := by
  cases n with
  | zero => exact absurd h.depth_le (Nat.not_succ_le_zero _)
  | succ n => exact (portable_array_iff.1 h v hv).mono (Nat.le_succ n)

/-- What stands in an object is at least as portable as the object. -/
theorem Portable.of_mem_object (h : (object members).Portable n) {m : String × Json}
    (hm : m ∈ members) : m.2.Portable n := by
  cases n with
  | zero => exact absurd h.depth_le (Nat.not_succ_le_zero _)
  | succ n => exact ((portable_object_iff.1 h).2 m hm).mono (Nat.le_succ n)

/-! ## Reading and writing -/

mutual

/-- The normal form is no deeper than the value: it only leaves members out. -/
theorem portable_normalize : ∀ (v : Json) (n : Nat) (_ : v.floatFree = true) (_ : v.depth ≤ n),
    v.normalize.Portable n
  | .null, _, _, _ => portable_null
  | .bool _, n, _, _ => ⟨trivial, rfl, Nat.zero_le n⟩
  | .number _, n, hf, _ => ⟨trivial, hf, Nat.zero_le n⟩
  | .string s, _, _, _ => portable_string s
  | .array items, n + 1, hf, hd =>
    portable_array_iff.2 (portable_normalizeItems items n hf (Nat.le_of_succ_le_succ hd))
  | .object members, n + 1, hf, hd => by
    have h := portable_normalizeMembers members n hf (Nat.le_of_succ_le_succ hd)
    refine portable_ofMap_iff.2 fun m hm => ?_
    exact h m (OrderedMap.mem_of_mem_ofList hm)

theorem portable_normalizeItems : ∀ (items : List Json) (n : Nat)
    (_ : itemsFloatFree items = true) (_ : itemsDepth items ≤ n),
    ∀ v ∈ normalizeItems items, v.Portable n
  | [], _, _, _ => nofun
  | v :: rest, n, hf, hd => by
    have hf : v.floatFree = true ∧ itemsFloatFree rest = true := Bool.and_eq_true_iff.1 hf
    have hd : v.depth ≤ n ∧ itemsDepth rest ≤ n := Nat.max_le.1 hd
    exact List.forall_mem_cons.2
      ⟨portable_normalize v n hf.1 hd.1, portable_normalizeItems rest n hf.2 hd.2⟩

theorem portable_normalizeMembers : ∀ (members : List (String × Json)) (n : Nat)
    (_ : membersFloatFree members = true) (_ : membersDepth members ≤ n),
    ∀ m ∈ normalizeMembers members, m.2.Portable n
  | [], _, _, _ => nofun
  | (key, v) :: rest, n, hf, hd => by
    have hf : v.floatFree = true ∧ membersFloatFree rest = true := Bool.and_eq_true_iff.1 hf
    have hd : v.depth ≤ n ∧ membersDepth rest ≤ n := Nat.max_le.1 hd
    exact List.forall_mem_cons.2
      ⟨portable_normalize v n hf.1 hd.1, portable_normalizeMembers rest n hf.2 hd.2⟩

end

/-- What is read from a text nests no deeper than the text does. -/
theorem portable_of_read? {text : String} {w : Json} (hspells : Spells text v)
    (hfloat : v.floatFree = true) (hdepth : v.depth ≤ n) (hread : read? text = some w) :
    w.Portable n := by
  rw [read?, parse?_of_scan hspells] at hread
  split at hread
  · exact Option.some.inj hread ▸ portable_normalize v n hfloat hdepth
  · cases hread

/-- The text of a value without floats spells the value. -/
theorem spells_write (h : v.floatFree = true) : Spells v.write v := scan_write h

/-- A value that is portable up to the depth of the reader comes back from its text
exactly. -/
theorem read?_write_of_portable (h : v.Portable maxDepth) : read? v.write = some v := by
  rw [read?_write h.floatFree, if_pos h.depth_le, normalize_of_wellFormed v h.wellFormed]

end SearchRules.Json
