import SearchRules.Draft
import SearchRules.Proofs.Json.Equality

/-!
# Fragments of equal rules

The body of a fragment is a map that is written in a certain order, and settings
may override what stands there before. What it *holds* has a description without
order (`get?_body`, `get?_multiMatchBody`), and so rules whose values and
settings are equal become equal fragments, in whatever order their settings were
given.

> `alike_term`, `alike_matching`, `alike_multiMatch`, `alike_range`: one for each
> way to search.
-/

namespace SearchRules

/-- Conditions with equal values and settings. -/
structure Condition.Alike (c d : Condition) : Prop where
  value : Json.Alike c.value d.value
  attributes : OrderedMap.Agree Json.Alike c.attributes d.attributes

/-- Matches of the same fields with equal values and settings. -/
structure MultiMatch.Alike (m n : MultiMatch) : Prop where
  fields : m.fields = n.fields
  value : Json.Alike m.value n.value
  attributes : OrderedMap.Agree Json.Alike m.attributes n.attributes

/-- Ranges of one clause whose bounds are equal one by one. -/
structure Range.Alike (r s : Range) : Prop where
  bounds : List.Forall₂ (Paired Json.Alike) r.bounds s.bounds
  clause : r.clause = s.clause

theorem Json.alike_string (s : String) : Json.Alike (.string s) (.string s) :=
  alike_refl trivial

namespace OrderedMap

/-- A list without a key holds under the others what it held. -/
theorem lookup_filter_ne {α : Type} (key k : String) (entries : List (String × α)) :
    (entries.filter fun e => e.1 ≠ key).lookup k =
      if k = key then none else entries.lookup k := by
  -- on the list, by whether its first entry is dropped
  induction entries with
  | nil => simp
  | cons e rest ih =>
    obtain ⟨k₀, a⟩ := e
    by_cases h₀ : k₀ = key
    · rw [List.filter_cons_of_neg (by simp [h₀]), ih, lookup_cons_eq_ite]
      by_cases hk : k = key
      · rw [if_pos hk, if_pos hk]
      · rw [if_neg hk, if_neg hk, if_neg fun h => hk (h.trans h₀)]
    · rw [List.filter_cons_of_pos (by simp [h₀]), lookup_cons_eq_ite, lookup_cons_eq_ite, ih]
      by_cases hk : k = k₀
      · rw [if_pos hk, if_pos hk, if_neg fun h => h₀ (hk.symm.trans h)]
      · rw [if_neg hk, if_neg hk]

/-- Pairs with distinct keys are found from either end. -/
theorem lookup_reverse {α : Type} {entries : List (String × α)}
    (h : (entries.map Prod.fst).Nodup) (k : String) :
    entries.reverse.lookup k = entries.lookup k :=
  lookup_of_perm entries.reverse_perm h k

end OrderedMap

namespace Fragment

/-! ## What bodies hold -/

/-- The value of a rule under its own key, and the settings under all others. -/
theorem get?_body (key : String) (c : Condition) (k : String) :
    (body key c).get? k = if k = key then some c.value else c.attributes.get? k := by
  have hnd : ((c.attributes.entries.filter fun e => e.1 ≠ key).map Prod.fst).Nodup :=
    c.attributes.nodup.sublist (List.filter_sublist.map Prod.fst)
  rw [body, OrderedMap.get?_insertMany, OrderedMap.lookup_reverse hnd,
    OrderedMap.lookup_filter_ne, OrderedMap.get?_insert]
  -- no setting is left under the key of the value, which was written before them
  by_cases hk : k = key
  · rw [if_pos hk, if_pos hk, if_pos hk]
    rfl
  · rw [if_neg hk, if_neg hk, if_neg hk]
    exact Option.or_none

/-- Settings first, and then what every match of several fields has. -/
theorem get?_multiMatchBody (m : MultiMatch) (k : String) :
    (multiMatchBody m).get? k =
      (m.attributes.get? k).or
        (if k = "fields" then some (.array (m.fields.map .string))
          else if k = "query" then some m.value else none) := by
  rw [multiMatchBody, OrderedMap.get?_insertMany,
    OrderedMap.lookup_reverse m.attributes.nodup, OrderedMap.get?_insert,
    OrderedMap.get?_insert]
  rfl

/-! ## Equal rules, equal fragments -/

theorem alike_leaf {v w : Json} (h : Json.Alike v w) (search field : String) :
    Json.Alike (leaf search field v) (leaf search field w) :=
  Json.alike_single (Json.alike_single h field) search

/-- Bodies are alike: the value stands under the key on both sides, and the settings
agree under the others. -/
theorem alike_body {c d : Condition} (h : c.Alike d) (key : String) :
    Json.Alike (.ofMap (body key c)) (.ofMap (body key d)) := by
  refine Json.alike_ofMap fun k => ?_
  rw [get?_body, get?_body]
  split
  · exact .some h.value
  · exact h.attributes k

/-- Equal settings are left out, or merged, on both sides. -/
theorem alike_term {c d : Condition} (h : c.Alike d) (merge : Bool) (field : String) :
    Json.Alike (term merge field c) (term merge field d) := by
  refine alike_leaf ?_ "term" field
  rw [h.attributes.isEmpty_eq]
  split
  · exact alike_body h "value"
  · exact h.value

theorem alike_matching {c d : Condition} (h : c.Alike d) (field : String) :
    Json.Alike (matching field c) (matching field d) := by
  refine alike_leaf ?_ "match" field
  rw [h.attributes.isEmpty_eq]
  split
  · exact h.value
  · exact alike_body h "query"

/-- Multi-field matches that agree become alike fragments, although settings may replace
`query` and `fields`. -/
theorem alike_multiMatch {m n : MultiMatch} (h : m.Alike n) :
    Json.Alike (multiMatch m) (multiMatch n) := by
  refine Json.alike_single (Json.alike_ofMap fun k => ?_) "multi_match"
  have hfields : Json.Alike (.array (m.fields.map .string)) (.array (n.fields.map .string)) := by
    rw [h.fields]
    refine Json.alike_array ?_
    rw [List.forall₂_same]
    intro v hv
    obtain ⟨s, _, rfl⟩ := List.mem_map.1 hv
    exact Json.alike_string s
  rw [get?_multiMatchBody, get?_multiMatchBody]
  -- a setting of that name, or the part of the body that it would replace
  refine rel_or (h.attributes k) ?_
  split
  · exact .some hfields
  · split
    · exact .some h.value
    · exact .none

/-- Bounds that agree one by one make alike ranges. -/
theorem alike_range {r s : Range} (h : r.Alike s) (field : String) :
    Json.Alike (range field r) (range field s) := by
  refine alike_leaf (Json.alike_ofMap fun k => ?_) "range" field
  rw [OrderedMap.ofList, OrderedMap.get?_insertMany, OrderedMap.ofList,
    OrderedMap.get?_insertMany]
  -- the last of several bounds with one operator counts, so look from the end
  have hlast := lookup_of_forall₂ (List.forall₂_reverse_iff.2 h.bounds) k
  rwa [show OrderedMap.empty.get? k = (none : Option Json) from rfl, Option.or_none,
    Option.or_none]

end Fragment

end SearchRules
