import SearchRules.Draft
import SearchRules.Proofs.OrderedMap.LastWrite

/-!
# The shape of fragments

Every fragment is an object with one key, which says how it searches. Under that
key stands an object whose one key is the field that is searched, unless several
fields are: then the settings of the search stand there.

> `Fits`: what may stand under a clause.
>
> `target?`: search and field of a fragment, read off its keys. A multi-field
> match has no target, whatever its settings (`target?_multiMatch`).
-/

namespace SearchRules

/-- The one member of an object that has no other. -/
def Json.onlyMember? : Json → Option (String × Json)
  | .object [member] => some member
  | _ => none

/-- How the conditions under a clause search. -/
def Clause.search : Clause → String
  | .filter => "term"
  | _ => "match"

namespace Fragment

/-- How a fragment searches. -/
def search? (v : Json) : Option String := v.onlyMember?.map Prod.fst

/-- How a fragment searches, and the one field that it searches. -/
def target? (v : Json) : Option (String × String) := do
  let (search, body) ← v.onlyMember?
  let (field, _) ← body.onlyMember?
  some (search, field)

/-- The fragments that may stand under a clause. -/
inductive Fits : Clause → Json → Prop where
  /-- An exact comparison of one field. -/
  | term (field : String) (body : Json) : Fits .filter (leaf "term" field body)
  /-- A comparison of words in one field. -/
  | matching (c : Clause) (h : c ≠ .filter) (field : String) (body : Json) :
    Fits c (leaf "match" field body)
  /-- A comparison of words in several fields. -/
  | multiMatch (body : Json) : Fits .must (.object [("multi_match", body)])
  /-- Bounds on one field. -/
  | range (c : Clause) (field : String) (body : Json) : Fits c (leaf "range" field body)

/-- A condition under a clause. -/
def condition (merge : Bool) : Clause → String → Condition → Json
  | .filter => term merge
  | _ => matching

theorem search?_leaf (search field : String) (body : Json) :
    search? (leaf search field body) = some search := rfl

theorem target?_leaf (search field : String) (body : Json) :
    target? (leaf search field body) = some (search, field) := rfl

theorem search?_multiMatch (m : MultiMatch) : search? (multiMatch m) = some "multi_match" := rfl

/-- A condition is a leaf, of which the clause decides the search. -/
theorem condition_eq_leaf (merge : Bool) (c : Clause) (field : String) (cond : Condition) :
    ∃ body, condition merge c field cond = leaf c.search field body := by
  cases c <;> exact ⟨_, rfl⟩

theorem search?_condition (merge : Bool) (c : Clause) (field : String) (cond : Condition) :
    search? (condition merge c field cond) = some c.search := by
  obtain ⟨body, h⟩ := condition_eq_leaf merge c field cond
  rw [h, search?_leaf]

theorem target?_condition (merge : Bool) (c : Clause) (field : String) (cond : Condition) :
    target? (condition merge c field cond) = some (c.search, field) := by
  obtain ⟨body, h⟩ := condition_eq_leaf merge c field cond
  rw [h, target?_leaf]

/-- A condition goes under its clause, with settings or without. -/
theorem fits_condition (merge : Bool) (c : Clause) (field : String) (cond : Condition) :
    Fits c (condition merge c field cond) := by
  cases c with
  | filter => exact .term field _
  | must => exact .matching .must nofun field _
  | mustNot => exact .matching .mustNot nofun field _
  | should => exact .matching .should nofun field _

theorem search_ne_range (c : Clause) : c.search ≠ "range" := by cases c <;> decide

/-- Settings may replace `query` and `fields`, but not remove them. -/
theorem mem_keys_multiMatchBody (m : MultiMatch) :
    "query" ∈ (multiMatchBody m).keys ∧ "fields" ∈ (multiMatchBody m).keys := by
  have hkeys : ((OrderedMap.empty.insert "query" m.value).insert "fields"
      (.array (m.fields.map .string))).keys = ["query", "fields"] := rfl
  rw [multiMatchBody, OrderedMap.keys_insertMany, hkeys, List.mem_eraseDups, List.mem_eraseDups]
  exact ⟨List.mem_append_left _ (by decide), List.mem_append_left _ (by decide)⟩

/-- A multi-field match has no one field: two settings at least stand in it. -/
theorem target?_multiMatch (m : MultiMatch) : target? (multiMatch m) = none := by
  have hbody : (Json.ofMap (multiMatchBody m)).onlyMember? = none := by
    obtain ⟨hquery, hfields⟩ := mem_keys_multiMatchBody m
    rw [OrderedMap.keys] at hquery hfields
    unfold Json.ofMap
    generalize (multiMatchBody m).entries = settings at hquery hfields ⊢
    rcases settings with _ | ⟨setting, _ | ⟨other, rest⟩⟩
    · rfl
    · rw [List.map_singleton, List.mem_singleton] at hquery hfields
      exact absurd (hquery.trans hfields.symm) (by decide)
    · rfl
  show ((Json.ofMap (multiMatchBody m)).onlyMember?.bind fun member =>
    some ("multi_match", member.1)) = none
  rw [hbody]
  rfl

end Fragment

end SearchRules
