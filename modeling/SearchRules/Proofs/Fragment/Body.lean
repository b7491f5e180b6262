import SearchRules.Proofs.Fragment.Alike

/-!
# The bodies of fragments

The body of a fragment puts together what a rule says and settings of any names. It
is an object with keys in a certain order, each of them once, and under each key
stands the one or the other (`Laid`). Every merge has its own precedence, and none
of them moves a key: in a condition the rule wins, in a match of several fields the
settings win, and of bounds the later one wins.

> `keys_body`, `keys_multiMatchBody`: the keys of merged bodies in order. What they
> hold is told by `get?_body` and `get?_multiMatchBody`.
>
> `bodies_laid`: the bodies of all four kinds of fragments.
-/

namespace SearchRules.Fragment

open OrderedMap (keys_ofList get?_ofList)

/-- Members with the given keys in order, each key once, that hold the given values
and nothing under other keys. -/
structure Laid (members : List (String × Json)) (keys : List String)
    (held : String → Option Json) : Prop where
  order : members.map Prod.fst = keys
  once : keys.Nodup
  held : ∀ key, members.lookup key = held key

/-- What is laid out is told by the keys and the look-up of a map. -/
theorem laid_entries {m : OrderedMap String Json} {keys : List String}
    {held : String → Option Json} (hkeys : m.keys = keys) (hheld : ∀ key, m.get? key = held key) :
    Laid m.entries keys held :=
  ⟨hkeys, hkeys ▸ m.keys_nodup, hheld⟩

/-- The key of the rule, and then the names of other settings in their order. -/
theorem keys_body (key : String) (c : Condition) :
    (body key c).keys = key :: c.attributes.keys.filter (· ≠ key) := by
  have hsettings : (c.attributes.entries.filter fun setting => setting.1 ≠ key).map Prod.fst =
      c.attributes.keys.filter (· ≠ key) := by
    rw [OrderedMap.keys, List.filter_map]
    rfl
  have hnodup : (key :: c.attributes.keys.filter (· ≠ key)).Nodup :=
    List.nodup_cons.2 ⟨by simp, c.attributes.keys_nodup.filter _⟩
  rw [body, OrderedMap.keys_insertMany, hsettings]
  exact eraseDups_of_nodup hnodup

/-- The two keys of the rule, which settings of their names do not move, and then
the names of other settings in their order. -/
theorem keys_multiMatchBody (m : MultiMatch) :
    (multiMatchBody m).keys =
      ["query", "fields"] ++ m.attributes.keys.filter (· ∉ ["query", "fields"]) := by
  have hrule : ((OrderedMap.empty.insert "query" m.value).insert "fields"
      (.array (m.fields.map .string))).keys = ["query", "fields"] := rfl
  rw [multiMatchBody, OrderedMap.keys_insertMany, hrule]
  exact eraseDups_append_of_nodup (by decide) m.attributes.keys_nodup

/-- The value stands first, then the settings of other names in their order. -/
theorem laid_body (key : String) (c : Condition) :
    Laid (body key c).entries (key :: c.attributes.keys.filter (· ≠ key))
      fun name => if name = key then some c.value else c.attributes.get? name :=
  laid_entries (keys_body key c) (get?_body key c)

/-- A match with settings has the value of the rule under `query` and then all other
settings in their order, and so has an exact comparison under `value`, if settings
are merged. A match of several fields has `query` and `fields` and then all other
settings, and a setting wins wherever there is one. Bounds stand in the order in
which their operators first come, each operator with its last operand. -/
theorem bodies_laid :
    (∀ field (c : Condition), c.attributes.isEmpty = false →
      ∃ members, matching field c = leaf "match" field (.object members) ∧
        Laid members ("query" :: c.attributes.keys.filter (· ≠ "query"))
          fun name => if name = "query" then some c.value else c.attributes.get? name) ∧
    (∀ field (c : Condition), c.attributes.isEmpty = false →
      ∃ members, term true field c = leaf "term" field (.object members) ∧
        Laid members ("value" :: c.attributes.keys.filter (· ≠ "value"))
          fun name => if name = "value" then some c.value else c.attributes.get? name) ∧
    (∀ m : MultiMatch,
      ∃ members, multiMatch m = .object [("multi_match", .object members)] ∧
        Laid members (["query", "fields"] ++ m.attributes.keys.filter (· ∉ ["query", "fields"]))
          fun name => (m.attributes.get? name).or
            (if name = "query" then some m.value
              else if name = "fields" then some (.array (m.fields.map .string)) else none)) ∧
    ∀ field (r : Range),
      ∃ members, range field r = leaf "range" field (.object members) ∧
        Laid members (r.bounds.map Prod.fst).eraseDups
          fun operator => r.bounds.reverse.lookup operator := by
  refine ⟨fun field c h => ?_, fun field c h => ?_, fun m => ?_, fun field r => ?_⟩
  · refine ⟨_, ?_, laid_body "query" c⟩
    rw [matching, h]
    rfl
  · refine ⟨_, ?_, laid_body "value" c⟩
    rw [term, h]
    rfl
  · refine ⟨_, rfl, laid_entries (keys_multiMatchBody m) fun name => ?_⟩
    rw [get?_multiMatchBody]
    by_cases hfields : name = "fields"
    · subst hfields
      rfl
    · rw [if_neg hfields, if_neg hfields]
  · exact ⟨_, rfl, laid_entries (keys_ofList r.bounds) (get?_ofList r.bounds)⟩

/-- Settings that have the names of both merged keys in the middle. -/
theorem bodies_laid_over_settings :
    let c : Condition := ⟨.string "bob", .ofList
      [("boost", .null), ("query", .bool true), ("value", .bool false), ("operator", .null)]⟩
    c.attributes.isEmpty = false ∧
    (∃ members, matching "name" c = leaf "match" "name" (.object members) ∧
      members.map Prod.fst = ["query", "boost", "value", "operator"] ∧
      members.lookup "query" = some (.string "bob") ∧
      members.lookup "value" = some (.bool false)) ∧
    ∃ members, term true "name" c = leaf "term" "name" (.object members) ∧
      members.map Prod.fst = ["value", "boost", "query", "operator"] ∧
      members.lookup "query" = some (.bool true) ∧
      members.lookup "value" = some (.string "bob") := by
  intro c
  have hsettings : c.attributes.isEmpty = false := rfl
  obtain ⟨hmatching, hterm, -, -⟩ := bodies_laid
  obtain ⟨ms, hleaf, hlaid⟩ := hmatching "name" c hsettings
  obtain ⟨ns, hleaf', hlaid'⟩ := hterm "name" c hsettings
  exact ⟨hsettings,
    ⟨ms, hleaf, hlaid.order.trans (by decide), hlaid.held "query", hlaid.held "value"⟩,
    ⟨ns, hleaf', hlaid'.order.trans (by decide), hlaid'.held "query", hlaid'.held "value"⟩⟩

end SearchRules.Fragment
