import SearchRules.Proofs.Rule.Forms

/-!
# The parts of a rule's arguments

The arguments of every built-in rule are put together from the same few parts: a
field or several of them, a value, the values of a range, extra settings, a
clause. Here each part is described apart from how it is read: what it is called,
whether it may be left out, and what can be wrong with the value that is given to
it (`Part.Wrong`), together with what is then said.

> `RuleKind.parts`: the parts of each kind of rule, in declared order.
>
> `Field.reads_field`, …, `Field.reads_clause`: each field of a record reads its
> part, that is, it refuses the values that are wrong, for that reason.
-/

namespace SearchRules

/-- What is wrong with a value that should write a clause. -/
inductive Clause.Unwritten : Json → DecodeError → Prop
  /-- A string that no clause has for its name. -/
  | name {s : String} (h : ∀ c : Clause, s ≠ c.name) : Unwritten (.string s) (.unknownClause s)
  /-- An object without members, or with several. -/
  | keys {members : List (String × Json)} (h : members.length ≠ 1) :
    Unwritten (.object members) .notSingleKey
  /-- An object whose one key is no name, whatever stands under it. -/
  | key {s : String} {v : Json} (h : ∀ c : Clause, s ≠ c.name) :
    Unwritten (.object [(s, v)]) (.unknownClause s)
  /-- Something under the name of a clause. -/
  | payload {c : Clause} {v : Json} (h : v ≠ .null) :
    Unwritten (.object [(c.name, v)]) (.invalidType v .unit)
  /-- Neither a string nor an object. -/
  | other {v : Json} (hstring : ∀ s, v ≠ .string s) (hobject : ∀ members, v ≠ .object members) :
    Unwritten v (.invalidType v .clause)

/-- A part of the arguments of a rule. -/
inductive Part where
  /-- The field that a rule is about. -/
  | field
  /-- The fields that a rule is about. -/
  | fields
  /-- The value that is looked for. -/
  | value
  /-- The operators and operands of a range. -/
  | values
  /-- The extra settings. -/
  | attributes
  /-- The clause of a range. -/
  | clause

namespace Part

/-- What messages call the part. -/
def name : Part → String
  | .field => "field"
  | .fields => "fields"
  | .value => "value"
  | .values => "values"
  | .attributes => "attributes"
  | .clause => "type"

/-- The names under which an object may give the part. -/
def names : Part → List String
  | .clause => ["type", "clause_type"]
  | part => [part.name]

/-- Only the extra settings may be left out. -/
def Required (part : Part) : Prop := part ≠ .attributes

/-- What is wrong with a value that is given to the part. A value that is looked
for may be anything. -/
inductive Wrong : Part → Json → DecodeError → Prop
  | field {v : Json} (h : ∀ s, v ≠ .string s) : Wrong .field v (.invalidType v .string)
  | fields {v : Json} (h : ∀ items, v ≠ .array items) : Wrong .fields v (.invalidType v .sequence)
  /-- The first item that is no string is reported. -/
  | fieldsItem (before : List String) {v : Json} (after : List Json) (h : ∀ s, v ≠ .string s) :
    Wrong .fields (.array (before.map .string ++ v :: after)) (.invalidType v .string)
  | values {v : Json} (h : ∀ items, v ≠ .array items) : Wrong .values v (.invalidType v .sequence)
  | attributes {v : Json} (hnull : v ≠ .null) (h : ∀ members, v ≠ .object members) :
    Wrong .attributes v (.invalidType v .map)
  | clause {v : Json} {cause : DecodeError} (h : Clause.Unwritten v cause) : Wrong .clause v cause

/-- Some member has a name of the part. -/
def NamedIn (part : Part) (members : List (String × Json)) : Prop :=
  ∃ m ∈ members, m.1 ∈ part.names

end Part

namespace RuleKind

/-- The parts of the arguments, in declared order. -/
def parts : RuleKind → List Part
  | .clause _ => [.field, .value, .attributes]
  | .multiMatch => [.fields, .value, .attributes]
  | .range => [.field, .values, .clause]

/-- The record that the arguments are. -/
def recordKind : RuleKind → RecordKind
  | .clause _ => .clause
  | .multiMatch => .multiMatch
  | .range => .range

end RuleKind

/-! ## Values that are refused -/

namespace Clause

/-- The values that are refused as clauses, and what is said about each. -/
theorem ofJson_eq_error_iff {v : Json} {cause : DecodeError} :
    ofJson v = .error cause ↔ Unwritten v cause := by
  constructor
  · intro h
    unfold ofJson at h
    -- a string, an object of one member, another object, or anything else
    split at h
    · obtain ⟨hs, rfl⟩ := decodeName_eq_error_iff.1 h
      exact .name hs
    · rcases bind_eq_error_iff.1 h with hkey | ⟨c, hkey, hrest⟩
      · obtain ⟨hs, rfl⟩ := decodeName_eq_error_iff.1 hkey
        exact .key hs
      · rw [decodeName_eq_ok_iff.1 hkey]
        rcases bind_eq_error_iff.1 hrest with hunit | ⟨u, -, hpure⟩
        · obtain ⟨hv, rfl⟩ := Json.asUnit_eq_error_iff.1 hunit
          exact .payload hv
        · exact absurd hpure nofun
    · next members hmembers =>
      rw [← Except.error.inj h]
      refine .keys fun hlength => ?_
      obtain ⟨⟨key, w⟩, rfl⟩ := List.length_eq_one_iff.1 hlength
      exact hmembers key w rfl
    · next hstring _ hobject =>
      rw [← Except.error.inj h]
      exact .other hstring hobject
  · rintro (h | h | h | h | ⟨hstring, hobject⟩)
    · exact decodeName_eq_error_iff.2 ⟨h, rfl⟩
    · unfold ofJson
      split <;> simp_all
    · exact bind_eq_error_iff.2 (Or.inl (decodeName_eq_error_iff.2 ⟨h, rfl⟩))
    · refine bind_eq_error_iff.2 (Or.inr ⟨_, decodeName_name _, bind_eq_error_iff.2 (Or.inl ?_)⟩)
      exact Json.asUnit_eq_error_iff.2 ⟨h, rfl⟩
    · unfold ofJson
      split <;> simp_all

end Clause

/-! ## Fields read parts -/

namespace Field

/-- The field is the part: it goes by the same names, may be left out if the part
may, and refuses what is wrong with the part. -/
structure Reads {α : Type} (f : Field α) (part : Part) : Prop where
  name : f.name = part.name
  names : f.names = part.names
  missing : f.missing = none ↔ part.Required
  read : ∀ {v cause}, f.read v = .error cause ↔ part.Wrong v cause

/-- The field of a rule must be a string. -/
theorem reads_field : field.Reads .field where
  name := rfl
  names := rfl
  missing := iff_of_true rfl nofun
  read := by
    intro v cause
    refine Json.asString_eq_error_iff.trans ⟨?_, ?_⟩
    · rintro ⟨h, rfl⟩
      exact .field h
    · rintro (⟨h⟩)
      exact ⟨h, rfl⟩

/-- The fields of a multi-field match must be an array of strings. -/
theorem reads_fields : fields.Reads .fields where
  name := rfl
  names := rfl
  missing := iff_of_true rfl nofun
  read := by
    intro v cause
    refine bind_eq_error_iff.trans ?_
    simp only [Json.asItems_eq_error_iff, Json.asItems_eq_ok_iff, Json.mapM_asString_eq_error_iff]
    constructor
    · rintro (⟨h, rfl⟩ | ⟨items, rfl, before, w, after, rfl, hw, rfl⟩)
      · exact .fields h
      · exact .fieldsItem before after hw
    · rintro (_ | h | ⟨before, after, hw⟩)
      · exact Or.inl ⟨h, rfl⟩
      · exact Or.inr ⟨_, rfl, before, _, after, rfl, hw, rfl⟩

/-- The value of a rule may be anything. -/
theorem reads_value : value.Reads .value where
  name := rfl
  names := rfl
  missing := iff_of_true rfl nofun
  read := iff_of_false nofun nofun

/-- The values of a range must be an array. -/
theorem reads_values : values.Reads .values where
  name := rfl
  names := rfl
  missing := iff_of_true rfl nofun
  read := by
    intro v cause
    refine Json.asItems_eq_error_iff.trans ⟨?_, ?_⟩
    · rintro ⟨h, rfl⟩
      exact .values h
    · rintro (_ | _ | _ | h)
      exact ⟨h, rfl⟩

/-- The settings must be an object or `null`, and may be left out. -/
theorem reads_attributes : attributes.Reads .attributes where
  name := rfl
  names := rfl
  missing := iff_of_false nofun fun h => h rfl
  read := by
    intro v cause
    refine Json.asOptionalMap_eq_error_iff.trans ⟨?_, ?_⟩
    · rintro ⟨hnull, h, rfl⟩
      exact .attributes hnull h
    · rintro (_ | _ | _ | _ | ⟨hnull, h⟩)
      exact ⟨hnull, h, rfl⟩

/-- The clause of a range must be one, under either of its names. -/
theorem reads_clause : clause.Reads .clause where
  name := rfl
  names := rfl
  missing := iff_of_true rfl nofun
  read := by
    intro v cause
    refine Clause.ofJson_eq_error_iff.trans ⟨.clause, ?_⟩
    rintro (_ | _ | _ | _ | _ | h)
    exact h

end Field

end SearchRules
