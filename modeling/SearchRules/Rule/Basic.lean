import SearchRules.Draft
import SearchRules.Rule.Record

/-!
# Rules

A rule is what one entry of a request says once its arguments have been read.
It does two things: it can be written as arguments again (`Rule.arguments`), and
it can be applied to a draft (`Rule.apply`).

Reading and writing use different sides of the argument forms: a rule is always
written as an object and with the first name of each field, and it is read from
arrays, objects and other names as well.
-/

namespace SearchRules

/-- What an entry of a request says. -/
inductive Rule where
  /-- A field has to match a value, under a clause. -/
  | condition (c : Clause) (field : String) (value : Json) (attributes : Option Attributes)
  /-- One of several fields has to match a value. -/
  | multiMatch (fields : List String) (value : Json) (attributes : Option Attributes)
  /-- A field has to lie within bounds, under a clause; the values are operators
  and operands in turn. -/
  | range (field : String) (values : List Json) (c : Clause)

/-- A change of a draft that depends on arguments. -/
abbrev Handler := Json → DraftM Unit

/-! ## Fields and records -/

namespace Field

/-- A required field of the given name. -/
def required {α : Type} (name : String) (read : Json → Except DecodeError α) : Field α :=
  ⟨name, [], read, none⟩

/-- The field that a rule is about. -/
def field : Field String := required "field" Json.asString

/-- The fields that a rule is about. -/
def fields : Field (List String) := required "fields" Json.asStrings

/-- The value of a rule, which may be anything. -/
def value : Field Json := required "value" .ok

/-- The values of a range. -/
def values : Field (List Json) := required "values" Json.asItems

/-- The extra settings, which may be left out. -/
def attributes : Field (Option Attributes) :=
  ⟨"attributes", [], Json.asOptionalMap, some none⟩

/-- The clause of a range, under either of two names. -/
def clause : Field Clause := ⟨"type", ["clause_type"], Clause.ofJson, none⟩

end Field

namespace Record

/-- The arguments of a condition. -/
def condition : Record String Json (Option Attributes) :=
  ⟨.clause, .field, .value, .attributes⟩

/-- The arguments of a multi-field match. -/
def multiMatch : Record (List String) Json (Option Attributes) :=
  ⟨.multiMatch, .fields, .value, .attributes⟩

/-- The arguments of a range. -/
def range : Record String (List Json) Clause := ⟨.range, .field, .values, .clause⟩

end Record

namespace Rule

/-- The kind of a rule. -/
def kind : Rule → RuleKind
  | .condition c _ _ _ => .clause c
  | .multiMatch _ _ _ => .multiMatch
  | .range _ _ _ => .range

/-- The rule of a kind that arguments write. -/
def ofArguments (kind : RuleKind) (args : Json) : Except DecodeError Rule :=
  match kind with
  | .clause c => do
    let (field, value, attributes) ← Record.condition.read args
    pure (.condition c field value attributes)
  | .multiMatch => do
    let (fields, value, attributes) ← Record.multiMatch.read args
    pure (.multiMatch fields value attributes)
  | .range => do
    let (field, values, c) ← Record.range.read args
    pure (.range field values c)

/-- The member that carries extra settings, if there is one. -/
def attributesMember : Option Attributes → List (String × Json)
  | none => []
  | some attributes => [("attributes", .ofMap attributes)]

/-- A rule as arguments. A multi-field match does not mention settings that are
empty. -/
def arguments : Rule → Json
  | .condition _ field value attributes =>
    .object ([("field", .string field), ("value", value)] ++ attributesMember attributes)
  | .multiMatch fields value attributes =>
    .object ([("fields", .array (fields.map .string)), ("value", value)] ++
      attributesMember (attributes.filter fun m => !m.isEmpty))
  | .range field values c =>
    .object [("field", .string field), ("values", .array values), ("type", c.toJson)]

/-- Put a rule into a draft. Settings that are left out are empty. -/
def apply : Rule → DraftM Unit
  | .condition c field value attributes =>
    DraftM.condition c field value (attributes.getD .empty)
  | .multiMatch fields value attributes =>
    DraftM.multiMatch fields value (attributes.getD .empty)
  | .range field values c => DraftM.range field values c

end Rule

/-- What a kind of rule does with its arguments: read them, and put the rule they
write into the draft. -/
def RuleKind.handler (kind : RuleKind) : Handler := fun args =>
  match Rule.ofArguments kind args with
  | .ok rule => rule.apply
  | .error e => throw (.arguments kind.name (.shape e))

end SearchRules
