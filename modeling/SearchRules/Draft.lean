import SearchRules.Document
import SearchRules.RuleError

/-!
# Drafts

The rules of one request gather in a draft before they are written as a query.
Conditions and ranges are kept by field, so a later rule of the same kind on the
same field takes the place of the earlier one; multi-field matches only add up.

A handler changes a draft in `DraftM`. A change that is refused ends the handler
and leaves the draft as it was when it was refused, so that what the handler did
before can be seen. `DraftM.range` alone can be refused, and it looks at all its
values first: a refused range leaves no trace.

Each rule of a draft becomes one fragment, an object whose one key says how the
field is searched. The merges in their bodies differ in who wins.

> In a `match` or `term` body the value of the rule stands first and wins over a
> setting of the same name.
>
> In a `multi_match` body `query` and `fields` stand first, and a setting of
> that name replaces them where they stand.
>
> In a `range` body a repeated operator keeps its place and takes the later
> operand.

The conditions under each clause become its fragments, in document order of the
clauses; a clause without any is left out. Multi-field matches take the whole
place of the conditions under `must`. The ranges come last, one after the other,
each at the end of its clause, which may then be new.
-/

namespace SearchRules

/-- What a field has to match, and the extra settings of the leaf. -/
structure Condition where
  /-- The value that the field is compared with. -/
  value : Json
  /-- The extra settings. -/
  attributes : Attributes

/-- One value that is looked for in several fields. -/
structure MultiMatch where
  /-- The fields, in the order given. -/
  fields : List String
  /-- The value. -/
  value : Json
  /-- The extra settings. -/
  attributes : Attributes

/-- The bounds of a field and the clause that they go under. -/
structure Range where
  /-- Operators with their operands, in the order given. -/
  bounds : List (String × Json)
  /-- The clause. -/
  clause : Clause

/-- Read operators and operands in turn, the first of them at `position`. An
operator must be a string; a value without a partner at the end is left out. -/
def readBounds (position : Nat) : List Json → Except Nat (List (String × Json))
  | .string operator :: operand :: rest =>
    (readBounds (position + 2) rest).map ((operator, operand) :: ·)
  | _ :: _ :: _ => .error position
  | _ => .ok []

/-- The bounds that values make. That they pair up is looked at first. -/
def Range.bounds? (values : List Json) : Except RuleError (List (String × Json)) :=
  if values.length % 2 = 1 then .error (.violation .unpairedBounds)
  else
    match readBounds 0 values with
    | .ok bounds => .ok bounds
    | .error position => .error (.arguments RuleKind.range.name (.operator position))

/-- The rules gathered so far. -/
structure Draft where
  /-- The conditions under `filter`, by field. -/
  filters : OrderedMap String Condition
  /-- The conditions under `must`, by field. -/
  musts : OrderedMap String Condition
  /-- The conditions under `must_not`, by field. -/
  mustNots : OrderedMap String Condition
  /-- The conditions under `should`, by field. -/
  shoulds : OrderedMap String Condition
  /-- The multi-field matches, in order. -/
  multiMatches : List MultiMatch
  /-- The ranges, by field. -/
  ranges : OrderedMap String Range

namespace Draft

/-- The draft without rules. -/
def empty : Draft := ⟨.empty, .empty, .empty, .empty, [], .empty⟩

instance : Inhabited Draft := ⟨empty⟩

/-- The conditions under a clause, by field. -/
def conditions (d : Draft) : Clause → OrderedMap String Condition
  | .filter => d.filters
  | .must => d.musts
  | .mustNot => d.mustNots
  | .should => d.shoulds

/-- The draft with other conditions under a clause. -/
def withConditions (d : Draft) (c : Clause) (m : OrderedMap String Condition) : Draft :=
  match c with
  | .filter => { d with filters := m }
  | .must => { d with musts := m }
  | .mustNot => { d with mustNots := m }
  | .should => { d with shoulds := m }

/-- Put a condition on a field under a clause, over an earlier one. -/
def setCondition (d : Draft) (c : Clause) (field : String) (condition : Condition) : Draft :=
  d.withConditions c ((d.conditions c).insert field condition)

/-- Add a multi-field match. -/
def addMultiMatch (d : Draft) (m : MultiMatch) : Draft :=
  { d with multiMatches := d.multiMatches ++ [m] }

/-- Put a range on a field, over an earlier one. -/
def setRange (d : Draft) (field : String) (r : Range) : Draft :=
  { d with ranges := d.ranges.insert field r }

/-- Whether there is no rule at all. -/
def isEmpty (d : Draft) : Bool :=
  Clause.all.all (fun c => (d.conditions c).isEmpty) && d.multiMatches.isEmpty &&
    d.ranges.isEmpty

theorem conditions_withConditions (d : Draft) (c c' : Clause)
    (m : OrderedMap String Condition) :
    (d.withConditions c m).conditions c' = if c' = c then m else d.conditions c' := by
  cases c <;> cases c' <;> rfl

/-- A condition goes into the map of its own clause and into no other. -/
theorem conditions_setCondition (d : Draft) (c c' : Clause) (field : String)
    (condition : Condition) :
    (d.setCondition c field condition).conditions c' =
      if c' = c then (d.conditions c).insert field condition else d.conditions c' :=
  conditions_withConditions d c c' _

theorem multiMatches_setCondition (d : Draft) (c : Clause) (field : String)
    (condition : Condition) :
    (d.setCondition c field condition).multiMatches = d.multiMatches := by
  cases c <;> rfl

theorem ranges_setCondition (d : Draft) (c : Clause) (field : String)
    (condition : Condition) :
    (d.setCondition c field condition).ranges = d.ranges := by
  cases c <;> rfl

end Draft

/-- A change of a draft that may be refused. -/
abbrev DraftM := ExceptT RuleError (StateM Draft)

namespace DraftM

/-- Change a draft: whether the change was refused, and the draft after it. -/
def exec {α : Type} (change : DraftM α) (d : Draft) : Except RuleError α × Draft :=
  Id.run ((ExceptT.run change).run d)

/-- Put a condition on a field under a clause. -/
def condition (c : Clause) (field : String) (value : Json) (attributes : Attributes) :
    DraftM Unit :=
  modify fun d => d.setCondition c field ⟨value, attributes⟩

/-- Add a multi-field match. -/
def multiMatch (fields : List String) (value : Json) (attributes : Attributes) :
    DraftM Unit :=
  modify fun d => d.addMultiMatch ⟨fields, value, attributes⟩

/-- Put a range on a field under a clause. The values are operators and operands
in turn. -/
def range (field : String) (values : List Json) (c : Clause) : DraftM Unit :=
  match Range.bounds? values with
  | .ok bounds => modify fun d => d.setRange field ⟨bounds, c⟩
  | .error e => throw e

theorem exec_condition (c : Clause) (field : String) (value : Json)
    (attributes : Attributes) (d : Draft) :
    (condition c field value attributes).exec d =
      (.ok (), d.setCondition c field ⟨value, attributes⟩) := rfl

theorem exec_multiMatch (fields : List String) (value : Json) (attributes : Attributes)
    (d : Draft) :
    (multiMatch fields value attributes).exec d =
      (.ok (), d.addMultiMatch ⟨fields, value, attributes⟩) := rfl

theorem exec_range (field : String) (values : List Json) (c : Clause) (d : Draft) :
    (range field values c).exec d =
      match Range.bounds? values with
      | .ok bounds => (.ok (), d.setRange field ⟨bounds, c⟩)
      | .error e => (.error e, d) := by
  unfold range
  cases Range.bounds? values <;> rfl

end DraftM

/-! ## Fragments of a query -/

namespace Fragment

/-- A fragment that searches one field. -/
def leaf (search field : String) (body : Json) : Json :=
  .object [(search, .object [(field, body)])]

/-- The value of a rule under `key`, and after it the settings of other names. -/
def body (key : String) (c : Condition) : OrderedMap String Json :=
  (OrderedMap.empty.insert key c.value).insertMany
    (c.attributes.entries.filter fun setting => setting.1 ≠ key)

/-- An exact comparison. The settings are left out unless they are to be merged. -/
def term (merge : Bool) (field : String) (c : Condition) : Json :=
  leaf "term" field
    (if merge && !c.attributes.isEmpty then .ofMap (body "value" c) else c.value)

/-- A comparison of words. -/
def matching (field : String) (c : Condition) : Json :=
  leaf "match" field (if c.attributes.isEmpty then c.value else .ofMap (body "query" c))

/-- The body of a comparison of words in several fields. -/
def multiMatchBody (m : MultiMatch) : OrderedMap String Json :=
  ((OrderedMap.empty.insert "query" m.value).insert "fields"
    (.array (m.fields.map .string))).insertMany m.attributes.entries

/-- A comparison of words in several fields. -/
def multiMatch (m : MultiMatch) : Json :=
  .object [("multi_match", .ofMap (multiMatchBody m))]

/-- A comparison with bounds. -/
def range (field : String) (r : Range) : Json :=
  leaf "range" field (.ofMap (.ofList r.bounds))

end Fragment

/-! ## From a draft to a document -/

namespace Draft

/-- The fragments of a clause before any range. -/
def mainFragments (d : Draft) (config : Config) : Clause → List Json
  | .filter =>
    d.filters.entries.map fun (field, c) =>
      Fragment.term config.mergeFilterAttributes field c
  | .must =>
    if d.multiMatches.isEmpty then
      d.musts.entries.map fun (field, c) => Fragment.matching field c
    else d.multiMatches.map Fragment.multiMatch
  | .mustNot => d.mustNots.entries.map fun (field, c) => Fragment.matching field c
  | .should => d.shoulds.entries.map fun (field, c) => Fragment.matching field c

/-- A document with the fragments of a clause, if there are any. -/
def renderClause (d : Draft) (config : Config) (document : Document) (c : Clause) : Document :=
  match d.mainFragments config c with
  | [] => document
  | fragments => document.set c fragments

/-- The document of a draft. -/
def render (d : Draft) (config : Config) : Document :=
  d.ranges.entries.foldl
    (fun document (field, r) => document.push r.clause (Fragment.range field r))
    (Clause.all.foldl (d.renderClause config) .empty)

end Draft

end SearchRules
