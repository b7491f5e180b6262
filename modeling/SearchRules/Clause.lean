/-!
# Clauses of a bool query and kinds of rules

A bool query sorts its fragments into four clauses. Their names are part of the
query language, and a name stands for one clause only: `Clause.ofName?_eq_some_iff`.

The names are spelled twice. `Clause.name` has them written out; what is derived
for encoding and decoding makes them out of the labels of the clauses, in snake
case (`Clause.derivedName`). `Clause.derivedName_eq_name` says that it comes to
the same.

Six kinds of rules are built in: one for each clause of a query, for conditions
on one field, and two more. A rule for a clause has the name of the clause.
-/

namespace SearchRules

/-- A clause of a bool query. -/
inductive Clause where
  /-- What must match, without a score. -/
  | filter
  /-- What must match and is scored. -/
  | must
  /-- What must not match. -/
  | mustNot
  /-- What may match and then adds to the score. -/
  | should
deriving DecidableEq

namespace Clause

/-- The clauses in document order. -/
def all : List Clause := [.filter, .must, .mustNot, .should]

/-- The key of the clause in a query. -/
def name : Clause → String
  | .filter => "filter"
  | .must => "must"
  | .mustNot => "must_not"
  | .should => "should"

/-- The label of the clause among the four. -/
def label : Clause → String
  | .filter => "Filter"
  | .must => "Must"
  | .mustNot => "MustNot"
  | .should => "Should"

/-- A label in snake case: all letters small, and an underscore before each that
was a capital, the first apart. -/
def snakeCase (label : String) : String :=
  match label.toList with
  | [] => ""
  | first :: rest =>
    String.ofList (first.toLower ::
      rest.flatMap fun c => if c.isUpper then ['_', c.toLower] else [c.toLower])

/-- The key of the clause where encoding and decoding are derived. -/
def derivedName (c : Clause) : String := snakeCase c.label

/-- The clause of a name. -/
def ofName? (s : String) : Option Clause := all.find? fun c => c.name = s

theorem mem_all (c : Clause) : c ∈ all := by cases c <;> decide

/-- Both ways of naming a clause agree: the one that is derived and the one that is
spelled out. -/
theorem derivedName_eq_name (c : Clause) : c.derivedName = c.name := by cases c <;> decide

theorem ofName?_name (c : Clause) : ofName? c.name = some c := by cases c <;> decide

/-- Only the exact name finds a clause; case and blanks count. -/
theorem ofName?_eq_some_iff {s : String} {c : Clause} :
    ofName? s = some c ↔ s = c.name := by
  constructor
  · intro h
    have := List.find?_some h
    simpa using (of_decide_eq_true this).symm
  · rintro rfl
    exact ofName?_name c

/-- No two clauses share a name, so that an object with clauses for keys has no key
twice. -/
theorem name_injective {c d : Clause} (h : c.name = d.name) : c = d := by
  have := ofName?_name c
  rw [h, ofName?_name d] at this
  exact (Option.some.inj this).symm

end Clause

/-- A name that no clause has. -/
structure UnknownClause where
  /-- The name as it was given. -/
  name : String
deriving DecidableEq

/-- What is said about a name that no clause has. -/
def UnknownClause.message (e : UnknownClause) : String :=
  "unknown bool clause type: " ++ e.name

/-- The clause that a name asks for. -/
def Clause.parse (s : String) : Except UnknownClause Clause :=
  match ofName? s with
  | some c => .ok c
  | none => .error ⟨s⟩

/-! ## Kinds of rules -/

/-- A kind of rule that is built in. -/
inductive RuleKind where
  /-- A condition on one field, under the clause. -/
  | clause (c : Clause)
  /-- A value that is looked for in several fields. -/
  | multiMatch
  /-- Bounds on one field. -/
  | range
deriving DecidableEq

namespace RuleKind

/-- The kinds that are built in. -/
def all : List RuleKind := Clause.all.map .clause ++ [.multiMatch, .range]

/-- The name of a kind in a request. -/
def name : RuleKind → String
  | .clause c => c.name
  | .multiMatch => "multi_match"
  | .range => "range"

/-- The kind of a name. -/
def ofName? (s : String) : Option RuleKind := all.find? fun kind => kind.name = s

theorem ofName?_name (kind : RuleKind) : ofName? kind.name = some kind := by
  cases kind with
  | clause c => cases c <;> decide
  | multiMatch => decide
  | range => decide

/-- Only the exact name finds a kind. -/
theorem ofName?_eq_some_iff {s : String} {kind : RuleKind} :
    ofName? s = some kind ↔ s = kind.name := by
  constructor
  · intro h
    have := List.find?_some h
    exact (of_decide_eq_true this).symm
  · rintro rfl
    exact ofName?_name kind

theorem name_injective {kind other : RuleKind} (h : kind.name = other.name) : kind = other := by
  have := ofName?_name kind
  rw [h, ofName?_name other] at this
  exact (Option.some.inj this).symm

end RuleKind

end SearchRules
