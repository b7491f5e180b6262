import SearchRules.Json.Decode
import SearchRules.Json.Text

/-!
# Query documents

The body of a bool query: clauses in the order in which they were first
populated, each with its list of fragments. A clause may be there with an empty
list, and then it counts.

A document leaves in two ways, as a JSON value (`toJson`) and as a stream of
tokens that is written without building the value (`tokens`). It comes back by
`ofJson`, which reads the members in their order and reports the first that is
wrong, its name before its value; from a text (`read?`) it takes the members as
they are written, one by one. `equiv` looks neither at the order of clauses nor at
that of the members inside fragments.
-/

namespace SearchRules

/-- The clauses of a bool query with their fragments, in order of first use. -/
structure Document where
  /-- The fragments by clause. -/
  clauses : OrderedMap Clause (List Json)

namespace Document

/-- The document without clauses. -/
def empty : Document := ⟨.empty⟩

instance : Inhabited Document := ⟨empty⟩

/-- Replace the fragments under a clause. -/
def set (d : Document) (c : Clause) (fragments : List Json) : Document :=
  ⟨d.clauses.insert c fragments⟩

/-- The fragments under a clause, if it is there. -/
def get? (d : Document) (c : Clause) : Option (List Json) := d.clauses.get? c

/-- Append a fragment under a clause, which is created if it is not there. -/
def push (d : Document) (c : Clause) (fragment : Json) : Document :=
  d.set c ((d.get? c).getD [] ++ [fragment])

/-- Whether a clause is there. -/
def contains (d : Document) (c : Clause) : Bool := d.clauses.contains c

/-- The number of clauses. -/
def size (d : Document) : Nat := d.clauses.size

/-- Whether there is no clause. -/
def isEmpty (d : Document) : Bool := d.clauses.isEmpty

/-- The number of fragments under all clauses. -/
def fragmentCount (d : Document) : Nat := d.clauses.values.flatten.length

/-- Setting a clause replaces its fragments and leaves those of the others. -/
theorem get?_set (d : Document) (c c' : Clause) (fragments : List Json) :
    (d.set c fragments).get? c' = if c' = c then some fragments else d.get? c' :=
  OrderedMap.get?_insert d.clauses c c' fragments

/-- Pushing appends one fragment, to none if the clause is new. -/
theorem get?_push (d : Document) (c c' : Clause) (fragment : Json) :
    (d.push c fragment).get? c' =
      if c' = c then some ((d.get? c).getD [] ++ [fragment]) else d.get? c' :=
  get?_set d c c' _

/-- A clause keeps the place at which it was first set. -/
theorem keys_set (d : Document) (c : Clause) (fragments : List Json) :
    (d.set c fragments).clauses.keys =
      if c ∈ d.clauses.keys then d.clauses.keys else d.clauses.keys ++ [c] :=
  OrderedMap.keys_insert d.clauses c fragments

/-! ## As JSON -/

/-- The document as a value: an object from the names of clauses to arrays. -/
def toJson (d : Document) : Json :=
  .object (d.clauses.entries.map fun (c, fragments) => (c.name, .array fragments))

/-- The document as a bool query. -/
def boolQuery (d : Document) : Json := .object [("bool", d.toJson)]

/-- The document as the body of a search request. -/
def searchBody (d : Document) : Json := .object [("query", d.boolQuery)]

/-- Blocks of tokens with commas between them. -/
def separated : List (List Token) → List Token
  | [] => []
  | [block] => block
  | block :: rest => block ++ .comma :: separated rest

/-- One clause in the stream: its name, a colon and its fragments. -/
def clauseTokens (c : Clause) (fragments : List Json) : List Token :=
  .string c.derivedName :: .colon :: .openArray ::
    (separated (fragments.map Json.tokens) ++ [.closeArray])

/-- The document as a stream of tokens. -/
def tokens (d : Document) : List Token :=
  .openObject ::
    (separated (d.clauses.entries.map fun (c, fragments) => clauseTokens c fragments) ++
      [.closeObject])

/-- The text of the stream. -/
def write (d : Document) : String := Json.renderTokens d.tokens

/-- Put a member of an object into a document. -/
def decodeMember (d : Document) (key : String) (v : Json) : Except DecodeError Document := do
  let c ← Clause.decodeName key
  let fragments ← v.asItems
  pure (d.set c fragments)

/-- Put members into a document one after the other. -/
def decodeMembers (d : Document) : List (String × Json) → Except DecodeError Document
  | [] => .ok d
  | (key, v) :: rest => do
    let d ← d.decodeMember key v
    d.decodeMembers rest

/-- The document that a value writes. -/
def ofJson : Json → Except DecodeError Document
  | .object members => empty.decodeMembers members
  | v => .error (.invalidType v .map)

/-- The document that a text writes. A clause that is written twice has the place
of the first and the fragments of the second, but both must be arrays. -/
def read? (text : String) : Option Document :=
  match Json.parse? text with
  | some (.object members) => (empty.decodeMembers (Json.normalizeMembers members)).toOption
  | _ => none

/-! ## Equality -/

/-- The same clauses with equal fragments, in any order of clauses. -/
def equiv (d e : Document) : Bool :=
  d.size == e.size &&
    d.clauses.entries.all fun (c, fragments) =>
      match e.get? c with
      | some others => Json.itemsEquiv fragments others
      | none => false

end Document

end SearchRules
