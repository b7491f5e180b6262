import SearchRules.Json.Text
import SearchRules.Rule.Basic

/-!
# Requests

A request is a list of entries, each a kind of rule with arguments. Kinds may
repeat and need not be known. Arguments that are left out, or `null`, make an
entry absent: it counts, but does nothing.

A request is written as a list of pairs, so that repeated kinds survive, and it
is read from such a list or from an object with one member for each entry.
`Request.equiv` compares entries in turn; it tells arguments that are left out
from `null`.

The objects in arguments are maps, and a `WellFormedRequest` says so of all its
arguments. Requests that are read from texts are such requests.
-/

namespace SearchRules

/-- One call of a rule. -/
structure Entry where
  /-- The kind of the rule. -/
  kind : String
  /-- The arguments, if any were given. -/
  args : Option Json

namespace Entry

/-- The arguments that count: given, and not `null`. -/
def arguments (e : Entry) : Option Json := e.args.filter fun v => !v.isNull

/-- Whether the entry is passed over for want of arguments. -/
def isAbsent (e : Entry) : Bool := e.arguments.isNone

/-- Arguments that are both left out, or both given and equal. -/
def argsEquiv : Option Json → Option Json → Bool
  | none, none => true
  | some v, some w => v.equiv w
  | _, _ => false

/-- The same kind with equal arguments. -/
def equiv (e f : Entry) : Bool := e.kind == f.kind && argsEquiv e.args f.args

/-- An entry as a pair. -/
def toJson (e : Entry) : Json := .array [.string e.kind, e.args.getD .null]

/-- The entry that a pair writes. -/
def ofJson? : Json → Option Entry
  | .array [.string kind, v] => some ⟨kind, some v⟩
  | _ => none

/-- The entry that a member of an object writes. -/
def ofMember (member : String × Json) : Entry := ⟨member.1, some member.2⟩

end Entry

/-- A rule as an entry. -/
def Rule.entry (rule : Rule) : Entry := ⟨rule.kind.name, some rule.arguments⟩

/-- The calls of rules to compile, in order. -/
structure Request where
  /-- The entries. -/
  entries : List Entry

namespace Request

/-- The request without entries. -/
def empty : Request := ⟨[]⟩

instance : Inhabited Request := ⟨empty⟩

/-- Append an entry. -/
def push (r : Request) (e : Entry) : Request := ⟨r.entries ++ [e]⟩

/-- Append a call of a kind with arguments. -/
def call (r : Request) (kind : String) (args : Json) : Request := r.push ⟨kind, some args⟩

/-- Append a call of a kind without arguments. -/
def absent (r : Request) (kind : String) : Request := r.push ⟨kind, none⟩

/-- Append a rule. -/
def add (r : Request) (rule : Rule) : Request := r.push rule.entry

/-- The number of entries, absent ones counted. -/
def size (r : Request) : Nat := r.entries.length

/-- Whether there is no entry. -/
def isEmpty (r : Request) : Bool := r.entries.isEmpty

/-- The request as a list of pairs. -/
def toJson (r : Request) : Json := .array (r.entries.map Entry.toJson)

/-- The text of a request. -/
def write (r : Request) : String := r.toJson.write

/-- The request that a value writes, in either of two forms. -/
def ofJson : Json → Except DecodeError Request
  | .object members => .ok ⟨members.map Entry.ofMember⟩
  | .array items =>
    match items.mapM Entry.ofJson? with
    | some entries => .ok ⟨entries⟩
    | none => .error .notRequest
  | _ => .error .notRequest

/-- The request that a text writes. -/
def read? (text : String) : Option Request :=
  (Json.read? text).bind fun v => (ofJson v).toOption

/-- Entries that are equal in turn. -/
def entriesEquiv : List Entry → List Entry → Bool
  | [], [] => true
  | e :: rest, f :: others => e.equiv f && entriesEquiv rest others
  | _, _ => false

/-- Equality of requests. -/
def equiv (r s : Request) : Bool := entriesEquiv r.entries s.entries

/-- The arguments that entries have all satisfy `p`. -/
def ForArgs (r : Request) (p : Json → Prop) : Prop := ∀ e ∈ r.entries, ∀ v ∈ e.args, p v

instance (r : Request) (p : Json → Prop) [DecidablePred p] : Decidable (r.ForArgs p) :=
  inferInstanceAs (Decidable (∀ e ∈ r.entries, ∀ v ∈ e.args, p v))

end Request

/-- A request in whose arguments no key repeats. -/
structure WellFormedRequest extends Request where
  /-- Every object in the arguments is a map. -/
  wellFormed : toRequest.ForArgs Json.WellFormed

end SearchRules
