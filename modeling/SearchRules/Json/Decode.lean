import SearchRules.Clause
import SearchRules.Json.Numeral
import SearchRules.Text

/-!
# Decoding single values

The readers that records, requests and documents are put together from. Each
looks at one value, and each refuses it with the first thing that is wrong.

A value of the wrong shape is refused with its cause: what stood there and what
was expected. The wording of a cause is `DecodeError.message`, and nothing but
that function knows it.
-/

namespace SearchRules

/-- The records of arguments that rules read. -/
inductive RecordKind where
  /-- A field, a value and attributes. -/
  | clause
  /-- Several fields, a value and attributes. -/
  | multiMatch
  /-- A field, bounds and a clause. -/
  | range
deriving DecidableEq

/-- How messages call a record. -/
def RecordKind.title : RecordKind → String
  | .clause => "struct ClauseArgs"
  | .multiMatch => "struct MultiMatchArgs"
  | .range => "struct RangeArgs"

/-- What a decoder wants to see. -/
inductive Expected where
  | string
  | sequence
  | map
  /-- A clause: its name, or an object whose one key is its name. -/
  | clause
  /-- The value that goes with the name of a clause in an object: `null`. -/
  | unit
  | record (kind : RecordKind)
deriving DecidableEq

/-- How messages call what is expected. -/
def Expected.title : Expected → String
  | .string => "a string"
  | .sequence => "a sequence"
  | .map => "a map"
  | .clause => "string or map"
  | .unit => "unit"
  | .record kind => kind.title

/-- A text between backticks. -/
def backticked (s : String) : String := "`" ++ s ++ "`"

/-- How messages call a value that was not expected. -/
def Json.title : Json → String
  | .null => "null"
  | .bool b => "boolean " ++ backticked (if b then "true" else "false")
  | .number (.int n h) => "integer " ++ backticked (String.ofList (Number.int n h).render)
  | .number (.float x) => "floating point " ++ backticked (String.ofList x.render)
  | .string s => "string " ++ Text.quoted s
  | .array _ => "sequence"
  | .object _ => "map"

/-- Why a value was refused. -/
inductive DecodeError where
  /-- A value of another type than the expected one. -/
  | invalidType (found : Json) (expected : Expected)
  /-- A name that no clause has. -/
  | unknownClause (name : String)
  /-- An object that should name a clause has no key, or several. -/
  | notSingleKey
  /-- A positional record ends at the place of a required element. -/
  | tooShort (length : Nat) (kind : RecordKind)
  /-- A positional record has more elements than the record has fields. -/
  | tooLong (length : Nat)
  /-- A named record names one field twice. -/
  | duplicateField (name : String)
  /-- A named record lacks a required field. -/
  | missingField (name : String)
  /-- A value that has neither form of a request. -/
  | notRequest

/-- What is said about a value that was refused. -/
def DecodeError.message : DecodeError → String
  | .invalidType found expected =>
    "invalid type: " ++ found.title ++ ", expected " ++ expected.title
  | .unknownClause name =>
    "unknown variant " ++ backticked name ++ ", expected one of " ++
      String.intercalate ", " (Clause.all.map fun c => backticked c.derivedName)
  | .notSingleKey => "invalid value: map, expected map with a single key"
  | .tooShort length kind =>
    "invalid length " ++ toString length ++ ", expected " ++ kind.title ++ " with 3 elements"
  | .tooLong length =>
    "invalid length " ++ toString length ++ ", expected fewer elements in array"
  | .duplicateField name => "duplicate field " ++ backticked name
  | .missingField name => "missing field " ++ backticked name
  | .notRequest => "data did not match any variant of untagged enum RuleRequestRepr"

/-! ## Readers -/

namespace Json

/-- A string. -/
def asString : Json → Except DecodeError String
  | .string s => .ok s
  | v => .error (.invalidType v .string)

/-- The items of an array. -/
def asItems : Json → Except DecodeError (List Json)
  | .array items => .ok items
  | v => .error (.invalidType v .sequence)

/-- The members of an object. -/
def asMap : Json → Except DecodeError (OrderedMap String Json)
  | .object members => .ok (.ofList members)
  | v => .error (.invalidType v .map)

/-- An array of strings; the first item that is none is reported. -/
def asStrings (v : Json) : Except DecodeError (List String) := do
  (← v.asItems).mapM asString

/-- An object, or `null` for nothing. -/
def asOptionalMap : Json → Except DecodeError (Option (OrderedMap String Json))
  | .null => .ok none
  | v => v.asMap.map some

/-- `null`, where nothing else may stand. -/
def asUnit : Json → Except DecodeError Unit
  | .null => .ok ()
  | v => .error (.invalidType v .unit)

end Json

namespace Clause

/-- The clause of a name in JSON. -/
def decodeName (s : String) : Except DecodeError Clause :=
  match all.find? fun c => c.derivedName = s with
  | some c => .ok c
  | none => .error (.unknownClause s)

/-- A clause in JSON: its name, or an object with the name as its one key and
nothing under it. -/
def ofJson : Json → Except DecodeError Clause
  | .string s => decodeName s
  | .object [(key, v)] => do
    let c ← decodeName key
    v.asUnit
    pure c
  | .object _ => .error .notSingleKey
  | v => .error (.invalidType v .clause)

/-- A clause is written as its name. -/
def toJson (c : Clause) : Json := .string c.derivedName

/-- The derived names are read like those that are written out. -/
theorem decodeName_eq_ofName? (s : String) :
    decodeName s = match ofName? s with
      | some c => .ok c
      | none => .error (.unknownClause s) := by
  simp only [decodeName, derivedName_eq_name]
  rfl

theorem decodeName_name (c : Clause) : decodeName c.name = .ok c := by
  rw [decodeName_eq_ofName?, ofName?_name]

theorem toJson_eq (c : Clause) : c.toJson = .string c.name :=
  congrArg Json.string c.derivedName_eq_name

/-- A clause is read from what is written of it. -/
theorem ofJson_toJson (c : Clause) : ofJson c.toJson = .ok c := by
  rw [toJson_eq]
  exact decodeName_name c

end Clause

end SearchRules
