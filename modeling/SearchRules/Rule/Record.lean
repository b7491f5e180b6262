import SearchRules.Json.Decode

/-!
# Records of three fields

The arguments of a rule are a record of three fields, and a record is written in
one of two forms: as an array of its values in their order, or as an object of
its fields by name. Both forms are read from left to right, and the first thing
that is wrong is reported.

> In an array the elements are read in turn. It may end where all fields that
> are left can do without a value, and it may not be longer than the record.
>
> In an object the members are read in their own order and unknown ones are
> passed over; naming a field twice is wrong as soon as it is met, whatever
> stands there. Only then are fields looked for that nothing named, in the order
> of the record.
-/

namespace SearchRules

/-- A field of a record. -/
structure Field (α : Type) where
  /-- What messages call the field, and how an object may name it. -/
  name : String
  /-- Other names for it. -/
  otherNames : List String
  /-- How its value is read. -/
  read : Json → Except DecodeError α
  /-- The value of a field that is not there, if it need not be. -/
  missing : Option α

namespace Field

variable {α : Type}

/-- Whether an object names the field by `key`. -/
def isNamed (f : Field α) (key : String) : Bool := key = f.name || f.otherNames.contains key

/-- Read the field at its place in an array. -/
def element (f : Field α) (kind : RecordKind) (place : Nat) (items : List Json) :
    Except DecodeError α :=
  match items[place]? with
  | some v => f.read v
  | none =>
    match f.missing with
    | some a => .ok a
    | none => .error (.tooShort place kind)

/-- Read a member that names the field, which must not have been named before. -/
def member (f : Field α) (before : Option α) (v : Json) : Except DecodeError (Option α) :=
  match before with
  | some _ => .error (.duplicateField f.name)
  | none => (f.read v).map some

/-- The value of the field once all members have been read. -/
def close (f : Field α) (found : Option α) : Except DecodeError α :=
  match found.or f.missing with
  | some a => .ok a
  | none => .error (.missingField f.name)

end Field

/-- A record of three fields. -/
structure Record (α β γ : Type) where
  /-- Which record it is. -/
  kind : RecordKind
  first : Field α
  second : Field β
  third : Field γ

/-- What has been found of a record so far. -/
structure Found (α β γ : Type) where
  first : Option α
  second : Option β
  third : Option γ

namespace Record

variable {α β γ : Type}

/-- Read a record from the elements of an array. -/
def ofItems (r : Record α β γ) (items : List Json) : Except DecodeError (α × β × γ) := do
  let a ← r.first.element r.kind 0 items
  let b ← r.second.element r.kind 1 items
  let c ← r.third.element r.kind 2 items
  if items.length ≤ 3 then pure (a, b, c) else throw (.tooLong items.length)

/-- Read one member of an object. -/
def ofMember (r : Record α β γ) (found : Found α β γ) (key : String) (v : Json) :
    Except DecodeError (Found α β γ) :=
  if r.first.isNamed key then
    (r.first.member found.first v).map fun a => { found with first := a }
  else if r.second.isNamed key then
    (r.second.member found.second v).map fun b => { found with second := b }
  else if r.third.isNamed key then
    (r.third.member found.third v).map fun c => { found with third := c }
  else .ok found

/-- Read the members of an object in turn. -/
def find (r : Record α β γ) (found : Found α β γ) :
    List (String × Json) → Except DecodeError (Found α β γ)
  | [] => .ok found
  | (key, v) :: rest => do
    let found ← r.ofMember found key v
    r.find found rest

/-- Read a record from the members of an object. -/
def ofMembers (r : Record α β γ) (members : List (String × Json)) :
    Except DecodeError (α × β × γ) := do
  let found ← r.find ⟨none, none, none⟩ members
  let a ← r.first.close found.first
  let b ← r.second.close found.second
  let c ← r.third.close found.third
  pure (a, b, c)

/-- Read a record in either form. -/
def read (r : Record α β γ) : Json → Except DecodeError (α × β × γ)
  | .array items => r.ofItems items
  | .object members => r.ofMembers members
  | v => .error (.invalidType v (.record r.kind))

end Record

end SearchRules
