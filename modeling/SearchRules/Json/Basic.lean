import SearchRules.Binary64
import SearchRules.OrderedMap

/-!
# JSON values

Rule arguments, query fragments and whole requests are JSON. A value is plain
data: the members of an object stand in a list, in the order in which they are
written, because that order shows in every compiled document.

Three notions belong to the data and are kept apart from it.

> `Json.WellFormed`: at every level the keys of an object are distinct. Every
> value that is read from a text has this property; a `WellFormedJson` carries it.
>
> `Json.normalize`: the value with later members put in place of earlier ones of
> the same key. It is well-formed (`wellFormed_normalize`), and it leaves
> well-formed values as they are (`normalize_of_wellFormed`).
>
> `Json.equiv`: equality that does not look at the order of members. An integer
> never equals a float, and the two float zeros are equal.

`Json.depth` counts how far arrays and objects nest; the reader accepts at most
`Json.maxDepth` levels.
-/

namespace SearchRules

/-- The integers that fit sixty-four bits, with a sign or without. -/
def FitsWord (n : Int) : Prop := -9223372036854775808 ≤ n ∧ n ≤ 18446744073709551615

instance (n : Int) : Decidable (FitsWord n) := inferInstanceAs (Decidable (_ ∧ _))

/-- A JSON number: an integer of 64 bits, signed or unsigned, or a double. -/
inductive Number where
  /-- An integer that fits sixty-four bits. -/
  | int (n : Int) (fits : FitsWord n)
  /-- Any other number, as a double. -/
  | float (x : Binary64)
deriving DecidableEq

namespace Number

/-- The integer `n`, if it fits. -/
def ofInt? (n : Int) : Option Number :=
  if h : FitsWord n then some (.int n h) else none

/-- The integer of an unsigned word. -/
def ofUInt64 (n : UInt64) : Number :=
  .int n.toNat ⟨by omega, by have := n.toNat_lt; omega⟩

/-- Equality of numbers of one kind; an integer never equals a float. -/
def equiv : Number → Number → Bool
  | .int m _, .int n _ => m == n
  | .float x, .float y => x.equiv y
  | _, _ => false

end Number

/-- A JSON value. -/
inductive Json where
  | null
  | bool (b : Bool)
  | number (n : Number)
  | string (s : String)
  | array (items : List Json)
  | object (members : List (String × Json))

namespace Json

instance : Inhabited Json := ⟨.null⟩

/-- Whether the value is `null`. -/
def isNull : Json → Bool
  | .null => true
  | _ => false

/-- The integer of an unsigned word as a value. -/
def ofUInt64 (n : UInt64) : Json := .number (.ofUInt64 n)

/-- An object whose members are those of a map. -/
def ofMap (m : OrderedMap String Json) : Json := .object m.entries

/-- The most arrays and objects that a text may nest. -/
def maxDepth : Nat := 127

mutual

/-- How many arrays and objects are nested: `0` for a scalar, `1` for `[]`. -/
def depth : Json → Nat
  | .array items => itemsDepth items + 1
  | .object members => membersDepth members + 1
  | _ => 0

/-- The greatest depth among the items of an array. -/
def itemsDepth : List Json → Nat
  | [] => 0
  | v :: rest => max v.depth (itemsDepth rest)

/-- The greatest depth among the values of an object. -/
def membersDepth : List (String × Json) → Nat
  | [] => 0
  | (_, v) :: rest => max v.depth (membersDepth rest)

end

mutual

/-- At every level the keys of an object are distinct. -/
def WellFormed : Json → Prop
  | .array items => ItemsWellFormed items
  | .object members => (members.map Prod.fst).Nodup ∧ MembersWellFormed members
  | _ => True

/-- Every item is well-formed. -/
def ItemsWellFormed : List Json → Prop
  | [] => True
  | v :: rest => v.WellFormed ∧ ItemsWellFormed rest

/-- The value of every member is well-formed. -/
def MembersWellFormed : List (String × Json) → Prop
  | [] => True
  | (_, v) :: rest => v.WellFormed ∧ MembersWellFormed rest

end

mutual

/-- The value with every object as the map of its members: a repeated key keeps
its first place and takes its last value. -/
def normalize : Json → Json
  | .array items => .array (normalizeItems items)
  | .object members => .ofMap (.ofList (normalizeMembers members))
  | v => v

/-- Every item in normal form. -/
def normalizeItems : List Json → List Json
  | [] => []
  | v :: rest => v.normalize :: normalizeItems rest

/-- Every member with its value in normal form. -/
def normalizeMembers : List (String × Json) → List (String × Json)
  | [] => []
  | (key, v) :: rest => (key, v.normalize) :: normalizeMembers rest

end

mutual

/-- Whether no number in the value is a float. -/
def floatFree : Json → Bool
  | .number (.float _) => false
  | .array items => itemsFloatFree items
  | .object members => membersFloatFree members
  | _ => true

/-- Whether no item holds a float. -/
def itemsFloatFree : List Json → Bool
  | [] => true
  | v :: rest => v.floatFree && itemsFloatFree rest

/-- Whether no member holds a float. -/
def membersFloatFree : List (String × Json) → Bool
  | [] => true
  | (_, v) :: rest => v.floatFree && membersFloatFree rest

end

mutual

/-- Equality without regard to the order of members. -/
def equiv : Json → Json → Bool
  | .null, .null => true
  | .bool a, .bool b => a == b
  | .number m, .number n => m.equiv n
  | .string s, .string t => s == t
  | .array items, .array others => itemsEquiv items others
  | .object members, .object others =>
    members.length == others.length && membersEquiv members others
  | _, _ => false

/-- The items of two arrays are equal in turn. -/
def itemsEquiv : List Json → List Json → Bool
  | [], [] => true
  | v :: rest, w :: others => v.equiv w && itemsEquiv rest others
  | _, _ => false

/-- Every member has one of the same key and an equal value among the others. -/
def membersEquiv : List (String × Json) → List (String × Json) → Bool
  | [], _ => true
  | (key, v) :: rest, others =>
    (match others.lookup key with
      | some w => v.equiv w
      | none => false) && membersEquiv rest others

end

mutual

/-- Keys are compared, so whether a value is well-formed can be decided. -/
def decideWellFormed : (v : Json) → Decidable v.WellFormed
  | .array items => decideItemsWellFormed items
  | .object members =>
    have := decideMembersWellFormed members
    inferInstanceAs (Decidable (_ ∧ _))
  | .null => .isTrue trivial
  | .bool _ => .isTrue trivial
  | .number _ => .isTrue trivial
  | .string _ => .isTrue trivial

/-- Whether all items are well-formed. -/
def decideItemsWellFormed : (items : List Json) → Decidable (ItemsWellFormed items)
  | [] => .isTrue trivial
  | v :: rest =>
    have := decideWellFormed v
    have := decideItemsWellFormed rest
    inferInstanceAs (Decidable (_ ∧ _))

/-- Whether the values of all members are well-formed. -/
def decideMembersWellFormed :
    (members : List (String × Json)) → Decidable (MembersWellFormed members)
  | [] => .isTrue trivial
  | (_, v) :: rest =>
    have := decideWellFormed v
    have := decideMembersWellFormed rest
    inferInstanceAs (Decidable (_ ∧ _))

end

instance : DecidablePred WellFormed := decideWellFormed

/-- Of an array the items are asked, one by one. -/
theorem itemsWellFormed_iff {items : List Json} :
    ItemsWellFormed items ↔ ∀ v ∈ items, v.WellFormed := by
  induction items with
  | nil => simp [ItemsWellFormed]
  | cons v rest ih => simp [ItemsWellFormed, ih]

theorem membersWellFormed_iff {members : List (String × Json)} :
    MembersWellFormed members ↔ ∀ m ∈ members, m.2.WellFormed := by
  induction members with
  | nil => simp [MembersWellFormed]
  | cons m rest ih => simp [MembersWellFormed, ih]

mutual

/-- A value in which no key repeats is in normal form. -/
theorem normalize_of_wellFormed : ∀ (v : Json) (_ : v.WellFormed), v.normalize = v
  | .null, _ => rfl
  | .bool _, _ => rfl
  | .number _, _ => rfl
  | .string _, _ => rfl
  | .array items, h => congrArg Json.array (normalizeItems_of_wellFormed items h)
  | .object members, h => by
    rw [normalize, normalizeMembers_of_wellFormed members h.2, ofMap,
      OrderedMap.entries_ofList h.1]

theorem normalizeItems_of_wellFormed : ∀ (items : List Json) (_ : ItemsWellFormed items),
    normalizeItems items = items
  | [], _ => rfl
  | v :: rest, h => by
    rw [normalizeItems, normalize_of_wellFormed v h.1, normalizeItems_of_wellFormed rest h.2]

theorem normalizeMembers_of_wellFormed :
    ∀ (members : List (String × Json)) (_ : MembersWellFormed members),
      normalizeMembers members = members
  | [], _ => rfl
  | (key, v) :: rest, h => by
    rw [normalizeMembers, normalize_of_wellFormed v h.1, normalizeMembers_of_wellFormed rest h.2]

end

mutual

/-- In the normal form of a value no key repeats. -/
theorem wellFormed_normalize : ∀ v : Json, v.normalize.WellFormed
  | .null => trivial
  | .bool _ => trivial
  | .number _ => trivial
  | .string _ => trivial
  | .array items => itemsWellFormed_normalizeItems items
  | .object members => by
    have h := membersWellFormed_normalizeMembers members
    rw [membersWellFormed_iff] at h
    exact ⟨OrderedMap.nodup _,
      membersWellFormed_iff.2 fun m hm => h m (OrderedMap.mem_of_mem_ofList hm)⟩

/-- The items of an array in normal form are well-formed. -/
theorem itemsWellFormed_normalizeItems : ∀ items : List Json,
    ItemsWellFormed (normalizeItems items)
  | [] => trivial
  | v :: rest => ⟨wellFormed_normalize v, itemsWellFormed_normalizeItems rest⟩

/-- The values of an object in normal form are well-formed. -/
theorem membersWellFormed_normalizeMembers : ∀ members : List (String × Json),
    MembersWellFormed (normalizeMembers members)
  | [] => trivial
  | (_, v) :: rest => ⟨wellFormed_normalize v, membersWellFormed_normalizeMembers rest⟩

end

end Json

/-- A value in which every object is a map: no key repeats in it. -/
abbrev WellFormedJson := { v : Json // v.WellFormed }

/-- The extra settings of a leaf, by name: `boost`, `fuzziness`, `operator`. -/
abbrev Attributes := OrderedMap String Json

end SearchRules
