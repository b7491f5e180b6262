import SearchRules.Text

/-!
# Settings of a compiler

Two settings: the most entries that a request may have, and whether the
attributes of a filter rule go into its leaf. They can be read from two
environment variables, of which the first one at fault is reported.

A limit is a decimal number of sixty-four bits, read from left to right; the
first digit that fails decides what is said (`readLimitDigits`), so a value that
is too large and ends in letters is too large.
-/

namespace SearchRules

/-- The variable that sets `Config.maxRules`. -/
def maxRulesVariable : String := "RULE_COMPILER_MAX_RULES"

/-- The variable that sets `Config.mergeFilterAttributes`. -/
def mergeFilterAttributesVariable : String := "RULE_COMPILER_MERGE_FILTER_ATTRIBUTES"

/-- The settings of a compiler. -/
structure Config where
  /-- The most entries of a request, absent ones counted; none for no limit. -/
  maxRules : Option Nat
  /-- Whether a filter leaf takes the attributes of its rule. -/
  mergeFilterAttributes : Bool
deriving DecidableEq

/-- Why the text of a limit is no number. -/
inductive LimitFault where
  | empty
  | invalidDigit
  | tooLarge
deriving DecidableEq

/-- What is said about the text of a limit. -/
def LimitFault.message : LimitFault → String
  | .empty => "cannot parse integer from empty string"
  | .invalidDigit => "invalid digit found in string"
  | .tooLarge => "number too large to fit in target type"

/-- Why the environment gives no settings. -/
inductive SettingFault where
  /-- The limit is zero. -/
  | zeroLimit
  /-- The limit is no number. -/
  | badLimit (text : String) (fault : LimitFault)
  /-- The flag is neither true nor false. -/
  | badFlag (text : String)
deriving DecidableEq

/-- What is said about the environment. -/
def SettingFault.message : SettingFault → String
  | .zeroLimit => maxRulesVariable ++ " must be positive"
  | .badLimit text fault =>
    "Invalid " ++ maxRulesVariable ++ " '" ++ text ++ "': " ++ fault.message
  | .badFlag text =>
    mergeFilterAttributesVariable ++ " must be true or false, got '" ++ text ++ "'"

namespace Config

/-- No limit, and attributes of filter rules left out. -/
def default : Config := ⟨none, false⟩

instance : Inhabited Config := ⟨default⟩

/-- The same settings with a limit. -/
def withMaxRules (c : Config) (limit : Nat) : Config := { c with maxRules := some limit }

/-- The same settings with or without attributes in filter leaves. -/
def withFilterAttributes (c : Config) (merge : Bool) : Config :=
  { c with mergeFilterAttributes := merge }

/-- The settings in words. -/
def describe (c : Config) : String :=
  let limit := match c.maxRules with
    | none => "None"
    | some n => "Some(" ++ toString n ++ ")"
  let flag := if c.mergeFilterAttributes then "true" else "false"
  "CompilerConfig \x7b max_rules: " ++ limit ++ ", merge_filter_attributes: " ++ flag ++ " \x7d"

/-- Read digits from left to right on top of the number read so far. At one
place a character that is no digit is noticed before a number that is too large. -/
def readLimitDigits (sofar : Nat) : List Char → Except LimitFault Nat
  | [] => .ok sofar
  | c :: rest =>
    if c.isDigit then
      let next := 10 * sofar + (c.toNat - '0'.toNat)
      if next ≤ 18446744073709551615 then readLimitDigits next rest else .error .tooLarge
    else .error .invalidDigit

/-- Read a number of sixty-four bits with or without a plus sign in front; a
sign alone is not a number. -/
def readLimit : List Char → Except LimitFault Nat
  | [] => .error .empty
  | ['+'] => .error .invalidDigit
  | '+' :: rest => readLimitDigits 0 rest
  | cs => readLimitDigits 0 cs

/-- The limit that a text sets: none by that word, in ASCII letters of either
case. -/
def decodeLimit (cs : List Char) : Except SettingFault (Option Nat) :=
  if cs.map Char.toLower = ['n', 'o', 'n', 'e'] then .ok none
  else
    match readLimit cs with
    | .ok 0 => .error .zeroLimit
    | .ok limit => .ok (some limit)
    | .error fault => .error (.badLimit (String.ofList cs) fault)

/-- The flag that a text sets, in ASCII letters of either case. -/
def decodeFlag (cs : List Char) : Except SettingFault Bool :=
  let text := String.ofList (cs.map Char.toLower)
  if text = "true" ∨ text = "1" then .ok true
  else if text = "false" ∨ text = "0" then .ok false
  else .error (.badFlag text)

/-- Read a setting whose variable may be unset; blanks around a value do not
count. -/
def decodeSetting {α : Type} (unset : α) (decode : List Char → Except SettingFault α) :
    Option String → Except SettingFault α
  | none => .ok unset
  | some raw => decode (Text.trim raw.toList)

/-- The settings that the values of the two variables give. -/
def ofEnvironment (limit flag : Option String) : Except SettingFault Config := do
  let maxRules ← decodeSetting none decodeLimit limit
  let merge ← decodeSetting false decodeFlag flag
  pure ⟨maxRules, merge⟩

end Config

end SearchRules
