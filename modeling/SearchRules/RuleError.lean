import SearchRules.Config
import SearchRules.Json.Decode

/-!
# Why a request is refused

Four kinds of refusal, each with its cause. The causes of this library have
constructors of their own; a handler that was registered from outside may state
its own in words. `RuleError.message` words them all.
-/

namespace SearchRules

/-- A rule whose arguments could be read but break a law of the rule. -/
inductive Violation where
  /-- The values of a range do not pair up. -/
  | unpairedBounds
  /-- A law of a handler from outside. -/
  | stated (text : String)
deriving DecidableEq

/-- What is said about a broken law. -/
def Violation.message : Violation → String
  | .unpairedBounds => "range values must be in pairs"
  | .stated text => text

/-- Why the arguments of a rule cannot be read. -/
inductive ArgumentFault where
  /-- They do not have the shape of the rule's record. -/
  | shape (cause : DecodeError)
  /-- The operator at this place among the values of a range is no string. -/
  | operator (position : Nat)
  /-- The reason of a handler from outside. -/
  | stated (text : String)

/-- What is said about arguments that cannot be read. -/
def ArgumentFault.message : ArgumentFault → String
  | .shape cause => cause.message
  | .operator position =>
    "range operator at position " ++ toString position ++ " must be a string"
  | .stated text => text

/-- Why settings cannot be used. -/
inductive ConfigFault where
  /-- A variable of the environment is at fault. -/
  | setting (cause : SettingFault)
  /-- The reason of a handler from outside. -/
  | stated (text : String)
deriving DecidableEq

/-- What is said about settings that cannot be used. -/
def ConfigFault.message : ConfigFault → String
  | .setting cause => cause.message
  | .stated text => text

/-- Why a request is refused. -/
inductive RuleError where
  /-- A rule breaks a law. -/
  | violation (cause : Violation)
  /-- The arguments of a rule cannot be read. -/
  | arguments (rule : String) (fault : ArgumentFault)
  /-- The request has more entries than the limit allows. -/
  | tooManyRules (provided limit : Nat)
  /-- The settings cannot be used. -/
  | config (fault : ConfigFault)

/-- What is said about a refusal. -/
def RuleError.message : RuleError → String
  | .violation cause => "Validation error: " ++ cause.message
  | .arguments rule fault =>
    "Invalid arguments for rule '" ++ rule ++ "': " ++ fault.message
  | .tooManyRules provided limit =>
    "Rule count " ++ toString provided ++ " exceeds maximum " ++ toString limit
  | .config fault => "Configuration error: " ++ fault.message

end SearchRules
