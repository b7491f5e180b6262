import SearchRules.Json.Token

/-!
# JSON text

A value is written without blanks as the text of its tokens, members in their
order (`Json.write`). Reading runs the tokens through a machine whose state is
what has been read so far: the arrays and objects that are still open, each with
its items or members up to now, and what the innermost of them waits for. The
run is a fold over the tokens, so reading a text that begins with the tokens of
a value is reading the value and going on with the rest. An array or object may
open only inside fewer than `Json.maxDepth` others.

What the machine makes of a text is the value as it is written, with every member
of every object (`Json.parse?`). What a text is read as is the normal form of that
(`Json.read?`): a repeated key keeps its first place and takes its last value.
-/

namespace SearchRules.Json

mutual

/-- The tokens of a value. -/
def tokens : Json → List Token
  | .null => [.null]
  | .bool b => [.bool b]
  | .number n => [.number n]
  | .string s => [.string s]
  | .array [] => [.openArray, .closeArray]
  | .array (v :: rest) => .openArray :: (v.tokens ++ (itemsTokens rest ++ [.closeArray]))
  | .object [] => [.openObject, .closeObject]
  | .object ((key, v) :: rest) =>
    .openObject :: .string key :: .colon ::
      (v.tokens ++ (membersTokens rest ++ [.closeObject]))

/-- The tokens of the items after the first. -/
def itemsTokens : List Json → List Token
  | [] => []
  | v :: rest => .comma :: (v.tokens ++ itemsTokens rest)

/-- The tokens of the members after the first. -/
def membersTokens : List (String × Json) → List Token
  | [] => []
  | (key, v) :: rest =>
    .comma :: .string key :: .colon :: (v.tokens ++ membersTokens rest)

end

/-- The text of tokens, one after the other. -/
def renderTokens (ts : List Token) : String := String.ofList (ts.flatMap Token.render)

/-- The compact text of a value. -/
def write (v : Json) : String := renderTokens v.tokens

/-- An array or object that is still open. -/
inductive Frame where
  /-- An array with the items read so far. -/
  | items (before : List Json)
  /-- An object with the members read so far and the key whose value is next. -/
  | members (before : List (String × Json)) (key : String)

/-- What is open, the innermost first. -/
abbrev Context := List Frame

/-- How far a text has been read. -/
inductive Progress where
  /-- A value must follow. -/
  | value (context : Context)
  /-- An array has just opened: a value or its end must follow. -/
  | firstItem (context : Context)
  /-- An object has just opened: a key or its end must follow. -/
  | firstKey (context : Context)
  /-- A comma stood after a member: a key must follow. -/
  | key (context : Context) (before : List (String × Json))
  /-- A key has been read: its colon must follow. -/
  | colon (context : Context) (before : List (String × Json)) (key : String)
  /-- A value is complete: what encloses it goes on or ends. -/
  | complete (context : Context) (v : Json)

/-- Begin a value. An array or object opens only if there is room for one more. -/
def begin? (context : Context) : Token → Option Progress
  | .null => some (.complete context .null)
  | .bool b => some (.complete context (.bool b))
  | .number n => some (.complete context (.number n))
  | .string s => some (.complete context (.string s))
  | .openArray => if context.length < maxDepth then some (.firstItem context) else none
  | .openObject => if context.length < maxDepth then some (.firstKey context) else none
  | _ => none

/-- Take in one token. -/
def Progress.step? : Progress → Token → Option Progress
  | .value context, t => begin? context t
  | .firstItem context, .closeArray => some (.complete context (.array []))
  | .firstItem context, t => begin? (.items [] :: context) t
  | .firstKey context, .closeObject => some (.complete context (.object []))
  | .firstKey context, .string k => some (.colon context [] k)
  | .key context before, .string k => some (.colon context before k)
  | .colon context before k, .colon => some (.value (.members before k :: context))
  | .complete (.items before :: context) v, .comma =>
    some (.value (.items (before ++ [v]) :: context))
  | .complete (.items before :: context) v, .closeArray =>
    some (.complete context (.array (before ++ [v])))
  | .complete (.members before k :: context) v, .comma =>
    some (.key context (before ++ [(k, v)]))
  | .complete (.members before k :: context) v, .closeObject =>
    some (.complete context (.object (before ++ [(k, v)])))
  | _, _ => none

/-- Take in tokens as long as they fit. -/
def Progress.run? (progress : Progress) (ts : List Token) : Option Progress :=
  ts.foldlM Progress.step? progress

/-- The value of a whole text: one value is complete and nothing is open. -/
def Progress.result? : Progress → Option Json
  | .complete [] v => some v
  | _ => none

/-- The value that tokens write. -/
def ofTokens? (ts : List Token) : Option Json :=
  (Progress.run? (.value []) ts).bind Progress.result?

/-- The value that a text writes, as it is written, if it is JSON within the
limits. -/
def parse? (text : String) : Option Json := (Token.scan text.toList).bind ofTokens?

/-- The value that a text is read as: repeated keys are merged at every level. -/
def read? (text : String) : Option Json := (parse? text).map normalize

end SearchRules.Json
