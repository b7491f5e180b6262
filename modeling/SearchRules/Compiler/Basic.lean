import SearchRules.Draft
import SearchRules.Request

/-!
# Compilers

A compiler has settings and the handlers that were registered with it. A kind is
handled by the registered handler of that name, or else by the rule kind that is
built in under it; a kind with neither is passed over.

Compiling starts from an empty draft every time. The number of entries is looked
at before anything else. Then the entries are run in order (`Compiler.run`), the
first refusal ends the run, and what has been drafted is written as a document.
`Compiler.trace` is a whole compilation with its log; `Compiler.build` is what
comes out of it.

A compilation opens a span that says how many entries it was given, and inside
it reports what it passes over, what it refuses and what it made. An event is
told by what happened; its level, text and fields follow from that.
-/

namespace SearchRules

/-! ## What a compilation reports -/

/-- How much an event matters. -/
inductive Level where
  | debug
  | info
  | warn
deriving DecidableEq

/-- How a log calls a level. -/
def Level.name : Level → String
  | .debug => "DEBUG"
  | .info => "INFO"
  | .warn => "WARN"

/-- Something that happens while a request is compiled. -/
inductive Event where
  /-- An entry of this kind has no arguments. -/
  | skipped (kind : String)
  /-- No handler has this kind. -/
  | ignored (kind : String)
  /-- The handler of this kind refused an entry. -/
  | rejected (kind : String) (error : RuleError)
  /-- No rule was drafted. -/
  | nothingDrafted
  /-- A document was made, with so many clauses and fragments. -/
  | compiled (clauses fragments : Nat)

namespace Event

/-- The level of an event. -/
def level : Event → Level
  | .rejected _ _ => .warn
  | _ => .debug

/-- The text of an event. -/
def text : Event → String
  | .skipped _ => "Skipping rule without arguments"
  | .ignored _ => "Ignoring unrecognized rule kind"
  | .rejected _ _ => "Rule rejected"
  | .nothingDrafted => "No rules to compile"
  | .compiled _ _ => "Compiled rule request"

/-- The fields of an event, by name. -/
def fields : Event → List (String × String)
  | .skipped kind => [("rule", kind)]
  | .ignored kind => [("rule", kind)]
  | .rejected kind error => [("rule", kind), ("error", error.message)]
  | .nothingDrafted => []
  | .compiled clauses fragments =>
    [("clauses", toString clauses), ("fragments", toString fragments)]

end Event

/-- The span around a compilation. -/
structure Span where
  /-- The number of entries of the request. -/
  entries : Nat
deriving DecidableEq

namespace Span

/-- The level of the span. -/
def level (_ : Span) : Level := .info

/-- The name of the span. -/
def name (_ : Span) : String := "build"

/-- The fields of the span, by name. -/
def fields (s : Span) : List (String × String) := [("entries", toString s.entries)]

end Span

/-! ## Compiling -/

/-- Settings and registered handlers. -/
structure Compiler where
  /-- The settings. -/
  config : Config
  /-- The handlers that were registered, by kind, in order of first registration. -/
  handlers : OrderedMap String Handler

/-- What a compilation leaves behind. -/
structure Trace where
  /-- The span around the events. -/
  span : Span
  /-- What happened, in order. -/
  events : List Event
  /-- The document, or why there is none. -/
  result : Except RuleError Document

namespace Compiler

/-- A compiler with the built-in kinds alone. -/
def withConfig (config : Config) : Compiler := ⟨config, .empty⟩

instance : Inhabited Compiler := ⟨withConfig .default⟩

/-- Register a handler under a kind, over any other of that kind. -/
def withHandler (c : Compiler) (kind : String) (handler : Handler) : Compiler :=
  { c with handlers := c.handlers.insert kind handler }

/-- The handler of a kind: the registered one, or else the built-in one. -/
def handler? (c : Compiler) (kind : String) : Option Handler :=
  (c.handlers.get? kind).or ((RuleKind.ofName? kind).map RuleKind.handler)

/-- Whether a kind has a handler. -/
def supports (c : Compiler) (kind : String) : Bool := (c.handler? kind).isSome

/-- A compiler in words: its settings and the kinds that were registered. -/
def describe (c : Compiler) : String :=
  "RuleCompiler \x7b config: " ++ c.config.describe ++ ", custom_handlers: [" ++
    String.intercalate ", " (c.handlers.keys.map Text.quoted) ++ "] \x7d"

/-- What an entry has the compiler do. -/
inductive Step where
  /-- Nothing, for want of arguments. -/
  | skip
  /-- Nothing, for want of a handler. -/
  | ignore
  /-- A change of the draft. -/
  | change (change : DraftM Unit)

/-- What an entry has the compiler do. Arguments are looked at before the kind. -/
def step (c : Compiler) (e : Entry) : Step :=
  match e.arguments with
  | none => .skip
  | some args =>
    match c.handler? e.kind with
    | none => .ignore
    | some handler => .change (handler args)

/-- Run entries on a draft until one is refused: what happened, and the draft or
the refusal. -/
def run (c : Compiler) (d : Draft) : List Entry → List Event × Except RuleError Draft
  | [] => ([], .ok d)
  | e :: rest =>
    match c.step e with
    | .skip =>
      let (events, outcome) := c.run d rest
      (.skipped e.kind :: events, outcome)
    | .ignore =>
      let (events, outcome) := c.run d rest
      (.ignored e.kind :: events, outcome)
    | .change change =>
      match change.exec d with
      | (.ok (), d) => c.run d rest
      | (.error error, _) => ([.rejected e.kind error], .error error)

/-- Write a draft as a document, and report it. -/
def finish (c : Compiler) (d : Draft) : Event × Document :=
  if d.isEmpty then (.nothingDrafted, .empty)
  else
    let document := d.render c.config
    (.compiled document.size document.fragmentCount, document)

/-- The refusal of a request with more entries than the limit allows. -/
def limitError? (c : Compiler) (r : Request) : Option RuleError :=
  match c.config.maxRules with
  | none => none
  | some limit => if limit < r.size then some (.tooManyRules r.size limit) else none

/-- Compile a request and log it. -/
def trace (c : Compiler) (r : Request) : Trace :=
  match c.limitError? r with
  | some error => ⟨⟨r.size⟩, [], .error error⟩
  | none =>
    match c.run .empty r.entries with
    | (events, .error error) => ⟨⟨r.size⟩, events, .error error⟩
    | (events, .ok d) =>
      let (event, document) := c.finish d
      ⟨⟨r.size⟩, events ++ [event], .ok document⟩

/-- Compile a request. -/
def build (c : Compiler) (r : Request) : Except RuleError Document := (c.trace r).result

end Compiler

end SearchRules
