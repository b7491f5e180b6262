import SearchRules.Proofs.Request.Builder

/-!
# Registered handlers as scripts

A registered handler that does nothing but call rules is a script: its arguments
come down to a list of rules, which are put into the draft one after the other
until one is refused. Such a handler adds nothing to the language of requests.
Where it is called, its rules can be written out instead, also if it hides a kind
that is built in and also if it is refused halfway, when a part of its rules has
been drafted already.

> `run_cons`, `run_append`: the outcome of a run with any handlers, by its entries.
>
> `outcome_step_expand`: one entry does what its expansion does.
>
> `build_expand`: a whole compilation, by induction on the entries.
-/

namespace SearchRules

/-- The handler puts the rules of the script into the draft, one after the other,
up to the first that is refused. -/
def Handler.Follows (handler : Handler) (script : Json → List Rule) : Prop :=
  ∀ args d, (handler args).exec d = (Rule.applyAll (script args)).exec d

namespace Compiler

/-! ## A run, entry by entry -/

/-- The draft after a step, or why the step was refused. -/
def Step.outcome : Step → Draft → Except RuleError Draft
  | .skip, d => .ok d
  | .ignore, d => .ok d
  | .change action, d => action.outcome d

/-- A run is what is done at the first entry, and then the rest of the run. -/
theorem run_cons (c : Compiler) (d : Draft) (e : Entry) (rest : List Entry) :
    (c.run d (e :: rest)).2 = ((c.step e).outcome d).bind fun d' => (c.run d' rest).2 := by
  cases hstep : c.step e with
  | skip => exact run_cons_of_skip hstep rest
  | ignore => exact run_cons_of_ignore hstep rest
  | change change =>
    rw [Step.outcome, DraftM.outcome]
    rcases hexec : change.exec d with ⟨_ | _, d'⟩
    · exact run_cons_of_refusal hstep hexec rest
    · exact run_cons_of_change hstep hexec rest

/-- A run of two lists is the run of the first and then, unless it failed, of the
second. -/
theorem run_append (c : Compiler) (d : Draft) (before after : List Entry) :
    (c.run d (before ++ after)).2 =
      (c.run d before).2.bind fun d' => (c.run d' after).2 := by
  -- on the entries before, for whatever draft earlier ones left
  induction before generalizing d with
  | nil => rfl
  | cons e rest ih =>
    rw [List.cons_append, run_cons, run_cons]
    cases (c.step e).outcome d with
    | error error => rfl
    | ok d' => exact ih d'

theorem run_singleton (c : Compiler) (d : Draft) (e : Entry) :
    (c.run d [e]).2 = (c.step e).outcome d := by
  rw [run_cons]
  cases (c.step e).outcome d <;> rfl

/-- Running the entries of rules is applying the rules. -/
theorem run_map_entry (config : Config) (d : Draft) (rules : List Rule) :
    ((withConfig config).run d (rules.map Rule.entry)).2 = (Rule.applyAll rules).outcome d := by
  rw [run_withConfig, Rule.outcome_applyAll]

/-! ## Expansion -/

/-- The entries that an entry stands for: the rules of its script where its kind
is registered, and otherwise the entry itself. An absent entry of a registered
kind stands for nothing. -/
def expandEntry (c : Compiler) (scripts : String → Json → List Rule) (e : Entry) : List Entry :=
  if c.handlers.contains e.kind then
    match e.arguments with
    | none => []
    | some args => (scripts e.kind args).map Rule.entry
  else [e]

/-- The request with every entry of a registered kind expanded in its place. -/
def expand (c : Compiler) (scripts : String → Json → List Rule) (r : Request) : Request :=
  ⟨r.entries.flatMap (c.expandEntry scripts)⟩

section

variable {c : Compiler} {scripts : String → Json → List Rule}

/-- A kind that is not registered is treated as without registrations. -/
theorem step_eq_step_withConfig {e : Entry} (h : c.handlers.get? e.kind = none) :
    c.step e = (withConfig c.config).step e := by
  have hhandler : c.handler? e.kind = (withConfig c.config).handler? e.kind := by
    unfold handler?
    rw [h]
    rfl
  unfold step
  rw [hhandler]

/-- A kind that is registered goes to its own handler, built in or not. -/
theorem step_of_registered {e : Entry} {handler : Handler}
    (h : c.handlers.get? e.kind = some handler) :
    c.step e = match e.arguments with
      | none => .skip
      | some args => .change (handler args) := by
  have hhandler : c.handler? e.kind = some handler := by
    unfold handler?
    rw [h]
    rfl
  unfold step
  cases e.arguments with
  | none => rfl
  | some args => rw [hhandler]

variable (hscripts : ∀ kind handler, c.handlers.get? kind = some handler →
  Handler.Follows handler (scripts kind))
include hscripts

/-- What is done at an entry is the built-in run of its expansion. -/
theorem outcome_step_expand (d : Draft) (e : Entry) :
    (c.step e).outcome d =
      ((withConfig c.config).run d (c.expandEntry scripts e)).2 := by
  unfold expandEntry OrderedMap.contains
  cases hget : c.handlers.get? e.kind with
  | none =>
    rw [Option.isSome_none, if_neg Bool.false_ne_true, run_singleton,
      step_eq_step_withConfig hget]
  | some handler =>
    rw [Option.isSome_some, if_pos rfl, step_of_registered hget]
    cases e.arguments with
    | none => rfl
    | some args =>
      -- the handler and its rules agree on the draft they leave and on the refusal
      rw [run_map_entry, Step.outcome, DraftM.outcome, DraftM.outcome,
        hscripts e.kind handler hget args d]

/-- What is done in a run is the built-in run of the expanded entries, by induction on
them. -/
theorem run_expand (d : Draft) (entries : List Entry) :
    (c.run d entries).2 =
      ((withConfig c.config).run d (entries.flatMap (c.expandEntry scripts))).2 := by
  -- on the entries, for whatever draft the earlier ones left
  induction entries generalizing d with
  | nil => rfl
  | cons e rest ih =>
    rw [run_cons, List.flatMap_cons, run_append, outcome_step_expand hscripts]
    exact congrArg _ (funext ih)

end

/-- Without a limit, compiling with registered scripts is compiling the expanded
request with the built-in kinds alone: the same document, or the same error. -/
theorem build_expand {c : Compiler} {scripts : String → Json → List Rule}
    (hlimit : c.config.maxRules = none)
    (hscripts : ∀ kind handler, c.handlers.get? kind = some handler →
      Handler.Follows handler (scripts kind)) (r : Request) :
    c.build r = (withConfig c.config).build (c.expand scripts r) := by
  have hexpanded : (c.expand scripts r).WithinLimit (withConfig c.config).config :=
    (c.expand scripts r).withinLimit_of_eq_none hlimit
  rw [build_of_withinLimit (r.withinLimit_of_eq_none hlimit), build_of_withinLimit hexpanded,
    run_expand hscripts]
  rfl

/-- A handler in the place of `must` that filters and then sets one bound, with
its argument for an operator. The last entry of the request is refused, for want
of an operator, after its filter has been drafted. -/
theorem build_expand_over_builtin :
    let recent : Handler := fun args => do
      DraftM.condition .filter "status" (.string "published") .empty
      DraftM.range "published_at" [args, .string "now"] .filter
    let script : Json → List Rule := fun args =>
      [.condition .filter "status" (.string "published") none,
        .range "published_at" [args, .string "now"] .filter]
    let c := (withConfig .default).withHandler "must" recent
    c.config.maxRules = none ∧
    (∀ kind handler, c.handlers.get? kind = some handler → Handler.Follows handler script) ∧
    c.build ⟨[⟨"must", some (.string "lte")⟩, ⟨"must", none⟩, ⟨"must", some (.bool true)⟩]⟩ =
      (withConfig .default).build (.ofRules [
        .condition .filter "status" (.string "published") none,
        .range "published_at" [.string "lte", .string "now"] .filter,
        .condition .filter "status" (.string "published") none,
        .range "published_at" [.bool true, .string "now"] .filter]) := by
  intro recent script c
  have hfollows : Handler.Follows recent script := by
    intro args d
    have hlast : DraftM.range "published_at" [args, .string "now"] .filter =
        (Rule.range "published_at" [args, .string "now"] .filter).apply >>= fun _ => pure () :=
      (bind_pure _).symm
    show (DraftM.condition _ _ _ _ >>= fun _ => _).exec d = _
    rw [hlast]
    rfl
  have hscripts : ∀ kind handler, c.handlers.get? kind = some handler →
      Handler.Follows handler script := by
    intro kind handler hget
    have hinsert := OrderedMap.get?_insert .empty "must" kind recent
    split at hinsert
    · exact Option.some.inj (hinsert.symm.trans hget) ▸ hfollows
    · exact absurd (hget.symm.trans hinsert) (Option.some_ne_none handler)
  exact ⟨rfl, hscripts, build_expand rfl hscripts _⟩

end Compiler

end SearchRules
