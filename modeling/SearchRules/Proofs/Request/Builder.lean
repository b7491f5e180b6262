import SearchRules.Proofs.Compiler.Outcome
import SearchRules.Proofs.Rule.Forms

/-!
# Requests built rule by rule

Rules can be put into a draft directly, or they can be gathered in a request and
compiled. The request writes each rule as arguments and the compiler reads them
again; the two share no code, and yet nothing is lost on the way. What is *not*
kept is whether settings were left out or empty: a multi-field match drops empty
settings, and a draft does not tell the two apart.

> `Rule.edit_arguments`: reading what a rule writes gives its edit.
>
> `Rule.outcome_applyAll`: applying rules in order replays their edits, up to the
> first refusal.
>
> `Rule.outcome_applyAll_eq_foldlM`: it is also the same as putting them into the
> maps and lists of the draft one after the other (`Draft.put`).
>
> `Compiler.build_ofRules`: compiling the request of some rules is applying them
> to the empty draft and writing it; the first rule that is refused decides the
> error.
-/

namespace SearchRules

namespace DraftM

/-- The draft after a change, or why the change was refused. -/
def outcome (change : DraftM Unit) (d : Draft) : Except RuleError Draft :=
  match change.exec d with
  | (.ok (), d') => .ok d'
  | (.error error, _) => .error error

/-- Two changes in a row: a refusal in the first one keeps the draft that it left. -/
theorem exec_seq (first second : DraftM Unit) (d : Draft) :
    (first >>= fun _ => second).exec d =
      match first.exec d with
      | (.ok (), d') => second.exec d'
      | (.error error, d') => (.error error, d') := by
  have hfirst : first.exec d = first d := rfl
  rw [hfirst]
  show (match first d with | (result, d') => ExceptT.bindCont (fun _ => second) result d') = _
  rcases first d with ⟨_ | _, d'⟩ <;> rfl

theorem outcome_seq (first second : DraftM Unit) (d : Draft) :
    (first >>= fun _ => second).outcome d = (first.outcome d).bind second.outcome := by
  rw [outcome, outcome, exec_seq]
  rcases first.exec d with ⟨_ | _, d'⟩ <;> rfl

end DraftM

/-! ## Arguments are read as they were written -/

/-- Settings are read as they were written, empty ones too. -/
theorem Json.asOptionalMap_ofMap (m : OrderedMap String Json) :
    (Json.ofMap m).asOptionalMap = .ok (some m) := by
  show Except.ok (some (OrderedMap.ofList m.entries)) = _
  rw [m.ofList_entries]

namespace Record

/-- The arguments of a condition are read part by part. -/
theorem read_condition (field : String) (value : Json) (attributes : Option Attributes) :
    condition.read (.object ([("field", .string field), ("value", value)] ++
      Rule.attributesMember attributes)) = .ok (field, value, attributes) := by
  refine (ofMembers_eq_ok_iff distinct_condition).2 ⟨?_, ?_, ?_⟩
  · cases attributes <;> rfl
  · cases attributes <;> rfl
  · cases attributes with
    | none => rfl
    | some m => exact congrArg Except.toOption (Json.asOptionalMap_ofMap m)

theorem read_multiMatch (fields : List String) (value : Json)
    (attributes : Option Attributes) :
    multiMatch.read (.object ([("fields", .array (fields.map .string)), ("value", value)] ++
      Rule.attributesMember attributes)) = .ok (fields, value, attributes) := by
  refine (ofMembers_eq_ok_iff distinct_multiMatch).2 ⟨?_, ?_, ?_⟩
  · have hfields : (Json.array (fields.map .string)).asStrings.toOption = some fields :=
      toOption_eq_some_iff.2 (Json.asStrings_eq_ok_iff.2 rfl)
    cases attributes <;> exact hfields
  · cases attributes <;> rfl
  · cases attributes with
    | none => rfl
    | some m => exact congrArg Except.toOption (Json.asOptionalMap_ofMap m)

/-- The arguments of a range are read part by part, with the clause under `type`. -/
theorem read_range (field : String) (values : List Json) (c : Clause) :
    range.read (.object
      [("field", .string field), ("values", .array values), ("type", c.toJson)]) =
      .ok (field, values, c) := by
  refine (ofMembers_eq_ok_iff distinct_range).2 ⟨rfl, rfl, ?_⟩
  exact congrArg Except.toOption c.ofJson_toJson

end Record

namespace Rule

/-- Settings that are empty count like settings that are left out. -/
theorem getD_filter_isEmpty (attributes : Option Attributes) :
    (attributes.filter fun m => !m.isEmpty).getD .empty = attributes.getD .empty := by
  cases attributes with
  | none => rfl
  | some m =>
    by_cases hm : m.isEmpty = true
    · have hempty : m = .empty := OrderedMap.ext (List.isEmpty_iff.1 hm)
      rw [hempty]
      rfl
    · rw [Option.filter_some, if_pos (by simpa using hm)]

/-- What a rule writes is read as the same edit, or refused as the rule is. -/
theorem edit_arguments (rule : Rule) : rule.kind.edit rule.arguments = rule.edit := by
  -- the record of the kind reads what was written, and the edit is made of that
  cases rule with
  | condition c field value attributes =>
    have hread := Record.read_condition field value attributes
    simp only [RuleKind.edit, kind, ofArguments, arguments, hread, bind, Except.bind, pure,
      Except.pure]
  | multiMatch fields value attributes =>
    have hread := Record.read_multiMatch fields value (attributes.filter fun m => !m.isEmpty)
    simp only [RuleKind.edit, kind, ofArguments, arguments, hread, bind, Except.bind, pure,
      Except.pure, edit]
    rw [getD_filter_isEmpty]
  | range field values c =>
    have hread := Record.read_range field values c
    simp only [RuleKind.edit, kind, ofArguments, arguments, hread, bind, Except.bind, pure,
      Except.pure]

/-- The entry of a rule is live: it names a built-in kind and has arguments. -/
theorem live?_entry (rule : Rule) :
    rule.entry.live? = some (rule.kind, rule.arguments) := by
  refine Entry.live?_eq_some_iff.2 ⟨rfl, ?_, rfl⟩
  -- arguments are an object, even where the value in them is null
  cases rule <;> rfl

/-- The entry of a rule makes the edit of the rule, or is refused as the rule is. -/
theorem edit_entry (rule : Rule) : rule.entry.edit = rule.edit.map some := by
  rw [Entry.edit, live?_entry]
  exact congrArg (Except.map some) rule.edit_arguments

/-! ## Rules in a row -/

end Rule

/-- The draft after one more rule. A condition goes into the map of its clause and
a range into the map of ranges, over an earlier one on the field; a multi-field
match goes behind the others. Settings that are left out are empty, and only
values that make no bounds are refused. -/
def Draft.put (d : Draft) : Rule → Except RuleError Draft
  | .condition c field value attributes =>
    .ok (d.setCondition c field ⟨value, attributes.getD .empty⟩)
  | .multiMatch fields value attributes =>
    .ok (d.addMultiMatch ⟨fields, value, attributes.getD .empty⟩)
  | .range field values c => do
    let bounds ← Range.bounds? values
    pure (d.setRange field ⟨bounds, c⟩)

namespace Rule

/-- Put rules into a draft, one after the other, until one is refused. -/
def applyAll (rules : List Rule) : DraftM Unit := rules.forM apply

/-- Applying a rule is making its edit. -/
theorem outcome_apply (rule : Rule) (d : Draft) :
    rule.apply.outcome d = rule.edit.map fun e => e.apply d := by
  rw [DraftM.outcome, rule.exec_apply]
  cases rule.edit <;> rfl

/-- Applying a rule is putting it into the maps and lists of the draft. -/
theorem outcome_apply_eq_put (rule : Rule) (d : Draft) : rule.apply.outcome d = d.put rule := by
  cases rule with
  | condition c field value attributes => rfl
  | multiMatch fields value attributes => rfl
  | range field values c =>
    rw [DraftM.outcome, apply, DraftM.exec_range, Draft.put]
    cases Range.bounds? values <;> rfl

theorem outcome_applyAll_cons (rule : Rule) (rest : List Rule) (d : Draft) :
    (applyAll (rule :: rest)).outcome d =
      (rule.apply.outcome d).bind (applyAll rest).outcome :=
  rule.apply.outcome_seq (applyAll rest) d

/-- Applying rules puts them into the draft in turn. -/
theorem outcome_applyAll_eq_foldlM (rules : List Rule) (d : Draft) :
    (applyAll rules).outcome d = rules.foldlM Draft.put d := by
  -- on the rules, for whatever draft the earlier ones left
  induction rules generalizing d with
  | nil => rfl
  | cons rule rest ih =>
    rw [outcome_applyAll_cons, outcome_apply_eq_put, List.foldlM_cons]
    cases d.put rule with
    | error error => rfl
    | ok d' => exact ih d'

/-- Rules in two parts: the second part meets the draft that the first one left. -/
theorem outcome_applyAll_append (before after : List Rule) (d : Draft) :
    (applyAll (before ++ after)).outcome d =
      ((applyAll before).outcome d).bind (applyAll after).outcome := by
  -- on the rules before, for any draft that they are applied to
  induction before generalizing d with
  | nil => rfl
  | cons rule rest ih =>
    rw [List.cons_append, outcome_applyAll_cons, outcome_applyAll_cons]
    cases rule.apply.outcome d with
    | error error => rfl
    | ok d' => exact ih d'

/-- Applying rules is replaying the edits of their entries. -/
theorem outcome_applyAll (rules : List Rule) (d : Draft) :
    (applyAll rules).outcome d = (Entry.edits (rules.map entry)).map d.replay := by
  -- on the rules, for whatever draft the earlier ones left
  induction rules generalizing d with
  | nil => rfl
  | cons rule rest ih =>
    rw [outcome_applyAll_cons, outcome_apply, List.map_cons, Entry.edits, edit_entry]
    cases rule.edit with
    | error error => rfl
    | ok e =>
      show (applyAll rest).outcome (e.apply d) = _
      rw [ih]
      cases Entry.edits (rest.map entry) <;> rfl

end Rule

/-! ## The request of some rules -/

/-- The request that rules make, added one after the other. -/
def Request.ofRules (rules : List Rule) : Request := rules.foldl Request.add .empty

theorem Request.entries_foldl_add (rules : List Rule) (r : Request) :
    (rules.foldl add r).entries = r.entries ++ rules.map Rule.entry := by
  induction rules generalizing r with
  | nil => exact (List.append_nil _).symm
  | cons rule rest ih =>
    rw [List.foldl_cons, ih]
    show (r.entries ++ [rule.entry]) ++ rest.map Rule.entry = _
    rw [List.append_assoc]
    rfl

theorem Request.entries_ofRules (rules : List Rule) :
    (ofRules rules).entries = rules.map Rule.entry :=
  entries_foldl_add rules .empty

namespace Compiler

/-- Without a limit, compiling the request of some rules is applying the rules
to the empty draft and writing what they leave, and so it is putting them in turn
into its maps and lists. If a rule is refused after others that are not, its error
is the outcome. -/
theorem build_ofRules {config : Config} (hlimit : config.maxRules = none)
    (rules : List Rule) :
    (withConfig config).build (.ofRules rules) =
      ((Rule.applyAll rules).outcome .empty).map (fun d => d.render config) ∧
    (withConfig config).build (.ofRules rules) =
      (rules.foldlM Draft.put .empty).map (fun d => d.render config) ∧
    ∀ before rule after d error, rules = before ++ rule :: after →
      (Rule.applyAll before).outcome .empty = .ok d → rule.apply.outcome d = .error error →
      (withConfig config).build (.ofRules rules) = .error error := by
  have hwithin : (Request.ofRules rules).WithinLimit config := by
    intro limit h
    rw [hlimit] at h
    exact absurd h nofun
  have hbuild : (withConfig config).build (.ofRules rules) =
      ((Rule.applyAll rules).outcome .empty).map (fun d => d.render config) := by
    rw [build_withConfig hwithin, Request.entries_ofRules, Rule.outcome_applyAll]
    cases Entry.edits (rules.map Rule.entry) <;> rfl
  refine ⟨hbuild, ?_, ?_⟩
  · rw [hbuild, Rule.outcome_applyAll_eq_foldlM]
  · intro before rule after d error hrules hbefore herror
    -- what was applied before the refusal does not matter, nor does what follows
    have houtcome : (Rule.applyAll rules).outcome .empty = .error error := by
      rw [hrules, Rule.outcome_applyAll_append, hbefore]
      show (Rule.applyAll (rule :: after)).outcome d = .error error
      rw [Rule.outcome_applyAll_cons, herror]
      rfl
    rw [hbuild, houtcome]
    rfl

/-- A condition on `null` stands, and the range after it is refused. -/
theorem build_ofRules_unpaired :
    Config.default.maxRules = none ∧
    (withConfig .default).build (.ofRules [.condition .must "a" .null none]) =
      ((Rule.applyAll [.condition .must "a" .null none]).outcome .empty).map
        (fun d => d.render .default) ∧
    (withConfig .default).build
        (.ofRules [.condition .must "a" .null none, .range "b" [.null] .must]) =
      .error (.violation .unpairedBounds) := by
  refine ⟨rfl, (build_ofRules rfl _).1, ?_⟩
  exact (build_ofRules rfl _).2.2 [.condition .must "a" .null none] (.range "b" [.null] .must) []
    _ _ rfl rfl rfl

end Compiler

end SearchRules
