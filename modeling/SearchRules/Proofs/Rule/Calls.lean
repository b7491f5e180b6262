import SearchRules.Proofs.Compiler.Reordering

/-!
# A draft is a log of calls

A draft may be used without a compiler: rules are put into it one after the
other, and one that is refused does not end anything. What is in the draft then
is what a log of the accepted calls says, sort by sort. The conditions of each
clause and the ranges are the last writes of their fields, at the place of the
first; the multi-field matches are the log itself.

> `Rule.exec_apply_cases`: a call makes the edit of its rule or is refused, and
> leaves the draft alone then.
>
> `Draft.called_eq_replay`: calls make the edits of those that are accepted, by
> induction on the calls.
>
> `Draft.called_empty`: the parts of the draft, read off the log, and what no
> call does to the parts of other kinds.
-/

namespace SearchRules

open OrderedMap (lastWrites)

namespace Edit

variable {edit : Edit}

theorem conditions_apply_of_ne {c : Clause} (h : edit.kind ≠ .clause c) (d : Draft) :
    (edit.apply d).conditions c = d.conditions c := by
  rw [conditions_apply, condition?_eq_none h]
  rfl

theorem multiMatches_apply_of_ne (h : edit.kind ≠ .multiMatch) (d : Draft) :
    (edit.apply d).multiMatches = d.multiMatches := by
  rw [multiMatches_apply, multiMatch?_eq_none h]
  exact List.append_nil _

theorem ranges_apply_of_ne (h : edit.kind ≠ .range) (d : Draft) :
    (edit.apply d).ranges = d.ranges := by
  rw [ranges_apply, range?_eq_none h]
  rfl

end Edit

namespace Rule

/-- The edit of a rule that is accepted. -/
def edit? (rule : Rule) : Option Edit := rule.edit.toOption

/-- A call makes an edit of the kind of its rule, or is refused. -/
theorem exec_apply_cases (rule : Rule) (d : Draft) :
    (∃ edit, rule.edit? = some edit ∧ edit.kind = rule.kind ∧
      rule.apply.exec d = (.ok (), edit.apply d)) ∨
    (rule.edit? = none ∧ ∃ error, rule.apply.exec d = (.error error, d)) := by
  rw [edit?, exec_apply]
  cases hedit : rule.edit with
  | ok edit => exact Or.inl ⟨edit, rfl, kind_edit hedit, rfl⟩
  | error error => exact Or.inr ⟨rfl, error, rfl⟩

/-- A rule is taken if it has an edit, on any draft. -/
theorem exec_apply_eq_ok_iff (rule : Rule) (d : Draft) :
    (rule.apply.exec d).1 = .ok () ↔ rule.edit?.isSome = true := by
  rcases rule.exec_apply_cases d with ⟨edit, hedit, -, hexec⟩ | ⟨hedit, error, hexec⟩
  · rw [hexec, hedit]
    exact iff_of_true rfl rfl
  · rw [hexec, hedit]
    exact iff_of_false nofun nofun

end Rule

namespace Draft

/-- The draft after calls of rules, one after the other, whether or not they are
refused. -/
def called (d : Draft) (rules : List Rule) : Draft :=
  rules.foldl (fun d rule => (rule.apply.exec d).2) d

theorem called_cons (d : Draft) (rule : Rule) (rules : List Rule) :
    d.called (rule :: rules) = (rule.apply.exec d).2.called rules := rfl

/-- Calls do what the edits do of those that are accepted. -/
theorem called_eq_replay (d : Draft) (rules : List Rule) :
    d.called rules = d.replay (rules.filterMap Rule.edit?) := by
  induction rules generalizing d with
  | nil => rfl
  | cons rule rest ih =>
    rw [called_cons, ih, List.filterMap_cons]
    -- a rule that is refused has no edit and leaves the draft
    rcases rule.exec_apply_cases d with ⟨edit, hedit, -, hexec⟩ | ⟨hedit, error, hexec⟩
    · rw [hexec, hedit]
      rfl
    · rw [hexec, hedit]

/-- What a call leaves as it was: the conditions of other clauses, the matches if
it adds none and the ranges if it puts none. -/
theorem exec_apply_unchanged (rule : Rule) (d : Draft) :
    (∀ c, rule.kind ≠ .clause c → (rule.apply.exec d).2.conditions c = d.conditions c) ∧
    (rule.kind ≠ .multiMatch → (rule.apply.exec d).2.multiMatches = d.multiMatches) ∧
    (rule.kind ≠ .range → (rule.apply.exec d).2.ranges = d.ranges) := by
  rcases rule.exec_apply_cases d with ⟨edit, -, hkind, hexec⟩ | ⟨-, error, hexec⟩
  · rw [hexec, ← hkind]
    exact ⟨fun _ h => Edit.conditions_apply_of_ne h d,
      fun h => Edit.multiMatches_apply_of_ne h d, fun h => Edit.ranges_apply_of_ne h d⟩
  · rw [hexec]
    exact ⟨fun _ _ => rfl, fun _ => rfl, fun _ => rfl⟩

/-- After any calls on an empty draft, the conditions of a clause are those of the
calls for it and the ranges are those of the calls that were accepted: each field
once, in the order of the first call for it and with what the last one said. The
multi-field matches are those of all calls, in order. Whether a call is accepted
does not depend on the draft, and no call touches what belongs to another kind. -/
theorem called_empty (rules : List Rule) :
    (∀ c, ((empty.called rules).conditions c).entries =
      lastWrites ((rules.filterMap Rule.edit?).filterMap (Edit.condition? c))) ∧
    (empty.called rules).ranges.entries =
      lastWrites ((rules.filterMap Rule.edit?).filterMap Edit.range?) ∧
    (empty.called rules).multiMatches =
      (rules.filterMap Rule.edit?).filterMap Edit.multiMatch? ∧
    (∀ (rule : Rule) d, (rule.apply.exec d).1 = .ok () ↔ rule.edit?.isSome = true) ∧
    ∀ (rule : Rule) d,
      (∀ c, rule.kind ≠ .clause c → (rule.apply.exec d).2.conditions c = d.conditions c) ∧
      (rule.kind ≠ .multiMatch → (rule.apply.exec d).2.multiMatches = d.multiMatches) ∧
      (rule.kind ≠ .range → (rule.apply.exec d).2.ranges = d.ranges) := by
  rw [called_eq_replay]
  exact ⟨entries_conditions_replay _, entries_ranges_replay _, multiMatches_replay empty _,
    Rule.exec_apply_eq_ok_iff, exec_apply_unchanged⟩

/-- A field that is called under two clauses, and again under the first of them
after a refused range on it and a condition on another field. -/
theorem called_empty_with_refused :
    let rules : List Rule := [.condition .must "a" .null none, .range "a" [.null] .must,
      .condition .filter "a" .null none, .condition .must "b" .null none,
      .condition .must "a" (.bool true) none]
    ((empty.called rules).conditions .must).entries =
      [("a", ⟨.bool true, .empty⟩), ("b", ⟨.null, .empty⟩)] ∧
    (empty.called rules).ranges.entries = [] ∧
    RuleKind.clause .must ≠ .clause .filter ∧
    ∀ d, ((Rule.condition .must "a" (.bool true) none).apply.exec d).2.conditions .filter =
      d.conditions .filter := by
  intro rules
  obtain ⟨hconditions, hranges, -, -, hunchanged⟩ := called_empty rules
  have hkind : RuleKind.clause .must ≠ .clause .filter := by decide
  exact ⟨(hconditions .must).trans rfl, hranges.trans rfl, hkind, fun d =>
    (hunchanged (.condition .must "a" (.bool true) none) d).1 .filter hkind⟩

end Draft

end SearchRules
