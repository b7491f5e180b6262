import SearchRules.Proofs.Draft.Edit
import SearchRules.Request

/-!
# Built-in rules as edits

A built-in rule looks at its arguments and at nothing else. It comes down to an
edit or to a refusal, and carrying it out on a draft is making the edit, or
leaving the draft as it is. An entry of a request that is passed over makes no
edit and is not refused either.

> `Rule.exec_apply`, `RuleKind.exec_handler`: what a rule does to a draft, told
> by its edit.
>
> `Entry.edits_eq_ok_iff`: a list of entries comes down to a list of edits if
> and only if every entry is accepted, and then the edits are those of its
> entries in order.
>
> `Entry.edits_eq_error_iff`: otherwise the first entry that is refused says why.
-/

namespace SearchRules

/-- The edit of a rule. Only the bounds of a range can be refused. -/
def Rule.edit : Rule → Except RuleError Edit
  | .condition c field value attributes =>
    .ok (.condition c field ⟨value, attributes.getD .empty⟩)
  | .multiMatch fields value attributes =>
    .ok (.multiMatch ⟨fields, value, attributes.getD .empty⟩)
  | .range field values c =>
    (Range.bounds? values).map fun bounds => .range field ⟨bounds, c⟩

/-- The edit that a kind of rule makes of its arguments. -/
def RuleKind.edit (kind : RuleKind) (args : Json) : Except RuleError Edit :=
  match Rule.ofArguments kind args with
  | .ok rule => rule.edit
  | .error e => .error (.arguments kind.name (.shape e))

/-- A rule makes its edit on the draft, or is refused and leaves the draft as it is. -/
theorem Rule.exec_apply (rule : Rule) (d : Draft) :
    rule.apply.exec d =
      match rule.edit with
      | .ok e => (.ok (), e.apply d)
      | .error error => (.error error, d) := by
  cases rule with
  | condition c field value attributes =>
    exact DraftM.exec_condition c field value (attributes.getD .empty) d
  | multiMatch fields value attributes =>
    exact DraftM.exec_multiMatch fields value (attributes.getD .empty) d
  | range field values c =>
    rw [apply, DraftM.exec_range, edit]
    cases Range.bounds? values <;> rfl

/-- The handler of a built-in kind makes its edit on the draft, or fails and leaves the
draft as it is. -/
theorem RuleKind.exec_handler (kind : RuleKind) (args : Json) (d : Draft) :
    (kind.handler args).exec d =
      match kind.edit args with
      | .ok e => (.ok (), e.apply d)
      | .error error => (.error error, d) := by
  unfold handler edit
  cases Rule.ofArguments kind args with
  | ok rule => exact rule.exec_apply d
  | error e => rfl

namespace Entry

/-- The kind and arguments of a live entry: its arguments count, and its kind is
built in. -/
def live? (e : Entry) : Option (RuleKind × Json) := do
  let args ← e.arguments
  let kind ← RuleKind.ofName? e.kind
  some (kind, args)

/-- What an entry does under the built-in kinds: no edit if it is passed over. -/
def edit (e : Entry) : Except RuleError (Option Edit) :=
  match e.live? with
  | some (kind, args) => (kind.edit args).map some
  | none => .ok none

/-- The edit of an entry that is live and accepted. -/
def edit? (e : Entry) : Option Edit :=
  e.live?.bind fun (kind, args) => (kind.edit args).toOption

/-- An entry is accepted if it is passed over, or if the handler of its kind
takes its arguments on an empty draft. -/
def Accepted (e : Entry) : Prop :=
  ∀ kind args, e.live? = some (kind, args) →
    ∃ d, (kind.handler args).exec .empty = (.ok (), d)

/-- The live entries are those of a built-in kind with arguments other than `null`. -/
theorem live?_eq_some_iff {e : Entry} {kind : RuleKind} {args : Json} :
    e.live? = some (kind, args) ↔
      e.args = some args ∧ args.isNull = false ∧ e.kind = kind.name := by
  have hargs : e.arguments = some args ↔ e.args = some args ∧ args.isNull = false := by
    rw [arguments, Option.filter_eq_some_iff]
    simp
  rw [← and_assoc, ← hargs, ← RuleKind.ofName?_eq_some_iff, live?]
  cases e.arguments <;> cases RuleKind.ofName? e.kind <;> simp [and_comm]

/-- An entry that is not refused makes its edit, if it has one. -/
theorem edit_eq_ok_or_error (e : Entry) :
    e.edit = .ok e.edit? ∨ ∃ error, e.edit = .error error := by
  unfold edit edit?
  cases e.live? with
  | none => exact Or.inl rfl
  | some live =>
    obtain ⟨kind, args⟩ := live
    show (kind.edit args).map some = .ok (kind.edit args).toOption ∨
      ∃ error, (kind.edit args).map some = .error error
    cases kind.edit args with
    | ok e => exact Or.inl rfl
    | error error => exact Or.inr ⟨error, rfl⟩

/-- What is accepted on an empty draft makes its edit on every draft. -/
theorem accepted_iff (e : Entry) : e.Accepted ↔ e.edit = .ok e.edit? := by
  unfold Accepted edit edit?
  cases e.live? with
  | none => exact ⟨fun _ => rfl, fun _ => nofun⟩
  | some live =>
    obtain ⟨kind, args⟩ := live
    have hexec := kind.exec_handler args .empty
    show _ ↔ (kind.edit args).map some = .ok (kind.edit args).toOption
    constructor
    · intro h
      -- the outcome on the empty draft tells whether there is an edit at all
      obtain ⟨d, hd⟩ := h kind args rfl
      cases hedit : kind.edit args with
      | ok e => rfl
      | error error =>
        rw [hd, hedit] at hexec
        exact absurd (congrArg Prod.fst hexec) nofun
    · intro h kind' args' heq
      rw [Option.some.injEq, Prod.mk.injEq] at heq
      rw [← heq.1, ← heq.2, hexec]
      cases hedit : kind.edit args with
      | ok e => exact ⟨_, rfl⟩
      | error error =>
        rw [hedit] at h
        exact absurd h nofun

/-- The entries that are not accepted are those that are refused. -/
theorem not_accepted_iff (e : Entry) : ¬e.Accepted ↔ ∃ error, e.edit = .error error := by
  rw [accepted_iff]
  constructor
  · exact (edit_eq_ok_or_error e).resolve_left
  · rintro ⟨error, herror⟩ h
    rw [herror] at h
    exact absurd h nofun

/-! ## Lists of entries -/

/-- The edits of entries in order, up to the first refusal. -/
def edits : List Entry → Except RuleError (List Edit)
  | [] => .ok []
  | e :: rest => do
    let edit? ← e.edit
    let more ← edits rest
    pure (edit?.toList ++ more)

/-- An entry that is accepted puts its edit in front of the others. -/
theorem edits_cons_of_accepted {e : Entry} (h : e.Accepted) (rest : List Entry) :
    edits (e :: rest) = (edits rest).map fun more => e.edit?.toList ++ more := by
  rw [edits, (accepted_iff e).1 h]
  cases edits rest <;> rfl

/-- An entry that is refused ends the list, whatever follows. -/
theorem edits_cons_of_error {e : Entry} {error : RuleError} (h : e.edit = .error error)
    (rest : List Entry) : edits (e :: rest) = .error error := by
  rw [edits, h]
  rfl

theorem filterMap_edit?_cons (e : Entry) (rest : List Entry) :
    (e :: rest).filterMap edit? = e.edit?.toList ++ rest.filterMap edit? := by
  rw [List.filterMap_cons]
  cases e.edit? <;> rfl

/-- If all entries are accepted, all their edits are made. -/
theorem edits_of_accepted {entries : List Entry} (h : ∀ e ∈ entries, e.Accepted) :
    edits entries = .ok (entries.filterMap edit?) := by
  induction entries with
  | nil => rfl
  | cons e rest ih =>
    rw [List.forall_mem_cons] at h
    rw [edits_cons_of_accepted h.1, ih h.2, filterMap_edit?_cons]
    rfl

/-- The first entry that is refused says why, since those before it only made edits. -/
theorem edits_of_error {before rest : List Entry} {e : Entry} {error : RuleError}
    (hbefore : ∀ b ∈ before, b.Accepted) (h : e.edit = .error error) :
    edits (before ++ e :: rest) = .error error := by
  induction before with
  | nil => exact edits_cons_of_error h rest
  | cons b before ih =>
    rw [List.forall_mem_cons] at hbefore
    rw [List.cons_append, edits_cons_of_accepted hbefore.1, ih hbefore.2]
    rfl

/-- Either all entries are accepted, or there is a first one that is not. -/
theorem all_accepted_or_first_error (entries : List Entry) :
    (∀ e ∈ entries, e.Accepted) ∨
      ∃ before e rest error, entries = before ++ e :: rest ∧
        (∀ b ∈ before, b.Accepted) ∧ e.edit = .error error := by
  -- on the entries: if the first is refused it is the one, and otherwise the rest decides
  induction entries with
  | nil => exact Or.inl nofun
  | cons e rest ih =>
    by_cases he : e.Accepted
    · rcases ih with hall | ⟨before, e', rest', error, rfl, hbefore, herror⟩
      · exact Or.inl (List.forall_mem_cons.2 ⟨he, hall⟩)
      · exact Or.inr ⟨e :: before, e', rest', error, rfl,
          List.forall_mem_cons.2 ⟨he, hbefore⟩, herror⟩
    · obtain ⟨error, herror⟩ := (not_accepted_iff e).1 he
      exact Or.inr ⟨[], e, rest, error, rfl, nofun, herror⟩

/-- A list of entries has edits if and only if every entry is accepted. -/
theorem edits_eq_ok_iff {entries : List Entry} {es : List Edit} :
    edits entries = .ok es ↔
      (∀ e ∈ entries, e.Accepted) ∧ es = entries.filterMap edit? := by
  constructor
  · intro h
    rcases all_accepted_or_first_error entries with hall | ⟨before, e, rest, error, rfl, hb, he⟩
    · rw [edits_of_accepted hall] at h
      exact ⟨hall, (Except.ok.inj h).symm⟩
    · rw [edits_of_error hb he] at h
      exact absurd h nofun
  · rintro ⟨hall, rfl⟩
    exact edits_of_accepted hall

/-- A list of entries is refused as its first refused entry is. -/
theorem edits_eq_error_iff {entries : List Entry} {error : RuleError} :
    edits entries = .error error ↔
      ∃ before e rest, entries = before ++ e :: rest ∧
        (∀ b ∈ before, b.Accepted) ∧ e.edit = .error error := by
  constructor
  · intro h
    rcases all_accepted_or_first_error entries with hall | ⟨before, e, rest, error', rfl, hb, he⟩
    · rw [edits_of_accepted hall] at h
      exact absurd h nofun
    · rw [edits_of_error hb he] at h
      exact ⟨before, e, rest, rfl, hb, Except.error.inj h ▸ he⟩
  · rintro ⟨before, e, rest, rfl, hb, he⟩
    exact edits_of_error hb he

end Entry

end SearchRules
