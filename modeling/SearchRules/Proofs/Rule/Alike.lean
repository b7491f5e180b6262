import SearchRules.Proofs.Draft.Alike
import SearchRules.Proofs.Rule.Edit
import SearchRules.Proofs.Rule.Reading

/-!
# Equal arguments make equal edits

Equal arguments write equal rules, or none, and a rule makes its edit of what it
holds. A range is the only rule that may still be refused, and it reads its
bounds value by value, so that the place at fault is the same.

> `Rule.Alike.edit`: equal rules make equal edits, or are refused alike.
>
> `RuleKind.edit_alike`: and so do equal arguments; what may differ is only the
> reason why arguments cannot be read.
-/

namespace SearchRules

/-- The same refusal, but for the reason why arguments cannot be read. -/
def RuleError.SameButReason : RuleError → RuleError → Prop
  | .arguments rule _, .arguments rule' _ => rule = rule'
  | x, y => x = y

theorem RuleError.sameButReason_refl (x : RuleError) : x.SameButReason x := by
  cases x <;> rfl

/-- Outcomes that are both there and related, or both refused alike. -/
inductive SameOutcome {α β : Type} (R : α → β → Prop) :
    Except RuleError α → Except RuleError β → Prop
  | ok {a : α} {b : β} (h : R a b) : SameOutcome R (.ok a) (.ok b)
  | error {x y : RuleError} (h : x.SameButReason y) : SameOutcome R (.error x) (.error y)

section

variable {α β : Type} {R : α → α → Prop} {S : β → β → Prop} {x y : Except RuleError α}

theorem SameOutcome.map (h : SameOutcome R x y) {f g : α → β}
    (hfg : ∀ {a b}, R a b → S (f a) (g b)) : SameOutcome S (x.map f) (y.map g) := by
  cases h with
  | ok hab => exact .ok (hfg hab)
  | error hreason => exact .error hreason

/-- Related outcomes go on to related outcomes, or fail alike. -/
theorem SameOutcome.bind (h : SameOutcome R x y) {f g : α → Except RuleError β}
    (hfg : ∀ {a b}, R a b → SameOutcome S (f a) (g b)) :
    SameOutcome S (x >>= f) (y >>= g) := by
  cases h with
  | ok hab => exact hfg hab
  | error hreason => exact .error hreason

end

/-! ## Rules -/

/-- Rules of one kind on the same fields, with equal values and settings. -/
inductive Rule.Alike : Rule → Rule → Prop
  | condition (c : Clause) (field : String) {v w : Json} {as bs : Option Attributes}
    (hvalue : Json.Alike v w) (hattributes : Option.Rel (OrderedMap.Agree Json.Alike) as bs) :
    Alike (.condition c field v as) (.condition c field w bs)
  | multiMatch (fields : List String) {v w : Json} {as bs : Option Attributes}
    (hvalue : Json.Alike v w) (hattributes : Option.Rel (OrderedMap.Agree Json.Alike) as bs) :
    Alike (.multiMatch fields v as) (.multiMatch fields w bs)
  | range (field : String) {vs ws : List Json} (h : List.Forall₂ Json.Alike vs ws) (c : Clause) :
    Alike (.range field vs c) (.range field ws c)

/-- Settings that are left out agree with empty ones. -/
theorem agree_getD {as bs : Option Attributes}
    (h : Option.Rel (OrderedMap.Agree Json.Alike) as bs) :
    OrderedMap.Agree Json.Alike (as.getD .empty) (bs.getD .empty) := by
  cases h with
  | some hagree => exact hagree
  | none => exact OrderedMap.agree_empty

theorem readBounds_singleton (position : Nat) (v : Json) : readBounds position [v] = .ok [] := by
  cases v <;> rfl

/-- Operators and operands of equal values, or the same place at fault. -/
theorem readBounds_alike : ∀ {vs ws : List Json} (_ : List.Forall₂ Json.Alike vs ws)
    (position : Nat),
    (∃ bs cs, readBounds position vs = .ok bs ∧ readBounds position ws = .ok cs ∧
      List.Forall₂ (Paired Json.Alike) bs cs) ∨
    ∃ p, readBounds position vs = .error p ∧ readBounds position ws = .error p
  | [], [], _, _ => Or.inl ⟨[], [], rfl, rfl, .nil⟩
  | [v], [w], _, position =>
    Or.inl ⟨[], [], readBounds_singleton position v, readBounds_singleton position w, .nil⟩
  | v :: v' :: rest, w :: w' :: others, .cons hvw (.cons hvw' h), position => by
    -- two values at a time, of which the first decides whether to go on
    cases hvw.view with
    | string s =>
      rw [readBounds, readBounds]
      rcases readBounds_alike h (position + 2) with ⟨bs, cs, hbs, hcs, hpaired⟩ | ⟨p, hbs, hcs⟩
      · rw [hbs, hcs]
        exact Or.inl ⟨_, _, rfl, rfl, .cons ⟨rfl, hvw'⟩ hpaired⟩
      · rw [hbs, hcs]
        exact Or.inr ⟨p, rfl, rfl⟩
    | null => exact Or.inr ⟨position, rfl, rfl⟩
    | bool b => exact Or.inr ⟨position, rfl, rfl⟩
    | number hn => exact Or.inr ⟨position, rfl, rfl⟩
    | array hitems => exact Or.inr ⟨position, rfl, rfl⟩
    | object hmembers => exact Or.inr ⟨position, rfl, rfl⟩

/-- Equal values make equal bounds, or are refused for the same cause. -/
theorem bounds?_alike {vs ws : List Json} (h : List.Forall₂ Json.Alike vs ws) :
    SameOutcome (List.Forall₂ (Paired Json.Alike)) (Range.bounds? vs) (Range.bounds? ws) := by
  rw [Range.bounds?, Range.bounds?, h.length_eq]
  split
  · exact .error rfl
  · rcases readBounds_alike h 0 with ⟨bs, cs, hbs, hcs, hpaired⟩ | ⟨p, hbs, hcs⟩
    · rw [hbs, hcs]
      exact .ok hpaired
    · rw [hbs, hcs]
      exact .error rfl

/-- Equal rules make equal edits, or are refused alike. -/
theorem Rule.Alike.edit {rule other : Rule} (h : rule.Alike other) :
    SameOutcome Edit.Alike rule.edit other.edit := by
  cases h with
  | condition c field hvalue hattributes =>
    exact .ok (.condition c field ⟨hvalue, agree_getD hattributes⟩)
  | multiMatch fields hvalue hattributes =>
    exact .ok (.multiMatch ⟨rfl, hvalue, agree_getD hattributes⟩)
  | range field hvalues c =>
    exact (bounds?_alike hvalues).map fun hbounds => .range field ⟨hbounds, rfl⟩

/-- Equal arguments write equal rules, or both write none. -/
theorem Rule.rel_ofArguments (kind : RuleKind) {v w : Json} (h : Json.Alike v w) :
    Option.Rel Rule.Alike (ofArguments kind v).toOption (ofArguments kind w).toOption := by
  cases kind with
  | clause c =>
    have hread := Record.rel_read Record.distinct_condition Field.respects_field
      Field.respects_value Field.respects_attributes h
    refine rel_bind_pure hread fun {p q} hpq => ?_
    obtain ⟨hfield, hvalue, hattributes⟩ := hpq
    show Rule.Alike (.condition c p.1 p.2.1 p.2.2) (.condition c q.1 q.2.1 q.2.2)
    rw [← hfield]
    exact .condition c p.1 hvalue hattributes
  | multiMatch =>
    have hread := Record.rel_read Record.distinct_multiMatch Field.respects_fields
      Field.respects_value Field.respects_attributes h
    refine rel_bind_pure hread fun {p q} hpq => ?_
    obtain ⟨hfields, hvalue, hattributes⟩ := hpq
    show Rule.Alike (.multiMatch p.1 p.2.1 p.2.2) (.multiMatch q.1 q.2.1 q.2.2)
    rw [← hfields]
    exact .multiMatch p.1 hvalue hattributes
  | range =>
    have hread := Record.rel_read Record.distinct_range Field.respects_field
      Field.respects_values Field.respects_clause h
    refine rel_bind_pure hread fun {p q} hpq => ?_
    obtain ⟨hfield, hvalues, hclause⟩ := hpq
    show Rule.Alike (.range p.1 p.2.1 p.2.2) (.range q.1 q.2.1 q.2.2)
    rw [← hfield, ← hclause]
    exact .range p.1 hvalues p.2.2

/-- Equal arguments make equal edits, or are refused alike. -/
theorem RuleKind.edit_alike (kind : RuleKind) {v w : Json} (h : Json.Alike v w) :
    SameOutcome Edit.Alike (kind.edit v) (kind.edit w) := by
  have hrules := Rule.rel_ofArguments kind h
  unfold edit
  -- both are read or neither, and an edit is made from what is read
  cases hv : Rule.ofArguments kind v with
  | error e =>
    cases hw : Rule.ofArguments kind w with
    | error e' => exact .error rfl
    | ok other =>
      rw [hv, hw] at hrules
      exact absurd hrules nofun
  | ok rule =>
    cases hw : Rule.ofArguments kind w with
    | error e' =>
      rw [hv, hw] at hrules
      exact absurd hrules nofun
    | ok other =>
      rw [hv, hw] at hrules
      cases hrules with
      | some hrule => exact hrule.edit

end SearchRules
