import SearchRules.Proofs.Draft.Layout
import SearchRules.Proofs.Json.Portable
import SearchRules.Proofs.Rule.Range

/-!
# From arguments to fragments

Nothing is made up on the way from the arguments of a rule to a fragment: the
values that stand in a fragment are values that stood in the arguments, next to
names and strings. So a fragment is as portable as the arguments, up to the levels
that are taken off and put on. A value stands one level deep in its arguments, or
deeper. Below the search and the field of a fragment it is on the third level
where other settings stand beside it, and no form of a fragment puts it deeper.

> `Rule.Written.portable_values`: the values of a rule, one level below its
> arguments, for either form of them.
>
> `Rule.mem_values_of_edit`: the values of an edit are among those of its rule.
>
> `Edit.portable_fragment`: a fragment is at most three levels above them.
>
> `Draft.exists_edit_of_mem_fragments`: each fragment of a document is that of an
> edit.
-/

namespace SearchRules

/-! ## The values of rules and edits -/

/-- The values that a rule carries, those of its settings included. -/
def Rule.values : Rule → List Json
  | .condition _ _ value attributes => value :: (attributes.getD .empty).values
  | .multiMatch _ value attributes => value :: (attributes.getD .empty).values
  | .range _ values _ => values

/-- The values that an edit puts into a draft. -/
def Edit.values : Edit → List Json
  | .condition _ _ cond => cond.value :: cond.attributes.values
  | .multiMatch m => m.value :: m.attributes.values
  | .range _ r => r.bounds.map Prod.snd

/-- The fragment that an edit is written as. -/
def Edit.fragment (merge : Bool) : Edit → Json
  | .condition c field cond => Fragment.condition merge c field cond
  | .multiMatch m => Fragment.multiMatch m
  | .range field r => Fragment.range field r

/-- An edit carries no values but those of its rule. -/
theorem Rule.mem_values_of_edit {rule : Rule} {edit : Edit} (h : rule.edit = .ok edit) {v : Json}
    (hv : v ∈ edit.values) : v ∈ rule.values := by
  cases rule with
  | condition c field value attributes =>
    obtain rfl := Except.ok.inj h
    exact hv
  | multiMatch fields value attributes =>
    obtain rfl := Except.ok.inj h
    exact hv
  | range field values c =>
    obtain ⟨bounds, hbounds, rfl⟩ := map_eq_ok_iff.1 h
    obtain ⟨bound, hbound, rfl⟩ := List.mem_map.1 hv
    rw [Rule.values, Range.alternate_of_bounds? hbounds]
    exact List.mem_flatMap.2 ⟨bound, hbound, by simp⟩

/-! ## Out of the arguments -/

variable {n : Nat}

/-- Settings are one level below the value that gives them. -/
theorem Settings.portable_values {vs : List Json} {as : Option Attributes} (h : Settings vs as)
    (hvs : ∀ v ∈ vs, v.Portable n) : ∀ v ∈ (as.getD .empty).values, v.Portable n := by
  cases h with
  | missing => exact nofun
  | null => exact nofun
  | object members =>
    intro v hv
    obtain ⟨m, hm, rfl⟩ := List.mem_map.1 hv
    have hmembers : (Json.object members).Portable n := hvs _ List.mem_cons_self
    rw [Option.getD_some, OrderedMap.entries_ofList_eq_lastWrites] at hm
    exact hmembers.of_mem_object (OrderedMap.mem_of_mem_lastWrites hm)

namespace Rule

variable {kind : RuleKind} {rule : Rule}

/-- The values of a rule are among its elements, or one level below them. -/
theorem Positional.portable_values {items : List Json} (h : Positional kind items rule)
    (hitems : ∀ v ∈ items, v.Portable n) : ∀ v ∈ rule.values, v.Portable n := by
  cases h with
  | condition c field value hrest =>
    rw [List.forall_mem_cons, List.forall_mem_cons] at hitems
    exact List.forall_mem_cons.2 ⟨hitems.2.1, hrest.portable_values hitems.2.2⟩
  | multiMatch fields value hrest =>
    rw [List.forall_mem_cons, List.forall_mem_cons] at hitems
    exact List.forall_mem_cons.2 ⟨hitems.2.1, hrest.portable_values hitems.2.2⟩
  | range field values hc =>
    rw [List.forall_mem_cons, List.forall_mem_cons] at hitems
    exact fun v hv => hitems.2.1.of_mem_array hv

/-- What members give to a place is the value of one of them. -/
theorem exists_mem_of_named {members : List (String × Json)} {items : List Json}
    (h : kind.Named members items) (hlength : items.length ≤ 3) {v : Json} (hv : v ∈ items) :
    ∃ m ∈ members, m.2 = v := by
  obtain ⟨place, hplace, rfl⟩ := List.mem_iff_getElem.1 hv
  have hnames : place < kind.partNames.length := by
    rw [kind.length_partNames]
    omega
  -- a place has a name, and the value under it is that of a member
  have hmem : items[place] ∈ Json.valuesUnder kind.partNames[place] members := by
    rw [h place _ (List.getElem?_eq_getElem hnames), List.getElem?_eq_getElem hplace]
    exact List.mem_singleton.2 rfl
  obtain ⟨m, hm, hvalue⟩ := List.mem_map.1 hmem
  exact ⟨m, List.mem_of_mem_filter hm, hvalue⟩

/-- The values of a rule stand below the first level of its arguments. -/
theorem Written.portable_values {args : Json} (h : Written kind args rule)
    (hargs : args.Portable (n + 1)) : ∀ v ∈ rule.values, v.Portable n := by
  cases h with
  | array hitems => exact hitems.portable_values (Json.portable_array_iff.1 hargs)
  | object hnamed hitems =>
    refine hitems.portable_values fun v hv => ?_
    obtain ⟨m, hm, rfl⟩ := exists_mem_of_named hnamed hitems.length_le hv
    exact (Json.portable_object_iff.1 hargs).2 m hm

end Rule

/-- An edit is that of a rule that the arguments write. -/
theorem RuleKind.edit_eq_ok_iff {kind : RuleKind} {args : Json} {edit : Edit} :
    kind.edit args = .ok edit ↔ ∃ rule, Rule.Written kind args rule ∧ rule.edit = .ok edit := by
  simp only [← Rule.ofArguments_eq_ok_iff, RuleKind.edit]
  cases Rule.ofArguments kind args <;> simp

/-- The values of an edit stand below the first level of the arguments. -/
theorem RuleKind.portable_values_edit {kind : RuleKind} {args : Json} {edit : Edit}
    (h : kind.edit args = .ok edit) (hargs : args.Portable (n + 1)) :
    ∀ v ∈ edit.values, v.Portable n := by
  obtain ⟨rule, hwritten, hedit⟩ := edit_eq_ok_iff.1 h
  exact fun v hv => hwritten.portable_values hargs v (Rule.mem_values_of_edit hedit hv)

/-! ## Into a fragment -/

namespace Fragment

theorem portable_leaf {search field : String} {v : Json} (h : v.Portable n) :
    (leaf search field v).Portable (n + 2) :=
  Json.portable_single_iff.2 (Json.portable_single_iff.2 h)

/-- Settings beside a value, each under its name. -/
theorem portable_insertMany {m : OrderedMap String Json} {settings : List (String × Json)}
    (hm : ∀ e ∈ m.entries, e.2.Portable n) (hsettings : ∀ e ∈ settings, e.2.Portable n) :
    (Json.ofMap (m.insertMany settings)).Portable (n + 1) :=
  Json.portable_ofMap_iff.2 fun e he =>
    (OrderedMap.mem_of_mem_insertMany he).elim (hm e) (hsettings e)

/-- A body puts one level on the value and the settings. -/
theorem portable_body {key : String} {cond : Condition}
    (h : ∀ v ∈ cond.value :: cond.attributes.values, v.Portable n) :
    (Json.ofMap (body key cond)).Portable (n + 1) := by
  rw [List.forall_mem_cons] at h
  refine portable_insertMany (List.forall_mem_singleton.2 h.1) fun e he => ?_
  exact h.2 e.2 (List.mem_map_of_mem (List.mem_of_mem_filter he))

/-- A condition puts three levels on, if it has settings, and otherwise less. -/
theorem portable_condition {merge : Bool} {c : Clause} {field : String} {cond : Condition}
    (h : ∀ v ∈ cond.value :: cond.attributes.values, v.Portable n) :
    (condition merge c field cond).Portable (n + 3) := by
  have hvalue : cond.value.Portable (n + 1) :=
    (h cond.value List.mem_cons_self).mono (Nat.le_succ n)
  have hmatching : (matching field cond).Portable (n + 3) := by
    unfold matching
    split
    · exact portable_leaf hvalue
    · exact portable_leaf (portable_body h)
  cases c with
  | filter =>
    -- the one clause whose settings may also be left out
    show (term merge field cond).Portable (n + 3)
    unfold term
    split
    · exact portable_leaf (portable_body h)
    · exact portable_leaf hvalue
  | must => exact hmatching
  | mustNot => exact hmatching
  | should => exact hmatching

/-- A multi-field match puts two levels on its value and settings; the list of its
fields is one level itself. -/
theorem portable_multiMatch {m : MultiMatch}
    (h : ∀ v ∈ m.value :: m.attributes.values, v.Portable (n + 1)) :
    (multiMatch m).Portable (n + 3) := by
  rw [List.forall_mem_cons] at h
  have hfields : (Json.array (m.fields.map .string)).Portable (n + 1) := by
    refine Json.portable_array_iff.2 fun v hv => ?_
    obtain ⟨s, -, rfl⟩ := List.mem_map.1 hv
    exact Json.portable_string s
  refine Json.portable_single_iff.2 (portable_insertMany ?_ fun e he => ?_)
  · exact List.forall_mem_cons.2 ⟨h.1, List.forall_mem_singleton.2 hfields⟩
  · exact h.2 e.2 (List.mem_map_of_mem he)

/-- A range puts three levels on its operands. -/
theorem portable_range {field : String} {r : Range}
    (h : ∀ v ∈ r.bounds.map Prod.snd, v.Portable n) : (range field r).Portable (n + 3) := by
  refine portable_leaf (Json.portable_ofMap_iff.2 fun e he => ?_)
  rw [OrderedMap.entries_ofList_eq_lastWrites] at he
  exact h e.2 (List.mem_map_of_mem (OrderedMap.mem_of_mem_lastWrites he))

end Fragment

/-- A fragment puts three levels at most on top of the values of its edit. -/
theorem Edit.portable_fragment {merge : Bool} {edit : Edit}
    (h : ∀ v ∈ edit.values, v.Portable (n + 1)) : (edit.fragment merge).Portable (n + 4) := by
  cases edit with
  | condition c field cond => exact Fragment.portable_condition h
  | multiMatch m => exact (Fragment.portable_multiMatch h).mono (Nat.le_succ _)
  | range field r => exact Fragment.portable_range h

/-! ## The fragments of a document -/

/-- Each fragment of the document of edits is that of one of them. -/
theorem Draft.exists_edit_of_mem_fragments {edits : List Edit} {config : Config} {c : Clause}
    {v : Json} (h : v ∈ ((empty.replay edits).render config).fragments c) :
    ∃ edit ∈ edits, v = edit.fragment config.mergeFilterAttributes := by
  rw [fragments_render, List.mem_append] at h
  -- a condition, a multi-field match or a range: each is the last write of some edit
  rcases h with h | h
  · rcases (empty.replay edits).mainFragments_cases config c with heq | ⟨rfl, heq⟩
    · rw [heq, entries_conditions_replay, List.mem_map] at h
      obtain ⟨⟨field, cond⟩, hcond, rfl⟩ := h
      obtain ⟨edit, hedit, hpart⟩ :=
        List.mem_filterMap.1 (OrderedMap.mem_of_mem_lastWrites hcond)
      exact ⟨edit, hedit, Edit.condition?_eq_some_iff.1 hpart ▸ rfl⟩
    · rw [heq, multiMatches_replay, List.mem_map] at h
      obtain ⟨m, hm, rfl⟩ := h
      obtain ⟨edit, hedit, hpart⟩ := List.mem_filterMap.1 hm
      exact ⟨edit, hedit, Edit.multiMatch?_eq_some_iff.1 hpart ▸ rfl⟩
  · rw [rangeFragments, entries_ranges_replay, List.mem_map] at h
    obtain ⟨⟨field, r⟩, hr, rfl⟩ := h
    obtain ⟨edit, hedit, hpart⟩ :=
      List.mem_filterMap.1 (OrderedMap.mem_of_mem_lastWrites (List.mem_of_mem_filter hr))
    exact ⟨edit, hedit, Edit.range?_eq_some_iff.1 hpart ▸ rfl⟩

end SearchRules
