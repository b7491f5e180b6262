import SearchRules.Proofs.Rule.Edit
import SearchRules.Proofs.Rule.Forms

/-!
# The grammar of arguments

The arguments of a rule are an array of its parts in order, or an object that
gives the same parts by name. What an array may look like is written down place
by place (`Rule.Positional`); an object is then nothing new, because it stands
for the array of the values that its members give (`RuleKind.Named`).

> `Rule.ofArguments_array_iff`: the arrays that are read, kind by kind.
>
> `Rule.ofArguments_object_iff`: the objects that are read.
>
> `Rule.ofArguments_grammar`: both forms, with the order of members and members
> of other names left aside, and what becomes of all other arguments.
-/

namespace SearchRules

/-! ## The built-in rules -/

/-- The names that an object may use for the parts of a rule, part by part. -/
def RuleKind.partNames : RuleKind → List (List String)
  | .clause _ => [["field"], ["value"], ["attributes"]]
  | .multiMatch => [["fields"], ["value"], ["attributes"]]
  | .range => [["field"], ["values"], ["type", "clause_type"]]

/-- The members give to each part of a rule of the kind the value at its place:
one member has a name of the part, or none if there are fewer values. -/
def RuleKind.Named (kind : RuleKind) (members : List (String × Json)) (items : List Json) : Prop :=
  ∀ (place : Nat) names, kind.partNames[place]? = some names →
    Json.valuesUnder names members = items[place]?.toList

theorem RuleKind.length_partNames (kind : RuleKind) : kind.partNames.length = 3 := by
  cases kind <;> rfl

namespace Rule

/-- Values that write a rule by their places. -/
inductive Positional : RuleKind → List Json → Rule → Prop
  | condition (c : Clause) (field : String) (value : Json) {rest : List Json}
    {attributes : Option Attributes} (h : Settings rest attributes) :
    Positional (.clause c) (.string field :: value :: rest) (.condition c field value attributes)
  | multiMatch (fields : List String) (value : Json) {rest : List Json}
    {attributes : Option Attributes} (h : Settings rest attributes) :
    Positional .multiMatch (.array (fields.map .string) :: value :: rest)
      (.multiMatch fields value attributes)
  | range (field : String) (values : List Json) {v : Json} {c : Clause} (h : c.Written v) :
    Positional .range [.string field, .array values, v] (.range field values c)

/-- Arguments that write a rule of a kind: the array of its parts, or an object
that gives them by name. -/
inductive Written (kind : RuleKind) : Json → Rule → Prop
  | array {items : List Json} {rule : Rule} (h : Positional kind items rule) :
    Written kind (.array items) rule
  | object {members : List (String × Json)} {items : List Json} {rule : Rule}
    (hnamed : kind.Named members items) (h : Positional kind items rule) :
    Written kind (.object members) rule

/-! ### Arrays and objects -/

/-- The arrays that write a rule give its parts by place. -/
theorem ofArguments_array_iff {kind : RuleKind} {items : List Json} {rule : Rule} :
    ofArguments kind (.array items) = .ok rule ↔ Positional kind items rule := by
  -- by the kind: the first two parts must be given, the third as the kind has it
  cases kind with
  | clause c =>
    refine (Record.ofItems_bind_eq_ok_iff Record.condition rfl rfl).trans ⟨?_, ?_⟩
    · rintro ⟨v, w, rest, field, value, attributes, rfl, hfield, hvalue, hrest, rfl⟩
      obtain rfl : w = value := Except.ok.inj hvalue
      obtain rfl : v = .string field := Json.asString_eq_ok_iff.1 hfield
      exact .condition c field w (Field.attributes_ofNamed_eq_some_iff.1 hrest)
    · rintro (⟨_, field, value, h⟩ | _ | _)
      exact ⟨_, _, _, field, value, _, rfl, rfl, rfl,
        Field.attributes_ofNamed_eq_some_iff.2 h, rfl⟩
  | multiMatch =>
    refine (Record.ofItems_bind_eq_ok_iff Record.multiMatch rfl rfl).trans ⟨?_, ?_⟩
    · rintro ⟨v, w, rest, fields, value, attributes, rfl, hfields, hvalue, hrest, rfl⟩
      obtain rfl : w = value := Except.ok.inj hvalue
      obtain rfl : v = .array (fields.map .string) := Json.asStrings_eq_ok_iff.1 hfields
      exact .multiMatch fields w (Field.attributes_ofNamed_eq_some_iff.1 hrest)
    · rintro (_ | ⟨fields, value, h⟩ | _)
      exact ⟨_, _, _, fields, value, _, rfl, Json.asStrings_eq_ok_iff.2 rfl, rfl,
        Field.attributes_ofNamed_eq_some_iff.2 h, rfl⟩
  | range =>
    refine (Record.ofItems_bind_eq_ok_iff Record.range rfl rfl).trans ⟨?_, ?_⟩
    · rintro ⟨v, w, rest, field, values, c, rfl, hfield, hvalues, hrest, rfl⟩
      obtain rfl : v = .string field := Json.asString_eq_ok_iff.1 hfield
      obtain rfl : w = .array values := Json.asItems_eq_ok_iff.1 hvalues
      obtain ⟨u, rfl, hclause⟩ := (Field.ofNamed_eq_some_iff rfl).1 hrest
      exact .range field values (Clause.ofJson_eq_ok_iff.1 hclause)
    · rintro (_ | _ | ⟨field, values, h⟩)
      exact ⟨_, _, _, field, values, _, rfl, rfl, rfl,
        (Field.ofNamed_eq_some_iff rfl).2 ⟨_, rfl, Clause.ofJson_eq_ok_iff.2 h⟩, rfl⟩

/-- The members that name the parts of a kind are those that its record takes. -/
theorem named_iff_gives {α β γ : Type} (kind : RuleKind) (r : Record α β γ)
    (h : kind.partNames = [r.first.names, r.second.names, r.third.names])
    {members : List (String × Json)} {items : List Json} :
    kind.Named members items ↔ r.Gives members items := by
  rw [RuleKind.Named, h, Record.Gives, Field.namedValues_eq_valuesUnder,
    Field.namedValues_eq_valuesUnder, Field.namedValues_eq_valuesUnder]
  constructor
  · intro hnamed
    exact ⟨hnamed 0 _ rfl, hnamed 1 _ rfl, hnamed 2 _ rfl⟩
  · rintro ⟨h₁, h₂, h₃⟩ place names hplace
    match place with
    | 0 => exact Option.some.inj hplace ▸ h₁
    | 1 => exact Option.some.inj hplace ▸ h₂
    | 2 => exact Option.some.inj hplace ▸ h₃
    | _ + 3 => exact absurd hplace nofun

/-- An object is read as an array that it stands for. -/
theorem ofArguments_object_iff {kind : RuleKind} {members : List (String × Json)} {rule : Rule} :
    ofArguments kind (.object members) = .ok rule ↔
      ∃ items, kind.Named members items ∧ ofArguments kind (.array items) = .ok rule := by
  cases kind with
  | clause c =>
    simp only [named_iff_gives (.clause c) Record.condition rfl]
    exact Record.ofMembers_bind_eq_ok_iff Record.distinct_condition rfl rfl
  | multiMatch =>
    simp only [named_iff_gives .multiMatch Record.multiMatch rfl]
    exact Record.ofMembers_bind_eq_ok_iff Record.distinct_multiMatch rfl rfl
  | range =>
    simp only [named_iff_gives .range Record.range rfl]
    exact Record.ofMembers_bind_eq_ok_iff Record.distinct_range rfl rfl

/-- Arguments are read as the rule that they write, and no others are read. -/
theorem ofArguments_eq_ok_iff {kind : RuleKind} {args : Json} {rule : Rule} :
    ofArguments kind args = .ok rule ↔ Written kind args rule := by
  constructor
  · intro h
    cases args with
    | array items => exact .array (ofArguments_array_iff.1 h)
    | object members =>
      obtain ⟨items, hnamed, hitems⟩ := ofArguments_object_iff.1 h
      exact .object hnamed (ofArguments_array_iff.1 hitems)
    | _ => cases kind <;> exact absurd h nofun
  · rintro (⟨h⟩ | ⟨hnamed, h⟩)
    · exact ofArguments_array_iff.2 h
    · exact ofArguments_object_iff.2 ⟨_, hnamed, ofArguments_array_iff.2 h⟩

/-! ### What an object may add or change -/

/-- At most one value is the same in every order. -/
theorem eq_of_perm_of_length_le_one {vs ws : List Json} (h : vs.Perm ws) (hws : ws.length ≤ 1) :
    vs = ws := by
  match ws with
  | [] => exact List.perm_nil.1 h
  | [_] => exact List.perm_singleton.1 h

/-- The order of members does not matter, since no part is named twice. -/
theorem named_of_perm {kind : RuleKind} {members others : List (String × Json)}
    (h : members.Perm others) {items : List Json} (hnamed : kind.Named others items) :
    kind.Named members items := by
  intro place names hplace
  have hvalues := hnamed place names hplace
  refine (eq_of_perm_of_length_le_one ((h.filter _).map _) ?_).trans hvalues
  show (Json.valuesUnder names others).length ≤ 1
  rw [hvalues]
  cases items[place]? <;> simp

/-- Objects with the same members in any order write the same rules. -/
theorem ofArguments_object_of_perm {kind : RuleKind} {members others : List (String × Json)}
    (h : members.Perm others) {rule : Rule} :
    ofArguments kind (.object members) = .ok rule ↔
      ofArguments kind (.object others) = .ok rule := by
  rw [ofArguments_object_iff, ofArguments_object_iff]
  exact exists_congr fun items =>
    and_congr_left fun _ => ⟨named_of_perm h.symm, named_of_perm h⟩

/-- Members that name no part are passed over. -/
theorem ofMembers_filter_names {α β γ : Type} {r : Record α β γ} {kind : RuleKind}
    (h : kind.partNames = [r.first.names, r.second.names, r.third.names])
    (members : List (String × Json)) :
    r.ofMembers (members.filter fun m => m.1 ∈ kind.partNames.flatten) = r.ofMembers members := by
  have hknown : ∀ m ∈ members, decide (m.1 ∈ kind.partNames.flatten) =
      (r.first.isNamed m.1 || r.second.isNamed m.1 || r.third.isNamed m.1) := by
    intro m _
    rw [h]
    simp [Field.isNamed_eq_decide, Bool.decide_or, Bool.or_assoc]
  rw [List.filter_congr hknown, Record.ofMembers, Record.find_filter_isNamed]
  rfl

/-- Members of other names do not matter, not even for the fault that is found. -/
theorem ofArguments_filter_names (kind : RuleKind) (members : List (String × Json)) :
    ofArguments kind (.object (members.filter fun m => m.1 ∈ kind.partNames.flatten)) =
      ofArguments kind (.object members) := by
  cases kind with
  | clause c =>
    show (Record.condition.ofMembers _ >>= _) = (Record.condition.ofMembers members >>= _)
    rw [ofMembers_filter_names rfl]
  | multiMatch =>
    show (Record.multiMatch.ofMembers _ >>= _) = (Record.multiMatch.ofMembers members >>= _)
    rw [ofMembers_filter_names rfl]
  | range =>
    show (Record.range.ofMembers _ >>= _) = (Record.range.ofMembers members >>= _)
    rw [ofMembers_filter_names rfl]

/-! ### Both forms -/

theorem Positional.length_le {kind : RuleKind} {items : List Json} {rule : Rule}
    (h : Positional kind items rule) : items.length ≤ 3 := by
  cases h with
  | condition c field value h => exact Nat.add_le_add_right h.length_le 2
  | multiMatch fields value h => exact Nat.add_le_add_right h.length_le 2
  | range field values h => exact Nat.le_refl 3

/-- Members stand for no more than one array. -/
theorem eq_of_named {kind : RuleKind} {members : List (String × Json)} {items others : List Json}
    (hitems : kind.Named members items) (hothers : kind.Named members others)
    (hlength : items.length ≤ 3) (hlength' : others.length ≤ 3) : items = others := by
  apply List.ext_getElem?
  intro place
  by_cases hplace : place < 3
  · have hnames : kind.partNames[place]? = _ :=
      List.getElem?_eq_getElem (kind.length_partNames.symm ▸ hplace)
    have hsame := congrArg List.head? ((hitems place _ hnames).symm.trans (hothers place _ hnames))
    rwa [Option.head?_toList, Option.head?_toList] at hsame
  · rw [List.getElem?_eq_none (by omega), List.getElem?_eq_none (by omega)]

/-- Members write the rule that their values write by place. -/
theorem ofArguments_of_named {kind : RuleKind} {members : List (String × Json)}
    {items : List Json} (hnamed : kind.Named members items) (hlength : items.length ≤ 3)
    {rule : Rule} :
    ofArguments kind (.object members) = .ok rule ↔ ofArguments kind (.array items) = .ok rule := by
  rw [ofArguments_object_iff]
  constructor
  · rintro ⟨others, hothers, h⟩
    rwa [eq_of_named hnamed hothers hlength (ofArguments_array_iff.1 h).length_le]
  · intro h
    exact ⟨items, hnamed, h⟩

/-- A handler that can read its arguments applies the rule that they write. -/
theorem handler_of_written {kind : RuleKind} {args : Json} {rule : Rule}
    (h : Written kind args rule) : kind.handler args = rule.apply := by
  unfold RuleKind.handler
  rw [ofArguments_eq_ok_iff.2 h]

/-- A handler that cannot read its arguments fails and leaves the draft as it is. -/
theorem exec_handler_of_not_written {kind : RuleKind} {args : Json}
    (h : ¬∃ rule, Written kind args rule) (d : Draft) :
    ∃ cause, (kind.handler args).exec d = (.error (.arguments kind.name (.shape cause)), d) := by
  unfold RuleKind.handler
  cases hread : ofArguments kind args with
  | ok rule => exact absurd ⟨rule, ofArguments_eq_ok_iff.1 hread⟩ h
  | error cause => exact ⟨cause, rfl⟩

/-- Settings that are left out or `null` count as empty ones. -/
theorem handler_of_no_settings {kind : RuleKind} (hkind : kind ≠ .range) (v w : Json)
    {settings : List Json} (h : settings = [] ∨ settings = [.null]) :
    kind.handler (.array (v :: w :: settings)) = kind.handler (.array [v, w, .object []]) := by
  unfold RuleKind.handler
  cases kind with
  | clause c => rcases h with rfl | rfl <;> cases v <;> rfl
  | multiMatch =>
    -- however the settings are given, they are empty
    have hread : ∀ rest as, Settings rest as →
        ofArguments .multiMatch (.array (v :: w :: rest)) =
          v.asStrings >>= fun fields => pure (.multiMatch fields w as) := by
      rintro rest as (_ | _ | members)
      all_goals
        show ((v.asStrings >>= fun fields => pure (fields, w, _)) >>= fun p =>
          pure (Rule.multiMatch p.1 p.2.1 p.2.2)) = _
        cases v.asStrings <;> rfl
    rw [hread [.object []] _ (.object [])]
    rcases h with rfl | rfl
    · rw [hread [] _ .missing]
      cases v.asStrings <;> rfl
    · rw [hread [.null] _ .null]
      cases v.asStrings <;> rfl
  | range => exact absurd rfl hkind

/-- The arguments of a built-in rule are read if and only if they have one of two
forms, and the rule is put into the draft with the parts that stand there; all
other arguments are refused in the name of the rule. Settings that are left out
or `null` count as empty ones. An object is read as the array of the values that
its members give, in whatever order they stand, and members of other names do not
matter. -/
theorem ofArguments_grammar (kind : RuleKind) :
    (∀ args rule, ofArguments kind args = .ok rule ↔ Written kind args rule) ∧
    (∀ args rule, Written kind args rule → kind.handler args = rule.apply) ∧
    (∀ args, (¬∃ rule, Written kind args rule) → ∀ d, ∃ cause,
      (kind.handler args).exec d = (.error (.arguments kind.name (.shape cause)), d)) ∧
    (kind ≠ .range → ∀ v w settings, settings = [] ∨ settings = [.null] →
      kind.handler (.array (v :: w :: settings)) = kind.handler (.array [v, w, .object []])) ∧
    (∀ members items, kind.Named members items → items.length ≤ 3 → ∀ rule,
      ofArguments kind (.object members) = .ok rule ↔
        ofArguments kind (.array items) = .ok rule) ∧
    (∀ members others : List (String × Json), members.Perm others → ∀ rule,
      ofArguments kind (.object members) = .ok rule ↔
        ofArguments kind (.object others) = .ok rule) ∧
    ∀ members, ofArguments kind
        (.object (members.filter fun m => m.1 ∈ kind.partNames.flatten)) =
      ofArguments kind (.object members) :=
  ⟨fun _ _ => ofArguments_eq_ok_iff, fun _ _ => handler_of_written,
    fun _ => exec_handler_of_not_written,
    fun hkind v w _ h => handler_of_no_settings hkind v w h,
    fun _ _ hnamed hlength _ => ofArguments_of_named hnamed hlength,
    fun _ _ h _ => ofArguments_object_of_perm h, ofArguments_filter_names kind⟩

/-- An object in another order than declared, with the clause under its second
name and as an object, and a member that nothing asks for; and what becomes of
it if the clause is named twice. -/
theorem ofArguments_grammar_out_of_order :
    let clause : Json := .object [("must", .null)]
    let members : List (String × Json) :=
      [("clause_type", clause), ("note", .null), ("values", .array []), ("field", .string "a")]
    let twice : Json := .object (("type", .string "must") :: members)
    RuleKind.range.Named members [.string "a", .array [], clause] ∧
    ofArguments .range (.object members) = .ok (.range "a" [] .must) ∧
    (¬∃ rule, Written .range twice rule) ∧
    ∀ d, ∃ cause,
      (RuleKind.range.handler twice).exec d = (.error (.arguments "range" (.shape cause)), d) := by
  intro clause members twice
  obtain ⟨hread, -, hrefused, -, harray, -, -⟩ := ofArguments_grammar .range
  have hnamed : RuleKind.range.Named members [.string "a", .array [], clause] := by
    intro place names hplace
    match place with
    | 0 => exact Option.some.inj hplace ▸ rfl
    | 1 => exact Option.some.inj hplace ▸ rfl
    | 2 => exact Option.some.inj hplace ▸ rfl
    | _ + 3 => exact absurd hplace nofun
  have htwice : ¬∃ rule, Written .range twice rule := by
    rintro ⟨rule, h⟩
    exact absurd ((hread twice rule).2 h) nofun
  refine ⟨hnamed, (harray members _ hnamed (Nat.le_refl 3) _).2 ?_, htwice, hrefused twice htwice⟩
  exact (hread _ _).2 (.array (.range "a" [] .object))

end Rule

end SearchRules
