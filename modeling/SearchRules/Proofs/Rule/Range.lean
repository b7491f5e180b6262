import SearchRules.Proofs.Rule.Grammar

/-!
# Ranges are taken whole or not at all

The values of a range are taken in pairs, an operator that must be a string and
its operand. Three things can be wrong with a range rule, and they are looked for
in this order: its arguments are no record of a range, its values do not pair up,
the operator of some pair is no string. The draft is touched after all of them,
so that a refused range leaves no trace, not even of an earlier one of its field.

> `readBounds_cases`: values that pair up are all read, or the first pair without
> an operator is reported by its place among all values. The recursion takes two
> values at a time, and so does the induction.
>
> `Range.bounds?_cases`, `DraftM.exec_range_cases`: from it the three outcomes of a
> range, and the draft that each of them leaves.
>
> `DraftM.exec_range_paired`: when a range is taken, what is put where, which
> fault is reported, and that no rule that is refused changes the draft.
-/

namespace SearchRules

/-- Operators with their operands, written in turn. -/
def alternate (bounds : List (String × Json)) : List Json :=
  bounds.flatMap fun bound => [.string bound.1, bound.2]

theorem alternate_cons (operator : String) (operand : Json) (bounds : List (String × Json)) :
    alternate ((operator, operand) :: bounds) =
      .string operator :: operand :: alternate bounds := rfl

theorem length_alternate (bounds : List (String × Json)) :
    (alternate bounds).length = 2 * bounds.length := by
  induction bounds with
  | nil => rfl
  | cons bound rest ih =>
    rw [alternate_cons, List.length_cons, List.length_cons, ih, List.length_cons]
    omega

/-- The first value of the pair number `i` is an operator. -/
def HasOperator (values : List Json) (i : Nat) : Prop :=
  ∃ operator, values[2 * i]? = some (.string operator)

/-- The pair number `i` is the first without an operator. -/
structure FirstFault (values : List Json) (i : Nat) : Prop where
  /-- There is such a pair. -/
  inside : 2 * i < values.length
  /-- It does not begin with a string. -/
  fault : ¬HasOperator values i
  /-- Every pair before it does. -/
  before : ∀ j < i, HasOperator values j

/-- The pairs after the first are those of the values after the first two. -/
theorem hasOperator_succ_iff {v w : Json} {rest : List Json} {i : Nat} :
    HasOperator (v :: w :: rest) (i + 1) ↔ HasOperator rest i := Iff.rfl

/-- Values that alternate have an operator in every even place. -/
theorem hasOperator_alternate {bounds : List (String × Json)} {i : Nat}
    (h : 2 * i < (alternate bounds).length) : HasOperator (alternate bounds) i := by
  -- on the bounds: each moves the places by two
  induction bounds generalizing i with
  | nil => exact absurd h (Nat.not_lt_zero _)
  | cons bound rest ih =>
    obtain ⟨operator, operand⟩ := bound
    rw [alternate_cons] at h ⊢
    cases i with
    | zero => exact ⟨operator, rfl⟩
    | succ i =>
      simp only [List.length_cons] at h
      exact hasOperator_succ_iff.2 (ih (by omega))

/-- A bound in front moves the first fault by one. -/
theorem FirstFault.cons {values : List Json} {i : Nat} (h : FirstFault values i)
    (operator : String) (operand : Json) :
    FirstFault (.string operator :: operand :: values) (i + 1) where
  inside := by
    have := h.inside
    simp only [List.length_cons]
    omega
  fault := h.fault
  before
    | 0, _ => ⟨operator, rfl⟩
    | j + 1, hj => h.before j (Nat.lt_of_succ_lt_succ hj)

/-- Values that pair up are read as all their pairs, or the first pair without an
operator is told by the place where it begins. -/
theorem readBounds_cases (position : Nat) {values : List Json} (h : values.length % 2 = 0) :
    (∃ bounds, values = alternate bounds ∧ readBounds position values = .ok bounds) ∨
      ∃ i, FirstFault values i ∧ readBounds position values = .error (position + 2 * i) := by
  induction position, values using readBounds.induct with
  | case1 position operator operand rest ih =>
    have hrest : rest.length % 2 = 0 := by
      simp only [List.length_cons] at h
      omega
    rw [readBounds]
    rcases ih hrest with ⟨bounds, rfl, hread⟩ | ⟨i, hfault, hread⟩
    · exact Or.inl ⟨(operator, operand) :: bounds, rfl, by rw [hread]; rfl⟩
    · refine Or.inr ⟨i + 1, hfault.cons operator operand, ?_⟩
      rw [hread, Nat.mul_succ, Nat.add_right_comm, Nat.add_assoc]
      rfl
  | case2 position v w rest hv =>
    have hfault : ¬HasOperator (v :: w :: rest) 0 := by
      rintro ⟨operator, hoperator⟩
      exact hv operator (Option.some.inj hoperator)
    refine Or.inr ⟨0, ⟨Nat.zero_lt_succ _, hfault, nofun⟩, ?_⟩
    rw [readBounds]
    · rfl
    · exact hv
  | case3 values position hstring hpair =>
    -- neither a pair nor, having an even length, a single value
    match values with
    | [] => exact Or.inl ⟨[], rfl, rfl⟩
    | [_] => exact absurd h (by simp)
    | v :: w :: rest => exact absurd rfl (hpair v w rest)

/-- Values make all their pairs, or they do not pair up, or else a first pair has
no operator. -/
theorem Range.bounds?_cases (values : List Json) :
    (∃ bounds, values = alternate bounds ∧ bounds? values = .ok bounds) ∨
    (values.length % 2 = 1 ∧ bounds? values = .error (.violation .unpairedBounds)) ∨
    (values.length % 2 = 0 ∧ ∃ i, FirstFault values i ∧
      bounds? values = .error (.arguments "range" (.operator (2 * i)))) := by
  rw [bounds?]
  rcases Nat.mod_two_eq_zero_or_one values.length with heven | hodd
  · rw [if_neg (by omega)]
    rcases readBounds_cases 0 heven with ⟨bounds, hvalues, hread⟩ | ⟨i, hfault, hread⟩
    · exact Or.inl ⟨bounds, hvalues, by rw [hread]⟩
    · exact Or.inr (Or.inr ⟨heven, i, hfault, by rw [hread, Nat.zero_add]; rfl⟩)
  · exact Or.inr (Or.inl ⟨hodd, if_pos hodd⟩)

/-- The bounds that values make alternate as the values. -/
theorem Range.alternate_of_bounds? {values : List Json} {bounds : List (String × Json)}
    (h : bounds? values = .ok bounds) : values = alternate bounds := by
  rcases bounds?_cases values with ⟨bounds', hvalues, hread⟩ | ⟨-, hread⟩ | ⟨-, i, -, hread⟩
  · exact Except.ok.inj (hread.symm.trans h) ▸ hvalues
  · exact absurd (hread.symm.trans h) nofun
  · exact absurd (hread.symm.trans h) nofun

/-- The draft has a range put on a field and is otherwise as before. -/
structure Draft.PutsRange (field : String) (r : Range) (before after : Draft) : Prop where
  /-- The field has the range. -/
  range : after.ranges.get? field = some r
  /-- It stands where it stood, or at the end if it is new. -/
  keys : after.ranges.keys =
    if field ∈ before.ranges.keys then before.ranges.keys else before.ranges.keys ++ [field]
  /-- Other fields keep their ranges. -/
  others : ∀ other ≠ field, after.ranges.get? other = before.ranges.get? other
  /-- The conditions of every clause are the same. -/
  conditions : ∀ c, after.conditions c = before.conditions c
  /-- The multi-field matches are the same. -/
  multiMatches : after.multiMatches = before.multiMatches

/-- Setting a range puts it on its field and changes nothing else. -/
theorem Draft.putsRange_setRange (d : Draft) (field : String) (r : Range) :
    PutsRange field r d (d.setRange field r) where
  range := by
    rw [setRange, OrderedMap.get?_insert, if_pos rfl]
  keys := d.ranges.keys_insert field r
  others other h := by
    rw [setRange, OrderedMap.get?_insert, if_neg h]
  conditions c := by cases c <;> rfl
  multiMatches := rfl

/-- A built-in rule that is refused leaves the draft as it was. -/
theorem RuleKind.exec_handler_of_error {kind : RuleKind} {args : Json} {d d' : Draft}
    {error : RuleError} (h : (kind.handler args).exec d = (.error error, d')) : d' = d := by
  rw [exec_handler] at h
  split at h
  · exact absurd (congrArg Prod.fst h) nofun
  · exact (congrArg Prod.snd h).symm

namespace DraftM

/-- A range is taken with all its pairs, or it is refused with the draft as it
was: because its values do not pair up, or else for its first fault. -/
theorem exec_range_cases (field : String) (values : List Json) (c : Clause) (d : Draft) :
    (∃ bounds, values = alternate bounds ∧
      (range field values c).exec d = (.ok (), d.setRange field ⟨bounds, c⟩)) ∨
    (values.length % 2 = 1 ∧
      (range field values c).exec d = (.error (.violation .unpairedBounds), d)) ∨
    (values.length % 2 = 0 ∧ ∃ i, FirstFault values i ∧
      (range field values c).exec d = (.error (.arguments "range" (.operator (2 * i))), d)) := by
  rw [exec_range]
  rcases Range.bounds?_cases values with
    ⟨bounds, hvalues, hread⟩ | ⟨hodd, hread⟩ | ⟨heven, i, hfault, hread⟩
  · exact Or.inl ⟨bounds, hvalues, by rw [hread]⟩
  · exact Or.inr (Or.inl ⟨hodd, by rw [hread]⟩)
  · exact Or.inr (Or.inr ⟨heven, i, hfault, by rw [hread]⟩)

section

variable (field : String) (values : List Json) (c : Clause) (d : Draft)

/-- A range is taken if its values pair up and each pair has an operator. -/
theorem exec_range_eq_ok_iff :
    ((range field values c).exec d).1 = .ok () ↔
      values.length % 2 = 0 ∧ ∀ i, 2 * i < values.length → HasOperator values i := by
  rcases exec_range_cases field values c d with
    ⟨bounds, rfl, hexec⟩ | ⟨hodd, hexec⟩ | ⟨heven, i, hfault, hexec⟩
  · rw [hexec, length_alternate]
    refine iff_of_true rfl ⟨Nat.mul_mod_right 2 _, fun i hi => ?_⟩
    exact hasOperator_alternate (by rwa [length_alternate])
  · rw [hexec]
    exact iff_of_false nofun fun h => by omega
  · rw [hexec]
    exact iff_of_false nofun fun h => hfault.fault (h.2 i hfault.inside)

/-- What is taken is put on the field with all its bounds. -/
theorem putsRange_of_exec_range {d' : Draft} (h : (range field values c).exec d = (.ok (), d')) :
    ∃ bounds, values = alternate bounds ∧ d.PutsRange field ⟨bounds, c⟩ d' := by
  rcases exec_range_cases field values c d with
    ⟨bounds, hvalues, hexec⟩ | ⟨-, hexec⟩ | ⟨-, i, -, hexec⟩
  · obtain rfl : d.setRange field ⟨bounds, c⟩ = d' := congrArg Prod.snd (hexec.symm.trans h)
    exact ⟨bounds, hvalues, d.putsRange_setRange field _⟩
  · exact absurd (hexec.symm.trans h) nofun
  · exact absurd (hexec.symm.trans h) nofun

/-- A refusal changes nothing. That values pair up is looked at before the operators. -/
theorem exec_range_eq_error {error : RuleError} {d' : Draft}
    (h : (range field values c).exec d = (.error error, d')) :
    d' = d ∧ (values.length % 2 = 1 → error = .violation .unpairedBounds) ∧
      (values.length % 2 = 0 → ∃ i, FirstFault values i ∧
        error = .arguments "range" (.operator (2 * i))) := by
  rcases exec_range_cases field values c d with
    ⟨bounds, -, hexec⟩ | ⟨hodd, hexec⟩ | ⟨heven, i, hfault, hexec⟩
  · exact absurd (hexec.symm.trans h) nofun
  · rw [hexec] at h
    have herror := Except.error.inj (congrArg Prod.fst h)
    exact ⟨(congrArg Prod.snd h).symm, fun _ => herror.symm, fun heven => by omega⟩
  · rw [hexec] at h
    have herror := Except.error.inj (congrArg Prod.fst h)
    exact ⟨(congrArg Prod.snd h).symm, fun hodd => by omega, fun _ => ⟨i, hfault, herror.symm⟩⟩

/-- A range is taken if and only if its values pair up and every pair has an
operator. Then all pairs are put on the field in order, and nothing else changes.
Otherwise nothing changes at all: values that do not pair up are reported first,
whatever the operators are, and then the first pair without one. Through the rule,
arguments that are no record of a range come before both, and whatever rule is
refused leaves the draft as it was. -/
theorem exec_range_paired :
    (((range field values c).exec d).1 = .ok () ↔
      values.length % 2 = 0 ∧ ∀ i, 2 * i < values.length → HasOperator values i) ∧
    (∀ d', (range field values c).exec d = (.ok (), d') →
      ∃ bounds, values = alternate bounds ∧ d.PutsRange field ⟨bounds, c⟩ d') ∧
    (∀ error d', (range field values c).exec d = (.error error, d') → d' = d ∧
      (values.length % 2 = 1 → error = .violation .unpairedBounds) ∧
      (values.length % 2 = 0 → ∃ i, FirstFault values i ∧
        error = .arguments "range" (.operator (2 * i)))) ∧
    (∀ args, (¬∃ rule, Rule.Written .range args rule) → ∃ cause,
      (RuleKind.range.handler args).exec d = (.error (.arguments "range" (.shape cause)), d)) ∧
    (∀ args, Rule.Written .range args (.range field values c) →
      (RuleKind.range.handler args).exec d = (range field values c).exec d) ∧
    ∀ (kind : RuleKind) args error d',
      (kind.handler args).exec d = (.error error, d') → d' = d := by
  refine ⟨exec_range_eq_ok_iff field values c d, fun _ => putsRange_of_exec_range field values c d,
    fun _ _ => exec_range_eq_error field values c d,
    fun _ h => Rule.exec_handler_of_not_written h d, fun _ h => ?_,
    fun _ _ _ _ => RuleKind.exec_handler_of_error⟩
  rw [Rule.handler_of_written h]
  rfl

end

/-- On a field with a range: two pairs of which the second has no operator, the
same with a value too many, and one good pair, which takes the place of the range. -/
theorem exec_range_paired_over_earlier :
    let before := Draft.empty.setRange "price" ⟨[("lt", .null)], .filter⟩
    (∃ i, FirstFault [.string "gte", .null, .bool true, .null] i ∧ 2 * i = 2 ∧
      (range "price" [.string "gte", .null, .bool true, .null] .must).exec before =
        (.error (.arguments "range" (.operator (2 * i))), before)) ∧
    (∃ error,
      (range "price" [.string "gte", .null, .bool true, .null, .null] .must).exec before =
        (.error error, before) ∧ error = .violation .unpairedBounds) ∧
    ∃ bounds after, [.string "gte", .null] = alternate bounds ∧
      (range "price" [.string "gte", .null] .must).exec before = (.ok (), after) ∧
      before.PutsRange "price" ⟨bounds, .must⟩ after := by
  intro before
  refine ⟨?_, ?_, ?_⟩
  · have hexec : (range "price" [.string "gte", .null, .bool true, .null] .must).exec before =
        (.error (.arguments "range" (.operator 2)), before) := rfl
    obtain ⟨-, -, hrefused, -, -, -⟩ := exec_range_paired "price"
      [.string "gte", .null, .bool true, .null] .must before
    obtain ⟨i, hfault, herror⟩ := (hrefused _ _ hexec).2.2 rfl
    have hi : 2 = 2 * i := ArgumentFault.operator.inj (RuleError.arguments.inj herror).2
    exact ⟨i, hfault, hi.symm, hi ▸ hexec⟩
  · obtain ⟨-, -, hrefused, -, -, -⟩ := exec_range_paired "price"
      [.string "gte", .null, .bool true, .null, .null] .must before
    exact ⟨_, rfl, (hrefused _ _ rfl).2.1 rfl⟩
  · obtain ⟨-, htaken, -, -, -, -⟩ := exec_range_paired "price" [.string "gte", .null] .must before
    obtain ⟨bounds, hbounds, hputs⟩ := htaken _ rfl
    exact ⟨bounds, _, hbounds, rfl, hputs⟩

end DraftM

end SearchRules
