import SearchRules.Draft
import SearchRules.Proofs.OrderedMap.LastWrite

/-!
# Drafts as replayed edits

Every change that a draft accepts is one of three edits, and an edit can no
longer be refused: its bounds have been read. A draft is what the edits since
the empty draft leave (`Draft.replay`), and each of its parts looks at the edits
of one sort only.

> `conditions_replay`, `multiMatches_replay`, `ranges_replay`: the conditions of
> a clause, the multi-field matches and the ranges, each from the edits that
> concern it.
>
> `replay_congr`: hence edits of different sorts may change places.
>
> `entries_conditions_replay`, `entries_ranges_replay`: from the empty draft,
> with the last edit of a field at the place of the first.
-/

namespace SearchRules

/-- A change of a draft that is accepted. -/
inductive Edit where
  /-- Put a condition on a field under a clause. -/
  | condition (c : Clause) (field : String) (condition : Condition)
  /-- Add a multi-field match. -/
  | multiMatch (m : MultiMatch)
  /-- Put a range on a field. -/
  | range (field : String) (r : Range)

namespace Edit

/-- The draft after an edit. -/
def apply : Edit → Draft → Draft
  | .condition c field cond, d => d.setCondition c field cond
  | .multiMatch m, d => d.addMultiMatch m
  | .range field r, d => d.setRange field r

/-- The field and condition of an edit under the clause `c`. -/
def condition? (c : Clause) : Edit → Option (String × Condition)
  | .condition c' field cond => if c' = c then some (field, cond) else none
  | _ => none

/-- The match of an edit that adds one. -/
def multiMatch? : Edit → Option MultiMatch
  | .multiMatch m => some m
  | _ => none

/-- The field and range of an edit that puts one. -/
def range? : Edit → Option (String × Range)
  | .range field r => some (field, r)
  | _ => none

theorem condition?_eq_some_iff {edit : Edit} {c : Clause} {field : String} {cond : Condition} :
    edit.condition? c = some (field, cond) ↔ edit = .condition c field cond := by
  cases edit with
  | condition c' field' cond' =>
    rw [condition?]
    split
    · next h => simp [h]
    · next h => simp [h]
  | multiMatch m => simp [condition?]
  | range field' r => simp [condition?]

theorem multiMatch?_eq_some_iff {edit : Edit} {m : MultiMatch} :
    edit.multiMatch? = some m ↔ edit = .multiMatch m := by
  cases edit <;> simp [multiMatch?]

theorem range?_eq_some_iff {edit : Edit} {field : String} {r : Range} :
    edit.range? = some (field, r) ↔ edit = .range field r := by
  cases edit <;> simp [range?]

/-- An edit writes into the map of a clause at most once. -/
theorem conditions_apply (e : Edit) (d : Draft) (c : Clause) :
    (e.apply d).conditions c = (d.conditions c).insertMany (e.condition? c).toList := by
  cases e with
  | condition c' field cond =>
    rw [apply, Draft.conditions_setCondition, condition?]
    by_cases h : c = c'
    · rw [if_pos h, if_pos h.symm, h]
      rfl
    · rw [if_neg h, if_neg fun e => h e.symm]
      rfl
  | multiMatch m => cases c <;> rfl
  | range field r => cases c <;> rfl

theorem multiMatches_apply (e : Edit) (d : Draft) :
    (e.apply d).multiMatches = d.multiMatches ++ e.multiMatch?.toList := by
  cases e with
  | condition c field cond =>
    rw [apply, Draft.multiMatches_setCondition]
    exact (List.append_nil _).symm
  | multiMatch m => rfl
  | range field r => exact (List.append_nil _).symm

theorem ranges_apply (e : Edit) (d : Draft) :
    (e.apply d).ranges = d.ranges.insertMany e.range?.toList := by
  cases e with
  | condition c field cond => exact Draft.ranges_setCondition d c field cond
  | multiMatch m => rfl
  | range field r => rfl

end Edit

namespace Draft

/-- The draft that edits leave, one after the other. -/
def replay (d : Draft) (edits : List Edit) : Draft := edits.foldl (fun d e => e.apply d) d

theorem replay_cons (d : Draft) (e : Edit) (edits : List Edit) :
    d.replay (e :: edits) = (e.apply d).replay edits := rfl

theorem replay_append (d : Draft) (edits more : List Edit) :
    d.replay (edits ++ more) = (d.replay edits).replay more := List.foldl_append

/-- A map in the draft that every edit writes at most one pair into gathers the
pairs of all edits. -/
theorem replay_of_apply {α : Type} {part : Draft → OrderedMap String α}
    {pair? : Edit → Option (String × α)}
    (happly : ∀ e d, part (e.apply d) = (part d).insertMany (pair? e).toList)
    (d : Draft) (edits : List Edit) :
    part (d.replay edits) = (part d).insertMany (edits.filterMap pair?) := by
  induction edits generalizing d with
  | nil => rfl
  | cons e rest ih =>
    have hsplit : (e :: rest).filterMap pair? = (pair? e).toList ++ rest.filterMap pair? := by
      rw [List.filterMap_cons]
      cases pair? e <;> rfl
    rw [replay_cons, ih, happly, hsplit, OrderedMap.insertMany_append]

/-- The conditions under a clause are those of the edits, written in order. -/
theorem conditions_replay (d : Draft) (edits : List Edit) (c : Clause) :
    (d.replay edits).conditions c =
      (d.conditions c).insertMany (edits.filterMap (Edit.condition? c)) :=
  @replay_of_apply _ (fun d => d.conditions c) _ (fun e d => e.conditions_apply d c) d edits

theorem ranges_replay (d : Draft) (edits : List Edit) :
    (d.replay edits).ranges = d.ranges.insertMany (edits.filterMap Edit.range?) :=
  replay_of_apply Edit.ranges_apply d edits

/-- The multi-field matches of the edits stand behind the earlier ones. -/
theorem multiMatches_replay (d : Draft) (edits : List Edit) :
    (d.replay edits).multiMatches = d.multiMatches ++ edits.filterMap Edit.multiMatch? := by
  induction edits generalizing d with
  | nil => exact (List.append_nil _).symm
  | cons e rest ih =>
    have hsplit : (e :: rest).filterMap Edit.multiMatch? =
        e.multiMatch?.toList ++ rest.filterMap Edit.multiMatch? := by
      rw [List.filterMap_cons]
      cases e.multiMatch? <;> rfl
    rw [replay_cons, ih, Edit.multiMatches_apply, hsplit, List.append_assoc]

/-- A draft is its conditions, its multi-field matches and its ranges. -/
theorem ext_parts {d e : Draft} (hconditions : ∀ c, d.conditions c = e.conditions c)
    (hmatches : d.multiMatches = e.multiMatches) (hranges : d.ranges = e.ranges) : d = e := by
  obtain ⟨filters, musts, mustNots, shoulds, multiMatches, ranges⟩ := d
  rw [show filters = e.filters from hconditions .filter,
    show musts = e.musts from hconditions .must,
    show mustNots = e.mustNots from hconditions .mustNot,
    show shoulds = e.shoulds from hconditions .should,
    show multiMatches = e.multiMatches from hmatches, show ranges = e.ranges from hranges]

/-- Edits that agree sort by sort leave the same draft, however the sorts are
mixed. -/
theorem replay_congr {edits others : List Edit}
    (hconditions : ∀ c, edits.filterMap (Edit.condition? c) = others.filterMap (Edit.condition? c))
    (hmatches : edits.filterMap Edit.multiMatch? = others.filterMap Edit.multiMatch?)
    (hranges : edits.filterMap Edit.range? = others.filterMap Edit.range?) (d : Draft) :
    d.replay edits = d.replay others := by
  refine ext_parts (fun c => ?_) ?_ ?_
  · rw [conditions_replay, conditions_replay, hconditions c]
  · rw [multiMatches_replay, multiMatches_replay, hmatches]
  · rw [ranges_replay, ranges_replay, hranges]

/-! ## From the empty draft -/

theorem conditions_empty (c : Clause) : empty.conditions c = .empty := by
  cases c <;> rfl

/-- From the empty draft on, a field stands where an edit first put a condition on it
and holds the last one. -/
theorem entries_conditions_replay (edits : List Edit) (c : Clause) :
    ((empty.replay edits).conditions c).entries =
      OrderedMap.lastWrites (edits.filterMap (Edit.condition? c)) := by
  rw [conditions_replay, conditions_empty]
  exact OrderedMap.entries_ofList_eq_lastWrites _

theorem entries_ranges_replay (edits : List Edit) :
    (empty.replay edits).ranges.entries =
      OrderedMap.lastWrites (edits.filterMap Edit.range?) := by
  rw [ranges_replay]
  exact OrderedMap.entries_ofList_eq_lastWrites _

end Draft

end SearchRules
