import SearchRules.Proofs.Draft.Edit
import SearchRules.Proofs.Draft.Rendering
import SearchRules.Proofs.Fragment.Alike

/-!
# Drafts of equal rules

Two runs of edits that are equal one by one keep two drafts in step: the same
fields in the same order, with equal rules on each. Drafts in step are written
with the same clauses in the same order, and under each clause with fragments
that are equal one by one.

> `Edit.Alike.apply`, `Draft.Alike.replay`: one edit keeps drafts in step, and
> so does a run of them.
>
> `Draft.Alike.render`: drafts in step become documents in step.
>
> `Document.Alike.equiv`: which makes the documents equal.
-/

namespace SearchRules

/-- The same change with equal rules. -/
inductive Edit.Alike : Edit → Edit → Prop
  | condition (c : Clause) (field : String) {x y : Condition} (h : x.Alike y) :
    Alike (.condition c field x) (.condition c field y)
  | multiMatch {m n : MultiMatch} (h : m.Alike n) : Alike (.multiMatch m) (.multiMatch n)
  | range (field : String) {r s : Range} (h : r.Alike s) : Alike (.range field r) (.range field s)

/-- Drafts in step: the same fields in the same order, with equal rules. -/
structure Draft.Alike (d e : Draft) : Prop where
  conditions : ∀ c, List.Forall₂ (Paired Condition.Alike)
    (d.conditions c).entries (e.conditions c).entries
  multiMatches : List.Forall₂ MultiMatch.Alike d.multiMatches e.multiMatches
  ranges : List.Forall₂ (Paired Range.Alike) d.ranges.entries e.ranges.entries

/-- Documents in step: the same clauses in the same order, with equal fragments. -/
structure Document.Alike (d e : Document) : Prop where
  keys : d.clauses.keys = e.clauses.keys
  fragments : ∀ c, List.Forall₂ Json.Alike (d.fragments c) (e.fragments c)

/-! ## Edits -/

theorem Draft.alike_empty : Draft.empty.Alike .empty :=
  ⟨fun c => by rw [conditions_empty]; exact .nil, .nil, .nil⟩

/-- Equal edits of equal drafts make equal drafts. -/
theorem Edit.Alike.apply {x y : Edit} (h : x.Alike y) {d e : Draft} (hd : d.Alike e) :
    (x.apply d).Alike (y.apply e) := by
  -- an edit changes one part of a draft, and the others stay as they were
  cases h with
  | @condition c field a b hab =>
    refine ⟨fun c' => ?_, ?_, ?_⟩
    · show List.Forall₂ _ ((d.setCondition c field a).conditions c').entries
        ((e.setCondition c field b).conditions c').entries
      rw [Draft.conditions_setCondition, Draft.conditions_setCondition]
      split
      · exact insertEntry_of_forall₂ (hd.conditions c) field hab
      · exact hd.conditions c'
    · show List.Forall₂ _ (d.setCondition c field a).multiMatches
        (e.setCondition c field b).multiMatches
      rw [Draft.multiMatches_setCondition, Draft.multiMatches_setCondition]
      exact hd.multiMatches
    · show List.Forall₂ _ (d.setCondition c field a).ranges.entries
        (e.setCondition c field b).ranges.entries
      rw [Draft.ranges_setCondition, Draft.ranges_setCondition]
      exact hd.ranges
  | multiMatch hmn =>
    refine ⟨fun c => ?_, List.rel_append hd.multiMatches (.cons hmn .nil), hd.ranges⟩
    have hconditions := hd.conditions c
    cases c <;> exact hconditions
  | range field hrs =>
    refine ⟨fun c => ?_, hd.multiMatches, insertEntry_of_forall₂ hd.ranges field hrs⟩
    have hconditions := hd.conditions c
    cases c <;> exact hconditions

/-- Equal edits in a row keep drafts equal, by induction on the edits. -/
theorem Draft.Alike.replay {xs ys : List Edit} (h : List.Forall₂ Edit.Alike xs ys)
    {d e : Draft} (hd : d.Alike e) : (d.replay xs).Alike (e.replay ys) := by
  -- on the edits, with the drafts before each of them in step
  induction h generalizing d e with
  | nil => exact hd
  | cons hxy _ ih => exact ih (hxy.apply hd)

/-! ## Documents -/

namespace Draft.Alike

variable {d e : Draft}

/-- Maps in step become fragments that are equal one by one, if their rules do. -/
theorem forall₂_map_fragment {α : Type} {R : α → α → Prop} {es fs : List (String × α)}
    {fragment : String → α → Json}
    (hfragment : ∀ {a b}, R a b → ∀ field, Json.Alike (fragment field a) (fragment field b))
    (h : List.Forall₂ (Paired R) es fs) :
    List.Forall₂ Json.Alike (es.map fun (field, a) => fragment field a)
      (fs.map fun (field, a) => fragment field a) := by
  rw [List.forall₂_map_left_iff, List.forall₂_map_right_iff]
  refine h.imp fun p q hpq => ?_
  obtain ⟨hfield, hab⟩ := hpq
  show Json.Alike (fragment p.1 p.2) (fragment q.1 q.2)
  rw [← hfield]
  exact hfragment hab p.1

/-- Equal drafts have equal fragments under each clause, in the same places. -/
theorem mainFragments (h : d.Alike e) (config : Config) (c : Clause) :
    List.Forall₂ Json.Alike (d.mainFragments config c) (e.mainFragments config c) := by
  have hconditions := h.conditions c
  cases c with
  | filter =>
    exact forall₂_map_fragment
      (fun hab => Fragment.alike_term hab config.mergeFilterAttributes) hconditions
  | mustNot => exact forall₂_map_fragment Fragment.alike_matching hconditions
  | should => exact forall₂_map_fragment Fragment.alike_matching hconditions
  | must =>
    rw [Draft.mainFragments, Draft.mainFragments, isEmpty_of_forall₂ h.multiMatches]
    -- there are multi-field matches on both sides, or on neither
    split
    · exact forall₂_map_fragment Fragment.alike_matching hconditions
    · rw [List.forall₂_map_left_iff, List.forall₂_map_right_iff]
      exact h.multiMatches.imp fun m n => Fragment.alike_multiMatch

theorem rangeFragments (h : d.Alike e) (c : Clause) :
    List.Forall₂ Json.Alike (d.rangeFragments c) (e.rangeFragments c) := by
  refine forall₂_map_fragment Fragment.alike_range ?_
  refine List.rel_filter (fun p q hpq => ?_) h.ranges
  simp only [decide_eq_true_eq, hpq.2.clause]

theorem map_clause_ranges (h : d.Alike e) :
    d.ranges.values.map Range.clause = e.ranges.values.map Range.clause := by
  rw [OrderedMap.values, OrderedMap.values, List.map_map, List.map_map, ← List.forall₂_eq_eq_eq,
    List.forall₂_map_left_iff, List.forall₂_map_right_iff]
  exact h.ranges.imp fun p q hpq => hpq.2.clause

/-- Equal drafts are written as equal documents. -/
theorem render (h : d.Alike e) (config : Config) :
    (d.render config).Alike (e.render config) := by
  refine ⟨?_, fun c => ?_⟩
  · have hmain : d.mainClauses config = e.mainClauses config := by
      refine List.filter_congr fun c _ => ?_
      rw [isEmpty_of_forall₂ (h.mainFragments config c)]
    rw [keys_render, keys_render, hmain, h.map_clause_ranges]
  · rw [fragments_render, fragments_render]
    exact List.rel_append (h.mainFragments config c) (h.rangeFragments c)

end Draft.Alike

namespace Document.Alike

variable {d e : Document}

theorem equiv (h : d.Alike e) : d.equiv e = true := by
  have hsize : d.size = e.size := by
    have hkeys := congrArg List.length h.keys
    rwa [OrderedMap.keys, OrderedMap.keys, List.length_map, List.length_map] at hkeys
  rw [Document.equiv, Bool.and_eq_true, beq_iff_eq, List.all_eq_true]
  refine ⟨hsize, fun p hp => ?_⟩
  obtain ⟨c, fs⟩ := p
  -- the clause is one of `e` as well, with fragments equal to those of `d`
  rw [d.entries_eq_map_keys] at hp
  obtain ⟨c', hc, heq⟩ := List.mem_map.1 hp
  obtain ⟨rfl, rfl⟩ : c' = c ∧ d.fragments c' = fs := by simpa using heq
  simp only [get?_eq_some_fragments (h.keys ▸ hc)]
  exact Json.itemsEquiv_iff.2 ((h.fragments c').imp fun v w hvw => hvw.same)

/-- Documents in step list the same clauses, each with as many fragments. -/
theorem counts (h : d.Alike e) :
    d.clauses.entries.map (fun p => (p.1, p.2.length)) =
      e.clauses.entries.map fun p => (p.1, p.2.length) := by
  rw [d.entries_eq_map_keys, e.entries_eq_map_keys, List.map_map, List.map_map, h.keys]
  refine List.map_congr_left fun c _ => ?_
  exact congrArg (Prod.mk c) (h.fragments c).length_eq

end Document.Alike

end SearchRules
