import SearchRules.Draft
import SearchRules.Proofs.Document.Fragments

/-!
# What a draft is written as

The document of a draft in closed form. Its clauses are those with fragments of
their own, in document order, and after them those that hold ranges only, in the
order of the ranges; under each stand its own fragments and then its ranges.

> `keys_render`, `fragments_render`: the two views of the document.
>
> `mem_keys_render_iff`: no clause is there without a fragment, and none with
> one is missing.
>
> `render_of_isEmpty`: an empty draft is written as the empty document.
-/

namespace SearchRules.Draft

variable (d : Draft) (config : Config)

/-- The fragments that ranges put under a clause. -/
def rangeFragments (c : Clause) : List Json :=
  (d.ranges.entries.filter fun (_, r) => r.clause = c).map fun (field, r) =>
    Fragment.range field r

/-- The clauses that are written before any range. -/
def mainClauses : List Clause :=
  Clause.all.filter fun c => !(d.mainFragments config c).isEmpty

theorem renderClause_of_eq_nil {c : Clause} (document : Document)
    (h : d.mainFragments config c = []) : d.renderClause config document c = document := by
  unfold renderClause
  rw [h]

theorem renderClause_of_ne_nil {c : Clause} (document : Document)
    (h : d.mainFragments config c ≠ []) :
    d.renderClause config document c = document.set c (d.mainFragments config c) := by
  unfold renderClause
  split
  · next hnil => exact absurd hnil h
  · rfl

/-- The clauses that have fragments are listed in document order. -/
theorem keys_foldl_renderClause {cs : List Clause} (hnd : cs.Nodup) :
    (cs.foldl (d.renderClause config) .empty).clauses.keys =
      cs.filter fun c => !(d.mainFragments config c).isEmpty := by
  induction cs using List.reverseRecOn with
  | nil => rfl
  | append_singleton cs c ih =>
    rw [List.nodup_append] at hnd
    have hc : c ∉ cs := fun hmem => hnd.2.2 c hmem c List.mem_cons_self rfl
    rw [List.foldl_append, List.filter_append]
    show (d.renderClause config (cs.foldl (d.renderClause config) .empty) c).clauses.keys = _
    -- a clause without fragments of its own is neither written nor counted
    by_cases hmain : d.mainFragments config c = []
    · rw [renderClause_of_eq_nil d config _ hmain, ih hnd.1]
      simp [hmain]
    · have hnew : c ∉ cs.filter fun c => !(d.mainFragments config c).isEmpty :=
        fun hmem => hc (List.mem_of_mem_filter hmem)
      rw [renderClause_of_ne_nil d config _ hmain, Document.keys_set, ih hnd.1, if_neg hnew]
      simp [hmain]

/-- Each of the clauses gone through has its own fragments. -/
theorem fragments_foldl_renderClause (cs : List Clause) (c : Clause) :
    (cs.foldl (d.renderClause config) .empty).fragments c =
      if c ∈ cs then d.mainFragments config c else [] := by
  -- on the clauses gone through, from the last: it is set to its fragments or left out
  induction cs using List.reverseRecOn with
  | nil => rfl
  | append_singleton cs c' ih =>
    rw [List.foldl_append]
    show (d.renderClause config (cs.foldl (d.renderClause config) .empty) c').fragments c = _
    by_cases hmain : d.mainFragments config c' = []
    · rw [renderClause_of_eq_nil d config _ hmain, ih]
      by_cases h : c = c'
      · subst h
        simp [hmain]
      · simp [h]
    · rw [renderClause_of_ne_nil d config _ hmain, Document.fragments_set, ih]
      by_cases h : c = c'
      · subst h
        simp
      · simp [h]

/-- Writing a draft is setting its clauses and pushing its ranges. -/
theorem render_eq_pushMany :
    d.render config =
      (Clause.all.foldl (d.renderClause config) .empty).pushMany
        (d.ranges.entries.map fun (field, r) => (r.clause, Fragment.range field r)) := by
  rw [render, Document.pushMany, List.foldl_map]

/-- The clauses with fragments come first; those that only ranges need follow in the
order of the ranges. -/
theorem keys_render :
    (d.render config).clauses.keys =
      (d.mainClauses config ++ d.ranges.values.map Range.clause).eraseDups := by
  rw [render_eq_pushMany, Document.keys_pushMany,
    keys_foldl_renderClause d config (by decide), OrderedMap.values, List.map_map, List.map_map]
  rfl

/-- Under each clause the ranges stand last. -/
theorem fragments_render (c : Clause) :
    (d.render config).fragments c = d.mainFragments config c ++ d.rangeFragments c := by
  rw [render_eq_pushMany, Document.fragments_pushMany, fragments_foldl_renderClause,
    if_pos c.mem_all, List.filter_map, List.map_map]
  rfl

/-- A clause is written if and only if it has a fragment. -/
theorem mem_keys_render_iff (c : Clause) :
    c ∈ (d.render config).clauses.keys ↔
      d.mainFragments config c ++ d.rangeFragments c ≠ [] := by
  rw [keys_render, List.mem_eraseDups, List.mem_append, ne_eq, List.append_eq_nil_iff, not_and_or]
  refine or_congr ?_ ?_
  · simp [mainClauses, c.mem_all]
  · simp [rangeFragments, List.filter_eq_nil_iff, OrderedMap.values]

/-! ## Empty drafts -/

/-- An empty draft has nothing to write. -/
theorem mainFragments_of_isEmpty (h : d.isEmpty = true) (c : Clause) :
    d.mainFragments config c = [] := by
  simp only [isEmpty, Bool.and_eq_true, List.all_eq_true] at h
  have hc : (d.conditions c).entries = [] := List.isEmpty_iff.1 (h.1.1 c c.mem_all)
  cases c with
  | must => rw [mainFragments, if_pos h.1.2, show d.musts.entries = [] from hc, List.map_nil]
  | filter => rw [mainFragments, show d.filters.entries = [] from hc, List.map_nil]
  | mustNot => rw [mainFragments, show d.mustNots.entries = [] from hc, List.map_nil]
  | should => rw [mainFragments, show d.shoulds.entries = [] from hc, List.map_nil]

/-- Nothing is written for an empty draft. -/
theorem render_of_isEmpty (h : d.isEmpty = true) : d.render config = .empty := by
  have hranges : d.ranges.entries = [] := by
    simp only [isEmpty, Bool.and_eq_true] at h
    exact List.isEmpty_iff.1 h.2
  have hmain : d.mainClauses config = [] := by
    rw [mainClauses, List.filter_eq_nil_iff]
    intro c _
    simp [mainFragments_of_isEmpty d config h c]
  refine Document.ext_fragments ?_ fun c => ?_
  · rw [keys_render, hmain, OrderedMap.values, hranges]
    rfl
  · rw [fragments_render, mainFragments_of_isEmpty d config h c, rangeFragments, hranges]
    rfl

end SearchRules.Draft
