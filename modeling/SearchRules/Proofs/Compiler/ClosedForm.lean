import SearchRules.Proofs.Compiler.Outcome

/-!
# Compilation in closed form

The document of a request, read off its entries without a draft
(`Request.document`). Among the live entries of a kind the *first* one on a
field gives the place of its fragment and the *last* one gives what is written
there, so place and content may come from different entries. Three things
interact with that:

* a range stands under the clause that the last entry on its field names, at the
  place of the first entry on that field, whatever clause that one named;
* one multi-field match is enough to put all conditions under `must` aside;
* clauses that hold nothing but ranges come last, in the order of their ranges.

> `build_eq_ok_iff_document`: a request compiles if and only if it keeps to the
> limit and every entry is accepted, and then to this document; a clause is in
> it if and only if it has a fragment.
-/

namespace SearchRules

namespace Request

open OrderedMap (lastWrites)

variable (r : Request) (config : Config)

/-- What the live entries write that are accepted, in order. -/
def edits : List Edit := r.entries.filterMap Entry.edit?

/-- The fields and conditions of the entries that go under a clause, in order. -/
def conditions (c : Clause) : List (String × Condition) :=
  r.edits.filterMap (Edit.condition? c)

/-- The matches of the multi-field entries, in order. -/
def multiMatches : List MultiMatch := r.edits.filterMap Edit.multiMatch?

/-- The fields and ranges of the range entries, in order. -/
def ranges : List (String × Range) := r.edits.filterMap Edit.range?

/-- The fragments of a clause other than ranges. -/
def mainFragments : Clause → List Json
  | .filter =>
    (lastWrites (r.conditions .filter)).map fun (field, c) =>
      Fragment.term config.mergeFilterAttributes field c
  | .must =>
    if r.multiMatches.isEmpty then
      (lastWrites (r.conditions .must)).map fun (field, c) => Fragment.matching field c
    else r.multiMatches.map Fragment.multiMatch
  | .mustNot =>
    (lastWrites (r.conditions .mustNot)).map fun (field, c) => Fragment.matching field c
  | .should =>
    (lastWrites (r.conditions .should)).map fun (field, c) => Fragment.matching field c

/-- The ranges of a clause: those whose last entry names it. -/
def rangeFragments (c : Clause) : List Json :=
  ((lastWrites r.ranges).filter fun (_, range) => range.clause = c).map fun (field, range) =>
    Fragment.range field range

/-- All fragments of a clause. -/
def fragments (c : Clause) : List Json := r.mainFragments config c ++ r.rangeFragments c

/-- The clauses with fragments: first those that have others than ranges, in
document order, then the others in the order of their ranges. -/
def clauses : List Clause :=
  (Clause.all.filter (fun c => !(r.mainFragments config c).isEmpty) ++
    (lastWrites r.ranges).map fun p => p.2.clause).eraseDups

/-- The document of a request. -/
def document : Document :=
  ⟨⟨(r.clauses config).map fun c => (c, r.fragments config c), by
    rw [List.map_map]
    exact (List.map_id (r.clauses config)).symm ▸ nodup_eraseDups _⟩⟩

/-! ## The draft of a request -/

/-- The fragments of a clause, told by the entries, are those that their edits leave. -/
theorem mainFragments_replay (c : Clause) :
    (Draft.empty.replay r.edits).mainFragments config c = r.mainFragments config c := by
  have hconditions := Draft.entries_conditions_replay r.edits
  have hmatches : (Draft.empty.replay r.edits).multiMatches = r.multiMatches :=
    Draft.multiMatches_replay .empty r.edits
  cases c with
  | filter => exact congrArg (List.map _) (hconditions .filter)
  | mustNot => exact congrArg (List.map _) (hconditions .mustNot)
  | should => exact congrArg (List.map _) (hconditions .should)
  -- multi-field matches may stand in the place of the conditions here
  | must =>
    have hmusts : (Draft.empty.replay r.edits).musts.entries =
        lastWrites (r.conditions .must) := hconditions .must
    rw [Draft.mainFragments, mainFragments, hmatches, hmusts]

theorem rangeFragments_replay (c : Clause) :
    (Draft.empty.replay r.edits).rangeFragments c = r.rangeFragments c := by
  rw [Draft.rangeFragments, Draft.entries_ranges_replay]
  rfl

/-- The clauses of the document are those that have a fragment. -/
theorem keys_document : (r.document config).clauses.keys = r.clauses config := by
  rw [OrderedMap.keys, document, List.map_map]
  exact List.map_id (r.clauses config)

theorem get?_document_of_mem {c : Clause} (h : c ∈ r.clauses config) :
    (r.document config).get? c = some (r.fragments config c) := by
  refine lookup_eq_some_of_mem (r.document config).clauses.nodup ?_
  exact List.mem_map_of_mem h

/-- The draft of a request is written as the document of the request. -/
theorem render_replay :
    (Draft.empty.replay r.edits).render config = r.document config := by
  have hkeys : ((Draft.empty.replay r.edits).render config).clauses.keys =
      (r.document config).clauses.keys := by
    rw [Draft.keys_render, keys_document, Draft.mainClauses, OrderedMap.values,
      Draft.entries_ranges_replay, List.map_map]
    simp only [mainFragments_replay]
    rfl
  -- with the same clauses, what is left is to compare their fragments
  refine Document.ext_fragments hkeys fun c => ?_
  by_cases hc : c ∈ r.clauses config
  · rw [Draft.fragments_render, mainFragments_replay, rangeFragments_replay,
      Document.fragments, get?_document_of_mem r config hc]
    rfl
  · rw [Document.fragments_eq_nil (by rw [hkeys, keys_document]; exact hc),
      Document.fragments_eq_nil (by rw [keys_document]; exact hc)]

/-- A clause is in the document if and only if it has fragments. -/
theorem mem_clauses_iff (c : Clause) : c ∈ r.clauses config ↔ r.fragments config c ≠ [] := by
  rw [← keys_document, ← render_replay, Draft.mem_keys_render_iff, mainFragments_replay,
    rangeFragments_replay]
  rfl

end Request

namespace Compiler

/-- A request within the limit whose entries are accepted compiles to its document. -/
theorem build_eq_ok_document {config : Config} {r : Request} (hlimit : r.WithinLimit config)
    (haccepted : ∀ e ∈ r.entries, e.Accepted) :
    (withConfig config).build r = .ok (r.document config) := by
  rw [build_withConfig hlimit, Entry.edits_of_accepted haccepted, ← r.render_replay config]
  rfl

/-- A request compiles if and only if it keeps to the limit and all its entries
are accepted. What comes out is the document in closed form, in which a clause
is there if and only if it has fragments. -/
theorem build_eq_ok_iff_document (config : Config) (r : Request) :
    (∀ d, (withConfig config).build r = .ok d ↔
      r.WithinLimit config ∧ (∀ e ∈ r.entries, e.Accepted) ∧ d = r.document config) ∧
    ∀ c, (r.document config).get? c =
      if r.fragments config c = [] then none else some (r.fragments config c) := by
  refine ⟨fun d => ⟨fun h => ?_, ?_⟩, fun c => ?_⟩
  · -- an outcome means that nothing was refused, neither the request nor an entry
    have hlimit : r.WithinLimit config := withinLimit_of_build_eq_ok h
    have haccepted : ∀ e ∈ r.entries, e.Accepted := by
      rw [build_withConfig hlimit] at h
      cases hedits : Entry.edits r.entries with
      | ok edits => exact (Entry.edits_eq_ok_iff.1 hedits).1
      | error error =>
        rw [hedits] at h
        exact absurd h nofun
    rw [build_eq_ok_document hlimit haccepted] at h
    exact ⟨hlimit, haccepted, (Except.ok.inj h).symm⟩
  · rintro ⟨hlimit, haccepted, rfl⟩
    exact build_eq_ok_document hlimit haccepted
  · by_cases hc : r.fragments config c = []
    · have hmem : c ∉ (r.document config).clauses.keys := by
        rw [r.keys_document, r.mem_clauses_iff]
        exact not_not_intro hc
      rw [if_pos hc, Document.get?_eq_none hmem]
    · rw [if_neg hc, r.get?_document_of_mem config ((r.mem_clauses_iff config c).2 hc)]

end Compiler

end SearchRules
