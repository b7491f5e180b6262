import Mathlib.Data.List.Count
import SearchRules.Proofs.Compiler.Outcome
import SearchRules.Proofs.Fragment.Shape
import SearchRules.Proofs.Rule.Named

/-!
# How the document of a draft is laid out

Whatever a draft holds, and whoever put it there, its document has one layout
(`Document.WellFormed`). The keys of the maps in a draft are distinct, and that
is what keeps two fragments of one clause from searching one field in one way; a
range is a range under every clause, so that a field has one in the whole
document, wherever later rules moved it.

> `wellFormed_render`: the layout.
>
> `count_targets_render`: each field with a range has one fragment for it.
>
> `fragmentCount_render`: the number of fragments, from the sizes of the parts.
>
> `Compiler.render_layout`: all of that for every compiler and every draft. An
> empty draft is what an empty document is written from, and nothing else is.
>
> `Compiler.wellFormed_of_build_eq_ok`: a compiled document has the layout,
> whatever handlers are registered.
-/

namespace SearchRules

namespace Document

/-- The searches and fields of all fragments that search one field. -/
def targets (d : Document) : List (String × String) :=
  d.clauses.values.flatten.filterMap Fragment.target?

/-- What every document that is written from rules looks like. -/
structure WellFormed (d : Document) : Prop where
  /-- A clause that is there has a fragment. -/
  populated : ∀ c fragments, d.get? c = some fragments → fragments ≠ []
  /-- A fragment is one of those that its clause admits. -/
  fits : ∀ c, ∀ v ∈ d.fragments c, Fragment.Fits c v
  /-- Multi-field matches take the place of all conditions under `must`. -/
  exclusive : ∀ v ∈ d.fragments .must, Fragment.search? v = some "multi_match" →
    ∀ w ∈ d.fragments .must, Fragment.search? w ≠ some "match"
  /-- After a range there are only ranges. -/
  rangesLast : ∀ c, (d.fragments c).Pairwise fun v w =>
    Fragment.search? v = some "range" → Fragment.search? w = some "range"
  /-- No two fragments of a clause search one field in one way. -/
  distinct : ∀ c, ((d.fragments c).filterMap Fragment.target?).Nodup

end Document

/-- Sorting a list by keys and joining the parts only changes its order. -/
theorem flatMap_filter_perm {κ α : Type} [DecidableEq κ] (key : α → κ) {ks : List κ}
    (hnd : ks.Nodup) {l : List α} (h : ∀ a ∈ l, key a ∈ ks) :
    (ks.flatMap fun k => l.filter fun a => key a = k).Perm l := by
  induction ks generalizing l with
  | nil =>
    have hl : l = [] := List.eq_nil_iff_forall_not_mem.2 fun a ha => List.not_mem_nil (h a ha)
    rw [hl]
    exact .nil
  | cons k ks ih =>
    rw [List.nodup_cons] at hnd
    -- the other keys find the same elements once those with this key are gone
    have hothers : ∀ k' ∈ ks, (l.filter fun a => key a = k') =
        (l.filter fun a => !decide (key a = k)).filter fun a => key a = k' := by
      intro k' hk'
      rw [List.filter_filter]
      refine List.filter_congr fun a _ => ?_
      by_cases ha : key a = k'
      · have hne : k' ≠ k := fun e => hnd.1 (e ▸ hk')
        simp [ha, hne]
      · simp [ha]
    have hrest : (ks.flatMap fun k' => l.filter fun a => key a = k').Perm
        (l.filter fun a => !decide (key a = k)) := by
      rw [List.flatMap_congr hothers]
      refine ih hnd.2 fun a ha => ?_
      rw [List.mem_filter] at ha
      rcases List.mem_cons.1 (h a ha.1) with hk | hk
      · simp [hk] at ha
      · exact hk
    rw [List.flatMap_cons]
    exact (hrest.append_left _).trans (List.filter_append_perm _ l)

namespace Draft

open Fragment (search? target?)

variable (d : Draft) (config : Config)

/-! ## The fragments of a clause -/

/-- Under a clause stand its conditions, or multi-field matches in their place. -/
theorem mainFragments_cases (c : Clause) :
    d.mainFragments config c = (d.conditions c).entries.map (fun (field, cond) =>
      Fragment.condition config.mergeFilterAttributes c field cond) ∨
    c = .must ∧ d.mainFragments config c = d.multiMatches.map Fragment.multiMatch := by
  cases c with
  | filter => exact Or.inl rfl
  | mustNot => exact Or.inl rfl
  | should => exact Or.inl rfl
  | must =>
    rw [mainFragments]
    split
    · exact Or.inl rfl
    · exact Or.inr ⟨rfl, rfl⟩

/-- A fragment that is no range is a condition of its clause, or a multi-field match
under `must`. -/
theorem exists_of_mem_mainFragments {c : Clause} {v : Json}
    (h : v ∈ d.mainFragments config c) :
    (∃ field cond, v = Fragment.condition config.mergeFilterAttributes c field cond) ∨
      c = .must ∧ ∃ m, v = Fragment.multiMatch m := by
  rcases d.mainFragments_cases config c with heq | ⟨hc, heq⟩
  · rw [heq, List.mem_map] at h
    obtain ⟨⟨field, cond⟩, -, rfl⟩ := h
    exact Or.inl ⟨field, cond, rfl⟩
  · rw [heq, List.mem_map] at h
    obtain ⟨m, -, rfl⟩ := h
    exact Or.inr ⟨hc, m, rfl⟩

theorem search?_ne_range_of_mem_mainFragments {c : Clause} {v : Json}
    (h : v ∈ d.mainFragments config c) : search? v ≠ some "range" := by
  rcases d.exists_of_mem_mainFragments config h with ⟨field, cond, rfl⟩ | ⟨-, m, rfl⟩
  · rw [Fragment.search?_condition, ne_eq, Option.some.injEq]
    exact Fragment.search_ne_range c
  · rw [Fragment.search?_multiMatch]
    decide

theorem exists_of_mem_rangeFragments {c : Clause} {v : Json} (h : v ∈ d.rangeFragments c) :
    ∃ field r, v = Fragment.range field r := by
  rw [rangeFragments, List.mem_map] at h
  obtain ⟨⟨field, r⟩, -, rfl⟩ := h
  exact ⟨field, r, rfl⟩

/-- Every fragment that a range adds searches by a range. -/
theorem search?_of_mem_rangeFragments {c : Clause} {v : Json} (h : v ∈ d.rangeFragments c) :
    search? v = some "range" := by
  obtain ⟨field, r, rfl⟩ := d.exists_of_mem_rangeFragments h
  rfl

/-! ## Targets -/

/-- The fields that are searched are those of the conditions, or none if multi-field
matches have taken their place. -/
theorem filterMap_target?_mainFragments (c : Clause) :
    (d.mainFragments config c).filterMap target? =
        (d.conditions c).keys.map (fun field => (c.search, field)) ∨
      (d.mainFragments config c).filterMap target? = [] := by
  rcases d.mainFragments_cases config c with heq | ⟨-, heq⟩
  · refine Or.inl ?_
    rw [heq, List.filterMap_map, OrderedMap.keys, List.map_map]
    refine (List.filterMap_congr fun p _ => ?_).trans (congrFun List.filterMap_eq_map' _)
    exact Fragment.target?_condition _ c p.1 p.2
  · refine Or.inr ?_
    rw [heq, List.filterMap_map, List.filterMap_eq_nil_iff]
    exact fun m _ => Fragment.target?_multiMatch m

/-- Conditions are kept by field, so no field is searched twice. -/
theorem nodup_targets_mainFragments (c : Clause) :
    ((d.mainFragments config c).filterMap target?).Nodup := by
  rcases d.filterMap_target?_mainFragments config c with heq | heq
  · rw [heq]
    exact (d.conditions c).keys_nodup.map fun _ _ h => congrArg Prod.snd h
  · rw [heq]
    exact List.nodup_nil

/-- No condition searches its field by a range. -/
theorem search_ne_range_of_mem_targets {c : Clause} {target : String × String}
    (h : target ∈ (d.mainFragments config c).filterMap target?) : target.1 ≠ "range" := by
  rcases d.filterMap_target?_mainFragments config c with heq | heq
  · rw [heq, List.mem_map] at h
    obtain ⟨field, -, rfl⟩ := h
    exact Fragment.search_ne_range c
  · rw [heq] at h
    exact absurd h List.not_mem_nil

theorem filterMap_target?_ranges (ranges : List (String × Range)) :
    (ranges.map fun (field, r) => Fragment.range field r).filterMap target? =
      (ranges.map Prod.fst).map fun field => ("range", field) := by
  rw [List.filterMap_map, List.map_map]
  exact congrFun List.filterMap_eq_map' ranges

theorem nodup_targets_ranges {ranges : List (String × Range)}
    (h : (ranges.map Prod.fst).Nodup) :
    ((ranges.map fun (field, r) => Fragment.range field r).filterMap target?).Nodup := by
  rw [filterMap_target?_ranges]
  exact h.map fun _ _ h => congrArg Prod.snd h

/-! ## The layout -/

/-- Under each clause stand only fragments that go there. -/
theorem fits_of_mem_fragments {c : Clause} {v : Json}
    (h : v ∈ (d.render config).fragments c) : Fragment.Fits c v := by
  rw [fragments_render, List.mem_append] at h
  rcases h with h | h
  · rcases d.exists_of_mem_mainFragments config h with ⟨field, cond, rfl⟩ | ⟨rfl, m, rfl⟩
    · exact Fragment.fits_condition _ c field cond
    · exact .multiMatch _
  · obtain ⟨field, r, rfl⟩ := d.exists_of_mem_rangeFragments h
    exact .range c field _

/-- Under `must` a multi-field match and a condition never stand side by side. -/
theorem search?_ne_match_of_multiMatch {v w : Json}
    (hv : v ∈ (d.render config).fragments .must) (hsearch : search? v = some "multi_match")
    (hw : w ∈ (d.render config).fragments .must) : search? w ≠ some "match" := by
  rw [fragments_render, List.mem_append] at hv hw
  have hv : v ∈ d.mainFragments config .must := by
    refine hv.resolve_right fun hrange => ?_
    rw [d.search?_of_mem_rangeFragments hrange] at hsearch
    exact absurd hsearch (by decide)
  rcases hw with hw | hw
  · rcases d.mainFragments_cases config .must with heq | ⟨-, heq⟩
    · -- where there are conditions, `v` would be one of them
      rw [heq, List.mem_map] at hv
      obtain ⟨⟨field, cond⟩, -, rfl⟩ := hv
      rw [Fragment.search?_condition] at hsearch
      exact absurd hsearch (by decide)
    · rw [heq, List.mem_map] at hw
      obtain ⟨m, -, rfl⟩ := hw
      rw [Fragment.search?_multiMatch]
      decide
  · rw [d.search?_of_mem_rangeFragments hw]
    decide

/-- Behind a range there are only ranges. -/
theorem pairwise_rangesLast (c : Clause) :
    ((d.render config).fragments c).Pairwise fun v w =>
      search? v = some "range" → search? w = some "range" := by
  rw [fragments_render, List.pairwise_append]
  refine ⟨?_, ?_, ?_⟩
  · refine List.pairwise_of_forall_mem_list fun v hv w _ hrange => ?_
    exact absurd hrange (d.search?_ne_range_of_mem_mainFragments config hv)
  · exact List.pairwise_of_forall_mem_list fun v _ w hw _ => d.search?_of_mem_rangeFragments hw
  · exact fun v _ w hw _ => d.search?_of_mem_rangeFragments hw

/-- Under one clause no field is searched twice in the same way. -/
theorem nodup_targets_fragments (c : Clause) :
    (((d.render config).fragments c).filterMap target?).Nodup := by
  rw [fragments_render, List.filterMap_append, rangeFragments, List.nodup_append]
  have hranges : ((d.ranges.entries.filter fun (_, r) => r.clause = c).map Prod.fst).Nodup :=
    d.ranges.nodup.sublist (List.filter_sublist.map Prod.fst)
  refine ⟨d.nodup_targets_mainFragments config c, nodup_targets_ranges hranges, ?_⟩
  -- a condition searches in another way than a range
  intro target hmain other hother heq
  rw [filterMap_target?_ranges, List.mem_map] at hother
  obtain ⟨field, -, rfl⟩ := hother
  exact d.search_ne_range_of_mem_targets config hmain (congrArg Prod.fst heq)

/-- A draft is written as a well-formed document, whatever is in it. -/
theorem wellFormed_render : (d.render config).WellFormed where
  populated c fragments hget := by
    have hc : c ∈ (d.render config).clauses.keys :=
      ((d.render config).isSome_get?_iff c).1 (Option.isSome_of_eq_some hget)
    have hfragments : (d.render config).fragments c = fragments := by
      rw [Document.fragments, hget]
      rfl
    rw [← hfragments, fragments_render]
    exact (d.mem_keys_render_iff config c).1 hc
  fits _ _ h := d.fits_of_mem_fragments config h
  exclusive _ hv hsearch _ hw := d.search?_ne_match_of_multiMatch config hv hsearch hw
  rangesLast := d.pairwise_rangesLast config
  distinct := d.nodup_targets_fragments config

/-! ## The whole document -/

theorem flatMap_rangeFragments_perm :
    (Clause.all.flatMap d.rangeFragments).Perm
      (d.ranges.entries.map fun (field, r) => Fragment.range field r) := by
  have hall : Clause.all.Nodup := by decide
  have hsorted := flatMap_filter_perm (fun p : String × Range => p.2.clause) hall
    fun p (_ : p ∈ d.ranges.entries) => p.2.clause.mem_all
  refine .trans (.of_eq ?_) (hsorted.map fun (field, r) => Fragment.range field r)
  rw [List.map_flatMap]
  rfl

/-- All fragments of a document: those of the clauses, and one for each range. -/
theorem values_flatten_render_perm :
    (d.render config).clauses.values.flatten.Perm
      (Clause.all.flatMap (d.mainFragments config) ++
        d.ranges.entries.map fun (field, r) => Fragment.range field r) := by
  refine (d.render config).values_flatten_perm.trans ?_
  have hsplit : Clause.all.flatMap (d.render config).fragments =
      Clause.all.flatMap fun c => d.mainFragments config c ++ d.rangeFragments c :=
    List.flatMap_congr fun c _ => d.fragments_render config c
  rw [hsplit]
  exact (List.flatMap_append_perm _ _ _).symm.trans (d.flatMap_rangeFragments_perm.append_left _)

/-- A field that has a range has one leaf of it, in all clauses together. -/
theorem count_targets_render (field : String) :
    (d.render config).targets.count ("range", field) =
      if field ∈ d.ranges.keys then 1 else 0 := by
  rw [Document.targets, ((d.values_flatten_render_perm config).filterMap target?).count_eq,
    List.filterMap_append, List.count_append, filterMap_target?_ranges]
  -- the other fragments do not count, and each range counts for its field
  have hmain : ("range", field) ∉
      (Clause.all.flatMap (d.mainFragments config)).filterMap target? := by
    rw [List.filterMap_flatMap, List.mem_flatMap]
    rintro ⟨c, -, hmem⟩
    exact d.search_ne_range_of_mem_targets config hmem rfl
  have hinjective : Function.Injective fun field : String => ("range", field) :=
    fun _ _ h => congrArg Prod.snd h
  rw [List.count_eq_zero_of_not_mem hmain, Nat.zero_add,
    List.count_map_of_injective _ _ hinjective]
  exact d.ranges.nodup.count

/-- Every condition, every multi-field match and every range is one fragment, but for
the conditions under `must` whose place was taken. -/
theorem fragmentCount_render :
    (d.render config).fragmentCount =
      d.filters.size +
        (if d.multiMatches.isEmpty then d.musts.size else d.multiMatches.length) +
        d.mustNots.size + d.shoulds.size + d.ranges.size := by
  have hmust : (d.mainFragments config .must).length =
      if d.multiMatches.isEmpty then d.musts.size else d.multiMatches.length := by
    rw [mainFragments]
    split <;> exact List.length_map _
  rw [Document.fragmentCount, (d.values_flatten_render_perm config).length_eq, List.length_append,
    List.length_map, ← hmust]
  simp [Clause.all, mainFragments, OrderedMap.size, Nat.add_assoc]

/-- A draft is empty if it counts nothing at all. -/
theorem isEmpty_iff :
    d.isEmpty = true ↔
      (∀ c, (d.conditions c).size = 0) ∧ d.multiMatches = [] ∧ d.ranges.size = 0 := by
  simp [isEmpty, Clause.mem_all, OrderedMap.isEmpty, OrderedMap.size, and_assoc]

/-- An empty document is written from an empty draft, and from no other. -/
theorem isEmpty_render : (d.render config).isEmpty = d.isEmpty := by
  rw [Bool.eq_iff_iff]
  constructor
  · intro h
    have hcount : (d.render config).fragmentCount = 0 := by
      have hentries : (d.render config).clauses.entries = [] := List.isEmpty_iff.1 h
      rw [Document.fragmentCount, OrderedMap.values, hentries]
      rfl
    -- no fragments at all: each of the numbers that add up is zero
    rw [fragmentCount_render] at hcount
    have hmatches : d.multiMatches = [] := by
      by_contra hne
      rw [if_neg (by simpa using hne)] at hcount
      have := List.length_pos_of_ne_nil hne
      omega
    rw [hmatches, List.isEmpty_nil, if_pos rfl] at hcount
    refine d.isEmpty_iff.2 ⟨fun c => ?_, hmatches, by omega⟩
    cases c <;> show OrderedMap.size _ = 0 <;> simp only [conditions] <;> omega
  · intro h
    rw [d.render_of_isEmpty config h]
    rfl

end Draft

namespace Compiler

/-- The document that a compiler writes a draft as, whatever rules and handlers
put into the draft, and whether or not compiling would have ended early because
the draft is empty. -/
theorem render_layout (c : Compiler) (d : Draft) :
    let document := d.render c.config
    document.WellFormed ∧
    (∀ field, document.targets.count ("range", field) =
      if field ∈ d.ranges.keys then 1 else 0) ∧
    document.fragmentCount =
      d.filters.size +
        (if d.multiMatches.isEmpty then d.musts.size else d.multiMatches.length) +
        d.mustNots.size + d.shoulds.size + d.ranges.size ∧
    document.isEmpty = d.isEmpty ∧
    (c.finish d).2 = document :=
  ⟨d.wellFormed_render c.config, d.count_targets_render c.config, d.fragmentCount_render c.config,
    d.isEmpty_render c.config, c.finish_snd d⟩

/-- What a compiler builds is well-formed, whatever its handlers do. -/
theorem wellFormed_of_build_eq_ok {c : Compiler} {r : Request} {document : Document}
    (h : c.build r = .ok document) : document.WellFormed := by
  rw [build_of_withinLimit (withinLimit_of_build_eq_ok h)] at h
  obtain ⟨d, -, rfl⟩ := map_eq_ok_iff.1 h
  exact d.wellFormed_render c.config

end Compiler

end SearchRules
