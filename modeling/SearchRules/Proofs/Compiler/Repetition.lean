import SearchRules.Proofs.Compiler.Refusal
import SearchRules.Proofs.Compiler.Shadowing
import SearchRules.Proofs.Fragment.Shape

/-!
# Requests that are said several times over

What a request says about one field it can say again: the second time nothing is
new. That takes an argument, because a request may overwrite its own rules and
move a range from clause to clause, and all that happens again in the second
pass. In the end every map of the draft is as it was after the first pass
(`OrderedMap.insertMany_insertMany_self`). Multi-field matches alone add up.

> `lastWrites_times`: what is written by field is the same, however often the
> request is said.
>
> `clauses_times`: so are the clauses of the document, and their order.
>
> `build_times`: a request that is said several times over is refused as it is
> when it is said once, and otherwise differs in its multi-field matches only,
> which stand there as often as it is said.
-/

namespace SearchRules

open OrderedMap (lastWrites)

namespace Request

/-- The request said `n` times over. -/
def times (r : Request) (n : Nat) : Request := ⟨(List.replicate n r.entries).flatten⟩

/-- A live entry of the request is a multi-field match. -/
def HasMultiMatch (r : Request) : Prop :=
  ∃ e ∈ r.entries, ∃ args, e.live? = some (.multiMatch, args)

variable {r : Request} {config : Config} {n : Nat}

/-- One more round is the entries once more in front. -/
theorem entries_times_succ (r : Request) (n : Nat) :
    (r.times (n + 1)).entries = r.entries ++ (r.times n).entries := by
  rw [times, List.replicate_succ, List.flatten_cons]
  rfl

theorem mem_entries_of_times {e : Entry} (h : e ∈ (r.times n).entries) : e ∈ r.entries := by
  obtain ⟨entries, hentries, he⟩ := List.mem_flatten.1 h
  exact List.eq_of_mem_replicate hentries ▸ he

/-! ## What is written -/

/-- A part of the edits comes as often as the request is said. -/
theorem filterMap_edits_times {β : Type} (r : Request) (n : Nat) (part? : Edit → Option β) :
    (r.times n).edits.filterMap part? =
      (List.replicate n (r.edits.filterMap part?)).flatten := by
  rw [filterMap_edits, filterMap_edits, times, List.filterMap_flatten, List.map_replicate]

/-- What is written last under each key, and the order of the keys, is as after the
first round. -/
theorem lastWrites_times {α : Type} (hn : 0 < n) (r : Request)
    (write? : Edit → Option (String × α)) :
    lastWrites ((r.times n).edits.filterMap write?) =
      lastWrites (r.edits.filterMap write?) := by
  rw [filterMap_edits_times, OrderedMap.lastWrites_flatten_replicate _ hn]

/-- Multi-field matches add up, round by round. -/
theorem multiMatches_times (r : Request) (n : Nat) :
    (r.times n).multiMatches = (List.replicate n r.multiMatches).flatten :=
  r.filterMap_edits_times n Edit.multiMatch?

/-- Among accepted entries, the multi-field matches are those of the live ones. -/
theorem multiMatches_ne_nil_iff (haccepted : ∀ e ∈ r.entries, e.Accepted) :
    r.multiMatches ≠ [] ↔ r.HasMultiMatch := by
  constructor
  · intro h
    obtain ⟨m, hm⟩ := List.exists_mem_of_ne_nil _ h
    obtain ⟨edit, hedit, hmatch⟩ := List.mem_filterMap.1 hm
    obtain ⟨e, he, hmade⟩ := List.mem_filterMap.1 hedit
    obtain ⟨⟨kind, args⟩, hlive, hkind⟩ := Option.bind_eq_some_iff.1 hmade
    -- the edit shows the kind of its entry
    have hmulti : kind = .multiMatch := by
      rw [← RuleKind.kind_edit (toOption_eq_some_iff.1 hkind),
        Edit.multiMatch?_eq_some_iff.1 hmatch]
      rfl
    exact ⟨e, he, args, hmulti ▸ hlive⟩
  · rintro ⟨e, he, args, hlive⟩
    exact multiMatches_ne_nil haccepted he hlive

/-! ## What stands under a clause -/

/-- With a multi-field match, `must` shows these alone. -/
theorem mainFragments_must_of_ne_nil (h : r.multiMatches ≠ []) :
    r.mainFragments config .must = r.multiMatches.map Fragment.multiMatch := by
  rw [mainFragments, List.isEmpty_eq_false_iff.2 h]
  rfl

theorem multiMatches_times_ne_nil (hn : 0 < n) (h : r.multiMatches ≠ []) :
    (r.times n).multiMatches ≠ [] := by
  obtain ⟨n, rfl⟩ := Nat.exists_eq_add_one.2 hn
  rw [multiMatches_times, List.replicate_succ, List.flatten_cons]
  exact List.append_ne_nil_of_left_ne_nil h _

/-- Multi-field matches stand under `must` as often as the request is said. -/
theorem mainFragments_times_must (hn : 0 < n) (h : r.multiMatches ≠ []) :
    (r.times n).mainFragments config .must =
      (List.replicate n (r.mainFragments config .must)).flatten := by
  rw [mainFragments_must_of_ne_nil (multiMatches_times_ne_nil hn h),
    mainFragments_must_of_ne_nil h, multiMatches_times, List.map_flatten, List.map_replicate]

/-- All other fragments stand there once. -/
theorem mainFragments_times (hn : 0 < n) {c : Clause} (h : c = .must → r.multiMatches = []) :
    (r.times n).mainFragments config c = r.mainFragments config c := by
  have hconditions : lastWrites ((r.times n).conditions c) = lastWrites (r.conditions c) :=
    lastWrites_times hn r (Edit.condition? c)
  -- only under `must` do multi-field matches show, and there are none
  by_cases hc : c = .must
  · have hmatches : (r.times n).multiMatches = r.multiMatches := by
      rw [multiMatches_times, h hc]
      simp
    exact mainFragments_congr hconditions hmatches
  · cases c with
    | must => exact absurd rfl hc
    | filter => rw [mainFragments, mainFragments, hconditions]
    | mustNot => rw [mainFragments, mainFragments, hconditions]
    | should => rw [mainFragments, mainFragments, hconditions]

/-- Ranges are written over, and so they stay. -/
theorem rangeFragments_times (hn : 0 < n) (r : Request) (c : Clause) :
    (r.times n).rangeFragments c = r.rangeFragments c := by
  have hranges : lastWrites (r.times n).ranges = lastWrites r.ranges :=
    lastWrites_times hn r Edit.range?
  rw [rangeFragments, rangeFragments, hranges]

/-! ## The document -/

/-- A clause has fragments other than ranges as soon as the request is said once. -/
theorem isEmpty_mainFragments_times (hn : 0 < n) (r : Request) (config : Config) (c : Clause) :
    ((r.times n).mainFragments config c).isEmpty = (r.mainFragments config c).isEmpty := by
  by_cases h : c = .must → r.multiMatches = []
  · rw [mainFragments_times hn h]
  · obtain ⟨rfl, hmatches⟩ := Classical.not_imp.1 h
    rw [mainFragments_must_of_ne_nil (multiMatches_times_ne_nil hn hmatches),
      mainFragments_must_of_ne_nil hmatches, List.isEmpty_map, List.isEmpty_map,
      List.isEmpty_eq_false_iff.2 (multiMatches_times_ne_nil hn hmatches),
      List.isEmpty_eq_false_iff.2 hmatches]

/-- The same clauses have fragments, in the same order. -/
theorem clauses_times (hn : 0 < n) (r : Request) (config : Config) :
    (r.times n).clauses config = r.clauses config := by
  have hranges : lastWrites (r.times n).ranges = lastWrites r.ranges :=
    lastWrites_times hn r Edit.range?
  simp only [clauses, isEmpty_mainFragments_times hn, hranges]

/-- Apart from a `must` with multi-field matches, every clause has the fragments that it
had. -/
theorem get?_document_times (hn : 0 < n) {c : Clause} (h : c = .must → r.multiMatches = []) :
    ((r.times n).document config).get? c = (r.document config).get? c := by
  have hfragments : (r.times n).fragments config c = r.fragments config c := by
    rw [fragments, fragments, mainFragments_times hn h, rangeFragments_times hn]
  by_cases hc : c ∈ r.clauses config
  · rw [get?_document_of_mem r config hc,
      get?_document_of_mem (r.times n) config (by rw [clauses_times hn]; exact hc), hfragments]
  · rw [Document.get?_eq_none (by rw [keys_document, clauses_times hn]; exact hc),
      Document.get?_eq_none (by rw [keys_document]; exact hc)]

theorem search?_of_mem_mainFragments_must (h : r.multiMatches ≠ []) {v : Json}
    (hv : v ∈ r.mainFragments config .must) : Fragment.search? v = some "multi_match" := by
  rw [mainFragments_must_of_ne_nil h] at hv
  obtain ⟨m, -, rfl⟩ := List.mem_map.1 hv
  exact Fragment.search?_multiMatch m

theorem search?_of_mem_rangeFragments {c : Clause} {v : Json} (hv : v ∈ r.rangeFragments c) :
    Fragment.search? v = some "range" := by
  obtain ⟨p, -, rfl⟩ := List.mem_map.1 hv
  exact Fragment.search?_leaf "range" p.1 _

/-- With a multi-field match there are fragments under `must`, and the matches
come before the ranges. -/
theorem get?_document_must (h : r.multiMatches ≠ []) :
    (r.document config).get? .must =
      some (r.mainFragments config .must ++ r.rangeFragments .must) := by
  refine r.get?_document_of_mem config ((r.mem_clauses_iff config .must).2 ?_)
  rw [fragments, mainFragments_must_of_ne_nil h]
  exact List.append_ne_nil_of_left_ne_nil (by simpa using h) _

end Request

namespace Compiler

variable {config : Config} {n : Nat}

/-- The first time decides on the error. -/
theorem build_times_of_error (hlimit : config.maxRules = none) (hn : 0 < n) {r : Request}
    {error : RuleError} (h : (withConfig config).build r = .error error) :
    (withConfig config).build (r.times n) = .error error := by
  obtain ⟨n, rfl⟩ := Nat.exists_eq_add_one.2 hn
  rw [build_withoutLimit (Request.withinLimit_of_eq_none hlimit _)] at h ⊢
  have hentries : r.times (n + 1) = ⟨r.entries ++ (r.times n).entries⟩ :=
    congrArg Request.mk (r.entries_times_succ n)
  rw [hentries]
  exact build_append_of_error _ h

/-- What compiles once compiles any number of times. -/
theorem build_times_of_ok (hlimit : config.maxRules = none) (n : Nat) {r : Request}
    {document : Document} (h : (withConfig config).build r = .ok document) :
    (withConfig config).build (r.times n) = .ok ((r.times n).document config) := by
  obtain ⟨-, haccepted, -⟩ := build_withConfig_eq_ok_iff.1 h
  exact build_eq_ok_document (Request.withinLimit_of_eq_none hlimit _)
    fun e he => haccepted e (Request.mem_entries_of_times he)

/-- Without a limit, a request that is said several times over is refused if and
only if it is refused when it is said once, and with the same error. Otherwise it
is compiled to the same clauses in the same order with the same fragments, except
that multi-field matches are repeated as they are, before the ranges. -/
theorem build_times (hlimit : config.maxRules = none) (hn : 0 < n) (r : Request) :
    (∀ error, (withConfig config).build (r.times n) = .error error ↔
      (withConfig config).build r = .error error) ∧
    ∀ document, (withConfig config).build r = .ok document →
      ∃ repeated, (withConfig config).build (r.times n) = .ok repeated ∧
        repeated.clauses.keys = document.clauses.keys ∧
        (∀ c, ¬(c = .must ∧ r.HasMultiMatch) → repeated.get? c = document.get? c) ∧
        (r.HasMultiMatch → ∃ multi ranges,
          (∀ v ∈ multi, Fragment.search? v = some "multi_match") ∧
          (∀ v ∈ ranges, Fragment.search? v = some "range") ∧
          document.get? .must = some (multi ++ ranges) ∧
          repeated.get? .must = some ((List.replicate n multi).flatten ++ ranges)) := by
  refine ⟨fun error => ⟨fun h => ?_, build_times_of_error hlimit hn⟩, fun document h => ?_⟩
  · -- if it were compiled once, it would be compiled several times over, too
    cases honce : (withConfig config).build r with
    | ok document =>
      rw [build_times_of_ok hlimit n honce] at h
      exact absurd h ok_ne_error
    | error first =>
      rw [build_times_of_error hlimit hn honce] at h
      exact h
  · obtain ⟨hwithin, haccepted, hdocument⟩ := ((build_eq_ok_iff_document config r).1 document).1 h
    subst hdocument
    refine ⟨_, build_times_of_ok hlimit n h, ?_, fun c hc => ?_, fun hmulti => ?_⟩
    · rw [Request.keys_document, Request.keys_document, Request.clauses_times hn]
    · refine Request.get?_document_times hn fun hmust => ?_
      by_contra hmatches
      exact hc ⟨hmust, (Request.multiMatches_ne_nil_iff haccepted).1 hmatches⟩
    · have hmatches := (Request.multiMatches_ne_nil_iff haccepted).2 hmulti
      refine ⟨r.mainFragments config .must, r.rangeFragments .must,
        fun _ => Request.search?_of_mem_mainFragments_must hmatches,
        fun _ => Request.search?_of_mem_rangeFragments, Request.get?_document_must hmatches, ?_⟩
      rw [Request.get?_document_must (Request.multiMatches_times_ne_nil hn hmatches),
        Request.mainFragments_times_must hn hmatches, Request.rangeFragments_times hn]

/-- A request that overwrites its own filter and moves its range from `should` to
`must`, said three times over. -/
theorem build_times_thrice :
    let r : Request := ⟨[.condition .filter "tag" .null none, .range "price" [] .should,
      .multiMatch ["title"] (.string "lean") none, .condition .filter "tag" (.bool true) none,
      .range "price" [.string "gte", .null] .must].map Rule.entry⟩
    Config.default.maxRules = none ∧ 0 < 3 ∧ r.HasMultiMatch ∧
      ∃ document repeated, (withConfig .default).build r = .ok document ∧
        (withConfig .default).build (r.times 3) = .ok repeated ∧
        repeated.clauses.keys = document.clauses.keys ∧
        repeated.get? .filter = document.get? .filter ∧
        ∃ multi ranges, document.get? .must = some (multi ++ ranges) ∧
          repeated.get? .must = some ((List.replicate 3 multi).flatten ++ ranges) := by
  intro r
  have hlimit : Config.default.maxRules = none := rfl
  have hmulti : r.HasMultiMatch :=
    ⟨Rule.entry (.multiMatch ["title"] (.string "lean") none), by simp [r], _, rfl⟩
  obtain ⟨document, h⟩ : ∃ document, (withConfig .default).build r = .ok document := ⟨_, rfl⟩
  obtain ⟨repeated, hrepeated, hkeys, hothers, hmust⟩ :=
    (build_times hlimit (by decide : 0 < 3) r).2 document h
  obtain ⟨multi, ranges, -, -, honce, hthrice⟩ := hmust hmulti
  exact ⟨hlimit, by decide, hmulti, document, repeated, h, hrepeated, hkeys,
    hothers .filter (fun hfilter => absurd hfilter.1 nofun), multi, ranges, honce, hthrice⟩

end Compiler

end SearchRules
