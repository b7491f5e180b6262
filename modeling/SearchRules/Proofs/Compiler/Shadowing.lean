import SearchRules.Proofs.Compiler.ClosedForm
import SearchRules.Proofs.Compiler.Reordering

/-!
# What is shadowed does not show

Three sorts of data are read, and may even be refused, and still do not show in
the document: conditions under `must` beside a multi-field match, all of an entry
but its field if a later one has the same kind and field, and the attributes of
filter rules that are not to be merged.

A document is written from a few lists (`Request.SameShown`), and each of the
three replacements leaves these lists as they are. An entry that is overwritten
still gives its field a place. It may be replaced on that field, then, but not
left out. A range that is overwritten does not leave the clause it named behind,
since clauses are read off the ranges that last.

> `SameShown.document_eq`: the document depends on what is shown alone.
>
> `SameBut.sameShown`, `sameShown_of_overwritten`, `sameShown_of_sameFilter`: the
> three replacements.
>
> `build_eq_ok_of_shadowed`: what was compiled before is compiled to the same
> document after any of them.
-/

namespace SearchRules

open OrderedMap (lastWrites)

/-! ## What entries are about -/

/-- The kind and field that a rule is about. A later rule about the same takes
its place; nothing takes the place of a multi-field match. -/
def Rule.target? : Rule → Option (RuleKind × String)
  | .condition c field _ _ => some (.clause c, field)
  | .multiMatch _ _ _ => none
  | .range field _ _ => some (.range, field)

/-- The kind and field that an edit is about. -/
def Edit.target? : Edit → Option (RuleKind × String)
  | .condition c field _ => some (.clause c, field)
  | .multiMatch _ => none
  | .range field _ => some (.range, field)

/-- The edit of a rule writes where the rule says. -/
theorem Rule.target?_edit {rule : Rule} {edit : Edit} (h : rule.edit = .ok edit) :
    edit.target? = rule.target? := by
  cases rule with
  | condition c field value attributes => exact Except.ok.inj h ▸ rfl
  | multiMatch fields value attributes => exact Except.ok.inj h ▸ rfl
  | range field values c =>
    obtain ⟨bounds, -, hedit⟩ := map_eq_ok_iff.1 h
    exact hedit ▸ rfl

namespace Edit

variable (edit : Edit)

theorem map_fst_condition? (c : Clause) :
    (edit.condition? c).map Prod.fst =
      (edit.target?.filter fun target => target.1 = .clause c).map Prod.snd := by
  cases edit with
  | condition c' field cond =>
    by_cases h : c' = c <;> simp [condition?, target?, Option.filter_some, h]
  | multiMatch m => rfl
  | range field range => rfl

theorem map_fst_range? :
    edit.range?.map Prod.fst =
      (edit.target?.filter fun target => target.1 = .range).map Prod.snd := by
  cases edit with
  | condition c field cond => simp [range?, target?, Option.filter_some]
  | multiMatch m => rfl
  | range field range => rfl

/-- An edit with a target is no multi-field match, which has none. -/
theorem multiMatch?_eq_none_of_target {target : RuleKind × String}
    (h : edit.target? = some target) : edit.multiMatch? = none := by
  refine multiMatch?_eq_none fun hkind => ?_
  cases edit with
  | multiMatch m => exact absurd h nofun
  | condition c field cond => exact absurd hkind nofun
  | range field range => exact absurd hkind nofun

end Edit

namespace Entry

/-- The rule that a live entry says. -/
def rule? (e : Entry) : Option Rule :=
  e.live?.bind fun (kind, args) => (Rule.ofArguments kind args).toOption

/-- The kind and field that a live entry is about. -/
def target? (e : Entry) : Option (RuleKind × String) := e.rule?.bind Rule.target?

/-- Two filter rules on one field with one value: only attributes may differ. -/
def SameFilter (e f : Entry) : Prop :=
  ∃ field value a b, e.rule? = some (.condition .filter field value a) ∧
    f.rule? = some (.condition .filter field value b)

/-- An entry that reads as a rule is live, and its edit is that of the rule. -/
theorem exists_live_of_rule? {e : Entry} {rule : Rule} (h : e.rule? = some rule) :
    ∃ kind args, e.live? = some (kind, args) ∧ kind.edit args = rule.edit := by
  obtain ⟨⟨kind, args⟩, hlive, hrule⟩ := Option.bind_eq_some_iff.1 h
  refine ⟨kind, args, hlive, ?_⟩
  rw [RuleKind.edit, toOption_eq_some_iff.1 hrule]

/-- An entry whose rule is not refused is accepted and makes the edit of it. -/
theorem accepted_of_rule? {e : Entry} {rule : Rule} {edit : Edit} (h : e.rule? = some rule)
    (hedit : rule.edit = .ok edit) : e.Accepted ∧ e.edit? = some edit := by
  obtain ⟨kind, args, hlive, hkind⟩ := exists_live_of_rule? h
  have hsome : e.edit? = some edit := by
    rw [edit?, hlive]
    exact toOption_eq_some_iff.2 (hkind.trans hedit)
  refine ⟨(accepted_iff e).2 ?_, hsome⟩
  rw [hsome, Entry.edit, hlive]
  show (kind.edit args).map some = _
  rw [hkind, hedit]
  rfl

/-- An entry that is live and accepted has an edit. -/
theorem Accepted.exists_edit {e : Entry} (h : e.Accepted) {kind : RuleKind} {args : Json}
    (hlive : e.live? = some (kind, args)) :
    ∃ edit, e.edit? = some edit ∧ kind.edit args = .ok edit := by
  have hedit := (accepted_iff e).1 h
  rw [Entry.edit, edit?, hlive] at hedit
  change (kind.edit args).map some = .ok (kind.edit args).toOption at hedit
  cases hkind : kind.edit args with
  | ok edit =>
    refine ⟨edit, ?_, rfl⟩
    rw [edit?, hlive]
    exact toOption_eq_some_iff.2 hkind
  | error error =>
    rw [hkind] at hedit
    exact absurd hedit nofun

/-- An accepted entry makes an edit about what the entry is about. -/
theorem Accepted.exists_edit_of_target {e : Entry} (h : e.Accepted)
    {target : RuleKind × String} (htarget : e.target? = some target) :
    ∃ edit, e.edit? = some edit ∧ edit.target? = some target := by
  obtain ⟨rule, hrule, hruleTarget⟩ := Option.bind_eq_some_iff.1 htarget
  obtain ⟨kind, args, hlive, hkind⟩ := exists_live_of_rule? hrule
  obtain ⟨edit, hedit, hok⟩ := h.exists_edit hlive
  exact ⟨edit, hedit, (Rule.target?_edit (hkind.symm.trans hok)).trans hruleTarget⟩

/-- Filter rules that differ in their attributes are accepted, and so do their
edits. -/
theorem SameFilter.edits {e f : Entry} (h : e.SameFilter f) :
    ∃ field value a b, e.edit? = some (.condition .filter field ⟨value, a⟩) ∧
      f.edit? = some (.condition .filter field ⟨value, b⟩) ∧ f.Accepted := by
  obtain ⟨field, value, a, b, he, hf⟩ := h
  exact ⟨field, value, a.getD .empty, b.getD .empty, (accepted_of_rule? he rfl).2,
    (accepted_of_rule? hf rfl).2, (accepted_of_rule? hf rfl).1⟩

/-- A filter that differs in its settings alone stays accepted. -/
theorem accepted_of_forall₂ {es fs : List Entry}
    (h : List.Forall₂ (fun e f => e = f ∨ e.SameFilter f) es fs)
    (haccepted : ∀ e ∈ es, e.Accepted) : ∀ f ∈ fs, f.Accepted := by
  -- on the two lists together: an entry is kept, or keeps all but its settings
  induction h with
  | nil => exact nofun
  | @cons e f es fs hef _ ih =>
    rw [List.forall_mem_cons] at haccepted ⊢
    refine ⟨?_, ih haccepted.2⟩
    rcases hef with rfl | hfilter
    · exact haccepted.1
    · obtain ⟨_, _, _, _, _, _, hf⟩ := hfilter.edits
      exact hf

end Entry

namespace Request

variable {config : Config} {r s : Request}

/-! ## What a document is written from -/

/-- Requests that are written from the same: under each clause the same fragments
other than ranges, and the same ranges in the end. -/
structure SameShown (config : Config) (r s : Request) : Prop where
  mainFragments : ∀ c, r.mainFragments config c = s.mainFragments config c
  ranges : lastWrites r.ranges = lastWrites s.ranges

theorem SameShown.document_eq (h : SameShown config r s) :
    r.document config = s.document config := by
  have hclauses : r.clauses config = s.clauses config := by
    simp only [clauses, h.mainFragments, h.ranges]
  have hfragments : ∀ c, r.fragments config c = s.fragments config c := by
    intro c
    rw [fragments, fragments, h.mainFragments, rangeFragments, rangeFragments, h.ranges]
  refine congrArg Document.mk (OrderedMap.ext ?_)
  show (r.clauses config).map (fun c => (c, r.fragments config c)) =
    (s.clauses config).map fun c => (c, s.fragments config c)
  simp only [hclauses, hfragments]

/-- The conditions of a clause and the multi-field matches decide on its
fragments other than ranges. -/
theorem mainFragments_congr {c : Clause}
    (hconditions : lastWrites (r.conditions c) = lastWrites (s.conditions c))
    (hmatches : r.multiMatches = s.multiMatches) :
    r.mainFragments config c = s.mainFragments config c := by
  cases c <;> simp only [mainFragments, hconditions, hmatches]

/-- A part of the edits, as a part of the entries. -/
theorem filterMap_edits {β : Type} (r : Request) (part? : Edit → Option β) :
    r.edits.filterMap part? = r.entries.filterMap fun e => e.edit?.bind part? :=
  List.filterMap_filterMap

/-! ## Conditions beside a multi-field match -/

/-- Requests that differ in entries of one kind only: such entries may have been
left out, put in or moved. -/
def SameBut (kind : String) (r s : Request) : Prop :=
  r.entries.filter (fun e => e.kind ≠ kind) = s.entries.filter (fun e => e.kind ≠ kind)

/-- A part of the edits that has nothing to do with that kind is the same. -/
theorem SameBut.filterMap_edits_eq {β : Type} {kind : RuleKind} (h : SameBut kind.name r s)
    {part? : Edit → Option β} (hpart : ∀ edit, edit.kind = kind → part? edit = none) :
    r.edits.filterMap part? = s.edits.filterMap part? := by
  have hkind : ∀ e : Entry, ¬e.kind ≠ kind.name → e.edit?.bind part? = none := by
    intro e he
    cases hedit : e.edit? with
    | none => rfl
    | some edit =>
      refine hpart edit (RuleKind.name_injective ?_)
      rw [← Entry.kind_of_edit? hedit]
      exact not_not.1 he
  rw [filterMap_edits, filterMap_edits, ← filterMap_filter_of_none hkind r.entries,
    ← filterMap_filter_of_none hkind s.entries, h]

/-- A live multi-field match is shown. -/
theorem multiMatches_ne_nil (haccepted : ∀ e ∈ r.entries, e.Accepted) {e : Entry}
    (he : e ∈ r.entries) {args : Json} (hlive : e.live? = some (.multiMatch, args)) :
    r.multiMatches ≠ [] := by
  obtain ⟨edit, hedit, hkind⟩ := (haccepted e he).exists_edit hlive
  cases edit with
  | condition c field cond => exact absurd (RuleKind.kind_edit hkind) nofun
  | range field range => exact absurd (RuleKind.kind_edit hkind) nofun
  | multiMatch m =>
    have hmem : m ∈ r.multiMatches :=
      List.mem_filterMap.2 ⟨.multiMatch m, List.mem_filterMap.2 ⟨e, he, hedit⟩, rfl⟩
    exact List.ne_nil_of_mem hmem

/-- Beside a multi-field match, entries under `must` do not show. -/
theorem SameBut.sameShown (h : SameBut "must" r s) (hmatches : r.multiMatches ≠ []) :
    SameShown config r s := by
  have hkind : SameBut (RuleKind.clause .must).name r s := h
  -- entries of the other kinds are the same, and these alone make multi-field matches
  have hmulti : r.multiMatches = s.multiMatches := by
    refine hkind.filterMap_edits_eq fun edit hmust => Edit.multiMatch?_eq_none ?_
    rw [hmust]
    exact nofun
  have hranges : r.ranges = s.ranges := by
    refine hkind.filterMap_edits_eq fun edit hmust => Edit.range?_eq_none ?_
    rw [hmust]
    exact nofun
  refine ⟨fun c => ?_, congrArg lastWrites hranges⟩
  by_cases hc : c = .must
  · -- the conditions may differ here, but they are not written
    rw [hc, Request.mainFragments, Request.mainFragments, ← hmulti,
      List.isEmpty_eq_false_iff.2 hmatches]
    rfl
  · have hconditions : r.conditions c = s.conditions c := by
      refine hkind.filterMap_edits_eq fun edit hmust => Edit.condition?_eq_none fun hclause => ?_
      exact hc (RuleKind.clause.inj (hclause.symm.trans hmust))
    exact mainFragments_congr (congrArg lastWrites hconditions) hmulti

/-! ## Entries that are overwritten -/

/-- An entry may be replaced by any about the same if a later one is, too. -/
theorem sameShown_of_overwritten {before after : List Entry} {e e' later : Entry}
    {target : RuleKind × String} (he : e.target? = some target)
    (haccepted : ∀ f ∈ before ++ e :: after, f.Accepted) (hlater : later ∈ after)
    (htarget : later.target? = some target) (he' : e'.target? = some target)
    (haccepted' : e'.Accepted) :
    SameShown config ⟨before ++ e :: after⟩ ⟨before ++ e' :: after⟩ := by
  obtain ⟨x, hx, hxt⟩ := (haccepted e (by simp)).exists_edit_of_target he
  obtain ⟨y, hy, hyt⟩ := haccepted'.exists_edit_of_target he'
  obtain ⟨z, hz, hzt⟩ := (haccepted later (by simp [hlater])).exists_edit_of_target htarget
  -- the three edits write under one key, so the first of them is lost in any case
  have hwrites : ∀ {α : Type} {write? : Edit → Option (String × α)} {p : RuleKind × String → Bool},
      (∀ edit : Edit, (write? edit).map Prod.fst = (edit.target?.filter p).map Prod.snd) →
        lastWrites ((Request.mk (before ++ e :: after)).edits.filterMap write?) =
          lastWrites ((Request.mk (before ++ e' :: after)).edits.filterMap write?) := by
    intro α write? p hwrite
    rw [filterMap_edits, filterMap_edits]
    refine OrderedMap.lastWrites_filterMap_shadowed hlater ?_ ?_
    · rw [hx, hz, Option.bind_some, Option.bind_some, hwrite, hwrite, hxt, hzt]
    · rw [hy, hz, Option.bind_some, Option.bind_some, hwrite, hwrite, hyt, hzt]
  have hmatches : (Request.mk (before ++ e :: after)).multiMatches =
      (Request.mk (before ++ e' :: after)).multiMatches := by
    rw [multiMatches, multiMatches, filterMap_edits, filterMap_edits]
    simp only [List.filterMap_append, List.filterMap_cons, hx, hy, Option.bind_some,
      x.multiMatch?_eq_none_of_target hxt, y.multiMatch?_eq_none_of_target hyt]
  exact ⟨fun c => mainFragments_congr (hwrites fun edit => edit.map_fst_condition? c) hmatches,
    hwrites Edit.map_fst_range?⟩

/-! ## Attributes of filter rules -/

theorem filterMap_eq_of_forall₂ {α β γ : Type} {R : α → β → Prop} {xs : List α} {ys : List β}
    (h : List.Forall₂ R xs ys) {f : α → Option γ} {g : β → Option γ}
    (hfg : ∀ x y, R x y → f x = g y) : xs.filterMap f = ys.filterMap g := by
  induction h with
  | nil => rfl
  | @cons x y xs ys hxy _ ih => rw [List.filterMap_cons, List.filterMap_cons, hfg x y hxy, ih]

/-- Where they are not merged, attributes of filter rules do not show. -/
theorem sameShown_of_sameFilter (hmerge : config.mergeFilterAttributes = false)
    (h : List.Forall₂ (fun e f => e = f ∨ e.SameFilter f) r.entries s.entries) :
    SameShown config r s := by
  -- what does not look at the settings of a filter sees no difference
  have hparts : ∀ {β : Type} {part? : Edit → Option β},
      (∀ field value a b, part? (.condition .filter field ⟨value, a⟩) =
        part? (.condition .filter field ⟨value, b⟩)) →
        r.edits.filterMap part? = s.edits.filterMap part? := by
    intro β part? hpart
    rw [filterMap_edits, filterMap_edits]
    refine filterMap_eq_of_forall₂ h fun e f hef => ?_
    rcases hef with rfl | hfilter
    · rfl
    · obtain ⟨field, value, a, b, he, hf, -⟩ := hfilter.edits
      rw [he, hf]
      exact hpart field value a b
  have hmatches : r.multiMatches = s.multiMatches := hparts fun _ _ _ _ => rfl
  refine ⟨fun c => ?_, congrArg lastWrites (hparts fun _ _ _ _ => rfl)⟩
  by_cases hc : c = .filter
  · -- the conditions may differ here, but the same is written of them
    have hvalues : (r.conditions .filter).map (fun p => (p.1, p.2.value)) =
        (s.conditions .filter).map fun p => (p.1, p.2.value) := by
      rw [conditions, conditions, List.map_filterMap, List.map_filterMap]
      exact hparts fun _ _ _ _ => rfl
    have hwritten : ∀ t : Request, t.mainFragments config .filter =
        (lastWrites ((t.conditions .filter).map fun p => (p.1, p.2.value))).map
          fun p => Fragment.leaf "term" p.1 p.2 := by
      intro t
      rw [OrderedMap.lastWrites_map, List.map_map, Request.mainFragments, hmerge]
      rfl
    rw [hc, hwritten, hwritten, hvalues]
  · have hne : Clause.filter ≠ c := fun heq => hc heq.symm
    refine mainFragments_congr (congrArg lastWrites (hparts fun _ _ _ _ => ?_)) hmatches
    rw [Edit.condition?, Edit.condition?, if_neg hne, if_neg hne]

end Request

namespace Compiler

variable {config : Config} {r s : Request} {document : Document}

/-- A request that shows the same and is accepted compiles to the same document. -/
theorem build_eq_ok_of_sameShown (hlimit : config.maxRules = none)
    (h : (withConfig config).build r = .ok document)
    (haccepted : ∀ e ∈ s.entries, e.Accepted) (hshown : Request.SameShown config r s) :
    (withConfig config).build s = .ok document := by
  obtain ⟨-, -, rfl⟩ := build_withConfig_eq_ok_iff.1 h
  rw [build_eq_ok_document (Request.withinLimit_of_eq_none hlimit s) haccepted,
    ← hshown.document_eq]
  exact congrArg Except.ok (r.render_replay config).symm

/-- What is shadowed may be replaced and the document stays the same, with its
clauses, fragments and keys in order. Beside a multi-field match that is every
entry under `must`, which may be left out or put in anywhere; otherwise it is an
entry that has a later one of its kind and field, and the attributes of filter
rules if they are not merged. -/
theorem build_eq_ok_of_shadowed (hlimit : config.maxRules = none)
    (h : (withConfig config).build r = .ok document) :
    ((∃ e ∈ r.entries, ∃ args, e.live? = some (.multiMatch, args)) →
      ∀ s : Request, Request.SameBut "must" r s →
        (∀ e ∈ s.entries, e.kind = "must" → e ∈ r.entries ∨ e.Accepted) →
        (withConfig config).build s = .ok document) ∧
    (∀ before e after later e' target, r.entries = before ++ e :: after →
      e.target? = some target → later ∈ after → later.target? = some target →
      e'.target? = some target → e'.Accepted →
      (withConfig config).build ⟨before ++ e' :: after⟩ = .ok document) ∧
    (config.mergeFilterAttributes = false → ∀ s : Request,
      List.Forall₂ (fun e f => e = f ∨ e.SameFilter f) r.entries s.entries →
      (withConfig config).build s = .ok document) := by
  obtain ⟨-, haccepted, -⟩ := build_withConfig_eq_ok_iff.1 h
  refine ⟨?_, ?_, ?_⟩
  · rintro ⟨e, he, args, hlive⟩ s hsame hmusts
    refine build_eq_ok_of_sameShown hlimit h (fun f hf => ?_)
      (hsame.sameShown (Request.multiMatches_ne_nil haccepted he hlive))
    by_cases hkind : f.kind = "must"
    · exact (hmusts f hf hkind).elim (haccepted f) id
    · -- an entry of another kind is one of the first request
      have hfilter : f ∈ r.entries.filter fun e => e.kind ≠ "must" :=
        hsame ▸ List.mem_filter.2 ⟨hf, decide_eq_true hkind⟩
      exact haccepted f (List.mem_filter.1 hfilter).1
  · intro before e after later e' target hentries he hlater htarget he' haccepted'
    obtain rfl : r = ⟨before ++ e :: after⟩ := congrArg Request.mk hentries
    refine build_eq_ok_of_sameShown hlimit h (fun f hf => ?_)
      (Request.sameShown_of_overwritten he haccepted hlater htarget he' haccepted')
    -- every entry but the one that was put in was accepted before
    rcases List.mem_append.1 hf with hf | hf
    · exact haccepted f (List.mem_append_left _ hf)
    · rcases List.mem_cons.1 hf with rfl | hf
      · exact haccepted'
      · exact haccepted f (List.mem_append_right _ (List.mem_cons_of_mem e hf))
  · intro hmerge s hfilters
    exact build_eq_ok_of_sameShown hlimit h (Entry.accepted_of_forall₂ hfilters haccepted)
      (Request.sameShown_of_sameFilter hmerge hfilters)

/-- A condition beside a multi-field match that is left out, a range that named
another clause before it was overwritten, and a filter that loses its
attributes. -/
theorem build_eq_ok_of_shadowed_each :
    let matched : Entry := Rule.entry (.multiMatch ["title"] (.string "lean") none)
    let must : Entry := Rule.entry (.condition .must "title" .null none)
    let range : List Json → Clause → Entry :=
      fun values c => Rule.entry (.range "price" values c)
    let last : Entry := range [.string "gte", .null] .mustNot
    let filter : Option Attributes → Entry :=
      fun attributes => Rule.entry (.condition .filter "tag" (.bool true) attributes)
    let settings : Attributes := .ofList [("boost", .null)]
    let r : Request := ⟨[must, range [] .should, matched, last, filter (some settings)]⟩
    ∃ document, (withConfig .default).build r = .ok document ∧
      (withConfig .default).build
        ⟨[range [] .should, matched, last, filter (some settings)]⟩ = .ok document ∧
      (withConfig .default).build
        ⟨[must, range [.string "lt", .null] .filter, matched, last, filter (some settings)]⟩ =
          .ok document ∧
      (withConfig .default).build
        ⟨[must, range [] .should, matched, last, filter none]⟩ = .ok document := by
  intro matched must range last filter settings r
  obtain ⟨document, h⟩ : ∃ document, (withConfig .default).build r = .ok document := ⟨_, rfl⟩
  have hlimit : Config.default.maxRules = none := rfl
  obtain ⟨hmusts, hoverwritten, hattributes⟩ := build_eq_ok_of_shadowed hlimit h
  refine ⟨document, h, ?_, ?_, ?_⟩
  · refine hmusts ⟨matched, ?_, _, rfl⟩ _ rfl fun e he _ => Or.inl ?_
    · simp [r]
    · exact List.mem_cons_of_mem must he
  · refine hoverwritten [must] (range [] .should) _ last (range [.string "lt", .null] .filter)
      (.range, "price") rfl rfl ?_ rfl rfl ?_
    · simp
    · exact (Entry.accepted_of_rule? rfl rfl).1
  · have hfilter : (filter (some settings)).SameFilter (filter none) :=
      ⟨"tag", .bool true, _, _, rfl, rfl⟩
    exact hattributes rfl _ (.cons (.inl rfl) (.cons (.inl rfl) (.cons (.inl rfl)
      (.cons (.inl rfl) (.cons (.inr hfilter) .nil)))))

end Compiler

end SearchRules
