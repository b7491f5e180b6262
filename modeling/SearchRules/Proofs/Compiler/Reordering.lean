import Mathlib.Data.List.Perm.Basic
import SearchRules.Proofs.Compiler.Outcome
import SearchRules.Proofs.Rule.Named

/-!
# Only the order within a kind matters

Entries of different kinds may be moved past each other. An entry writes into the
part of the draft that belongs to its kind, and no other kind writes there, so
the draft is the same for every way of mixing the kinds. The document is written
from the draft alone and in an order of its own; it does not tell in which order
entries of different kinds came. Only an error tells: it is that of the first
entry refused.

> `Entry.kind_of_edit?`: an edit belongs to the kind of its entry.
>
> `SameByKind.replay_eq`: requests that agree kind by kind leave one draft.
>
> `build_eq_ok_iff_of_sameByKind`: they are compiled to one document, or neither
> is compiled.
-/

namespace SearchRules

/-! ## The kind of an edit -/

/-- The kind of the rules that make an edit. -/
def Edit.kind : Edit → RuleKind
  | .condition c _ _ => .clause c
  | .multiMatch _ => .multiMatch
  | .range _ _ => .range

namespace Edit

variable {edit : Edit}

theorem condition?_eq_none {c : Clause} (h : edit.kind ≠ .clause c) : edit.condition? c = none := by
  cases edit with
  | condition c' field cond => exact if_neg fun hc => h (congrArg RuleKind.clause hc)
  | multiMatch m => rfl
  | range field bounds => rfl

theorem multiMatch?_eq_none (h : edit.kind ≠ .multiMatch) : edit.multiMatch? = none := by
  cases edit with
  | multiMatch m => exact absurd rfl h
  | condition c field cond => rfl
  | range field bounds => rfl

theorem range?_eq_none (h : edit.kind ≠ .range) : edit.range? = none := by
  cases edit with
  | range field bounds => exact absurd rfl h
  | condition c field cond => rfl
  | multiMatch m => rfl

end Edit

/-- The edit of a rule is of its kind. -/
theorem Rule.kind_edit {rule : Rule} {edit : Edit} (h : rule.edit = .ok edit) :
    edit.kind = rule.kind := by
  cases rule with
  | condition c field value attributes => exact Except.ok.inj h ▸ rfl
  | multiMatch fields value attributes => exact Except.ok.inj h ▸ rfl
  | range field values c =>
    obtain ⟨bounds, -, hedit⟩ := map_eq_ok_iff.1 h
    exact hedit ▸ rfl

/-- Arguments are read as a rule of the kind that they were given for. -/
theorem Rule.kind_ofArguments {kind : RuleKind} {args : Json} {rule : Rule}
    (h : Rule.ofArguments kind args = .ok rule) : rule.kind = kind := by
  cases kind with
  | clause c =>
    obtain ⟨_, _, hrule⟩ := bind_eq_ok_iff.1 h
    exact Except.ok.inj hrule ▸ rfl
  | multiMatch =>
    obtain ⟨_, _, hrule⟩ := bind_eq_ok_iff.1 h
    exact Except.ok.inj hrule ▸ rfl
  | range =>
    obtain ⟨_, _, hrule⟩ := bind_eq_ok_iff.1 h
    exact Except.ok.inj hrule ▸ rfl

/-- The edit of an entry is of the kind that the entry names. -/
theorem RuleKind.kind_edit {kind : RuleKind} {args : Json} {edit : Edit}
    (h : kind.edit args = .ok edit) : edit.kind = kind := by
  rw [RuleKind.edit] at h
  cases hrule : Rule.ofArguments kind args with
  | error error =>
    rw [hrule] at h
    exact absurd h nofun
  | ok rule =>
    rw [hrule] at h
    exact (Rule.kind_edit h).trans (Rule.kind_ofArguments hrule)

/-- An entry makes edits of its own kind only. -/
theorem Entry.kind_of_edit? {e : Entry} {edit : Edit} (h : e.edit? = some edit) :
    e.kind = edit.kind.name := by
  obtain ⟨⟨kind, args⟩, hlive, hedit⟩ := Option.bind_eq_some_iff.1 h
  rw [RuleKind.kind_edit (toOption_eq_some_iff.1 hedit)]
  exact (live?_eq_some_iff.1 hlive).2.2

/-! ## Requests that agree kind by kind -/

namespace Request

/-- The entries of each kind are the same, in the same order: one request is the
other with entries of different kinds moved past each other. -/
def SameByKind (r s : Request) : Prop :=
  ∀ kind, r.entries.filter (fun e => e.kind = kind) = s.entries.filter (fun e => e.kind = kind)

/-- What is made of some entries only looks at those alone. -/
theorem filterMap_filter_of_none {β : Type} {p : Entry → Prop} [DecidablePred p]
    {part? : Entry → Option β} (hpart : ∀ e, ¬p e → part? e = none) (entries : List Entry) :
    (entries.filter fun e => p e).filterMap part? = entries.filterMap part? := by
  rw [List.filterMap_filter]
  refine List.filterMap_congr fun e _ => ?_
  by_cases he : p e
  · simp [he]
  · simp [he, hpart e he]

namespace SameByKind

variable {r s : Request}

theorem perm (h : r.SameByKind s) : r.entries.Perm s.entries := by
  classical
  refine List.perm_iff_count.2 fun e => ?_
  have hcount : ∀ entries : List Entry,
      (entries.filter fun f => f.kind = e.kind).count e = entries.count e :=
    fun entries => List.count_filter (by simp)
  rw [← hcount, h e.kind, hcount]

/-- A part of the edits that belongs to one kind is the same for both. -/
theorem filterMap_edits_eq {β : Type} (h : r.SameByKind s) (kind : RuleKind)
    {part? : Edit → Option β} (hpart : ∀ edit, edit.kind ≠ kind → part? edit = none) :
    (r.entries.filterMap Entry.edit?).filterMap part? =
      (s.entries.filterMap Entry.edit?).filterMap part? := by
  -- entries of other kinds have no such part, so only those of the kind count
  have hother : ∀ e : Entry, e.kind ≠ kind.name → e.edit?.bind part? = none := by
    intro e he
    cases hedit : e.edit? with
    | none => rfl
    | some edit =>
      refine hpart edit fun hkind => he ?_
      rw [Entry.kind_of_edit? hedit, hkind]
  rw [List.filterMap_filterMap, List.filterMap_filterMap,
    ← filterMap_filter_of_none hother r.entries, ← filterMap_filter_of_none hother s.entries,
    h kind.name]

/-- Requests that agree kind by kind leave one draft. -/
theorem replay_eq (h : r.SameByKind s) (d : Draft) :
    d.replay (r.entries.filterMap Entry.edit?) = d.replay (s.entries.filterMap Entry.edit?) := by
  refine Draft.replay_congr (fun c => ?_) ?_ ?_ d
  · exact h.filterMap_edits_eq (.clause c) fun _ => Edit.condition?_eq_none
  · exact h.filterMap_edits_eq .multiMatch fun _ => Edit.multiMatch?_eq_none
  · exact h.filterMap_edits_eq .range fun _ => Edit.range?_eq_none

end SameByKind

end Request

namespace Compiler

/-- If entries of different kinds are moved past each other, a request compiles
if and only if it did before, and to the same document. -/
theorem build_eq_ok_iff_of_sameByKind (config : Config) {r s : Request}
    (h : r.SameByKind s) (document : Document) :
    (withConfig config).build r = .ok document ↔ (withConfig config).build s = .ok document := by
  have hsize : r.size = s.size := h.perm.length_eq
  have hlimit : r.WithinLimit config ↔ s.WithinLimit config := by
    rw [Request.WithinLimit, Request.WithinLimit, hsize]
  have haccepted : (∀ e ∈ r.entries, e.Accepted) ↔ ∀ e ∈ s.entries, e.Accepted :=
    forall_congr' fun e => imp_congr_left h.perm.mem_iff
  rw [build_withConfig_eq_ok_iff, build_withConfig_eq_ok_iff, hlimit, haccepted, h.replay_eq]

/-- A range that moves from one clause to another, on either side of a condition
that shares its second clause. -/
theorem build_eq_ok_iff_of_moved_range :
    let range : List Json → Clause → Entry :=
      fun values c => Rule.entry (.range "price" values c)
    let must : Entry := Rule.entry (.condition .must "title" .null none)
    let r : Request := ⟨[range [] .filter, must, range [.string "gte", .null] .must]⟩
    let s : Request := ⟨[must, range [] .filter, range [.string "gte", .null] .must]⟩
    r.SameByKind s ∧
      ∃ document, (withConfig .default).build r = .ok document ∧
        (withConfig .default).build s = .ok document := by
  intro range must r s
  have h : r.SameByKind s := by
    intro kind
    by_cases hrange : "range" = kind
    · subst hrange
      rfl
    by_cases hmust : "must" = kind
    · subst hmust
      rfl
    simp [r, s, range, must, Rule.entry, Rule.kind, RuleKind.name, Clause.name, hrange, hmust]
  obtain ⟨document, hdocument⟩ : ∃ document, (withConfig .default).build r = .ok document :=
    ⟨_, rfl⟩
  exact ⟨h, document, hdocument, (build_eq_ok_iff_of_sameByKind .default h document).1 hdocument⟩

end Compiler

end SearchRules
