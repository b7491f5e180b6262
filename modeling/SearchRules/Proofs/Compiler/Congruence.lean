import SearchRules.Proofs.Compiler.Outcome
import SearchRules.Proofs.Rule.Alike

/-!
# Compilation respects equality of requests

Equal requests may differ in the order of members anywhere inside their
arguments, and that order shows while they are compiled. It does not show in
what comes out: entries that are equal make equal edits or are refused alike, so
equal requests either become equal documents or fail in the same way.

> `Entry.Alike.edit`: one entry of a run.
>
> `Entry.edits_alike`: a run, by induction on the entries.
>
> `Compiler.build_congr`: the whole compilation. Documents of equal requests
> even list their clauses in the same order, with as many fragments under each.
-/

namespace SearchRules

/-- Entries of one kind with equal arguments. -/
structure Entry.Alike (e f : Entry) : Prop where
  kind : e.kind = f.kind
  args : Option.Rel Json.Alike e.args f.args

/-- Only `null` equals `null`. -/
theorem Json.Alike.isNull_eq {v w : Json} (h : v.Alike w) : v.isNull = w.isNull := by
  cases h.view <;> rfl

namespace Entry

/-- Equality of entries is equality of kinds and of arguments. -/
theorem alike_of_equiv {e f : Entry} (he : ∀ v ∈ e.args, v.WellFormed)
    (hf : ∀ v ∈ f.args, v.WellFormed) (h : e.equiv f = true) : e.Alike f := by
  obtain ⟨kind, args⟩ := e
  obtain ⟨kind', args'⟩ := f
  rw [equiv, Bool.and_eq_true, beq_iff_eq] at h
  obtain ⟨hkind, hargs⟩ := h
  refine ⟨hkind, ?_⟩
  cases args with
  | none =>
    cases args' with
    | none => exact .none
    | some w => exact absurd hargs nofun
  | some v =>
    cases args' with
    | none => exact absurd hargs nofun
    | some w => exact .some ⟨he v rfl, hf w rfl, hargs⟩

/-- Equality of requests is equality of their entries in turn. -/
theorem forall₂_alike_of_equiv {es fs : List Entry}
    (hes : ∀ e ∈ es, ∀ v ∈ e.args, v.WellFormed) (hfs : ∀ f ∈ fs, ∀ v ∈ f.args, v.WellFormed)
    (h : Request.entriesEquiv es fs = true) : List.Forall₂ Entry.Alike es fs := by
  -- on the two lists together; if one is longer, they are not equal
  induction es generalizing fs with
  | nil =>
    cases fs with
    | nil => exact .nil
    | cons f others => exact absurd h nofun
  | cons e rest ih =>
    cases fs with
    | nil => exact absurd h nofun
    | cons f others =>
      rw [Request.entriesEquiv, Bool.and_eq_true] at h
      rw [List.forall_mem_cons] at hes hfs
      exact .cons (alike_of_equiv hes.1 hfs.1 h.1) (ih hes.2 hfs.2 h.2)

namespace Alike

variable {e f : Entry}

theorem arguments (h : e.Alike f) : Option.Rel Json.Alike e.arguments f.arguments := by
  refine rel_filter h.args fun {v w} hvw => ?_
  rw [hvw.isNull_eq]

/-- Equal entries are passed over together. -/
theorem live? (h : e.Alike f) : Option.Rel (Paired Json.Alike) e.live? f.live? := by
  refine rel_bind h.arguments fun {v w} hvw => ?_
  rw [h.kind]
  cases RuleKind.ofName? f.kind with
  | none => exact .none
  | some kind => exact .some ⟨rfl, hvw⟩

/-- Equal entries make equal edits, or are refused alike. -/
theorem edit (h : e.Alike f) : SameOutcome (Option.Rel Edit.Alike) e.edit f.edit := by
  have hlive := h.live?
  unfold Entry.edit
  generalize e.live? = a at hlive ⊢
  generalize f.live? = b at hlive ⊢
  -- both are passed over, or both go to one kind with equal arguments
  cases hlive with
  | none => exact .ok .none
  | @some p q hpq =>
    obtain ⟨kind, v⟩ := p
    obtain ⟨kind', w⟩ := q
    obtain ⟨rfl, hvw⟩ : kind = kind' ∧ Json.Alike v w := hpq
    exact (kind.edit_alike hvw).map .some

end Alike

/-- Entries that are equal one by one make edits that are, or are refused alike. -/
theorem edits_alike {es fs : List Entry} (h : List.Forall₂ Entry.Alike es fs) :
    SameOutcome (List.Forall₂ Edit.Alike) (edits es) (edits fs) := by
  induction h with
  | nil => exact .ok .nil
  | @cons e f es fs hef _ ih =>
    rw [edits, edits]
    -- the first entries may both be refused, and so may the others
    refine hef.edit.bind fun hrel => ih.bind fun hmore => .ok ?_
    cases hrel with
    | none => exact hmore
    | some hxy => exact .cons hxy hmore

end Entry

namespace Compiler

variable {a b : Request}

/-- Requests whose entries are equal in turn have the same outcome. -/
theorem sameOutcome_build (config : Config)
    (h : List.Forall₂ Entry.Alike a.entries b.entries) :
    SameOutcome Document.Alike ((withConfig config).build a) ((withConfig config).build b) := by
  -- the limit counts entries, and there are as many
  have hlimit : (withConfig config).limitError? a = (withConfig config).limitError? b := by
    have hsize : a.size = b.size := h.length_eq
    rw [limitError?, limitError?, hsize]
  rw [build_eq, build_eq, hlimit, run_withConfig, run_withConfig]
  cases (withConfig config).limitError? b with
  | some error => exact .error error.sameButReason_refl
  | none =>
    refine SameOutcome.map (R := Draft.Alike) ?_ fun hdrafts => hdrafts.render config
    exact (Entry.edits_alike h).map fun hedits => Draft.Alike.replay hedits Draft.alike_empty

/-- Equal requests are compiled to equal documents, which list the same clauses
in the same order with as many fragments under each, or both are refused for the
same cause; only the reason why arguments cannot be read may differ. -/
theorem build_congr (config : Config) (a b : WellFormedRequest)
    (h : a.equiv b.toRequest = true) :
    (∃ d e, (withConfig config).build a.toRequest = .ok d ∧
      (withConfig config).build b.toRequest = .ok e ∧ d.equiv e = true ∧
      d.clauses.entries.map (fun p => (p.1, p.2.length)) =
        e.clauses.entries.map (fun p => (p.1, p.2.length))) ∨
    ∃ x y, (withConfig config).build a.toRequest = .error x ∧
      (withConfig config).build b.toRequest = .error y ∧ x.SameButReason y := by
  have hentries : List.Forall₂ Entry.Alike a.entries b.entries :=
    Entry.forall₂_alike_of_equiv a.wellFormed b.wellFormed h
  have houtcome : SameOutcome Document.Alike ((withConfig config).build a.toRequest)
      ((withConfig config).build b.toRequest) := sameOutcome_build config hentries
  generalize (withConfig config).build a.toRequest = x at houtcome ⊢
  generalize (withConfig config).build b.toRequest = y at houtcome ⊢
  cases houtcome with
  | ok hdocuments => exact Or.inl ⟨_, _, rfl, rfl, hdocuments.equiv, hdocuments.counts⟩
  | error hreason => exact Or.inr ⟨_, _, rfl, rfl, hreason⟩

/-- Members in another order, at two depths. -/
theorem build_congr_reordered :
    let a : WellFormedRequest := ⟨⟨[⟨"must", some (.object [("field", .string "title"),
      ("value", .null), ("attributes", .object [("boost", .null), ("lenient", .bool true)])])⟩]⟩,
      by decide⟩
    let b : WellFormedRequest := ⟨⟨[⟨"must", some (.object [
      ("attributes", .object [("lenient", .bool true), ("boost", .null)]), ("value", .null),
      ("field", .string "title")])⟩]⟩, by decide⟩
    a.equiv b.toRequest = true ∧
      ∃ d e, (withConfig .default).build a.toRequest = .ok d ∧
        (withConfig .default).build b.toRequest = .ok e ∧ d.equiv e = true := by
  intro a b
  refine ⟨rfl, ?_⟩
  rcases build_congr .default a b rfl with ⟨d, e, hd, he, hequiv, _⟩ | ⟨x, _, hx, _⟩
  · exact ⟨d, e, hd, he, hequiv⟩
  · obtain ⟨d, hd⟩ : ∃ d, (withConfig .default).build a.toRequest = .ok d := ⟨_, rfl⟩
    rw [hd] at hx
    exact absurd hx nofun

end Compiler

end SearchRules
