import SearchRules.Proofs.Compiler.Script

/-!
# Entries that are passed over

An entry without arguments, and an entry of a kind that the compiler does not
support, leave the draft as it is. Such entries can be put in and taken out
anywhere in a request, also next to an entry that is refused. A handler does not
notice, whatever it makes of the draft: it is called with the same draft either
way. The limit notices, because it counts all entries.

> `outcome_step_of_not_handles`: one entry that is passed over.
>
> `run_filter_handles`: a run without such entries, by induction on the entries.
>
> `build_eq_of_handled_eq`: requests that are left with the same entries compile
> to the same outcome, unless the limit refuses one of them.
-/

namespace SearchRules.Compiler

/-- Whether the compiler calls a handler for an entry: it has arguments, and its
kind is supported. -/
def handles (c : Compiler) (e : Entry) : Bool := !e.isAbsent && c.supports e.kind

/-- The entries of a request that a handler is called for. -/
def handled (c : Compiler) (r : Request) : List Entry := r.entries.filter c.handles

variable {c : Compiler}

/-- An entry is not handled if it has no arguments or its kind is unknown. -/
theorem handles_eq_false_iff {e : Entry} :
    c.handles e = false ↔ e.arguments = none ∨ c.handler? e.kind = none := by
  unfold handles supports Entry.isAbsent
  cases e.arguments <;> cases c.handler? e.kind <;> simp

/-- An entry that is not handled leaves the draft as it is. -/
theorem outcome_step_of_not_handles {e : Entry} (h : c.handles e = false) (d : Draft) :
    (c.step e).outcome d = .ok d := by
  unfold step
  rcases handles_eq_false_iff.1 h with hargs | hhandler
  · rw [hargs]
    rfl
  · -- whatever the arguments are, there is no handler to call with them
    rw [hhandler]
    cases e.arguments <;> rfl

/-- Entries that are passed over do not change what comes out of a run. -/
theorem run_filter_handles (d : Draft) (entries : List Entry) :
    (c.run d (entries.filter c.handles)).2 = (c.run d entries).2 := by
  -- on the entries, for whatever draft the earlier ones left
  induction entries generalizing d with
  | nil => rfl
  | cons e rest ih =>
    cases he : c.handles e with
    | false =>
      have hskip : (c.run d (e :: rest)).2 = (c.run d rest).2 := by
        rw [run_cons, outcome_step_of_not_handles he]
        rfl
      rw [List.filter_cons_of_neg (by simp [he]), hskip]
      exact ih d
    | true =>
      rw [List.filter_cons_of_pos he, run_cons, run_cons]
      exact congrArg _ (funext ih)

/-- The outcome is that of a run over the handled entries alone. -/
theorem build_eq_run_handled {r : Request} (h : r.WithinLimit c.config) :
    c.build r = (c.run .empty (c.handled r)).2.map fun d => d.render c.config := by
  rw [build_of_withinLimit h, handled, run_filter_handles]

/-- What an entry that is passed over can change. If two requests are left with
the same entries once all entries that are passed over are removed, and neither
has too many entries, they compile to the same document or fail with the same
error. All entries count towards the limit, and so two outcomes differ only where
the limit refuses one of the requests. -/
theorem build_eq_of_handled_eq {r s : Request} (h : c.handled r = c.handled s) :
    (r.WithinLimit c.config → s.WithinLimit c.config → c.build r = c.build s) ∧
    (∀ limit, c.config.maxRules = some limit → limit < r.size →
      c.build r = .error (.tooManyRules r.size limit)) ∧
    (c.build r ≠ c.build s → ∃ q ∈ [r, s], ∃ limit, c.config.maxRules = some limit ∧
      limit < q.size ∧ c.build q = .error (.tooManyRules q.size limit)) := by
  have hsame : r.WithinLimit c.config → s.WithinLimit c.config → c.build r = c.build s := by
    intro hr hs
    rw [build_eq_run_handled hr, build_eq_run_handled hs, h]
  refine ⟨hsame, fun limit hlimit hlt => build_of_limit_lt hlimit hlt, fun hne => ?_⟩
  -- one of the two must be over the limit
  have hover : ∃ q ∈ [r, s], ¬q.WithinLimit c.config := by
    by_cases hr : r.WithinLimit c.config
    · exact ⟨s, by simp, fun hs => hne (hsame hr hs)⟩
    · exact ⟨r, by simp, hr⟩
  obtain ⟨q, hq, hover⟩ := hover
  obtain ⟨limit, hlimit, hlt⟩ := Request.exists_limit_lt hover
  exact ⟨q, hq, limit, hlimit, hlt, build_of_limit_lt hlimit hlt⟩

/-- A handler that drafts what it finds in the draft. An entry of no known kind
between two others does not show; with one more that is absent, it is one entry
too many. -/
theorem build_eq_of_handled_eq_fields :
    let fields : Handler := fun _ => do
      let d ← get
      DraftM.condition .should "seen" (.array (d.filters.keys.map .string)) .empty
    let c := (withConfig (Config.default.withMaxRules 3)).withHandler "fields" fields
    let filter : Entry := Rule.entry (.condition .filter "status" .null none)
    let call : Entry := ⟨"fields", some (.bool true)⟩
    let sort : Entry := ⟨"sort", some (.bool true)⟩
    let r : Request := ⟨[filter, call]⟩
    let s : Request := ⟨[filter, sort, call]⟩
    let t : Request := ⟨[⟨"fields", none⟩, filter, sort, call]⟩
    c.handled r = c.handled s ∧ c.handled t = c.handled s ∧
      r.WithinLimit c.config ∧ s.WithinLimit c.config ∧
      c.build r = c.build s ∧ c.build t = .error (.tooManyRules 4 3) := by
  intro fields c filter call sort r s t
  have hlimit : ∀ q : Request, q.size ≤ 3 → q.WithinLimit c.config := by
    intro q hq limit h
    rw [← Option.some.inj h]
    exact hq
  have hr : r.WithinLimit c.config := hlimit r (by decide)
  have hs : s.WithinLimit c.config := hlimit s (by decide)
  have hrs : c.handled r = c.handled s := rfl
  have hts : c.handled t = c.handled s := rfl
  exact ⟨hrs, hts, hr, hs, (build_eq_of_handled_eq hrs).1 hr hs,
    (build_eq_of_handled_eq hts).2.1 3 rfl (by decide)⟩

end SearchRules.Compiler
