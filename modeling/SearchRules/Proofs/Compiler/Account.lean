import SearchRules.Proofs.Compiler.Skipped
import SearchRules.Proofs.Draft.Layout

/-!
# The log as an account of a compilation

What a compilation logs can be said without running it again. Entries are gone
through in order. One that is passed over leaves a line, one that a handler
accepts leaves none, and the first that is rejected leaves the last line. If no
entry is rejected, the last line sums the document up. Over the limit nothing is
logged at all.

That the summary speaks of the document needs an argument. An early end is
decided on the draft, before there is a document, and the two agree because an
empty document is written from an empty draft only (`line_finish`).

> `Accounts`: the lines and the outcome that belong to a request, case by case.
>
> `logRun_append_of_runs`: the lines of a run, by induction on the run.
>
> `accounts_iff_trace`: the account of a request is what its compilation logs
> and what comes out of it, and there is no other.
-/

namespace SearchRules

/-- A line of the log. -/
structure LogLine where
  /-- How much the line matters. -/
  level : Level
  /-- What the line says. -/
  text : String
  /-- The fields of the line, by name. -/
  fields : List (String × String)

/-- The line that an event is logged as. -/
def Event.line (event : Event) : LogLine := ⟨event.level, event.text, event.fields⟩

/-- The line for an entry that is rejected. -/
def Entry.rejectionLine (e : Entry) (error : RuleError) : LogLine :=
  ⟨.warn, "Rule rejected", [("rule", e.kind), ("error", error.message)]⟩

/-- The line that sums a document up. -/
def Document.summaryLine (document : Document) : LogLine :=
  if document.isEmpty then ⟨.debug, "No rules to compile", []⟩
  else ⟨.debug, "Compiled rule request",
    [("clauses", toString document.size), ("fragments", toString document.fragmentCount)]⟩

namespace Compiler

/-- The lines for an entry that is not rejected. Whether it has arguments is
looked at before its kind. -/
def entryLines (c : Compiler) (e : Entry) : List LogLine :=
  if e.isAbsent then [⟨.debug, "Skipping rule without arguments", [("rule", e.kind)]⟩]
  else if c.supports e.kind then []
  else [⟨.debug, "Ignoring unrecognized rule kind", [("rule", e.kind)]⟩]

/-- An entry has a handler, which is called on a draft with this outcome. -/
def Calls (c : Compiler) (e : Entry) (d : Draft) (outcome : Except RuleError Unit × Draft) :
    Prop :=
  ∃ args handler, e.arguments = some args ∧ c.handler? e.kind = some handler ∧
    (handler args).exec d = outcome

/-- None of the entries is rejected, and together they make one draft of another. -/
inductive Runs (c : Compiler) : Draft → List Entry → Draft → Prop
  | nil (d : Draft) : Runs c d [] d
  | passed {d d' : Draft} {e : Entry} {rest : List Entry} :
    c.handles e = false → Runs c d rest d' → Runs c d (e :: rest) d'
  | accepted {d d₁ d' : Draft} {e : Entry} {rest : List Entry} :
    c.Calls e d (.ok (), d₁) → Runs c d₁ rest d' → Runs c d (e :: rest) d'

/-- The lines that are logged for a request, and what comes out of it. -/
inductive Accounts (c : Compiler) (r : Request) :
    List LogLine → Except RuleError Document → Prop
  /-- There are more entries than the limit allows. -/
  | overLimit {limit : Nat} (hlimit : c.config.maxRules = some limit) (hlt : limit < r.size) :
    Accounts c r [] (.error (.tooManyRules r.size limit))
  /-- An entry is rejected, and none before it. Nothing follows its line. -/
  | rejected {before after : List Entry} {e : Entry} {d d' : Draft} {error : RuleError}
    (hlimit : r.WithinLimit c.config) (hentries : r.entries = before ++ e :: after)
    (hbefore : c.Runs .empty before d) (he : c.Calls e d (.error error, d')) :
    Accounts c r (before.flatMap c.entryLines ++ [e.rejectionLine error]) (.error error)
  /-- No entry is rejected, and what they made is written as a document. -/
  | compiled {d : Draft} {document : Document} (hlimit : r.WithinLimit c.config)
    (hruns : c.Runs .empty r.entries d) (hdocument : document = d.render c.config) :
    Accounts c r (r.entries.flatMap c.entryLines ++ [document.summaryLine]) (.ok document)

variable {c : Compiler} {r : Request}

/-! ## A run and its lines -/

/-- The lines of a run, and what comes out of it. -/
def logRun (c : Compiler) (d : Draft) (entries : List Entry) :
    List LogLine × Except RuleError Draft :=
  ((c.run d entries).1.map Event.line, (c.run d entries).2)

/-- An entry that calls a handler is a change of the draft, with the outcome that is
told. -/
theorem step_of_calls {e : Entry} {d : Draft} {outcome : Except RuleError Unit × Draft}
    (h : c.Calls e d outcome) : ∃ change, c.step e = .change change ∧ change.exec d = outcome := by
  obtain ⟨args, handler, hargs, hhandler, hexec⟩ := h
  refine ⟨handler args, ?_, hexec⟩
  unfold step
  rw [hargs]
  simp only [hhandler]

/-- A call says nothing by itself; only what becomes of it may. -/
theorem entryLines_of_calls {e : Entry} {d : Draft} {outcome : Except RuleError Unit × Draft}
    (h : c.Calls e d outcome) : c.entryLines e = [] := by
  obtain ⟨args, handler, hargs, hhandler, _⟩ := h
  have hpresent : e.isAbsent = false := by rw [Entry.isAbsent, hargs]; rfl
  have hsupported : c.supports e.kind = true := by rw [supports, hhandler]; rfl
  rw [entryLines, hpresent, hsupported]
  rfl

/-- An entry without a handler leaves its lines and the draft as it is. -/
theorem logRun_cons_of_passed {e : Entry} (h : c.handles e = false) (d : Draft)
    (rest : List Entry) :
    c.logRun d (e :: rest) = (c.entryLines e ++ (c.logRun d rest).1, (c.logRun d rest).2) := by
  unfold logRun entryLines supports Entry.isAbsent
  rw [run, step]
  cases hargs : e.arguments with
  | none => rfl
  | some args =>
    -- with arguments, it can only be the kind
    have hhandler : c.handler? e.kind = none :=
      (handles_eq_false_iff.1 h).resolve_left (by simp [hargs])
    rw [hhandler]
    rfl

/-- A call that succeeds leaves no line, and the run goes on with its draft. -/
theorem logRun_cons_of_accepted {e : Entry} {d d' : Draft} (h : c.Calls e d (.ok (), d'))
    (rest : List Entry) : c.logRun d (e :: rest) = c.logRun d' rest := by
  obtain ⟨change, hstep, hexec⟩ := step_of_calls h
  rw [logRun, run, hstep]
  simp only [hexec]
  rfl

/-- A call that fails leaves one line and ends the run. -/
theorem logRun_cons_of_rejected {e : Entry} {d d' : Draft} {error : RuleError}
    (h : c.Calls e d (.error error, d')) (rest : List Entry) :
    c.logRun d (e :: rest) = ([e.rejectionLine error], .error error) := by
  obtain ⟨change, hstep, hexec⟩ := step_of_calls h
  rw [logRun, run, hstep]
  simp only [hexec]
  rfl

/-- Entries that are not rejected leave their lines, and the run goes on with what
they made. -/
theorem logRun_append_of_runs {d d' : Draft} {before : List Entry} (h : c.Runs d before d')
    (after : List Entry) :
    c.logRun d (before ++ after) =
      (before.flatMap c.entryLines ++ (c.logRun d' after).1, (c.logRun d' after).2) := by
  -- on the run: each entry of it adds its lines in front
  induction h with
  | nil d => rfl
  | @passed d d' e rest he _ ih =>
    rw [List.cons_append, logRun_cons_of_passed he, ih, List.flatMap_cons, List.append_assoc]
  | @accepted d d₁ d' e rest he _ ih =>
    rw [List.cons_append, logRun_cons_of_accepted he, ih, List.flatMap_cons,
      entryLines_of_calls he, List.nil_append]

/-- Either no entry is rejected, or there is a first one that is. -/
theorem runs_or_rejected (c : Compiler) (d : Draft) (entries : List Entry) :
    (∃ d', c.Runs d entries d') ∨
      ∃ before e after d₁ d₂ error, entries = before ++ e :: after ∧ c.Runs d before d₁ ∧
        c.Calls e d₁ (.error error, d₂) := by
  induction entries generalizing d with
  | nil => exact Or.inl ⟨d, .nil d⟩
  | cons e rest ih =>
    -- what is left to do goes on from the draft that the first entry leaves
    have hgo : ∀ d₀, (∀ {l d'}, c.Runs d₀ l d' → c.Runs d (e :: l) d') →
        (∃ d', c.Runs d (e :: rest) d') ∨
          ∃ before e' after d₁ d₂ error, e :: rest = before ++ e' :: after ∧
            c.Runs d before d₁ ∧ c.Calls e' d₁ (.error error, d₂) := by
      intro d₀ hcons
      rcases ih d₀ with ⟨d', hruns⟩ | ⟨before, e', after, d₁, d₂, error, rfl, hruns, he'⟩
      · exact Or.inl ⟨d', hcons hruns⟩
      · exact Or.inr ⟨e :: before, e', after, d₁, d₂, error, rfl, hcons hruns, he'⟩
    cases hargs : e.arguments with
    | none => exact hgo d (.passed (handles_eq_false_iff.2 (Or.inl hargs)))
    | some args =>
      cases hhandler : c.handler? e.kind with
      | none => exact hgo d (.passed (handles_eq_false_iff.2 (Or.inr hhandler)))
      | some handler =>
        rcases hexec : (handler args).exec d with ⟨error | _, d₁⟩
        · exact Or.inr ⟨[], e, rest, d, d₁, error, rfl, .nil d, args, handler, hargs, hhandler,
            hexec⟩
        · exact hgo d₁ (.accepted ⟨args, handler, hargs, hhandler, hexec⟩)

/-! ## A compilation and its lines -/

/-- What is reported of a draft is the summary of its document. -/
theorem line_finish (c : Compiler) (d : Draft) :
    (c.finish d).1.line = (d.render c.config).summaryLine := by
  unfold finish Document.summaryLine
  rw [d.isEmpty_render c.config]
  cases d.isEmpty <;> rfl

/-- A compilation is logged under the number of entries, whatever becomes of it. -/
theorem span_trace (c : Compiler) (r : Request) : (c.trace r).span = ⟨r.size⟩ := by
  unfold trace
  cases c.limitError? r with
  | some error => rfl
  | none => rcases c.run .empty r.entries with ⟨events, error | d⟩ <;> rfl

/-- Over the limit no line is logged. -/
theorem trace_of_limit_lt {limit : Nat} (hlimit : c.config.maxRules = some limit)
    (hlt : limit < r.size) :
    (c.trace r).events = [] ∧ (c.trace r).result = .error (.tooManyRules r.size limit) := by
  rw [trace, limitError?_of_lt hlimit hlt]
  exact ⟨rfl, rfl⟩

/-- A run that ends early has no summary. -/
theorem trace_of_logRun_error {lines : List LogLine} {error : RuleError}
    (hlimit : r.WithinLimit c.config) (h : c.logRun .empty r.entries = (lines, .error error)) :
    (c.trace r).events.map Event.line = lines ∧ (c.trace r).result = .error error := by
  obtain ⟨hlines, hresult⟩ := Prod.mk.inj h
  rw [trace, (c.limitError?_eq_none_iff r).2 hlimit]
  rcases hrun : c.run .empty r.entries with ⟨events, outcome⟩
  rw [hrun] at hlines hresult
  obtain rfl : outcome = .error error := hresult
  exact ⟨hlines, rfl⟩

/-- A run to the end is summed up in one line, behind the lines of its entries. -/
theorem trace_of_logRun_ok {lines : List LogLine} {d : Draft} (hlimit : r.WithinLimit c.config)
    (h : c.logRun .empty r.entries = (lines, .ok d)) :
    (c.trace r).events.map Event.line = lines ++ [(d.render c.config).summaryLine] ∧
      (c.trace r).result = .ok (d.render c.config) := by
  obtain ⟨hlines, hresult⟩ := Prod.mk.inj h
  rw [trace, (c.limitError?_eq_none_iff r).2 hlimit]
  rcases hrun : c.run .empty r.entries with ⟨events, outcome⟩
  rw [hrun] at hlines hresult
  obtain rfl : outcome = .ok d := hresult
  -- the last event is the summary of the document
  have hlast : [(c.finish d).1].map Event.line = [(d.render c.config).summaryLine] := by
    rw [List.map_singleton, line_finish]
  refine ⟨?_, congrArg Except.ok (c.finish_snd d)⟩
  show (events ++ [(c.finish d).1]).map Event.line = _
  rw [List.map_append, hlast]
  exact congrArg (· ++ [(d.render c.config).summaryLine]) hlines

/-- An account is what is logged and what comes out. -/
theorem Accounts.trace {lines : List LogLine} {result : Except RuleError Document}
    (h : c.Accounts r lines result) :
    (c.trace r).events.map Event.line = lines ∧ (c.trace r).result = result := by
  -- one case for each way in which a compilation may end
  cases h with
  | overLimit hlimit hlt =>
    obtain ⟨hevents, hresult⟩ := trace_of_limit_lt hlimit hlt
    exact ⟨by rw [hevents]; rfl, hresult⟩
  | @rejected before after e d d' error hlimit hentries hbefore he =>
    refine trace_of_logRun_error hlimit ?_
    rw [hentries, logRun_append_of_runs hbefore, logRun_cons_of_rejected he]
  | @compiled d document hlimit hruns hdocument =>
    subst hdocument
    refine trace_of_logRun_ok hlimit ?_
    have hrun := logRun_append_of_runs hruns []
    rwa [List.append_nil, show c.logRun d [] = ([], .ok d) from rfl, List.append_nil] at hrun

/-- Every compilation can be told, case by case. -/
theorem exists_accounts (c : Compiler) (r : Request) :
    ∃ lines result, c.Accounts r lines result := by
  by_cases hlimit : r.WithinLimit c.config
  · rcases c.runs_or_rejected .empty r.entries with
      ⟨d, hruns⟩ | ⟨before, e, after, d, d', error, hentries, hbefore, he⟩
    · exact ⟨_, _, .compiled hlimit hruns rfl⟩
    · exact ⟨_, _, .rejected hlimit hentries hbefore he⟩
  · obtain ⟨limit, hlimit, hlt⟩ := Request.exists_limit_lt hlimit
    exact ⟨_, _, .overLimit hlimit hlt⟩

/-- The log is an exact account of a compilation: it opens a span with the number
of entries, and the lines and the outcome are those of the one account that the
request has. -/
theorem accounts_iff_trace (c : Compiler) (r : Request) :
    (c.trace r).span.entries = r.size ∧
    ∀ lines result, c.Accounts r lines result ↔
      (c.trace r).events.map Event.line = lines ∧ (c.trace r).result = result := by
  refine ⟨congrArg Span.entries (c.span_trace r), fun lines result => ⟨Accounts.trace, ?_⟩⟩
  rintro ⟨rfl, rfl⟩
  -- there is an account, and it can only be this one
  obtain ⟨lines, result, h⟩ := c.exists_accounts r
  obtain ⟨hlines, hresult⟩ := h.trace
  rw [hlines, hresult]
  exact h

example :
    ((withConfig .default).trace ⟨[⟨"sort", none⟩, ⟨"sort", some (.bool true)⟩,
      ⟨"range", some (.array [.string "price", .array [.null], .string "filter"])⟩,
      ⟨"must", none⟩]⟩).events =
      [.skipped "sort", .ignored "sort", .rejected "range" (.violation .unpairedBounds)] := rfl

end Compiler

end SearchRules
