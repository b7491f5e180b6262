import SearchRules.Compiler.Basic
import SearchRules.Proofs.Draft.Rendering
import SearchRules.Proofs.Rule.Edit

/-!
# What comes out of a compilation

The log left aside, compiling is three things: the limit is looked at, the
entries are run, and what they drafted is written (`Compiler.build_eq`, for any
compiler). With the built-in kinds alone the run is the replay of the edits of
the entries.

> `trace_congr`: compilations that do the same at every entry are the same, by
> induction on the entries.
>
> `run_withConfig`: running entries replays their edits, or stops at the first
> refusal.
>
> `build_withConfig`: the outcome of a compilation from the edits alone.
-/

namespace SearchRules

/-- A request keeps to the limit of a configuration, if there is one. -/
def Request.WithinLimit (r : Request) (config : Config) : Prop :=
  ∀ limit, config.maxRules = some limit → r.size ≤ limit

/-- Without a limit every request keeps to it. -/
theorem Request.withinLimit_of_eq_none {config : Config} (h : config.maxRules = none)
    (r : Request) : r.WithinLimit config :=
  fun _ hlimit => absurd (h.symm.trans hlimit) nofun

/-- A request that does not keep to the limit has more entries than some limit. -/
theorem Request.exists_limit_lt {config : Config} {r : Request} (h : ¬r.WithinLimit config) :
    ∃ limit, config.maxRules = some limit ∧ limit < r.size := by
  cases hmax : config.maxRules with
  | none => exact absurd (withinLimit_of_eq_none hmax r) h
  | some limit =>
    refine ⟨limit, rfl, Nat.lt_of_not_le fun hle => h fun limit' hlimit => ?_⟩
    rw [hmax] at hlimit
    exact Option.some.inj hlimit ▸ hle

namespace Compiler

/-- The log looks at the document and does not change it. -/
theorem finish_snd (c : Compiler) (d : Draft) : (c.finish d).2 = d.render c.config := by
  unfold finish
  -- an empty draft ends early, with what it would be written as anyway
  split
  · next h => exact (d.render_of_isEmpty c.config h).symm
  · rfl

/-- The limit is looked at as it is said: as many entries as it are allowed. -/
theorem limitError?_eq_none_iff (c : Compiler) (r : Request) :
    c.limitError? r = none ↔ r.WithinLimit c.config := by
  unfold limitError? Request.WithinLimit
  cases c.config.maxRules with
  | none => simp
  | some limit =>
    by_cases h : limit < r.size
    · simp [h]
    · simp only [h, if_false, Option.some.injEq, forall_eq', true_iff]
      omega

theorem limitError?_of_lt {c : Compiler} {r : Request} {limit : Nat}
    (hlimit : c.config.maxRules = some limit) (h : limit < r.size) :
    c.limitError? r = some (.tooManyRules r.size limit) := by
  rw [limitError?, hlimit]
  exact if_pos h

/-- What comes out of a compilation, without its log. -/
theorem build_eq (c : Compiler) (r : Request) :
    c.build r =
      match c.limitError? r with
      | some error => .error error
      | none => (c.run .empty r.entries).2.map fun d => d.render c.config := by
  unfold build trace
  cases c.limitError? r with
  | some error => rfl
  | none =>
    cases hrun : c.run .empty r.entries with
    | mk events outcome =>
      cases outcome with
      | error error => rfl
      | ok d =>
        show Except.ok (c.finish d).2 = Except.ok (d.render c.config)
        rw [finish_snd]

/-- Over the limit nothing is looked at but the number of entries. -/
theorem build_of_limit_lt {c : Compiler} {r : Request} {limit : Nat}
    (hlimit : c.config.maxRules = some limit) (h : limit < r.size) :
    c.build r = .error (.tooManyRules r.size limit) := by
  rw [build_eq, limitError?_of_lt hlimit h]

/-- Within the limit the outcome is that of the run. -/
theorem build_of_withinLimit {c : Compiler} {r : Request} (h : r.WithinLimit c.config) :
    c.build r = (c.run .empty r.entries).2.map fun d => d.render c.config := by
  rw [build_eq, (c.limitError?_eq_none_iff r).2 h]

/-- Whatever compiles keeps to the limit. -/
theorem withinLimit_of_build_eq_ok {c : Compiler} {r : Request} {document : Document}
    (h : c.build r = .ok document) : r.WithinLimit c.config := by
  rw [← limitError?_eq_none_iff]
  cases hlimit : c.limitError? r with
  | none => rfl
  | some error =>
    rw [build_eq, hlimit] at h
    exact absurd h nofun

/-! ## One entry of a run -/

section

variable {c : Compiler} {d d' : Draft} {e : Entry} {change : DraftM Unit} {error : RuleError}

/-- An entry without arguments changes nothing. -/
theorem run_cons_of_skip (h : c.step e = .skip) (rest : List Entry) :
    (c.run d (e :: rest)).2 = (c.run d rest).2 := by
  rw [run, h]

/-- An entry of an unknown kind changes nothing. -/
theorem run_cons_of_ignore (h : c.step e = .ignore) (rest : List Entry) :
    (c.run d (e :: rest)).2 = (c.run d rest).2 := by
  rw [run, h]

/-- A handler that succeeds hands its draft on. -/
theorem run_cons_of_change (h : c.step e = .change change)
    (hexec : change.exec d = (.ok (), d')) (rest : List Entry) :
    (c.run d (e :: rest)).2 = (c.run d' rest).2 := by
  rw [run, h]
  simp only [hexec]

/-- A handler that fails ends the run; its draft is dropped. -/
theorem run_cons_of_refusal (h : c.step e = .change change)
    (hexec : change.exec d = (.error error, d')) (rest : List Entry) :
    (c.run d (e :: rest)).2 = .error error := by
  rw [run, h]
  simp only [hexec]

end

/-! ## Two compilations -/

section

variable {a b : Compiler}

/-- Entries of the same kinds, with the same thing to do at each of them. -/
def SameSteps (a b : Compiler) : List Entry → List Entry → Prop :=
  List.Forall₂ fun e f => e.kind = f.kind ∧ a.step e = b.step f

/-- Runs that do the same at every entry are the same, from any draft on. -/
theorem run_congr {entries others : List Entry} (h : SameSteps a b entries others) (d : Draft) :
    a.run d entries = b.run d others := by
  -- on the two lists, for whatever draft the earlier entries left
  induction h generalizing d with
  | nil => rfl
  | cons hstep _ ih =>
    rw [run, run, hstep.1, hstep.2]
    simp only [ih]

/-- With the same settings, and the same thing to do at every entry, two
compilations log the same and have the same outcome. -/
theorem trace_congr {r s : Request} (hconfig : a.config = b.config)
    (h : SameSteps a b r.entries s.entries) : a.trace r = b.trace s := by
  have hsize : r.size = s.size := List.Forall₂.length_eq h
  have hlimit : a.limitError? r = b.limitError? s := by
    rw [limitError?, limitError?, hconfig, hsize]
  have hrun : a.run .empty r.entries = b.run .empty s.entries := run_congr h .empty
  have hfinish : ∀ d, a.finish d = b.finish d := by
    intro d
    rw [finish, finish, hconfig]
  rw [trace, trace, hlimit, hrun, hsize]
  simp only [hfinish]

end

/-! ## The built-in kinds alone -/

/-- With the built-in kinds alone, what is done at an entry depends on its arguments and
on the name of its kind. -/
theorem step_withConfig (config : Config) (e : Entry) :
    (withConfig config).step e =
      match e.arguments, RuleKind.ofName? e.kind with
      | none, _ => .skip
      | some _, none => .ignore
      | some args, some kind => .change (kind.handler args) := by
  have hhandler : (withConfig config).handler? e.kind =
      (RuleKind.ofName? e.kind).map RuleKind.handler := rfl
  unfold step
  rw [hhandler]
  cases e.arguments with
  | none => rfl
  | some args => cases RuleKind.ofName? e.kind <;> rfl

/-- One entry of a run: its edit is made, or the run ends. -/
theorem run_withConfig_cons (config : Config) (d : Draft) (e : Entry) (rest : List Entry) :
    ((withConfig config).run d (e :: rest)).2 =
      match e.edit with
      | .ok edit? => ((withConfig config).run (d.replay edit?.toList) rest).2
      | .error error => .error error := by
  have hstep := step_withConfig config e
  unfold Entry.edit Entry.live?
  -- skipped, ignored, accepted or refused: in the first two cases there is no edit
  cases hargs : e.arguments with
  | none =>
    rw [hargs] at hstep
    exact run_cons_of_skip hstep rest
  | some args =>
    rw [hargs] at hstep
    cases hkind : RuleKind.ofName? e.kind with
    | none =>
      rw [hkind] at hstep
      exact run_cons_of_ignore hstep rest
    | some kind =>
      rw [hkind] at hstep
      have hexec := kind.exec_handler args d
      cases hedit : kind.edit args with
      | ok edit =>
        rw [hedit] at hexec
        refine (run_cons_of_change hstep hexec rest).trans ?_
        simp [hedit, Except.map, Draft.replay]
      | error error =>
        rw [hedit] at hexec
        refine (run_cons_of_refusal hstep hexec rest).trans ?_
        simp [hedit, Except.map]

/-- Running entries is replaying their edits, if none of them is refused. -/
theorem run_withConfig (config : Config) (d : Draft) (entries : List Entry) :
    ((withConfig config).run d entries).2 = (Entry.edits entries).map d.replay := by
  -- on the entries, for whatever draft the earlier ones left
  induction entries generalizing d with
  | nil => rfl
  | cons e rest ih =>
    rw [run_withConfig_cons, Entry.edits]
    cases e.edit with
    | error error => rfl
    | ok edit? =>
      show ((withConfig config).run (d.replay edit?.toList) rest).2 = _
      rw [ih]
      cases Entry.edits rest with
      | error error => rfl
      | ok more => exact congrArg Except.ok (Draft.replay_append d edit?.toList more).symm

/-- The outcome of a compilation with the built-in kinds, from the edits of its
entries. -/
theorem build_withConfig {config : Config} {r : Request} (h : r.WithinLimit config) :
    (withConfig config).build r =
      (Entry.edits r.entries).map fun edits => (Draft.empty.replay edits).render config := by
  rw [build_of_withinLimit h, run_withConfig]
  cases Entry.edits r.entries <;> rfl

/-- A request compiles if and only if it keeps to the limit and every entry is
accepted; what comes out is written from the edits of the entries. -/
theorem build_withConfig_eq_ok_iff {config : Config} {r : Request} {document : Document} :
    (withConfig config).build r = .ok document ↔
      r.WithinLimit config ∧ (∀ e ∈ r.entries, e.Accepted) ∧
        (Draft.empty.replay (r.entries.filterMap Entry.edit?)).render config = document := by
  constructor
  · intro h
    have hlimit : r.WithinLimit config := withinLimit_of_build_eq_ok h
    rw [build_withConfig hlimit] at h
    cases hedits : Entry.edits r.entries with
    | error error =>
      rw [hedits] at h
      exact absurd h nofun
    | ok edits =>
      obtain ⟨haccepted, rfl⟩ := Entry.edits_eq_ok_iff.1 hedits
      rw [hedits] at h
      exact ⟨hlimit, haccepted, Except.ok.inj h⟩
  · rintro ⟨hlimit, haccepted, rfl⟩
    rw [build_withConfig hlimit, Entry.edits_of_accepted haccepted]
    rfl

end Compiler

end SearchRules
