import SearchRules.Proofs.Compiler.Outcome

/-!
# Which error a compilation ends in

A compilation with the built-in kinds can fail in two ways. The limit is looked
at first, and it looks at nothing but the number of entries. After that an entry
is refused for what it is itself, whatever was drafted before it: the first entry
that cannot be compiled alone decides the error.

> `build_single_eq_error_iff`: an entry that is compiled alone fails with its own
> refusal.
>
> `build_eq_error_iff_single`: a request fails as the first of its entries that
> fails alone.
>
> `build_eq_error_iff_first`: the same for any limit, and for what follows the
> entry that is refused.
-/

namespace SearchRules

/-- The same settings without a limit. -/
def Config.withoutLimit (config : Config) : Config := { config with maxRules := none }

/-- Only an entry that counts and whose kind is built in can be refused. -/
theorem Entry.isSome_live?_of_edit_eq_error {e : Entry} {error : RuleError}
    (h : e.edit = .error error) : e.live?.isSome = true := by
  unfold Entry.edit at h
  cases hlive : e.live? with
  | some live => rfl
  | none =>
    rw [hlive] at h
    exact absurd h nofun

namespace Compiler

variable {config : Config} {r : Request} {e : Entry} {error : RuleError}

/-! ## The limit -/

theorem withinLimit_withoutLimit : r.WithinLimit config.withoutLimit :=
  r.withinLimit_of_eq_none rfl

/-- A limit that is kept does not show. -/
theorem build_withoutLimit (h : r.WithinLimit config) :
    (withConfig config).build r = (withConfig config.withoutLimit).build r := by
  rw [build_withConfig h, build_withConfig withinLimit_withoutLimit]
  rfl

/-- The limit is looked at before anything else, and then no more. -/
theorem build_eq_of_limit (config : Config) (r : Request) :
    (withConfig config).build r =
      match config.maxRules with
      | none => (withConfig config.withoutLimit).build r
      | some limit =>
        if limit < r.size then .error (.tooManyRules r.size limit)
        else (withConfig config.withoutLimit).build r := by
  cases hmax : config.maxRules with
  | none => exact build_withoutLimit (r.withinLimit_of_eq_none hmax)
  | some limit =>
    by_cases h : limit < r.size
    · have hlimit : (withConfig config).config.maxRules = some limit := hmax
      exact (build_of_limit_lt hlimit h).trans (if_pos h).symm
    · have hwithin : r.WithinLimit config := by
        intro limit' h'
        rw [hmax, Option.some.injEq] at h'
        exact h' ▸ Nat.le_of_not_lt h
      exact (build_withoutLimit hwithin).trans (if_neg h).symm

/-! ## One entry -/

/-- Alone, an entry fails as its edit is refused. -/
theorem build_single_eq_error_iff :
    (withConfig config.withoutLimit).build ⟨[e]⟩ = .error error ↔ e.edit = .error error := by
  rw [build_withConfig withinLimit_withoutLimit, Entry.edits]
  cases e.edit with
  | error error' => simp [Except.map, bind, Except.bind]
  | ok edit? => simp [Except.map, bind, Except.bind, Entry.edits, pure, Except.pure]

/-- Alone, an entry compiles if it is accepted. -/
theorem exists_build_single_iff :
    (∃ document, (withConfig config.withoutLimit).build ⟨[e]⟩ = .ok document) ↔ e.Accepted := by
  simp only [build_withConfig_eq_ok_iff, List.mem_singleton, forall_eq]
  exact ⟨fun ⟨_, _, h, _⟩ => h, fun h => ⟨_, withinLimit_withoutLimit, h, rfl⟩⟩

/-! ## All entries -/

/-- A request fails with the error of the first entry that is not accepted. -/
theorem build_eq_error_iff :
    (withConfig config.withoutLimit).build r = .error error ↔
      ∃ before e after, r.entries = before ++ e :: after ∧
        (∀ b ∈ before, b.Accepted) ∧ e.edit = .error error := by
  rw [build_withConfig withinLimit_withoutLimit, ← Entry.edits_eq_error_iff]
  cases Entry.edits r.entries with
  | error error' => simp [Except.map]
  | ok edits => simp [Except.map]

/-- The first entry that fails alone decides the error. -/
theorem build_eq_error_iff_single :
    (withConfig config.withoutLimit).build r = .error error ↔
      ∃ before e after, r.entries = before ++ e :: after ∧
        (∀ b ∈ before,
          ∃ document, (withConfig config.withoutLimit).build ⟨[b]⟩ = .ok document) ∧
        e.live?.isSome = true ∧
        (withConfig config.withoutLimit).build ⟨[e]⟩ = .error error := by
  simp only [exists_build_single_iff, build_single_eq_error_iff]
  rw [build_eq_error_iff]
  constructor
  · rintro ⟨before, e, after, hr, hbefore, he⟩
    exact ⟨before, e, after, hr, hbefore, Entry.isSome_live?_of_edit_eq_error he, he⟩
  · rintro ⟨before, e, after, hr, hbefore, -, he⟩
    exact ⟨before, e, after, hr, hbefore, he⟩

/-- A request fails if and only if some entry of it fails alone. -/
theorem exists_build_eq_error_iff :
    (∃ error, (withConfig config.withoutLimit).build r = .error error) ↔
      ∃ e ∈ r.entries, e.live?.isSome = true ∧
        ∃ error, (withConfig config.withoutLimit).build ⟨[e]⟩ = .error error := by
  constructor
  · rintro ⟨error, herror⟩
    obtain ⟨before, e, after, hr, -, hlive, he⟩ := build_eq_error_iff_single.1 herror
    exact ⟨e, hr ▸ List.mem_append_right before List.mem_cons_self, hlive, error, he⟩
  · rintro ⟨e, hmem, -, error, he⟩
    -- some entry is refused, so there is a first one
    rcases Entry.all_accepted_or_first_error r.entries with
      hall | ⟨before, e', after, error', hr, hbefore, he'⟩
    · have hrefused := (Entry.not_accepted_iff e).2 ⟨error, build_single_eq_error_iff.1 he⟩
      exact absurd (hall e hmem) hrefused
    · exact ⟨error', build_eq_error_iff.2 ⟨before, e', after, hr, hbefore, he'⟩⟩

/-- No entry after a refused one changes the error. -/
theorem build_append_of_error (more : List Entry)
    (h : (withConfig config.withoutLimit).build r = .error error) :
    (withConfig config.withoutLimit).build ⟨r.entries ++ more⟩ = .error error := by
  obtain ⟨before, e, after, hr, hbefore, he⟩ := build_eq_error_iff.1 h
  refine build_eq_error_iff.2 ⟨before, e, after ++ more, ?_, hbefore, he⟩
  rw [hr, List.append_assoc, List.cons_append]

/-- Which error a compilation ends in. A limit is looked at before any entry.
Without one a request fails if and only if one of its live entries fails when it
is compiled alone, and then with the error of the first such entry, whatever
comes before and after it. -/
theorem build_eq_error_iff_first (config : Config) (r : Request) :
    let unlimited := withConfig config.withoutLimit
    ((withConfig config).build r =
      match config.maxRules with
      | none => unlimited.build r
      | some limit =>
        if limit < r.size then .error (.tooManyRules r.size limit) else unlimited.build r) ∧
    ((∃ error, unlimited.build r = .error error) ↔
      ∃ e ∈ r.entries, e.live?.isSome = true ∧ ∃ error, unlimited.build ⟨[e]⟩ = .error error) ∧
    (∀ error, unlimited.build r = .error error ↔
      ∃ before e after, r.entries = before ++ e :: after ∧
        (∀ b ∈ before, ∃ document, unlimited.build ⟨[b]⟩ = .ok document) ∧
        e.live?.isSome = true ∧ unlimited.build ⟨[e]⟩ = .error error) ∧
    ∀ more error, unlimited.build r = .error error →
      unlimited.build ⟨r.entries ++ more⟩ = .error error :=
  ⟨build_eq_of_limit config r, exists_build_eq_error_iff, fun _ => build_eq_error_iff_single,
    fun more _ => build_append_of_error more⟩

example :
    (withConfig .default).build ⟨[⟨"sort", some (.bool true)⟩, ⟨"must", none⟩,
      ⟨"range", some (.array [.string "price", .array [.null], .string "filter"])⟩,
      ⟨"filter", some (.bool true)⟩]⟩ = .error (.violation .unpairedBounds) := rfl

end Compiler

end SearchRules
