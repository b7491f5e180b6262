import SearchRules.Proofs.Compiler.Outcome
import SearchRules.Proofs.OrderedMap.LastWrite

/-!
# Registered handlers

Registering a handler decides what is called for its kind, and nothing else. The
last handler that was registered under a kind hides all earlier ones and the
built-in one. In the description of a compiler a kind keeps its first place.

A compilation looks handlers up for the entries that have arguments, and it uses
its handlers for nothing else. So two compilers with the same settings cannot be
told apart by a request for whose entries they have the same handlers.

> `handler?_withHandlers`: what is called for a kind after any registrations.
>
> `step_congr`: the handler of an entry counts only if the entry has arguments.
>
> `handlers_override`: what registering does, and that compilations with the same
> handlers are the same (by `trace_congr`).
-/

namespace SearchRules.Compiler

/-! ## What registering does -/

/-- Register handlers one after the other. -/
def withHandlers (c : Compiler) (calls : List (String × Handler)) : Compiler :=
  calls.foldl (fun c call => c.withHandler call.1 call.2) c

/-- What has been registered: what the compiler holds already, and then the calls.
A compiler that was just made holds nothing. -/
def registrations (c : Compiler) (calls : List (String × Handler)) : List (String × Handler) :=
  c.handlers.entries ++ calls

/-- Of the handlers that were registered under a kind, this one came last. -/
def LastUnder (log : List (String × Handler)) (kind : String) (handler : Handler) : Prop :=
  ∃ before after, log = before ++ (kind, handler) :: after ∧ kind ∉ after.map Prod.fst

/-- Registering handlers in a row is writing them into the map of handlers. -/
theorem withHandlers_eq_insertMany (c : Compiler) (calls : List (String × Handler)) :
    c.withHandlers calls = ⟨c.config, c.handlers.insertMany calls⟩ := by
  induction calls generalizing c with
  | nil => rfl
  | cons call rest ih => exact ih (c.withHandler call.1 call.2)

theorem config_withHandlers (c : Compiler) (calls : List (String × Handler)) :
    (c.withHandlers calls).config = c.config := by
  rw [withHandlers_eq_insertMany]

/-- A compiler holds its handlers as if all had been registered in one go. -/
theorem handlers_withHandlers (c : Compiler) (calls : List (String × Handler)) :
    (c.withHandlers calls).handlers = .ofList (c.registrations calls) := by
  have hheld : OrderedMap.ofList (c.registrations calls) =
      (OrderedMap.ofList c.handlers.entries).insertMany calls :=
    OrderedMap.insertMany_append _ _ _
  rw [hheld, OrderedMap.ofList_entries, withHandlers_eq_insertMany]

/-- Looked up from the end, a log gives the handler that was registered last. -/
theorem lookup_reverse_eq_some_iff {log : List (String × Handler)} {kind : String}
    {handler : Handler} :
    log.reverse.lookup kind = some handler ↔ LastUnder log kind handler := by
  rw [List.lookup_eq_some_iff]
  -- the first from the end is the last from the start
  constructor
  · rintro ⟨after, before, hlog, hafter⟩
    refine ⟨before.reverse, after.reverse, ?_, fun hmem => ?_⟩
    · rw [← List.reverse_reverse log, hlog, List.reverse_append, List.reverse_cons,
        List.append_assoc]
      rfl
    · obtain ⟨call, hcall, hkind⟩ := List.mem_map.1 hmem
      simpa [hkind] using hafter call (List.mem_reverse.1 hcall)
  · rintro ⟨before, after, rfl, hafter⟩
    refine ⟨after.reverse, before.reverse, ?_, fun call hcall => ?_⟩
    · rw [List.reverse_append, List.reverse_cons, List.append_assoc]
      rfl
    · rw [bne_iff_ne]
      rintro rfl
      exact hafter (List.mem_map_of_mem (List.mem_reverse.1 hcall))

/-- What is called for a kind: the handler that was registered last under it, or
else the built-in one. -/
theorem handler?_withHandlers (c : Compiler) (calls : List (String × Handler)) (kind : String)
    (handler : Handler) :
    (c.withHandlers calls).handler? kind = some handler ↔
      LastUnder (c.registrations calls) kind handler ∨
        kind ∉ (c.registrations calls).map Prod.fst ∧
          ∃ builtin : RuleKind, kind = builtin.name ∧ builtin.handler = handler := by
  rw [handler?, handlers_withHandlers, OrderedMap.get?_ofList, Option.or_eq_some_iff,
    lookup_reverse_eq_some_iff, ← Option.not_isSome_iff_eq_none, isSome_lookup_iff,
    List.map_reverse, List.mem_reverse, Option.map_eq_some_iff]
  simp only [RuleKind.ofName?_eq_some_iff]

/-- A kind is supported if it was registered or is built in. -/
theorem supports_withHandlers (c : Compiler) (calls : List (String × Handler)) (kind : String) :
    (c.withHandlers calls).supports kind = true ↔
      kind ∈ (c.registrations calls).map Prod.fst ∨
        ∃ builtin : RuleKind, kind = builtin.name := by
  rw [supports, handler?, handlers_withHandlers, OrderedMap.get?_ofList, Option.isSome_or,
    Bool.or_eq_true, isSome_lookup_iff, List.map_reverse, List.mem_reverse, Option.isSome_map,
    Option.isSome_iff_exists]
  simp only [RuleKind.ofName?_eq_some_iff]

/-- A compiler in words lists its registered kinds where they first came. -/
theorem describe_withHandlers (c : Compiler) (calls : List (String × Handler)) :
    (c.withHandlers calls).describe =
      "RuleCompiler \x7b config: " ++ c.config.describe ++ ", custom_handlers: [" ++
        String.intercalate ", "
          (((c.registrations calls).map Prod.fst).eraseDups.map Text.quoted) ++ "] \x7d" := by
  unfold describe
  rw [handlers_withHandlers, OrderedMap.keys_ofList, config_withHandlers]

/-! ## What a compilation uses handlers for -/

/-- The handler of an entry counts only if the entry has arguments. -/
theorem step_congr {a b : Compiler} {e : Entry}
    (h : e.isAbsent = false → a.handler? e.kind = b.handler? e.kind) : a.step e = b.step e := by
  unfold step Entry.isAbsent at *
  cases hargs : e.arguments with
  | none => rfl
  | some args =>
    rw [hargs] at h
    rw [h rfl]

/-- Registering handlers is an override by kind and nothing else. A kind calls
the handler that was registered last under it, or else the built-in one, or none;
it is supported if there is the one or the other; and the description lists the
registered kinds, each once, in the order in which they first came. A compilation
asks for the handlers of entries that have arguments only: any two compilers with
the same settings that call the same for these have the same outcome and log the
same events. -/
theorem handlers_override (c : Compiler) (calls : List (String × Handler)) :
    let log := c.registrations calls
    let called := c.withHandlers calls
    (∀ kind handler, called.handler? kind = some handler ↔
      LastUnder log kind handler ∨ kind ∉ log.map Prod.fst ∧
        ∃ builtin : RuleKind, kind = builtin.name ∧ builtin.handler = handler) ∧
    (∀ kind, called.supports kind = true ↔
      kind ∈ log.map Prod.fst ∨ ∃ builtin : RuleKind, kind = builtin.name) ∧
    (∃ kinds : List String, kinds.Nodup ∧ (∀ kind, kind ∈ kinds ↔ kind ∈ log.map Prod.fst) ∧
      kinds.Pairwise (fun k l => (log.map Prod.fst).idxOf k < (log.map Prod.fst).idxOf l) ∧
      called.describe = "RuleCompiler \x7b config: " ++ c.config.describe ++
        ", custom_handlers: [" ++ String.intercalate ", " (kinds.map Text.quoted) ++ "] \x7d") ∧
    ∀ (other : Compiler) (r : Request), called.config = other.config →
      (∀ e ∈ r.entries, e.isAbsent = false → called.handler? e.kind = other.handler? e.kind) →
      called.build r = other.build r ∧ (called.trace r).events = (other.trace r).events := by
  intro log called
  refine ⟨c.handler?_withHandlers calls, c.supports_withHandlers calls,
    ⟨(log.map Prod.fst).eraseDups, nodup_eraseDups _, fun kind => List.mem_eraseDups,
      pairwise_idxOf_eraseDups _, c.describe_withHandlers calls⟩, fun other r hconfig h => ?_⟩
  have hsteps : SameSteps called other r.entries r.entries :=
    List.forall₂_same.2 fun e he => ⟨rfl, step_congr (h e he)⟩
  have htrace : called.trace r = other.trace r := trace_congr hconfig hsteps
  exact ⟨congrArg Trace.result htrace, congrArg Trace.events htrace⟩

/-- A kind that is registered twice, with another between, and a compiler with the
same handlers in another order and one more, whose kind comes without arguments. -/
theorem handlers_override_reordered :
    let refuse : Handler := fun _ => throw (.violation (.stated "refused"))
    let drop : Handler := fun _ => pure ()
    let seen : Handler := fun _ => do
      let d ← get
      DraftM.condition .should "seen" (.array (d.filters.keys.map .string)) .empty
    let a := (withConfig .default).withHandlers [("seen", refuse), ("must", drop), ("seen", seen)]
    let b := (withConfig .default).withHandlers [("sort", refuse), ("seen", seen), ("must", drop)]
    let r : Request := ⟨[⟨"seen", some (.bool true)⟩, ⟨"sort", none⟩, ⟨"must", some .null⟩,
      ⟨"must", some (.bool true)⟩, ⟨"range", some (.bool true)⟩]⟩
    a.handler? "seen" = some seen ∧ a.config = b.config ∧
      (∀ e ∈ r.entries, e.isAbsent = false → a.handler? e.kind = b.handler? e.kind) ∧
      a.build r = b.build r ∧ (a.trace r).events = (b.trace r).events := by
  intro refuse drop seen a b r
  obtain ⟨hhandler, -, -, hsame⟩ := handlers_override (withConfig .default)
    [("seen", refuse), ("must", drop), ("seen", seen)]
  have hseen : a.handler? "seen" = some seen :=
    (hhandler "seen" seen).2 (Or.inl ⟨[("seen", refuse), ("must", drop)], [], rfl, nofun⟩)
  have hagree : ∀ e ∈ r.entries, e.isAbsent = false → a.handler? e.kind = b.handler? e.kind := by
    simp only [r, List.forall_mem_cons]
    exact ⟨fun _ => rfl, nofun, nofun, fun _ => rfl, fun _ => rfl, nofun⟩
  exact ⟨hseen, rfl, hagree, hsame b r rfl hagree⟩

end SearchRules.Compiler
