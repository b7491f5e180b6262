import SearchRules.Proofs.Compiler.Outcome
import SearchRules.Proofs.Json.Equality
import SearchRules.Proofs.Json.Portable

/-!
# The text of a request read back

A request is written as a list of pairs, which stand two levels above the
arguments of an entry; the reader stops at a fixed depth, and so the arguments
of an entry may nest two levels less than that. An object of entries is only one
level, so there are requests that can be read and whose own text cannot.

Within that limit nothing is lost but the difference between arguments that are
left out and `null` (`Request.filled`), and no compiler looks at that.

> `read?_write_eq`: the text reads back as the filled request, or not at all.
>
> `Compiler.trace_filled`: a compiler does the same on both.
>
> `read?_write_iff`: the round trip, with its exact limit.
-/

namespace SearchRules

namespace Entry

/-- The entry with `null` for arguments that are left out. -/
def filled (e : Entry) : Entry := ⟨e.kind, some (e.args.getD .null)⟩

/-- Arguments that are left out count as little as `null`. -/
theorem arguments_filled (e : Entry) : e.filled.arguments = e.arguments := by
  obtain ⟨kind, args⟩ := e
  cases args <;> rfl

theorem ofJson?_toJson (e : Entry) : ofJson? e.toJson = some e.filled := rfl

/-- A pair is one level deeper than the arguments in it. -/
theorem depth_toJson (e : Entry) : e.toJson.depth = (e.args.getD .null).depth + 1 := by
  show max 0 (max (e.args.getD .null).depth 0) + 1 = _
  omega

/-- An entry equals itself, since no key repeats in its arguments. -/
theorem equiv_self {e : Entry} (h : ∀ v ∈ e.args, v.WellFormed) : e.equiv e = true := by
  obtain ⟨kind, args⟩ := e
  cases args with
  | none => simp [equiv, argsEquiv]
  | some v =>
    have hrefl : v.equiv v = true := Json.equiv_refl v (h v rfl)
    simp [equiv, argsEquiv, hrefl]

/-- Filling an entry changes it if and only if there is something to fill. -/
theorem equiv_filled_iff {e : Entry} (h : ∀ v ∈ e.args, v.WellFormed) :
    e.filled.equiv e = true ↔ e.args ≠ none := by
  obtain ⟨kind, args⟩ := e
  cases args with
  | none => simp [filled, equiv, argsEquiv]
  | some v =>
    have hself : Entry.equiv ⟨kind, some v⟩ ⟨kind, some v⟩ = true := equiv_self h
    exact iff_of_true hself nofun

end Entry

namespace Request

/-- The request with `null` for arguments that are left out. -/
def filled (r : Request) : Request := ⟨r.entries.map Entry.filled⟩

variable {r : Request}

/-- What holds of `null` and of all arguments holds of what is written for arguments. -/
theorem ForArgs.getD {p : Json → Prop} (h : r.ForArgs p) (hnull : p .null) {e : Entry}
    (he : e ∈ r.entries) : p (e.args.getD .null) := by
  cases hargs : e.args with
  | none => exact hnull
  | some v => exact h e he v hargs

/-- In the value of a request no key repeats, since none does in the arguments. -/
theorem wellFormed_toJson (h : r.ForArgs Json.WellFormed) : r.toJson.WellFormed := by
  refine Json.itemsWellFormed_iff.2 fun v hv => ?_
  obtain ⟨e, he, rfl⟩ := List.mem_map.1 hv
  exact ⟨trivial, h.getD trivial he, trivial⟩

theorem floatFree_toJson (h : r.ForArgs fun v => v.floatFree = true) :
    r.toJson.floatFree = true := by
  refine Json.itemsFloatFree_iff.2 fun v hv => ?_
  obtain ⟨e, he, rfl⟩ := List.mem_map.1 hv
  refine Json.itemsFloatFree_iff.2 fun w hw => ?_
  rcases List.mem_cons.1 hw with rfl | hw
  · rfl
  · rw [List.mem_singleton.1 hw]
    exact h.getD rfl he

/-- The text of a request is two levels deeper than its arguments. -/
theorem depth_toJson_le_iff :
    r.toJson.depth ≤ Json.maxDepth ↔ r.ForArgs fun v => v.depth ≤ 125 := by
  have hitems : r.toJson.depth ≤ Json.maxDepth ↔
      Json.itemsDepth (r.entries.map Entry.toJson) ≤ 126 := Nat.add_le_add_iff_right
  rw [hitems, Json.itemsDepth_le_iff]
  constructor
  · intro h e he v hv
    have hentry := h _ (List.mem_map_of_mem he)
    rw [e.depth_toJson, hv] at hentry
    exact Nat.le_of_succ_le_succ hentry
  · intro h v hv
    obtain ⟨e, he, rfl⟩ := List.mem_map.1 hv
    have hargs : (e.args.getD .null).depth ≤ 125 := h.getD (Nat.zero_le _) he
    rw [e.depth_toJson]
    omega

/-- A request is read from its value, with `null` for arguments that are left out. -/
theorem ofJson_toJson (r : Request) : ofJson r.toJson = .ok r.filled := by
  have hentries : (r.entries.map Entry.toJson).mapM Entry.ofJson? =
      some (r.entries.map Entry.filled) := by
    -- on the entries: each pair is read for itself
    induction r.entries with
    | nil => rfl
    | cons e rest ih =>
      rw [List.map_cons, List.mapM_cons, ih, e.ofJson?_toJson]
      rfl
  rw [toJson, ofJson, hentries]
  rfl

/-- The text of a request without floats reads back as the filled request if the
text is not too deep. -/
theorem read?_write_eq (hr : r.ForArgs Json.WellFormed)
    (hf : r.ForArgs fun v => v.floatFree = true) :
    read? r.write = if r.toJson.depth ≤ Json.maxDepth then some r.filled else none := by
  -- the value comes back as the map of its members, which is the value itself
  rw [read?, write, Json.read?_write (floatFree_toJson hf)]
  by_cases hdepth : r.toJson.depth ≤ Json.maxDepth
  · rw [if_pos hdepth, if_pos hdepth, Option.bind_some,
      Json.normalize_of_wellFormed _ (wellFormed_toJson hr), ofJson_toJson]
    rfl
  · rw [if_neg hdepth, if_neg hdepth]
    rfl

/-- Filling changes a request if and only if there is something to fill. -/
theorem entriesEquiv_map_filled_iff {entries : List Entry}
    (h : ∀ e ∈ entries, ∀ v ∈ e.args, v.WellFormed) :
    entriesEquiv (entries.map Entry.filled) entries = true ↔
      ∀ e ∈ entries, e.args ≠ none := by
  induction entries with
  | nil => simp [entriesEquiv]
  | cons e rest ih =>
    rw [List.forall_mem_cons] at h
    rw [List.map_cons, entriesEquiv, Bool.and_eq_true, Entry.equiv_filled_iff h.1, ih h.2,
      List.forall_mem_cons]

end Request

/-- A request equals itself, entry by entry. -/
theorem WellFormedRequest.equiv_refl (r : WellFormedRequest) : r.equiv r.toRequest = true := by
  obtain ⟨⟨entries⟩, hr⟩ := r
  -- on the entries, whose arguments are well-formed one by one
  induction entries with
  | nil => rfl
  | cons e rest ih =>
    have hargs := List.forall_mem_cons.1 hr
    exact Bool.and_eq_true_iff.2 ⟨Entry.equiv_self hargs.1, ih hargs.2⟩

namespace Compiler

/-- No compiler does anything else at a filled entry. -/
theorem step_filled (c : Compiler) (e : Entry) : c.step e.filled = c.step e := by
  rw [step, step, e.arguments_filled]
  rfl

/-- Nothing that a compiler does tells a request from the filled one. -/
theorem trace_filled (c : Compiler) (r : Request) : c.trace r.filled = c.trace r := by
  have hsteps : SameSteps c c (r.entries.map Entry.filled) r.entries :=
    List.forall₂_map_left_iff.2 (List.forall₂_same.2 fun e _ => ⟨rfl, c.step_filled e⟩)
  exact trace_congr rfl hsteps

end Compiler

namespace Request

/-- The text of a request without floats can be read if and only if the
arguments of every entry nest at most 125 arrays and objects. Then every entry
comes back with its kind and its arguments, `null` for none; so the outcome is
equal to the request if and only if no entry is without arguments, and every
compiler builds the same from both. -/
theorem read?_write_iff (r : WellFormedRequest) (hf : r.ForArgs fun v => v.floatFree = true) :
    ((∃ s, read? r.write = some s) ↔ r.ForArgs fun v => v.depth ≤ 125) ∧
    ∀ s, read? r.write = some s →
      s.entries = r.entries.map (fun e => ⟨e.kind, some (e.args.getD .null)⟩) ∧
      (s.equiv r.toRequest = true ↔ ∀ e ∈ r.entries, e.args ≠ none) ∧
      ∀ c : Compiler, c.build s = c.build r.toRequest := by
  have hread := read?_write_eq r.wellFormed hf
  refine ⟨?_, fun s hs => ?_⟩
  · rw [hread, ← depth_toJson_le_iff]
    by_cases hdepth : r.toJson.depth ≤ Json.maxDepth
    · simp [hdepth]
    · simp [hdepth]
  · -- what is read can only be the filled request
    obtain rfl : s = r.filled := by
      rw [hread] at hs
      split at hs
      · exact (Option.some.inj hs).symm
      · exact absurd hs nofun
    refine ⟨rfl, entriesEquiv_map_filled_iff r.wellFormed, fun c => ?_⟩
    exact congrArg Trace.result (c.trace_filled r.toRequest)

/-- Arguments that are left out can be read back, but not as such. -/
theorem read?_write_of_absent :
    let r : WellFormedRequest :=
      ⟨⟨[⟨"must", none⟩, ⟨"filter", some (.array [.string "a", .null])⟩]⟩, by decide⟩
    (r.ForArgs fun v => v.floatFree = true) ∧
      (∃ s, read? r.write = some s) ∧
      ∀ s, read? r.write = some s → s.equiv r.toRequest = false := by
  intro r
  have hf : r.ForArgs fun v => v.floatFree = true := by decide
  have hdepth : r.ForArgs fun v => v.depth ≤ 125 := by decide
  obtain ⟨hreads, hsame⟩ := read?_write_iff r hf
  refine ⟨hf, hreads.2 hdepth, fun s hs => ?_⟩
  have hequiv := (hsame s hs).2.1
  rw [← Bool.not_eq_true, hequiv]
  exact fun h => h _ (List.mem_cons_self ..) rfl

end Request

end SearchRules
