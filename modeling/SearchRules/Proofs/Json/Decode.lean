import SearchRules.Json.Decode

/-!
# Single values, read and refused

Each reader of a single value has the values that it reads and, for every other
value, the one cause for which it refuses it. Both are told exactly, so that what
is put together from these readers can be followed in either direction.

> `bind_eq_ok_iff`, `bind_eq_error_iff`: a step after another succeeds if both
> do, and fails with the first that fails.
>
> `Json.mapM_asString_eq_error_iff`: of several items the first that is no string
> is refused.
>
> `Clause.decodeName_eq_error_iff`: the names that no clause has.
-/

namespace SearchRules

/-! ## Steps in a row -/

theorem ok_ne_error {ε α : Type} {a : α} {e : ε} : (Except.ok a : Except ε α) ≠ .error e := nofun

/-- A sequence succeeds if its parts do, the second on what the first gives. -/
theorem bind_eq_ok_iff {ε α β : Type} {x : Except ε α} {f : α → Except ε β} {b : β} :
    (x >>= f) = .ok b ↔ ∃ a, x = .ok a ∧ f a = .ok b := by
  cases x with
  | error error => simp [bind, Except.bind]
  | ok a => simp [bind, Except.bind]

/-- A sequence fails in its first part, or in the second on what the first gives. -/
theorem bind_eq_error_iff {ε α β : Type} {x : Except ε α} {f : α → Except ε β} {e : ε} :
    (x >>= f) = .error e ↔ x = .error e ∨ ∃ a, x = .ok a ∧ f a = .error e := by
  cases x with
  | error error => simp [bind, Except.bind]
  | ok a => simp [bind, Except.bind]

theorem map_eq_ok_iff {ε α β : Type} {x : Except ε α} {f : α → β} {b : β} :
    x.map f = .ok b ↔ ∃ a, x = .ok a ∧ f a = b := by
  cases x with
  | error error => simp [Except.map]
  | ok a => simp [Except.map]

theorem map_eq_error_iff {ε α β : Type} {x : Except ε α} {f : α → β} {e : ε} :
    x.map f = .error e ↔ x = .error e := by
  cases x with
  | error error => simp [Except.map]
  | ok a => simp [Except.map]

/-- A change of the error leaves successes alone. -/
theorem mapError_eq_ok_iff {ε ε' α : Type} {x : Except ε α} {f : ε → ε'} {a : α} :
    x.mapError f = .ok a ↔ x = .ok a := by
  cases x with
  | error error =>
    show Except.error (f error) = Except.ok a ↔ _
    simp
  | ok b =>
    show Except.ok b = Except.ok a ↔ _
    simp

theorem mapError_eq_error_iff {ε ε' α : Type} {x : Except ε α} {f : ε → ε'} {e' : ε'} :
    x.mapError f = .error e' ↔ ∃ e, x = .error e ∧ f e = e' := by
  cases x with
  | error error =>
    show Except.error (f error) = Except.error e' ↔ _
    simp
  | ok b =>
    show Except.ok b = Except.error e' ↔ _
    simp

/-- What is left of an outcome without its error is its success. -/
theorem toOption_eq_some_iff {ε α : Type} {x : Except ε α} {a : α} :
    x.toOption = some a ↔ x = .ok a := by
  cases x with
  | ok b => simp [Except.toOption]
  | error e => simp [Except.toOption]

/-! ## Values -/

namespace Json

/-- Strings alone are read as strings. -/
theorem asString_eq_ok_iff {v : Json} {s : String} : v.asString = .ok s ↔ v = .string s := by
  cases v <;> simp [asString]

/-- Anything else is refused, with what it is and what was expected. -/
theorem asString_eq_error_iff {v : Json} {cause : DecodeError} :
    v.asString = .error cause ↔ (∀ s, v ≠ .string s) ∧ cause = .invalidType v .string := by
  cases v <;> simp [asString, eq_comm]

theorem asItems_eq_ok_iff {v : Json} {items : List Json} :
    v.asItems = .ok items ↔ v = .array items := by
  cases v <;> simp [asItems]

theorem asItems_eq_error_iff {v : Json} {cause : DecodeError} :
    v.asItems = .error cause ↔ (∀ items, v ≠ .array items) ∧ cause = .invalidType v .sequence := by
  cases v <;> simp [asItems, eq_comm]

/-- Items are read as strings if each of them is one. -/
theorem mapM_asString_eq_ok_iff {items : List Json} {strings : List String} :
    items.mapM asString = .ok strings ↔ items = strings.map .string := by
  induction items generalizing strings with
  | nil =>
    rw [List.mapM_nil]
    show Except.ok [] = Except.ok strings ↔ _
    rw [Except.ok.injEq]
    cases strings <;> simp
  | cons v rest ih =>
    simp only [List.mapM_cons, bind_eq_ok_iff, asString_eq_ok_iff, ih]
    constructor
    · rintro ⟨s, rfl, more, rfl, hstrings⟩
      rw [← Except.ok.inj hstrings]
      rfl
    · intro h
      cases strings with
      | nil => exact absurd h nofun
      | cons s more =>
        rw [List.map_cons, List.cons.injEq] at h
        exact ⟨s, h.1, more, h.2, rfl⟩

/-- Items that are not all strings are refused for the first that is none. -/
theorem mapM_asString_eq_error_iff {items : List Json} {cause : DecodeError} :
    items.mapM asString = .error cause ↔
      ∃ (before : List String) (v : Json) (after : List Json),
        items = before.map .string ++ v :: after ∧ (∀ s, v ≠ .string s) ∧
          cause = .invalidType v .string := by
  -- on the items: the first one is at fault, or it is a string and the fault comes later
  induction items with
  | nil =>
    rw [List.mapM_nil]
    refine iff_of_false nofun ?_
    rintro ⟨before, v, after, hitems, -⟩
    exact List.append_ne_nil_of_right_ne_nil _ (List.cons_ne_nil v after) hitems.symm
  | cons w rest ih =>
    simp only [List.mapM_cons, bind_eq_error_iff, asString_eq_error_iff, asString_eq_ok_iff, ih]
    constructor
    · rintro (⟨hw, hcause⟩ | ⟨s, rfl, ⟨before, v, after, rfl, hv⟩ | ⟨strings, -, hpure⟩⟩)
      · exact ⟨[], w, rest, rfl, hw, hcause⟩
      · exact ⟨s :: before, v, after, rfl, hv⟩
      · exact absurd hpure nofun
    · rintro ⟨before, v, after, hitems, hv, hcause⟩
      cases before with
      | nil =>
        obtain ⟨rfl, rfl⟩ := List.cons.inj hitems
        exact Or.inl ⟨hv, hcause⟩
      | cons s before =>
        obtain ⟨rfl, rfl⟩ := List.cons.inj hitems
        exact Or.inr ⟨s, rfl, Or.inl ⟨before, v, after, rfl, hv, hcause⟩⟩

/-- Arrays of strings alone are read as lists of strings. -/
theorem asStrings_eq_ok_iff {v : Json} {strings : List String} :
    v.asStrings = .ok strings ↔ v = .array (strings.map .string) := by
  simp only [asStrings, bind_eq_ok_iff, asItems_eq_ok_iff, mapM_asString_eq_ok_iff]
  constructor
  · rintro ⟨items, rfl, rfl⟩
    rfl
  · rintro rfl
    exact ⟨_, rfl, rfl⟩

theorem asUnit_eq_ok_iff {v : Json} {u : Unit} : v.asUnit = .ok u ↔ v = .null := by
  cases v <;> simp [asUnit]

theorem asUnit_eq_error_iff {v : Json} {cause : DecodeError} :
    v.asUnit = .error cause ↔ v ≠ .null ∧ cause = .invalidType v .unit := by
  cases v <;> simp [asUnit, eq_comm]

/-- Settings are an object or `null`; anything else is refused. -/
theorem asOptionalMap_eq_error_iff {v : Json} {cause : DecodeError} :
    v.asOptionalMap = .error cause ↔
      v ≠ .null ∧ (∀ members, v ≠ .object members) ∧ cause = .invalidType v .map := by
  cases v <;> simp [asOptionalMap, asMap, Except.map, eq_comm]

end Json

/-! ## Names of clauses -/

namespace Clause

theorem decodeName_eq_ok_iff {s : String} {c : Clause} : decodeName s = .ok c ↔ s = c.name := by
  rw [← ofName?_eq_some_iff, decodeName_eq_ofName?]
  cases ofName? s <;> simp

/-- A name that no clause has is reported as it stands. -/
theorem decodeName_eq_error_iff {s : String} {cause : DecodeError} :
    decodeName s = .error cause ↔ (∀ c : Clause, s ≠ c.name) ∧ cause = .unknownClause s := by
  simp only [← not_exists, ← decodeName_eq_ok_iff]
  cases hname : decodeName s with
  | ok c => simp
  | error e =>
    have he : e = .unknownClause s := by
      unfold decodeName at hname
      split at hname
      · exact absurd hname nofun
      · exact (Except.error.inj hname).symm
    simp [he, eq_comm]

end Clause

end SearchRules
