import SearchRules.Proofs.Json.Decode
import SearchRules.Rule.Basic

/-!
# Records read member by member

An object that writes a record is read in the order of its members, and yet what
is read does not depend on that order. Every field looks at the values that
stand under its own names and at nothing else; it wants at most one of them, and
one unless it can do without (`Field.ofNamed`).

> `Record.find_eq_ok_iff`: one run over the members is three runs, each over the
> values of one field. The induction is over the members, for any fields that
> have been found before.
>
> `Record.ofMembers_eq_ok_iff`: what is read from an object, field by field.
>
> `Record.ofItems_eq_ok_iff`: the same for an array.
-/

namespace SearchRules

namespace Field

variable {α : Type} (f : Field α)

/-- The values that members give to the field, in order. -/
def namedValues (members : List (String × Json)) : List Json :=
  (members.filter fun m => f.isNamed m.1).map Prod.snd

/-- Read the values of one field in turn. -/
def gather (before : Option α) (vs : List Json) : Except DecodeError (Option α) :=
  vs.foldlM f.member before

/-- What the values of a field come to: at most one may be given. -/
def ofNamed : List Json → Option α
  | [] => f.missing
  | [v] => (f.read v).toOption
  | _ => none

theorem namedValues_cons_of_named {key : String} (h : f.isNamed key = true) (v : Json)
    (rest : List (String × Json)) :
    f.namedValues ((key, v) :: rest) = v :: f.namedValues rest := by
  simp [namedValues, h]

theorem namedValues_cons_of_not_named {key : String} (h : f.isNamed key = false) (v : Json)
    (rest : List (String × Json)) :
    f.namedValues ((key, v) :: rest) = f.namedValues rest := by
  simp [namedValues, h]

theorem gather_cons (before : Option α) (v : Json) (vs : List Json) :
    f.gather before (v :: vs) = (f.member before v).bind fun found => f.gather found vs := by
  rw [gather, List.foldlM_cons]
  rfl

/-- A field that has been found takes no further value. -/
theorem gather_some_eq_ok_iff {a : α} {vs : List Json} {found : Option α} :
    f.gather (some a) vs = .ok found ↔ vs = [] ∧ found = some a := by
  cases vs with
  | nil =>
    show Except.ok (some a) = Except.ok found ↔ _
    rw [Except.ok.injEq]
    simp [eq_comm]
  | cons v rest =>
    rw [gather_cons]
    simp [member, Except.bind]

/-- At the end the field has what was found, or what it has when it is left out. -/
theorem close_eq_ok_iff {found : Option α} {a : α} :
    f.close found = .ok a ↔ found.or f.missing = some a := by
  unfold close
  cases found.or f.missing <;> simp

/-- Taking all values and closing the field is deciding on the list of its values. -/
theorem gather_close_iff {vs : List Json} {a : α} :
    (∃ found, f.gather none vs = .ok found ∧ f.close found = .ok a) ↔
      f.ofNamed vs = some a := by
  cases vs with
  | nil =>
    have hnil : f.gather none [] = .ok none := rfl
    rw [hnil]
    simp [close_eq_ok_iff, ofNamed]
  | cons v rest =>
    rw [gather_cons, member]
    cases hread : f.read v with
    | error error =>
      -- a first value that cannot be read ends it, whether or not there is a second
      have hnone : f.ofNamed (v :: rest) = none := by
        cases rest with
        | nil => simp [ofNamed, hread, Except.toOption]
        | cons w rest => rfl
      rw [hnone]
      simp [Except.map, Except.bind]
    | ok b =>
      show (∃ found, f.gather (some b) rest = .ok found ∧ f.close found = .ok a) ↔ _
      simp only [gather_some_eq_ok_iff]
      cases rest with
      | nil => simp [close_eq_ok_iff, ofNamed, hread, Except.toOption]
      | cons w rest => simp [ofNamed]

end Field

namespace Record

variable {α β γ : Type} (r : Record α β γ)

/-- No key names two fields of the record. -/
structure Distinct : Prop where
  first_second : ∀ key, r.first.isNamed key = true → r.second.isNamed key = false
  first_third : ∀ key, r.first.isNamed key = true → r.third.isNamed key = false
  second_third : ∀ key, r.second.isNamed key = true → r.third.isNamed key = false

variable {r}

/-- Members are read as if each field were read alone. -/
theorem find_eq_ok_iff (hr : r.Distinct) {members : List (String × Json)}
    {found result : Found α β γ} :
    r.find found members = .ok result ↔
      r.first.gather found.first (r.first.namedValues members) = .ok result.first ∧
      r.second.gather found.second (r.second.namedValues members) = .ok result.second ∧
      r.third.gather found.third (r.third.namedValues members) = .ok result.third := by
  induction members generalizing found with
  | nil =>
    obtain ⟨a, b, c⟩ := found
    obtain ⟨a', b', c'⟩ := result
    show Except.ok _ = Except.ok _ ↔
      Except.ok _ = Except.ok _ ∧ Except.ok _ = Except.ok _ ∧ Except.ok _ = Except.ok _
    simp only [Except.ok.injEq, Found.mk.injEq]
  | cons m rest ih =>
    obtain ⟨key, v⟩ := m
    have hfind : r.find found ((key, v) :: rest) =
        (r.ofMember found key v).bind fun found => r.find found rest := rfl
    rw [hfind, ofMember]
    -- a member belongs to one field, or to none
    by_cases h₁ : r.first.isNamed key = true
    · rw [if_pos h₁, r.first.namedValues_cons_of_named h₁,
        r.second.namedValues_cons_of_not_named (hr.first_second key h₁),
        r.third.namedValues_cons_of_not_named (hr.first_third key h₁), Field.gather_cons]
      cases r.first.member found.first v with
      | error error => simp [Except.map, Except.bind]
      | ok a => exact ih
    rw [Bool.not_eq_true] at h₁
    rw [if_neg (by simp [h₁]), r.first.namedValues_cons_of_not_named h₁]
    by_cases h₂ : r.second.isNamed key = true
    · rw [if_pos h₂, r.second.namedValues_cons_of_named h₂,
        r.third.namedValues_cons_of_not_named (hr.second_third key h₂), Field.gather_cons]
      cases r.second.member found.second v with
      | error error => simp [Except.map, Except.bind]
      | ok b => exact ih
    rw [Bool.not_eq_true] at h₂
    rw [if_neg (by simp [h₂]), r.second.namedValues_cons_of_not_named h₂]
    by_cases h₃ : r.third.isNamed key = true
    · rw [if_pos h₃, r.third.namedValues_cons_of_named h₃, Field.gather_cons]
      cases r.third.member found.third v with
      | error error => simp [Except.map, Except.bind]
      | ok c => exact ih
    rw [Bool.not_eq_true] at h₃
    rw [if_neg (by simp [h₃]), r.third.namedValues_cons_of_not_named h₃]
    exact ih

/-- What is read from an object, each field from the values under its names. -/
theorem ofMembers_eq_ok_iff (hr : r.Distinct) {members : List (String × Json)}
    {a : α} {b : β} {c : γ} :
    r.ofMembers members = .ok (a, b, c) ↔
      r.first.ofNamed (r.first.namedValues members) = some a ∧
      r.second.ofNamed (r.second.namedValues members) = some b ∧
      r.third.ofNamed (r.third.namedValues members) = some c := by
  simp only [← Field.gather_close_iff, ofMembers, bind_eq_ok_iff, find_eq_ok_iff hr]
  constructor
  · rintro ⟨found, ⟨h₁, h₂, h₃⟩, a', ha, b', hb, c', hc, hresult⟩
    obtain ⟨rfl, rfl, rfl⟩ : a' = a ∧ b' = b ∧ c' = c := by
      simpa [pure, Except.pure] using hresult
    exact ⟨⟨_, h₁, ha⟩, ⟨_, h₂, hb⟩, ⟨_, h₃, hc⟩⟩
  · rintro ⟨⟨x, h₁, ha⟩, ⟨y, h₂, hb⟩, ⟨z, h₃, hc⟩⟩
    exact ⟨⟨x, y, z⟩, ⟨h₁, h₂, h₃⟩, a, ha, b, hb, c, hc, rfl⟩

/-- An array gives the parts by place and has no element too many. -/
theorem ofItems_eq_ok_iff {items : List Json} {a : α} {b : β} {c : γ} :
    r.ofItems items = .ok (a, b, c) ↔
      r.first.element r.kind 0 items = .ok a ∧ r.second.element r.kind 1 items = .ok b ∧
      r.third.element r.kind 2 items = .ok c ∧ items.length ≤ 3 := by
  simp only [ofItems, bind_eq_ok_iff]
  constructor
  · rintro ⟨a', ha, b', hb, c', hc, hresult⟩
    split at hresult
    · next hlength =>
      obtain ⟨rfl, rfl, rfl⟩ : a' = a ∧ b' = b ∧ c' = c := by
        simpa [pure, Except.pure] using hresult
      exact ⟨ha, hb, hc, hlength⟩
    · exact absurd hresult nofun
  · rintro ⟨ha, hb, hc, hlength⟩
    exact ⟨a, ha, b, hb, c, hc, if_pos hlength⟩

/-! ## The records of the built-in rules -/

/-- A field of one name shares no name with a field that does not have it. -/
theorem not_named_of_single {α β : Type} {f : Field α} {g : Field β}
    (hf : f.otherNames = []) (hg : g.isNamed f.name = false) :
    ∀ key, f.isNamed key = true → g.isNamed key = false := by
  intro key hkey
  rw [Field.isNamed, hf, List.contains_nil, Bool.or_false, decide_eq_true_iff] at hkey
  rw [hkey]
  exact hg

/-- No two parts of a condition share a name. -/
theorem distinct_condition : condition.Distinct :=
  ⟨not_named_of_single rfl rfl, not_named_of_single rfl rfl, not_named_of_single rfl rfl⟩

theorem distinct_multiMatch : multiMatch.Distinct :=
  ⟨not_named_of_single rfl rfl, not_named_of_single rfl rfl, not_named_of_single rfl rfl⟩

theorem distinct_range : range.Distinct :=
  ⟨not_named_of_single rfl rfl, not_named_of_single rfl rfl, not_named_of_single rfl rfl⟩

end Record

end SearchRules
