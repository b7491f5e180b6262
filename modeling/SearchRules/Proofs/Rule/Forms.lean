import SearchRules.Proofs.Rule.Reading

/-!
# Two forms of one record

A record is read from an array or from an object, by code that shares nothing
but the fields. Still the object is nothing new: it stands for the array of the
values that its members give (`Record.Gives`), place by place. Where a field may
be left out the array is shorter.

Some values write one part of a record in more than one way: a clause is its
name or an object with that name for its one key (`Clause.Written`), and extra
settings may be left out, be `null` or be an object (`Settings`).

> `ofItems_eq_ok_iff_cons`: the arrays that are read.
>
> `ofMembers_eq_ok_iff_ofItems`: an object is read if and only if the array that
> it stands for is, and as the same. This needs no more of a record than that its
> first two fields cannot be left out.
-/

namespace SearchRules

/-! ## Values that write one part -/

/-- A value that writes a clause: its name, or an object with the name as its one
key and `null` under it. -/
inductive Clause.Written (c : Clause) : Json → Prop
  | name : Written c (.string c.name)
  | object : Written c (.object [(c.name, .null)])

/-- What may stand at the place of the extra settings: nothing, `null`, or an
object of settings. -/
inductive Settings : List Json → Option Attributes → Prop
  | missing : Settings [] none
  | null : Settings [.null] none
  | object (members : List (String × Json)) : Settings [.object members] (some (.ofList members))

theorem Settings.length_le {vs : List Json} {as : Option Attributes} (h : Settings vs as) :
    vs.length ≤ 1 := by
  cases h <;> simp

namespace Clause

/-- The values that are read as a clause are those that write it. -/
theorem ofJson_eq_ok_iff {v : Json} {c : Clause} : ofJson v = .ok c ↔ c.Written v := by
  constructor
  · intro h
    unfold ofJson at h
    split at h
    · rw [decodeName_eq_ok_iff.1 h]
      exact .name
    · obtain ⟨c', hname, hrest⟩ := bind_eq_ok_iff.1 h
      obtain ⟨u, hunit, hc⟩ := bind_eq_ok_iff.1 hrest
      obtain rfl : c' = c := Except.ok.inj hc
      rw [decodeName_eq_ok_iff.1 hname, Json.asUnit_eq_ok_iff.1 hunit]
      exact .object
    · exact absurd h nofun
    · exact absurd h nofun
  · rintro (_ | _)
    · exact c.decodeName_name
    · show (decodeName c.name >>= fun c' => Json.asUnit .null >>= fun _ => pure c') = .ok c
      rw [c.decodeName_name]
      rfl

end Clause

/-! ## Values that are given to a field -/

namespace Field

variable {α : Type} {f : Field α}

/-- A part that must be given is given once, by a value that is read. -/
theorem ofNamed_eq_some_iff (h : f.missing = none) {vs : List Json} {a : α} :
    f.ofNamed vs = some a ↔ ∃ v, vs = [v] ∧ f.read v = .ok a := by
  match vs with
  | [] => simp [ofNamed, h]
  | [v] => simp [ofNamed, toOption_eq_some_iff]
  | _ :: _ :: _ => simp [ofNamed]

/-- No part is given twice. -/
theorem length_le_of_ofNamed {vs : List Json} {a : α} (h : f.ofNamed vs = some a) :
    vs.length ≤ 1 := by
  match vs with
  | [] => exact Nat.zero_le 1
  | [_] => exact Nat.le_refl 1
  | _ :: _ :: _ => exact absurd h nofun

/-- At its place in an array a field finds one value, or none where the array
ends before. -/
theorem element_eq_ok_iff {kind : RecordKind} {place : Nat} {items : List Json} {a : α} :
    f.element kind place items = .ok a ↔ f.ofNamed items[place]?.toList = some a := by
  unfold element
  cases items[place]? with
  | some v => exact toOption_eq_some_iff.symm
  | none =>
    show _ ↔ f.missing = some a
    cases f.missing <;> simp

/-- The settings may be left out or be `null`, and are read from an object. -/
theorem attributes_ofNamed_eq_some_iff {vs : List Json} {as : Option Attributes} :
    attributes.ofNamed vs = some as ↔ Settings vs as := by
  constructor
  · intro h
    match vs with
    | [] => exact Option.some.inj h ▸ .missing
    | [v] =>
      have hread : v.asOptionalMap = .ok as := toOption_eq_some_iff.1 h
      cases v with
      | null => exact Except.ok.inj hread ▸ .null
      | object members => exact Except.ok.inj hread ▸ .object members
      | _ => exact absurd hread nofun
    | _ :: _ :: _ => exact absurd h nofun
  · rintro (_ | _ | _) <;> rfl

end Field

/-! ## One form is read as the other -/

/-- The values of the members that have one of the names, in order. -/
def Json.valuesUnder (names : List String) (members : List (String × Json)) : List Json :=
  (members.filter fun m => m.1 ∈ names).map Prod.snd

/-- All names of a field. -/
def Field.names {α : Type} (f : Field α) : List String := f.name :: f.otherNames

theorem Field.isNamed_eq_decide {α : Type} (f : Field α) (key : String) :
    f.isNamed key = decide (key ∈ f.names) := by
  simp [isNamed, names]

theorem Field.namedValues_eq_valuesUnder {α : Type} (f : Field α)
    (members : List (String × Json)) :
    f.namedValues members = Json.valuesUnder f.names members := by
  simp only [namedValues, Json.valuesUnder, isNamed_eq_decide]

/-- A list of up to three values, place by place. -/
theorem eq_cons_cons_iff {items : List Json} {v w : Json} {rest : List Json}
    (h : rest.length ≤ 1) :
    items = v :: w :: rest ↔ items.length ≤ 3 ∧ items[0]?.toList = [v] ∧
      items[1]?.toList = [w] ∧ items[2]?.toList = rest := by
  constructor
  · rintro rfl
    refine ⟨Nat.add_le_add_right h 2, rfl, rfl, ?_⟩
    match rest with
    | [] => rfl
    | [_] => rfl
  · rintro ⟨hlength, hv, hw, hrest⟩
    -- by the number of items, which is two or three
    match items with
    | [] => exact absurd hv nofun
    | [_] => exact absurd hw nofun
    | [_, _] =>
      rw [List.cons.inj hv |>.1, List.cons.inj hw |>.1, ← hrest]
      rfl
    | [_, _, _] =>
      rw [List.cons.inj hv |>.1, List.cons.inj hw |>.1, ← hrest]
      rfl
    | _ :: _ :: _ :: _ :: _ =>
      simp only [List.length_cons] at hlength
      omega

namespace Record

variable {α β γ : Type} {r : Record α β γ}

/-- The members give to each field of the record what stands at its place. -/
def Gives (r : Record α β γ) (members : List (String × Json)) (items : List Json) : Prop :=
  r.first.namedValues members = items[0]?.toList ∧
  r.second.namedValues members = items[1]?.toList ∧
  r.third.namedValues members = items[2]?.toList

/-- An array that is read has two values and what the third field makes do with. -/
theorem ofItems_eq_ok_iff_cons (hfirst : r.first.missing = none)
    (hsecond : r.second.missing = none) {items : List Json} {a : α} {b : β} {c : γ} :
    r.ofItems items = .ok (a, b, c) ↔
      ∃ v w rest, items = v :: w :: rest ∧ r.first.read v = .ok a ∧ r.second.read w = .ok b ∧
        r.third.ofNamed rest = some c := by
  simp only [ofItems_eq_ok_iff, Field.element_eq_ok_iff, Field.ofNamed_eq_some_iff hfirst,
    Field.ofNamed_eq_some_iff hsecond]
  constructor
  · rintro ⟨⟨v, hv, ha⟩, ⟨w, hw, hb⟩, hc, hlength⟩
    have hrest := Field.length_le_of_ofNamed hc
    exact ⟨v, w, _, (eq_cons_cons_iff hrest).2 ⟨hlength, hv, hw, rfl⟩, ha, hb, hc⟩
  · rintro ⟨v, w, rest, hitems, ha, hb, hc⟩
    obtain ⟨hlength, hv, hw, hrest⟩ :=
      (eq_cons_cons_iff (Field.length_le_of_ofNamed hc)).1 hitems
    exact ⟨⟨v, hv, ha⟩, ⟨w, hw, hb⟩, hrest ▸ hc, hlength⟩

/-- An object is read as the array of the values that its members give. -/
theorem ofMembers_eq_ok_iff_ofItems (hr : r.Distinct) (hfirst : r.first.missing = none)
    (hsecond : r.second.missing = none) {members : List (String × Json)} {p : α × β × γ} :
    r.ofMembers members = .ok p ↔
      ∃ items, r.Gives members items ∧ r.ofItems items = .ok p := by
  obtain ⟨a, b, c⟩ := p
  constructor
  · intro h
    obtain ⟨h₁, h₂, h₃⟩ := (ofMembers_eq_ok_iff hr).1 h
    obtain ⟨v, hv, ha⟩ := (Field.ofNamed_eq_some_iff hfirst).1 h₁
    obtain ⟨w, hw, hb⟩ := (Field.ofNamed_eq_some_iff hsecond).1 h₂
    obtain ⟨-, e₁, e₂, e₃⟩ := (eq_cons_cons_iff (Field.length_le_of_ofNamed h₃)).1 rfl
    exact ⟨_, ⟨hv.trans e₁.symm, hw.trans e₂.symm, e₃.symm⟩,
      (ofItems_eq_ok_iff_cons hfirst hsecond).2 ⟨v, w, _, rfl, ha, hb, h₃⟩⟩
  · rintro ⟨items, ⟨e₁, e₂, e₃⟩, h⟩
    obtain ⟨h₁, h₂, h₃, -⟩ := ofItems_eq_ok_iff.1 h
    rw [ofMembers_eq_ok_iff hr, e₁, e₂, e₃]
    exact ⟨Field.element_eq_ok_iff.1 h₁, Field.element_eq_ok_iff.1 h₂,
      Field.element_eq_ok_iff.1 h₃⟩

/-- What is made of a record that an array writes. -/
theorem ofItems_bind_eq_ok_iff {δ : Type} (r : Record α β γ) (hfirst : r.first.missing = none)
    (hsecond : r.second.missing = none) {make : α → β → γ → δ} {items : List Json} {d : δ} :
    (r.ofItems items >>= fun (a, b, c) => pure (make a b c)) = .ok d ↔
      ∃ v w rest a b c, items = v :: w :: rest ∧ r.first.read v = .ok a ∧
        r.second.read w = .ok b ∧ r.third.ofNamed rest = some c ∧ make a b c = d := by
  rw [bind_eq_ok_iff]
  constructor
  · rintro ⟨⟨a, b, c⟩, h, hmake⟩
    obtain ⟨v, w, rest, hitems, ha, hb, hc⟩ := (ofItems_eq_ok_iff_cons hfirst hsecond).1 h
    exact ⟨v, w, rest, a, b, c, hitems, ha, hb, hc, Except.ok.inj hmake⟩
  · rintro ⟨v, w, rest, a, b, c, hitems, ha, hb, hc, rfl⟩
    exact ⟨(a, b, c), (ofItems_eq_ok_iff_cons hfirst hsecond).2
      ⟨v, w, rest, hitems, ha, hb, hc⟩, rfl⟩

/-- What is made of a record is the same for either form. -/
theorem ofMembers_bind_eq_ok_iff {δ : Type} (hr : r.Distinct) (hfirst : r.first.missing = none)
    (hsecond : r.second.missing = none) {make : α → β → γ → δ}
    {members : List (String × Json)} {d : δ} :
    (r.ofMembers members >>= fun (a, b, c) => pure (make a b c)) = .ok d ↔
      ∃ items, r.Gives members items ∧
        (r.ofItems items >>= fun (a, b, c) => pure (make a b c)) = .ok d := by
  simp only [bind_eq_ok_iff, ofMembers_eq_ok_iff_ofItems hr hfirst hsecond]
  constructor
  · rintro ⟨p, ⟨items, hgives, hp⟩, hmake⟩
    exact ⟨items, hgives, p, hp, hmake⟩
  · rintro ⟨items, hgives, p, hp, hmake⟩
    exact ⟨p, ⟨items, hgives, hp⟩, hmake⟩

/-- Members that name no field of the record are passed over. -/
theorem find_filter_isNamed (found : Found α β γ) (members : List (String × Json)) :
    r.find found (members.filter fun m =>
      r.first.isNamed m.1 || r.second.isNamed m.1 || r.third.isNamed m.1) =
      r.find found members := by
  induction members generalizing found with
  | nil => rfl
  | cons m rest ih =>
    obtain ⟨key, v⟩ := m
    rw [List.filter_cons]
    -- a member that names a part is read as before, and any other changes nothing
    split
    · show (r.ofMember found key v >>= fun found => r.find found _) =
        (r.ofMember found key v >>= fun found => r.find found rest)
      simp only [ih]
    · next hunknown =>
      simp only [Bool.or_eq_true, not_or, Bool.not_eq_true] at hunknown
      have hmember : r.ofMember found key v = .ok found := by
        simp [ofMember, hunknown]
      rw [ih, find, hmember]
      rfl

end Record

end SearchRules
