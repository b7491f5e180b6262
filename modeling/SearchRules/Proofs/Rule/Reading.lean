import SearchRules.Proofs.Json.Equality
import SearchRules.Proofs.Rule.Named

/-!
# Records of equal arguments

The order of members shows while arguments are read: it decides which member is
looked at first, and so which fault is reported. It does not show in what is
read. Each field of a record reads related data from equal values
(`Field.Respects`), and a record whose fields do so does so as a whole.

> `Record.rel_read`: records read related data from equal arguments, in either
> form, or nothing from either.
>
> `respects_field`, …, `respects_clause`: the fields of the built-in rules, each
> with what it reads.
-/

namespace SearchRules

variable {α β γ : Type} {R : α → α → Prop} {S : β → β → Prop} {T : γ → γ → Prop}

theorem rel_bind_pure {x y : Except DecodeError α} (h : Option.Rel R x.toOption y.toOption)
    {f : α → β} (hf : ∀ {a b}, R a b → S (f a) (f b)) :
    Option.Rel S (x >>= fun a => pure (f a)).toOption (y >>= fun a => pure (f a)).toOption := by
  cases x with
  | error e =>
    cases y with
    | error e' => exact .none
    | ok b => exact absurd h nofun
  | ok a =>
    cases y with
    | error e' => exact absurd h nofun
    | ok b =>
      cases h with
      | some hab => exact .some (hf hab)

theorem getElem?_of_forall₂ {as bs : List α} (h : List.Forall₂ R as bs) (i : Nat) :
    Option.Rel R as[i]? bs[i]? := by
  induction h generalizing i with
  | nil => exact .none
  | cons hab _ ih =>
    cases i with
    | zero => exact .some hab
    | succ i => exact ih i

theorem rel_of_eq {a b : Option α} (h : a = b) : Option.Rel Eq a b := by
  subst h
  cases a with
  | none => exact .none
  | some a => exact .some rfl

/-! ## Fields -/

namespace Field

/-- A field that reads related data from equal values. -/
structure Respects (f : Field α) (R : α → α → Prop) : Prop where
  read : ∀ {v w}, Json.Alike v w → Option.Rel R (f.read v).toOption (f.read w).toOption
  missing : Option.Rel R f.missing f.missing

variable {f : Field α}

/-- Members that are alike in turn name alike values. -/
theorem namedValues_of_forall₂ {ms ns : List (String × Json)}
    (h : List.Forall₂ (Paired Json.Alike) ms ns) :
    List.Forall₂ Json.Alike (f.namedValues ms) (f.namedValues ns) := by
  rw [namedValues, namedValues, List.forall₂_map_left_iff, List.forall₂_map_right_iff]
  refine (List.rel_filter (fun m n hmn => ?_) h).imp fun m n hmn => hmn.2
  show f.isNamed m.1 = true ↔ f.isNamed n.1 = true
  rw [hmn.1]

theorem namedValues_of_perm {ms ns : List (String × Json)} (h : ms.Perm ns) :
    (f.namedValues ms).Perm (f.namedValues ns) :=
  (h.filter _).map _

/-- A field is given at most once, so the order of its values does not matter. -/
theorem ofNamed_of_perm {vs ws : List Json} (h : vs.Perm ws) : f.ofNamed vs = f.ofNamed ws := by
  -- two values are refused in either order, and fewer have only one
  match vs, ws, h with
  | [], ws, h => rw [List.nil_perm.1 h]
  | [v], ws, h => rw [List.singleton_perm.1 h]
  | v :: v' :: rest, [], h => exact absurd h.length_eq nofun
  | v :: v' :: rest, [w], h => exact absurd h.length_eq nofun
  | v :: v' :: rest, w :: w' :: others, h => rfl

/-- A reader that respects a relation reads alike values alike. -/
theorem Respects.ofNamed (hf : f.Respects R) {vs ws : List Json}
    (h : List.Forall₂ Json.Alike vs ws) :
    Option.Rel R (f.ofNamed vs) (f.ofNamed ws) := by
  match vs, ws, h with
  | [], [], _ => exact hf.missing
  | [v], [w], .cons hvw .nil => exact hf.read hvw
  | _ :: _ :: _, _ :: _ :: _, _ => exact .none

/-- A reader that respects a relation reads its field alike from equal objects, in
whatever order their members stand. -/
theorem Respects.ofNamed_object (hf : f.Respects R) {ms ns : List (String × Json)}
    (h : Json.Alike (.object ms) (.object ns)) :
    Option.Rel R (f.ofNamed (f.namedValues ms)) (f.ofNamed (f.namedValues ns)) := by
  -- first equal values in the order of one object, then the order of the other
  obtain ⟨l, hl, hperm⟩ := Json.exists_perm_of_alike h
  rw [← ofNamed_of_perm (namedValues_of_perm hperm)]
  exact hf.ofNamed (namedValues_of_forall₂ hl)

/-- A reader that respects a relation reads its field alike from arrays that are equal
item by item. -/
theorem Respects.element (hf : f.Respects R) {vs ws : List Json}
    (h : List.Forall₂ Json.Alike vs ws) (kind : RecordKind) (place : Nat) :
    Option.Rel R (f.element kind place vs).toOption (f.element kind place ws).toOption := by
  have hplace := getElem?_of_forall₂ h place
  unfold Field.element
  generalize vs[place]? = x at hplace ⊢
  generalize ws[place]? = y at hplace ⊢
  cases hplace with
  | some hvw => exact hf.read hvw
  | none =>
    have hmissing := hf.missing
    generalize f.missing = a at hmissing ⊢
    cases hmissing with
    | some haa => exact .some haa
    | none => exact .none

end Field

/-! ## Records -/

namespace Record

/-- Three values, if they are all there. -/
def triple (a : Option α) (b : Option β) (c : Option γ) : Option (α × β × γ) :=
  a.bind fun a => b.bind fun b => c.map fun c => (a, b, c)

/-- What records read, related field by field. -/
def Related (R : α → α → Prop) (S : β → β → Prop) (T : γ → γ → Prop)
    (p q : α × β × γ) : Prop := R p.1 q.1 ∧ S p.2.1 q.2.1 ∧ T p.2.2 q.2.2

theorem triple_eq_some_iff {a? : Option α} {b? : Option β} {c? : Option γ} {a : α} {b : β}
    {c : γ} : triple a? b? c? = some (a, b, c) ↔ a? = some a ∧ b? = some b ∧ c? = some c := by
  cases a? <;> cases b? <;> cases c? <;> simp [triple]

theorem rel_triple {a a' : Option α} {b b' : Option β} {c c' : Option γ}
    (ha : Option.Rel R a a') (hb : Option.Rel S b b') (hc : Option.Rel T c c') :
    Option.Rel (Related R S T) (triple a b c) (triple a' b' c') := by
  refine rel_bind ha fun haa => rel_bind hb fun hbb => ?_
  cases hc with
  | none => exact .none
  | some hcc => exact .some ⟨haa, hbb, hcc⟩

variable {r : Record α β γ}

/-- Apart from its error, an object is read part by part, since no member counts for
two. -/
theorem toOption_ofMembers (hr : r.Distinct) (members : List (String × Json)) :
    (r.ofMembers members).toOption =
      triple (r.first.ofNamed (r.first.namedValues members))
        (r.second.ofNamed (r.second.namedValues members))
        (r.third.ofNamed (r.third.namedValues members)) := by
  apply Option.ext
  rintro ⟨a, b, c⟩
  rw [toOption_eq_some_iff, ofMembers_eq_ok_iff hr, triple_eq_some_iff]

/-- Apart from its error, an array is read part by part, if it is not too long. -/
theorem toOption_ofItems (items : List Json) :
    (r.ofItems items).toOption =
      if items.length ≤ 3 then
        triple (r.first.element r.kind 0 items).toOption
          (r.second.element r.kind 1 items).toOption (r.third.element r.kind 2 items).toOption
      else none := by
  apply Option.ext
  rintro ⟨a, b, c⟩
  rw [toOption_eq_some_iff, ofItems_eq_ok_iff]
  split
  · next hlength =>
    rw [triple_eq_some_iff, toOption_eq_some_iff, toOption_eq_some_iff, toOption_eq_some_iff]
    simp [hlength]
  · next hlength => simp [hlength]

/-- A record reads related data from equal arguments if its fields do. -/
theorem rel_read (hr : r.Distinct) (hfirst : r.first.Respects R) (hsecond : r.second.Respects S)
    (hthird : r.third.Respects T) {v w : Json} (h : Json.Alike v w) :
    Option.Rel (Related R S T) (r.read v).toOption (r.read w).toOption := by
  -- by the form of the arguments; only arrays and objects are read at all
  cases h.view with
  | array hitems =>
    show Option.Rel _ (r.ofItems _).toOption (r.ofItems _).toOption
    rw [toOption_ofItems, toOption_ofItems, hitems.length_eq]
    split
    · exact rel_triple (hfirst.element hitems r.kind 0) (hsecond.element hitems r.kind 1)
        (hthird.element hitems r.kind 2)
    · exact .none
  | object hmembers =>
    show Option.Rel _ (r.ofMembers _).toOption (r.ofMembers _).toOption
    rw [toOption_ofMembers hr, toOption_ofMembers hr]
    exact rel_triple (hfirst.ofNamed_object hmembers) (hsecond.ofNamed_object hmembers)
      (hthird.ofNamed_object hmembers)
  | null => exact .none
  | bool b => exact .none
  | number hn => exact .none
  | string s => exact .none

end Record

/-! ## The fields of the built-in rules -/

namespace Field

/-- Equal values are the same string. -/
theorem respects_field : field.Respects Eq := by
  refine ⟨fun h => ?_, .none⟩
  cases h.view with
  | string s => exact .some rfl
  | null => exact .none
  | bool b => exact .none
  | number hn => exact .none
  | array hitems => exact .none
  | object hmembers => exact .none

/-- A value is taken as it is. -/
theorem respects_value : value.Respects Json.Alike := ⟨fun h => .some h, .none⟩

/-- Equal arrays have equal items. -/
theorem respects_values : values.Respects (List.Forall₂ Json.Alike) := by
  refine ⟨fun h => ?_, .none⟩
  cases h.view with
  | array hitems => exact .some hitems
  | null => exact .none
  | bool b => exact .none
  | number hn => exact .none
  | string s => exact .none
  | object hmembers => exact .none

/-- Equal items are the same strings, if they are strings at all. -/
theorem mapM_asString_of_forall₂ {vs ws : List Json} (h : List.Forall₂ Json.Alike vs ws) :
    (vs.mapM Json.asString).toOption = (ws.mapM Json.asString).toOption := by
  -- on the items: equal strings are the same, and anything else ends both readings
  induction h with
  | nil => rfl
  | @cons v w vs ws hvw _ ih =>
    rw [List.mapM_cons, List.mapM_cons]
    cases hvw.view with
    | string s =>
      have hcons : ∀ x : Except DecodeError (List String),
          (x.map (s :: ·)).toOption = x.toOption.map (s :: ·) := by
        intro x
        cases x <;> rfl
      show ((vs.mapM Json.asString).map (s :: ·)).toOption =
        ((ws.mapM Json.asString).map (s :: ·)).toOption
      rw [hcons, hcons, ih]
    | null => rfl
    | bool b => rfl
    | number hn => rfl
    | array hitems => rfl
    | object hmembers => rfl

/-- Equal arrays of strings are the same list. -/
theorem respects_fields : fields.Respects Eq := by
  refine ⟨fun h => ?_, .none⟩
  cases h.view with
  | array hitems => exact rel_of_eq (mapM_asString_of_forall₂ hitems)
  | null => exact .none
  | bool b => exact .none
  | number hn => exact .none
  | string s => exact .none
  | object hmembers => exact .none

/-- Equal objects are settings that agree. -/
theorem respects_attributes :
    attributes.Respects (Option.Rel (OrderedMap.Agree Json.Alike)) := by
  refine ⟨fun h => ?_, .some .none⟩
  cases h.view with
  | null => exact .some .none
  | object hmembers => exact .some (.some (Json.agree_ofList hmembers))
  | bool b => exact .none
  | number hn => exact .none
  | string s => exact .none
  | array hitems => exact .none

/-- Equal objects write the same clause: both have one member, or neither writes any. -/
theorem toOption_ofJson_object {ms ns : List (String × Json)}
    (h : Json.Alike (.object ms) (.object ns)) :
    (Clause.ofJson (.object ms)).toOption = (Clause.ofJson (.object ns)).toOption := by
  obtain ⟨l, hl, hperm⟩ := Json.exists_perm_of_alike h
  -- only an object of one member writes a clause, and there is one order of it
  match ms, l, hl with
  | [], [], _ => rw [List.nil_perm.1 hperm]
  | [(key, v)], [(key', w)], .cons hpair .nil =>
    obtain ⟨rfl, hvw⟩ : key = key' ∧ Json.Alike v w := hpair
    rw [← List.singleton_perm.1 hperm]
    show (Clause.decodeName key >>= fun c => v.asUnit >>= fun _ => pure c).toOption =
      (Clause.decodeName key >>= fun c => w.asUnit >>= fun _ => pure c).toOption
    cases Clause.decodeName key with
    | error e => rfl
    | ok c => cases hvw.view <;> rfl
  | _ :: _ :: _, _ :: _ :: _, _ =>
    have hlength := hperm.length_eq
    match ns, hlength with
    | _ :: _ :: _, _ => rfl

/-- Equal values write the same clause. -/
theorem respects_clause : clause.Respects Eq := by
  refine ⟨fun h => rel_of_eq ?_, .none⟩
  cases h.view with
  | null => rfl
  | bool b => rfl
  | number hn => rfl
  | string s => rfl
  | array hitems => rfl
  | object hmembers => exact toOption_ofJson_object hmembers

end Field

end SearchRules
