import SearchRules.Proofs.Rule.Grammar
import SearchRules.Proofs.Rule.Part

/-!
# The fault that is reported

Arguments can be wrong in several places at once, and one fault is reported. Which
one is told here by places alone: the elements of an array are places, the members
of an object are, and so are the parts that an object lacks. What is wrong at one
place is said without regard to any other (`ElementFault`, `MemberFault`,
`MissingPart`), and the first place with a fault decides (`FirstAt`).

> `bind_eq_error_iff_reported`: one step of a reader is the first place. Reading a
> record is such steps in a row, whether over the fields or over the members.
>
> `Record.Reads.ofItems_eq_error_iff`, `Record.Reads.ofMembers_eq_error_iff`: the
> faults of a record in either form, the latter by induction on the members, with
> those that have been read so far in front.
>
> `Rule.ofArguments_eq_error_iff_first`: the fault of any arguments, and what
> cannot change it.
-/

namespace SearchRules

variable {α β γ δ : Type}

/-! ## First places -/

/-- Something is wrong at a place and nothing at any place before it. -/
structure FirstAt (Fault : Nat → DecodeError → Prop) (place : Nat) (cause : DecodeError) :
    Prop where
  fault : Fault place cause
  before : ∀ earlier < place, ∀ other, ¬Fault earlier other

/-- The fault at the first place that has one, or no fault at all and what comes
after. -/
def Reported (Fault : Nat → DecodeError → Prop) (cause : DecodeError) (after : Prop) : Prop :=
  (∃ place, FirstAt Fault place cause) ∨ (∀ place other, ¬Fault place other) ∧ after

section

variable {Fault Other : Nat → DecodeError → Prop} {place : Nat} {cause : DecodeError}
  {after : Prop}

/-- Being first at a place depends only on the places up to it. -/
theorem FirstAt.congr (h : FirstAt Fault place cause)
    (hsame : ∀ earlier ≤ place, ∀ other, Other earlier other ↔ Fault earlier other) :
    FirstAt Other place cause where
  fault := (hsame place (Nat.le_refl place) cause).2 h.fault
  before earlier hearlier other hother :=
    h.before earlier hearlier other ((hsame earlier (Nat.le_of_lt hearlier) other).1 hother)

theorem reported_of_fault (h : Fault 0 cause) : Reported Fault cause after :=
  Or.inl ⟨0, h, fun _ hearlier => absurd hearlier (Nat.not_lt_zero _)⟩

/-- With a fault at the first place, no other one is reported. -/
theorem eq_of_reported (h : Fault 0 cause) (hfun : ∀ other, Fault 0 other → other = cause)
    {other : DecodeError} (hother : Reported Fault other after) : other = cause := by
  rcases hother with ⟨place, hfirst⟩ | ⟨hnone, -⟩
  · cases place with
    | zero => exact hfun other hfirst.fault
    | succ place => exact absurd h (hfirst.before 0 (Nat.succ_pos place) cause)
  · exact absurd h (hnone 0 cause)

/-- Without a fault at the first place the others decide. -/
theorem reported_iff_of_none (h : ∀ other, ¬Fault 0 other) :
    Reported Fault cause after ↔ Reported (fun place => Fault (place + 1)) cause after := by
  refine or_congr ⟨?_, ?_⟩ (and_congr_left fun _ => ⟨fun hnone place => hnone (place + 1), ?_⟩)
  · -- the first place is not at fault, so all others move down by one
    rintro ⟨place, hfault, hbefore⟩
    cases place with
    | zero => exact absurd hfault (h cause)
    | succ place =>
      exact ⟨place, hfault, fun earlier hearlier => hbefore _ (Nat.succ_lt_succ hearlier)⟩
  · rintro ⟨place, hfault, hbefore⟩
    refine ⟨place + 1, hfault, fun earlier hearlier => ?_⟩
    cases earlier with
    | zero => exact h
    | succ earlier => exact hbefore earlier (Nat.lt_of_succ_lt_succ hearlier)
  · intro hnone place
    cases place with
    | zero => exact h
    | succ place => exact hnone place

/-- If no place is at fault, what comes after the places decides. -/
theorem reported_iff_after (h : ∀ place other, ¬Fault place other) :
    Reported Fault cause after ↔ after := by
  constructor
  · rintro (⟨place, hfirst⟩ | ⟨-, hafter⟩)
    · exact absurd hfirst.fault (h place cause)
    · exact hafter
  · intro hafter
    exact Or.inr ⟨h, hafter⟩

/-- A step that fails for what is wrong at the first place, and then what reports
the places after it. -/
theorem bind_eq_error_iff_reported {x : Except DecodeError α} {f : α → Except DecodeError δ}
    (hx : ∀ other, x = .error other ↔ Fault 0 other)
    (hf : ∀ a, x = .ok a →
      (f a = .error cause ↔ Reported (fun place => Fault (place + 1)) cause after)) :
    (x >>= f) = .error cause ↔ Reported Fault cause after := by
  -- a fault here is the first; without one the next places decide
  cases x with
  | error e =>
    have he : Fault 0 e := (hx e).1 rfl
    have hfun : ∀ other, Fault 0 other → other = e := fun other hother =>
      (Except.error.inj ((hx other).2 hother)).symm
    constructor
    · intro h
      obtain rfl : e = cause := Except.error.inj h
      exact reported_of_fault he
    · intro h
      rw [eq_of_reported he hfun h]
      rfl
  | ok a =>
    have hnone : ∀ other, ¬Fault 0 other := fun other hother =>
      absurd ((hx other).2 hother) nofun
    exact (hf a rfl).trans (reported_iff_of_none hnone).symm

end

/-! ## What is wrong at a place -/

namespace RuleKind

/-- What is wrong with an array at a place. -/
inductive ElementFault (kind : RuleKind) (items : List Json) (place : Nat) : DecodeError → Prop
  /-- The array ends before a part that is required. -/
  | ends {part : Part} (hpart : kind.parts[place]? = some part) (hrequired : part.Required)
    (hends : items[place]? = none) : ElementFault kind items place (.tooShort place kind.recordKind)
  /-- The element is wrong for its part. -/
  | wrong {part : Part} {v : Json} {cause : DecodeError} (hpart : kind.parts[place]? = some part)
    (hv : items[place]? = some v) (h : part.Wrong v cause) : ElementFault kind items place cause

/-- What is wrong with a member that comes after others. -/
inductive Refuses (kind : RuleKind) (before : List (String × Json)) :
    String × Json → DecodeError → Prop
  /-- The part has been named before. It does not matter what stands there. -/
  | again {part : Part} {key : String} {v : Json} (hpart : part ∈ kind.parts)
    (hkey : key ∈ part.names) (hbefore : part.NamedIn before) :
    Refuses kind before (key, v) (.duplicateField part.name)
  /-- The value is wrong for the part that the key names. -/
  | wrong {part : Part} {key : String} {v : Json} {cause : DecodeError} (hpart : part ∈ kind.parts)
    (hkey : key ∈ part.names) (hbefore : ¬part.NamedIn before) (h : part.Wrong v cause) :
    Refuses kind before (key, v) cause

/-- What is wrong with an object at the place of a member. -/
def MemberFault (kind : RuleKind) (members : List (String × Json)) (place : Nat)
    (cause : DecodeError) : Prop :=
  ∃ m, members[place]? = some m ∧ kind.Refuses (members.take place) m cause

/-- A required part, at its place in declared order, that no member names. -/
inductive MissingPart (kind : RuleKind) (members : List (String × Json)) (place : Nat) :
    DecodeError → Prop
  | intro {part : Part} (hpart : kind.parts[place]? = some part) (hrequired : part.Required)
    (hmissing : ¬part.NamedIn members) : MissingPart kind members place (.missingField part.name)

variable {kind : RuleKind}

/-- Behind the three parts no element is at fault. -/
theorem not_elementFault_of_le {items : List Json} {place : Nat} (h : 3 ≤ place)
    (cause : DecodeError) : ¬kind.ElementFault items place cause := by
  have hparts : kind.parts[place]? = none := by
    cases kind <;> exact List.getElem?_eq_none h
  rintro (⟨hpart, -, -⟩ | ⟨hpart, -, -⟩) <;> exact absurd (hparts.symm.trans hpart) nofun

theorem not_missingPart_of_le {members : List (String × Json)} {place : Nat} (h : 3 ≤ place)
    (cause : DecodeError) : ¬kind.MissingPart members place cause := by
  have hparts : kind.parts[place]? = none := by
    cases kind <;> exact List.getElem?_eq_none h
  rintro ⟨hpart, -, -⟩
  exact absurd (hparts.symm.trans hpart) nofun

end RuleKind

/-! ## Fields -/

namespace Field

variable {f : Field α} {part : Part} {kind : RuleKind} {place : Nat} {cause : DecodeError}

/-- An element is refused in a place if it is at fault there. -/
theorem Reads.element (hf : f.Reads part) (hpart : kind.parts[place]? = some part)
    {items : List Json} :
    f.element kind.recordKind place items = .error cause ↔
      kind.ElementFault items place cause := by
  unfold Field.element
  -- there is an element, which is wrong or not; or there is none, which may be allowed
  cases hv : items[place]? with
  | some v =>
    constructor
    · intro h
      exact .wrong hpart hv (hf.read.1 h)
    · rintro (⟨-, -, hends⟩ | ⟨hpart', hv', h⟩)
      · exact absurd (hv.symm.trans hends) nofun
      · rw [← Option.some.inj (hpart.symm.trans hpart')] at h
        rw [← Option.some.inj (hv.symm.trans hv')] at h
        exact hf.read.2 h
  | none =>
    cases hmissing : f.missing with
    | none =>
      constructor
      · intro h
        exact Except.error.inj h ▸ .ends hpart (hf.missing.1 hmissing) hv
      · rintro (⟨-, -, -⟩ | ⟨-, hv', -⟩)
        · rfl
        · exact absurd (hv.symm.trans hv') nofun
    | some a =>
      refine iff_of_false nofun ?_
      rintro (⟨hpart', hrequired, -⟩ | ⟨-, hv', -⟩)
      · rw [← Option.some.inj (hpart.symm.trans hpart')] at hrequired
        exact absurd (hmissing.symm.trans (hf.missing.2 hrequired)) nofun
      · exact absurd (hv.symm.trans hv') nofun

theorem Reads.isNamed_iff (hf : f.Reads part) {key : String} :
    f.isNamed key = true ↔ key ∈ part.names := by
  rw [isNamed_eq_decide, decide_eq_true_iff, hf.names]

/-- A field is found once some value has been given to it. -/
theorem isSome_of_gather {vs : List Json} {found : Option α} (h : f.gather none vs = .ok found) :
    found.isSome = true ↔ vs ≠ [] := by
  cases vs with
  | nil =>
    obtain rfl : none = found := Except.ok.inj h
    simp
  | cons v rest =>
    rw [gather_cons] at h
    obtain ⟨before, hmember, hrest⟩ := bind_eq_ok_iff.1 h
    obtain ⟨a, -, rfl⟩ := map_eq_ok_iff.1 hmember
    rw [((gather_some_eq_ok_iff f).1 hrest).2]
    simp

/-- After some members, a value was found if one of them names the part. -/
theorem Reads.isSome_iff_namedIn (hf : f.Reads part) {members : List (String × Json)}
    {found : Option α} (h : f.gather none (f.namedValues members) = .ok found) :
    found.isSome = true ↔ part.NamedIn members := by
  rw [isSome_of_gather h, namedValues, ne_eq, List.map_eq_nil_iff, List.filter_eq_nil_iff]
  simp only [hf.isNamed_iff, Part.NamedIn, not_forall, not_not, exists_prop]

/-- A member is refused if its part was named before, or else for its value. -/
theorem Reads.member_eq_error_iff (hf : f.Reads part) {before : List (String × Json)}
    {found : Option α} (hfound : found.isSome = true ↔ part.NamedIn before) {v : Json} :
    f.member found v = .error cause ↔
      (part.NamedIn before ∧ cause = .duplicateField part.name) ∨
        (¬part.NamedIn before ∧ part.Wrong v cause) := by
  rw [← hfound, ← hf.read, ← hf.name]
  cases found with
  | some a => simp [member, eq_comm]
  | none => cases hread : f.read v <;> simp [member, hread, Except.map]

/-- At the end a part is missing if no member named it and it must be given. -/
theorem Reads.close_eq_error_iff (hf : f.Reads part) (hpart : kind.parts[place]? = some part)
    {members : List (String × Json)} {found : Option α}
    (hfound : found.isSome = true ↔ part.NamedIn members) :
    f.close found = .error cause ↔ kind.MissingPart members place cause := by
  have hclose : f.close found = .error cause ↔
      (found.or f.missing = none ∧ cause = .missingField part.name) := by
    unfold close
    rw [hf.name]
    cases found.or f.missing <;> simp [eq_comm]
  rw [hclose, Option.or_eq_none_iff, hf.missing, ← Option.not_isSome_iff_eq_none, hfound]
  constructor
  · rintro ⟨⟨hmissing, hrequired⟩, rfl⟩
    exact .intro hpart hrequired hmissing
  · rintro ⟨hpart', hrequired, hmissing⟩
    rw [Option.some.inj (hpart.symm.trans hpart')]
    exact ⟨⟨hmissing, hrequired⟩, rfl⟩

end Field

/-! ## Records -/

namespace Record

/-- The record is that of the kind, and its fields read the parts of the kind. -/
structure Reads (r : Record α β γ) (kind : RuleKind) (p q s : Part) : Prop where
  recordKind : r.kind = kind.recordKind
  parts : kind.parts = [p, q, s]
  first : r.first.Reads p
  second : r.second.Reads q
  third : r.third.Reads s
  distinct : r.Distinct

theorem reads_condition (c : Clause) : condition.Reads (.clause c) .field .value .attributes :=
  ⟨rfl, rfl, Field.reads_field, Field.reads_value, Field.reads_attributes, distinct_condition⟩

theorem reads_multiMatch : multiMatch.Reads .multiMatch .fields .value .attributes :=
  ⟨rfl, rfl, Field.reads_fields, Field.reads_value, Field.reads_attributes, distinct_multiMatch⟩

theorem reads_range : range.Reads .range .field .values .clause :=
  ⟨rfl, rfl, Field.reads_field, Field.reads_values, Field.reads_clause, distinct_range⟩

variable {r : Record α β γ} {kind : RuleKind} {p q s : Part} {cause : DecodeError}

/-- An array is refused for its first element that is missing or wrong, and for its
length if there is none. -/
theorem Reads.ofItems_eq_error_iff (hr : r.Reads kind p q s) {items : List Json} :
    r.ofItems items = .error cause ↔
      Reported (kind.ElementFault items) cause
        (3 < items.length ∧ cause = .tooLong items.length) := by
  rw [ofItems, hr.recordKind]
  -- the three parts in turn, and then the length
  refine bind_eq_error_iff_reported (fun _ => hr.first.element (by rw [hr.parts]; rfl)) ?_
  intro a _
  refine bind_eq_error_iff_reported (fun _ => hr.second.element (by rw [hr.parts]; rfl)) ?_
  intro b _
  refine bind_eq_error_iff_reported (fun _ => hr.third.element (by rw [hr.parts]; rfl)) ?_
  intro c _
  rw [reported_iff_after fun place => RuleKind.not_elementFault_of_le (Nat.le_add_left 3 place)]
  split
  · next hlength => exact iff_of_false ok_ne_error fun h => absurd h.1 (Nat.not_lt.2 hlength)
  · next hlength =>
    have hthrow : (throw (.tooLong items.length) : Except DecodeError (α × β × γ)) =
      .error (.tooLong items.length) := rfl
    rw [hthrow, Except.error.injEq, eq_comm]
    exact (and_iff_right (Nat.not_le.1 hlength)).symm

/-- A member that names one part is refused for that part. -/
theorem refuses_iff {before : List (String × Json)} {key : String} {v : Json} {part : Part}
    (hpart : part ∈ kind.parts) (hkey : key ∈ part.names)
    (honly : ∀ other ∈ kind.parts, key ∈ other.names → other = part) :
    kind.Refuses before (key, v) cause ↔
      (part.NamedIn before ∧ cause = .duplicateField part.name) ∨
        (¬part.NamedIn before ∧ part.Wrong v cause) := by
  constructor
  · rintro (⟨hpart', hkey', hbefore⟩ | ⟨hpart', hkey', hbefore, h⟩)
    · rw [honly _ hpart' hkey'] at hbefore ⊢
      exact Or.inl ⟨hbefore, rfl⟩
    · rw [honly _ hpart' hkey'] at hbefore h
      exact Or.inr ⟨hbefore, h⟩
  · rintro (⟨hbefore, rfl⟩ | ⟨hbefore, h⟩)
    · exact .again hpart hkey hbefore
    · exact .wrong hpart hkey hbefore h

/-- Every member is refused, or not, for what it is and for those before it. -/
theorem Reads.ofMember_eq_error_iff (hr : r.Reads kind p q s) {before : List (String × Json)}
    {found : Found α β γ} (hfound : r.find ⟨none, none, none⟩ before = .ok found) {key : String}
    {v : Json} : r.ofMember found key v = .error cause ↔ kind.Refuses before (key, v) cause := by
  obtain ⟨hfirst, hsecond, hthird⟩ := (find_eq_ok_iff hr.distinct).1 hfound
  have hparts : ∀ part, part ∈ kind.parts ↔ part = p ∨ part = q ∨ part = s := by
    simp [hr.parts]
  rw [ofMember]
  by_cases h₁ : r.first.isNamed key = true
  · rw [if_pos h₁, map_eq_error_iff,
      hr.first.member_eq_error_iff (hr.first.isSome_iff_namedIn hfirst)]
    refine (refuses_iff ((hparts p).2 (Or.inl rfl)) (hr.first.isNamed_iff.1 h₁) ?_).symm
    intro other hother hkey
    rcases (hparts other).1 hother with rfl | rfl | rfl
    · rfl
    · exact absurd (hr.second.isNamed_iff.2 hkey) (by simp [hr.distinct.first_second key h₁])
    · exact absurd (hr.third.isNamed_iff.2 hkey) (by simp [hr.distinct.first_third key h₁])
  rw [if_neg h₁]
  by_cases h₂ : r.second.isNamed key = true
  · rw [if_pos h₂, map_eq_error_iff,
      hr.second.member_eq_error_iff (hr.second.isSome_iff_namedIn hsecond)]
    refine (refuses_iff ((hparts q).2 (Or.inr (Or.inl rfl))) (hr.second.isNamed_iff.1 h₂) ?_).symm
    intro other hother hkey
    rcases (hparts other).1 hother with rfl | rfl | rfl
    · exact absurd (hr.first.isNamed_iff.2 hkey) h₁
    · rfl
    · exact absurd (hr.third.isNamed_iff.2 hkey) (by simp [hr.distinct.second_third key h₂])
  rw [if_neg h₂]
  by_cases h₃ : r.third.isNamed key = true
  · rw [if_pos h₃, map_eq_error_iff,
      hr.third.member_eq_error_iff (hr.third.isSome_iff_namedIn hthird)]
    refine (refuses_iff ((hparts s).2 (Or.inr (Or.inr rfl))) (hr.third.isNamed_iff.1 h₃) ?_).symm
    intro other hother hkey
    rcases (hparts other).1 hother with rfl | rfl | rfl
    · exact absurd (hr.first.isNamed_iff.2 hkey) h₁
    · exact absurd (hr.second.isNamed_iff.2 hkey) h₂
    · rfl
  rw [if_neg h₃]
  -- a member of another name is passed over
  have hunknown : ∀ part ∈ kind.parts, key ∉ part.names := by
    intro part hpart hkey
    rcases (hparts part).1 hpart with rfl | rfl | rfl
    · exact h₁ (hr.first.isNamed_iff.2 hkey)
    · exact h₂ (hr.second.isNamed_iff.2 hkey)
    · exact h₃ (hr.third.isNamed_iff.2 hkey)
  refine iff_of_false ok_ne_error ?_
  rintro (⟨hpart, hkey, -⟩ | ⟨hpart, hkey, -, -⟩)
  · exact hunknown _ hpart hkey
  · exact hunknown _ hpart hkey

/-- Members are read in order, and the last one is read after what the others gave. -/
theorem find_append_singleton {before : List (String × Json)} {found start : Found α β γ}
    (h : r.find start before = .ok found) (m : String × Json) :
    r.find start (before ++ [m]) = r.ofMember found m.1 m.2 := by
  induction before generalizing start with
  | nil =>
    obtain rfl : start = found := Except.ok.inj h
    show (r.ofMember start m.1 m.2 >>= fun found => .ok found) = r.ofMember start m.1 m.2
    cases r.ofMember start m.1 m.2 <;> rfl
  | cons m' rest ih =>
    obtain ⟨next, hmember, hrest⟩ := bind_eq_ok_iff.1 h
    show (r.ofMember start m'.1 m'.2 >>= fun next => r.find next (rest ++ [m])) = _
    rw [hmember]
    exact ih hrest

/-- The members that follow others, and then what is done with all that was found.
The induction is on the members to come. -/
theorem Reads.find_bind_eq_error_iff (hr : r.Reads kind p q s) {done : Found α β γ → Except DecodeError δ}
    {after : Prop} {members before : List (String × Json)} {found : Found α β γ}
    (hfound : r.find ⟨none, none, none⟩ before = .ok found)
    (hdone : ∀ result, r.find ⟨none, none, none⟩ (before ++ members) = .ok result →
      (done result = .error cause ↔ after)) :
    (r.find found members >>= done) = .error cause ↔
      Reported (fun place other => ∃ m, members[place]? = some m ∧
        kind.Refuses (before ++ members.take place) m other) cause after := by
  -- on the members that are left, with those before them as they were found; the places of the
  -- rest are counted from one later
  induction members generalizing before found with
  | nil =>
    rw [reported_iff_after (by rintro place other ⟨m, hm, -⟩; exact absurd hm nofun)]
    rw [List.append_nil] at hdone
    exact hdone found hfound
  | cons m rest ih =>
    have hassoc : (r.find found (m :: rest) >>= done) =
        (r.ofMember found m.1 m.2 >>= fun next => r.find next rest >>= done) := by
      show ((r.ofMember found m.1 m.2 >>= fun next => r.find next rest) >>= done) = _
      cases r.ofMember found m.1 m.2 <;> rfl
    rw [hassoc]
    refine bind_eq_error_iff_reported (fun other => ?_) fun next hnext => ?_
    · rw [hr.ofMember_eq_error_iff hfound]
      simp
    · have hshift : (fun place other => ∃ m', (m :: rest)[place + 1]? = some m' ∧
            kind.Refuses (before ++ (m :: rest).take (place + 1)) m' other) =
          fun place other => ∃ m', rest[place]? = some m' ∧
            kind.Refuses (before ++ [m] ++ rest.take place) m' other := by
        funext place other
        rw [List.getElem?_cons_succ, List.take_succ_cons, List.append_cons]
      rw [List.append_cons] at hdone
      rw [hshift]
      exact ih ((find_append_singleton hfound m).trans hnext) hdone

/-- An object is refused for its first member that is wrong, and for the first part
that it lacks if there is none. -/
theorem Reads.ofMembers_eq_error_iff (hr : r.Reads kind p q s) {members : List (String × Json)} :
    r.ofMembers members = .error cause ↔
      Reported (kind.MemberFault members) cause
        (∃ place, FirstAt (kind.MissingPart members) place cause) := by
  rw [ofMembers]
  have hstart : r.find ⟨none, none, none⟩ [] = .ok ⟨none, none, none⟩ := rfl
  refine hr.find_bind_eq_error_iff hstart fun found hfound => ?_
  obtain ⟨h₁, h₂, h₃⟩ := (find_eq_ok_iff hr.distinct).1 hfound
  have hnothing : (∃ place, FirstAt (kind.MissingPart members) place cause) ↔
      Reported (kind.MissingPart members) cause False := by
    rw [Reported, and_false, or_false]
  rw [hnothing]
  -- no member is at fault; then the parts are asked for in turn
  refine bind_eq_error_iff_reported (fun _ => hr.first.close_eq_error_iff (by rw [hr.parts]; rfl)
    (hr.first.isSome_iff_namedIn h₁)) fun a _ => ?_
  refine bind_eq_error_iff_reported (fun _ => hr.second.close_eq_error_iff (by rw [hr.parts]; rfl)
    (hr.second.isSome_iff_namedIn h₂)) fun b _ => ?_
  refine bind_eq_error_iff_reported (fun _ => hr.third.close_eq_error_iff (by rw [hr.parts]; rfl)
    (hr.third.isSome_iff_namedIn h₃)) fun c _ => ?_
  rw [reported_iff_after fun place => RuleKind.not_missingPart_of_le (Nat.le_add_left 3 place)]
  exact iff_of_false ok_ne_error id

end Record

end SearchRules
