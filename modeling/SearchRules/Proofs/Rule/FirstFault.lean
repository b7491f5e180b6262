import SearchRules.Proofs.Rule.Fault

/-!
# Arguments are refused for their first fault

`Rule.Written` says which arguments are read. All others are refused, and
`Rule.Unwritten` says for what: each of its cases names one cause, told by the
places of the arguments alone.

> `Rule.ofArguments_eq_error_iff`: arguments are refused for a cause if and only if
> they are unwritten for it, so that every refusal has one cause, and every
> unwritten argument is refused.
>
> `ElementFault.of_take`, `MemberFault.of_take`: a fault at a place is one of what
> stands up to that place. What follows may be changed at will (`FirstAt.of_take`).
>
> `Rule.ofArguments_eq_error_iff_first`: both together, with what is left of a
> refusal when more is added.
-/

namespace SearchRules

/-! ## What follows the first fault -/

theorem getElem?_eq_of_take {α : Type} {as bs : List α} {place n : Nat}
    (h : bs.take n = as.take n) (hplace : place < n) : bs[place]? = as[place]? := by
  have hat := congrArg (fun l => l[place]?) h
  simpa only [List.getElem?_take, if_pos hplace] using hat

/-- If a fault at a place is one of what stands up to that place, so is the first
fault: what follows it does not matter. -/
theorem FirstAt.of_take {α : Type} {Fault : List α → Nat → DecodeError → Prop} {as bs : List α}
    {place : Nat} {cause : DecodeError}
    (hfault : ∀ {as bs : List α} {earlier other}, Fault as earlier other →
      bs.take (place + 1) = as.take (place + 1) → earlier < place + 1 → Fault bs earlier other)
    (h : FirstAt (Fault as) place cause) (htake : bs.take (place + 1) = as.take (place + 1)) :
    FirstAt (Fault bs) place cause := by
  refine h.congr fun earlier hearlier other => ?_
  have hplace : earlier < place + 1 := Nat.lt_succ_of_le hearlier
  exact ⟨fun hother => hfault hother htake.symm hplace, fun hother => hfault hother htake hplace⟩

namespace RuleKind

variable {kind : RuleKind} {place n : Nat} {cause : DecodeError}

/-- Whether an element is at fault does not depend on those behind it. -/
theorem ElementFault.of_take {items others : List Json} (h : kind.ElementFault items place cause)
    (htake : others.take n = items.take n) (hplace : place < n) :
    kind.ElementFault others place cause := by
  have hat := getElem?_eq_of_take htake hplace
  cases h with
  | ends hpart hrequired hends => exact .ends hpart hrequired (hat.trans hends)
  | wrong hpart hv hwrong => exact .wrong hpart (hat.trans hv) hwrong

theorem MemberFault.of_take {members others : List (String × Json)}
    (h : kind.MemberFault members place cause) (htake : others.take n = members.take n)
    (hplace : place < n) : kind.MemberFault others place cause := by
  obtain ⟨m, hm, hrefuses⟩ := h
  have hbefore := congrArg (List.take place) htake
  rw [List.take_take, List.take_take, Nat.min_eq_left (Nat.le_of_lt hplace)] at hbefore
  exact ⟨m, (getElem?_eq_of_take htake hplace).trans hm, hbefore ▸ hrefuses⟩

/-- Elements after the third are no place of an array. -/
theorem not_elementFault_append {items : List Json}
    (h : ∀ place cause, ¬kind.ElementFault items place cause) (hlength : 3 ≤ items.length)
    (more : List Json) (place : Nat) (cause : DecodeError) :
    ¬kind.ElementFault (items ++ more) place cause := by
  intro hfault
  by_cases hplace : place < 3
  · refine h place cause (hfault.of_take ?_ hplace)
    rw [List.take_append_of_le_length hlength]
  · exact not_elementFault_of_le (Nat.not_lt.1 hplace) cause hfault

end RuleKind

/-! ## Causes -/

/-- A value is refused for its type or as the clause that it fails to be. -/
theorem Part.Wrong.cause_cases {part : Part} {v : Json} {cause : DecodeError}
    (h : part.Wrong v cause) :
    (∃ found expected, cause = .invalidType found expected) ∨
      (∃ name, cause = .unknownClause name) ∨ cause = .notSingleKey := by
  cases h with
  | clause h =>
    cases h with
    | name h => exact Or.inr (Or.inl ⟨_, rfl⟩)
    | keys h => exact Or.inr (Or.inr rfl)
    | key h => exact Or.inr (Or.inl ⟨_, rfl⟩)
    | payload h => exact Or.inl ⟨_, _, rfl⟩
    | other hstring hobject => exact Or.inl ⟨_, _, rfl⟩
  | _ => exact Or.inl ⟨_, _, rfl⟩

/-- No value is refused for the length of the arguments. -/
theorem Part.Wrong.ne_tooLong {part : Part} {v : Json} {n : Nat} :
    ¬part.Wrong v (.tooLong n) := by
  intro h
  rcases h.cause_cases with ⟨_, _, hcause⟩ | ⟨_, hcause⟩ | hcause <;> exact absurd hcause nofun

theorem Part.Wrong.ne_duplicateField {part : Part} {v : Json} {name : String} :
    ¬part.Wrong v (.duplicateField name) := by
  intro h
  rcases h.cause_cases with ⟨_, _, hcause⟩ | ⟨_, hcause⟩ | hcause <;> exact absurd hcause nofun

namespace Rule

/-- Arguments that write no rule of a kind, and the cause for which they are
refused. -/
inductive Unwritten (kind : RuleKind) : Json → DecodeError → Prop
  /-- An array is wrong at some place: for what is wrong at the first such. -/
  | element {items : List Json} {place : Nat} {cause : DecodeError}
    (h : FirstAt (kind.ElementFault items) place cause) : Unwritten kind (.array items) cause
  /-- An array is wrong at no place, but longer than the record. -/
  | tooLong {items : List Json} (h : ∀ place cause, ¬kind.ElementFault items place cause)
    (hlength : 3 < items.length) : Unwritten kind (.array items) (.tooLong items.length)
  /-- A member is wrong: for what is wrong with the first such. -/
  | member {members : List (String × Json)} {place : Nat} {cause : DecodeError}
    (h : FirstAt (kind.MemberFault members) place cause) : Unwritten kind (.object members) cause
  /-- No member is wrong, but a required part is missing: for the first such. -/
  | missing {members : List (String × Json)} {place : Nat} {cause : DecodeError}
    (hmembers : ∀ place cause, ¬kind.MemberFault members place cause)
    (h : FirstAt (kind.MissingPart members) place cause) : Unwritten kind (.object members) cause
  /-- Neither an array nor an object. -/
  | neither {v : Json} (harray : ∀ items, v ≠ .array items)
    (hobject : ∀ members, v ≠ .object members) :
    Unwritten kind v (.invalidType v (.record kind.recordKind))

variable {kind : RuleKind} {cause : DecodeError}

/-- An array is refused for its first element at fault, and otherwise for its length. -/
theorem unwritten_array_iff {items : List Json} :
    Unwritten kind (.array items) cause ↔
      Reported (kind.ElementFault items) cause
        (3 < items.length ∧ cause = .tooLong items.length) := by
  constructor
  · intro h
    cases h with
    | element h => exact Or.inl ⟨_, h⟩
    | tooLong h hlength => exact Or.inr ⟨h, hlength, rfl⟩
    | neither harray hobject => exact absurd rfl (harray items)
  · rintro (⟨place, h⟩ | ⟨h, hlength, rfl⟩)
    · exact .element h
    · exact .tooLong h hlength

/-- An object is refused for its first member at fault, and otherwise for the first part
that is missing. -/
theorem unwritten_object_iff {members : List (String × Json)} :
    Unwritten kind (.object members) cause ↔
      Reported (kind.MemberFault members) cause
        (∃ place, FirstAt (kind.MissingPart members) place cause) := by
  constructor
  · intro h
    cases h with
    | member h => exact Or.inl ⟨_, h⟩
    | missing hmembers h => exact Or.inr ⟨hmembers, _, h⟩
    | neither harray hobject => exact absurd rfl (hobject members)
  · rintro (⟨place, h⟩ | ⟨hmembers, place, h⟩)
    · exact .member h
    · exact .missing hmembers h

/-- A record whose fields read the parts of a kind refuses what is unwritten. -/
theorem read_eq_error_iff {α β γ : Type} {r : Record α β γ} {p q s : Part}
    (hr : r.Reads kind p q s) {args : Json} :
    r.read args = .error cause ↔ Unwritten kind args cause := by
  have hneither : ∀ v : Json, (∀ items, v ≠ .array items) → (∀ members, v ≠ .object members) →
      (Except.error (.invalidType v (.record r.kind)) = (.error cause : Except _ (α × β × γ)) ↔
        Unwritten kind v cause) := by
    intro v harray hobject
    rw [Except.error.injEq, hr.recordKind]
    constructor
    · rintro rfl
      exact .neither harray hobject
    · intro h
      cases h with
      | neither => rfl
      | element => exact absurd rfl (harray _)
      | tooLong => exact absurd rfl (harray _)
      | member => exact absurd rfl (hobject _)
      | missing => exact absurd rfl (hobject _)
  cases args with
  | array items => exact hr.ofItems_eq_error_iff.trans unwritten_array_iff.symm
  | object members => exact hr.ofMembers_eq_error_iff.trans unwritten_object_iff.symm
  | _ => exact hneither _ nofun nofun

/-- Once the record is read there is a rule. -/
theorem bind_pure_eq_error_iff {α β : Type} {x : Except DecodeError α} {f : α → β} :
    (x >>= fun a => pure (f a)) = .error cause ↔ x = .error cause := by
  refine bind_eq_error_iff.trans (or_iff_left ?_)
  rintro ⟨a, -, hpure⟩
  exact absurd hpure nofun

/-- Reading fails for the reason that the grammar gives. -/
theorem ofArguments_eq_error_iff {args : Json} :
    ofArguments kind args = .error cause ↔ Unwritten kind args cause := by
  cases kind with
  | clause c => exact bind_pure_eq_error_iff.trans (read_eq_error_iff (Record.reads_condition c))
  | multiMatch => exact bind_pure_eq_error_iff.trans (read_eq_error_iff Record.reads_multiMatch)
  | range => exact bind_pure_eq_error_iff.trans (read_eq_error_iff Record.reads_range)

/-- A handler reports why its arguments cannot be read, under the name of its kind, and
leaves the draft as it is. -/
theorem exec_handler_of_unwritten {args : Json} (h : Unwritten kind args cause) (d : Draft) :
    (kind.handler args).exec d = (.error (.arguments kind.name (.shape cause)), d) := by
  unfold RuleKind.handler
  rw [ofArguments_eq_error_iff.2 h]
  rfl

/-! ### What is added does not matter -/

/-- An array that is too long is too long with more elements as well. -/
theorem ofArguments_append_of_tooLong {items : List Json} {n : Nat}
    (h : ofArguments kind (.array items) = .error (.tooLong n)) (more : List Json) :
    ofArguments kind (.array (items ++ more)) = .error (.tooLong (n + more.length)) := by
  rw [ofArguments_eq_error_iff] at h ⊢
  -- no element is refused for the length, so it was the length that was refused
  cases h with
  | element h =>
    cases h.fault with
    | wrong hpart hv hwrong => exact absurd hwrong Part.Wrong.ne_tooLong
  | tooLong h hlength =>
    rw [← List.length_append]
    refine .tooLong (RuleKind.not_elementFault_append h (Nat.le_of_lt hlength) more) ?_
    rw [List.length_append]
    exact Nat.lt_add_right more.length hlength

/-- With distinct keys, no member in front has the key of a later one. -/
theorem key_ne_of_mem_take {members : List (String × Json)} (hkeys : (members.map Prod.fst).Nodup)
    {place : Nat} {m m' : String × Json} (hm : members[place]? = some m)
    (hm' : m' ∈ members.take place) : m'.1 ≠ m.1 := by
  obtain ⟨earlier, hlt, hearlier⟩ := List.mem_take_iff_getElem.1 hm'
  intro hkey
  have hsame : (members.map Prod.fst)[earlier]? = (members.map Prod.fst)[place]? := by
    rw [List.getElem?_map, List.getElem?_map, hm, List.getElem?_eq_getElem (by omega), hearlier]
    exact congrArg some hkey
  have hplace : earlier = place :=
    (List.getElem?_inj (by rw [List.length_map]; omega) hkeys).1 hsame
  omega

/-- Where keys are distinct, the one part that can be named twice is the clause of a
range, under both of its names. -/
theorem named_twice_of_duplicateField {members : List (String × Json)} {name : String}
    (hkeys : (members.map Prod.fst).Nodup)
    (h : ofArguments kind (.object members) = .error (.duplicateField name)) :
    kind = .range ∧ name = "type" ∧ "type" ∈ members.map Prod.fst ∧
      "clause_type" ∈ members.map Prod.fst := by
  rw [ofArguments_eq_error_iff] at h
  cases h with
  | missing _ h => exact absurd h.fault nofun
  | @member _ place _ h =>
    obtain ⟨m, hm, hrefuses⟩ := h.fault
    cases hrefuses with
    | wrong _ _ _ hwrong => exact absurd hwrong Part.Wrong.ne_duplicateField
    | @again part key v hpart hkey hbefore =>
      obtain ⟨⟨key', v'⟩, hm', hkey'⟩ := hbefore
      have hne : key' ≠ key := key_ne_of_mem_take hkeys hm hm'
      have hmem : key ∈ members.map Prod.fst :=
        List.mem_map.2 ⟨_, List.mem_of_getElem? hm, rfl⟩
      have hmem' : key' ∈ members.map Prod.fst :=
        List.mem_map.2 ⟨_, List.mem_of_mem_take hm', rfl⟩
      -- a part of one name would have been given twice under one key
      cases part with
      | clause =>
        have hrange : kind = .range := by
          cases kind with
          | range => rfl
          | clause c => simp [RuleKind.parts] at hpart
          | multiMatch => simp [RuleKind.parts] at hpart
        have hnames : ∀ key, key ∈ Part.clause.names → key = "type" ∨ key = "clause_type" := by
          simp [Part.names]
        refine ⟨hrange, rfl, ?_⟩
        rcases hnames key hkey with rfl | rfl <;> rcases hnames key' hkey' with rfl | rfl
        · exact absurd rfl hne
        · exact ⟨hmem, hmem'⟩
        · exact ⟨hmem', hmem⟩
        · exact absurd rfl hne
      | _ => exact absurd ((List.mem_singleton.1 hkey').trans (List.mem_singleton.1 hkey).symm) hne

/-! ### The fault of any arguments -/

/-- Arguments are refused if and only if they are unwritten, for that cause, which
the rule reports without a change of the draft. A fault of an element decides
whatever elements follow it, and a fault of a member whatever members follow it. An
array that is too long remains so with more elements, and members of names that no
part has do not matter at all. Where keys do not repeat, only the clause of a range
can be named twice. -/
theorem ofArguments_eq_error_iff_first (kind : RuleKind) :
    (∀ args cause, ofArguments kind args = .error cause ↔ Unwritten kind args cause) ∧
    (∀ args cause, Unwritten kind args cause → ∀ d,
      (kind.handler args).exec d = (.error (.arguments kind.name (.shape cause)), d)) ∧
    (∀ items place cause, FirstAt (kind.ElementFault items) place cause →
      ∀ others : List Json, others.take (place + 1) = items.take (place + 1) →
        ofArguments kind (.array others) = .error cause) ∧
    (∀ items n, ofArguments kind (.array items) = .error (.tooLong n) →
      ∀ more, ofArguments kind (.array (items ++ more)) = .error (.tooLong (n + more.length))) ∧
    (∀ members place cause, FirstAt (kind.MemberFault members) place cause →
      ∀ others : List (String × Json), others.take (place + 1) = members.take (place + 1) →
        ofArguments kind (.object others) = .error cause) ∧
    (∀ members, ofArguments kind
        (.object (members.filter fun m => m.1 ∈ kind.partNames.flatten)) =
      ofArguments kind (.object members)) ∧
    ∀ (members : List (String × Json)) name, (members.map Prod.fst).Nodup →
      ofArguments kind (.object members) = .error (.duplicateField name) →
        kind = .range ∧ name = "type" ∧ "type" ∈ members.map Prod.fst ∧
          "clause_type" ∈ members.map Prod.fst := by
  refine ⟨fun _ _ => ofArguments_eq_error_iff, fun _ _ => exec_handler_of_unwritten, ?_,
    fun _ _ => ofArguments_append_of_tooLong, ?_, ofArguments_filter_names kind,
    fun _ _ => named_twice_of_duplicateField⟩
  · intro items place cause h others htake
    exact ofArguments_eq_error_iff.2 (.element (h.of_take RuleKind.ElementFault.of_take htake))
  · intro members place cause h others htake
    exact ofArguments_eq_error_iff.2 (.member (h.of_take RuleKind.MemberFault.of_take htake))

/-- A clause that is named twice, with a value that is wrong under its second name,
another wrong value after it and a part that is missing; then an array that is wrong
at two places, and one that is too long. -/
theorem ofArguments_eq_error_iff_first_named_twice :
    let members : List (String × Json) :=
      [("clause_type", .string "must"), ("type", .null), ("values", .null)]
    let items : List Json := [.string "a", .null, .null]
    let long : List Json := [.string "a", .array [], .string "must", .null]
    (members.map Prod.fst).Nodup ∧
    (∃ place, FirstAt (RuleKind.range.MemberFault members) place (.duplicateField "type") ∧
      ∀ others : List (String × Json), others.take (place + 1) = members.take (place + 1) →
        ofArguments .range (.object others) = .error (.duplicateField "type")) ∧
    "clause_type" ∈ members.map Prod.fst ∧
    (∀ d, (RuleKind.range.handler (.object members)).exec d =
      (.error (.arguments "range" (.shape (.duplicateField "type"))), d)) ∧
    (∃ place, FirstAt (RuleKind.range.ElementFault items) place (.invalidType .null .sequence) ∧
      ∀ others : List Json, others.take (place + 1) = items.take (place + 1) →
        ofArguments .range (.array others) = .error (.invalidType .null .sequence)) ∧
    ofArguments .range (.array long) = .error (.tooLong 4) ∧
    ofArguments .range (.array (long ++ [.null])) = .error (.tooLong 5) := by
  intro members items long
  obtain ⟨hiff, hexec, helement, hlong, hmember, -, htwice⟩ :=
    ofArguments_eq_error_iff_first .range
  have hkeys : (members.map Prod.fst).Nodup := by decide
  have hmembers : ofArguments .range (.object members) = .error (.duplicateField "type") := rfl
  have hitems : ofArguments .range (.array items) = .error (.invalidType .null .sequence) := rfl
  have hfour : ofArguments .range (.array long) = .error (.tooLong 4) := rfl
  refine ⟨hkeys, ?_, (htwice members _ hkeys hmembers).2.2.2,
    hexec _ _ ((hiff _ _).1 hmembers), ?_, hfour, hlong long 4 hfour [.null]⟩
  · cases (hiff _ _).1 hmembers with
    | member h => exact ⟨_, h, hmember members _ _ h⟩
    | missing _ h => exact absurd h.fault nofun
  · cases (hiff _ _).1 hitems with
    | element h => exact ⟨_, h, helement items _ _ h⟩

end Rule

end SearchRules
