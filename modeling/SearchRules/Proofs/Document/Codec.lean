import Mathlib.Data.Set.List
import SearchRules.Proofs.Document.Text
import SearchRules.Proofs.Json.Decode

/-!
# Documents and the values that write them

A value is read as a document if it is an object that has the name of a clause for
every key and an array under each (`Listed`). What is read holds the last of the
lists under a key at the place of the first, so that from a value without repeated
keys nothing is lost: it is the value of the document that is read from it. Any
other value is refused for its first member that no document can have (`Refused`),
and of that member the name comes first (`Misfit`).

> `decodeMembers_eq_ok_iff`, `decodeMembers_eq_error_iff`: the members of an object,
> by induction, whatever the document that they are put into.
>
> `equiv_iff_agree`, `equiv_toJson_iff`: documents are equal if they hold equal
> fragments under the same clauses, and so are their values.
>
> `codec_exact`: encoding, decoding and equality of documents together.
-/

namespace SearchRules.Document

/-- The member that writes a clause with its fragments. -/
def member (entry : Clause × List Json) : String × Json := (entry.1.name, .array entry.2)

/-- The keys that an object may have. -/
def keyNames : List String := ["filter", "must", "must_not", "should"]

/-- A member that a document may have: an array under one of the names. -/
def Listed (m : String × Json) : Prop := m.1 ∈ keyNames ∧ ∃ fragments, m.2 = .array fragments

/-- A member that a document cannot have, and what is said about it. -/
inductive Misfit : String × Json → DecodeError → Prop
  /-- Another name, whatever stands under it. -/
  | name {key : String} {v : Json} (h : key ∉ keyNames) : Misfit (key, v) (.unknownClause key)
  /-- Something else than an array under one of the names. -/
  | value {key : String} {v : Json} (hkey : key ∈ keyNames) (h : ∀ fragments, v ≠ .array fragments) :
    Misfit (key, v) (.invalidType v .sequence)

/-- A value that is no document, and what is said about it. -/
inductive Refused : Json → DecodeError → Prop
  /-- The first member that a document cannot have is reported. -/
  | member {before after : List (String × Json)} {m : String × Json} {cause : DecodeError}
    (hbefore : ∀ good ∈ before, Listed good) (h : Misfit m cause) :
    Refused (.object (before ++ m :: after)) cause
  /-- A value that is no object is reported as a whole. -/
  | shape {v : Json} (h : ∀ members, v ≠ .object members) : Refused v (.invalidType v .map)

theorem mem_keyNames_iff {key : String} : key ∈ keyNames ↔ ∃ c : Clause, key = c.name := by
  have hnames : keyNames = Clause.all.map Clause.name := rfl
  rw [hnames, List.mem_map]
  exact ⟨fun ⟨c, _, hc⟩ => ⟨c, hc.symm⟩, fun ⟨c, hc⟩ => ⟨c, c.mem_all, hc.symm⟩⟩

/-- A member is a clause with a list of fragments if it is written as one. -/
theorem listed_iff {m : String × Json} : Listed m ↔ m ∈ Set.range member := by
  obtain ⟨key, v⟩ := m
  rw [Listed, mem_keyNames_iff]
  constructor
  · rintro ⟨⟨c, rfl⟩, fragments, rfl⟩
    exact ⟨(c, fragments), rfl⟩
  · rintro ⟨⟨c, fragments⟩, hm⟩
    obtain ⟨rfl, rfl⟩ := Prod.mk.inj hm
    exact ⟨⟨c, rfl⟩, fragments, rfl⟩

theorem forall_listed_iff {ms : List (String × Json)} :
    (∀ m ∈ ms, Listed m) ↔ ms ∈ Set.range (List.map member) := by
  rw [Set.range_list_map]
  exact forall₂_congr fun m _ => listed_iff

/-! ## Reading members -/

/-- A member that is read sets its clause to the fragments under it. -/
theorem decodeMember_eq_ok_iff {d e : Document} {m : String × Json} :
    d.decodeMember m.1 m.2 = .ok e ↔ ∃ entry, m = member entry ∧ e = d.set entry.1 entry.2 := by
  obtain ⟨key, v⟩ := m
  simp only [decodeMember, bind_eq_ok_iff, Clause.decodeName_eq_ok_iff, Json.asItems_eq_ok_iff]
  constructor
  · rintro ⟨c, rfl, fragments, rfl, he⟩
    exact ⟨(c, fragments), rfl, (Except.ok.inj he).symm⟩
  · rintro ⟨⟨c, fragments⟩, hm, rfl⟩
    obtain ⟨rfl, rfl⟩ := Prod.mk.inj hm
    exact ⟨c, rfl, fragments, rfl, rfl⟩

/-- A member is refused for its name before its value is looked at. -/
theorem decodeMember_eq_error_iff {d : Document} {m : String × Json} {cause : DecodeError} :
    d.decodeMember m.1 m.2 = .error cause ↔ Misfit m cause := by
  obtain ⟨key, v⟩ := m
  have hname : (∀ c : Clause, key ≠ c.name) ↔ key ∉ keyNames := by
    rw [mem_keyNames_iff, not_exists]
  simp only [decodeMember, bind_eq_error_iff, Clause.decodeName_eq_error_iff,
    Clause.decodeName_eq_ok_iff, Json.asItems_eq_error_iff, hname]
  constructor
  · rintro (⟨hkey, rfl⟩ | ⟨c, hc, ⟨hv, rfl⟩ | ⟨fragments, -, hset⟩⟩)
    · exact .name hkey
    · exact .value (mem_keyNames_iff.2 ⟨c, hc⟩) hv
    · exact absurd hset ok_ne_error
  · rintro (hkey | ⟨hkey, hv⟩)
    · exact Or.inl ⟨hkey, rfl⟩
    · obtain ⟨c, hc⟩ := mem_keyNames_iff.1 hkey
      exact Or.inr ⟨c, hc, Or.inl ⟨hv, rfl⟩⟩

/-- The members that are read, and what they leave in a document. -/
theorem decodeMembers_eq_ok_iff {d e : Document} {ms : List (String × Json)} :
    d.decodeMembers ms = .ok e ↔
      ∃ entries, ms = entries.map member ∧ e = ⟨d.clauses.insertMany entries⟩ := by
  constructor
  · intro h
    -- on the members, for whatever document the earlier ones made
    induction ms generalizing d with
    | nil => exact ⟨[], rfl, (Except.ok.inj h).symm⟩
    | cons m rest ih =>
      obtain ⟨d', hm, hrest⟩ := bind_eq_ok_iff.1 h
      obtain ⟨entry, rfl, rfl⟩ := decodeMember_eq_ok_iff.1 hm
      obtain ⟨entries, rfl, rfl⟩ := ih hrest
      exact ⟨entry :: entries, rfl, rfl⟩
  · rintro ⟨entries, rfl, rfl⟩
    exact decodeMembers_clauses d entries

/-- The members that are refused: the first that no document can have decides. -/
theorem decodeMembers_eq_error_iff {d : Document} {ms : List (String × Json)}
    {cause : DecodeError} :
    d.decodeMembers ms = .error cause ↔
      ∃ before m after, ms = before ++ m :: after ∧ (∀ good ∈ before, Listed good) ∧
        Misfit m cause := by
  -- on the members: the first one is at fault, or it is read and the fault comes later
  induction ms generalizing d with
  | nil =>
    refine iff_of_false nofun ?_
    rintro ⟨before, m, after, hms, -⟩
    exact List.append_ne_nil_of_right_ne_nil before (List.cons_ne_nil m after) hms.symm
  | cons m rest ih =>
    have hstep : d.decodeMembers (m :: rest) =
        (d.decodeMember m.1 m.2 >>= fun d' => d'.decodeMembers rest) := rfl
    simp only [hstep, bind_eq_error_iff, decodeMember_eq_error_iff, decodeMember_eq_ok_iff, ih]
    constructor
    · rintro (hm | ⟨d', ⟨entry, hentry, -⟩, before, m', after, rfl, hbefore, hm'⟩)
      · exact ⟨[], m, rest, rfl, nofun, hm⟩
      · refine ⟨m :: before, m', after, rfl, List.forall_mem_cons.2 ⟨?_, hbefore⟩, hm'⟩
        exact listed_iff.2 ⟨entry, hentry.symm⟩
    · rintro ⟨before, m', after, hms, hbefore, hm'⟩
      cases before with
      | nil =>
        obtain ⟨rfl, rfl⟩ := List.cons.inj hms
        exact Or.inl hm'
      | cons good before =>
        obtain ⟨rfl, rfl⟩ := List.cons.inj hms
        rw [List.forall_mem_cons] at hbefore
        obtain ⟨entry, hentry⟩ := listed_iff.1 hbefore.1
        exact Or.inr ⟨_, ⟨entry, hentry.symm, rfl⟩, before, m', after, rfl, hbefore.2, hm'⟩

/-! ## Reading a value -/

/-- The values that are read as documents, and the documents. -/
theorem ofJson_eq_ok_iff {v : Json} {d : Document} :
    ofJson v = .ok d ↔ ∃ entries, v = .object (entries.map member) ∧ d = ⟨.ofList entries⟩ := by
  cases v with
  | object members =>
    rw [ofJson, decodeMembers_eq_ok_iff]
    simp only [Json.object.injEq]
    rfl
  | _ => simp [ofJson]

/-- A value is read as a document if it is an object of clauses with lists of fragments. -/
theorem exists_ofJson_iff {v : Json} :
    (∃ d, ofJson v = .ok d) ↔ ∃ members, v = .object members ∧ ∀ m ∈ members, Listed m := by
  simp only [ofJson_eq_ok_iff, forall_listed_iff]
  constructor
  · rintro ⟨d, entries, rfl, -⟩
    exact ⟨_, rfl, entries, rfl⟩
  · rintro ⟨members, rfl, entries, rfl⟩
    exact ⟨_, entries, rfl, rfl⟩

/-- The values that are refused, and the first fault of each. -/
theorem ofJson_eq_error_iff {v : Json} {cause : DecodeError} :
    ofJson v = .error cause ↔ Refused v cause := by
  constructor
  · intro h
    unfold ofJson at h
    split at h
    · obtain ⟨before, m, after, rfl, hbefore, hm⟩ := decodeMembers_eq_error_iff.1 h
      exact .member hbefore hm
    · next hobject =>
      rw [← Except.error.inj h]
      exact .shape hobject
  · rintro (⟨hbefore, hm⟩ | hobject)
    · exact decodeMembers_eq_error_iff.2 ⟨_, _, _, rfl, hbefore, hm⟩
    · cases v with
      | object members => exact absurd rfl (hobject members)
      | _ => rfl

/-- A name that no clause has is reported, not what stands under it. -/
example : ofJson (.object [("must", .array []), ("mustnot", .null), ("filter", .null)]) =
    .error (.unknownClause "mustnot") := rfl

theorem toJson_eq (d : Document) : d.toJson = .object (d.clauses.entries.map member) := rfl

/-- Nothing is lost from an object without repeated keys. -/
theorem toJson_of_ofJson {v : WellFormedJson} {d : Document} (h : ofJson v.val = .ok d) :
    d.toJson = v.val := by
  obtain ⟨v, hv⟩ := v
  obtain ⟨entries, rfl, rfl⟩ := ofJson_eq_ok_iff.1 h
  have hkeys : (entries.map Prod.fst).Nodup := by
    have hnames : ((entries.map member).map Prod.fst).Nodup := hv.1
    rw [List.map_map] at hnames
    -- two entries of one clause would have one name
    refine List.Nodup.of_map Clause.name ?_
    rwa [List.map_map]
  rw [toJson_eq, OrderedMap.entries_ofList hkeys]

/-! ## Equality -/

/-- Documents are equal as maps, fragment by fragment. -/
theorem equiv_iff_agree {d e : Document} :
    d.equiv e = true ↔ OrderedMap.Agree (List.Forall₂ Json.Same) d.clauses e.clauses := by
  rw [OrderedMap.agree_iff_size_eq, equiv, Bool.and_eq_true, beq_iff_eq, List.all_eq_true]
  refine and_congr Iff.rfl (forall₂_congr fun entry _ => ?_)
  simp only [get?]
  cases e.clauses.get? entry.1 with
  | none => simp
  | some others => simp [Json.itemsEquiv_iff]

/-- Documents are equal if their values are. -/
theorem equiv_toJson_iff {d e : Document} :
    d.toJson.equiv e.toJson = true ↔ d.equiv e = true := by
  rw [equiv_iff_agree, OrderedMap.agree_iff_size_eq]
  refine Json.same_object_iff.trans (and_congr ?_ ?_)
  · rw [List.length_map, List.length_map]
    rfl
  · rw [List.forall_mem_map]
    refine forall₂_congr fun entry _ => ?_
    -- clauses have distinct names, so a look-up by name is one by clause
    have hlookup : (e.clauses.entries.map member).lookup entry.1.name =
        (e.clauses.get? entry.1).map Json.array :=
      lookup_map_of_injective (fun _ _ => Clause.name_injective) Json.array _ _
    show (∃ w, (e.clauses.entries.map member).lookup entry.1.name = some w ∧
      Json.Same (.array entry.2) w) ↔ _
    rw [hlookup]
    cases e.clauses.get? entry.1 with
    | none => simp
    | some others => simp [Json.same_array_iff]

/-! ## Encoding, decoding and equality -/

/-- A document is written, as a stream or as a value, in one way and comes back as
it was, with its clauses in their order. The values that are read are known, as is
the value of what is read, and every other value is refused for its first fault.
Equality looks at no order of clauses, on either side. -/
theorem codec_exact :
    (∀ d : Document,
      d.tokens = d.toJson.tokens ∧ d.write = d.toJson.write ∧ ofJson d.toJson = .ok d) ∧
    (∀ v : Json,
      ((∃ d, ofJson v = .ok d) ↔ ∃ members, v = .object members ∧ ∀ m ∈ members, Listed m) ∧
      ∀ cause, ofJson v = .error cause ↔ Refused v cause) ∧
    (∀ (v : WellFormedJson) (d : Document), ofJson v.val = .ok d ↔ d.toJson = v.val) ∧
    ∀ d e : Document,
      (d.equiv e = true ↔
        ∀ c, Option.Rel (List.Forall₂ Json.Same) (d.get? c) (e.get? c)) ∧
      (d.equiv e = true ↔ d.toJson.equiv e.toJson = true) := by
  refine ⟨fun d => ?_, fun v => ⟨exists_ofJson_iff, fun cause => ofJson_eq_error_iff⟩,
    fun v d => ⟨toJson_of_ofJson, ?_⟩, fun d e => ⟨equiv_iff_agree, equiv_toJson_iff.symm⟩⟩
  · exact ⟨d.tokens_toJson.symm, congrArg Json.renderTokens d.tokens_toJson.symm, d.ofJson_toJson⟩
  · intro hv
    rw [← hv]
    exact d.ofJson_toJson

/-- Clauses out of order, and one of them empty. -/
theorem codec_exact_out_of_order :
    let v : WellFormedJson :=
      ⟨.object [("should", .array []), ("must", .array [.null])], by decide⟩
    let d : Document := (empty.set .should []).set .must [.null]
    d.toJson = v.val ∧ ofJson v.val = .ok d := by
  intro v d
  exact ⟨rfl, (codec_exact.2.2.1 v d).2 rfl⟩

end SearchRules.Document
