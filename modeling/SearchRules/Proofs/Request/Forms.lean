import SearchRules.Proofs.Json.Decode
import SearchRules.Proofs.Json.Grammar
import SearchRules.Proofs.Request.Text

/-!
# The two forms of a request

A request is read from an object or from a list of pairs, and from nothing else.
The forms say the same: an object is read as the list of its members, each with
its arguments, `null` included. What they differ in is the text. In a list of
pairs kinds may repeat; in the text of an object they may, too, but the members
gather in a map before the request sees them, and so a repeated kind is called
once, at its first place with its last arguments.

> `ofJson_eq_ok_iff`: what is read, and as what.
>
> `read?_of_spells_object`: the text of an object is read as a list of pairs, one
> for each kind.
>
> `exists_wellFormed_of_read?`: the requests that texts write are well-formed.
>
> `ofJson_forms`: all of it, with the way back: a request that was read comes
> back from what is written of it.
-/

namespace SearchRules

open OrderedMap (lastWrites)

namespace Json

/-- A kind with its arguments as an array. -/
def pair (member : String × Json) : Json := .array [.string member.1, member.2]

/-- Kinds with their arguments as a list of pairs. -/
def pairs (members : List (String × Json)) : Json := .array (members.map pair)

theorem normalizeMembers_eq_map (members : List (String × Json)) :
    normalizeMembers members = members.map fun m => (m.1, m.2.normalize) := by
  induction members with
  | nil => rfl
  | cons m rest ih => rw [normalizeMembers, ih, List.map_cons]

/-- In an object that has been read each key stands once, at its first place with
its last value. -/
theorem normalize_object (members : List (String × Json)) :
    (object members).normalize =
      .object (lastWrites (members.map fun m => (m.1, m.2.normalize))) := by
  rw [normalize, ofMap, OrderedMap.entries_ofList_eq_lastWrites, normalizeMembers_eq_map]

/-- Only an object has an object for its normal form. -/
theorem exists_object_of_normalize {v : Json} {members : List (String × Json)}
    (h : .object members = v.normalize) : ∃ written, v = .object written := by
  cases v with
  | object written => exact ⟨written, rfl⟩
  | _ => exact absurd h nofun

end Json

/-- A pair alone is read as an entry. -/
theorem Entry.ofJson?_eq_some_iff {v : Json} {e : Entry} :
    ofJson? v = some e ↔ ∃ member, v = .pair member ∧ e = ofMember member := by
  constructor
  · intro h
    unfold ofJson? at h
    split at h
    · next kind args => exact ⟨(kind, args), rfl, (Option.some.inj h).symm⟩
    · exact absurd h nofun
  · rintro ⟨member, rfl, rfl⟩
    rfl

namespace Request

/-- The request that calls each kind with its arguments. -/
def ofMembers (members : List (String × Json)) : Request := ⟨members.map Entry.ofMember⟩

/-- Items are read as entries if each of them is a pair. -/
theorem mapM_ofJson?_eq_some_iff {items : List Json} {entries : List Entry} :
    items.mapM Entry.ofJson? = some entries ↔
      ∃ members : List (String × Json),
        items = members.map Json.pair ∧ entries = members.map Entry.ofMember := by
  -- on the items: each is a pair for itself
  induction items generalizing entries with
  | nil =>
    rw [List.mapM_nil]
    constructor
    · intro h
      exact ⟨[], rfl, (Option.some.inj h).symm⟩
    · rintro ⟨members, hitems, rfl⟩
      rw [List.map_eq_nil_iff.1 hitems.symm]
      rfl
  | cons v rest ih =>
    rw [List.mapM_cons]
    constructor
    · intro h
      obtain ⟨e, he, hmore⟩ := Option.bind_eq_some_iff.1 h
      obtain ⟨more, hrest, hentries⟩ := Option.bind_eq_some_iff.1 hmore
      obtain ⟨member, rfl, rfl⟩ := Entry.ofJson?_eq_some_iff.1 he
      obtain ⟨members, rfl, rfl⟩ := ih.1 hrest
      exact ⟨member :: members, rfl, (Option.some.inj hentries).symm⟩
    · rintro ⟨members, hitems, rfl⟩
      cases members with
      | nil => exact absurd hitems nofun
      | cons member members =>
        rw [List.map_cons, List.cons.injEq] at hitems
        rw [Entry.ofJson?_eq_some_iff.2 ⟨member, hitems.1, rfl⟩, ih.2 ⟨members, hitems.2, rfl⟩]
        rfl

theorem ofJson_object (members : List (String × Json)) :
    ofJson (.object members) = .ok (ofMembers members) := rfl

theorem ofJson_pairs (members : List (String × Json)) :
    ofJson (.pairs members) = .ok (ofMembers members) := by
  rw [Json.pairs, ofJson, mapM_ofJson?_eq_some_iff.2 ⟨members, rfl, rfl⟩]
  rfl

/-- A request is read from an object or a list of pairs, and has an entry for
each member or pair. -/
theorem ofJson_eq_ok_iff {v : Json} {r : Request} :
    ofJson v = .ok r ↔
      ∃ members, (v = .object members ∨ v = .pairs members) ∧ r = ofMembers members := by
  constructor
  · intro h
    unfold ofJson at h
    split at h
    · next members => exact ⟨members, Or.inl rfl, (Except.ok.inj h).symm⟩
    · next items =>
      split at h
      · next entries hentries =>
        obtain ⟨members, rfl, rfl⟩ := mapM_ofJson?_eq_some_iff.1 hentries
        exact ⟨members, Or.inr rfl, (Except.ok.inj h).symm⟩
      · exact absurd h nofun
    · exact absurd h nofun
  · rintro ⟨members, rfl | rfl, rfl⟩
    · exact ofJson_object members
    · exact ofJson_pairs members

/-- There is one way to be refused as a request. -/
theorem ofJson_eq_error {v : Json} {error : DecodeError} (h : ofJson v = .error error) :
    error = .notRequest := by
  unfold ofJson at h
  split at h
  · exact absurd h nofun
  · split at h
    · exact absurd h nofun
    · exact (Except.error.inj h).symm
  · exact (Except.error.inj h).symm

/-- An array is a list of pairs if each of its elements is one. -/
theorem exists_pairs_iff {items : List Json} :
    (∃ members, Json.array items = .pairs members) ↔
      ∀ item ∈ items, ∃ kind args, item = .array [.string kind, args] := by
  constructor
  · rintro ⟨members, h⟩ item hitem
    rw [Json.pairs, Json.array.injEq] at h
    obtain ⟨member, _, rfl⟩ := List.mem_map.1 (h ▸ hitem)
    exact ⟨member.1, member.2, rfl⟩
  · intro h
    induction items with
    | nil => exact ⟨[], rfl⟩
    | cons item rest ih =>
      rw [List.forall_mem_cons] at h
      obtain ⟨⟨kind, args, rfl⟩, hrest⟩ := h
      obtain ⟨members, hmembers⟩ := ih hrest
      rw [Json.pairs, Json.array.injEq] at hmembers
      exact ⟨(kind, args) :: members, by rw [hmembers]; rfl⟩

/-! ## Texts of objects -/

/-- The text of an object is read as the list of pairs that has each kind once,
at its first place with its last arguments. -/
theorem read?_of_spells_object {text : String} {members : List (String × Json)}
    (h : Json.Spells text (.object members))
    (hdepth : (Json.object members).depth ≤ Json.maxDepth) :
    read? text = some (ofMembers (lastWrites (members.map fun m => (m.1, m.2.normalize)))) := by
  have hread : Json.read? text = some (Json.object members).normalize :=
    Json.read?_eq_some_iff.2 ⟨.object members, h, hdepth, rfl⟩
  rw [read?, hread, Json.normalize_object]
  rfl

/-- A text that is read as an object spells one, of which the last member of each key
was kept. -/
theorem exists_spells_object {text : String} {members : List (String × Json)}
    (h : Json.read? text = some (.object members)) :
    ∃ written, Json.Spells text (.object written) ∧
      (Json.object written).depth ≤ Json.maxDepth ∧
      members = lastWrites (written.map fun m => (m.1, m.2.normalize)) := by
  obtain ⟨v, hspells, hdepth, hv⟩ := Json.read?_eq_some_iff.1 h
  obtain ⟨written, rfl⟩ := Json.exists_object_of_normalize hv
  rw [Json.normalize_object] at hv
  exact ⟨written, hspells, hdepth, Json.object.inj hv⟩

/-! ## The way back -/

/-- Every entry that was read has arguments, so there is nothing to fill. -/
theorem filled_ofMembers (members : List (String × Json)) :
    (ofMembers members).filled = ofMembers members := by
  rw [filled, ofMembers, List.map_map]
  rfl

/-- The arguments of a request are parts of the value that it was read from. -/
theorem wellFormed_of_ofJson {v : WellFormedJson} {r : Request} (h : ofJson v.val = .ok r) :
    r.ForArgs Json.WellFormed := by
  obtain ⟨v, hwf⟩ := v
  obtain ⟨members, hv, rfl⟩ := ofJson_eq_ok_iff.1 h
  intro e he args hargs
  obtain ⟨m, hm, rfl⟩ := List.mem_map.1 he
  obtain rfl : m.2 = args := Option.some.inj hargs
  rcases hv with rfl | rfl
  · exact Json.membersWellFormed_iff.1 hwf.2 m hm
  · have hpair : (Json.pair m).WellFormed :=
      Json.itemsWellFormed_iff.1 hwf _ (List.mem_map_of_mem hm)
    exact hpair.2.1

/-- What is read from a text is well-formed, whatever its objects repeat. -/
theorem exists_wellFormed_of_read? {text : String} {r : Request} (h : read? text = some r) :
    ∃ s : WellFormedRequest, s.toRequest = r := by
  obtain ⟨v, hv, hr⟩ := Option.bind_eq_some_iff.1 h
  have hwf : r.ForArgs Json.WellFormed :=
    wellFormed_of_ofJson (v := ⟨v, Json.wellFormed_of_read? hv⟩) (toOption_eq_some_iff.1 hr)
  exact ⟨⟨r, hwf⟩, rfl⟩

/-- Values are read as requests if and only if they have one of two forms, and
the two agree. Members and pairs become entries in order, none of them without
arguments. What the text of an object repeats is read at its first place as it
stands last, and every text that is read as an object is such a text. A request
that was read comes back from its own value. -/
theorem ofJson_forms :
    (∀ v, (∃ r, ofJson v = .ok r) ↔
      (∃ members, v = .object members) ∨
        ∃ items, v = .array items ∧
          ∀ item ∈ items, ∃ kind args, item = .array [.string kind, args]) ∧
    (∀ v error, ofJson v = .error error → error = .notRequest) ∧
    (∀ v r, ofJson v = .ok r →
      ∃ members : List (String × Json), (v = .object members ∨ v = .pairs members) ∧
        r.entries = members.map fun m => ⟨m.1, some m.2⟩) ∧
    (∀ members, ofJson (.object members) = ofJson (.pairs members)) ∧
    (∀ text members, Json.Spells text (.object members) →
      (Json.object members).depth ≤ Json.maxDepth →
      ∃ r, read? text = some r ∧
        ofJson (.pairs (lastWrites (members.map fun m => (m.1, m.2.normalize)))) = .ok r) ∧
    (∀ text members, Json.read? text = some (.object members) →
      ∃ written, Json.Spells text (.object written) ∧
        (Json.object written).depth ≤ Json.maxDepth ∧
        members = lastWrites (written.map fun m => (m.1, m.2.normalize))) ∧
    (∀ v r, ofJson v = .ok r → ofJson r.toJson = .ok r) ∧
    ∀ (v : WellFormedJson) r, ofJson v.val = .ok r → r.equiv r = true := by
  refine ⟨fun v => ⟨?_, ?_⟩, fun v error => ofJson_eq_error, ?_, ?_, ?_,
    fun text members => exists_spells_object, ?_, ?_⟩
  · rintro ⟨r, h⟩
    obtain ⟨members, rfl | rfl, -⟩ := ofJson_eq_ok_iff.1 h
    · exact Or.inl ⟨members, rfl⟩
    · exact Or.inr ⟨_, rfl, exists_pairs_iff.1 ⟨members, rfl⟩⟩
  · rintro (⟨members, rfl⟩ | ⟨items, rfl, hitems⟩)
    · exact ⟨_, ofJson_object members⟩
    · obtain ⟨members, hmembers⟩ := exists_pairs_iff.2 hitems
      exact ⟨_, hmembers ▸ ofJson_pairs members⟩
  · intro v r h
    obtain ⟨members, hv, rfl⟩ := ofJson_eq_ok_iff.1 h
    exact ⟨members, hv, rfl⟩
  · intro members
    exact (ofJson_object members).trans (ofJson_pairs members).symm
  · intro text members hspells hdepth
    exact ⟨_, read?_of_spells_object hspells hdepth, ofJson_pairs _⟩
  · intro v r h
    obtain ⟨members, -, rfl⟩ := ofJson_eq_ok_iff.1 h
    rw [ofJson_toJson, filled_ofMembers]
  · intro v r h
    exact WellFormedRequest.equiv_refl ⟨r, wellFormed_of_ofJson h⟩

/-- A repeated kind with a `null` between, in a text with blanks. -/
theorem read?_of_repeated_kind :
    let text := "\x7b \"must\": true, \"filter\": null, \"must\": [ ] \x7d"
    let written : List (String × Json) :=
      [("must", .bool true), ("filter", .null), ("must", .array [])]
    Json.Spells text (.object written) ∧
      ∃ r, read? text = some r ∧
        ofJson (.pairs [("must", .array []), ("filter", .null)]) = .ok r ∧
        ofJson r.toJson = .ok r := by
  intro text written
  obtain ⟨-, -, -, -, hread, -, hback, -⟩ := ofJson_forms
  have hspells : Json.Spells text (.object written) := by decide +kernel
  obtain ⟨r, hr, hpairs⟩ := hread text written hspells (by decide)
  exact ⟨hspells, r, hr, hpairs, hback _ r hpairs⟩

end Request

end SearchRules
