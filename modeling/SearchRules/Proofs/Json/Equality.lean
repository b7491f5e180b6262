import SearchRules.Json.Basic
import SearchRules.Proofs.OrderedMap.Pairwise

/-!
# Equal JSON values

Equality of JSON values looks at the order of array items and not at that of
object members. Where keys do not repeat, two objects are equal if the members
of one are those of the other in some order, up to equality of the values.

> `equiv_refl`: a well-formed value is equal to itself.
>
> `exists_perm_of_alike`: the members of an equal object, put into the order of
> the first, are equal to its members one by one.
>
> `Alike.view`: equal values have the same shape, and equal parts.
>
> `lookup_alike`, `alike_ofMap`: equal objects hold equal values under every
> key, and that is enough for two maps to be equal as objects.
-/

namespace SearchRules.Json

/-- Values that are equal, the order of members left aside. -/
def Same (v w : Json) : Prop := v.equiv w = true

theorem itemsEquiv_iff {vs ws : List Json} :
    itemsEquiv vs ws = true ↔ List.Forall₂ Same vs ws := by
  induction vs generalizing ws with
  | nil => cases ws <;> simp [itemsEquiv]
  | cons v rest ih => cases ws <;> simp [itemsEquiv, ih, Same]

theorem membersEquiv_iff {ms ns : List (String × Json)} :
    membersEquiv ms ns = true ↔ ∀ m ∈ ms, ∃ w, ns.lookup m.1 = some w ∧ Same m.2 w := by
  induction ms with
  | nil => simp [membersEquiv]
  | cons m rest ih =>
    obtain ⟨key, v⟩ := m
    rw [membersEquiv, Bool.and_eq_true, ih, List.forall_mem_cons]
    refine and_congr ?_ Iff.rfl
    cases ns.lookup key with
    | none => simp
    | some w => simp [Same]

/-- Arrays are equal if they are as long and equal item by item. -/
theorem same_array_iff {vs ws : List Json} :
    Same (.array vs) (.array ws) ↔ List.Forall₂ Same vs ws := by
  rw [Same, equiv, itemsEquiv_iff]

/-- Objects are equal if they are as large and each member of the one has an equal one
in the other. -/
theorem same_object_iff {ms ns : List (String × Json)} :
    Same (.object ms) (.object ns) ↔
      ms.length = ns.length ∧ ∀ m ∈ ms, ∃ w, ns.lookup m.1 = some w ∧ Same m.2 w := by
  rw [Same, equiv, Bool.and_eq_true, membersEquiv_iff, beq_iff_eq]

/-! ## A value is equal to itself -/

mutual

/-- A value equals itself. With a key twice it might not: the first of the two values
would be found for both. -/
theorem equiv_refl : ∀ (v : Json) (_ : v.WellFormed), v.equiv v = true
  | .null, _ => rfl
  | .bool b, _ => beq_self_eq_true b
  | .number (.int n _), _ => beq_self_eq_true n
  | .number (.float x), _ => x.equiv_refl
  | .string s, _ => beq_self_eq_true s
  | .array items, h => itemsEquiv_refl items h
  | .object members, h => by
    refine same_object_iff.2 ⟨rfl, fun m hm => ?_⟩
    exact ⟨m.2, lookup_eq_some_of_mem h.1 hm, membersEquiv_refl members h.2 m hm⟩

theorem itemsEquiv_refl : ∀ (items : List Json) (_ : ItemsWellFormed items),
    itemsEquiv items items = true
  | [], _ => rfl
  | v :: rest, h => by
    rw [itemsEquiv, equiv_refl v h.1, itemsEquiv_refl rest h.2]
    rfl

theorem membersEquiv_refl : ∀ (members : List (String × Json)) (_ : MembersWellFormed members),
    ∀ m ∈ members, m.2.equiv m.2 = true
  | [], _, _, hm => absurd hm List.not_mem_nil
  | (_, v) :: rest, h, m, hm => by
    rcases List.mem_cons.1 hm with rfl | hm
    · exact equiv_refl v h.1
    · exact membersEquiv_refl rest h.2 m hm

end

/-! ## Equal objects -/

/-- Well-formed values that are equal. -/
structure Alike (v w : Json) : Prop where
  left : v.WellFormed
  right : w.WellFormed
  same : Same v w

theorem alike_refl {v : Json} (h : v.WellFormed) : Alike v v := ⟨h, h, v.equiv_refl h⟩

/-- Put the members of an equal object into the order of the first: they are
equal one by one. -/
theorem exists_perm_of_alike {ms ns : List (String × Json)}
    (h : Alike (.object ms) (.object ns)) :
    ∃ l, List.Forall₂ (Paired Alike) ms l ∧ l.Perm ns := by
  obtain ⟨⟨hms, hmsValues⟩, ⟨hns, hnsValues⟩, hsame⟩ := h
  rw [membersWellFormed_iff] at hmsValues hnsValues
  obtain ⟨hlength, hfind⟩ := same_object_iff.1 hsame
  -- the member of the other object that stands under the same key
  let partner : String × Json → String × Json := fun m => (m.1, (ns.lookup m.1).getD .null)
  have hpartner : ∀ m ∈ ms, Paired Alike m (partner m) ∧ partner m ∈ ns := by
    intro m hm
    obtain ⟨w, hw, hvw⟩ := hfind m hm
    have hvalue : partner m = (m.1, w) := by simp [partner, hw]
    have hmem : (m.1, w) ∈ ns := mem_of_lookup_eq_some hw
    rw [hvalue]
    exact ⟨⟨rfl, hmsValues m hm, hnsValues _ hmem, hvw⟩, hmem⟩
  have hkeys : (ms.map partner).map Prod.fst = ms.map Prod.fst := by
    rw [List.map_map]
    rfl
  have hsub : ms.map partner ⊆ ns := by
    intro n hn
    obtain ⟨m, hm, rfl⟩ := List.mem_map.1 hn
    exact (hpartner m hm).2
  refine ⟨ms.map partner, ?_, ?_⟩
  · rw [List.forall₂_map_right_iff, List.forall₂_same]
    exact fun m hm => (hpartner m hm).1
  · -- distinct keys make the partners distinct, and there are as many as members
    have hdistinct : (ms.map partner).Nodup := List.Nodup.of_map Prod.fst (hkeys ▸ hms)
    refine (hdistinct.subperm hsub).perm_of_length_le ?_
    rw [List.length_map]
    omega

/-- Equal objects hold equal values under each key. -/
theorem lookup_alike {ms ns : List (String × Json)} (h : Alike (.object ms) (.object ns))
    (k : String) : Option.Rel Alike (ms.lookup k) (ns.lookup k) := by
  obtain ⟨l, hl, hperm⟩ := exists_perm_of_alike h
  rw [← lookup_of_perm hperm h.right.1]
  exact lookup_of_forall₂ hl k

/-- Equal objects are equal as maps. -/
theorem agree_ofList {ms ns : List (String × Json)} (h : Alike (.object ms) (.object ns)) :
    OrderedMap.Agree Alike (.ofList ms) (.ofList ns) := by
  intro k
  rw [OrderedMap.get?, OrderedMap.get?, OrderedMap.entries_ofList h.left.1,
    OrderedMap.entries_ofList h.right.1]
  exact lookup_alike h k

/-! ## What equal values look like -/

theorem forall₂_alike {vs ws : List Json} (hvs : ItemsWellFormed vs) (hws : ItemsWellFormed ws)
    (h : List.Forall₂ Same vs ws) : List.Forall₂ Alike vs ws := by
  induction h with
  | nil => exact .nil
  | cons hsame _ ih => exact .cons ⟨hvs.1, hws.1, hsame⟩ (ih hvs.2 hws.2)

/-- Values that are alike, one level deep. -/
inductive View : Json → Json → Prop
  | null : View .null .null
  | bool (b : Bool) : View (.bool b) (.bool b)
  | number {m n : Number} (h : m.equiv n = true) : View (.number m) (.number n)
  | string (s : String) : View (.string s) (.string s)
  | array {vs ws : List Json} (h : List.Forall₂ Alike vs ws) : View (.array vs) (.array ws)
  | object {ms ns : List (String × Json)} (h : Alike (.object ms) (.object ns)) :
    View (.object ms) (.object ns)

/-- Alike values are of one form, with alike parts. -/
theorem Alike.view {v w : Json} (h : Alike v w) : View v w := by
  obtain ⟨hv, hw, hsame⟩ := h
  -- values of different sorts are not equal
  cases v <;> cases w <;> try exact absurd hsame Bool.false_ne_true
  case null.null => exact .null
  case bool.bool => exact (beq_iff_eq.1 hsame) ▸ .bool _
  case number.number => exact .number hsame
  case string.string => exact (beq_iff_eq.1 hsame) ▸ .string _
  case array.array => exact .array (forall₂_alike hv hw (same_array_iff.1 hsame))
  case object.object => exact .object ⟨hv, hw, hsame⟩

theorem alike_array {vs ws : List Json} (h : List.Forall₂ Alike vs ws) :
    Alike (.array vs) (.array ws) := by
  have hitems : ItemsWellFormed vs ∧ ItemsWellFormed ws ∧ List.Forall₂ Same vs ws := by
    induction h with
    | nil => exact ⟨trivial, trivial, .nil⟩
    | cons hvw _ ih => exact ⟨⟨hvw.left, ih.1⟩, ⟨hvw.right, ih.2.1⟩, .cons hvw.same ih.2.2⟩
  exact ⟨hitems.1, hitems.2.1, same_array_iff.2 hitems.2.2⟩

/-- Two maps that hold equal values under every key are equal as objects. -/
theorem alike_ofMap {m n : OrderedMap String Json} (h : OrderedMap.Agree Alike m n) :
    Alike (.ofMap m) (.ofMap n) := by
  -- a member of either map has a partner in the other
  have hleft : ∀ member ∈ m.entries, ∃ w, n.get? member.1 = some w ∧ Alike member.2 w :=
    (OrderedMap.agree_iff_size_eq.1 h).2
  have hright : ∀ member ∈ n.entries, ∃ v, m.get? member.1 = some v ∧ Alike v member.2 := by
    intro member hmem
    have hk := h member.1
    rw [(n.get?_eq_some_iff member.1 member.2).2 hmem] at hk
    exact exists_of_rel_some hk
  refine ⟨⟨m.nodup, membersWellFormed_iff.2 fun member hmem => ?_⟩,
    ⟨n.nodup, membersWellFormed_iff.2 fun member hmem => ?_⟩,
    same_object_iff.2 ⟨h.size_eq, fun member hmem => ?_⟩⟩
  · obtain ⟨w, _, hvw⟩ := hleft member hmem
    exact hvw.left
  · obtain ⟨v, _, hvw⟩ := hright member hmem
    exact hvw.right
  · obtain ⟨w, hw, hvw⟩ := hleft member hmem
    exact ⟨w, hw, hvw.same⟩

/-- Objects of one member are equal if what stands there is. -/
theorem alike_single {v w : Json} (h : Alike v w) (key : String) :
    Alike (.object [(key, v)]) (.object [(key, w)]) := by
  refine ⟨⟨List.nodup_singleton key, h.left, trivial⟩,
    ⟨List.nodup_singleton key, h.right, trivial⟩, same_object_iff.2 ⟨rfl, ?_⟩⟩
  intro m hm
  rw [List.mem_singleton] at hm
  subst hm
  exact ⟨w, List.lookup_cons_self .., h.same⟩

end SearchRules.Json
