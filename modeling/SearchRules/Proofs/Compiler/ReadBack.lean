import SearchRules.Proofs.Document.Text
import SearchRules.Proofs.Request.Forms
import SearchRules.Proofs.Rule.Values

/-!
# A compiled document read back

The reader goes to one depth in requests and in documents alike, and compiling
puts levels on: what nests as deep as it may in a request is too deep in the
document. Level by level, for a request text that nests `n + 3` arrays and
objects:

* its entries take at least the outermost level, and the arguments of a rule the
  next, so that the values of a rule nest `n + 1` at most;
* settings beside a value put it on the third level of its fragment, which nests
  `n + 4`; no other form of a fragment is deeper;
* the document puts its own two levels on, `n + 6` in all.

The deepest of these forms meet in one request, an object with a condition by
name, of which a value is the deepest part and which has settings: there every
bound is attained.

> `forArgs_portable_of_read?`: the arguments of a request that was read.
>
> `portable_toJson_of_build`: the document, three levels deeper than the text.
>
> `read?_write_of_build`: hence a request text may nest 124 levels for its document
> to come back from its text, and not 125.
-/

namespace SearchRules

namespace Json

/-- The value `null` inside of `n` arrays. -/
def nested : Nat → Json
  | 0 => .null
  | n + 1 => .array [nested n]

theorem depth_nested (n : Nat) : (nested n).depth = n := by
  induction n with
  | zero => rfl
  | succ n ih =>
    show max (nested n).depth 0 + 1 = n + 1
    rw [ih, Nat.max_zero]

theorem portable_nested (n : Nat) : (nested n).Portable n := by
  induction n with
  | zero => exact portable_null
  | succ n ih => exact portable_array_iff.2 (List.forall_mem_singleton.2 ih)

end Json

/-- The arguments of a request are at least one level below its text. -/
theorem Request.forArgs_portable_of_read? {n : Nat} {text : String} {v : Json} {r : Request}
    (hspells : Json.Spells text v) (hfloat : v.floatFree = true) (hdepth : v.depth ≤ n + 1)
    (hread : read? text = some r) : r.ForArgs (Json.Portable n) := by
  obtain ⟨w, hw, hr⟩ := Option.bind_eq_some_iff.1 hread
  have hportable := Json.portable_of_read? hspells hfloat hdepth hw
  obtain ⟨members, hmembers, rfl⟩ := ofJson_eq_ok_iff.1 (toOption_eq_some_iff.1 hr)
  intro e he args hargs
  obtain ⟨m, hm, rfl⟩ := List.mem_map.1 he
  obtain rfl : m.2 = args := Option.some.inj hargs
  rcases hmembers with rfl | rfl
  · exact (Json.portable_object_iff.1 hportable).2 m hm
  · -- a pair takes one more level
    have hpair : (Json.pair m).Portable n :=
      Json.portable_array_iff.1 hportable _ (List.mem_map_of_mem hm)
    exact hpair.of_mem_array (List.mem_cons_of_mem _ List.mem_cons_self)

namespace Compiler

/-- The edit of an entry carries values from below the first level of its
arguments. -/
theorem portable_values_of_edit? {n : Nat} {e : Entry} {edit : Edit} (h : e.edit? = some edit)
    (hargs : ∀ args ∈ e.args, args.Portable (n + 1)) : ∀ v ∈ edit.values, v.Portable n := by
  obtain ⟨⟨kind, args⟩, hlive, hedit⟩ := Option.bind_eq_some_iff.1 h
  exact RuleKind.portable_values_edit (toOption_eq_some_iff.1 hedit)
    (hargs args (Entry.live?_eq_some_iff.1 hlive).1)

/-- A document is at most three levels deeper than the text of its request. -/
theorem portable_toJson_of_build {n : Nat} {config : Config} {text : String} {v : Json}
    {r : Request} {document : Document} (hspells : Json.Spells text v)
    (hfloat : v.floatFree = true) (hdepth : v.depth ≤ n + 3)
    (hread : Request.read? text = some r) (hbuild : (withConfig config).build r = .ok document) :
    document.toJson.Portable (n + 6) := by
  have hargs : r.ForArgs (Json.Portable (n + 2)) :=
    Request.forArgs_portable_of_read? hspells hfloat hdepth hread
  obtain ⟨-, -, rfl⟩ := build_withConfig_eq_ok_iff.1 hbuild
  refine Document.portable_toJson fun c fragment hfragment => ?_
  obtain ⟨edit, hedit, rfl⟩ := Draft.exists_edit_of_mem_fragments hfragment
  obtain ⟨e, he, hsome⟩ := List.mem_filterMap.1 hedit
  exact Edit.portable_fragment (portable_values_of_edit? hsome (hargs e he))

/-! ## The deepest request -/

/-- The value `v` as the deepest part of a request: an object of one condition,
which has settings. -/
def deepRequest (v : Json) : Json :=
  .object [("must", .object [("field", .string "a"), ("value", v),
    ("attributes", .object [("b", .null)])])]

/-- The document of that request. -/
def deepDocument (v : Json) : Document :=
  ⟨.ofList [(.must, [Fragment.leaf "match" "a" (.object [("query", v), ("b", .null)])])]⟩

/-- The request is two levels deeper than its value, which may itself be deeper than
anything beside it. -/
theorem portable_deepRequest {n : Nat} {v : Json} (h : v.Portable (n + 1)) :
    (deepRequest v).Portable (n + 3) := by
  have hsettings : (Json.object [("b", .null)]).Portable (n + 1) :=
    Json.portable_single_iff.2 Json.portable_null
  have hnames : ["field", "value", "attributes"].Nodup := by decide
  refine Json.portable_single_iff.2 (Json.portable_object_iff.2 ⟨hnames, ?_⟩)
  simp only [List.forall_mem_cons]
  exact ⟨Json.portable_string "a", h, hsettings, nofun⟩

theorem portable_deepDocument {n : Nat} {v : Json} (h : v.Portable n) :
    (deepDocument v).toJson.Portable (n + 5) := by
  have hbody : (Json.object [("query", v), ("b", .null)]).Portable (n + 1) := by
    have hnames : ["query", "b"].Nodup := by decide
    refine Json.portable_object_iff.2 ⟨hnames, ?_⟩
    simp only [List.forall_mem_cons]
    exact ⟨h, Json.portable_null, nofun⟩
  have hfragments : ∀ c, ∀ w ∈ (deepDocument v).fragments c, w.Portable (n + 3) := by
    intro c w hw
    cases c with
    | must => exact List.mem_singleton.1 hw ▸ Fragment.portable_leaf hbody
    | filter => exact absurd hw List.not_mem_nil
    | mustNot => exact absurd hw List.not_mem_nil
    | should => exact absurd hw List.not_mem_nil
  exact Document.portable_toJson hfragments

/-- If the value nests at all, nothing else in the request is as deep. -/
theorem depth_deepRequest {v : Json} (h : 0 < v.depth) : (deepRequest v).depth = v.depth + 2 := by
  simp only [deepRequest, Json.depth, Json.membersDepth]
  omega

/-- Nothing else in the document is as deep as the value. -/
theorem depth_deepDocument (v : Json) : (deepDocument v).toJson.depth = v.depth + 5 := by
  -- the body, the field, the search, the array of the clause and the document
  show max (max (max (max (max v.depth (max 0 0) + 1) 0 + 1) 0 + 1) 0 + 1) 0 + 1 = v.depth + 5
  omega

/-- The request is read, and compiled to the document. -/
theorem build_deepRequest (v : Json) :
    ∃ r, Request.ofJson (deepRequest v) = .ok r ∧
      (withConfig .default).build r = .ok (deepDocument v) := ⟨_, rfl, rfl⟩

/-- A request may nest fewer levels than the reader goes and its document more. -/
theorem exists_build_too_deep :
    ∃ text v r document, Json.Spells text v ∧ v.floatFree = true ∧ v.depth = 125 ∧
      Request.read? text = some r ∧ (withConfig .default).build r = .ok document ∧
      Document.read? document.write = none := by
  -- the value nests 123 levels, its request two more and its document five
  have hvalue : (Json.nested 123).Portable 123 := Json.portable_nested 123
  have hrequest : (deepRequest (.nested 123)).Portable 125 := portable_deepRequest hvalue
  have hdepth : (deepRequest (.nested 123)).depth = 125 := by
    rw [depth_deepRequest (by rw [Json.depth_nested]; decide), Json.depth_nested]
  obtain ⟨r, hr, hbuild⟩ := build_deepRequest (.nested 123)
  have hread : Request.read? (deepRequest (.nested 123)).write = some r := by
    rw [Request.read?, Json.read?_write_of_portable (hrequest.mono (by decide)),
      Option.bind_some, hr]
    rfl
  refine ⟨_, _, r, _, Json.spells_write hrequest.floatFree, hrequest.floatFree, hdepth, hread,
    hbuild, ?_⟩
  rw [Document.read?_write (portable_deepDocument hvalue), depth_deepDocument, Json.depth_nested]
  exact if_neg (by decide)

/-- The document of a request text without floats that nests at most 124 arrays
and objects comes back from its own text as it was, with clauses and keys in their
order, and documents compare as equal to themselves. That is as deep as it goes:
there is a request text that nests one more and is compiled to a document whose
text cannot be read. -/
theorem read?_write_of_build :
    (∀ (config : Config) text v r document, Json.Spells text v → v.floatFree = true →
      v.depth ≤ 124 → Request.read? text = some r →
      (withConfig config).build r = .ok document →
      Document.read? document.write = some document ∧ document.equiv document = true) ∧
    ∃ text v r document, Json.Spells text v ∧ v.floatFree = true ∧ v.depth = 125 ∧
      Request.read? text = some r ∧ (withConfig .default).build r = .ok document ∧
      Document.read? document.write = none := by
  refine ⟨fun config text v r document hspells hfloat hdepth hread hbuild => ?_,
    exists_build_too_deep⟩
  have h : document.toJson.Portable (121 + 6) :=
    portable_toJson_of_build hspells hfloat hdepth hread hbuild
  have hroom : document.toJson.depth ≤ Json.maxDepth := h.depth_le
  rw [Document.read?_write h, if_pos hroom]
  exact ⟨rfl, Document.equiv_refl h.wellFormed⟩

/-- A filter whose settings are merged, in a text with blanks. -/
theorem read?_write_of_build_merged :
    let text := "\x7b \"filter\": [\"a\", [ ], \x7b \"b\": true \x7d ] \x7d"
    let v : Json := .object
      [("filter", .array [.string "a", .array [], .object [("b", .bool true)]])]
    Json.Spells text v ∧ v.depth ≤ 124 ∧ ∃ r document, Request.read? text = some r ∧
      (withConfig ⟨none, true⟩).build r = .ok document ∧
      Document.read? document.write = some document := by
  intro text v
  have hspells : Json.Spells text v := by decide +kernel
  have hdepth : v.depth ≤ 124 := by decide
  have hjson : Json.read? text = some v :=
    Json.read?_eq_some_iff.2 ⟨v, hspells, Nat.le_trans hdepth (by decide), rfl⟩
  have hread : Request.read? text =
      some (.ofMembers [("filter", .array [.string "a", .array [], .object [("b", .bool true)]])]) := by
    rw [Request.read?, hjson]
    rfl
  exact ⟨hspells, hdepth, _, _, hread, rfl,
    (read?_write_of_build.1 ⟨none, true⟩ text v _ _ hspells rfl hdepth hread rfl).1⟩

end Compiler

end SearchRules
