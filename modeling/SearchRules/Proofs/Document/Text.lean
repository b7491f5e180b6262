import SearchRules.Proofs.Document.Fragments
import SearchRules.Proofs.Json.Equality
import SearchRules.Proofs.Json.Portable

/-!
# The text of a document read back

A document is written as a stream of tokens of its own, without its value being
built. The tokens are those of the value all the same (`tokens_toJson`), so that
the text of a document is read as its value is; and the value is read as the
document, with its clauses in their order, because no clause has two names.

> `portable_toJson`: the value of a document is two levels deeper than its
> fragments.
>
> `read?_write`: a document without floats comes back from its text exactly if the
> reader goes as deep as that.
-/

namespace SearchRules.Document

/-! ## The stream of tokens -/

/-- Blocks with commas between them are the first block and then all others, each
after a comma. -/
theorem separated_map_cons {α : Type} {block : α → List Token} {more : List α → List Token}
    (hnil : more [] = []) (hcons : ∀ a as, more (a :: as) = .comma :: (block a ++ more as))
    (a : α) (as : List α) : separated ((a :: as).map block) = block a ++ more as := by
  induction as generalizing a with
  | nil =>
    rw [hnil, List.append_nil]
    rfl
  | cons a' as ih =>
    rw [hcons, ← ih a']
    rfl

/-- The tokens of an array are those of its items, set apart by commas. -/
theorem tokens_array (items : List Json) :
    (Json.array items).tokens =
      .openArray :: (separated (items.map Json.tokens) ++ [.closeArray]) := by
  cases items with
  | nil => rfl
  | cons v rest =>
    have hblocks : separated ((v :: rest).map Json.tokens) = v.tokens ++ Json.itemsTokens rest :=
      separated_map_cons rfl (fun _ _ => rfl) v rest
    rw [hblocks, Json.tokens, List.append_assoc]

/-- The tokens of a member: its key, a colon and its value. -/
def memberTokens (m : String × Json) : List Token := .string m.1 :: .colon :: m.2.tokens

theorem tokens_object (members : List (String × Json)) :
    (Json.object members).tokens =
      .openObject :: (separated (members.map memberTokens) ++ [.closeObject]) := by
  cases members with
  | nil => rfl
  | cons m rest =>
    have hblocks : separated ((m :: rest).map memberTokens) =
        memberTokens m ++ Json.membersTokens rest :=
      separated_map_cons rfl (fun _ _ => rfl) m rest
    rw [hblocks, Json.tokens, List.append_assoc]
    rfl

/-- The stream of a document is that of its value. -/
theorem tokens_toJson (d : Document) : d.toJson.tokens = d.tokens := by
  have hclause : ∀ c fragments, memberTokens (Clause.name c, .array fragments) =
      clauseTokens c fragments := by
    intro c fragments
    rw [memberTokens, tokens_array, clauseTokens, c.derivedName_eq_name]
  rw [toJson, tokens_object, List.map_map, tokens]
  simp only [Function.comp_def, hclause]

/-! ## The value of a document -/

/-- Members that are written from clauses are read in turn, whatever was read before. -/
theorem decodeMembers_clauses (d : Document) (entries : List (Clause × List Json)) :
    d.decodeMembers (entries.map fun (c, fragments) => (c.name, .array fragments)) =
      .ok ⟨d.clauses.insertMany entries⟩ := by
  induction entries generalizing d with
  | nil => rfl
  | cons entry rest ih =>
    obtain ⟨c, fragments⟩ := entry
    have hmember : d.decodeMember c.name (.array fragments) = .ok (d.set c fragments) := by
      rw [decodeMember, c.decodeName_name]
      rfl
    rw [List.map_cons, decodeMembers, hmember]
    exact ih (d.set c fragments)

/-- The value of a document is read as the document. -/
theorem ofJson_toJson (d : Document) : ofJson d.toJson = .ok d := by
  rw [toJson, ofJson, decodeMembers_clauses]
  exact congrArg (fun m => Except.ok (Document.mk m)) d.clauses.ofList_entries

/-- The value of a document is two levels deeper than its fragments. -/
theorem portable_toJson {n : Nat} {d : Document} (h : ∀ c, ∀ v ∈ d.fragments c, v.Portable n) :
    d.toJson.Portable (n + 2) := by
  refine Json.portable_object_iff.2 ⟨?_, fun m hm => ?_⟩
  · rw [List.map_map]
    -- distinct clauses have distinct names
    have hnames : (d.clauses.keys.map Clause.name).Nodup :=
      d.clauses.keys_nodup.map fun _ _ => Clause.name_injective
    rwa [OrderedMap.keys, List.map_map] at hnames
  · obtain ⟨⟨c, fragments⟩, hentry, rfl⟩ := List.mem_map.1 hm
    have hget : d.get? c = some fragments := (d.clauses.get?_eq_some_iff c fragments).2 hentry
    refine Json.portable_array_iff.2 fun v hv => h c v ?_
    rw [Document.fragments, hget]
    exact hv

/-! ## The text of a document -/

/-- A document without floats and repeated keys comes back from its text, if the
text is not too deep. -/
theorem read?_write {n : Nat} {d : Document} (h : d.toJson.Portable n) :
    read? d.write = if d.toJson.depth ≤ Json.maxDepth then some d else none := by
  have hscan : Token.scan d.write.toList = some d.toJson.tokens := by
    rw [write, ← tokens_toJson]
    exact Json.scan_write h.floatFree
  rw [read?, Json.parse?_of_scan hscan]
  by_cases hdepth : d.toJson.depth ≤ Json.maxDepth
  · -- the members are in normal form as they are written
    have hread : (ofJson d.toJson).toOption = some d := by rw [ofJson_toJson]; rfl
    rw [if_pos hdepth, if_pos hdepth]
    show (empty.decodeMembers (Json.normalizeMembers _)).toOption = some d
    rw [Json.normalizeMembers_of_wellFormed _ h.wellFormed.2]
    exact hread
  · rw [if_neg hdepth, if_neg hdepth]

/-- A document equals itself if no key repeats in its fragments. -/
theorem equiv_refl {d : Document} (h : d.toJson.WellFormed) : d.equiv d = true := by
  rw [equiv, beq_self_eq_true, Bool.true_and, List.all_eq_true]
  rintro ⟨c, fragments⟩ hentry
  have hget : d.get? c = some fragments := (d.clauses.get?_eq_some_iff c fragments).2 hentry
  have hmember := Json.membersWellFormed_iff.1 h.2 _ (List.mem_map_of_mem hentry)
  simp only [hget]
  exact Json.itemsEquiv_refl fragments hmember

end SearchRules.Document
