import SearchRules.Json.Text

/-!
# JSON text read back

Reading inverts writing. The machine that reads tokens takes the tokens of a
value as one step: from waiting for a value to having it complete, whatever
follows, if there is room for the depth of the value, and to failure if there is
not (`run?_tokens_append`, by induction on the value). Texts add that tokens can
be told apart, which they can because a value never has a number before a number.

> `parse?_of_scan`: a text of the tokens of a value is parsed as the value.
>
> `read?_write`: a value without floats comes back from its text, each object as
> the map of its members, exactly if it is at most `maxDepth` deep.
>
> `wellFormed_of_read?`: whatever is read from a text is well-formed.
-/

namespace SearchRules.Json

/-! ## Tokens -/

theorem run?_cons (p : Progress) (t : Token) (ts : List Token) :
    p.run? (t :: ts) = (p.step? t).bind fun p => p.run? ts := rfl

/-- An array opens if there is room for one more level. -/
theorem run?_openArray_cons (context : Context) (ts : List Token) :
    (Progress.value context).run? (.openArray :: ts) =
      if context.length + 1 ≤ maxDepth then (Progress.firstItem context).run? ts else none := by
  rw [run?_cons, Progress.step?, begin?]
  by_cases h : context.length < maxDepth
  · rw [if_pos h]
    exact (if_pos h).symm
  · rw [if_neg h]
    exact (if_neg h).symm

theorem run?_openObject_cons (context : Context) (ts : List Token) :
    (Progress.value context).run? (.openObject :: ts) =
      if context.length + 1 ≤ maxDepth then (Progress.firstKey context).run? ts else none := by
  rw [run?_cons, Progress.step?, begin?]
  by_cases h : context.length < maxDepth
  · rw [if_pos h]
    exact (if_pos h).symm
  · rw [if_neg h]
    exact (if_neg h).symm

/-- In an array that has just opened, all but its end begins the first item. -/
theorem step?_firstItem (context : Context) {t : Token} (h : t ≠ .closeArray) :
    (Progress.firstItem context).step? t = (Progress.value (.items [] :: context)).step? t := by
  cases t with
  | closeArray => exact absurd rfl h
  | _ => rfl

/-- The tokens of a value do not begin with the end of an array. -/
theorem tokens_eq_cons (v : Json) : ∃ t ts, v.tokens = t :: ts ∧ t ≠ .closeArray := by
  cases v with
  | array items => cases items <;> exact ⟨_, _, rfl, by simp⟩
  | object members => cases members <;> exact ⟨_, _, rfl, by simp⟩
  | _ => exact ⟨_, _, rfl, by simp⟩

/-- A value does not start with a closing bracket, so behind an opening one it is the
first item. -/
theorem run?_firstItem_tokens_append (context : Context) (v : Json) (ts : List Token) :
    (Progress.firstItem context).run? (v.tokens ++ ts) =
      (Progress.value (.items [] :: context)).run? (v.tokens ++ ts) := by
  obtain ⟨t, rest, ht, hne⟩ := v.tokens_eq_cons
  rw [ht, List.cons_append, run?_cons, run?_cons, step?_firstItem context hne]

/-- Room for two depths in turn is room for the greater one. -/
theorem ite_room_ite_room {α : Type} (opened d e : Nat) (x : Option α) :
    (if opened + d ≤ maxDepth then if opened + e ≤ maxDepth then x else none else none) =
      if opened + max d e ≤ maxDepth then x else none := by
  by_cases hd : opened + d ≤ maxDepth
  · by_cases he : opened + e ≤ maxDepth
    · rw [if_pos hd, if_pos he, if_pos (by omega)]
    · rw [if_pos hd, if_neg he, if_neg (by omega)]
  · rw [if_neg hd, if_neg (by omega)]

/-- Opening once asks for no more room than the depth that follows. -/
theorem ite_room_of_opened {α : Type} (opened d : Nat) {x y : Option α}
    (h : opened + 1 ≤ maxDepth → x = if opened + 1 + d ≤ maxDepth then y else none) :
    (if opened + 1 ≤ maxDepth then x else none) =
      if opened + (d + 1) ≤ maxDepth then y else none := by
  by_cases ho : opened + 1 ≤ maxDepth
  · rw [if_pos ho, h ho, Nat.add_right_comm, Nat.add_assoc]
  · rw [if_neg ho, if_neg (by omega)]

mutual

/-- Where there is room for its depth, reading the tokens of a value completes
the value; where there is not, it fails. -/
theorem run?_tokens_append : ∀ (v : Json) (context : Context)
    (_ : context.length ≤ maxDepth) {ts : List Token},
    (Progress.value context).run? (v.tokens ++ ts) =
      if context.length + v.depth ≤ maxDepth then
        (Progress.complete context v).run? ts
      else none
  | .null, _, h, _ => (if_pos h).symm
  | .bool _, _, h, _ => (if_pos h).symm
  | .number _, _, h, _ => (if_pos h).symm
  | .string _, _, h, _ => (if_pos h).symm
  | .array [], context, _, ts => run?_openArray_cons context (.closeArray :: ts)
  | .array (v :: rest), context, _, ts => by
    rw [tokens, List.cons_append, List.append_assoc, List.append_assoc, run?_openArray_cons]
    -- the room for the array is looked at when it opens, and again for its parts
    refine ite_room_of_opened context.length (max v.depth (itemsDepth rest)) fun h => ?_
    rw [run?_firstItem_tokens_append, run?_tokens_append v (.items [] :: context) h,
      List.length_cons, List.singleton_append, run?_itemsTokens_append rest context h,
      ite_room_ite_room]
    rfl
  | .object [], context, _, ts => run?_openObject_cons context (.closeObject :: ts)
  | .object ((key, v) :: rest), context, _, ts => by
    simp only [tokens, List.cons_append, List.append_assoc, run?_openObject_cons]
    refine ite_room_of_opened context.length (max v.depth (membersDepth rest)) fun h => ?_
    refine (run?_tokens_append v (.members [] key :: context) h).trans ?_
    rw [List.length_cons, List.nil_append, run?_membersTokens_append rest context h,
      ite_room_ite_room]
    rfl

/-- The items that are left and the bracket that closes them complete the array, if
every one of them finds room. -/
theorem run?_itemsTokens_append : ∀ (rest : List Json) (context : Context)
    (_ : context.length + 1 ≤ maxDepth) {before : List Json} {v : Json} {ts : List Token},
    (Progress.complete (.items before :: context) v).run?
        (itemsTokens rest ++ .closeArray :: ts) =
      if context.length + 1 + itemsDepth rest ≤ maxDepth then
        (Progress.complete context (.array (before ++ v :: rest))).run? ts
      else none
  | [], _, h, _, _, _ => (if_pos h).symm
  | w :: rest, context, h, before, v, ts => by
    rw [itemsTokens, List.cons_append, List.append_assoc]
    refine (run?_tokens_append w (.items (before ++ [v]) :: context) h).trans ?_
    rw [List.length_cons, run?_itemsTokens_append rest context h, ite_room_ite_room,
      List.append_assoc]
    rfl

/-- The members that are left and the brace that closes them complete the object, if
every value of them finds room. -/
theorem run?_membersTokens_append : ∀ (rest : List (String × Json)) (context : Context)
    (_ : context.length + 1 ≤ maxDepth) {before : List (String × Json)} {key : String}
    {v : Json} {ts : List Token},
    (Progress.complete (.members before key :: context) v).run?
        (membersTokens rest ++ .closeObject :: ts) =
      if context.length + 1 + membersDepth rest ≤ maxDepth then
        (Progress.complete context (.object (before ++ (key, v) :: rest))).run? ts
      else none
  | [], _, h, _, _, _, _ => (if_pos h).symm
  | (key', w) :: rest, context, h, before, key, v, ts => by
    simp only [membersTokens, List.cons_append, List.append_assoc]
    refine (run?_tokens_append w (.members (before ++ [(key, v)]) key' :: context) h).trans ?_
    rw [List.length_cons, run?_membersTokens_append rest context h, ite_room_ite_room,
      List.append_assoc]
    rfl

end

/-- The tokens of a value are read as the value, if it is not too deep. -/
theorem ofTokens?_tokens (v : Json) :
    ofTokens? v.tokens = if v.depth ≤ maxDepth then some v else none := by
  have h : Progress.run? (.value []) (v.tokens ++ []) = _ :=
    run?_tokens_append v [] (Nat.zero_le maxDepth)
  rw [List.append_nil, List.length_nil, Nat.zero_add] at h
  rw [ofTokens?, h]
  split <;> rfl

/-! ## Texts -/

theorem startsWithNumber_itemsTokens (rest : List Json) (ts : List Token) :
    Token.startsWithNumber (itemsTokens rest ++ .closeArray :: ts) = false := by
  cases rest <;> rfl

theorem startsWithNumber_membersTokens (rest : List (String × Json)) (ts : List Token) :
    Token.startsWithNumber (membersTokens rest ++ .closeObject :: ts) = false := by
  cases rest <;> rfl

mutual

/-- The tokens of a value without floats can be told apart in its text. -/
theorem readable_tokens_append : ∀ (v : Json) (_ : v.floatFree = true) {ts : List Token}
    (_ : Token.startsWithNumber ts = false) (_ : Token.Readable ts),
    Token.Readable (v.tokens ++ ts)
  | .null, _, _, _, hts => ⟨rfl, nofun, hts⟩
  | .bool _, _, _, _, hts => ⟨rfl, nofun, hts⟩
  | .number (.int _ _), _, _, hhead, hts => ⟨rfl, fun _ => hhead, hts⟩
  | .string _, _, _, _, hts => ⟨rfl, nofun, hts⟩
  | .array [], _, _, _, hts => ⟨rfl, nofun, rfl, nofun, hts⟩
  | .array (v :: rest), h, ts, _, hts => by
    have hf : v.floatFree = true ∧ itemsFloatFree rest = true := Bool.and_eq_true_iff.1 h
    rw [tokens, List.cons_append, List.append_assoc, List.append_assoc]
    exact ⟨rfl, nofun, readable_tokens_append v hf.1 (startsWithNumber_itemsTokens rest ts)
      (readable_itemsTokens_append rest hf.2 hts)⟩
  | .object [], _, _, _, hts => ⟨rfl, nofun, rfl, nofun, hts⟩
  | .object ((key, v) :: rest), h, ts, _, hts => by
    have hf : v.floatFree = true ∧ membersFloatFree rest = true := Bool.and_eq_true_iff.1 h
    simp only [tokens, List.cons_append, List.append_assoc]
    exact ⟨rfl, nofun, rfl, nofun, rfl, nofun,
      readable_tokens_append v hf.1 (startsWithNumber_membersTokens rest ts)
        (readable_membersTokens_append rest hf.2 hts)⟩

/-- The commas keep the numbers of an array apart. -/
theorem readable_itemsTokens_append : ∀ (rest : List Json) (_ : itemsFloatFree rest = true)
    {ts : List Token} (_ : Token.Readable ts),
    Token.Readable (itemsTokens rest ++ .closeArray :: ts)
  | [], _, _, hts => ⟨rfl, nofun, hts⟩
  | v :: rest, h, ts, hts => by
    have hf : v.floatFree = true ∧ itemsFloatFree rest = true := Bool.and_eq_true_iff.1 h
    rw [itemsTokens, List.cons_append, List.append_assoc]
    exact ⟨rfl, nofun, readable_tokens_append v hf.1 (startsWithNumber_itemsTokens rest ts)
      (readable_itemsTokens_append rest hf.2 hts)⟩

theorem readable_membersTokens_append : ∀ (rest : List (String × Json))
    (_ : membersFloatFree rest = true) {ts : List Token} (_ : Token.Readable ts),
    Token.Readable (membersTokens rest ++ .closeObject :: ts)
  | [], _, _, hts => ⟨rfl, nofun, hts⟩
  | (key, v) :: rest, h, ts, hts => by
    have hf : v.floatFree = true ∧ membersFloatFree rest = true := Bool.and_eq_true_iff.1 h
    simp only [membersTokens, List.cons_append, List.append_assoc]
    exact ⟨rfl, nofun, rfl, nofun, rfl, nofun,
      readable_tokens_append v hf.1 (startsWithNumber_membersTokens rest ts)
        (readable_membersTokens_append rest hf.2 hts)⟩

end

/-- In a value without floats the tokens can be told apart when they are written without
blanks. -/
theorem readable_tokens {v : Json} (h : v.floatFree = true) : Token.Readable v.tokens := by
  have hnil : Token.Readable (v.tokens ++ []) := readable_tokens_append v h rfl trivial
  rwa [List.append_nil] at hnil

/-- A text of the tokens of a value is parsed as the value, if that is not too
deep. -/
theorem parse?_of_scan {text : String} {v : Json} (h : Token.scan text.toList = some v.tokens) :
    parse? text = if v.depth ≤ maxDepth then some v else none := by
  rw [parse?, h, Option.bind_some, ofTokens?_tokens]

/-- A value without floats is scanned from its text as its tokens. -/
theorem scan_write {v : Json} (h : v.floatFree = true) :
    Token.scan v.write.toList = some v.tokens := by
  rw [write, renderTokens, String.toList_ofList]
  exact Token.scan_flatMap_render (readable_tokens h)

/-- A value without floats reads back from its text if it nests no deeper than
the reader goes, and comes back with each object as the map of its members. -/
theorem read?_write {v : Json} (h : v.floatFree = true) :
    read? v.write = if v.depth ≤ maxDepth then some v.normalize else none := by
  rw [read?, parse?_of_scan (scan_write h)]
  split <;> rfl

/-- What is read from a text is well-formed: keys do not repeat. -/
theorem wellFormed_of_read? {text : String} {v : Json} (h : read? text = some v) :
    v.WellFormed := by
  obtain ⟨written, -, rfl⟩ := Option.map_eq_some_iff.1 h
  exact wellFormed_normalize written

end SearchRules.Json
