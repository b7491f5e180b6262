import SearchRules.Json.RoundTrip

/-!
# What the reader accepts

The machine that reads tokens takes the tokens of one value and nothing else: no
comma may be missing or be left over, and nothing may follow. Each of its states
tells what tokens led to it (`Progress.Spelled`).

Texts are more than that. Blanks may stand anywhere between tokens, and one
string or number can be written in several ways. All of that ends with the
tokens, so a text spells a value if its tokens are those of the value
(`Json.Spells`), and such a value still has its members one by one.

> `Progress.Spelled.step`, `Progress.Spelled.run`: one more token, and a run of
> them, by induction.
>
> `ofTokens?_eq_some_iff`, `parse?_eq_some_iff`: what is parsed is what is spelled.
>
> `read?_eq_some_iff`: what is read is that with each object as the map of its
> members.
-/

namespace SearchRules.Json

/-! ## Tokens of arrays and objects that go on -/

/-- The tokens of items that are followed by another one. -/
def openItems (items : List Json) : List Token := items.flatMap fun v => v.tokens ++ [.comma]

/-- The tokens of members that are followed by another one. -/
def openMembers (members : List (String × Json)) : List Token :=
  members.flatMap fun m => .string m.1 :: .colon :: (m.2.tokens ++ [.comma])

/-- One more item that is complete, with the comma behind it. -/
theorem openItems_append_singleton (items : List Json) (v : Json) :
    openItems (items ++ [v]) = openItems items ++ (v.tokens ++ [.comma]) := by
  simp [openItems]

theorem openMembers_append_singleton (members : List (String × Json)) (key : String) (v : Json) :
    openMembers (members ++ [(key, v)]) =
      openMembers members ++ .string key :: .colon :: (v.tokens ++ [.comma]) := by
  simp [openMembers]

/-- A comma may be counted to the item before it or to the one after it. -/
theorem openItems_cons_append_tokens (w : Json) (rest : List Json) (v : Json) :
    openItems (w :: rest) ++ v.tokens = w.tokens ++ itemsTokens (rest ++ [v]) := by
  induction rest generalizing w with
  | nil => simp [openItems, itemsTokens]
  | cons w' rest ih =>
    have hcons : openItems (w :: w' :: rest) = w.tokens ++ .comma :: openItems (w' :: rest) := by
      simp [openItems]
    rw [hcons, List.append_assoc, List.cons_append, ih, List.cons_append, itemsTokens]

/-- The open members and the last one are the members of an object. -/
theorem openMembers_cons_append_tokens (m : String × Json) (rest : List (String × Json))
    (key : String) (v : Json) :
    openMembers (m :: rest) ++ .string key :: .colon :: v.tokens =
      .string m.1 :: .colon :: (m.2.tokens ++ membersTokens (rest ++ [(key, v)])) := by
  induction rest generalizing m with
  | nil => simp [openMembers, membersTokens]
  | cons m' rest ih =>
    have hcons : openMembers (m :: m' :: rest) =
        .string m.1 :: .colon :: (m.2.tokens ++ .comma :: openMembers (m' :: rest)) := by
      simp [openMembers]
    rw [hcons, List.cons_append, List.cons_append, List.append_assoc, List.cons_append, ih,
      List.cons_append, membersTokens]

/-- An array from its open items and the last one. -/
theorem tokens_array_append (items : List Json) (v : Json) :
    (array (items ++ [v])).tokens =
      .openArray :: (openItems items ++ (v.tokens ++ [.closeArray])) := by
  cases items with
  | nil => rfl
  | cons w rest =>
    rw [List.cons_append, tokens, ← List.append_assoc, ← openItems_cons_append_tokens,
      List.append_assoc]

theorem tokens_object_append (members : List (String × Json)) (key : String) (v : Json) :
    (object (members ++ [(key, v)])).tokens =
      .openObject :: (openMembers members ++
        .string key :: .colon :: (v.tokens ++ [.closeObject])) := by
  cases members with
  | nil => rfl
  | cons m rest =>
    have h := openMembers_cons_append_tokens m rest key v
    rw [List.cons_append, tokens, ← List.append_assoc, ← List.cons_append, ← List.cons_append,
      ← h, List.append_assoc, List.cons_append, List.cons_append]

/-! ## The tokens that led to a state -/

/-- Tokens that open the arrays and objects of a context. -/
inductive Opened : Context → List Token → Prop
  /-- Nothing is open. -/
  | nil : Opened [] []
  /-- An array, after the items that it has so far. -/
  | items {context : Context} {ts : List Token} (h : Opened context ts) (items : List Json) :
    Opened (.items items :: context) (ts ++ .openArray :: openItems items)
  /-- An object, after the members that it has so far and the next key. -/
  | members {context : Context} {ts : List Token} (h : Opened context ts)
    (members : List (String × Json)) (key : String) :
    Opened (.members members key :: context)
      (ts ++ .openObject :: (openMembers members ++ [.string key, .colon]))

/-- Tokens that lead to a state. -/
inductive Progress.Spelled : List Token → Progress → Prop
  /-- What is open, and a value is next. -/
  | value {context : Context} {ts : List Token} (h : Opened context ts) :
    Spelled ts (.value context)
  /-- An array has been opened. -/
  | firstItem {context : Context} {ts : List Token} (h : Opened context ts) :
    Spelled (ts ++ [.openArray]) (.firstItem context)
  /-- An object has been opened. -/
  | firstKey {context : Context} {ts : List Token} (h : Opened context ts) :
    Spelled (ts ++ [.openObject]) (.firstKey context)
  /-- An object has been opened and has members, each with its comma. -/
  | key {context : Context} {ts : List Token} (h : Opened context ts)
    (members : List (String × Json)) :
    Spelled (ts ++ .openObject :: openMembers members) (.key context members)
  /-- After that stands a key. -/
  | colon {context : Context} {ts : List Token} (h : Opened context ts)
    (members : List (String × Json)) (key : String) :
    Spelled (ts ++ .openObject :: (openMembers members ++ [.string key]))
      (.colon context members key)
  /-- A value stands inside of what is open. -/
  | complete {context : Context} {ts : List Token} (h : Opened context ts) (v : Json) :
    Spelled (ts ++ v.tokens) (.complete context v)

namespace Progress.Spelled

variable {ts : List Token} {t : Token} {p q : Progress}

/-- The first token of a value, inside of what is open. -/
theorem begin {context : Context} (h : Opened context ts) (hbegin : begin? context t = some q) :
    Spelled (ts ++ [t]) q := by
  unfold begin? at hbegin
  split at hbegin
  · exact Option.some.inj hbegin ▸ .complete h .null
  · next b => exact Option.some.inj hbegin ▸ .complete h (.bool b)
  · next n => exact Option.some.inj hbegin ▸ .complete h (.number n)
  · next s => exact Option.some.inj hbegin ▸ .complete h (.string s)
  · split at hbegin
    · exact Option.some.inj hbegin ▸ .firstItem h
    · exact absurd hbegin nofun
  · split at hbegin
    · exact Option.some.inj hbegin ▸ .firstKey h
    · exact absurd hbegin nofun
  · exact absurd hbegin nofun

/-- A token that is taken in comes after those that led to the state. -/
theorem step (hp : Spelled ts p) (hstep : p.step? t = some q) : Spelled (ts ++ [t]) q := by
  unfold step? at hstep
  -- one case for each transition of the machine, in its order
  split at hstep
  · -- a value begins
    cases hp with
    | value h => exact begin h hstep
  · -- an array ends without items
    cases hp with
    | firstItem h =>
      rw [← Option.some.inj hstep, List.append_assoc]
      exact .complete h (.array [])
  · -- the first item of an array begins
    cases hp with
    | firstItem h => exact begin (.items h []) hstep
  · -- an object ends without members
    cases hp with
    | firstKey h =>
      rw [← Option.some.inj hstep, List.append_assoc]
      exact .complete h (.object [])
  · -- the first key of an object
    next k =>
    cases hp with
    | firstKey h =>
      rw [← Option.some.inj hstep, List.append_assoc]
      exact .colon h [] k
  · -- a later key
    next members k =>
    cases hp with
    | key h =>
      rw [← Option.some.inj hstep, List.append_assoc, List.cons_append]
      exact .colon h members k
  · -- the colon after a key
    next members k =>
    cases hp with
    | colon h =>
      rw [← Option.some.inj hstep, List.append_assoc, List.cons_append, List.append_assoc]
      exact .value (.members h members k)
  · -- the comma after an item
    next items _ v =>
    cases hp with
    | complete h =>
      cases h with
      | items h =>
        rw [← Option.some.inj hstep, List.append_assoc, List.append_assoc, List.cons_append,
          ← openItems_append_singleton]
        exact .value (.items h (items ++ [v]))
  · -- an array ends after an item
    next items _ v =>
    cases hp with
    | complete h =>
      cases h with
      | items h =>
        rw [← Option.some.inj hstep, List.append_assoc, List.append_assoc, List.cons_append,
          ← tokens_array_append]
        exact .complete h (.array (items ++ [v]))
  · -- the comma after a member
    next members k _ v =>
    cases hp with
    | complete h =>
      cases h with
      | members h =>
        have htokens : openMembers members ++ [.string k, .colon] ++ (v.tokens ++ [.comma]) =
            openMembers (members ++ [(k, v)]) := by
          simp [openMembers_append_singleton]
        rw [← Option.some.inj hstep, List.append_assoc, List.append_assoc, List.cons_append,
          htokens]
        exact .key h (members ++ [(k, v)])
  · -- an object ends after a member
    next members k _ v =>
    cases hp with
    | complete h =>
      cases h with
      | members h =>
        have htokens :
            .openObject :: (openMembers members ++ [.string k, .colon] ++
              (v.tokens ++ [.closeObject])) = (object (members ++ [(k, v)])).tokens := by
          simp [tokens_object_append]
        rw [← Option.some.inj hstep, List.append_assoc, List.append_assoc, List.cons_append,
          htokens]
        exact .complete h (.object (members ++ [(k, v)]))
  · exact absurd hstep nofun

/-- A run adds its tokens to those that led to its start. -/
theorem run {more : List Token} (hp : Spelled ts p) (hrun : p.run? more = some q) :
    Spelled (ts ++ more) q := by
  -- on the tokens: a step from what was spelled spells one token more
  induction more generalizing p ts with
  | nil =>
    rw [List.append_nil]
    exact Option.some.inj hrun ▸ hp
  | cons t rest ih =>
    obtain ⟨p', hstep, hrest⟩ := Option.bind_eq_some_iff.1 hrun
    have h := ih (hp.step hstep) hrest
    rwa [List.append_assoc, List.singleton_append] at h

end Progress.Spelled

/-! ## What is accepted -/

/-- Whatever is accepted is the tokens of the value that is made of it. -/
theorem eq_tokens_of_ofTokens? {ts : List Token} {v : Json} (h : ofTokens? ts = some v) :
    ts = v.tokens := by
  obtain ⟨p, hrun, hresult⟩ := Option.bind_eq_some_iff.1 h
  have hp : Progress.Spelled ([] ++ ts) p := Progress.Spelled.run (.value .nil) hrun
  unfold Progress.result? at hresult
  split at hresult
  · -- a value is complete and nothing is open, so there is nothing before its tokens
    rw [List.nil_append] at hp
    cases hp with
    | complete hopened =>
      cases hopened with
      | nil =>
        obtain rfl := Option.some.inj hresult
        rfl
  · exact absurd hresult nofun

/-- The tokens that are accepted are those of the values that are not too deep. -/
theorem ofTokens?_eq_some_iff {ts : List Token} {v : Json} :
    ofTokens? ts = some v ↔ ts = v.tokens ∧ v.depth ≤ maxDepth := by
  constructor
  · intro h
    obtain rfl := eq_tokens_of_ofTokens? h
    rw [ofTokens?_tokens] at h
    split at h
    · next hdepth => exact ⟨rfl, hdepth⟩
    · exact absurd h nofun
  · rintro ⟨rfl, hdepth⟩
    rw [ofTokens?_tokens, if_pos hdepth]

/-- The text is made of the tokens of the value. -/
def Spells (text : String) (v : Json) : Prop := Token.scan text.toList = some v.tokens

instance (text : String) (v : Json) : Decidable (Spells text v) :=
  inferInstanceAs (Decidable (_ = _))

/-- A text is parsed as the value that it spells, if that is not too deep. -/
theorem parse?_eq_some_iff {text : String} {v : Json} :
    parse? text = some v ↔ Spells text v ∧ v.depth ≤ maxDepth := by
  rw [parse?, Option.bind_eq_some_iff]
  constructor
  · rintro ⟨ts, hscan, hread⟩
    obtain ⟨rfl, hdepth⟩ := ofTokens?_eq_some_iff.1 hread
    exact ⟨hscan, hdepth⟩
  · rintro ⟨hspells, hdepth⟩
    exact ⟨v.tokens, hspells, ofTokens?_eq_some_iff.2 ⟨rfl, hdepth⟩⟩

/-- A text is read if and only if it spells a value that is not too deep, and
then as that value with each object as the map of its members. -/
theorem read?_eq_some_iff {text : String} {w : Json} :
    read? text = some w ↔ ∃ v : Json, Spells text v ∧ v.depth ≤ maxDepth ∧ w = v.normalize := by
  rw [read?, Option.map_eq_some_iff]
  constructor
  · rintro ⟨v, hparse, rfl⟩
    obtain ⟨hspells, hdepth⟩ := parse?_eq_some_iff.1 hparse
    exact ⟨v, hspells, hdepth, rfl⟩
  · rintro ⟨v, hspells, hdepth, rfl⟩
    exact ⟨v, parse?_eq_some_iff.2 ⟨hspells, hdepth⟩, rfl⟩

/-- A text with blanks and a repeated key spells an object with both members. -/
example : Spells "\x7b \"a\": true, \"a\": [] \x7d"
    (.object [("a", .bool true), ("a", .array [])]) := by
  decide +kernel

end SearchRules.Json
