import Mathlib.Data.List.Infix
import Telemetry.Settings.Environment

/-!
Contract: the settings that environment variables are about.

Owns:
- `Environment.Names`: a variable is named after an address, in letters of either
  case and with pairs of underscores between the keys;
- the path of the setting that such a variable sets.

Keys that no name can spell have no variable: those with other characters than a
path may have, and those with a pair of underscores in them.
-/

namespace Telemetry

namespace Environment

open SettingPath

/-- A key that the name of a variable can spell. -/
structure IsWord (text : String) : Prop where
  filled : text.toList ≠ []
  readable : text.toList.all isKeyCharacter = true
  lower : Text.lowercase text = text
  unpaired : ¬['_', '_'] <:+: text.toList

instance (text : String) : Decidable (IsWord text) :=
  decidable_of_iff
    (text.toList ≠ [] ∧ text.toList.all isKeyCharacter = true ∧
      Text.lowercase text = text ∧ ¬['_', '_'] <:+: text.toList)
    ⟨fun ⟨filled, readable, lower, unpaired⟩ => ⟨filled, readable, lower, unpaired⟩,
      fun word => ⟨word.filled, word.readable, word.lower, word.unpaired⟩⟩

/-- The name of the variable for an address, in lower case. -/
def variableName (address : List String) : String :=
  "eventline__" ++ "__".intercalate address

/-- The variable is the one for the address. -/
def Names (name : String) (address : List String) : Prop :=
  (∀ word ∈ address, IsWord word) ∧ Text.lowercase name = variableName address

instance (name : String) (address : List String) : Decidable (Names name address) :=
  inferInstanceAs (Decidable (_ ∧ _))

/-! ### Points for pairs of underscores -/

theorem pointed_cons {character : Char} (different : character ≠ '_') (text : List Char) :
    pointed (character :: text) = character :: pointed text := by
  rw [pointed]
  intro rest same
  exact absurd same different

theorem pointed_append (front text : List Char) (bare : '_' ∉ front) :
    pointed (front ++ '_' :: '_' :: text) = front ++ '.' :: pointed text := by
  induction front with
  | nil => rfl
  | cons character front inductionHypothesis =>
      rw [List.mem_cons, not_or] at bare
      rw [List.cons_append, pointed_cons (Ne.symm bare.1), inductionHypothesis bare.2,
        List.cons_append]

theorem pointed_of_unpaired (text : List Char) (unpaired : ¬['_', '_'] <:+: text) :
    pointed text = text := by
  induction text using pointed.induct with
  | case1 rest => exact absurd ⟨[], rest, rfl⟩ unpaired
  | case2 character rest other inductionHypothesis =>
      rw [pointed]
      · rw [inductionHypothesis fun pair => unpaired (pair.trans (List.suffix_cons _ _).isInfix)]
      · exact other
  | case3 => rfl

/-- Keys with points before them. -/
def dotted (keys : List String) : List Char :=
  keys.flatMap fun key => '.' :: key.toList

theorem dotted_cons (key : String) (keys : List String) :
    dotted (key :: keys) = '.' :: (key.toList ++ dotted keys) := rfl

theorem pointed_intercalate (head : String) (keys : List String)
    (words : ∀ word ∈ head :: keys, IsWord word)
    (bare : ∀ word ∈ (head :: keys).dropLast, '_' ∉ word.toList) :
    pointed ("__".intercalate (head :: keys)).toList = head.toList ++ dotted keys := by
  induction keys generalizing head with
  | nil =>
      have unpaired := (words head List.mem_cons_self).unpaired
      rw [String.intercalate_singleton, pointed_of_unpaired _ unpaired]
      exact (List.append_nil _).symm
  | cons key keys inductionHypothesis =>
      rw [List.dropLast_cons_cons, List.forall_mem_cons] at bare
      rw [List.forall_mem_cons] at words
      rw [String.intercalate_cons_cons, String.toList_append, String.toList_append,
        List.append_assoc, show "__".toList = ['_', '_'] from rfl, List.cons_append,
        List.singleton_append, pointed_append _ _ bare.1,
        inductionHypothesis key words.2 bare.2, dotted_cons]

/-! ### The path of a dotted key -/

theorem readKey?_word {word : String} (isWord : IsWord word) (keys : List String) :
    readKey? (word.toList ++ dotted keys) = some (word, dotted keys) := by
  have stops : (dotted keys).takeWhile isKeyCharacter = [] ∧
      (dotted keys).dropWhile isKeyCharacter = dotted keys := by
    cases keys with
    | nil => exact ⟨rfl, rfl⟩
    | cons key keys => exact ⟨rfl, rfl⟩
  have readable := List.all_eq_true.mp isWord.readable
  rw [readKey?, List.takeWhile_append_of_pos readable, stops.1, List.append_nil,
    List.dropWhile_append_of_pos readable, stops.2]
  split
  · exact absurd ‹_› isWord.filled
  · rw [String.ofList_toList]

theorem readSteps?_dotted (keys : List String) (words : ∀ word ∈ keys, IsWord word) (limit : Nat)
    (enough : keys.length ≤ limit) :
    readSteps? limit (dotted keys) = some (keys.map .child) := by
  induction keys generalizing limit with
  | nil =>
      cases limit with
      | zero => rfl
      | succ limit => rfl
  | cons key keys inductionHypothesis =>
      rw [List.forall_mem_cons] at words
      cases limit with
      | zero => cases enough
      | succ limit =>
          have rest := inductionHypothesis words.2 limit (Nat.le_of_succ_le_succ enough)
          have first := readKey?_word words.1 keys
          rw [dotted_cons, readSteps?, first]
          simp only [Option.bind_eq_bind, Option.bind_some, rest, List.map_cons]

theorem length_le_dotted (keys : List String) : keys.length ≤ (dotted keys).length := by
  induction keys with
  | nil => exact Nat.le_refl _
  | cons key keys inductionHypothesis =>
      rw [dotted_cons, List.length_cons, List.length_cons, List.length_append]
      omega

theorem ofKey_dotted (head : String) (keys : List String)
    (words : ∀ word ∈ head :: keys, IsWord word) :
    ofKey (String.ofList (head.toList ++ dotted keys)) = ⟨head, keys.map .child⟩ := by
  rw [List.forall_mem_cons] at words
  have first := readKey?_word words.1 keys
  have steps := readSteps?_dotted keys words.2 _ (length_le_dotted keys)
  rw [ofKey, parse?, String.toList_ofList, first]
  simp only [Option.bind_eq_bind, Option.bind_some, steps, Option.getD_some]

/-- A variable that is named after an address sets what is there. -/
theorem Names.path {name head : String} {keys : List String} (names : Names name (head :: keys))
    (bare : ∀ word ∈ (head :: keys).dropLast, '_' ∉ word.toList) :
    ∃ key, settingKey? name = some key ∧ ofKey key = ⟨head, keys.map .child⟩ := by
  have characters : (Text.lowercase name).toList =
      variableStart ++ ("__".intercalate (head :: keys)).toList := by
    rw [names.2, variableName, String.toList_append]
    rfl
  refine ⟨_, ?_, ofKey_dotted head keys names.1⟩
  rw [settingKey?, characters, if_pos (List.isPrefixOf_iff_prefix.mpr (List.prefix_append _ _)),
    List.drop_left, pointed_intercalate head keys names.1 bare]

/-! ### Values -/

/-- What the variables give for an address. Of two for the same one the later counts. -/
def value? (environment : Environment) (address : List String) : Option SettingValue :=
  environment.reverse.findSome? fun entry =>
    if Names entry.1 address then some (settingValue entry.2) else none

end Environment

end Telemetry
