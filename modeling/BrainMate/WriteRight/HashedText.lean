import BrainMate.Text.Integer
import BrainMate.Text.Segments
import BrainMate.WriteRight.CacheKey

namespace BrainMate.WriteRight
open Text

variable {platform : TextPlatform} {input input' : MessageInput}

/-- The string that `computeInputHash` hashes. -/
def hashedText (input : MessageInput) : List UInt16 := input.text ++ units (keySuffix input)

theorem routeCacheKey_hashedText (sha256 : List UInt8 → String) (input : MessageInput) :
    routeCacheKey sha256 input = sha256 (jsEncode (hashedText input)) := rfl

/-- What `MessageSchema` checks of the fields that are joined behind the text. -/
structure Vocabulary (input : MessageInput) : Prop where
  tone : input.tone ∈ tones
  mode : input.mode ∈ modes
  outputLanguage : input.outputLanguage ∈ outputLanguages
  intensity : 1 ≤ input.intensity ∧ input.intensity ≤ 5

private theorem vocabulary_of_schema {body : MessageBody}
    (admitted : messageSchema platform body = some input) : Vocabulary input := by
  unfold messageSchema at admitted
  dsimp only at admitted
  split at admitted
  · rename_i valid
    obtain rfl := Option.some.inj admitted
    obtain ⟨_, _, _, tone, mode, language, low, high⟩ := valid
    exact ⟨tone, mode, language, low, high⟩
  · cases admitted

theorem units_injective : Function.Injective units := by
  intro first second same
  have read := congrArg points same
  rw [points_units, points_units] at read
  exact String.toList_injective (List.map_injective_iff.mpr (fun _ _ => Char.toNat_inj.mp) read)

private theorem intensity_injective {value value' : Int} (range : 1 ≤ value ∧ value ≤ 5)
    (range' : 1 ≤ value' ∧ value' ≤ 5) (same : toString value = toString value') :
    value = value' := by
  have read := congrArg Integer.readStrict same
  have fits : Integer.fitsI64 value = true := by
    simp only [Integer.fitsI64, Bool.and_eq_true, decide_eq_true_eq]
    omega
  have fits' : Integer.fitsI64 value' = true := by
    simp only [Integer.fitsI64, Bool.and_eq_true, decide_eq_true_eq]
    omega
  rw [Integer.readStrict_toString fits, Integer.readStrict_toString fits'] at read
  exact Option.some.inj read

/-- No colon stands in what is joined behind the text. -/
theorem colon_not_mem (words : Vocabulary input) :
    0x3a ∉ units input.tone ∧ 0x3a ∉ units input.mode ∧ 0x3a ∉ units input.outputLanguage ∧
      0x3a ∉ units (toString input.intensity) := by
  have free : ∀ word ∈ tones ++ modes ++ outputLanguages ++ ["1", "2", "3", "4", "5"],
      0x3a ∉ units word := by decide
  refine ⟨free _ ?_, free _ ?_, free _ ?_, free _ ?_⟩
  · simp [words.tone]
  · simp [words.mode]
  · simp [words.outputLanguage]
  · have digit : toString input.intensity ∈ ["1", "2", "3", "4", "5"] := by
      obtain ⟨low, high⟩ := words.intensity
      generalize input.intensity = value at low high
      obtain rfl | rfl | rfl | rfl | rfl : value = 1 ∨ value = 2 ∨ value = 3 ∨ value = 4 ∨ value = 5 := by
        omega
      all_goals decide
    exact List.mem_append_right _ digit

private theorem units_append (first second : String) :
    units (first ++ second) = units first ++ units second := by
  simp [units]

/-- The colons that were set are the last four of the hashed string. -/
theorem hashedText_eq (input : MessageInput) :
    hashedText input = (((input.text ++ 0x3a :: units input.tone) ++ 0x3a :: units input.mode) ++
      0x3a :: units input.outputLanguage) ++ 0x3a :: units (toString input.intensity) := by
  have colon : units ":" = [0x3a] := by decide
  simp only [hashedText, keySuffix, units_append, colon, List.append_assoc, List.cons_append,
    List.nil_append]

/-- Read from the right, the hashed string gives back each field it was joined from. -/
theorem hashedText_injective (words : Vocabulary input) (words' : Vocabulary input')
    (same : hashedText input = hashedText input') :
    input.text = input'.text ∧ input.tone = input'.tone ∧ input.mode = input'.mode ∧
      input.outputLanguage = input'.outputLanguage ∧ input.intensity = input'.intensity := by
  obtain ⟨tone, mode, language, intensity⟩ := colon_not_mem words
  obtain ⟨tone', mode', language', intensity'⟩ := colon_not_mem words'
  rw [hashedText_eq, hashedText_eq] at same
  obtain ⟨same, last⟩ := cut_last intensity intensity' same
  obtain ⟨same, fourth⟩ := cut_last language language' same
  obtain ⟨same, third⟩ := cut_last mode mode' same
  obtain ⟨text, second⟩ := cut_last tone tone' same
  exact ⟨text, units_injective second, units_injective third, units_injective fourth,
    intensity_injective words.intensity words'.intensity (units_injective last)⟩

/-- Admitted inputs whose hashed strings are equal have the same fields. -/
theorem fields_of_hashedText {body body' : MessageBody}
    (admitted : messageSchema platform body = some input)
    (admitted' : messageSchema platform body' = some input')
    (same : hashedText input = hashedText input') :
    input.text = input'.text ∧ input.tone = input'.tone ∧ input.mode = input'.mode ∧
      input.outputLanguage = input'.outputLanguage ∧ input.intensity = input'.intensity :=
  hashedText_injective (vocabulary_of_schema admitted) (vocabulary_of_schema admitted') same

/-- Two bodies that ask for the same text with and without `quick`. -/
def colonBody (quick : Option Bool) : MessageBody where
  chatId := "chat"
  text := units "to: you"
  tone := "Concise"
  mode := "email"
  outputLanguage := none
  intensity := some 4
  quick := quick

def colonInput (quick : Bool) : MessageInput where
  chatId := "chat"
  text := units "to: you"
  tone := "Concise"
  mode := "email"
  outputLanguage := "en"
  intensity := 4
  quick := quick

theorem colonInput_fields :
    (colonInput false).text = (colonInput true).text ∧
      (colonInput false).tone = (colonInput true).tone ∧
      (colonInput false).mode = (colonInput true).mode ∧
      (colonInput false).outputLanguage = (colonInput true).outputLanguage ∧
      (colonInput false).intensity = (colonInput true).intensity :=
  @fields_of_hashedText ⟨id, fun _ => true⟩ _ _ (colonBody none) (colonBody (some true)) rfl rfl rfl

end BrainMate.WriteRight
