import Btcr2Aggregation.Library.JsonEncoding
import Btcr2Aggregation.Service.SettingsRuns

/-!
# The byte budget of a settings save

The route bounds the transmitted body, the holder the characters of two of its
fields.  The budget is derived from both character caps at six bytes a code
unit, with a fixed allowance for everything else, so that no body is refused
for its size whose texts the holder would store as they are.
-/

namespace Btcr2Aggregation

open Utf16 JsonEncoding

section Budget

/-! ## The budget -/

def worstCaseTermsBytesPerCodeUnit : Nat := 6

def settingsBodyFixedFieldBytes : Nat := 1024

def settingsBodyLimitBytes (maxServiceNameChars maxTermsChars : Nat) : Nat :=
  (maxServiceNameChars + maxTermsChars) * worstCaseTermsBytesPerCodeUnit +
    settingsBodyFixedFieldBytes

/-- The budget of the route. -/
def settingsBodyLimit : Nat :=
  settingsBodyLimitBytes maxServiceNameChars maxTermsChars

/-- The body limit of the web framework: it answers 413 only to a body past its
maximum. -/
structure BodyLimit where
  refuses : Nat → Bytes → Bool
  past : ∀ maxSize body, refuses maxSize body = true → maxSize < body.length

end Budget

section Body

/-! ## The body -/

/-- A settings patch on the wire: `none` is an absent key, and a number may be
an explicit `null`. -/
structure SettingsBody where
  serviceName : Option CodeUnits
  defaultBeaconType : Option BeaconType
  defaultSize : Option (Option Binary64)
  defaultThreshold : Option (Option Binary64)
  defaultDiscoveryWindowMs : Option (Option Binary64)
  defaultFundingWindowMs : Option (Option Binary64)
  termsText : Option CodeUnits

/-- A field that is absent leaves no member. -/
def bodyField {Value : Type} (key : String) (scalar : Value → Scalar)
    (value : Option Value) : List (String × Scalar) :=
  value.toList.map fun given => (key, scalar given)

def numberOrNull : Option Binary64 → Scalar
  | some number => .number number
  | none => .null

namespace SettingsBody

/-- The members of the body. -/
def entries (body : SettingsBody) : List (String × Scalar) :=
  bodyField "serviceName" .text body.serviceName ++
    bodyField "defaultBeaconType"
      (fun beaconType => .text (ofChars beaconType.name.toList))
      body.defaultBeaconType ++
    bodyField "defaultSize" numberOrNull body.defaultSize ++
    bodyField "defaultThreshold" numberOrNull body.defaultThreshold ++
    bodyField "defaultDiscoveryWindowMs" numberOrNull
      body.defaultDiscoveryWindowMs ++
    bodyField "defaultFundingWindowMs" numberOrNull
      body.defaultFundingWindowMs ++
    bodyField "termsText" .text body.termsText

end SettingsBody

/-- A field takes at most what its longest value takes. -/
theorem sum_bodyField_le {Value : Type} {scalar : Value → Scalar}
    {value : Option Value} {most : Nat} (key : String)
    (bounded : ∀ given, value = some given → (scalar given).bytes ≤ most) :
    ((bodyField key scalar value).map memberBytes).sum ≤
      6 * (ofChars key.toList).length + 4 + most := by
  cases value with
  | none => exact Nat.zero_le _
  | some given =>
      have within := bounded given rfl
      simp only [bodyField, Option.toList_some, List.map_cons, List.map_nil,
        List.sum_cons, List.sum_nil, memberBytes]
      omega

theorem bytes_numberOrNull_le (number : Option Binary64) :
    (numberOrNull number).bytes ≤ 25 := by
  cases number with
  | none => exact (by decide : 4 ≤ 25)
  | some number => exact Nat.le_refl 25

theorem bytes_name_le (beaconType : BeaconType) :
    (Scalar.text (ofChars beaconType.name.toList)).bytes ≤ 56 := by
  cases beaconType <;> decide

theorem bytes_text_le {text : CodeUnits} {maximum : Nat}
    (short : text.length ≤ maximum) :
    (Scalar.text text).bytes ≤ 6 * maximum + 2 := by
  rw [Scalar.bytes]
  omega

/-- The seven fields at their longest. -/
theorem sum_entries_le
    {body : SettingsBody} {maxNameChars maxTextChars : Nat}
    (name :
      ∀ text, body.serviceName = some text → text.length ≤ maxNameChars)
    (terms : ∀ text, body.termsText = some text → text.length ≤ maxTextChars) :
    (body.entries.map memberBytes).sum ≤
      848 + 6 * maxNameChars + 6 * maxTextChars := by
  have number (key : String) (value : Option (Option Binary64)) :
      ((bodyField key numberOrNull value).map memberBytes).sum ≤
        6 * (ofChars key.toList).length + 4 + 25 :=
    sum_bodyField_le key fun given _ => bytes_numberOrNull_le given
  have serviceName :
      ((bodyField "serviceName" .text body.serviceName).map memberBytes).sum ≤
        70 + (6 * maxNameChars + 2) :=
    sum_bodyField_le "serviceName" fun text given =>
      bytes_text_le (name text given)
  have beaconType :
      ((bodyField "defaultBeaconType"
            (fun beaconType => .text (ofChars beaconType.name.toList))
            body.defaultBeaconType).map memberBytes).sum ≤ 106 + 56 :=
    sum_bodyField_le "defaultBeaconType" fun beaconType _ =>
      bytes_name_le beaconType
  have size :
      ((bodyField "defaultSize" numberOrNull body.defaultSize).map
        memberBytes).sum ≤ 70 + 25 :=
    number "defaultSize" body.defaultSize
  have threshold :
      ((bodyField "defaultThreshold" numberOrNull body.defaultThreshold).map
        memberBytes).sum ≤ 100 + 25 :=
    number "defaultThreshold" body.defaultThreshold
  have discovery :
      ((bodyField "defaultDiscoveryWindowMs" numberOrNull
          body.defaultDiscoveryWindowMs).map memberBytes).sum ≤ 148 + 25 :=
    number "defaultDiscoveryWindowMs" body.defaultDiscoveryWindowMs
  have funding :
      ((bodyField "defaultFundingWindowMs" numberOrNull
          body.defaultFundingWindowMs).map memberBytes).sum ≤ 136 + 25 :=
    number "defaultFundingWindowMs" body.defaultFundingWindowMs
  have termsText :
      ((bodyField "termsText" .text body.termsText).map memberBytes).sum ≤
        58 + (6 * maxTextChars + 2) :=
    sum_bodyField_le "termsText" fun text given =>
      bytes_text_le (terms text given)
  simp only [SettingsBody.entries, List.map_append, List.sum_append]
  omega

/-- A body whose texts are within both caps is within the budget, whatever the
order of its keys. -/
theorem length_body_le
    (printer : Binary64.Printer) {body : SettingsBody}
    {maxNameChars maxTextChars : Nat}
    (name :
      ∀ text, body.serviceName = some text → text.length ≤ maxNameChars)
    (terms : ∀ text, body.termsText = some text → text.length ≤ maxTextChars)
    {entries : List (String × Scalar)} (order : entries.Perm body.entries) :
    (encode (stringify printer entries)).length ≤
      settingsBodyLimitBytes maxNameChars maxTextChars := by
  have encoded := length_encode_stringify_le printer entries
  have fields := sum_entries_le name terms
  have reordered :
      (entries.map memberBytes).sum = (body.entries.map memberBytes).sum :=
    (order.map memberBytes).sum_eq
  simp only [settingsBodyLimitBytes, worstCaseTermsBytesPerCodeUnit,
    settingsBodyFixedFieldBytes]
  omega

/-- What is within its maximum is not refused. -/
theorem BodyLimit.accepts (limit : BodyLimit) {maxSize : Nat} {body : Bytes}
    (within : body.length ≤ maxSize) : limit.refuses maxSize body = false := by
  cases refused : limit.refuses maxSize body with
  | false => rfl
  | true =>
      have past := limit.past maxSize body refused
      omega

/-- The multiplier is met by every text of control characters, so that no
smaller one would do. -/
theorem length_encode_quote_controls (count : Nat) :
    (encode (quote (List.replicate count 0x01))).length =
      worstCaseTermsBytesPerCodeUnit * count + 2 := by
  have escaped :
      quoteUnits (List.replicate count 0x01) =
        (List.replicate count (unicodeEscape 0x01)).flatten := by
    induction count with
    | zero => rfl
    | succ count inductionHypothesis =>
        rw [List.replicate_succ (a := unicodeEscape 0x01), List.flatten_cons,
          ← inductionHypothesis]
        cases count with
        | zero => decide
        | succ count => rfl
  have ascii :
      ∀ unit ∈ quote (List.replicate count 0x01), unit.toNat < 0x80 := by
    have mark : ∀ unit ∈ ofChars ['"'], unit.toNat < 0x80 := by
      intro unit member
      rw [List.mem_singleton.mp member]
      decide
    have letters : ∀ unit ∈ unicodeEscape 0x01, unit.toNat < 0x80 := by
      intro unit member
      have units :
          unicodeEscape 0x01 = [0x5C, 0x75, 0x30, 0x30, 0x30, 0x31] := by
        decide
      rw [units] at member
      simp only [List.mem_cons, List.not_mem_nil, or_false] at member
      rcases member with rfl | rfl | rfl | rfl | rfl | rfl <;> decide
    rw [quote, escaped, List.forall_mem_append, List.forall_mem_append]
    refine ⟨⟨mark, ?_⟩, mark⟩
    intro unit member
    obtain ⟨escape, repeated, inside⟩ := List.mem_flatten.mp member
    rw [List.eq_of_mem_replicate repeated] at inside
    exact letters unit inside
  have six : (unicodeEscape 0x01).length = 6 := by decide
  have mark : (ofChars ['"']).length = 1 := by decide
  rw [length_encode_of_ascii ascii, quote, escaped, List.length_append,
    List.length_append, mark, List.length_flatten, List.map_replicate, six,
    List.sum_replicate, worstCaseTermsBytesPerCodeUnit, nsmul_eq_mul,
    Nat.cast_id]
  omega

/-- For every pair of caps: a patch whose texts have at most that many code
units, whatever they are, encodes within the budget and is not refused for its
size. -/
theorem settings_body_fits
    (printer : Binary64.Printer) (limit : BodyLimit)
    (maxNameChars maxTextChars : Nat) (body : SettingsBody)
    (name :
      ∀ text, body.serviceName = some text → text.length ≤ maxNameChars)
    (terms : ∀ text, body.termsText = some text → text.length ≤ maxTextChars)
    (entries : List (String × Scalar)) (order : entries.Perm body.entries) :
    (encode (stringify printer entries)).length ≤
        settingsBodyLimitBytes maxNameChars maxTextChars ∧
      limit.refuses (settingsBodyLimitBytes maxNameChars maxTextChars)
          (encode (stringify printer entries)) =
        false := by
  have within := length_body_le printer name terms order
  exact ⟨within, limit.accepts within⟩

/-- Two, as the format has it. -/
def binaryTwo : Binary64 where
  negative := false
  significand := 2 ^ 52
  exponent := -51
  significand_lt := by decide
  exponent_ge := by decide
  exponent_le := by decide
  normal := .inl (Nat.le_refl _)

/-- A control character, a surrogate alone, a pair and a quotation mark, with
both windows cleared. -/
def escapedBody : SettingsBody where
  serviceName := some [0x01, 0xD800]
  defaultBeaconType := some .smtBeacon
  defaultSize := some (some binaryTwo)
  defaultThreshold := some (some binaryTwo)
  defaultDiscoveryWindowMs := some none
  defaultFundingWindowMs := none
  termsText := some [0xD834, 0xDD1E, 0x22]

theorem settings_body_fits_escaped :
    ∃ (printer : Binary64.Printer) (limit : BodyLimit),
      (encode (stringify printer escapedBody.entries)).length ≤
          settingsBodyLimitBytes 2 3 ∧
        limit.refuses (settingsBodyLimitBytes 2 3)
            (encode (stringify printer escapedBody.entries)) =
          false := by
  obtain ⟨printer⟩ := Binary64.nonempty_printer
  let limit : BodyLimit :=
    { refuses := fun maxSize body => decide (maxSize < body.length)
      past := fun maxSize body refused => of_decide_eq_true refused }
  have name :
      ∀ text, escapedBody.serviceName = some text → text.length ≤ 2 := by
    intro text given
    cases given
    decide
  have terms :
      ∀ text, escapedBody.termsText = some text → text.length ≤ 3 := by
    intro text given
    cases given
    decide
  exact
    ⟨printer, limit,
      settings_body_fits printer limit 2 3 escapedBody name terms
        escapedBody.entries (List.Perm.refl _)⟩

end Body

section Holder

/-! ## What the holder stores -/

/-- A text has as many code units as its length says. -/
theorem length_ofChars (text : String) :
    (ofChars text.toList).length = JsString.length text := by
  rw [ofChars, List.length_flatMap, JsString.length]
  congr 1
  apply List.map_congr_left
  intro character _
  have same : character.val < 0x10000 ↔ character.toNat < 0x10000 :=
    UInt32.lt_iff_toNat_lt
  unfold JsString.codeUnits
  by_cases basic : character.toNat < 0x10000
  · rw [if_pos basic, if_pos (same.mpr basic)]
    rfl
  · rw [if_neg basic, if_neg fun below => basic (same.mp below)]
    rfl

/-- A trimmed text that a save accepts is within its cap. -/
theorem length_le_of_nextText
    {what : String} {maximum : Nat} {stored next : Option String} {text : String}
    (passed : nextText what maximum stored (some text) = .ok next)
    (trimmed : JsString.trim text = text) :
    (ofChars text.toList).length ≤ maximum := by
  rw [length_ofChars]
  rw [nextText_some] at passed
  by_cases short :
      ∀ kept, JsString.trimToUndefined text = some kept →
        JsString.length kept ≤ maximum
  · by_cases empty : text = ""
    · rw [empty]
      exact Nat.zero_le _
    · apply short text
      rw [JsString.trimToUndefined, trimmed, if_neg empty]
  · rw [if_neg short] at passed
    cases passed

/-- The route refuses no save for its size that the holder accepts, when its
texts come trimmed. -/
theorem accepted_body_fits
    (printer : Binary64.Printer) (limit : BodyLimit)
    {settings next : RuntimeSettings} {patch : SettingsPatch}
    (accepted : settings.applySettings patch = .ok next)
    (trimmedName :
      ∀ text, patch.serviceName = some text → JsString.trim text = text)
    (trimmedTerms :
      ∀ text, patch.termsText = some text → JsString.trim text = text)
    {body : SettingsBody}
    (sameName :
      body.serviceName = patch.serviceName.map fun text => ofChars text.toList)
    (sameTerms :
      body.termsText = patch.termsText.map fun text => ofChars text.toList)
    {entries : List (String × Scalar)} (order : entries.Perm body.entries) :
    limit.refuses settingsBodyLimit (encode (stringify printer entries)) =
      false := by
  obtain ⟨serviceName, -, -, -, -, -, termsText, name, -, -, -, -, -, terms, -⟩ :=
    RuntimeSettings.applySettings_eq_ok accepted
  apply limit.accepts
  apply length_body_le printer _ _ order
  · intro units given
    rw [sameName] at given
    obtain ⟨text, named, rfl⟩ := Option.map_eq_some_iff.mp given
    rw [RuntimeSettings.nextServiceName, named] at name
    exact length_le_of_nextText name (trimmedName text named)
  · intro units given
    rw [sameTerms] at given
    obtain ⟨text, named, rfl⟩ := Option.map_eq_some_iff.mp given
    rw [RuntimeSettings.nextTermsText, named] at terms
    exact length_le_of_nextText terms (trimmedTerms text named)

end Holder

end Btcr2Aggregation
