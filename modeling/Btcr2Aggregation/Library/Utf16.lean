import Btcr2Aggregation.Library.ByteText

/-!
# UTF-16 code units

A JavaScript string is a list of code units, any code units: a surrogate may
stand alone.  Its UTF-8 encoding takes a pair of surrogates together and writes
the replacement character for one that is alone.
-/

namespace Btcr2Aggregation

/-- A string by its code units. -/
abbrev CodeUnits := List UInt16

namespace Utf16

section Units

/-! ## Code units -/

/-- The first half of a pair. -/
def isLead (unit : UInt16) : Bool :=
  decide (0xD800 ≤ unit.toNat) && decide (unit.toNat < 0xDC00)

/-- The second half of a pair. -/
def isTrail (unit : UInt16) : Bool :=
  decide (0xDC00 ≤ unit.toNat) && decide (unit.toNat < 0xE000)

/-- The code point of a pair. -/
def pairValue (lead trail : UInt16) : Nat :=
  0x10000 + (lead.toNat - 0xD800) * 0x400 + (trail.toNat - 0xDC00)

/-- The code units of a text. -/
def ofChars (characters : List Char) : CodeUnits :=
  characters.flatMap fun character =>
    if character.toNat < 0x10000 then
      [UInt16.ofNat character.toNat]
    else
      [UInt16.ofNat (0xD800 + (character.toNat - 0x10000) / 0x400),
        UInt16.ofNat (0xDC00 + (character.toNat - 0x10000) % 0x400)]

end Units

section Encoding

/-! ## UTF-8 -/

/-- The bytes of a code point. -/
def utf8 (codePoint : Nat) : Bytes :=
  if codePoint < 0x80 then
    [UInt8.ofNat codePoint]
  else if codePoint < 0x800 then
    [UInt8.ofNat (0xC0 + codePoint / 0x40), UInt8.ofNat (0x80 + codePoint % 0x40)]
  else if codePoint < 0x10000 then
    [UInt8.ofNat (0xE0 + codePoint / 0x1000),
      UInt8.ofNat (0x80 + codePoint / 0x40 % 0x40),
      UInt8.ofNat (0x80 + codePoint % 0x40)]
  else
    [UInt8.ofNat (0xF0 + codePoint / 0x40000),
      UInt8.ofNat (0x80 + codePoint / 0x1000 % 0x40),
      UInt8.ofNat (0x80 + codePoint / 0x40 % 0x40),
      UInt8.ofNat (0x80 + codePoint % 0x40)]

/-- The code point a unit stands for by itself. -/
def unitValue (unit : UInt16) : Nat :=
  if isLead unit || isTrail unit then 0xFFFD else unit.toNat

/-- The UTF-8 encoding. -/
def encode : CodeUnits → Bytes
  | [] => []
  | [unit] => utf8 (unitValue unit)
  | unit :: next :: rest =>
      if isLead unit && isTrail next then
        utf8 (pairValue unit next) ++ encode rest
      else
        utf8 (unitValue unit) ++ encode (next :: rest)

/-- The most bytes a unit can take: a half of a pair takes less than alone. -/
def unitBytes (unit : UInt16) : Nat :=
  if unit.toNat < 0x80 then 1 else if unit.toNat < 0x800 then 2 else 3

/-- The bytes of a text, counted unit by unit. -/
def byteBound (text : CodeUnits) : Nat :=
  (text.map unitBytes).sum

theorem byteBound_cons (unit : UInt16) (text : CodeUnits) :
    byteBound (unit :: text) = unitBytes unit + byteBound text := by
  rw [byteBound, List.map_cons, List.sum_cons, byteBound]

theorem byteBound_append (first second : CodeUnits) :
    byteBound (first ++ second) = byteBound first + byteBound second := by
  rw [byteBound, List.map_append, List.sum_append, byteBound, byteBound]

theorem length_utf8_le (codePoint : Nat) : (utf8 codePoint).length ≤ 4 := by
  unfold utf8
  split
  · exact Nat.le_add_left 1 3
  · split
    · exact Nat.le_add_left 2 2
    · split
      · exact Nat.le_add_left 3 1
      · exact Nat.le_refl 4

/-- A unit alone takes what it is counted for. -/
theorem length_utf8_unitValue (unit : UInt16) :
    (utf8 (unitValue unit)).length = unitBytes unit := by
  have bound := unit.toNat_lt
  unfold unitValue
  by_cases surrogate : (isLead unit || isTrail unit) = true
  · rw [if_pos surrogate]
    have high : 0xD800 ≤ unit.toNat := by
      simp only [isLead, isTrail, Bool.or_eq_true, Bool.and_eq_true,
        decide_eq_true_eq] at surrogate
      omega
    rw [unitBytes, if_neg (by omega), if_neg (by omega)]
    decide
  · rw [if_neg surrogate]
    unfold utf8 unitBytes
    split
    · rfl
    · split
      · rfl
      · rfl

theorem unitBytes_of_isLead {unit : UInt16} (lead : isLead unit = true) :
    unitBytes unit = 3 := by
  simp only [isLead, Bool.and_eq_true, decide_eq_true_eq] at lead
  rw [unitBytes, if_neg (by omega), if_neg (by omega)]

theorem unitBytes_of_isTrail {unit : UInt16} (trail : isTrail unit = true) :
    unitBytes unit = 3 := by
  simp only [isTrail, Bool.and_eq_true, decide_eq_true_eq] at trail
  rw [unitBytes, if_neg (by omega), if_neg (by omega)]

/-- A text takes at most the bytes counted for its units. -/
theorem length_encode_le (text : CodeUnits) :
    (encode text).length ≤ byteBound text := by
  induction text using encode.induct with
  | case1 => exact Nat.zero_le _
  | case2 unit =>
      rw [encode, length_utf8_unitValue, byteBound_cons]
      exact Nat.le_add_right _ _
  | case3 unit next rest pair inductionHypothesis =>
      obtain ⟨lead, trail⟩ := (Bool.and_eq_true _ _).mp pair
      have four := length_utf8_le (pairValue unit next)
      rw [encode, if_pos pair, List.length_append, byteBound_cons,
        byteBound_cons, unitBytes_of_isLead lead, unitBytes_of_isTrail trail]
      omega
  | case4 unit next rest apart inductionHypothesis =>
      rw [encode, if_neg apart, List.length_append, length_utf8_unitValue,
        byteBound_cons unit]
      omega

/-- A text of units below `0x80` takes a byte each. -/
theorem length_encode_of_ascii {text : CodeUnits}
    (ascii : ∀ unit ∈ text, unit.toNat < 0x80) :
    (encode text).length = text.length := by
  induction text using encode.induct with
  | case1 => rfl
  | case2 unit =>
      rw [encode, length_utf8_unitValue, unitBytes,
        if_pos (ascii unit List.mem_cons_self), List.length_singleton]
  | case3 unit next rest pair inductionHypothesis =>
      have low := ascii unit List.mem_cons_self
      have lead := ((Bool.and_eq_true _ _).mp pair).1
      simp only [isLead, Bool.and_eq_true, decide_eq_true_eq] at lead
      omega
  | case4 unit next rest apart inductionHypothesis =>
      obtain ⟨low, others⟩ := List.forall_mem_cons.mp ascii
      rw [encode, if_neg apart, List.length_append, length_utf8_unitValue,
        unitBytes, if_pos low, inductionHypothesis others, Nat.add_comm]
      rfl

theorem unitBytes_le (unit : UInt16) : unitBytes unit ≤ 3 := by
  unfold unitBytes
  split
  · omega
  · split <;> omega

end Encoding

end Utf16

end Btcr2Aggregation
