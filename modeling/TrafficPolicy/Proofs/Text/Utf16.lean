import TrafficPolicy.Text.Utf16

/-!
# Reading UTF-16

`Utf16.decode?` reads bytes as UTF-16 with the low byte first, by the definition of that encoding
and not by way of the writer: two bytes make a unit, a high half and the low half after it make a
character above `0xFFFF`, and a half that stands alone is refused.  It reads exactly what is written
(`decode?_eq_some_iff`): every text comes back from its bytes, and no other bytes give that text.
-/

namespace TrafficPolicy

/-- The code of a character made from a valid code. -/
theorem Text.toNat_ofNat {code : Nat} (valid : code.isValidChar) :
    (Char.ofNat code).toNat = code := by
  rw [Char.ofNat, dif_pos valid]
  rfl

theorem Text.isValidChar_toNat (c : Char) : c.toNat.isValidChar :=
  c.valid

theorem Text.eq_nul_iff {c : Char} : c = '\u0000' ↔ c.toNat = 0 := by
  rw [← Char.toNat_inj]
  rfl

namespace Utf16

/-! ## The reader -/

/-- The unit with these two bytes. -/
def unitOfBytes (low high : UInt8) : UInt16 :=
  (low.toNat + 256 * high.toNat).toUInt16

/-- The units that bytes stand for.  A byte left over at the end is refused. -/
def units? : List UInt8 → Option (List UInt16)
  | [] => some []
  | [_] => none
  | low :: high :: rest => (units? rest).map (unitOfBytes low high :: ·)

/-- The character of a pair, if it is a high half and a low half. -/
def charOfPair? (high low : UInt16) : Option Char :=
  if 0xD800 ≤ high.toNat ∧ high.toNat < 0xDC00 ∧ 0xDC00 ≤ low.toNat ∧ low.toNat < 0xE000 then
    some (Char.ofNat (0x10000 + (high.toNat - 0xD800) * 0x400 + (low.toNat - 0xDC00)))
  else none

/-- The characters that units stand for. -/
def chars? : List UInt16 → Option (List Char)
  | [] => some []
  | unit :: rest =>
    if unit.toNat < 0xD800 ∨ 0xDFFF < unit.toNat then
      (chars? rest).map (Char.ofNat unit.toNat :: ·)
    else match rest with
      | [] => none
      | low :: rest => (charOfPair? unit low).bind fun c => (chars? rest).map (c :: ·)

/-- The text that bytes stand for. -/
def decode? (bytes : List UInt8) : Option String :=
  ((units? bytes).bind chars?).map String.ofList

/-! ## Bytes and units -/

theorem bytes_cons (unit : UInt16) (rest : List UInt16) :
    bytes (unit :: rest) = unit.toUInt8 :: (unit >>> 8).toUInt8 :: bytes rest :=
  rfl

theorem bytes_append (units more : List UInt16) :
    bytes (units ++ more) = bytes units ++ bytes more :=
  List.flatMap_append

/-- Every unit takes two bytes. -/
theorem length_bytes (units : List UInt16) : (bytes units).length = 2 * units.length := by
  induction units with
  | nil => rfl
  | cons unit rest ih =>
    simp only [bytes_cons, List.length_cons, ih]
    omega

theorem toNat_unitOfBytes (low high : UInt8) :
    (unitOfBytes low high).toNat = low.toNat + 256 * high.toNat := by
  have := low.toNat_lt
  have := high.toNat_lt
  exact UInt16.toNat_ofNat_of_lt' (by simp only [UInt16.size]; omega)

theorem toNat_highByte (unit : UInt16) : (unit >>> 8).toUInt8.toNat = unit.toNat / 256 := by
  rw [UInt16.toNat_toUInt8, UInt16.toNat_shiftRight, Nat.shiftRight_eq_div_pow]
  exact Nat.mod_eq_of_lt (Nat.div_lt_of_lt_mul unit.toNat_lt)

theorem unitOfBytes_littleEndian (unit : UInt16) :
    unitOfBytes unit.toUInt8 (unit >>> 8).toUInt8 = unit := by
  apply UInt16.toNat_inj.mp
  rw [toNat_unitOfBytes, toNat_highByte, UInt16.toNat_toUInt8]
  exact Nat.mod_add_div _ _

theorem littleEndian_unitOfBytes (low high : UInt8) :
    littleEndian (unitOfBytes low high) = [low, high] := by
  have := low.toNat_lt
  have lowByte : (unitOfBytes low high).toUInt8 = low := by
    apply UInt8.toNat_inj.mp
    rw [UInt16.toNat_toUInt8, toNat_unitOfBytes]
    omega
  have highByte : (unitOfBytes low high >>> 8).toUInt8 = high := by
    apply UInt8.toNat_inj.mp
    rw [toNat_highByte, toNat_unitOfBytes]
    omega
  rw [littleEndian, lowByte, highByte]

theorem units?_bytes (units : List UInt16) : units? (bytes units) = some units := by
  induction units with
  | nil => rfl
  | cons unit rest ih =>
    rw [bytes_cons, units?, ih, unitOfBytes_littleEndian]
    rfl

theorem eq_bytes_of_units? {written : List UInt8} {units : List UInt16}
    (read : units? written = some units) : written = bytes units := by
  fun_induction units? written generalizing units with
  | case1 =>
    cases read
    rfl
  | case2 => cases read
  | case3 low high rest ih =>
    obtain ⟨others, readRest, rfl⟩ := Option.map_eq_some_iff.mp read
    rw [ih readRest]
    exact congrArg (· ++ bytes others) (littleEndian_unitOfBytes low high).symm

/-- The units of bytes are those that the bytes are written for. -/
theorem units?_eq_some_iff {written : List UInt8} {units : List UInt16} :
    units? written = some units ↔ written = bytes units :=
  ⟨eq_bytes_of_units?, fun eq => eq ▸ units?_bytes units⟩

/-! ## Units and characters -/

/-- A character up to `0xFFFF` is written as one unit. -/
theorem unitsOfChar_of_lt {c : Char} (small : c.toNat < 0x10000) :
    ∃ unit, unitsOfChar c = [unit] ∧ unit.toNat = c.toNat :=
  ⟨c.toNat.toUInt16, if_pos small, UInt16.toNat_ofNat_of_lt' small⟩

/-- A character above `0xFFFF` is written as a pair. -/
theorem unitsOfChar_of_le {c : Char} (large : 0x10000 ≤ c.toNat) :
    ∃ high low, unitsOfChar c = [high, low] ∧
      high.toNat = 0xD800 + (c.toNat - 0x10000) / 0x400 ∧
      low.toNat = 0xDC00 + (c.toNat - 0x10000) % 0x400 := by
  have valid := Text.isValidChar_toNat c
  simp only [Nat.isValidChar] at valid
  exact ⟨_, _, if_neg (by omega),
    UInt16.toNat_ofNat_of_lt' (by simp only [UInt16.size]; omega),
    UInt16.toNat_ofNat_of_lt' (by simp only [UInt16.size]; omega)⟩

/-- A pair stands for the character above `0xFFFF` that it is the pair of. -/
theorem charOfPair?_eq_some_iff {high low : UInt16} {c : Char} :
    charOfPair? high low = some c ↔ 0x10000 ≤ c.toNat ∧
      high.toNat = 0xD800 + (c.toNat - 0x10000) / 0x400 ∧
      low.toNat = 0xDC00 + (c.toNat - 0x10000) % 0x400 := by
  rw [charOfPair?]
  constructor
  · intro pair
    obtain ⟨bounds, made⟩ := Option.ite_none_right_eq_some.mp pair
    obtain rfl := Option.some.inj made
    rw [Text.toNat_ofNat (by simp only [Nat.isValidChar]; omega)]
    omega
  · rintro ⟨large, highCode, lowCode⟩
    have valid := Text.isValidChar_toNat c
    simp only [Nat.isValidChar] at valid
    have code : 0x10000 + (high.toNat - 0xD800) * 0x400 + (low.toNat - 0xDC00) = c.toNat := by
      omega
    rw [if_pos (by omega), code, Char.ofNat_toNat]

theorem unitsOfChar_of_charOfPair? {high low : UInt16} {c : Char}
    (pair : charOfPair? high low = some c) : unitsOfChar c = [high, low] := by
  obtain ⟨large, highCode, lowCode⟩ := charOfPair?_eq_some_iff.mp pair
  obtain ⟨_, _, written, highWritten, lowWritten⟩ := unitsOfChar_of_le large
  rw [written, UInt16.toNat_inj.mp (highWritten.trans highCode.symm),
    UInt16.toNat_inj.mp (lowWritten.trans lowCode.symm)]

theorem unitsOfChar_ofNat {unit : UInt16} (plain : unit.toNat < 0xD800 ∨ 0xDFFF < unit.toNat) :
    unitsOfChar (Char.ofNat unit.toNat) = [unit] := by
  have bound : unit.toNat < 0x10000 := unit.toNat_lt
  have code : (Char.ofNat unit.toNat).toNat = unit.toNat :=
    Text.toNat_ofNat (by simp only [Nat.isValidChar]; omega)
  obtain ⟨_, written, same⟩ := unitsOfChar_of_lt (by rwa [code])
  rw [written, UInt16.toNat_inj.mp (same.trans code)]

theorem chars?_cons_of_plain {unit : UInt16} (plain : unit.toNat < 0xD800 ∨ 0xDFFF < unit.toNat)
    (rest : List UInt16) :
    chars? (unit :: rest) = (chars? rest).map (Char.ofNat unit.toNat :: ·) := by
  rw [chars?.eq_def]
  exact if_pos plain

theorem chars?_pair {unit : UInt16} (half : 0xD800 ≤ unit.toNat ∧ unit.toNat ≤ 0xDFFF)
    (low : UInt16) (rest : List UInt16) :
    chars? (unit :: low :: rest) =
      (charOfPair? unit low).bind fun c => (chars? rest).map (c :: ·) := by
  rw [chars?.eq_def]
  exact if_neg (by omega)

/-- The units of a character are read as that character, whatever follows. -/
theorem chars?_unitsOfChar_append (c : Char) (rest : List UInt16) :
    chars? (unitsOfChar c ++ rest) = (chars? rest).map (c :: ·) := by
  have valid := Text.isValidChar_toNat c
  simp only [Nat.isValidChar] at valid
  rcases Nat.lt_or_ge c.toNat 0x10000 with small | large
  · obtain ⟨unit, written, code⟩ := unitsOfChar_of_lt small
    rw [written, List.singleton_append, chars?_cons_of_plain (by omega), code, Char.ofNat_toNat]
  · obtain ⟨high, low, written, highCode, lowCode⟩ := unitsOfChar_of_le large
    rw [written, List.cons_append, List.singleton_append, chars?_pair (by omega),
      charOfPair?_eq_some_iff.mpr ⟨large, highCode, lowCode⟩, Option.bind_some]

theorem chars?_flatMap (cs : List Char) : chars? (cs.flatMap unitsOfChar) = some cs := by
  induction cs with
  | nil => rfl
  | cons c rest ih =>
    rw [List.flatMap_cons, chars?_unitsOfChar_append, ih]
    rfl

theorem eq_flatMap_of_chars? {units : List UInt16} {cs : List Char}
    (read : chars? units = some cs) : units = cs.flatMap unitsOfChar := by
  fun_induction chars? units generalizing cs with
  | case1 =>
    cases read
    rfl
  | case2 unit rest plain ih =>
    obtain ⟨others, readRest, rfl⟩ := Option.map_eq_some_iff.mp read
    rw [List.flatMap_cons, unitsOfChar_ofNat plain, ← ih readRest]
    rfl
  | case3 => cases read
  | case4 unit _ low rest ih =>
    obtain ⟨c, pair, readPair⟩ := Option.bind_eq_some_iff.mp read
    obtain ⟨others, readRest, rfl⟩ := Option.map_eq_some_iff.mp readPair
    rw [List.flatMap_cons, unitsOfChar_of_charOfPair? pair, ← ih readRest]
    rfl

/-! ## Bytes and texts -/

/-- Bytes are read as a text exactly when they are the bytes of that text. -/
theorem decode?_eq_some_iff {written : List UInt8} {text : String} :
    decode? written = some text ↔ written = bytes (units text) := by
  constructor
  · intro read
    obtain ⟨cs, readChars, rfl⟩ := Option.map_eq_some_iff.mp read
    obtain ⟨units, readUnits, readUnitsChars⟩ := Option.bind_eq_some_iff.mp readChars
    rw [units?_eq_some_iff.mp readUnits, eq_flatMap_of_chars? readUnitsChars, Utf16.units,
      String.toList_ofList]
  · rintro rfl
    rw [decode?, units?_bytes, Option.bind_some, units, chars?_flatMap, Option.map_some,
      String.ofList_toList]

theorem decode?_bytes (text : String) : decode? (bytes (units text)) = some text :=
  decode?_eq_some_iff.mpr rfl

/-! ## Zero units -/

/-- Only NUL is written with a zero unit. -/
theorem zero_mem_unitsOfChar {c : Char} : 0 ∈ unitsOfChar c ↔ c = '\u0000' := by
  have zero {unit : UInt16} : 0 = unit ↔ unit.toNat = 0 := by
    rw [← UInt16.toNat_inj, eq_comm]
    rfl
  rcases Nat.lt_or_ge c.toNat 0x10000 with small | large
  · obtain ⟨unit, written, code⟩ := unitsOfChar_of_lt small
    rw [written, List.mem_singleton, zero, Text.eq_nul_iff, code]
  · obtain ⟨high, low, written, highCode, lowCode⟩ := unitsOfChar_of_le large
    simp only [written, List.mem_cons, List.not_mem_nil, or_false, zero,
      Text.eq_nul_iff]
    omega

theorem zero_mem_units {text : String} : 0 ∈ units text ↔ '\u0000' ∈ text.toList := by
  rw [units, List.mem_flatMap]
  constructor
  · rintro ⟨c, among, zero⟩
    rwa [← zero_mem_unitsOfChar.mp zero]
  · intro among
    exact ⟨_, among, zero_mem_unitsOfChar.mpr rfl⟩

end Utf16

end TrafficPolicy
