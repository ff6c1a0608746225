/-!
# UTF-8

`Utf8.encode` writes a text as bytes. `Utf8.decode` reads bytes back, one entry per character or per
ill-formed part: an ill-formed part is the longest start of a character that the bytes cannot
continue, or one byte that starts none. `Utf8.decode?` refuses ill-formed bytes, `Utf8.decodeLossy`
shows each ill-formed part as the replacement character.
-/

namespace TrafficPolicy.Utf8

/-- The bytes of a text. -/
def encode (text : String) : List UInt8 :=
  text.toList.flatMap String.utf8EncodeChar

/-- What the first byte of a character says of the rest: how many bytes follow, the part of the code
that the first byte holds, and the range of the second byte. -/
structure Lead where
  following : Nat
  value : Nat
  low : UInt8
  high : UInt8

/-- The lead that a byte above `0x7F` stands for. The narrow ranges keep out overlong forms,
surrogates and codes above `0x10FFFF`. -/
def Lead.ofByte? (byte : UInt8) : Option Lead :=
  if 0xC2 ≤ byte && byte ≤ 0xDF then some ⟨1, byte.toNat - 0xC0, 0x80, 0xBF⟩
  else if byte == 0xE0 then some ⟨2, 0, 0xA0, 0xBF⟩
  else if byte == 0xED then some ⟨2, 0xD, 0x80, 0x9F⟩
  else if 0xE1 ≤ byte && byte ≤ 0xEF then some ⟨2, byte.toNat - 0xE0, 0x80, 0xBF⟩
  else if byte == 0xF0 then some ⟨3, 0, 0x90, 0xBF⟩
  else if byte == 0xF4 then some ⟨3, 4, 0x80, 0x8F⟩
  else if 0xF1 ≤ byte && byte ≤ 0xF3 then some ⟨3, byte.toNat - 0xF0, 0x80, 0xBF⟩
  else none

/-- Reads `count` further bytes into `value`, the first of them between `low` and `high`. Stops
before the first byte that does not fit. -/
def follow : Nat → Nat → UInt8 → UInt8 → List UInt8 → Option Nat × List UInt8
  | 0, value, _, _, bytes => (some value, bytes)
  | _ + 1, _, _, _, [] => (none, [])
  | count + 1, value, low, high, byte :: bytes =>
    if low ≤ byte && byte ≤ high then
      follow count (value * 64 + (byte.toNat - 0x80)) 0x80 0xBF bytes
    else (none, byte :: bytes)

theorem length_follow_le (count value : Nat) (low high : UInt8) (bytes : List UInt8) :
    (follow count value low high bytes).2.length ≤ bytes.length := by
  fun_induction follow count value low high bytes with
  | case1 | case2 | case4 => simp
  | case3 count value low high byte bytes _ ih => simp only [List.length_cons]; omega

/-- The character or ill-formed part that starts with `byte`, and the bytes after it. -/
def decodeFirst (byte : UInt8) (bytes : List UInt8) : Option Char × List UInt8 :=
  if byte < 0x80 then (some (Char.ofNat byte.toNat), bytes)
  else match Lead.ofByte? byte with
    | none => (none, bytes)
    | some lead =>
      let (code, rest) := follow lead.following lead.value lead.low lead.high bytes
      (code.map Char.ofNat, rest)

theorem length_decodeFirst_le (byte : UInt8) (bytes : List UInt8) :
    (decodeFirst byte bytes).2.length ≤ bytes.length := by
  unfold decodeFirst
  split
  · simp
  · split
    · simp
    · exact length_follow_le _ _ _ _ _

/-- The characters of a byte sequence, `none` for each ill-formed part. -/
def decode : List UInt8 → List (Option Char)
  | [] => []
  | byte :: bytes => (decodeFirst byte bytes).1 :: decode (decodeFirst byte bytes).2
termination_by bytes => bytes.length
decreasing_by
  have := length_decodeFirst_le byte bytes
  simp only [List.length_cons]
  omega

/-- The text of well-formed bytes. -/
def decode? (bytes : List UInt8) : Option String :=
  ((decode bytes).mapM id).map String.ofList

/-- The text of any bytes, with U+FFFD for each ill-formed part. -/
def decodeLossy (bytes : List UInt8) : String :=
  String.ofList ((decode bytes).map (·.getD '\uFFFD'))

end TrafficPolicy.Utf8
