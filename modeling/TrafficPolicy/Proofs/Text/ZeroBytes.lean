import TrafficPolicy.Path
import TrafficPolicy.Proofs.Text.Utf16
import TrafficPolicy.Text.Lowercase

/-!
# Where NUL comes from

A NUL in the text of a path is a zero byte of the path: no other byte, no ill-formed part and no
sequence of several bytes is read as one (`Utf8.nul_mem_decodeLossy`).  A text in lowercase has a
NUL exactly if the text has one (`Text.nul_mem_lowercase`).  Both rest on the codes that are put
together or looked up being valid: any other code would be shown as NUL.
-/

namespace TrafficPolicy

theorem Text.ofNat_ne_nul {code : Nat} (valid : code.isValidChar) (pos : 0 < code) :
    Char.ofNat code ≠ '\u0000' := by
  rw [Ne, eq_nul_iff, toNat_ofNat valid]
  exact Nat.ne_of_gt pos

namespace Utf8

/-! ## Sequences of several bytes -/

/-- How many codes `count` further bytes tell apart. -/
def weight : Nat → Nat
  | 0 => 1
  | count + 1 => 64 * weight count

theorem weight_pos (count : Nat) : 0 < weight count := by
  induction count with
  | zero => exact Nat.one_pos
  | succ count ih => exact Nat.mul_pos (by decide) ih

namespace Lead

/-- The first of the codes that start with a lead. -/
def lowest (lead : Lead) : Nat :=
  (lead.value * 64 + (lead.low.toNat - 0x80)) * weight (lead.following - 1)

/-- The first code after those that start with a lead. -/
def beyond (lead : Lead) : Nat :=
  (lead.value * 64 + (lead.high.toNat - 0x80) + 1) * weight (lead.following - 1)

/-- The codes that start with a lead need several bytes and are those of characters: they lie below
the surrogates, or above them and up to the last code. -/
structure Sound (lead : Lead) : Prop where
  several : 0 < lead.following
  low : 0x80 ≤ lead.low
  lowest : 0x80 ≤ lead.lowest
  beyond : lead.beyond ≤ 0xD800 ∨ 0xE000 ≤ lead.lowest ∧ lead.beyond ≤ 0x110000

instance (lead : Lead) : Decidable lead.Sound :=
  decidable_of_iff (0 < lead.following ∧ 0x80 ≤ lead.low ∧ 0x80 ≤ lead.lowest ∧
      (lead.beyond ≤ 0xD800 ∨ 0xE000 ≤ lead.lowest ∧ lead.beyond ≤ 0x110000))
    ⟨fun ⟨several, low, lowest, beyond⟩ => ⟨several, low, lowest, beyond⟩,
      fun ⟨several, low, lowest, beyond⟩ => ⟨several, low, lowest, beyond⟩⟩

theorem sound_of_ofByte? {byte : UInt8} {lead : Lead} (found : ofByte? byte = some lead) :
    lead.Sound := by
  have all : ∀ code < 256, ∀ lead ∈ ofByte? (UInt8.ofNat code), lead.Sound := by
    decide +kernel
  refine all byte.toNat byte.toNat_lt lead ?_
  rwa [UInt8.ofNat_toNat]

end Lead

/-- The bytes that are read hold the low bits of a code, and the value at the start is the rest. -/
theorem div_weight_of_follow {count value code : Nat} {bytes : List UInt8}
    (read : (follow count value 0x80 0xBF bytes).1 = some code) : code / weight count = value := by
  induction count generalizing value bytes with
  | zero =>
    obtain rfl := Option.some.inj read
    exact Nat.div_one value
  | succ count ih =>
    obtain _ | ⟨byte, bytes⟩ := bytes
    · cases read
    rw [follow] at read
    split at read
    · next fits =>
      have fits : 0x80 ≤ byte ∧ byte ≤ 0xBF := by simpa using fits
      have low : 0x80 ≤ byte.toNat := UInt8.le_iff_toNat_le.mp fits.1
      have high : byte.toNat ≤ 0xBF := UInt8.le_iff_toNat_le.mp fits.2
      rw [weight, Nat.mul_comm, ← Nat.div_div_eq_div_mul, ih read]
      omega
    · cases read

theorem Lead.bounds_of_follow {lead : Lead} {code : Nat} {bytes : List UInt8}
    (several : 0 < lead.following)
    (read : (follow lead.following lead.value lead.low lead.high bytes).1 = some code) :
    lead.lowest ≤ code ∧ code < lead.beyond := by
  obtain ⟨count, following⟩ := Nat.exists_eq_succ_of_ne_zero (Nat.ne_of_gt several)
  obtain _ | ⟨byte, bytes⟩ := bytes
  · rw [following] at read
    cases read
  rw [following, follow] at read
  split at read
  · next fits =>
    have fits : lead.low ≤ byte ∧ byte ≤ lead.high := by simpa using fits
    have low : lead.low.toNat ≤ byte.toNat := UInt8.le_iff_toNat_le.mp fits.1
    have high : byte.toNat ≤ lead.high.toNat := UInt8.le_iff_toNat_le.mp fits.2
    have start := div_weight_of_follow read
    rw [lowest, beyond, following, Nat.succ_sub_one, ← Nat.le_div_iff_mul_le (weight_pos count),
      ← Nat.div_lt_iff_lt_mul (weight_pos count), start]
    omega
  · cases read

/-- Several bytes are never read as NUL. -/
theorem Lead.ofNat_ne_nul {byte : UInt8} {lead : Lead} (found : ofByte? byte = some lead)
    {code : Nat} {bytes : List UInt8}
    (read : (follow lead.following lead.value lead.low lead.high bytes).1 = some code) :
    Char.ofNat code ≠ '\u0000' := by
  obtain ⟨several, _, lowest, beyond⟩ := sound_of_ofByte? found
  have bounds := bounds_of_follow several read
  exact Text.ofNat_ne_nul (by simp only [Nat.isValidChar]; omega) (by omega)

/-- The bytes that are passed over have no zero byte among them. -/
theorem zero_mem_follow {count value : Nat} {low high : UInt8} (pos : 0 < low)
    (bytes : List UInt8) : 0 ∈ (follow count value low high bytes).2 ↔ 0 ∈ bytes := by
  fun_induction follow count value low high bytes with
  | case1 | case2 | case4 => rfl
  | case3 count value low high byte bytes fits ih =>
    have fits : low ≤ byte ∧ byte ≤ high := by simpa using fits
    have nonzero : (0 : UInt8) ≠ byte := by
      rintro rfl
      exact UInt8.not_le.mpr pos fits.1
    rw [ih (by decide), List.mem_cons, or_iff_right nonzero]

/-! ## Bytes read as text -/

/-- What stands first is read as NUL exactly if it is a zero byte, and no other zero byte is passed
over with it. -/
theorem nul_decodeFirst (byte : UInt8) (bytes : List UInt8) :
    some '\u0000' = (decodeFirst byte bytes).1 ∨ 0 ∈ (decodeFirst byte bytes).2 ↔
      0 ∈ byte :: bytes := by
  rw [decodeFirst, List.mem_cons]
  split
  · next ascii =>
    have valid : byte.toNat.isValidChar := .inl (by have := byte.toNat_lt; omega)
    refine or_congr_left ?_
    rw [Option.some_inj, eq_comm, Text.eq_nul_iff, Text.toNat_ofNat valid, ← UInt8.toNat_inj,
      eq_comm]
    rfl
  · next above =>
    have nonzero : (0 : UInt8) ≠ byte := by
      rintro rfl
      exact above (by decide)
    rw [or_iff_right nonzero]
    split
    · simp
    · next lead found =>
      have other : some '\u0000' ≠
          (follow lead.following lead.value lead.low lead.high bytes).1.map Char.ofNat := by
        intro nul
        obtain ⟨code, read, made⟩ := Option.map_eq_some_iff.mp nul.symm
        exact Lead.ofNat_ne_nul found read made
      have pos : 0 < lead.low :=
        UInt8.lt_of_lt_of_le (by decide) (Lead.sound_of_ofByte? found).low
      exact (or_iff_right other).trans (zero_mem_follow pos bytes)

theorem nul_mem_decode (bytes : List UInt8) : some '\u0000' ∈ decode bytes ↔ 0 ∈ bytes := by
  fun_induction decode bytes with
  | case1 => simp
  | case2 byte bytes ih => rw [List.mem_cons, ih, nul_decodeFirst]

/-- The text of bytes has a NUL exactly if there is a zero byte among them. -/
theorem nul_mem_decodeLossy (bytes : List UInt8) :
    '\u0000' ∈ (decodeLossy bytes).toList ↔ 0 ∈ bytes := by
  rw [decodeLossy, String.toList_ofList, ← nul_mem_decode, List.mem_map]
  constructor
  · rintro ⟨_ | c, among, shown⟩
    · cases shown
    · rwa [← show c = '\u0000' from shown]
  · exact fun among => ⟨_, among, rfl⟩

end Utf8

/-! ## Lowercase text -/

namespace Text

/-- The images of a run are characters other than NUL. -/
def CaseRun.Proper (run : CaseRun) : Prop :=
  0 < run.image ∧ (run.image + (run.last - run.first) < 0xD800 ∨
    0xDFFF < run.image ∧ run.image + (run.last - run.first) < 0x110000)

instance (run : CaseRun) : Decidable run.Proper :=
  inferInstanceAs (Decidable (_ ∧ _))

theorem proper_of_mem_lowercaseRuns : ∀ run ∈ lowercaseRuns, run.Proper := by
  decide +kernel

theorem CaseRun.Proper.ofNat_ne_nul {run : CaseRun} (proper : run.Proper) {code image : Nat}
    (mapped : run.image? code = some image) : Char.ofNat image ≠ '\u0000' := by
  obtain ⟨⟨_, upTo, _⟩, made⟩ := Option.ite_none_right_eq_some.mp mapped
  obtain rfl := Option.some.inj made
  obtain ⟨pos, range⟩ := proper
  exact Text.ofNat_ne_nul (by simp only [Nat.isValidChar]; omega) (by omega)

/-- Only NUL is NUL in lowercase. -/
theorem nul_mem_lowercaseChar (c : Char) : '\u0000' ∈ lowercaseChar c ↔ c = '\u0000' := by
  rw [lowercaseChar]
  split
  · next ascii =>
    have all : ∀ code < 0x80,
        '\u0000' ∈ [(Char.ofNat code).toLower] ↔ Char.ofNat code = '\u0000' := by decide
    have := all c.toNat ascii
    rwa [Char.ofNat_toNat] at this
  · next above =>
    have other : c ≠ '\u0000' := by
      rintro rfl
      exact above (by decide)
    refine iff_of_false ?_ other
    split
    · decide
    · rw [List.mem_singleton]
      cases found : lowercaseRuns.findSome? (·.image? c.toNat) with
      | none => exact other.symm
      | some image =>
        obtain ⟨run, among, mapped⟩ := List.exists_of_findSome?_eq_some found
        exact ((proper_of_mem_lowercaseRuns run among).ofNat_ne_nul mapped).symm

theorem nul_mem_lowercaseAfter (before cs : List Char) :
    '\u0000' ∈ lowercaseAfter before cs ↔ '\u0000' ∈ cs := by
  induction cs generalizing before with
  | nil => rfl
  | cons c rest ih =>
    rw [lowercaseAfter, List.mem_append, ih, List.mem_cons, eq_comm (b := c)]
    refine or_congr_left ?_
    split
    · next sigma =>
      subst sigma
      split <;> decide
    · exact nul_mem_lowercaseChar c

/-- A text in lowercase has a NUL exactly if the text has one. -/
theorem nul_mem_lowercase (text : String) :
    '\u0000' ∈ (lowercase text).toList ↔ '\u0000' ∈ text.toList := by
  rw [lowercase, String.toList_ofList, nul_mem_lowercaseAfter]

end Text

end TrafficPolicy
