import TrafficPolicy.Text.Numeral

/-!
# Namespaces

A `Namespace` is the pair of a provider and a sublayer under which one installation registers its
filters. Both are named by a `Key`. `Key.draw` is the supply of fresh keys: no two draws are
equal, and every one of them has the version and variant of a random identifier.
-/

namespace TrafficPolicy

/-- A 128-bit identifier, as a number. -/
structure Key where
  number : Nat
  deriving DecidableEq, Repr

namespace Key

/-- The hexadecimal text of a key, in groups of 8, 4, 4, 4 and 12 digits. -/
def text (key : Key) : String :=
  let digits := (Text.hexPadded 32 key.number).toList
  let part (start length : Nat) := String.ofList ((digits.drop start).take length)
  "-".intercalate [part 0 8, part 8 4, part 12 4, part 16 4, part 20 12]

/-- The four bits that hold the version. -/
def version (key : Key) : Nat :=
  key.number >>> 76 % 16

/-- The two bits that hold the variant. -/
def variant (key : Key) : Nat :=
  key.number >>> 62 % 4

/-- The key of the `n`-th draw: version 4, variant 2, and the bits of `n` around them. -/
def draw (n : Nat) : Key :=
  let high := n >>> 74
  let middle := n >>> 62 % 0x1000
  let low := n % 0x4000000000000000
  ⟨(high <<< 16 + 4 <<< 12 + middle) <<< 64 + 2 <<< 62 + low⟩

theorem version_draw (n : Nat) : (draw n).version = 4 := by
  have middle : n >>> 62 % 0x1000 < 0x1000 := Nat.mod_lt _ (by decide)
  have low : n % 0x4000000000000000 < 0x4000000000000000 := Nat.mod_lt _ (by decide)
  simp only [version, draw, Nat.shiftRight_eq_div_pow, Nat.shiftLeft_eq] at *
  generalize n / 2 ^ 62 % 0x1000 = m at *
  omega

theorem variant_draw (n : Nat) : (draw n).variant = 2 := by
  simp only [variant, draw, Nat.shiftRight_eq_div_pow, Nat.shiftLeft_eq]
  omega

theorem draw_injective {m n : Nat} (h : draw m = draw n) : m = n := by
  simp only [draw, Key.mk.injEq, Nat.shiftRight_eq_div_pow, Nat.shiftLeft_eq] at h
  omega

end Key

/-- A provider and a sublayer under it. -/
structure Namespace where
  provider : Key
  sublayer : Key
  deriving DecidableEq, Repr

/-- Both keys, with a slash between them. -/
def Namespace.text (ns : Namespace) : String :=
  s!"{ns.provider.text}/{ns.sublayer.text}"

end TrafficPolicy
