import Mathlib.Data.List.Basic
import Mathlib.Data.List.TakeWhile
import Mathlib.Data.Nat.Digits.Defs
import TrafficPolicy.Network

/-!
# Addresses read back

The text of an address is read as that address (`Address.parse?_text`).  So no two addresses have
one text, and neither have two networks.

Each reader takes what was printed off the front of a text and gives back the rest, if that cannot
be taken for more of the same.
-/

namespace TrafficPolicy

namespace Text

/-! ## Numerals -/

variable {base : Nat}

theorem digitBelow?_digitChar (base_le : base ≤ 16) {digit : Nat} (below : digit < base) :
    digitBelow? base digit.digitChar = some digit := by
  have value : ∀ digit < 16, digitValue? digit.digitChar = some digit := by decide
  rw [digitBelow?, value digit (Nat.lt_of_lt_of_le below base_le)]
  exact Option.filter_eq_some_iff.mpr ⟨rfl, decide_eq_true below⟩

/-- What is no hexadecimal digit is no decimal digit. -/
theorem digitBelow?_decimal {c : Char} (other : digitBelow? 16 c = none) :
    digitBelow? 10 c = none := by
  rw [digitBelow?, Option.filter_eq_none_iff] at other ⊢
  intro value is below
  exact other value is (decide_eq_true (Nat.lt_trans (of_decide_eq_true below) (by decide)))

/-- The numeral of a number is made of digits that write it, without a zero in front. -/
theorem exists_digits (base_ge : 1 < base) (n : Nat) :
    ∃ digits, Nat.toDigits base n = digits.map Nat.digitChar ∧ (∀ digit ∈ digits, digit < base) ∧
      ofDigits base digits = n ∧ (digits.head? = some 0 → digits = [0]) := by
  induction n using Nat.strongRecOn with
  | ind n ih =>
    by_cases small : n < base
    · refine ⟨[n], Nat.toDigits_of_lt_base small, by simpa using small, by simp [ofDigits], ?_⟩
      intro zero
      cases zero
      rfl
    · have large := Nat.le_of_not_lt small
      obtain ⟨digits, chars, below, value, leading⟩ :=
        ih (n / base) (Nat.div_lt_self (by omega) base_ge)
      have last : n % base < base := Nat.mod_lt _ (by omega)
      refine ⟨digits ++ [n % base], ?_, ?_, ?_, fun zero => ?_⟩
      · rw [Nat.toDigits_of_base_le base_ge large, chars, List.map_append]
        rfl
      · exact List.forall_mem_append.mpr ⟨below, by simpa using last⟩
      · rw [ofDigits] at value
        rw [ofDigits, List.foldl_append, value]
        exact Nat.div_add_mod' n base
      · cases digits with
        | nil => exact absurd chars Nat.toDigits_ne_nil
        | cons first rest =>
          -- what stands before the last digit is not 0
          have positive : 0 < n / base := Nat.div_pos large (by omega)
          rw [← value, leading zero] at positive
          exact absurd positive (by simp [ofDigits])

theorem notMem_toDigits (base_ge : 1 < base) (base_le : base ≤ 16) {c : Char}
    (other : digitBelow? base c = none) (n : Nat) : c ∉ Nat.toDigits base n := by
  obtain ⟨digits, chars, below, _⟩ := exists_digits base_ge n
  rw [chars]
  intro member
  obtain ⟨digit, inside, rfl⟩ := List.mem_map.mp member
  rw [digitBelow?_digitChar base_le (below digit inside)] at other
  cases other

/-- Numerals with a separator between each two. -/
def separated (base : Nat) (separator : Char) (numbers : List Nat) : List Char :=
  [separator].intercalate (numbers.map (Nat.toDigits base))

theorem separated_cons (base : Nat) (separator : Char) (first : Nat) (rest : List Nat) :
    separated base separator (first :: rest) =
      Nat.toDigits base first ++ rest.flatMap (fun n => separator :: Nat.toDigits base n) := by
  rw [separated]
  induction rest generalizing first with
  | nil => simp
  | cons next rest ih =>
    rw [List.map_cons, List.map_cons, List.intercalate_cons_cons, ← List.map_cons, ih]
    simp

theorem notMem_separated (base_ge : 1 < base) (base_le : base ≤ 16) {separator c : Char}
    (apart : c ≠ separator) (other : digitBelow? base c = none) (numbers : List Nat) :
    c ∉ separated base separator numbers := by
  have numeral := notMem_toDigits base_ge base_le other
  cases numbers with
  | nil => exact List.not_mem_nil
  | cons first rest =>
    rw [separated_cons]
    simp [numeral, apart]

end Text

namespace Address

open Text

/-! ## The readers -/

section Readers

variable {base most : Nat} {c : Char} {rest : List Char}

/-- The text does not start with a digit. -/
def Ends (base : Nat) (rest : List Char) : Prop :=
  ∀ c ∈ rest.head?, digitBelow? base c = none

theorem ends_nil : Ends base [] :=
  nofun

theorem ends_cons (other : digitBelow? base c = none) : Ends base (c :: rest) := by
  rintro _ ⟨⟩
  exact other

theorem Ends.decimal (ends : Ends 16 rest) : Ends 10 rest :=
  fun c member => digitBelow?_decimal (ends c member)

theorem Ends.takeWhile (ends : Ends base rest) :
    rest.takeWhile (fun c => (digitBelow? base c).isSome) = [] := by
  cases rest with
  | nil => rfl
  | cons c rest => simp [ends c rfl]

theorem readNumeral?_eq_none (ends : Ends base rest) : readNumeral? base most rest = none := by
  rw [readNumeral?, ends.takeWhile]
  rfl

theorem readNumeral?_digits (base_le : base ≤ 16) {digits : List Nat}
    (below : ∀ digit ∈ digits, digit < base) (some_digit : digits ≠ [])
    (fits : digits.length ≤ most) (ends : Ends base rest) :
    readNumeral? base most (digits.map Nat.digitChar ++ rest) = some (digits, rest) := by
  have value : ∀ digit ∈ digits, digitBelow? base digit.digitChar = some digit :=
    fun digit member => digitBelow?_digitChar base_le (below digit member)
  have taken : (digits.map Nat.digitChar ++ rest).takeWhile
      (fun c => (digitBelow? base c).isSome) = digits.map Nat.digitChar := by
    rw [List.takeWhile_append_of_pos, ends.takeWhile, List.append_nil]
    intro c member
    obtain ⟨digit, inside, rfl⟩ := List.mem_map.mp member
    rw [value digit inside]
    rfl
  have values : (digits.map Nat.digitChar).filterMap (digitBelow? base) = digits := by
    rw [List.filterMap_map]
    exact (List.filterMap_congr value).trans List.filterMap_some
  rw [readNumeral?, taken]
  simp [some_digit, Nat.not_lt.mpr fits, values]

/-- A numeral is read off the front of a text. -/
theorem readNumeral?_toDigits (base_ge : 1 < base) (base_le : base ≤ 16) (some_most : 0 < most)
    {n : Nat} (small : n < base ^ most) (ends : Ends base rest) :
    ∃ digits, readNumeral? base most (Nat.toDigits base n ++ rest) = some (digits, rest) ∧
      ofDigits base digits = n ∧ (digits.head? = some 0 → digits = [0]) := by
  obtain ⟨digits, chars, below, value, leading⟩ := exists_digits base_ge n
  have fits := (Nat.length_toDigits_le_iff base_ge some_most).mpr small
  have some_digit : Nat.toDigits base n ≠ [] := Nat.toDigits_ne_nil
  rw [chars, List.length_map] at fits
  rw [chars] at some_digit
  refine ⟨digits, ?_, value, leading⟩
  rw [chars]
  exact readNumeral?_digits base_le below (fun none => some_digit (by rw [none]; rfl)) fits ends

theorem readChar?_cons (c : Char) (rest : List Char) : readChar? c (c :: rest) = some rest :=
  if_pos rfl

theorem readOctet?_toDigits {octet : Nat} (small : octet < 256) (ends : Ends 10 rest) :
    readOctet? (Nat.toDigits 10 octet ++ rest) = some (octet, rest) := by
  obtain ⟨digits, read, value, leading⟩ :=
    @readNumeral?_toDigits 10 3 rest (by decide) (by decide) (by decide) octet (by omega) ends
  have single : ¬ (digits.head? = some 0 ∧ 1 < digits.length) := fun ⟨zero, more⟩ => by
    rw [leading zero] at more
    exact absurd more (by decide)
  simp [readOctet?, read, value, single, Nat.not_lt.mpr (Nat.le_of_lt_succ small)]

theorem octet_lt {bits : BitVec 32} {octet : Nat} (member : octet ∈ octets bits) : octet < 256 := by
  obtain ⟨shift, _, rfl⟩ := List.mem_map.mp member
  exact Nat.mod_lt _ (by decide)

theorem toList_dotted (bits : BitVec 32) :
    (dotted bits).toList = separated 10 '.' (octets bits) := by
  rw [dotted, separated, String.toList_intercalate, List.map_map]
  congr 1
  exact List.map_congr_left fun octet _ => Nat.toList_repr

/-- The octets of an address are read off the front of a text. -/
theorem readDotted?_dotted (bits : BitVec 32) (ends : Ends 10 rest) :
    readDotted? ((dotted bits).toList ++ rest) = some (bits.toNat, rest) := by
  have point : ∀ rest, Ends 10 ('.' :: rest) := fun rest => ends_cons (by decide)
  have all := fun octet (member : octet ∈ octets bits) => octet_lt member
  rw [toList_dotted]
  simp only [octets, List.map_cons, List.map_nil, List.mem_cons, List.not_mem_nil, or_false,
    forall_eq_or_imp, forall_eq, separated_cons, List.flatMap_cons, List.flatMap_nil,
    List.append_nil, List.append_assoc, List.cons_append] at all ⊢
  obtain ⟨first, second, third, fourth⟩ := all
  rw [readDotted?, readOctet?_toDigits first (point _)]
  simp only [Option.bind_eq_bind, Option.bind_some, readChar?_cons]
  rw [readOctet?_toDigits second (point _)]
  simp only [Option.bind_some, readChar?_cons]
  rw [readOctet?_toDigits third (point _)]
  simp only [Option.bind_some, readChar?_cons]
  rw [readOctet?_toDigits fourth ends]
  simp only [Option.bind_some, Nat.shiftRight_eq_div_pow, Option.some.injEq, Prod.mk.injEq,
    and_true]
  have := bits.isLt
  omega

theorem suffix_of_readNumeral? {cs : List Char} {digits : List Nat}
    (read : readNumeral? base most cs = some (digits, rest)) : rest <:+ cs := by
  rw [readNumeral?] at read
  split at read
  next => cases read
  next =>
    cases read
    exact List.drop_suffix ..

theorem Ends.readDotted?_eq_none (ends : Ends 10 rest) : readDotted? rest = none := by
  rw [readDotted?, readOctet?, readNumeral?_eq_none ends]
  rfl

/-- Where no group is, none is read. -/
theorem Ends.readGroups (ends : Ends 16 rest) (room : Nat) :
    readGroups room true rest = ⟨[], false, rest⟩ := by
  cases room with
  | zero => rfl
  | succ room =>
    rw [Address.readGroups]
    simp only [if_true, ends.decimal.readDotted?_eq_none, ite_self, readNumeral?_eq_none ends]

/-- Where no point is, there are no octets. -/
theorem readDotted?_eq_none {cs : List Char} (plain : '.' ∉ cs) : readDotted? cs = none := by
  rw [readDotted?]
  cases first : readOctet? cs with
  | none => rfl
  | some read =>
    obtain ⟨octet, rest⟩ := read
    have point : readChar? '.' rest = none := by
      have suffix : rest <:+ cs := by
        rw [readOctet?] at first
        obtain ⟨⟨digits, after⟩, read, checked⟩ := Option.bind_eq_some_iff.mp first
        dsimp only at checked
        split at checked
        next => cases checked
        next =>
          split at checked
          next => cases checked
          next =>
            cases checked
            exact suffix_of_readNumeral? read
      cases rest with
      | nil => rfl
      | cons c rest =>
        refine if_neg fun same => plain ?_
        rw [← same]
        exact suffix.mem List.mem_cons_self
    simp only [Option.bind_eq_bind, Option.bind_some, point, Option.bind_none]

/-! ## Groups -/

/-- The text of groups with a colon between each two. -/
theorem toList_colonSeparated (groups : List Nat) :
    (colonSeparated groups).toList = separated 16 ':' groups := by
  rw [colonSeparated, separated, String.toList_intercalate, List.map_map]
  congr 1
  exact List.map_congr_left fun group _ => String.toList_ofList

/-- What may follow groups: nothing, or the sign that others are left out. -/
def Closes (rest : List Char) : Prop :=
  '.' ∉ rest ∧ (rest = [] ∨ ∃ more, rest = ':' :: ':' :: more)

theorem Closes.ends (closes : Closes rest) : Ends 16 rest := by
  rcases closes.2 with rfl | ⟨more, rfl⟩
  · exact ends_nil
  · exact ends_cons (by decide)

/-- Groups with a colon before each are read off the front of a text. -/
theorem readGroups_later {room : Nat} {groups : List Nat} (few : groups.length ≤ room)
    (small : ∀ group ∈ groups, group < 65536) (closes : Closes rest) :
    readGroups room false (groups.flatMap (fun group => ':' :: Nat.toDigits 16 group) ++ rest) =
      ⟨groups, false, rest⟩ := by
  induction groups generalizing room with
  | nil =>
    rw [List.flatMap_nil, List.nil_append]
    cases room with
    | zero => rfl
    | succ room =>
      rw [readGroups]
      rcases closes.2 with rfl | ⟨more, rfl⟩
      · rfl
      · have ends : Ends 16 (':' :: more) := ends_cons (by decide)
        simp only [Bool.false_eq_true, if_false, readChar?_cons, ite_self,
          ends.decimal.readDotted?_eq_none, readNumeral?_eq_none ends]
  | cons group groups ih =>
    cases room with
    | zero => exact absurd few (Nat.not_succ_le_zero _)
    | succ room =>
      obtain ⟨first, others⟩ := List.forall_mem_cons.mp small
      have ends : Ends 16 (groups.flatMap (fun group => ':' :: Nat.toDigits 16 group) ++ rest) := by
        cases groups with
        | nil => exact closes.ends
        | cons next groups => exact ends_cons (by decide)
      have plain : '.' ∉ separated 16 ':' (group :: groups) :=
        notMem_separated (by decide) (by decide) (by decide) (by decide) _
      have octets := readDotted?_eq_none (List.not_mem_append plain closes.1)
      rw [separated_cons, List.append_assoc] at octets
      obtain ⟨digits, read, value, _⟩ :=
        @readNumeral?_toDigits 16 4 _ (by decide) (by decide) (by decide) group (by omega) ends
      rw [List.flatMap_cons, List.cons_append, List.cons_append, List.append_assoc, readGroups]
      simp only [Bool.false_eq_true, if_false, readChar?_cons, octets, ite_self, read, value,
        ih (Nat.le_of_succ_le_succ few) others]

/-- Whether a colon comes before groups plays no part in what is read, if any are. -/
theorem readGroups_first {room : Nat} {cs : List Char}
    (some_group : (readGroups room false (':' :: cs)).groups ≠ []) :
    readGroups room true cs = readGroups room false (':' :: cs) := by
  cases room with
  | zero => exact absurd rfl some_group
  | succ room =>
    rw [readGroups] at some_group ⊢
    rw [readGroups]
    simp only [Bool.false_eq_true, if_false, if_true, readChar?_cons] at some_group ⊢
    split at some_group
    next => rfl
    next =>
      split at some_group
      next => exact absurd rfl some_group
      next => rfl

/-- The text of groups is read off the front of a text, all of them or as many as there are. -/
theorem readGroups_colonSeparated {room : Nat} {groups : List Nat} (few : groups.length ≤ room)
    (small : ∀ group ∈ groups, group < 65536) (closes : Closes rest) :
    readGroups room true ((colonSeparated groups).toList ++ rest) = ⟨groups, false, rest⟩ := by
  rw [toList_colonSeparated]
  cases groups with
  | nil =>
    exact closes.ends.readGroups room
  | cons group groups =>
    have read := readGroups_later few small closes
    rw [List.flatMap_cons, List.cons_append, List.cons_append, ← separated_cons] at read
    refine (readGroups_first ?_).trans read
    rw [read]
    exact List.cons_ne_nil group groups

/-- Eight groups are an address. -/
theorem readCompressed?_full {groups : List Nat} (all : groups.length = 8)
    (small : ∀ group ∈ groups, group < 65536) :
    readCompressed? (colonSeparated groups).toList = some (ofGroups groups, []) := by
  have read := @readGroups_colonSeparated [] 8 groups (Nat.le_of_eq all) small ⟨by simp, Or.inl rfl⟩
  rw [List.append_nil] at read
  rw [readCompressed?, read]
  exact if_pos all

/-- Groups around a double colon are an address, with zeros in its place. -/
theorem readCompressed?_of_reads {cs : List Char} {before : List Nat} {after : GroupsRead}
    (head : readGroups 8 true cs = ⟨before, false, ':' :: ':' :: rest⟩) (short : before.length ≠ 8)
    (tail : readGroups (7 - before.length) true rest = after) :
    readCompressed? cs =
      some (ofGroups (before ++ List.replicate (8 - before.length - after.groups.length) 0 ++
        after.groups), after.rest) := by
  rw [readCompressed?, head]
  simp only [short, if_false, Bool.false_eq_true, Option.bind_eq_bind, readChar?_cons,
    Option.bind_some, tail]

theorem readCompressed?_shortened {before after : List Nat}
    (room : before.length + after.length ≤ 6) (small : ∀ group ∈ before ++ after, group < 65536) :
    readCompressed? (colonSeparated before ++ "::" ++ colonSeparated after).toList =
      some (ofGroups (before ++ List.replicate (8 - before.length - after.length) 0 ++ after),
        []) := by
  obtain ⟨small_before, small_after⟩ := List.forall_mem_append.mp small
  have plain : '.' ∉ (colonSeparated after).toList := by
    rw [toList_colonSeparated]
    exact notMem_separated (by decide) (by decide) (by decide) (by decide) _
  have closes : Closes (':' :: ':' :: (colonSeparated after).toList) :=
    ⟨by simp [plain], Or.inr ⟨_, rfl⟩⟩
  have head := @readGroups_colonSeparated _ 8 before (by omega) small_before closes
  have tail := @readGroups_colonSeparated [] (7 - before.length) after (by omega) small_after
    ⟨by simp, Or.inl rfl⟩
  rw [List.append_nil] at tail
  have chars : (colonSeparated before ++ "::" ++ colonSeparated after).toList =
      (colonSeparated before).toList ++ ':' :: ':' :: (colonSeparated after).toList := by
    simp [String.toList_append]
  rw [chars]
  exact readCompressed?_of_reads head (by omega) tail

end Readers

/-! ## Addresses -/

/-- There are zeros from `start` on, as many as `length` says. -/
def IsZeroRun (groups : List Nat) (start length : Nat) : Prop :=
  start + length ≤ groups.length ∧ (groups.drop start).take length = List.replicate length 0

theorem isZeroRun_longest (groups : List Nat) :
    IsZeroRun groups (longestZeroRun groups).1 (longestZeroRun groups).2 := by
  rw [longestZeroRun]
  refine List.foldlRecOn (motive := fun run : Nat × Nat => IsZeroRun groups run.1 run.2) _ _
    ⟨Nat.zero_le _, rfl⟩ fun best holds start member => ?_
  dsimp only
  split
  next =>
    have leading := List.takeWhile_prefix (l := groups.drop start) (· == 0)
    have fits := leading.length_le
    rw [List.length_drop] at fits
    have inside := List.mem_range.mp member
    refine ⟨by omega, ?_⟩
    rw [← List.prefix_iff_eq_take.mp leading]
    refine List.eq_replicate_iff.mpr ⟨rfl, fun group zero => ?_⟩
    simpa using List.mem_takeWhile_imp zero
  next => exact holds

theorem group_lt {bits : BitVec 128} {group : Nat} (member : group ∈ groups bits) :
    group < 65536 := by
  obtain ⟨shift, _, rfl⟩ := List.mem_map.mp member
  exact Nat.mod_lt _ (by decide)

theorem ofGroups_groups (bits : BitVec 128) : ofGroups (groups bits) = v6 bits := by
  have value : ofDigits 65536 (groups bits) = bits.toNat := by
    simp only [ofDigits, groups, List.map_cons, List.map_nil, List.foldl_cons, List.foldl_nil,
      Nat.shiftRight_eq_div_pow]
    have := bits.isLt
    omega
  rw [ofGroups, value, BitVec.ofNat_toNat, BitVec.setWidth_eq]

/-- An address that no IPv4 address is inside of reads back. -/
theorem readCompressed?_compressed {bits : BitVec 128} (plain : mapped? bits = none) :
    readCompressed? (compressed bits).toList = some (v6 bits, []) := by
  have eight : (groups bits).length = 8 := rfl
  have small : ∀ group ∈ groups bits, group < 65536 := fun group => group_lt
  have run := isZeroRun_longest (groups bits)
  rw [compressed, plain, ← ofGroups_groups]
  generalize longestZeroRun (groups bits) = best at run ⊢
  generalize groups bits = groups at *
  obtain ⟨start, length⟩ := best
  obtain ⟨inside, zeros⟩ := run
  dsimp only at inside zeros ⊢
  split
  next long =>
    have parts : groups.take start ++ List.replicate length 0 ++ groups.drop (start + length) =
        groups := by
      rw [← zeros, List.append_assoc, ← List.drop_drop, List.take_append_drop,
        List.take_append_drop]
    have before : (groups.take start).length = start := List.length_take_of_le (by omega)
    have after : (groups.drop (start + length)).length = 8 - (start + length) := by
      rw [List.length_drop, eight]
    have rest : 8 - start - (8 - (start + length)) = length := by omega
    rw [readCompressed?_shortened (by omega) fun group member => small group ?_, before, after,
      rest, parts]
    exact (List.mem_append.mp member).elim List.mem_of_mem_take List.mem_of_mem_drop
  next => exact readCompressed?_full eight small

/-- An address that an IPv4 address is inside of reads back. -/
theorem readCompressed?_mapped {bits : BitVec 128} {inner : BitVec 32}
    (mapped : mapped? bits = some inner) :
    readCompressed? (compressed bits).toList = some (v6 bits, []) := by
  rw [mapped?] at mapped
  split at mapped
  next marked =>
    cases mapped
    have chars : ("::ffff:" ++ dotted (bits.truncate 32)).toList =
        ':' :: ':' :: ([15, 15, 15, 15].map Nat.digitChar ++
          ':' :: (dotted (bits.truncate 32)).toList) := by
      rw [String.toList_append]
      rfl
    have ends : ∀ rest, Ends 16 (':' :: rest) := fun rest => ends_cons (by decide)
    have letters : ∀ rest, Ends 10 ([15, 15, 15, 15].map Nat.digitChar ++ rest) :=
      fun rest => ends_cons (by decide)
    have octets := readDotted?_dotted (bits.truncate 32) ends_nil
    have group : readNumeral? 16 4 ([15, 15, 15, 15].map Nat.digitChar ++
        ':' :: (dotted (bits.truncate 32)).toList) =
          some ([15, 15, 15, 15], ':' :: (dotted (bits.truncate 32)).toList) :=
      readNumeral?_digits (by decide) (by decide) (by decide) (by decide) (ends _)
    rw [List.append_nil] at octets
    have tail : readGroups 7 true ([15, 15, 15, 15].map Nat.digitChar ++
        ':' :: (dotted (bits.truncate 32)).toList) =
          ⟨[65535, (bits.truncate 32).toNat / 65536, (bits.truncate 32).toNat % 65536], true,
            []⟩ := by
      rw [readGroups]
      simp only [if_true, (letters _).readDotted?_eq_none, ite_self, group]
      rw [readGroups]
      simp only [Bool.false_eq_true, if_false, readChar?_cons, octets]
      rfl
    have value : ofDigits 65536 ([] ++ List.replicate 5 0 ++ [65535,
        (bits.truncate 32).toNat / 65536, (bits.truncate 32).toNat % 65536]) = bits.toNat := by
      have high := congrArg BitVec.toNat marked
      simp [ofDigits, Nat.shiftRight_eq_div_pow] at high ⊢
      omega
    rw [compressed, mapped?, if_pos marked, chars,
      readCompressed?_of_reads ((ends _).readGroups 8) (by decide) tail]
    exact congrArg (fun number => some (v6 (BitVec.ofNat 128 number), _)) value |>.trans (by simp)
  next => cases mapped

/-- Where no IPv4 address is inside, the text is made of digits and colons. -/
theorem notMem_compressed {bits : BitVec 128} (plain : mapped? bits = none) {c : Char}
    (other : digitBelow? 16 c = none) (colon : c ≠ ':') : c ∉ (compressed bits).toList := by
  have part : ∀ groups, c ∉ (colonSeparated groups).toList := fun groups => by
    rw [toList_colonSeparated]
    exact notMem_separated (by decide) (by decide) colon other groups
  rw [compressed, plain]
  dsimp only
  split
  · simp [String.toList_append, part, colon]
  · exact part _

/-- The text of an address is made of digits, colons and points. -/
theorem notMem_text (address : Address) {c : Char} (other : digitBelow? 16 c = none)
    (colon : c ≠ ':') (point : c ≠ '.') : c ∉ address.text.toList := by
  have octets : ∀ bits, c ∉ (dotted bits).toList := fun bits => by
    rw [toList_dotted]
    exact notMem_separated (by decide) (by decide) point (digitBelow?_decimal other) _
  cases address with
  | v4 bits => exact octets bits
  | v6 bits =>
    cases mapped : mapped? bits with
    | none => exact notMem_compressed mapped other colon
    | some inner =>
      have letter : c ≠ 'f' := fun same => by
        rw [same] at other
        cases other
      rw [text, compressed, mapped]
      simp [String.toList_append, octets, colon, letter]

/-- No text of an IPv6 address starts like one of an IPv4 address. -/
theorem readDotted?_compressed (bits : BitVec 128) :
    readDotted? (compressed bits).toList = none := by
  cases mapped : mapped? bits with
  | none => exact readDotted?_eq_none (notMem_compressed mapped (by decide) (by decide))
  | some inner =>
    rw [compressed, mapped, String.toList_append]
    exact Ends.readDotted?_eq_none (ends_cons (by decide))

/-- The text of every address is read as that address. -/
theorem parse?_text (address : Address) : parse? address.text = some address := by
  have read : read? address.text.toList = some (address, []) := by
    cases address with
    | v4 bits =>
      have octets := readDotted?_dotted bits ends_nil
      rw [List.append_nil] at octets
      rw [text, read?, octets]
      simp
    | v6 bits =>
      rw [text, read?, readDotted?_compressed]
      cases mapped : mapped? bits with
      | none => exact readCompressed?_compressed mapped
      | some inner => exact readCompressed?_mapped mapped
  rw [parse?, read]

theorem text_injective : Function.Injective text := fun address other same =>
  Option.some.inj ((parse?_text address).symm.trans (same ▸ parse?_text other))

end Address

namespace Network

/-- The text of a network tells the address and the length. -/
theorem text_injective : Function.Injective text := by
  intro network other same
  have slash : ∀ address : Address, '/' ∉ address.text.toList := fun address =>
    address.notMem_text (by decide) (by decide) (by decide)
  have numeral : ∀ n, '/' ∉ Nat.toDigits 10 n :=
    Text.notMem_toDigits (by decide) (by decide) (by decide)
  have chars : ∀ network : Network, network.text.toList =
      network.address.text.toList ++ '/' :: Nat.toDigits 10 network.length := fun network => by
    rw [← Nat.toList_repr]
    simp [text, String.toList_append, toString]
  have parts := congrArg String.toList same
  rw [chars, chars, List.append_cons_inj_of_notMem (slash _) (numeral _)] at parts
  obtain ⟨first, _, last⟩ := parts
  have address := Address.text_injective (String.toList_injective first)
  have length : network.length = other.length := by
    rw [← @Nat.ofDigitChars_toDigits 10 network.length (by decide) (by decide), last,
      Nat.ofDigitChars_toDigits (by decide) (by decide)]
  cases network <;> cases other <;> cases address
  · exact congrArg _ (Fin.ext length)
  · exact congrArg _ (Fin.ext length)

end Network

end TrafficPolicy
