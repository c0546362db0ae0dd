import Mathlib.Algebra.Group.Int.Defs
import Mathlib.Algebra.Group.Nat.Defs
import NotebookKernel.Text.Scalar
import NotebookKernel.Proofs.Text.Digits
import NotebookKernel.Proofs.Text.Words

/-!
Scalars are read as they are shown, and nothing else is read.

A debugger prints a pointer in hexadecimal and an integer in decimal, perhaps behind words that say
something about its type. The word that counts is the first one that starts like a number, and it is
a scalar when it is a numeral for 64 bits (`Text.ScalarWord`). Exactly the texts with such a word
are read (`Text.scalar?_eq_some_iff`). `Text.ShowsWord` is the shape of a text with words in front:
addresses and counts in it are read as the 64 bits that the number stands for
(`Text.scalar?_address` and `Text.scalar?_signed`).
-/

namespace NotebookKernel.Text

/-! ## The word that counts -/

/-- The word starts with an ASCII digit or a minus sign. -/
def StartsNumber (word : List Char) : Prop :=
  ∃ c, word.head? = some c ∧ (c.isDigit = true ∨ c = '-')

theorem startsScalar_iff {word : List Char} : startsScalar word = true ↔ StartsNumber word := by
  cases word with
  | nil => simp [startsScalar, StartsNumber]
  | cons c cs =>
    have digit : Numeral.isDigit c = c.isDigit := by
      rw [Bool.eq_iff_iff]
      simp [Numeral.isDigit, Char.isDigit, Char.le_def, UInt32.le_iff_toNat_le]
    simp [startsScalar, StartsNumber, digit]

/-- White space and words that do not look like numbers come first, and then the given word. -/
inductive ShowsWord (word : List Char) : List Char → Prop
  | here {rest : List Char} : Parted rest → ShowsWord word (word ++ rest)
  | blank {c : Char} {text : List Char} :
    isBlank c = true → ShowsWord word text → ShowsWord word (c :: text)
  | skip {other text : List Char} :
    other ≠ [] → (∀ c ∈ other, isBlank c = false) →
      (∀ c, other.head? = some c → Numeral.isDigit c = false ∧ c ≠ '-') →
      Parted text → ShowsWord word text → ShowsWord word (other ++ text)

/-- The word that looks like a number is the one that is found. -/
theorem ShowsWord.find? {word text : List Char} (shows_ : ShowsWord word text) (some_ : word ≠ [])
    (solid : ∀ c ∈ word, isBlank c = false) (starts : startsScalar word = true) :
    (words text).find? startsScalar = some word := by
  induction shows_ with
  | here parted => rw [words_append some_ solid parted, List.find?_cons_of_pos starts]
  | blank blank _ ih =>
    rw [words_blank blank]
    exact ih
  | @skip other text some_ solid unlike parted _ ih =>
    have other_ : startsScalar other = false := by
      cases other with
      | nil => rfl
      | cons c cs =>
        obtain ⟨digit, minus⟩ := unlike c rfl
        simp [startsScalar, digit, minus]
    rw [words_append some_ solid parted, List.find?_cons_of_neg (by simp [other_])]
    exact ih

/-! ## Words that are scalars -/

theorem not_isBlank_of_visible {c : Char} (visible : 0x21 ≤ c.toNat ∧ c.toNat ≤ 0x7e) :
    isBlank c = false := by
  unfold isBlank
  simp only [Bool.or_eq_false_iff, Bool.and_eq_false_iff, decide_eq_false_iff_not]
  omega

theorem not_isBlank_of_isDigit {c : Char} (digit : Numeral.isDigit c = true) :
    isBlank c = false := by
  have range := Numeral.toNat_of_isDigit digit
  exact not_isBlank_of_visible (by omega)

/-- A numeral is a word that is found. -/
theorem found_of_natural? {word : List Char} {n : Nat} (reads : Numeral.natural? word = some n) :
    word ≠ [] ∧ (∀ c ∈ word, isBlank c = false) ∧ startsScalar word = true := by
  obtain ⟨some_, digits⟩ := Numeral.digits_of_natural? reads
  refine ⟨some_, fun c mem => not_isBlank_of_isDigit (digits c mem), ?_⟩
  cases word with
  | nil => exact absurd rfl some_
  | cons c cs =>
    simp [startsScalar, digits c List.mem_cons_self]

section Digits

variable {word digits : List Char} {n : Nat}

/-- A word of digits does not look like a hexadecimal number. -/
theorem scalarOfWord?_of_digits (decimal : ∀ c ∈ word.tail, Numeral.isDigit c = true) :
    scalarOfWord? word =
      match Numeral.signedBelow? (Nat.pow 2 63) word with
      | some n => some (n % Int.pow 2 64).toNat
      | none => Numeral.below? (Nat.pow 2 64) word := by
  unfold scalarOfWord?
  split
  · exact absurd (decimal 'x' List.mem_cons_self) (by decide)
  · exact absurd (decimal 'X' List.mem_cons_self) (by decide)
  · rfl

/-- A natural number of 64 bits is read as itself. -/
theorem scalarOfWord?_natural (reads : Numeral.natural? word = some n) (small : n < 2 ^ 64) :
    scalarOfWord? word = some n := by
  obtain ⟨some_, digits⟩ := Numeral.digits_of_natural? reads
  have plus : '+' ∉ word := fun mem => absurd (digits _ mem) (by decide)
  have minus : '-' ∉ word := fun mem => absurd (digits _ mem) (by decide)
  have below : ∀ bound, Numeral.below? bound word = if n < bound then some n else none := by
    intro bound
    unfold Numeral.below?
    rw [Numeral.dropPlus_of_digits plus, reads]
    simp [Option.filter]
  have signed : Numeral.signedBelow? (Nat.pow 2 63) word =
      (Numeral.below? (Nat.pow 2 63) word).map fun n => (n : Int) := by
    unfold Numeral.signedBelow?
    split
    · exact absurd List.mem_cons_self minus
    · rfl
  rw [scalarOfWord?_of_digits fun c mem => digits c (List.mem_of_mem_tail mem), signed, below,
    below]
  have bound : n < Nat.pow 2 64 := small
  by_cases half : n < Nat.pow 2 63
  · rw [if_pos half]
    change some ((n : Int) % Int.pow 2 64).toNat = some n
    have range : (n : Int) < 2 ^ 64 := by omega
    have whole : (n : Int) % Int.pow 2 64 = n := Int.emod_eq_of_lt (by omega) range
    rw [whole, Int.toNat_natCast]
  · rw [if_neg half, if_pos bound]
    rfl

theorem scalarOfWord?_negative (reads : Numeral.natural? digits = some n) (small : n ≤ 2 ^ 63) :
    scalarOfWord? ('-' :: digits) = some (-(n : Int) % 2 ^ 64).toNat := by
  have tail : ∀ c ∈ ('-' :: digits).tail, Numeral.isDigit c = true :=
    (Numeral.digits_of_natural? reads).2
  have bound : n ≤ Nat.pow 2 63 := small
  have kept : (some n).filter (· ≤ Nat.pow 2 63) = some n := if_pos (decide_eq_true bound)
  rw [scalarOfWord?_of_digits tail, Numeral.signedBelow?, reads, kept]
  rfl

end Digits

/-- The words that are scalars, and the 64 bits of each: a hexadecimal numeral for them, or a
decimal numeral for a number that has them as an unsigned word or as a two's complement. -/
inductive ScalarWord : List Char → Nat → Prop
  | hexadecimal {mark : Char} {plus digits : List Char} {v : Nat} :
    mark = 'x' ∨ mark = 'X' → plus = [] ∨ plus = ['+'] →
      Numeral.Positional 16 (digits.map Char.toLower) v → v < 2 ^ 64 →
      ScalarWord ('0' :: mark :: (plus ++ digits)) v
  | decimal {word : List Char} {d : Int} :
    Numeral.Decimal word d → -2 ^ 63 ≤ d → d < 2 ^ 64 → ScalarWord word (d % 2 ^ 64).toNat

theorem ScalarWord.of_natural? {digits : List Char} {n : Nat}
    (reads : Numeral.natural? digits = some n) (small : n < 2 ^ 64) : ScalarWord digits n := by
  have numeral : Numeral.Decimal digits n := .natural (Numeral.positional_ten_iff.mpr reads)
  have itself : ((n : Int) % 2 ^ 64).toNat = n := by omega
  have scalar := ScalarWord.decimal numeral (by omega) (by omega)
  rwa [itself] at scalar

/-- Zeros in front do not count, and neither does the case of the digits. -/
theorem ScalarWord.of_hexadecimal {a zeros : Nat} {mark : Char} {digits : List Char}
    (small : a < 2 ^ 64) (mark_ : mark = 'x' ∨ mark = 'X')
    (shown : digits.map Char.toLower = List.replicate zeros '0' ++ Nat.toDigits 16 a) :
    ScalarWord ('0' :: mark :: digits) a := by
  have some_ : digits ≠ [] := by
    rintro rfl
    simp at shown
  have reads : Numeral.hexFrom? 0 digits = some a := by
    rw [← Numeral.hexFrom?_toLower, shown, Numeral.hexFrom?_zeros, Numeral.hexFrom?_toDigits]
  have value := Numeral.positional_sixteen_iff.mpr ⟨some_, reads⟩
  exact @ScalarWord.hexadecimal mark [] digits a mark_ (.inl rfl) value small

theorem dropPlus_of_startsScalar {word : List Char} (starts : startsScalar word = true) :
    Numeral.dropPlus word = word := by
  unfold Numeral.dropPlus
  split
  · exact absurd starts Bool.false_ne_true
  · rfl

theorem scalarWord_of_scalarOfWord? {word : List Char} {v : Nat}
    (starts : startsScalar word = true) (reads : scalarOfWord? word = some v) :
    ScalarWord word v := by
  -- the readers of numerals would take a plus sign, but a word with one in front does not count
  have unsigned := dropPlus_of_startsScalar starts
  unfold scalarOfWord? at reads
  split at reads
  · obtain ⟨plus, digits, rfl, sign, value, small⟩ := Numeral.hexBelow?_eq_some_iff.mp reads
    exact .hexadecimal (.inl rfl) sign value small
  · obtain ⟨plus, digits, rfl, sign, value, small⟩ := Numeral.hexBelow?_eq_some_iff.mp reads
    exact .hexadecimal (.inr rfl) sign value small
  · split at reads
    · next d signed =>
      obtain rfl := Option.some.inj reads
      obtain ⟨numeral, lower, upper⟩ := Numeral.decimal_of_signedBelow? unsigned signed
      have half : Nat.pow 2 63 = 2 ^ 63 := rfl
      rw [half] at lower upper
      exact .decimal numeral (by omega) (by omega)
    · rw [Numeral.below?, unsigned] at reads
      obtain ⟨value, small⟩ := Option.filter_eq_some_iff.mp reads
      exact .of_natural? value (of_decide_eq_true small)

theorem scalarOfWord?_of_scalarWord {word : List Char} {v : Nat} (scalar : ScalarWord word v) :
    scalarOfWord? word = some v := by
  cases scalar with
  | @hexadecimal mark plus digits v mark_ sign value small =>
    have reads : Numeral.hexBelow? (Nat.pow 2 64) (plus ++ digits) = some v :=
      Numeral.hexBelow?_eq_some_iff.mpr ⟨plus, digits, rfl, sign, value, small⟩
    obtain rfl | rfl := mark_
    · exact reads
    · exact reads
  | decimal numeral lower upper =>
    cases numeral with
    | natural value =>
      rw [scalarOfWord?_natural (Numeral.positional_ten_iff.mp value) (by omega)]
      exact congrArg some (by omega)
    | negative value =>
      exact scalarOfWord?_negative (Numeral.positional_ten_iff.mp value) (by omega)

/-- A scalar is a word that counts. -/
theorem ScalarWord.found {word : List Char} {v : Nat} (scalar : ScalarWord word v) :
    word ≠ [] ∧ (∀ c ∈ word, isBlank c = false) ∧ startsScalar word = true := by
  cases scalar with
  | @hexadecimal mark plus digits v mark_ sign value small =>
    refine ⟨List.cons_ne_nil _ _, fun c mem => ?_, rfl⟩
    rcases List.mem_cons.mp mem with rfl | mem
    · decide
    rcases List.mem_cons.mp mem with rfl | mem
    · obtain rfl | rfl := mark_ <;> decide
    rcases List.mem_append.mp mem with mem | mem
    · obtain rfl | rfl := sign
      · cases mem
      · obtain rfl := List.mem_singleton.mp mem
        decide
    · have reads := (Numeral.positional_sixteen_iff.mp value).2
      have range := Numeral.visible_of_hexDigit? (Numeral.hexDigit?_isSome_of_hexFrom? reads c mem)
      exact not_isBlank_of_visible (by omega)
  | decimal numeral lower upper =>
    cases numeral with
    | natural value => exact found_of_natural? (Numeral.positional_ten_iff.mp value)
    | negative value =>
      obtain ⟨-, solid, -⟩ := found_of_natural? (Numeral.positional_ten_iff.mp value)
      exact ⟨List.cons_ne_nil _ _, List.forall_mem_cons.mpr ⟨by decide, solid⟩, rfl⟩

/-- A scalar is read wherever it is shown. -/
theorem ScalarWord.shown {word text : List Char} {v : Nat} (scalar : ScalarWord word v)
    (shows_ : ShowsWord word text) : scalar? text = some v := by
  obtain ⟨some_, solid, starts⟩ := scalar.found
  rw [scalar?, shows_.find? some_ solid starts]
  exact scalarOfWord?_of_scalarWord scalar

/-! ## Addresses and counts -/

/-- The texts of an address: hexadecimal, in digits of either case, or decimal; zeros may come
first. -/
inductive AddressText (a : Nat) : List Char → Prop
  | hexadecimal {digits : List Char} (zeros : Nat) :
    digits.map Char.toLower = List.replicate zeros '0' ++ Nat.toDigits 16 a →
      AddressText a ('0' :: 'x' :: digits)
  | decimal (zeros : Nat) : AddressText a (List.replicate zeros '0' ++ Numeral.decimal a)

/-- The texts of an integer: decimal, with a sign if it is negative; zeros may come first. -/
inductive IntegerText (n : Int) : List Char → Prop
  | natural (zeros : Nat) :
    0 ≤ n → IntegerText n (List.replicate zeros '0' ++ Numeral.decimal n.natAbs)
  | negative (zeros : Nat) :
    n < 0 → IntegerText n ('-' :: (List.replicate zeros '0' ++ Numeral.decimal n.natAbs))

theorem AddressText.scalarWord {a : Nat} {word : List Char} (shown : AddressText a word)
    (small : a < 2 ^ 64) : ScalarWord word a := by
  cases shown with
  | hexadecimal zeros lower => exact .of_hexadecimal small (.inl rfl) lower
  | decimal zeros => exact .of_natural? (Numeral.natural?_zeros zeros a) small

theorem IntegerText.decimal {n : Int} {word : List Char} (shown : IntegerText n word) :
    Numeral.Decimal word n := by
  cases shown with
  | natural zeros nonneg =>
    have sign : (n.natAbs : Int) = n := by omega
    have value := Numeral.positional_ten_iff.mpr (Numeral.natural?_zeros zeros n.natAbs)
    have numeral := Numeral.Decimal.natural value
    rwa [sign] at numeral
  | negative zeros below =>
    have sign : -(n.natAbs : Int) = n := by omega
    have value := Numeral.positional_ten_iff.mpr (Numeral.natural?_zeros zeros n.natAbs)
    have numeral := Numeral.Decimal.negative value
    rwa [sign] at numeral

/-- An address of 64 bits is read as it is shown. -/
theorem scalar?_address {a : Nat} {word text : List Char} (small : a < 2 ^ 64)
    (shown : AddressText a word) (shows_ : ShowsWord word text) : scalar? text = some a :=
  (shown.scalarWord small).shown shows_

/-- A signed integer of 64 bits is read as its two's complement. -/
theorem scalar?_signed {n : Int} {word text : List Char} (lower : -2 ^ 63 ≤ n) (upper : n < 2 ^ 63)
    (shown : IntegerText n word) (shows_ : ShowsWord word text) :
    scalar? text = some (n % 2 ^ 64).toNat :=
  (ScalarWord.decimal shown.decimal lower (by omega)).shown shows_

/-! ## The texts that are read -/

/-- Exactly the texts whose word for a number is a scalar are read. -/
theorem scalar?_eq_some_iff {text : List Char} {v : Nat} :
    scalar? text = some v ↔ ∃ word, FirstWord StartsNumber text word ∧ ScalarWord word v := by
  have kinds : (fun word => startsScalar word = true) = StartsNumber :=
    funext fun word => propext startsScalar_iff
  rw [scalar?, Option.bind_eq_some_iff]
  constructor
  · rintro ⟨word, found, reads⟩
    have starts := List.find?_some found
    rw [find?_words_eq_some_iff, kinds] at found
    exact ⟨word, found, scalarWord_of_scalarOfWord? starts reads⟩
  · rintro ⟨word, first, scalar⟩
    rw [← kinds, ← find?_words_eq_some_iff] at first
    exact ⟨word, first, scalarOfWord?_of_scalarWord scalar⟩

theorem ScalarWord.read {word : List Char} {v : Nat} (scalar : ScalarWord word v) :
    scalar? word = some v := by
  have alone : ShowsWord word (word ++ []) := .here nofun
  rw [List.append_nil] at alone
  exact scalar.shown alone

/-- The text of an integer is one of its decimal texts. -/
theorem integerText_signed (n : Int) : IntegerText n (Numeral.signed n) := by
  unfold Numeral.signed
  split
  · next below => exact .negative 0 below
  · next above => exact .natural 0 (Int.not_lt.mp above)

/-- The bits of a signed word are its two's complement. -/
theorem toNat_toUInt64 (n : Int64) : n.toUInt64.toNat = (n.toInt % 2 ^ 64).toNat := by
  have bits : n.toInt % 2 ^ 64 = (n.toUInt64.toNat : Int) % 2 ^ 64 := by
    change n.toBitVec.toInt % 2 ^ 64 = _
    rw [BitVec.toInt_eq_toNat_bmod]
    exact Int.bmod_emod
  have small := n.toUInt64.toNat_lt
  omega

/-- Exactly the scalars are read: the word that counts is the first one that starts with an ASCII
digit or a minus sign, and a text is read when that word is a scalar and refused when there is no
such word or it is none. So every word of 64 bits is read back from its decimal texts, signed and
unsigned, and from its hexadecimal texts. -/
theorem scalar?_accepts_exactly :
    (∀ (text : List Char) (v : Nat),
      scalar? text = some v ↔ ∃ word, FirstWord StartsNumber text word ∧ ScalarWord word v) ∧
    (∀ text : List Char,
      scalar? text = none ↔ ∀ word, FirstWord StartsNumber text word → ∀ v, ¬ScalarWord word v) ∧
    (∀ n : Int64, scalar? (Numeral.signed n.toInt) = some n.toUInt64.toNat) ∧
    (∀ a : UInt64, scalar? (Numeral.decimal a.toNat) = some a.toNat) ∧
    (∀ (a : UInt64) (mark : Char) (zeros : Nat) (digits : List Char),
      mark = 'x' ∨ mark = 'X' →
      digits.map Char.toLower = List.replicate zeros '0' ++ Nat.toDigits 16 a.toNat →
      scalar? ('0' :: mark :: digits) = some a.toNat) := by
  refine ⟨fun text v => scalar?_eq_some_iff, fun text => ?_, fun n => ?_, fun a => ?_,
    fun a mark zeros digits mark_ shown => ?_⟩
  · rw [Option.eq_none_iff_forall_ne_some]
    constructor
    · intro refused word first v scalar
      exact refused v (scalar?_eq_some_iff.mpr ⟨word, first, scalar⟩)
    · intro none_ v reads
      obtain ⟨word, first, scalar⟩ := scalar?_eq_some_iff.mp reads
      exact none_ word first v scalar
  · have upper := n.toInt_lt
    have numeral := (integerText_signed n.toInt).decimal
    rw [toNat_toUInt64]
    exact (ScalarWord.decimal numeral n.le_toInt (by omega)).read
  · exact (ScalarWord.of_natural? (Numeral.natural?_decimal a.toNat) a.toNat_lt).read
  · exact (ScalarWord.of_hexadecimal a.toNat_lt mark_ shown).read

theorem scalar?_accepts_exactly_mixed_case :
    "00007fFEE0001000".toList.map Char.toLower =
        List.replicate 4 '0' ++ Nat.toDigits 16 (0x7ffee0001000 : UInt64).toNat ∧
      scalar? "0X00007fFEE0001000".toList = some 0x7ffee0001000 := by
  have shown : "00007fFEE0001000".toList.map Char.toLower =
      List.replicate 4 '0' ++ Nat.toDigits 16 (0x7ffee0001000 : UInt64).toNat := by
    decide
  exact ⟨shown, scalar?_accepts_exactly.2.2.2.2 0x7ffee0001000 'X' 4 _ (.inr rfl) shown⟩

example : scalar? "(Int) -9223372036854775808".toList = some 0x8000000000000000 := by decide

example : scalar? "-9223372036854775809 7".toList = none := by decide

end NotebookKernel.Text
