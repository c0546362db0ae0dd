import Mathlib.Data.Nat.Digits.Defs
import NotebookKernel.Proofs.Text.Numeral

/-!
Numerals by the places of their digits.

A numeral stands for the sum of what its digits are worth where they stand (`Numeral.Positional`).
Hexadecimal and decimal numerals are read exactly when they are numerals in this sense, and as the
number they stand for (`Numeral.positional_sixteen_iff`, `Numeral.positional_ten_iff`).
-/

namespace NotebookKernel.Numeral

/-! ## Hexadecimal digits and leading zeros -/

theorem hexFrom?_append (front back : List Char) (start : Nat) :
    hexFrom? start (front ++ back) = (hexFrom? start front).bind (hexFrom? · back) := by
  induction front generalizing start with
  | nil => rfl
  | cons c cs ih =>
    rw [List.cons_append, hexFrom?, hexFrom?]
    cases hexDigit? c with
    | none => rfl
    | some d => exact ih _

theorem hexDigit?_digitChar {d : Nat} (small : d < 16) : hexDigit? (Nat.digitChar d) = some d := by
  have all : ∀ d : Fin 16, hexDigit? (Nat.digitChar d) = some d.val := by decide
  exact all ⟨d, small⟩

theorem hexFrom?_toDigits (n : Nat) : hexFrom? 0 (Nat.toDigits 16 n) = some n := by
  induction n using Nat.strongRecOn with
  | ind n ih =>
    rcases Nat.lt_or_ge n 16 with small | large
    · rw [Nat.toDigits_of_lt_base small, hexFrom?, hexDigit?_digitChar small]
      simp [hexFrom?]
    · have last : n % 16 < 16 := Nat.mod_lt n (by decide)
      rw [Nat.toDigits_of_base_le (by decide) large, hexFrom?_append,
        ih (n / 16) (Nat.div_lt_self (by omega) (by decide)), Option.bind_some, hexFrom?,
        hexDigit?_digitChar last]
      simp only [hexFrom?, Option.some.injEq]
      omega

theorem hexFrom?_zeros (zeros : Nat) (digits : List Char) :
    hexFrom? 0 (List.replicate zeros '0' ++ digits) = hexFrom? 0 digits := by
  have zero : hexDigit? '0' = some 0 := by decide
  induction zeros with
  | zero => rfl
  | succ zeros ih =>
    rw [List.replicate_succ, List.cons_append, hexFrom?, zero]
    exact ih

/-- Digits of either case mean the same. -/
theorem hexDigit?_toLower (c : Char) : hexDigit? c.toLower = hexDigit? c := by
  by_cases upper : 65 ≤ c.toNat ∧ c.toNat ≤ 90
  · have all : ∀ i : Fin 26,
        hexDigit? (Char.ofNat (65 + i)).toLower = hexDigit? (Char.ofNat (65 + i)) := by
      decide
    have letter := all ⟨c.toNat - 65, by omega⟩
    rw [show 65 + (c.toNat - 65) = c.toNat by omega, Char.ofNat_toNat] at letter
    exact letter
  · have same : c.toLower = c := by
      unfold Char.toLower
      rw [dif_neg]
      simpa [UInt32.le_iff_toNat_le] using upper
    rw [same]

theorem hexFrom?_toLower (digits : List Char) (start : Nat) :
    hexFrom? start (digits.map Char.toLower) = hexFrom? start digits := by
  induction digits generalizing start with
  | nil => rfl
  | cons c cs ih =>
    rw [List.map_cons, hexFrom?, hexFrom?, hexDigit?_toLower]
    cases hexDigit? c with
    | none => rfl
    | some d => exact ih _

theorem ofDigitChars_zeros (zeros : Nat) :
    Nat.ofDigitChars 10 (List.replicate zeros '0') 0 = 0 := by
  induction zeros with
  | zero => rfl
  | succ zeros ih => exact ih

theorem natural?_zeros (zeros n : Nat) :
    natural? (List.replicate zeros '0' ++ decimal n) = some n := by
  have digits : (List.replicate zeros '0' ++ decimal n).all isDigit = true := by
    rw [List.all_append, Bool.and_eq_true, List.all_eq_true, List.all_eq_true]
    refine ⟨fun c mem => ?_, fun c mem => isDigit_of_mem_decimal mem⟩
    rw [List.eq_of_mem_replicate mem]
    decide
  have some_ : List.replicate zeros '0' ++ decimal n ≠ [] := by
    simp [decimal_ne_nil]
  unfold natural?
  rw [if_pos ⟨some_, digits⟩, Nat.ofDigitChars_append, ofDigitChars_zeros]
  exact congrArg some Nat.ofDigitChars_ten_toDigits

/-- The characters of a numeral of either kind are visible. -/
theorem visible_of_hexDigit? {c : Char} (digit : (hexDigit? c).isSome = true) :
    0x30 ≤ c.toNat ∧ c.toNat ≤ 0x66 := by
  unfold hexDigit? at digit
  split at digit
  · next decimal =>
    have range := toNat_of_isDigit decimal
    omega
  · split at digit
    · next lower =>
      simp only [Bool.and_eq_true, decide_eq_true_eq, Char.le_def, UInt32.le_iff_toNat_le] at lower
      change 97 ≤ c.toNat ∧ c.toNat ≤ 102 at lower
      omega
    · split at digit
      · next upper =>
        simp only [Bool.and_eq_true, decide_eq_true_eq, Char.le_def,
          UInt32.le_iff_toNat_le] at upper
        change 65 ≤ c.toNat ∧ c.toNat ≤ 70 at upper
        omega
      · cases digit

theorem hexDigit?_isSome_of_hexFrom? {digits : List Char} {start n : Nat}
    (reads : hexFrom? start digits = some n) : ∀ c ∈ digits, (hexDigit? c).isSome = true := by
  induction digits generalizing start with
  | nil => exact List.forall_mem_nil _
  | cons c cs ih =>
    rw [hexFrom?] at reads
    cases digit : hexDigit? c with
    | none =>
      rw [digit] at reads
      cases reads
    | some d =>
      rw [digit] at reads
      exact List.forall_mem_cons.mpr ⟨by simp [digit], ih reads⟩

/-- A numeral has digits and nothing else. -/
theorem digits_of_natural? {word : List Char} {n : Nat} (reads : natural? word = some n) :
    word ≠ [] ∧ ∀ c ∈ word, isDigit c = true := by
  obtain ⟨some_, digits, -⟩ := natural?_eq_some_iff.mp reads
  exact ⟨some_, digits⟩

/-! ## Places -/

/-- Digits in lower case, each below the base, and the number they stand for: the last digit is
worth the least. -/
def Positional (base : Nat) (digits : List Char) (n : Nat) : Prop :=
  ∃ values : List Nat, values ≠ [] ∧ (∀ d ∈ values, d < base) ∧
    digits = values.map Nat.digitChar ∧ n = Nat.ofDigits base values.reverse

/-- The value of a numeral, read from the left. -/
theorem ofDigits_reverse (base : Nat) (values : List Nat) :
    Nat.ofDigits base values.reverse = values.foldl (fun n d => base * n + d) 0 := by
  rw [Nat.ofDigits_eq_foldr, List.foldr_reverse]
  simp only [Nat.cast_id, Nat.add_comm]

theorem hexDigit?_eq_some_iff {c : Char} {d : Nat} :
    hexDigit? c = some d ↔ d < 16 ∧ c.toLower = Nat.digitChar d := by
  constructor
  · intro digit
    have range := visible_of_hexDigit? (c := c) (by simp [digit])
    have all : ∀ i : Fin 0x67, ∀ d ∈ hexDigit? (Char.ofNat i),
        d < 16 ∧ (Char.ofNat i).toLower = Nat.digitChar d := by
      decide
    have here := all ⟨c.toNat, by omega⟩
    simp only [Char.ofNat_toNat] at here
    exact here d digit
  · rintro ⟨small, lower⟩
    rw [← hexDigit?_toLower, lower, hexDigit?_digitChar small]

theorem hexFrom?_eq_some_iff {digits : List Char} {start n : Nat} :
    hexFrom? start digits = some n ↔
      ∃ values : List Nat, (∀ d ∈ values, d < 16) ∧
        digits.map Char.toLower = values.map Nat.digitChar ∧
        n = values.foldl (fun n d => 16 * n + d) start := by
  constructor
  · intro reads
    induction digits generalizing start with
    | nil =>
      obtain rfl := Option.some.inj reads
      exact ⟨[], List.forall_mem_nil _, rfl, rfl⟩
    | cons c cs ih =>
      rw [hexFrom?] at reads
      cases digit : hexDigit? c with
      | none =>
        rw [digit] at reads
        cases reads
      | some d =>
        rw [digit] at reads
        obtain ⟨small, lower⟩ := hexDigit?_eq_some_iff.mp digit
        obtain ⟨values, smalls, lowers, value⟩ := ih reads
        refine ⟨d :: values, List.forall_mem_cons.mpr ⟨small, smalls⟩, ?_, value⟩
        rw [List.map_cons, List.map_cons, lower, lowers]
  · rintro ⟨values, smalls, lowers, rfl⟩
    induction values generalizing digits start with
    | nil =>
      obtain rfl := List.map_eq_nil_iff.mp lowers
      rfl
    | cons d values ih =>
      obtain ⟨c, cs, rfl, lower, lowers⟩ := List.map_eq_cons_iff.mp lowers
      obtain ⟨small, smalls⟩ := List.forall_mem_cons.mp smalls
      rw [hexFrom?, hexDigit?_eq_some_iff.mpr ⟨small, lower⟩]
      exact ih smalls lowers

/-- What is read as a hexadecimal numeral is one, in digits of either case. -/
theorem positional_sixteen_iff {digits : List Char} {n : Nat} :
    Positional 16 (digits.map Char.toLower) n ↔
      digits ≠ [] ∧ hexFrom? 0 digits = some n := by
  rw [hexFrom?_eq_some_iff]
  constructor
  · rintro ⟨values, some_, smalls, lowers, rfl⟩
    refine ⟨?_, values, smalls, lowers, ofDigits_reverse 16 values⟩
    rintro rfl
    exact some_ (List.map_eq_nil_iff.mp lowers.symm)
  · rintro ⟨some_, values, smalls, lowers, rfl⟩
    refine ⟨values, ?_, smalls, lowers, (ofDigits_reverse 16 values).symm⟩
    rintro rfl
    exact some_ (List.map_eq_nil_iff.mp lowers)

theorem digitChar_ten {d : Nat} (small : d < 10) :
    isDigit (Nat.digitChar d) = true ∧ (Nat.digitChar d).toNat - '0'.toNat = d := by
  have all : ∀ d : Fin 10, isDigit (Nat.digitChar d) = true ∧
      (Nat.digitChar d).toNat - '0'.toNat = d := by
    decide
  exact all ⟨d, small⟩

theorem digitChar_of_isDigit {c : Char} (digit : isDigit c = true) :
    c.toNat - '0'.toNat < 10 ∧ Nat.digitChar (c.toNat - '0'.toNat) = c := by
  have range := toNat_of_isDigit digit
  have zero : '0'.toNat = 48 := rfl
  have small : c.toNat - '0'.toNat < 10 := by omega
  refine ⟨small, Char.toNat_inj.mp ?_⟩
  rw [Nat.toNat_digitChar_of_lt_ten small]
  omega

/-- What is read as a decimal numeral is one. -/
theorem positional_ten_iff {digits : List Char} {n : Nat} :
    Positional 10 digits n ↔ natural? digits = some n := by
  rw [natural?_eq_some_iff]
  -- digits and what they are worth determine each other, so the places carry over both ways
  let worth : Char → Nat := fun c => c.toNat - '0'.toNat
  have value : ∀ text, Nat.ofDigitChars 10 text 0 =
      (text.map worth).foldl (fun n d => 10 * n + d) 0 := by
    intro text
    rw [Nat.ofDigitChars_eq_foldl, List.foldl_map]
  constructor
  · rintro ⟨values, some_, smalls, rfl, rfl⟩
    have back : (values.map Nat.digitChar).map worth = values := by
      rw [List.map_map]
      exact (List.map_congr_left fun d mem => (digitChar_ten (smalls d mem)).2).trans
        (List.map_id values)
    refine ⟨by simpa using some_, fun c mem => ?_, ?_⟩
    · obtain ⟨d, among, rfl⟩ := List.mem_map.mp mem
      exact (digitChar_ten (smalls d among)).1
    · rw [ofDigits_reverse, value, back]
  · rintro ⟨some_, all, rfl⟩
    have back : (digits.map worth).map Nat.digitChar = digits := by
      rw [List.map_map]
      exact (List.map_congr_left fun c mem => (digitChar_of_isDigit (all c mem)).2).trans
        (List.map_id digits)
    refine ⟨digits.map worth, by simpa using some_, fun d mem => ?_, back.symm, ?_⟩
    · obtain ⟨c, among, rfl⟩ := List.mem_map.mp mem
      exact (digitChar_of_isDigit (all c among)).1
    · rw [ofDigits_reverse, value]

/-! ## Bounds and signs -/

/-- An unsigned hexadecimal numeral, perhaps behind a plus sign. -/
theorem hexBelow?_eq_some_iff {bound n : Nat} {text : List Char} :
    hexBelow? bound text = some n ↔
      ∃ plus digits, text = plus ++ digits ∧ (plus = [] ∨ plus = ['+']) ∧
        Positional 16 (digits.map Char.toLower) n ∧ n < bound := by
  have unsigned : hexBelow? bound text = some n ↔
      Positional 16 ((dropPlus text).map Char.toLower) n ∧ n < bound := by
    rw [positional_sixteen_iff]
    unfold hexBelow?
    split
    · next empty => simp [empty]
    · next some_ =>
      rw [Option.filter_eq_some_iff, decide_eq_true_eq, and_iff_right some_]
  rw [unsigned]
  constructor
  · rintro ⟨reads, small⟩
    obtain ⟨plus, parts, sign⟩ := dropPlus_eq text
    exact ⟨plus, dropPlus text, parts, sign, reads, small⟩
  · rintro ⟨plus, digits, rfl, sign, reads, small⟩
    have visible := hexDigit?_isSome_of_hexFrom? (positional_sixteen_iff.mp reads).2
    rw [dropPlus_append sign fun mem => absurd (visible _ mem) (by decide)]
    exact ⟨reads, small⟩

/-- The decimal texts of an integer: digits, or a minus sign and digits. -/
inductive Decimal : List Char → Int → Prop
  | natural {digits : List Char} {n : Nat} : Positional 10 digits n → Decimal digits n
  | negative {digits : List Char} {n : Nat} : Positional 10 digits n → Decimal ('-' :: digits) (-n)

/-- What is read as a signed numeral without a plus sign is one within the bounds. -/
theorem decimal_of_signedBelow? {bound : Nat} {text : List Char} {d : Int}
    (unsigned : dropPlus text = text) (reads : signedBelow? bound text = some d) :
    Decimal text d ∧ -bound ≤ d ∧ d ≤ bound := by
  unfold signedBelow? at reads
  split at reads
  · next digits =>
    obtain ⟨m, widened, rfl⟩ := Option.map_eq_some_iff.mp reads
    obtain ⟨n, kept, wide⟩ := Option.bind_eq_some_iff.mp widened
    obtain rfl := Option.some.inj wide
    obtain ⟨reads, small⟩ := Option.filter_eq_some_iff.mp kept
    have small : n ≤ bound := of_decide_eq_true small
    exact ⟨.negative (positional_ten_iff.mpr reads), by omega, by omega⟩
  · obtain ⟨m, widened, rfl⟩ := Option.map_eq_some_iff.mp reads
    obtain ⟨n, kept, wide⟩ := Option.bind_eq_some_iff.mp widened
    obtain rfl := Option.some.inj wide
    rw [below?, unsigned] at kept
    obtain ⟨reads, small⟩ := Option.filter_eq_some_iff.mp kept
    have small : n < bound := of_decide_eq_true small
    exact ⟨.natural (positional_ten_iff.mpr reads), by omega, by omega⟩

end NotebookKernel.Numeral
