import NotebookKernel.Text.Numeral

/-!
Decimal numerals are read back as the numbers they were written for, and what is read as a number is
a numeral for it (`below?_eq_some_iff`).
-/

namespace NotebookKernel.Numeral

theorem isDigit_of_mem_decimal {n : Nat} {c : Char} (mem : c ∈ decimal n) : isDigit c = true := by
  have digit := Nat.isDigit_of_mem_toDigits (by decide) (by decide) mem
  simpa [isDigit, Char.isDigit, Char.le_def, UInt32.le_iff_toNat_le] using digit

theorem decimal_ne_nil (n : Nat) : decimal n ≠ [] := by
  unfold decimal
  simp

theorem decimal_eq_cons (n : Nat) : ∃ c cs, decimal n = c :: cs ∧ isDigit c = true := by
  cases digits : decimal n with
  | nil => exact absurd digits (decimal_ne_nil n)
  | cons c cs => exact ⟨c, cs, rfl, isDigit_of_mem_decimal (digits ▸ List.mem_cons_self)⟩

theorem natural?_decimal (n : Nat) : natural? (decimal n) = some n := by
  have digits : (decimal n).all isDigit = true := by
    rw [List.all_eq_true]
    intro c mem
    exact isDigit_of_mem_decimal mem
  unfold natural?
  rw [if_pos ⟨decimal_ne_nil n, digits⟩]
  exact congrArg some Nat.ofDigitChars_ten_toDigits

/-- A text of digits has no sign in front. -/
theorem dropPlus_of_digits {word : List Char} (digits : '+' ∉ word) : dropPlus word = word := by
  unfold dropPlus
  split
  · exact absurd List.mem_cons_self digits
  · rfl

theorem dropPlus_decimal (n : Nat) : dropPlus (decimal n) = decimal n := by
  apply dropPlus_of_digits
  intro plus
  exact absurd (isDigit_of_mem_decimal plus) (by decide)

theorem below?_decimal {bound n : Nat} (small : n < bound) :
    below? bound (decimal n) = some n := by
  unfold below?
  rw [dropPlus_decimal, natural?_decimal]
  simp [small]

/-- A digit is ASCII and no space of any kind. -/
theorem toNat_of_isDigit {c : Char} (digit : isDigit c = true) : 48 ≤ c.toNat ∧ c.toNat ≤ 57 := by
  simpa [isDigit, Char.le_def, UInt32.le_iff_toNat_le] using digit

/-! ## The numerals for a number -/

/-- A numeral for `n`: at least one digit and nothing else, but a plus sign may stand in front. -/
def Denotes (text : List Char) (n : Nat) : Prop :=
  ∃ plus digits, text = plus ++ digits ∧ (plus = [] ∨ plus = ['+']) ∧ digits ≠ [] ∧
    (∀ c ∈ digits, isDigit c = true) ∧ n = Nat.ofDigitChars 10 digits 0

theorem natural?_eq_some_iff {text : List Char} {n : Nat} :
    natural? text = some n ↔
      text ≠ [] ∧ (∀ c ∈ text, isDigit c = true) ∧ n = Nat.ofDigitChars 10 text 0 := by
  unfold natural?
  rw [Option.ite_none_right_eq_some, List.all_eq_true, Option.some_inj, and_assoc, eq_comm (a := n)]

theorem dropPlus_eq (text : List Char) :
    ∃ plus, text = plus ++ dropPlus text ∧ (plus = [] ∨ plus = ['+']) := by
  unfold dropPlus
  split
  · exact ⟨['+'], rfl, .inr rfl⟩
  · exact ⟨[], rfl, .inl rfl⟩

theorem dropPlus_append {plus digits : List Char} (sign : plus = [] ∨ plus = ['+'])
    (unsigned : '+' ∉ digits) : dropPlus (plus ++ digits) = digits := by
  obtain none | one := sign
  · rw [none, List.nil_append]
    exact dropPlus_of_digits unsigned
  · rw [one]
    rfl

theorem below?_eq_some_iff {bound n : Nat} {text : List Char} :
    below? bound text = some n ↔ Denotes text n ∧ n < bound := by
  unfold below?
  rw [Option.filter_eq_some_iff, natural?_eq_some_iff, decide_eq_true_eq]
  apply and_congr_left'
  constructor
  · intro ⟨nonempty, all, value⟩
    obtain ⟨plus, parts, sign⟩ := dropPlus_eq text
    exact ⟨plus, dropPlus text, parts, sign, nonempty, all, value⟩
  · intro ⟨plus, digits, parts, sign, nonempty, all, value⟩
    rw [parts, dropPlus_append sign fun mem => absurd (all _ mem) (by decide)]
    exact ⟨nonempty, all, value⟩

theorem Denotes.sign_or_digit {text : List Char} {n : Nat} (denotes : Denotes text n) {c : Char}
    (mem : c ∈ text) : c = '+' ∨ isDigit c = true := by
  obtain ⟨plus, digits, parts, sign, -, all, -⟩ := denotes
  rw [parts, List.mem_append] at mem
  obtain none | one := sign
  · rw [none] at mem
    exact .inr (all c (mem.resolve_left List.not_mem_nil))
  · rw [one, List.mem_singleton] at mem
    exact mem.imp_right (all c)

end NotebookKernel.Numeral
