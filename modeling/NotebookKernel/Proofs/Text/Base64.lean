import NotebookKernel.Text.Base64

/-!
Base64 without loss: what was encoded is decoded to the same bytes, whatever they are and however
many.

A group of four digits is the three bytes it was made from because both are the same number, once
with 64 and once with 256 for a base. The last group may be shorter; the padding that fills it is no
digit, so the decoder knows how many bytes it stands for.
-/

namespace NotebookKernel.Base64

/-! ## Digits -/

theorem value?_digit {n : Nat} (small : n < 64) : value? (digit n) = some n := by
  have all : ∀ n : Fin 64, value? (digit n) = some n.val := by decide
  exact all ⟨n, small⟩

/-- Padding is no digit. -/
theorem digit_ne_pad {n : Nat} (small : n < 64) : digit n ≠ '=' := by
  intro pad
  have value := value?_digit small
  have none_ : value? '=' = none := by decide
  rw [pad, none_] at value
  cases value

/-! ## Groups -/

/-- A byte is the last eight bits of a number. -/
theorem ofNat_eq_of_mod {n : Nat} {b : UInt8} (low : n % 0x100 = b.toNat) :
    UInt8.ofNat n = b := by
  rw [← UInt8.toNat_inj, UInt8.toNat_ofNat']
  exact low

/-- The number of three bytes, cut into bytes. -/
theorem bytes_of_three (a b c : UInt8) {n : Nat}
    (number : n = a.toNat * 0x10000 + b.toNat * 0x100 + c.toNat) :
    [UInt8.ofNat (n / 0x10000), UInt8.ofNat (n / 0x100), UInt8.ofNat n] = [a, b, c] := by
  have hb := b.toNat_lt
  have hc := c.toNat_lt
  have ha := a.toNat_lt
  rw [ofNat_eq_of_mod (b := a) (by omega), ofNat_eq_of_mod (b := b) (by omega),
    ofNat_eq_of_mod (b := c) (by omega)]

theorem number_of_digits (n : Nat) :
    n / 0x40000 * 0x40000 + n / 0x1000 % 64 * 0x1000 + n / 0x40 % 64 * 0x40 + n % 64 = n := by
  omega

theorem decodeGroup_digits (a b c : UInt8) {n : Nat}
    (number : n = a.toNat * 0x10000 + b.toNat * 0x100 + c.toNat) :
    decodeGroup (digit (n / 0x40000)) (digit (n / 0x1000 % 64)) (digit (n / 0x40 % 64))
      (digit (n % 64)) = some [a, b, c] := by
  have hb := b.toNat_lt
  have hc := c.toNat_lt
  have ha := a.toNat_lt
  unfold decodeGroup
  simp only [value?_digit (n := n / 0x40000) (by omega),
    value?_digit (n := n / 0x1000 % 64) (by omega), value?_digit (n := n / 0x40 % 64) (by omega),
    value?_digit (n := n % 64) (by omega)]
  rw [number_of_digits, bytes_of_three a b c number]

/-- A last group without padding is read like any other. -/
theorem decodeLast_eq_decodeGroup {a b c d : Char} (noPad : c ≠ '=') (full : d ≠ '=') :
    decodeLast a b c d = decodeGroup a b c d := by
  unfold decodeLast decodeGroup
  cases value? a with
  | none => rfl
  | some a =>
    cases value? b with
    | none => rfl
    | some b =>
      dsimp only
      rw [if_neg (fun both => noPad both.1)]
      cases value? c with
      | none => rfl
      | some c =>
        dsimp only
        rw [if_neg full]
        cases value? d with
        | none => rfl
        | some d =>
          have number : (a * 0x1000 + b * 0x40 + c) * 0x40 + d =
              a * 0x40000 + b * 0x1000 + c * 0x40 + d := by omega
          dsimp only
          rw [number]

theorem decodeLast_one (a : UInt8) {n : Nat} (number : n = a.toNat) :
    decodeLast (digit (n / 4)) (digit (n % 4 * 16)) '=' '=' = some [a] := by
  have ha := a.toNat_lt
  unfold decodeLast
  simp only [value?_digit (n := n / 4) (by omega), value?_digit (n := n % 4 * 16) (by omega)]
  rw [if_pos ⟨trivial, trivial⟩, if_pos (by omega), ofNat_eq_of_mod (b := a) (by omega)]

theorem decodeLast_two (a b : UInt8) {n : Nat} (number : n = a.toNat * 0x100 + b.toNat) :
    decodeLast (digit (n / 0x400)) (digit (n / 0x10 % 64)) (digit (n % 0x10 * 4)) '=' =
      some [a, b] := by
  have ha := a.toNat_lt
  have hb := b.toNat_lt
  have noPad := digit_ne_pad (n := n % 0x10 * 4) (by omega)
  unfold decodeLast
  simp only [value?_digit (n := n / 0x400) (by omega), value?_digit (n := n / 0x10 % 64) (by omega),
    value?_digit (n := n % 0x10 * 4) (by omega)]
  rw [if_neg (fun both => noPad both.1), if_pos trivial, if_pos (by omega),
    ofNat_eq_of_mod (b := a) (by omega), ofNat_eq_of_mod (b := b) (by omega)]

/-! ## Texts -/

theorem encode_ne_nil {bytes : Bytes} (some_ : bytes ≠ []) : encode bytes ≠ [] := by
  unfold encode
  split
  · exact absurd rfl some_
  all_goals exact List.cons_ne_nil _ _

/-- A group that is not the last. -/
theorem decode_cons {a b c d : Char} {rest : List Char} {group bytes : Bytes} (more : rest ≠ [])
    (front : decodeGroup a b c d = some group) (back : decode rest = some bytes) :
    decode (a :: b :: c :: d :: rest) = some (group ++ bytes) := by
  rw [decode, front, back]
  exact more

/-- Encoding loses nothing. -/
theorem decode_encode (bytes : Bytes) : decode (encode bytes) = some bytes := by
  fun_induction encode bytes with
  | case1 => rfl
  | case2 a n => exact decodeLast_one a rfl
  | case3 a b n => exact decodeLast_two a b rfl
  | case4 a b c rest n ih =>
    have group := decodeGroup_digits a b c (n := n) rfl
    by_cases last : rest = []
    · subst last
      have third := digit_ne_pad (n := n / 0x40 % 64) (by omega)
      have fourth := digit_ne_pad (n := n % 64) (by omega)
      exact (decodeLast_eq_decodeGroup third fourth).trans group
    · exact decode_cons (encode_ne_nil last) group ih

end NotebookKernel.Base64
