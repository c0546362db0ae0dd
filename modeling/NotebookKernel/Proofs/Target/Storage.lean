import Mathlib.Algebra.Group.Int.Defs
import Mathlib.Algebra.Group.Nat.Defs
import NotebookKernel.Target.Value

/-!
What the bytes of a value hold.

A pointer is the number that its bytes denote in the order of the target, and a signed integer is
the number in the range of its width that agrees with the bytes up to a multiple of the size of that
range. `Storage.address_eq_ok_iff` and `Storage.signed_eq_ok_iff` say that these are read, and that
there is an error in all other cases.
-/

namespace NotebookKernel

/-! ## Numbers in bytes -/

theorem bigEndian_lt (bytes : Bytes) : bigEndian bytes < 256 ^ bytes.length := by
  have onto : ∀ start, bytes.foldl (fun n b => 256 * n + b.toNat) start <
      (start + 1) * 256 ^ bytes.length := by
    induction bytes with
    | nil => simp
    | cons byte rest ih =>
      intro start
      have small := byte.toNat_lt
      calc rest.foldl (fun n b => 256 * n + b.toNat) (256 * start + byte.toNat)
          < (256 * start + byte.toNat + 1) * 256 ^ rest.length := ih _
        _ ≤ (256 * (start + 1)) * 256 ^ rest.length := Nat.mul_le_mul_right _ (by omega)
        _ = (start + 1) * 256 ^ (rest.length + 1) := by rw [Nat.pow_succ]; ac_rfl
  simpa [bigEndian] using onto 0

theorem Endianness.number_lt (order : Endianness) (bytes : Bytes) :
    order.number bytes < 256 ^ bytes.length := by
  cases order with
  | big => exact bigEndian_lt bytes
  | little => simpa [Endianness.number] using bigEndian_lt bytes.reverse

theorem bigEndian_concat (bytes : Bytes) (b : UInt8) :
    bigEndian (bytes ++ [b]) = 256 * bigEndian bytes + b.toNat := by
  simp [bigEndian]

theorem number_littleEndianBytes (count n : Nat) :
    Endianness.little.number (littleEndianBytes count n) = n % 256 ^ count := by
  induction count generalizing n with
  | zero => simp [littleEndianBytes, Endianness.number, bigEndian, Nat.mod_one]
  | succ count ih =>
    have front : bigEndian (littleEndianBytes count (n / 256)).reverse = n / 256 % 256 ^ count :=
      ih (n / 256)
    have byte : (UInt8.ofNat n).toNat = n % 256 := by simp
    rw [littleEndianBytes, Endianness.number, List.reverse_cons, bigEndian_concat, front, byte,
      Nat.pow_succ', Nat.mod_mul, Nat.add_comm]

theorem length_littleEndianBytes (count n : Nat) : (littleEndianBytes count n).length = count := by
  induction count generalizing n with
  | zero => rfl
  | succ count ih => rw [littleEndianBytes, List.length_cons, ih]

theorem take_littleEndianBytes {count more : Nat} (less : count ≤ more) (n : Nat) :
    (littleEndianBytes more n).take count = littleEndianBytes count n := by
  induction count generalizing more n with
  | zero => rfl
  | succ count ih =>
    cases more with
    | zero => omega
    | succ more =>
      rw [littleEndianBytes, littleEndianBytes, List.take_succ_cons,
        ih (Nat.le_of_succ_le_succ less)]

/-- A two's complement is the number in its range that agrees with the bytes up to a multiple of the
size of the range. -/
theorem twosComplement_eq_iff {size m : Nat} (small : m < 256 ^ size) {n : Int} :
    twosComplement size m = n ↔
      -256 ^ size ≤ 2 * n ∧ 2 * n < 256 ^ size ∧ (256 ^ size : Int) ∣ n - m := by
  have cast : ((256 ^ size : Nat) : Int) = 256 ^ size := by simp
  have shape : twosComplement size m = if 2 * m < 256 ^ size then (m : Int) else m - 256 ^ size :=
    rfl
  rw [shape, ← cast]
  generalize 256 ^ size = range at small
  have inRange : ∀ k : Int, (k = if 2 * m < range then (m : Int) else m - range) →
      -range ≤ 2 * k ∧ 2 * k < range ∧ (range : Int) ∣ k - m := by
    rintro _ rfl
    split
    · exact ⟨by omega, by omega, by simp⟩
    · exact ⟨by omega, by omega, -1, by omega⟩
  constructor
  · exact fun same => inRange n same.symm
  · rintro ⟨lower, upper, agrees⟩
    obtain ⟨lower', upper', agrees'⟩ := inRange _ rfl
    -- two numbers in the range that agree up to a multiple of its size are equal
    have zero := Int.eq_zero_of_dvd_of_natAbs_lt_natAbs (Int.dvd_sub agrees' agrees) (by omega)
    omega

/-! ## Storage -/

namespace Storage

/-- The storage begins with a pointer to an address. -/
structure HoldsAddress (s : Storage) (address : Nat) : Prop where
  size : s.addressSize = 4 ∨ s.addressSize = 8
  whole : s.addressSize ≤ s.bytes.length
  number : s.order.number (s.bytes.take s.addressSize) = address

/-- The storage begins with a signed integer of a given width: the one in the range of the width
that agrees with the bytes up to a multiple of the size of that range. -/
structure HoldsInteger (s : Storage) (width : NativeWidth) (n : Int) : Prop where
  whole : width.bytes ≤ s.bytes.length
  lower : -256 ^ width.bytes ≤ 2 * n
  upper : 2 * n < 256 ^ width.bytes
  agrees : (256 ^ width.bytes : Int) ∣ n - s.order.number (s.bytes.take width.bytes)

theorem address_eq_ok_iff {s : Storage} {address : Nat} :
    s.address 0 = .ok address ↔ s.HoldsAddress address := by
  unfold Storage.address slice
  simp only [Nat.zero_add, List.drop_zero]
  by_cases whole : s.addressSize ≤ s.bytes.length
  · by_cases size : s.addressSize = 4 ∨ s.addressSize = 8
    · simp only [if_pos whole, if_pos size, Except.ok.injEq]
      exact ⟨fun number => ⟨size, whole, number⟩, HoldsAddress.number⟩
    · simp only [if_pos whole, if_neg size]
      exact ⟨fun read => (nomatch read), fun holds => absurd holds.size size⟩
  · simp only [if_neg whole]
    exact ⟨fun read => (nomatch read), fun holds => absurd holds.whole whole⟩

theorem signed_eq_ok_iff {s : Storage} {width : NativeWidth} {n : Int} :
    s.signed 0 width = .ok n ↔ s.HoldsInteger width n := by
  unfold Storage.signed slice
  simp only [Nat.zero_add, List.drop_zero]
  by_cases whole : width.bytes ≤ s.bytes.length
  · have small := s.order.number_lt (s.bytes.take width.bytes)
    rw [List.length_take, Nat.min_eq_left whole] at small
    simp only [if_pos whole, Except.ok.injEq, twosComplement_eq_iff small]
    exact ⟨fun ⟨lower, upper, agrees⟩ => ⟨whole, lower, upper, agrees⟩,
      fun ⟨_, lower, upper, agrees⟩ => ⟨lower, upper, agrees⟩⟩
  · simp only [if_neg whole]
    exact ⟨fun read => (nomatch read), fun holds => absurd holds.whole whole⟩

end Storage

end NotebookKernel
