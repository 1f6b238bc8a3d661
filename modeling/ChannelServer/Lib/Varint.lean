/-
Numbers in base 128.

A number is written with seven bits in each byte, the lowest ones first; all bytes but the last
have their high bit set.  `decode_encode` is the round trip, with anything behind the number, and
`length_encode` the length of an encoding in terms of the binary logarithm.
-/
import Mathlib.Algebra.Ring.Nat
import Mathlib.Data.Nat.Log

namespace Varint

/-- The encoding of a number. -/
def encode (n : ℕ) : List UInt8 :=
  if n < 128 then [UInt8.ofNat n] else UInt8.ofNat (n % 128 + 128) :: encode (n / 128)
termination_by n
decreasing_by omega

/-- Read a number of at most `k` bytes. -/
def decode : ℕ → List UInt8 → Option (ℕ × List UInt8)
  | 0, _ => none
  | _ + 1, [] => none
  | k + 1, b :: l =>
      if b.toNat < 128 then some (b.toNat, l)
      else (decode k l).map fun p => (b.toNat - 128 + 128 * p.1, p.2)

lemma encode_of_lt {n : ℕ} (h : n < 128) : encode n = [UInt8.ofNat n] := by
  rw [encode, if_pos h]

lemma encode_of_le {n : ℕ} (h : 128 ≤ n) :
    encode n = UInt8.ofNat (n % 128 + 128) :: encode (n / 128) := by
  rw [encode, if_neg (by omega)]

/-- The induction along the digits of a number. -/
lemma digits_induction {P : ℕ → Prop} (last : ∀ n, n < 128 → P n)
    (more : ∀ n, 128 ≤ n → P (n / 128) → P n) (n : ℕ) : P n := by
  induction n using Nat.strongRecOn with
  | _ n ih =>
    by_cases h : n < 128
    · exact last n h
    · exact more n (by omega) (ih _ (by omega))

theorem decode_encode {k n : ℕ} (h : n < 128 ^ (k + 1)) (rest : List UInt8) :
    decode (k + 1) (encode n ++ rest) = some (n, rest) := by
  induction n using digits_induction generalizing k with
  | last n hn =>
    have htoNat : (UInt8.ofNat n).toNat = n := by
      rw [UInt8.toNat_ofNat']
      omega
    rw [encode_of_lt hn, List.singleton_append, decode, htoNat, if_pos hn]
  | more n hn ih =>
    obtain _ | k := k
    · omega
    · have hdigit : (UInt8.ofNat (n % 128 + 128)).toNat = n % 128 + 128 := by
        rw [UInt8.toNat_ofNat']
        omega
      have hk : n / 128 < 128 ^ (k + 1) := by
        rw [Nat.pow_succ] at h
        omega
      rw [encode_of_le hn, List.cons_append, decode, hdigit, if_neg (by omega), ih hk,
        Option.map_some]
      congr 2
      omega

lemma length_of_decode {k n : ℕ} {l rest : List UInt8} (h : decode k l = some (n, rest)) :
    rest.length < l.length := by
  induction k generalizing l n with
  | zero => simp [decode] at h
  | succ k ih =>
    cases l with
    | nil => simp [decode] at h
    | cons b l =>
      rw [decode] at h
      split at h
      · obtain ⟨-, rfl⟩ := Prod.mk.inj (Option.some.inj h)
        exact Nat.lt_succ_self _
      · obtain ⟨p, hp, heq⟩ := Option.map_eq_some_iff.1 h
        obtain ⟨-, rfl⟩ := Prod.mk.inj heq
        exact Nat.lt_succ_of_lt (ih hp)

/-- Seven bits in each byte. -/
theorem length_encode (n : ℕ) : (encode n).length = n.log2 / 7 + 1 := by
  rw [Nat.log2_eq_log_two]
  induction n using digits_induction with
  | last n hn =>
    have h : Nat.log 2 n < 7 := by
      rcases Nat.eq_zero_or_pos n with rfl | hpos
      · decide
      · exact Nat.log_lt_of_lt_pow (by omega) hn
    rw [encode_of_lt hn, List.length_singleton]
    omega
  | more n hn ih =>
    have h7 : 7 ≤ Nat.log 2 n := Nat.le_log_of_pow_le (by decide) hn
    have hlog : Nat.log 2 (n / 128) = Nat.log 2 n - 7 := Nat.log_div_base_pow 2 n 7
    rw [encode_of_le hn, List.length_cons, ih, hlog]
    omega

end Varint
