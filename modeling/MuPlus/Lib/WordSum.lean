import MuPlus.Lib.ByteMem

/-!
# MuPlus.Lib.WordSum

**The 16-bit word sum of a byte string**, as BaseLib's `CalculateSum16` computes it over a
buffer read as little-endian `UINT16` words: the words are added modulo `2 ^ 16`, and a
trailing odd byte is not counted (`CalculateSum16` sums `Length / 2` words).

A checksum that makes such a sum zero is kept up to date by adding and removing words, so
the lemmas are the ones that split a sum along its buffer:

* `sum16_append` — the sum of two buffers, the first of even length, is the sum of their
  sums;
* `sum16_leBytes_two`, `sum16_leBytes_four` — a little-endian `UINT16` field is its own
  word, a `UINT32` field the sum of its low and high halves.
-/

namespace MuPlus

open ByteMem

/-- The little-endian `UINT16` held by two bytes. -/
def word16 (lo hi : UInt8) : UInt16 :=
  (leValue [lo, hi]).toUInt16

/-- The sum modulo `2 ^ 16` of the little-endian words of a byte string. -/
def sum16 : List UInt8 → UInt16
  | lo :: hi :: rest => word16 lo hi + sum16 rest
  | _ => 0

@[simp] theorem sum16_nil : sum16 [] = 0 :=
  rfl

@[simp] theorem sum16_cons_cons (lo hi : UInt8) (rest : List UInt8) :
    sum16 (lo :: hi :: rest) = word16 lo hi + sum16 rest :=
  rfl

/-- The sum of two buffers, the first of even length, is the sum of their sums. -/
theorem sum16_append {xs : List UInt8} (ys : List UInt8) (h : xs.length % 2 = 0) :
    sum16 (xs ++ ys) = sum16 xs + sum16 ys := by
  -- induction along the words of the first buffer
  induction xs using sum16.induct with
  | case1 lo hi rest ih =>
      simp only [List.length_cons] at h
      simp only [List.cons_append, sum16_cons_cons, ih (by omega)]
      grind
  | case2 xs hxs =>
      match xs, hxs with
      | [], _ => simp
      | [_], _ => simp at h
      | _ :: _ :: _, hxs => exact absurd rfl (hxs _ _ _)

/-- A little-endian `UINT16` field is its own word. -/
theorem sum16_leBytes_two (v : Nat) : sum16 (leBytes 2 v) = v.toUInt16 := by
  apply UInt16.toNat_inj.mp
  simp only [leBytes, sum16_cons_cons, sum16_nil, word16, leValue, UInt16.toNat_add,
    Nat.toUInt16_eq, UInt16.toNat_ofNat', UInt8.toNat_ofNat', Nat.toUInt8_eq, Nat.add_zero,
    UInt16.toNat_zero]
  omega

/-- A little-endian field of `a + b` bytes is its low `a` bytes followed by the rest of the
value. -/
theorem leBytes_add (a b v : Nat) : leBytes (a + b) v = leBytes a v ++ leBytes b (v / 256 ^ a) := by
  induction a generalizing v with
  | zero => simp [leBytes]
  | succ a ih =>
      rw [Nat.add_right_comm, leBytes, ih, leBytes, List.cons_append, Nat.div_div_eq_div_mul,
        Nat.pow_succ, Nat.mul_comm (256 ^ a) 256]

/-- A little-endian `UINT32` field adds its low and its high half. -/
theorem sum16_leBytes_four (v : Nat) :
    sum16 (leBytes 4 v) = v.toUInt16 + (v / 65536).toUInt16 := by
  have h65536 : (256 : Nat) ^ 2 = 65536 := rfl
  rw [leBytes_add 2 2, sum16_append _ (by simp), sum16_leBytes_two, sum16_leBytes_two, h65536]

end MuPlus
