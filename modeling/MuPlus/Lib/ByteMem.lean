import Mathlib

/-!
# MuPlus.Lib.ByteMem

**Flat byte-addressed memory.** A memory is a total function from addresses to
bytes; `write` stores a run of bytes at consecutive addresses and `read` loads
one back. Multi-byte fields are stored little-endian (`leBytes`/`leValue`), as
the x86 and Arm firmware targets store `UINT16`, `UINT32` and `UINT64` fields.

Nothing here names a particular program. The lemmas are the ones a proof about
a log or a packet laid out in memory needs:

* `read_write_self` — a field reads back what was just stored;
* `read_write_of_disjoint` — the frame rule: a store outside a range leaves
  every read of that range unchanged;
* `read_congr` — reads only depend on the bytes they cover, wherever the range
  sits, which is what makes a relocated copy of a buffer read like the
  original;
* `loadLe_write_leBytes` — the little-endian round trip.
-/

namespace MuPlus

/-- A flat byte-addressed memory: every address holds one byte. -/
def ByteMem := Nat → UInt8

namespace ByteMem

/-- Store the bytes `bs` at the consecutive addresses `a, a + 1, …`. -/
def write (m : ByteMem) (a : Nat) (bs : List UInt8) : ByteMem :=
  fun x => if h : a ≤ x ∧ x - a < bs.length then bs[x - a] else m x

/-- Load `n` consecutive bytes starting at address `a`. -/
def read (m : ByteMem) (a : Nat) : Nat → List UInt8
  | 0 => []
  | n + 1 => m a :: read m (a + 1) n

/-! ### Reads -/

@[simp] theorem read_zero (m : ByteMem) (a : Nat) : m.read a 0 = [] := rfl

theorem read_succ (m : ByteMem) (a n : Nat) : m.read a (n + 1) = m a :: m.read (a + 1) n := rfl

@[simp] theorem length_read (m : ByteMem) (a n : Nat) : (m.read a n).length = n := by
  induction n generalizing a with
  | zero => rfl
  | succ n ih => simp [read_succ, ih]

@[simp] theorem getElem_read (m : ByteMem) (a n i : Nat) (h : i < (m.read a n).length) :
    (m.read a n)[i] = m (a + i) := by
  induction n generalizing a i with
  | zero => simp at h
  | succ n ih =>
      cases i with
      | zero => rfl
      | succ i =>
          simp only [read_succ, List.getElem_cons_succ]
          rw [ih]
          congr 1
          omega

/-- A read of `n + k` bytes is the read of the first `n` followed by the rest. -/
theorem read_add (m : ByteMem) (a n k : Nat) :
    m.read a (n + k) = m.read a n ++ m.read (a + n) k := by
  induction n generalizing a with
  | zero => simp
  | succ n ih =>
      rw [Nat.add_right_comm, read_succ, ih, read_succ, List.cons_append,
        show a + 1 + n = a + (n + 1) by omega]

/-- Reads only depend on the bytes they cover: two memories that agree on a
range, possibly placed at different addresses, read the same bytes from it. -/
theorem read_congr {m m' : ByteMem} {a a' n : Nat}
    (h : ∀ i < n, m (a + i) = m' (a' + i)) : m.read a n = m'.read a' n := by
  apply List.ext_getElem (by simp)
  intro i hi _
  simp only [getElem_read]
  exact h i (by simpa using hi)

/-! ### Writes -/

theorem write_apply_of_lt {m : ByteMem} {a x : Nat} (bs : List UInt8) (h : x < a) :
    m.write a bs x = m x := by
  simp only [write]
  rw [dif_neg (by omega)]

theorem write_apply_of_ge {m : ByteMem} {a x : Nat} {bs : List UInt8}
    (h : a + bs.length ≤ x) : m.write a bs x = m x := by
  simp only [write]
  rw [dif_neg (by omega)]

theorem write_apply_of_mem {m : ByteMem} {a x : Nat} {bs : List UInt8}
    (h₁ : a ≤ x) (h₂ : x - a < bs.length) : m.write a bs x = bs[x - a] := by
  simp only [write]
  rw [dif_pos ⟨h₁, h₂⟩]

/-- A store outside `[a, a + n)` is invisible to a read of that range. -/
theorem write_apply_of_disjoint {m : ByteMem} {b x : Nat} {bs : List UInt8}
    (h : x < b ∨ b + bs.length ≤ x) : m.write b bs x = m x := by
  rcases h with h | h
  · exact write_apply_of_lt bs h
  · exact write_apply_of_ge h

/-- **Frame rule.** A store that does not overlap `[a, a + n)` leaves the read of
that range unchanged. -/
theorem read_write_of_disjoint {m : ByteMem} {a n b : Nat} {bs : List UInt8}
    (h : a + n ≤ b ∨ b + bs.length ≤ a) : (m.write b bs).read a n = m.read a n := by
  apply read_congr
  intro i hi
  exact write_apply_of_disjoint (x := a + i) (by omega)

/-- A stored run of bytes reads back unchanged. -/
@[simp] theorem read_write_self (m : ByteMem) (a : Nat) (bs : List UInt8) :
    (m.write a bs).read a bs.length = bs := by
  apply List.ext_getElem (by simp)
  intro i hi _
  simp only [getElem_read]
  rw [write_apply_of_mem (by omega) (by simp at hi; omega)]
  simp

/-- Reading inside a stored run gives the corresponding slice of it. -/
theorem write_apply_add {m : ByteMem} {a i : Nat} {bs : List UInt8} (h : i < bs.length) :
    m.write a bs (a + i) = bs[i] := by
  rw [write_apply_of_mem (by omega) (by omega)]
  simp

/-- A run stored right after a range extends the read of that range by itself. -/
theorem read_write_append (m : ByteMem) (a n : Nat) (bs : List UInt8) :
    (m.write (a + n) bs).read a (n + bs.length) = m.read a n ++ bs := by
  rw [read_add, read_write_of_disjoint (by omega), read_write_self]

/-- Storing `bs ++ cs` is storing `bs` and then `cs` right after it. -/
theorem write_append (m : ByteMem) (a : Nat) (bs cs : List UInt8) :
    m.write a (bs ++ cs) = (m.write a bs).write (a + bs.length) cs := by
  funext x
  by_cases hlo : x < a
  · rw [write_apply_of_lt _ hlo, write_apply_of_lt _ (by omega), write_apply_of_lt _ hlo]
  by_cases hbs : x < a + bs.length
  · rw [write_apply_of_mem (by omega) (by simp; omega), write_apply_of_lt _ hbs,
      write_apply_of_mem (by omega) (by omega), List.getElem_append_left]
  · by_cases hcs : x < a + bs.length + cs.length
    · rw [@write_apply_of_mem m a x (bs ++ cs) (by omega) (by simp; omega),
        @write_apply_of_mem _ (a + bs.length) x cs (by omega) (by omega),
        List.getElem_append_right (by omega)]
      congr 1
      omega
    · rw [@write_apply_of_ge m a x (bs ++ cs) (by simp; omega),
        @write_apply_of_ge _ (a + bs.length) x cs (by omega), @write_apply_of_ge m a x bs (by omega)]

/-- A read inside a stored run is the matching slice of the run. -/
theorem read_write_of_le {m : ByteMem} {a k n : Nat} {bs : List UInt8}
    (h : k + n ≤ bs.length) : (m.write a bs).read (a + k) n = (bs.drop k).take n := by
  apply List.ext_getElem (by simp; omega)
  intro i hi _
  simp only [getElem_read, List.getElem_take, List.getElem_drop]
  rw [Nat.add_assoc, write_apply_add (by simp at hi; omega)]

/-! ### Little-endian fields -/

/-- The `w`-byte little-endian encoding of `v` (so `v` is taken modulo `256 ^ w`). -/
def leBytes : Nat → Nat → List UInt8
  | 0, _ => []
  | w + 1, v => (v % 256).toUInt8 :: leBytes w (v / 256)

/-- The value of a little-endian byte string. -/
def leValue : List UInt8 → Nat
  | [] => 0
  | b :: bs => b.toNat + 256 * leValue bs

@[simp] theorem length_leBytes (w v : Nat) : (leBytes w v).length = w := by
  induction w generalizing v with
  | zero => rfl
  | succ w ih => simp [leBytes, ih]

theorem leValue_leBytes (w v : Nat) : leValue (leBytes w v) = v % 256 ^ w := by
  induction w generalizing v with
  | zero => simp [leBytes, leValue, Nat.mod_one]
  | succ w ih =>
      simp only [leBytes, leValue, ih]
      rw [Nat.pow_succ, Nat.mul_comm (256 ^ w) 256, Nat.mod_mul]
      simp

theorem leValue_lt (bs : List UInt8) : leValue bs < 256 ^ bs.length := by
  induction bs with
  | nil => simp [leValue]
  | cons b bs ih =>
      have hb : b.toNat < 256 := b.toNat_lt
      rw [leValue, List.length_cons, Nat.pow_succ]
      omega

/-- A byte string is the encoding of its own value at its own width. -/
theorem leBytes_leValue (bs : List UInt8) : leBytes bs.length (leValue bs) = bs := by
  induction bs with
  | nil => rfl
  | cons b bs ih =>
      have hb : b.toNat < 256 := b.toNat_lt
      have hmod : (b.toNat + 256 * leValue bs) % 256 = b.toNat := by omega
      have hdiv : (b.toNat + 256 * leValue bs) / 256 = leValue bs := by omega
      simp only [List.length_cons, leBytes, leValue, hmod, hdiv, ih, UInt8.ofNat_toNat]

/-- A value below `256 ^ w` is read back whole from its `w` bytes. -/
theorem leValue_leBytes_of_lt {w v : Nat} (h : v < 256 ^ w) : leValue (leBytes w v) = v := by
  rw [leValue_leBytes, Nat.mod_eq_of_lt h]

/-- Dropping past a little-endian field at the front of a run skips it. -/
theorem drop_leBytes_append {w n v : Nat} {l : List UInt8} (h : w ≤ n) :
    (leBytes w v ++ l).drop n = l.drop (n - w) := by
  rw [List.drop_append, List.drop_eq_nil_of_le (by simp; omega), List.nil_append, length_leBytes]

/-- The field at the front of a run is its first `w` bytes. -/
theorem take_leBytes_append (w v : Nat) (l : List UInt8) : (leBytes w v ++ l).take w = leBytes w v :=
  List.take_left' (length_leBytes w v)

/-- Load a `w`-byte little-endian field at address `a`. -/
def loadLe (m : ByteMem) (a w : Nat) : Nat := leValue (m.read a w)

/-- A stored little-endian field loads back modulo its width. -/
@[simp] theorem loadLe_write_leBytes (m : ByteMem) (a w v : Nat) :
    (m.write a (leBytes w v)).loadLe a w = v % 256 ^ w := by
  have h := read_write_self m a (leBytes w v)
  rw [length_leBytes] at h
  rw [loadLe, h, leValue_leBytes]

/-- A field load only depends on the bytes of the field. -/
theorem loadLe_congr {m m' : ByteMem} {a w : Nat} (h : ∀ i < w, m (a + i) = m' (a + i)) :
    m.loadLe a w = m'.loadLe a w := by
  rw [loadLe, loadLe, read_congr h]

/-- A field inside a stored run loads the value of the matching slice of the run. -/
theorem loadLe_write_of_le {m : ByteMem} {a k w : Nat} {bs : List UInt8}
    (h : k + w ≤ bs.length) : (m.write a bs).loadLe (a + k) w = leValue ((bs.drop k).take w) := by
  rw [loadLe, read_write_of_le h]

/-- `loadLe_write_of_le` for a run stored at address `0`. -/
theorem loadLe_write_zero_of_le {m : ByteMem} {k w : Nat} {bs : List UInt8}
    (h : k + w ≤ bs.length) : (m.write 0 bs).loadLe k w = leValue ((bs.drop k).take w) := by
  have hload := @loadLe_write_of_le m 0 k w bs h
  rwa [Nat.zero_add] at hload

/-- A field that ends at or before a store is not touched by it. -/
theorem loadLe_write_of_le_addr {m : ByteMem} {a w b : Nat} {bs : List UInt8} (h : a + w ≤ b) :
    (m.write b bs).loadLe a w = m.loadLe a w := by
  rw [loadLe, loadLe, read_write_of_disjoint (.inl h)]

/-- Field loads inherit the frame rule of `read`. -/
theorem loadLe_write_of_disjoint {m : ByteMem} {a w b : Nat} {bs : List UInt8}
    (h : a + w ≤ b ∨ b + bs.length ≤ a) : (m.write b bs).loadLe a w = m.loadLe a w := by
  rw [loadLe, loadLe, read_write_of_disjoint h]

/-! ### Agreement below an address -/

/-- Two memories hold the same bytes at every address below `n`. -/
def AgreeBelow (m m' : ByteMem) (n : Nat) : Prop :=
  ∀ a < n, m a = m' a

theorem AgreeBelow.symm {m m' : ByteMem} {n : Nat} (h : AgreeBelow m m' n) :
    AgreeBelow m' m n :=
  fun a ha => (h a ha).symm

theorem AgreeBelow.mono {m m' : ByteMem} {n k : Nat} (h : AgreeBelow m m' n) (hk : k ≤ n) :
    AgreeBelow m m' k :=
  fun a ha => h a (Nat.lt_of_lt_of_le ha hk)

/-- A read that ends below `n` sees the same bytes in memories agreeing below `n`. -/
theorem AgreeBelow.read_eq {m m' : ByteMem} {n a w : Nat} (h : AgreeBelow m m' n)
    (hw : a + w ≤ n) : m.read a w = m'.read a w :=
  read_congr fun i hi => h (a + i) (by omega)

theorem AgreeBelow.loadLe_eq {m m' : ByteMem} {n a w : Nat} (h : AgreeBelow m m' n)
    (hw : a + w ≤ n) : m.loadLe a w = m'.loadLe a w := by
  rw [loadLe, loadLe, h.read_eq hw]

/-- A run stored at address `0` over two memories: they agree below its end and beyond it
wherever the memories did. -/
theorem agreeBelow_write_zero {m m' : ByteMem} {k : Nat} (bs : List UInt8)
    (h : ∀ a, bs.length ≤ a → a < k → m a = m' a) :
    AgreeBelow (m.write 0 bs) (m'.write 0 bs) k := by
  intro a ha
  by_cases hlt : a < bs.length
  · rw [write_apply_of_mem (Nat.zero_le a) (by omega), write_apply_of_mem (Nat.zero_le a) (by omega)]
  · rw [write_apply_of_ge (by omega), write_apply_of_ge (by omega)]
    exact h a (by omega) ha

end ByteMem

end MuPlus
