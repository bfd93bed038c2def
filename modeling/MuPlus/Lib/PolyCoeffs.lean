import Mathlib

/-!
# MuPlus.Lib.PolyCoeffs

**Polynomials as lists of coefficients, highest degree first**, the way a codeword lies in
memory. `ofCoeffs` reads such a list by Horner's rule.

`addShifted g c i t` is one step of synthetic division: it adds `c` times the divisor's
coefficients `g` to the entries of `t` from index `i` on. `ofCoeffs_addShifted` says this adds
`c * X ^ e * g` to the polynomial of `t`, so a run of such steps keeps the class of `t` modulo
`g`. That invariant is what makes the entries left at the end a remainder.
-/

namespace MuPlus.PolyCoeffs

open Polynomial

variable {R : Type*} [CommRing R]

/-- The polynomial with coefficients `l`, highest degree first. -/
noncomputable def ofCoeffs (l : List R) : R[X] :=
  l.foldl (fun p c => p * X + C c) 0

theorem foldl_horner (p : R[X]) (l : List R) :
    l.foldl (fun p c => p * X + C c) p = p * X ^ l.length + ofCoeffs l := by
  induction l generalizing p with
  | nil => simp [ofCoeffs]
  | cons c l ih =>
    have hc : ofCoeffs (c :: l) = (0 * X + C c) * X ^ l.length + ofCoeffs l := ih _
    rw [List.foldl_cons, ih, hc, List.length_cons]
    ring

@[simp] theorem ofCoeffs_nil : ofCoeffs ([] : List R) = 0 := rfl

theorem ofCoeffs_cons (c : R) (l : List R) :
    ofCoeffs (c :: l) = C c * X ^ l.length + ofCoeffs l := by
  rw [ofCoeffs, List.foldl_cons, foldl_horner]
  ring

theorem ofCoeffs_append (l₁ l₂ : List R) :
    ofCoeffs (l₁ ++ l₂) = ofCoeffs l₁ * X ^ l₂.length + ofCoeffs l₂ := by
  rw [ofCoeffs, List.foldl_append, foldl_horner]
  rfl

@[simp] theorem ofCoeffs_replicate_zero (n : Nat) : ofCoeffs (List.replicate n (0 : R)) = 0 := by
  induction n with
  | zero => rfl
  | succ n ih => rw [List.replicate_succ, ofCoeffs_cons, ih, map_zero, zero_mul, add_zero]

/-- Leading zeros do not change the polynomial. -/
theorem ofCoeffs_replicate_zero_append (n : Nat) (l : List R) :
    ofCoeffs (List.replicate n 0 ++ l) = ofCoeffs l := by
  rw [ofCoeffs_append, ofCoeffs_replicate_zero, zero_mul, zero_add]

@[simp] theorem ofCoeffs_cons_zero (l : List R) : ofCoeffs (0 :: l) = ofCoeffs l :=
  ofCoeffs_replicate_zero_append 1 l

/-- Coefficient lists of one length add entry by entry. -/
theorem ofCoeffs_zipWith_add {l₁ l₂ : List R} (h : l₁.length = l₂.length) :
    ofCoeffs (List.zipWith (· + ·) l₁ l₂) = ofCoeffs l₁ + ofCoeffs l₂ := by
  induction l₁ generalizing l₂ with
  | nil => rw [List.length_nil] at h; rw [List.eq_nil_of_length_eq_zero h.symm]; simp
  | cons a l₁ ih =>
    rcases l₂ with _ | ⟨b, l₂⟩
    · exact absurd h (by simp)
    · have hl : l₁.length = l₂.length := by simpa using h
      rw [List.zipWith_cons_cons, ofCoeffs_cons, ofCoeffs_cons, ofCoeffs_cons, ih hl,
        List.length_zipWith, hl, Nat.min_self, C_add]
      ring

theorem ofCoeffs_map_mul (c : R) (l : List R) :
    ofCoeffs (l.map (c * ·)) = C c * ofCoeffs l := by
  induction l with
  | nil => simp
  | cons a l ih =>
    rw [List.map_cons, ofCoeffs_cons, ofCoeffs_cons, ih, List.length_map, C_mul]
    ring

/-- Changing entry `k` changes the coefficient of `X ^ (l.length - 1 - k)`. -/
theorem ofCoeffs_modify (f : R → R) {l : List R} {k : Nat} (hk : k < l.length) :
    ofCoeffs (l.modify k f) = ofCoeffs l + C (f l[k] - l[k]) * X ^ (l.length - 1 - k) := by
  induction l generalizing k with
  | nil => exact absurd hk (Nat.not_lt_zero k)
  | cons c l ih =>
    rcases k with _ | k
    · rw [List.modify_zero_cons, ofCoeffs_cons, ofCoeffs_cons, List.length_cons, C_sub]
      simp only [List.getElem_cons_zero, Nat.add_sub_cancel, Nat.sub_zero]
      ring
    · have hk' : k < l.length := by simpa using hk
      rw [List.modify_succ_cons, ofCoeffs_cons, ofCoeffs_cons, List.length_modify, ih hk']
      simp only [List.getElem_cons_succ, List.length_cons,
        show l.length + 1 - 1 - (k + 1) = l.length - 1 - k by omega]
      ring

/-- A list of `n` coefficients is a polynomial of degree below `n`. -/
theorem degree_ofCoeffs_lt (l : List R) : degree (ofCoeffs l) < l.length := by
  induction l with
  | nil => simp
  | cons c l ih =>
    rw [ofCoeffs_cons, List.length_cons]
    have hlt : (l.length : WithBot Nat) < ↑(l.length + 1) := by exact_mod_cast Nat.lt_succ_self _
    exact (degree_add_le _ _).trans_lt (max_lt ((degree_C_mul_X_pow_le _ _).trans_lt hlt)
      (ih.trans hlt))

/-! ### Lists changed entry by entry -/

section Lists

variable {α β : Type*}

/-- A map through a `modify` is a `modify` of the map, when the map carries the change. -/
theorem map_modify (g : α → β) {f : α → α} {f' : β → β} (h : ∀ x, g (f x) = f' (g x)) :
    ∀ (l : List α) (k : Nat), (l.modify k f).map g = (l.map g).modify k f'
  | [], _ => by rw [List.modify_nil, List.map_nil, List.modify_nil]
  | a :: l, 0 => by rw [List.modify_zero_cons, List.map_cons, List.map_cons, h,
      List.modify_zero_cons]
  | a :: l, k + 1 => by rw [List.modify_succ_cons, List.map_cons, List.map_cons,
      map_modify g h l k, List.modify_succ_cons]

theorem getD_modify (f : α → α) (l : List α) (k p : Nat) (d : α) :
    (l.modify k f).getD p d = if k = p ∧ p < l.length then f (l.getD p d) else l.getD p d := by
  rw [List.getD_eq_getElem?_getD, List.getElem?_modify, List.getD_eq_getElem?_getD]
  by_cases hp : p < l.length
  · rw [List.getElem?_eq_getElem hp]
    by_cases hk : k = p <;> simp [hk, hp]
  · rw [List.getElem?_eq_none (by omega)]
    simp [hp]

theorem length_foldl_modify (F : Nat → α → α) (i : Nat) (t : List α) (n : Nat) :
    ((List.range n).foldl (fun t j => t.modify (i + j) (F j)) t).length = t.length := by
  induction n with
  | zero => rfl
  | succ n ih => rw [List.range_succ, List.foldl_append, List.foldl_cons, List.foldl_nil,
      List.length_modify, ih]

/-- Entry `p` after changes at the indices `i, i + 1, …, i + n - 1`: changed once if it is one
of them. -/
theorem getD_foldl_modify (F : Nat → α → α) (i : Nat) (t : List α) (p : Nat) (d : α) (n : Nat) :
    ((List.range n).foldl (fun t j => t.modify (i + j) (F j)) t).getD p d =
      if i ≤ p ∧ p < i + n ∧ p < t.length then F (p - i) (t.getD p d) else t.getD p d := by
  induction n with
  | zero => rw [List.range_zero, List.foldl_nil, if_neg (by omega)]
  | succ n ih =>
    rw [List.range_succ, List.foldl_append, List.foldl_cons, List.foldl_nil, getD_modify,
      length_foldl_modify, ih]
    -- entry `i + n` is changed by the last step only; the others as before
    split_ifs <;> first
      | rfl
      | omega
      | rw [show p - i = n by omega]

/-- A map through changes at the indices `i + j`, `j ∈ js`, is the same changes of the map,
when the map carries each change. -/
theorem map_foldl_modify (g : α → β) {F : Nat → α → α} {F' : Nat → β → β} (i : Nat) :
    ∀ (js : List Nat), (∀ j ∈ js, ∀ x, g (F j x) = F' j (g x)) → ∀ t : List α,
      (js.foldl (fun t j => t.modify (i + j) (F j)) t).map g =
        js.foldl (fun t j => t.modify (i + j) (F' j)) (t.map g)
  | [], _, _ => rfl
  | j :: js, h, t => by
    rw [List.foldl_cons, List.foldl_cons,
      map_foldl_modify g i js (fun j' hj' => h j' (List.mem_cons_of_mem j hj')),
      map_modify g (h j List.mem_cons_self)]

/-- A list whose first `n` entries are the default starts with `n` copies of it. -/
theorem take_eq_replicate {l : List α} {n : Nat} {d : α} (hn : n ≤ l.length)
    (h : ∀ p < n, l.getD p d = d) : l.take n = List.replicate n d := by
  refine List.ext_getElem (by rw [List.length_take, List.length_replicate]; omega)
    fun p h₁ h₂ => ?_
  have hp : p < n := by rw [List.length_replicate] at h₂; exact h₂
  rw [List.getElem_take, List.getElem_replicate, ← List.getD_eq_getElem _ d, h p hp]

end Lists

/-- One step of synthetic division: `c` times the coefficients `g` added to `t` from index
`i` on. -/
def addShifted (g : List R) (c : R) (i : Nat) (t : List R) : List R :=
  (List.range g.length).foldl (fun t j => t.modify (i + j) (· + c * g.getD j 0)) t

@[simp] theorem length_addShifted (g : List R) (c : R) (i : Nat) (t : List R) :
    (addShifted g c i t).length = t.length :=
  length_foldl_modify _ i t g.length

/-- The first `n` additions of a step, as a sum of monomials. -/
theorem ofCoeffs_foldl_modify (g : List R) (c : R) {i : Nat} {t : List R} {n : Nat}
    (hn : i + n ≤ t.length) :
    ofCoeffs ((List.range n).foldl (fun t j => t.modify (i + j) (· + c * g.getD j 0)) t) =
      ofCoeffs t + ∑ m ∈ Finset.range n, C (c * g.getD m 0) * X ^ (t.length - 1 - (i + m)) := by
  induction n with
  | zero => simp
  | succ n ih =>
    have hlen := length_foldl_modify (fun j x => x + c * g.getD j 0) i t n
    rw [List.range_succ, List.foldl_append, List.foldl_cons, List.foldl_nil,
      ofCoeffs_modify _ (by rw [hlen]; omega), add_sub_cancel_left, ih (by omega), hlen,
      Finset.sum_range_succ, add_assoc]

/-- The coefficient sum of `ofCoeffs`: entry `m` is the coefficient of
`X ^ (l.length - 1 - m)`. -/
theorem ofCoeffs_eq_sum (l : List R) :
    ofCoeffs l = ∑ m ∈ Finset.range l.length, C (l.getD m 0) * X ^ (l.length - 1 - m) := by
  induction l with
  | nil => simp
  | cons c l ih =>
    rw [ofCoeffs_cons, ih, List.length_cons, Finset.sum_range_succ', add_comm]
    congr 1
    refine Finset.sum_congr rfl fun m _ => ?_
    rw [List.getD_cons_succ, show l.length + 1 - 1 - (m + 1) = l.length - 1 - m by omega]

/-- **A step of synthetic division adds `c * X ^ e * g`**, where `e` places the divisor's
last coefficient at the list's last entry from index `i + g.length - 1`. -/
theorem ofCoeffs_addShifted (g : List R) (c : R) {i : Nat} {t : List R}
    (h : i + g.length ≤ t.length) :
    ofCoeffs (addShifted g c i t) =
      ofCoeffs t + C c * X ^ (t.length - i - g.length) * ofCoeffs g := by
  rw [addShifted, ofCoeffs_foldl_modify g c h, ofCoeffs_eq_sum g, Finset.mul_sum]
  congr 1
  refine Finset.sum_congr rfl fun m hm => ?_
  rw [Finset.mem_range] at hm
  -- the monomials of `g`, each shifted by `e`, land on the entries `i + m`
  rw [C_mul, show t.length - 1 - (i + m) = t.length - i - g.length + (g.length - 1 - m) by omega,
    pow_add]
  ring

end MuPlus.PolyCoeffs
