import Mathlib

/-!
# MuPlus.Lib.Tiling

**Ranges laid back to back.** A bump allocator hands out ranges of naturals one
after another from a start address: `Tiles rs a b` says the ranges `rs`, each
given by its start and its size, sit in order from `a` and end at `b`.

From that one recursive fact follow the two properties an allocator is judged
by: the ranges are pairwise disjoint (`Tiles.pairwise_disjoint`) and together
they cover exactly `[a, b)` (`Tiles.mem_iff`). Handing out one more range at the
end keeps the tiling (`Tiles.snoc`).
-/

namespace MuPlus.Tiling

/-- The addresses `[start, start + size)` of the range `(start, size)`. -/
def ico (r : Nat × Nat) : Set Nat := Set.Ico r.1 (r.1 + r.2)

@[simp] theorem mem_ico {r : Nat × Nat} {x : Nat} : x ∈ ico r ↔ r.1 ≤ x ∧ x < r.1 + r.2 :=
  Iff.rfl

/-- The ranges `rs` lie back to back from `a` and end at `b`. -/
def Tiles : List (Nat × Nat) → Nat → Nat → Prop
  | [], a, b => a = b
  | r :: rs, a, b => r.1 = a ∧ Tiles rs (a + r.2) b

@[simp] theorem tiles_nil {a b : Nat} : Tiles [] a b ↔ a = b := Iff.rfl

@[simp] theorem tiles_cons {r : Nat × Nat} {rs : List (Nat × Nat)} {a b : Nat} :
    Tiles (r :: rs) a b ↔ r.1 = a ∧ Tiles rs (a + r.2) b := Iff.rfl

variable {rs : List (Nat × Nat)} {a b : Nat}

theorem Tiles.le (h : Tiles rs a b) : a ≤ b := by
  induction rs generalizing a with
  | nil => exact le_of_eq h
  | cons r rs ih => exact le_trans (Nat.le_add_right a r.2) (ih h.2)

/-- Every range of a tiling lies within it. -/
theorem Tiles.range_le (h : Tiles rs a b) : ∀ r ∈ rs, a ≤ r.1 ∧ r.1 + r.2 ≤ b := by
  induction rs generalizing a with
  | nil => simp
  | cons r rs ih =>
      intro r' hr'
      obtain ⟨hstart, hrest⟩ := h
      rcases List.mem_cons.mp hr' with rfl | hmem
      · exact ⟨le_of_eq hstart.symm, hstart ▸ hrest.le⟩
      · have := ih hrest r' hmem
        omega

/-- One more range at the end of a tiling extends it. -/
theorem Tiles.snoc (h : Tiles rs a b) (size : Nat) : Tiles (rs ++ [(b, size)]) a (b + size) := by
  induction rs generalizing a with
  | nil =>
      obtain rfl : a = b := h
      exact ⟨rfl, rfl⟩
  | cons r rs ih => exact ⟨h.1, ih h.2⟩

/-- Ranges whose starts are the running sums of the sizes before them tile from `a` to `a` plus
all the sizes. -/
theorem tiles_of_prefix_sums {start size : Nat → Nat} {a : Nat} (n : Nat)
    (h : ∀ i < n, start i = a + ∑ j ∈ Finset.range i, size j) :
    Tiles ((List.range n).map fun i => (start i, size i)) a (a + ∑ j ∈ Finset.range n, size j) := by
  induction n with
  | zero => simp
  | succ n ih =>
      -- the last range starts where the first `n` end
      have hlast := (ih fun i hi => h i (Nat.lt_succ_of_lt hi)).snoc (size n)
      rw [← h n (Nat.lt_succ_self n)] at hlast
      rw [List.range_succ, List.map_append, List.map_singleton, Finset.sum_range_succ,
        ← Nat.add_assoc, ← h n (Nat.lt_succ_self n)]
      exact hlast

/-- The ranges of a tiling cover exactly `[a, b)`. -/
theorem Tiles.mem_iff (h : Tiles rs a b) (x : Nat) : x ∈ Set.Ico a b ↔ ∃ r ∈ rs, x ∈ ico r := by
  induction rs generalizing a with
  | nil => simp [show a = b from h]
  | cons r rs ih =>
      obtain ⟨hstart, hrest⟩ := h
      have hle := hrest.le
      have hih := ih hrest
      simp only [List.mem_cons, exists_eq_or_imp, mem_ico, Set.mem_Ico] at hih ⊢
      -- `[a, b)` splits at the end of the first range
      rw [← hih]
      omega

/-- The ranges of a tiling are pairwise disjoint. -/
theorem Tiles.pairwise_disjoint (h : Tiles rs a b) :
    rs.Pairwise (fun r r' => Disjoint (ico r) (ico r')) := by
  induction rs generalizing a with
  | nil => exact List.Pairwise.nil
  | cons r rs ih =>
      obtain ⟨hstart, hrest⟩ := h
      refine List.Pairwise.cons (fun r' hr' => ?_) (ih hrest)
      -- every later range starts at or after the end of `r`
      have hafter := (hrest.range_le r' hr').1
      rw [Set.disjoint_left]
      intro x hx hx'
      simp only [mem_ico] at hx hx'
      omega

end MuPlus.Tiling
