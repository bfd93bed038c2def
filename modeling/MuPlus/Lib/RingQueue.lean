import Mathlib

/-!
# MuPlus.Lib.RingQueue

**A ring of `n + 1` slots used as a FIFO of at most `n` items.** `head` is the slot of the
oldest item and `tail` the slot the next item is written to; the ring is empty when they are
equal and full when the slot after `tail` is `head`, so one slot always stays unused. Pushing
onto a full ring first drops its oldest item. Slots outside the items keep whatever they held.

The abstract view is the list of items, oldest first, and `boundedPush` is the push of a FIFO
that drops its oldest item when it already holds `n`. This module provides:

* `Represents q xs`, the ring `q` holds the items `xs`, with `represents_init`;
* one lemma per operation in terms of the items: `Represents.isEmpty_eq`,
  `Represents.isFull_iff`, `Represents.enqueue` (and `Represents.enqueueAll` for a list),
  `Represents.dequeue_nil` and `Represents.dequeue_cons`;
* `items`, the items of any ring, which it represents (`represents_items`) and which are the
  only ones it represents (`Represents.eq_items`).
-/

namespace MuPlus

/-- A ring buffer of `n + 1` slots with its read and write positions. -/
structure RingQueue (α : Type) (n : Nat) where
  buffer : Fin (n + 1) → α
  head : Fin (n + 1)
  tail : Fin (n + 1)

namespace RingQueue

variable {α : Type} {n : Nat}

/-- An empty ring over the given slots, both positions at slot 0. -/
def init (buffer : Fin (n + 1) → α) : RingQueue α n :=
  ⟨buffer, 0, 0⟩

/-- No item is stored: the positions meet. -/
def isEmpty (q : RingQueue α n) : Bool :=
  q.head == q.tail

/-- `n` items are stored: the slot after `tail` is `head`. -/
def isFull (q : RingQueue α n) : Bool :=
  q.tail + 1 == q.head

/-- Store `x` at `tail`, first dropping the oldest item when the ring is full. -/
def enqueue (q : RingQueue α n) (x : α) : RingQueue α n :=
  { buffer := Function.update q.buffer q.tail x
    head := if q.isFull then q.head + 1 else q.head
    tail := q.tail + 1 }

/-- Take the oldest item out, or `none` when the ring is empty. -/
def dequeue (q : RingQueue α n) : Option (α × RingQueue α n) :=
  if q.isEmpty then none else some (q.buffer q.head, { q with head := q.head + 1 })

/-- The FIFO the ring implements: push `x`, dropping the oldest item when `n` are held. -/
def boundedPush (n : Nat) (xs : List α) (x : α) : List α :=
  if xs.length < n then xs ++ [x] else (xs ++ [x]).tail

@[simp] theorem boundedPush_of_lt {xs : List α} (h : xs.length < n) (x : α) :
    boundedPush n xs x = xs ++ [x] := by
  rw [boundedPush, if_pos h]

theorem length_boundedPush_le {xs : List α} (h : xs.length ≤ n) (x : α) :
    (boundedPush n xs x).length ≤ n := by
  rw [boundedPush]
  split_ifs <;> simp <;> omega

/-- While the items fit, pushing a list appends it. -/
theorem foldl_boundedPush_of_le {xs ys : List α} (h : xs.length + ys.length ≤ n) :
    ys.foldl (boundedPush n) xs = xs ++ ys := by
  induction ys generalizing xs with
  | nil => rw [List.foldl_nil, List.append_nil]
  | cons y ys ih =>
    rw [List.foldl_cons, boundedPush_of_lt (by simp at h; omega),
      ih (by simp at h ⊢; omega), List.append_assoc, List.singleton_append]

theorem mem_boundedPush {xs : List α} {x y : α} (h : y ∈ boundedPush n xs x) :
    y ∈ xs ∨ y = x := by
  rw [boundedPush] at h
  split_ifs at h
  · simpa using h
  · simpa using List.mem_of_mem_tail h

theorem mem_foldl_boundedPush {xs ys : List α} {y : α} (h : y ∈ ys.foldl (boundedPush n) xs) :
    y ∈ xs ∨ y ∈ ys := by
  induction ys generalizing xs with
  | nil => exact .inl h
  | cons z ys ih =>
    rcases ih h with h | h
    · rcases mem_boundedPush h with h | rfl
      · exact .inl h
      · exact .inr List.mem_cons_self
    · exact .inr (List.mem_cons_of_mem _ h)

/-! ### Slots counted from `head` -/

/-- The slot `i` places after `head`, going round the ring. -/
def slot (q : RingQueue α n) (i : Nat) : Fin (n + 1) :=
  ⟨(q.head + i) % (n + 1), Nat.mod_lt _ n.succ_pos⟩

theorem slot_zero (q : RingQueue α n) : q.slot 0 = q.head :=
  Fin.ext (Nat.mod_eq_of_lt q.head.isLt)

theorem slot_add_one (q : RingQueue α n) (i : Nat) : q.slot i + 1 = q.slot (i + 1) := by
  apply Fin.ext
  rw [Fin.val_add, Fin.val_one', slot, slot, Nat.mod_add_mod, Nat.add_mod_mod, Nat.add_assoc]

/-- Within one turn of the ring, different places after `head` are different slots. -/
theorem slot_injective (q : RingQueue α n) {i j : Nat} (hi : i < n + 1) (hj : j < n + 1)
    (h : q.slot i = q.slot j) : i = j := by
  have hmod : (q.head : Nat) + i ≡ q.head + j [MOD n + 1] := Fin.val_eq_of_eq h
  exact (Nat.ModEq.add_left_cancel' _ hmod).eq_of_lt_of_lt hi hj

/-- Counting from the slot after `head` is counting from `head` one place further. -/
theorem slot_of_head_add_one (q : RingQueue α n) (buffer : Fin (n + 1) → α) (tail : Fin (n + 1))
    (i : Nat) : (⟨buffer, q.head + 1, tail⟩ : RingQueue α n).slot i = q.slot (i + 1) := by
  apply Fin.ext
  simp only [slot, Fin.val_add, Fin.val_one', Nat.mod_add_mod, Nat.add_mod_mod]
  rw [Nat.add_assoc, Nat.add_comm 1 i]

/-! ### The items a ring holds -/

/-- The ring `q` holds the items `xs`, oldest first: at most `n` of them, `tail` just past the
last, and item `i` in the slot `i` places after `head`. -/
structure Represents (q : RingQueue α n) (xs : List α) : Prop where
  length_le : xs.length ≤ n
  tail_eq : q.tail = q.slot xs.length
  get : ∀ i (h : i < xs.length), q.buffer (q.slot i) = xs[i]

theorem represents_init (buffer : Fin (n + 1) → α) : Represents (init buffer) [] where
  length_le := Nat.zero_le n
  tail_eq := (slot_zero (init buffer)).symm
  get := fun _ h => absurd h (Nat.not_lt_zero _)

section Represents

variable {q : RingQueue α n} {xs : List α}

theorem Represents.isEmpty_eq (hq : Represents q xs) : q.isEmpty = xs.isEmpty := by
  have hiff : q.head = q.tail ↔ xs = [] := by
    rw [hq.tail_eq, ← slot_zero q]
    constructor
    · intro h
      exact List.eq_nil_of_length_eq_zero
        (q.slot_injective (by omega) (by have := hq.length_le; omega) h).symm
    · rintro rfl
      rfl
  cases xs with
  | nil => simpa [isEmpty] using hiff.mpr rfl
  | cons x xs => simpa [isEmpty] using hiff.not.mpr (List.cons_ne_nil x xs)

theorem Represents.isFull_iff (hq : Represents q xs) : q.isFull = true ↔ xs.length = n := by
  have hlen := hq.length_le
  rw [isFull, beq_iff_eq, hq.tail_eq, slot_add_one, ← slot_zero q]
  constructor
  · -- short of full, the place after the items is still inside the first turn
    intro h
    by_contra hne
    have := q.slot_injective (by omega) (by omega) h
    omega
  · intro h
    apply Fin.ext
    simp only [slot, h, Nat.add_zero, Nat.add_mod_right]

/-- Pushing onto the ring pushes onto its items, dropping the oldest when it is full. -/
theorem Represents.enqueue (hq : Represents q xs) (x : α) :
    Represents (q.enqueue x) (boundedPush n xs x) := by
  have hlen := hq.length_le
  -- the written slot is the place after every item; no item sits there
  have hfresh : ∀ i < xs.length, q.slot i ≠ q.tail := by
    intro i hi h
    rw [hq.tail_eq] at h
    have := q.slot_injective (by omega) (by omega) h
    omega
  have hbuf : ∀ i (hi : i < (xs ++ [x]).length),
      Function.update q.buffer q.tail x (q.slot i) = (xs ++ [x])[i] := by
    intro i hi
    rw [List.length_append, List.length_singleton] at hi
    rcases Nat.lt_succ_iff_lt_or_eq.mp hi with hi | rfl
    · rw [Function.update_of_ne (hfresh i hi), hq.get i hi, List.getElem_append_left hi]
    · rw [← hq.tail_eq, Function.update_self]
      simp
  by_cases hfull : xs.length = n
  · -- full: `head` moves past the dropped item
    have hf : q.isFull = true := hq.isFull_iff.mpr hfull
    have hpush : boundedPush n xs x = (xs ++ [x]).tail := by
      rw [boundedPush, if_neg (by omega)]
    rw [hpush]
    refine ⟨by simp; omega, ?_, ?_⟩
    · simp only [RingQueue.enqueue, hf, if_true, slot_of_head_add_one, List.length_tail,
        List.length_append, List.length_singleton, Nat.add_sub_cancel, hq.tail_eq, slot_add_one]
    · intro i hi
      simp only [RingQueue.enqueue, hf, if_true, slot_of_head_add_one, List.getElem_tail]
      exact hbuf (i + 1) (by simp at hi ⊢; omega)
  · have hf : q.isFull = false := by
      rw [← Bool.not_eq_true, hq.isFull_iff]
      exact hfull
    rw [boundedPush_of_lt (by omega)]
    refine ⟨by simp; omega, ?_, ?_⟩
    · simp only [RingQueue.enqueue, hf, Bool.false_eq_true, if_false, List.length_append,
        List.length_singleton]
      rw [hq.tail_eq, slot_add_one]
      rfl
    · intro i hi
      simp only [RingQueue.enqueue, hf, Bool.false_eq_true, if_false]
      exact hbuf i hi

/-- Pushing a list item by item pushes each onto the items in turn. -/
theorem Represents.enqueueAll (hq : Represents q xs) (ys : List α) :
    Represents (ys.foldl RingQueue.enqueue q) (ys.foldl (boundedPush n) xs) := by
  induction ys generalizing q xs with
  | nil => exact hq
  | cons y ys ih => exact ih (hq.enqueue y)

theorem Represents.dequeue_nil (hq : Represents q []) : q.dequeue = none := by
  rw [dequeue, hq.isEmpty_eq, List.isEmpty_nil, if_pos rfl]

/-- Taking from the ring takes its oldest item, and the ring then holds the rest. -/
theorem Represents.dequeue_cons {x : α} (hq : Represents q (x :: xs)) :
    q.dequeue = some (x, { q with head := q.head + 1 }) ∧
      Represents { q with head := q.head + 1 } xs := by
  have hlen := hq.length_le
  refine ⟨?_, ?_⟩
  · rw [dequeue, hq.isEmpty_eq, List.isEmpty_cons, if_neg Bool.false_ne_true, ← slot_zero q,
      hq.get 0 (by simp)]
    rfl
  · refine ⟨by simp at hlen; omega, ?_, ?_⟩
    · rw [slot_of_head_add_one, hq.tail_eq, List.length_cons]
    · intro i hi
      rw [slot_of_head_add_one, hq.get (i + 1) (by simp; omega), List.getElem_cons_succ]

end Represents

/-! ### The items of any ring -/

/-- How many items the ring holds: the places from `head` round to `tail`. -/
def count (q : RingQueue α n) : Nat :=
  ((q.tail : Nat) + (n + 1) - q.head) % (n + 1)

/-- The items of the ring, oldest first. -/
def items (q : RingQueue α n) : List α :=
  (List.range q.count).map fun i => q.buffer (q.slot i)

theorem slot_count (q : RingQueue α n) : q.slot q.count = q.tail := by
  have hh := q.head.isLt
  have ht := q.tail.isLt
  apply Fin.ext
  simp only [slot, count]
  -- `count` is `tail - head`, or `tail + (n + 1) - head` when `tail` is behind `head`
  rcases Nat.lt_or_ge (q.tail : Nat) q.head with hlt | hge
  · rw [Nat.mod_eq_of_lt (a := q.tail + (n + 1) - q.head) (by omega),
      show (q.head : Nat) + (q.tail + (n + 1) - q.head) = q.tail + (n + 1) by omega,
      Nat.add_mod_right, Nat.mod_eq_of_lt ht]
  · rw [show (q.tail : Nat) + (n + 1) - q.head = (q.tail - q.head) + (n + 1) by omega,
      Nat.add_mod_right, Nat.mod_eq_of_lt (a := q.tail - q.head) (by omega),
      show (q.head : Nat) + (q.tail - q.head) = q.tail by omega, Nat.mod_eq_of_lt ht]

theorem represents_items (q : RingQueue α n) : Represents q q.items where
  length_le := by
    rw [items, List.length_map, List.length_range]
    exact Nat.lt_succ_iff.mp (Nat.mod_lt _ n.succ_pos)
  tail_eq := by rw [items, List.length_map, List.length_range, slot_count]
  get := fun i h => by simp [items]

/-- A ring holds exactly its `items`. -/
theorem Represents.eq_items {q : RingQueue α n} {xs : List α} (hq : Represents q xs) :
    xs = q.items := by
  have hq' := represents_items q
  have hlen : xs.length = q.items.length := by
    have h1 := hq.length_le
    have h2 := hq'.length_le
    exact q.slot_injective (by omega) (by omega) (hq.tail_eq.symm.trans hq'.tail_eq)
  apply List.ext_getElem hlen
  intro i h1 h2
  rw [← hq.get i h1, ← hq'.get i h2]

theorem items_enqueue (q : RingQueue α n) (x : α) :
    (q.enqueue x).items = boundedPush n q.items x :=
  ((represents_items q).enqueue x).eq_items.symm

theorem items_of_dequeue_none {q : RingQueue α n} (h : q.dequeue = none) : q.items = [] := by
  have hq := represents_items q
  rcases hitems : q.items with _ | ⟨y, ys⟩
  · rfl
  · rw [hitems] at hq
    rw [hq.dequeue_cons.1] at h
    cases h

/-- Taking an item out takes the first of the items. -/
theorem items_of_dequeue {q q' : RingQueue α n} {x : α} (h : q.dequeue = some (x, q')) :
    q.items = x :: q'.items := by
  have hq := represents_items q
  rcases hitems : q.items with _ | ⟨y, ys⟩
  · rw [hitems] at hq
    rw [hq.dequeue_nil] at h
    cases h
  · rw [hitems] at hq
    obtain ⟨hdequeue, hrest⟩ := hq.dequeue_cons
    rw [hdequeue, Option.some.injEq, Prod.mk.injEq] at h
    obtain ⟨rfl, rfl⟩ := h
    rw [← hrest.eq_items]

end RingQueue

end MuPlus
