import Mathlib

/-!
# MuPlus.Lib.KeyedList

**Lists looked up by key, first match first.** A list of records with a key is a
table whose lookup of `x` is the first record with key `x` (`List.find?`). A pass
over such a table that keeps every record's key and rewrites some of them relates the
old and new lists position by position (`List.Forall₂ R`). What such a pass does to
lookups follows from the relation alone:

* `forall₂_map_key` — the keys are the same, position by position;
* `forall₂_find?_key_filter`, `forall₂_find?_key_right` — the first record for a key
  in the new list (after a filter) sits where the first one sat in the old;
* `forall₂_find?_key_of_nodup` — with distinct keys, each old record's key finds the
  new record at its position.

The rewrite of the first record for a key is `List.replaceF` with a function that
answers only that key (`replaceKey`); its lemmas say how it meets `Forall₂`,
lookups, appends and predicates on the members.
-/

namespace MuPlus.KeyedList

variable {α κ : Type} [DecidableEq κ] (key : α → κ)

/-- Rewrites the first record with key `x` by `g`. -/
def replaceKey (x : κ) (g : α → α) (l : List α) : List α :=
  l.replaceF fun a => if key a = x then some (g a) else none

variable {key}

/-! ### `replaceKey` -/

theorem replaceKey_cons_of_eq {x : κ} {g : α → α} {a : α} (l : List α) (h : key a = x) :
    replaceKey key x g (a :: l) = g a :: l := by
  simp [replaceKey, h]

theorem replaceKey_cons_of_ne {x : κ} {g : α → α} {a : α} (l : List α) (h : key a ≠ x) :
    replaceKey key x g (a :: l) = a :: replaceKey key x g l := by
  simp [replaceKey, h]

/-- A rewrite whose key is in the first part stays there. -/
theorem replaceKey_append_of_mem {x : κ} {g : α → α} {l₁ : List α} (l₂ : List α)
    (h : ∃ a ∈ l₁, key a = x) :
    replaceKey key x g (l₁ ++ l₂) = replaceKey key x g l₁ ++ l₂ := by
  induction l₁ with
  | nil => simp at h
  | cons a l₁ ih =>
      by_cases ha : key a = x
      · simp [replaceKey_cons_of_eq _ ha]
      · have h' : ∃ b ∈ l₁, key b = x := by
          obtain ⟨b, hb, hbx⟩ := h
          rcases List.mem_cons.mp hb with rfl | hb
          · exact absurd hbx ha
          · exact ⟨b, hb, hbx⟩
        rw [List.cons_append, replaceKey_cons_of_ne _ ha, replaceKey_cons_of_ne _ ha, ih h',
          List.cons_append]

/-- A rewrite whose key is not in the first part acts on the second. -/
theorem replaceKey_append_of_not_mem {x : κ} {g : α → α} {l₁ : List α} (l₂ : List α)
    (h : ∀ a ∈ l₁, key a ≠ x) :
    replaceKey key x g (l₁ ++ l₂) = l₁ ++ replaceKey key x g l₂ := by
  induction l₁ with
  | nil => rfl
  | cons a l₁ ih =>
      have ha : key a ≠ x := h a List.mem_cons_self
      rw [List.cons_append, replaceKey_cons_of_ne _ ha,
        ih fun b hb => h b (List.mem_cons_of_mem _ hb), List.cons_append]

/-- A key-keeping rewrite keeps the keys. -/
theorem map_key_replaceKey {x : κ} {g : α → α} (hg : ∀ a, key (g a) = key a) (l : List α) :
    (replaceKey key x g l).map key = l.map key := by
  induction l with
  | nil => rfl
  | cons a l ih =>
      by_cases ha : key a = x
      · simp [replaceKey_cons_of_eq _ ha, hg]
      · simp [replaceKey_cons_of_ne _ ha, ih]

/-- A predicate that holds of every member, and that `g` keeps on records with key `x`,
holds of every member after the rewrite. -/
theorem forall_mem_replaceKey {x : κ} {g : α → α} {Q : α → Prop} {l : List α}
    (hl : ∀ a ∈ l, Q a) (hg : ∀ a, key a = x → Q a → Q (g a)) :
    ∀ a ∈ replaceKey key x g l, Q a := by
  induction l with
  | nil => simp [replaceKey]
  | cons b l ih =>
      have hb := hl b List.mem_cons_self
      have hl' : ∀ a ∈ l, Q a := fun a ha => hl a (List.mem_cons_of_mem _ ha)
      by_cases hbx : key b = x
      · rw [replaceKey_cons_of_eq _ hbx]
        intro a ha
        rcases List.mem_cons.mp ha with rfl | ha
        · exact hg b hbx hb
        · exact hl' a ha
      · rw [replaceKey_cons_of_ne _ hbx]
        intro a ha
        rcases List.mem_cons.mp ha with rfl | ha
        · exact hb
        · exact ih hl' a ha

/-- The lookup of the rewritten key finds the rewritten record. -/
theorem find?_replaceKey_self {x : κ} {g : α → α} (hg : ∀ a, key (g a) = key a) (l : List α) :
    (replaceKey key x g l).find? (key · = x) = (l.find? (key · = x)).map g := by
  induction l with
  | nil => rfl
  | cons a l ih =>
      by_cases ha : key a = x
      · simp [replaceKey_cons_of_eq _ ha, hg, ha]
      · simp [replaceKey_cons_of_ne _ ha, ha, ih]

/-- The lookup of any other key is untouched. -/
theorem find?_replaceKey_of_ne {x y : κ} {g : α → α} (hg : ∀ a, key (g a) = key a) (hxy : y ≠ x)
    (l : List α) :
    (replaceKey key x g l).find? (key · = y) = l.find? (key · = y) := by
  induction l with
  | nil => rfl
  | cons a l ih =>
      by_cases ha : key a = x
      · have hay : key a ≠ y := fun h => hxy (h.symm.trans ha)
        simp [replaceKey_cons_of_eq _ ha, hg, hay]
      · by_cases hay : key a = y
        · simp [replaceKey_cons_of_ne _ ha, hay]
        · simp [replaceKey_cons_of_ne _ ha, hay, ih]

/-! ### Position-wise relations that keep keys -/

section Forall₂

variable {R : α → α → Prop} (hR : ∀ a b, R a b → key b = key a)
include hR

omit [DecidableEq κ] in
/-- The related lists have the same keys. -/
theorem forall₂_map_key {l m : List α} (h : List.Forall₂ R l m) : m.map key = l.map key := by
  induction h with
  | nil => rfl
  | cons hab _ ih => simp [hR _ _ hab, ih]

/-- The first record for `x` in the old list is related to a record which, unless the
filter drops it, is the first for `x` in the filtered new list. -/
theorem forall₂_find?_key_filter {l m : List α} (h : List.Forall₂ R l m) {x : κ} {a : α}
    (q : α → Bool) (ha : l.find? (key · = x) = some a) :
    ∃ b, R a b ∧ (q b = true → (m.filter q).find? (key · = x) = some b) := by
  induction h with
  | nil => simp at ha
  | @cons a' b' l m hab _ ih =>
      by_cases hx : key a' = x
      · simp only [List.find?_cons, hx, decide_true, Option.some.injEq] at ha
        subst ha
        refine ⟨b', hab, fun hq => ?_⟩
        simp [hq, hR _ _ hab, hx]
      · simp only [List.find?_cons, hx, decide_false] at ha
        obtain ⟨b, hb, hfind⟩ := ih ha
        refine ⟨b, hb, fun hq => ?_⟩
        have hb' : key b' ≠ x := by rw [hR _ _ hab]; exact hx
        by_cases hqb : q b' = true
        · simp [hqb, hb', hfind hq]
        · simp [hqb, hfind hq]

/-- The first record for `x` in the new list is related to the first for `x` in the old. -/
theorem forall₂_find?_key_right {l m : List α} (h : List.Forall₂ R l m) {x : κ} {b : α}
    (hb : m.find? (key · = x) = some b) : ∃ a, R a b ∧ l.find? (key · = x) = some a := by
  induction h with
  | nil => simp at hb
  | @cons a' b' l m hab _ ih =>
      by_cases hx : key b' = x
      · simp only [List.find?_cons, hx, decide_true, Option.some.injEq] at hb
        subst hb
        refine ⟨a', hab, ?_⟩
        simp [← hR _ _ hab, hx]
      · simp only [List.find?_cons, hx, decide_false] at hb
        obtain ⟨a, ha, hfind⟩ := ih hb
        have ha' : key a' ≠ x := by rw [← hR _ _ hab]; exact hx
        exact ⟨a, ha, by simp [ha', hfind]⟩

/-- With distinct keys, the key of each old record finds the new record at its
position. -/
theorem forall₂_find?_key_of_nodup {l m : List α} (h : List.Forall₂ R l m)
    (hnd : (l.map key).Nodup) {a : α} (ha : a ∈ l) :
    ∃ b, R a b ∧ m.find? (key · = key a) = some b := by
  induction h with
  | nil => simp at ha
  | @cons a' b' l m hab hrest ih =>
      rw [List.map_cons, List.nodup_cons] at hnd
      rcases List.mem_cons.mp ha with rfl | ha
      · exact ⟨b', hab, by simp [hR _ _ hab]⟩
      · have hne : key b' ≠ key a := by
          rw [hR _ _ hab]
          intro heq
          exact hnd.1 (heq ▸ List.mem_map_of_mem ha)
        obtain ⟨b, hb, hfind⟩ := ih hnd.2 ha
        exact ⟨b, hb, by simp [hne, hfind]⟩

end Forall₂

/-- Rewriting the first record for `x` keeps a position-wise relation when the relation
holds of the rewritten record. -/
theorem forall₂_replaceKey {R : α → α → Prop} {l m : List α} (h : List.Forall₂ R l m) {x : κ}
    {g : α → α} {b : α} (hb : m.find? (key · = x) = some b) (hg : ∀ a, R a b → R a (g b)) :
    List.Forall₂ R l (replaceKey key x g m) := by
  induction h with
  | nil => simp at hb
  | @cons a' b' l m hab hrest ih =>
      by_cases hx : key b' = x
      · simp only [List.find?_cons, hx, decide_true, Option.some.injEq] at hb
        subst hb
        rw [replaceKey_cons_of_eq _ hx]
        exact .cons (hg a' hab) hrest
      · simp only [List.find?_cons, hx, decide_false] at hb
        rw [replaceKey_cons_of_ne _ hx]
        exact .cons hab (ih hb)

/-! ### Distinct keys -/

/-- With distinct keys, a record is the first for its key. -/
theorem find?_key_of_nodup {l : List α} (hnd : (l.map key).Nodup) {a : α} (ha : a ∈ l) :
    l.find? (key · = key a) = some a := by
  induction l with
  | nil => exact absurd ha List.not_mem_nil
  | cons a' l ih =>
      rw [List.map_cons, List.nodup_cons] at hnd
      rcases List.mem_cons.mp ha with rfl | ha
      · simp
      · have hne : key a' ≠ key a := fun heq => hnd.1 (heq ▸ List.mem_map_of_mem ha)
        simp [hne, ih hnd.2 ha]

/-- With distinct keys, dropping the records with the key of the one at `i` drops that one
alone. -/
theorem filter_key_ne_getElem_of_nodup {l : List α} (hnd : (l.map key).Nodup) {i : Nat}
    (hi : i < l.length) : l.filter (key · ≠ key l[i]) = l.eraseIdx i := by
  induction l generalizing i with
  | nil => exact absurd hi (Nat.not_lt_zero i)
  | cons a l ih =>
      rw [List.map_cons, List.nodup_cons] at hnd
      cases i with
      | zero =>
          -- no later record has the first one's key
          have hrest : l.filter (key · ≠ key a) = l := List.filter_eq_self.mpr fun b hb => by
            have hne : key b ≠ key a := fun heq => hnd.1 (heq ▸ List.mem_map_of_mem hb)
            simpa using hne
          simp only [List.getElem_cons_zero]
          rw [List.filter_cons_of_neg (by simp), List.eraseIdx_cons_zero, hrest]
      | succ i =>
          have hi' : i < l.length := by simpa using hi
          have hne : key a ≠ key l[i] := fun heq =>
            hnd.1 (heq ▸ List.mem_map_of_mem (List.getElem_mem hi'))
          simp only [List.getElem_cons_succ]
          rw [List.filter_cons_of_pos (by simpa using hne), List.eraseIdx_cons_succ, ih hnd.2 hi']

end MuPlus.KeyedList
