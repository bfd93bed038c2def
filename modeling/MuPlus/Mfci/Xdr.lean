import MuPlus.Mfci.Dxe

/-!
# MuPlus.Mfci.Xdr

**The certificate buffer of `ValidateBlobWithXdrCertificates`** (`MfciPkg/MfciDxe/MfciDxe.c`):
an XDR list, each entry a big-endian `UINT32` length `L`, `L` bytes of key and padding to a
multiple of 4 bytes.

The loop walks the buffer an entry at a time and tries each key as it finds it, so what it
does is fixed by two things: the walk of the buffer (`xdrWalk`, the entries found and whether
the walk ended at the end of the buffer or at an entry that does not fit) and the order of
the attempts (`tryKeys`). `loop_eq_tryKeys` splits the loop into the two.

## Results

* `xdrWalk_bounds`: every length field and every key the walk reads lies in the buffer;
* `xdrWalk_of_xdrList` and `xdrList_of_xdrWalk`: the walk ends at the end of the buffer
  exactly when the buffer is an XDR list, and then it finds the listed keys;
* `validateBlobWithXdrCertificates_spec`: on a well-formed list the routine tries the listed
  keys in order up to the first that validates, and returns the last status if none does;
  on any other buffer it tries the entries before the first that does not fit and returns
  `EFI_ABORTED` if none validates — but `EFI_SUCCESS` if one does
  (`malformed_list_validates`).
-/

namespace MuPlus.Mfci

open Interaction

/-! ### The walk and the attempts -/

/-- The entries the loop of `ValidateBlobWithXdrCertificates` finds from offset
`publicKeyDataCurrent`: the offset and length of each key, and whether the walk ends at the
end of the buffer (`true`) or at an entry that does not fit (`false`). -/
def xdrWalk (certificates : List UInt8) : Nat → Nat → List (Nat × Nat) × Bool
  | 0, _ => ([], false)
  | fuel + 1, publicKeyDataCurrent =>
      if certificates.length < publicKeyDataCurrent + 4 then ([], false)
      else
        let publicKeyDataLength := beValue32 ((certificates.drop publicKeyDataCurrent).take 4)
        let publicKeyData := publicKeyDataCurrent + 4
        if certificates.length < publicKeyData + alignValue4 publicKeyDataLength then ([], false)
        else
          let next := alignValue4 (publicKeyData + publicKeyDataLength)
          if next < certificates.length then
            ((publicKeyData, publicKeyDataLength) :: (xdrWalk certificates fuel next).1,
              (xdrWalk certificates fuel next).2)
          else ([(publicKeyData, publicKeyDataLength)], true)

/-- The key at an entry's offset and length. -/
def keySlice (certificates : List UInt8) (entry : Nat × Nat) : List UInt8 :=
  (certificates.drop entry.1).take entry.2

/-- Try the keys in order and stop at the first `ValidateBlob` accepts. After the last key
fails, a list that ended at the end of the buffer returns its status, and one that ended at a
malformed entry returns `EFI_ABORTED`. -/
def tryKeys (signedPolicy : List UInt8) (wellFormed : Bool) : List (List UInt8) → MfciProg EfiStatus
  | [] => pure .aborted
  | key :: keys => do
      let status ← validateBlob signedPolicy key
      if !status.isError then pure status
      else if keys = [] ∧ wellFormed = true then pure status
      else tryKeys signedPolicy wellFormed keys

/-- A walk that finds no entry has ended at a malformed one. -/
theorem xdrWalk_wellFormed_of_nil {certificates : List UInt8} {fuel pos : Nat}
    (h : (xdrWalk certificates fuel pos).1 = []) : (xdrWalk certificates fuel pos).2 = false := by
  cases fuel with
  | zero => rfl
  | succ fuel =>
      simp only [xdrWalk] at h ⊢
      split_ifs at h ⊢ <;> rfl

/-- **The loop is the walk followed by the attempts.** -/
theorem loop_eq_tryKeys (signedPolicy certificates : List UInt8) (fuel publicKeyDataCurrent : Nat) :
    validateBlobWithXdrCertificatesLoop signedPolicy certificates fuel publicKeyDataCurrent =
      tryKeys signedPolicy (xdrWalk certificates fuel publicKeyDataCurrent).2
        ((xdrWalk certificates fuel publicKeyDataCurrent).1.map (keySlice certificates)) := by
  induction fuel generalizing publicKeyDataCurrent with
  | zero => rfl
  | succ fuel ih =>
      simp only [validateBlobWithXdrCertificatesLoop, xdrWalk]
      split_ifs with hshort hover hnext
      · rfl
      · rfl
      · -- More entries follow: after a failure, the loop goes on with the next one.
        simp only [List.map_cons, tryKeys, keySlice]
        congr 1
        funext status
        rw [ih]
        by_cases hrest : (xdrWalk certificates fuel
            (alignValue4 (publicKeyDataCurrent + 4 +
              beValue32 ((certificates.drop publicKeyDataCurrent).take 4)))).1 = []
        · -- No entry after this one: the walk ended at a malformed one.
          simp [hrest, xdrWalk_wellFormed_of_nil hrest]
        · simp [hrest]
      · -- The last entry: after a failure, the loop returns its status, as `tryKeys` does.
        simp only [List.map_cons, List.map_nil, tryKeys, keySlice]
        congr 1

/-! ### What the walk reads -/

theorem le_alignValue4 (v : Nat) : v ≤ alignValue4 v := by
  unfold alignValue4
  omega

/-- **Reads stay in the buffer.** Every entry the walk finds from `pos` has its length field
in `[e.1 - 4, e.1)` and its key, with its padding, in `[e.1, e.1 + alignValue4 e.2)`: after
`pos` and within the buffer. -/
theorem xdrWalk_bounds {certificates : List UInt8} {fuel pos : Nat} {e : Nat × Nat}
    (he : e ∈ (xdrWalk certificates fuel pos).1) :
    pos + 4 ≤ e.1 ∧ e.1 + alignValue4 e.2 ≤ certificates.length := by
  induction fuel generalizing pos with
  | zero => cases he
  | succ fuel ih =>
      simp only [xdrWalk] at he
      split_ifs at he with hshort hover hnext
      · cases he
      · cases he
      · rcases List.mem_cons.mp he with rfl | he
        · exact ⟨Nat.le_refl _, by dsimp only; omega⟩
        · -- A later entry: after the next offset, itself past this entry's length field.
          obtain ⟨hafter, hend⟩ := ih he
          have := le_alignValue4 (pos + 4 + beValue32 ((certificates.drop pos).take 4))
          exact ⟨by omega, hend⟩
      · rcases List.mem_singleton.mp he with rfl
        exact ⟨Nat.le_refl _, by dsimp only; omega⟩

/-- A key within the buffer is as long as its entry says. -/
theorem length_keySlice {certificates : List UInt8} {e : Nat × Nat}
    (he : e.1 + alignValue4 e.2 ≤ certificates.length) : (keySlice certificates e).length = e.2 := by
  have := le_alignValue4 e.2
  simp only [keySlice, List.length_take, List.length_drop]
  omega

/-! ### XDR lists -/

/-- `n` as a big-endian `UINT32`: the bytes `SwapBytes32` reads back as `n`. -/
def beBytes32 (n : Nat) : List UInt8 :=
  [(n / 2 ^ 24 % 256).toUInt8, (n / 2 ^ 16 % 256).toUInt8, (n / 2 ^ 8 % 256).toUInt8,
    (n % 256).toUInt8]

@[simp] theorem length_beBytes32 (n : Nat) : (beBytes32 n).length = 4 := rfl

theorem beValue32_beBytes32 {n : Nat} (hn : n < 2 ^ 32) : beValue32 (beBytes32 n) = n := by
  simp only [beValue32, beBytes32, List.foldl_cons, List.foldl_nil, Nat.toUInt8_eq,
    UInt8.toNat_ofNat', Nat.mod_mod]
  omega

/-- Four bytes read as a big-endian `UINT32` and written back are the same bytes. -/
theorem beBytes32_beValue32 {bs : List UInt8} (hbs : bs.length = 4) :
    beBytes32 (beValue32 bs) = bs := by
  match bs, hbs with
  | [a, b, c, d], _ =>
      have ha := a.toNat_lt
      have hb := b.toNat_lt
      have hc := c.toNat_lt
      have hd := d.toNat_lt
      simp only [beValue32, beBytes32, List.foldl_cons, List.foldl_nil, List.cons.injEq,
        ← UInt8.toNat_inj, Nat.toUInt8_eq, UInt8.toNat_ofNat', Nat.mod_mod, and_true]
      omega

theorem beValue32_lt {bs : List UInt8} (hbs : bs.length = 4) : beValue32 bs < 2 ^ 32 := by
  match bs, hbs with
  | [a, b, c, d], _ =>
      have ha := a.toNat_lt
      have hb := b.toNat_lt
      have hc := c.toNat_lt
      have hd := d.toNat_lt
      simp only [beValue32, List.foldl_cons, List.foldl_nil]
      omega

/-- `certificates` is an XDR list of the keys `certs`, at least one: each entry is the key's
length as a big-endian `UINT32`, the key, and padding (of any bytes) to a multiple of 4. -/
inductive XdrList : List UInt8 → List (List UInt8) → Prop
  | last {cert pad : List UInt8} (hlen : cert.length < 2 ^ 32)
      (hpad : cert.length + pad.length = alignValue4 cert.length) :
      XdrList (beBytes32 cert.length ++ cert ++ pad) [cert]
  | cons {cert pad rest : List UInt8} {certs : List (List UInt8)} (hlen : cert.length < 2 ^ 32)
      (hpad : cert.length + pad.length = alignValue4 cert.length) (hrest : XdrList rest certs) :
      XdrList (beBytes32 cert.length ++ cert ++ pad ++ rest) (cert :: certs)

/-- An XDR list holds at least 4 bytes for each key. -/
theorem XdrList.length_le {buf : List UInt8} {certs : List (List UInt8)} (h : XdrList buf certs) :
    4 * certs.length ≤ buf.length := by
  induction h with
  | last hlen hpad =>
      simp only [List.length_append, length_beBytes32, List.length_singleton]
      omega
  | cons hlen hpad hrest ih =>
      simp only [List.length_append, length_beBytes32, List.length_cons]
      omega

/-- From an aligned offset, an entry's padded end is its offset plus 4 plus the aligned length. -/
theorem alignValue4_entry {pos len : Nat} (hpos : pos % 4 = 0) :
    alignValue4 (pos + 4 + len) = pos + 4 + alignValue4 len := by
  unfold alignValue4
  omega

theorem alignValue4_mod (v : Nat) : alignValue4 v % 4 = 0 := by
  unfold alignValue4
  omega

/-- An XDR list holds at least one entry's length field. -/
theorem XdrList.four_le {buf : List UInt8} {certs : List (List UInt8)} (h : XdrList buf certs) :
    4 ≤ buf.length := by
  cases h <;> simp only [List.length_append, length_beBytes32] <;> omega

/-- `XdrList.last` with the length field given as a number. -/
theorem XdrList.last_of_length {cert pad : List UInt8} {len : Nat} (hcert : cert.length = len)
    (hlen : len < 2 ^ 32) (hpad : len + pad.length = alignValue4 len) :
    XdrList (beBytes32 len ++ cert ++ pad) [cert] := by
  subst hcert
  exact .last hlen hpad

/-- `XdrList.cons` with the length field given as a number. -/
theorem XdrList.cons_of_length {cert pad rest : List UInt8} {certs : List (List UInt8)} {len : Nat}
    (hcert : cert.length = len) (hlen : len < 2 ^ 32) (hpad : len + pad.length = alignValue4 len)
    (hrest : XdrList rest certs) : XdrList (beBytes32 len ++ cert ++ pad ++ rest) (cert :: certs) := by
  subst hcert
  exact .cons hlen hpad hrest

/-- The bytes of one entry at `pos`: the length field, the key, the padding, then the rest. -/
theorem drop_eq_entry {certificates : List UInt8} {pos len : Nat}
    (hlen : beValue32 ((certificates.drop pos).take 4) = len)
    (hfit : pos + 4 + alignValue4 len ≤ certificates.length) :
    certificates.drop pos =
      beBytes32 len ++ keySlice certificates (pos + 4, len) ++
        (certificates.drop (pos + 4 + len)).take (alignValue4 len - len) ++
        certificates.drop (pos + 4 + alignValue4 len) := by
  have hle := le_alignValue4 len
  have h4 : ((certificates.drop pos).take 4).length = 4 := by
    simp only [List.length_take, List.length_drop]
    omega
  -- Cut the suffix at the length field, the key, the padding and the next entry.
  have hfield : certificates.drop pos =
      (certificates.drop pos).take 4 ++ certificates.drop (pos + 4) := by
    have hsplit : certificates.drop (pos + 4) = (certificates.drop pos).drop 4 := by
      rw [List.drop_drop]
    rw [hsplit, List.take_append_drop]
  have hkey : certificates.drop (pos + 4) =
      keySlice certificates (pos + 4, len) ++ certificates.drop (pos + 4 + len) := by
    have hsplit : certificates.drop (pos + 4 + len) = (certificates.drop (pos + 4)).drop len := by
      rw [List.drop_drop]
    rw [hsplit]
    exact (List.take_append_drop len _).symm
  have hpad : certificates.drop (pos + 4 + len) =
      (certificates.drop (pos + 4 + len)).take (alignValue4 len - len) ++
        certificates.drop (pos + 4 + alignValue4 len) := by
    have hsplit : certificates.drop (pos + 4 + alignValue4 len) =
        (certificates.drop (pos + 4 + len)).drop (alignValue4 len - len) := by
      rw [List.drop_drop]
      congr 1
      omega
    rw [hsplit]
    exact (List.take_append_drop _ _).symm
  calc certificates.drop pos
      = (certificates.drop pos).take 4 ++ (keySlice certificates (pos + 4, len) ++
          ((certificates.drop (pos + 4 + len)).take (alignValue4 len - len) ++
            certificates.drop (pos + 4 + alignValue4 len))) := by
        rw [← hpad, ← hkey]
        exact hfield
    _ = _ := by
        rw [← hlen, beBytes32_beValue32 h4]
        simp only [List.append_assoc]

/-- The first entry of an XDR list at `pos`: its length, its key and where the rest starts. -/
theorem entry_of_drop_eq {certificates cert pad rest : List UInt8} {pos : Nat}
    (hbuf : certificates.drop pos = beBytes32 cert.length ++ cert ++ pad ++ rest)
    (hlen : cert.length < 2 ^ 32) (hpad : cert.length + pad.length = alignValue4 cert.length) :
    beValue32 ((certificates.drop pos).take 4) = cert.length ∧
      keySlice certificates (pos + 4, cert.length) = cert ∧
      certificates.drop (pos + 4 + alignValue4 cert.length) = rest ∧
      certificates.length = pos + 4 + alignValue4 cert.length + rest.length := by
  have hsize := congrArg List.length hbuf
  simp only [List.length_drop, List.length_append, length_beBytes32] at hsize
  have hassoc : beBytes32 cert.length ++ cert ++ pad ++ rest =
      beBytes32 cert.length ++ (cert ++ (pad ++ rest)) := by
    simp only [List.append_assoc]
  refine ⟨?_, ?_, ?_, by omega⟩
  · rw [hbuf, hassoc, List.take_left' (length_beBytes32 _), beValue32_beBytes32 hlen]
  · simp only [keySlice]
    rw [← List.drop_drop, hbuf, hassoc, List.drop_left' (length_beBytes32 _),
      List.take_left' rfl]
  · have hnext : pos + 4 + alignValue4 cert.length = pos + (4 + cert.length + pad.length) := by
      omega
    rw [hnext, ← List.drop_drop, hbuf, List.drop_left']
    simp only [List.length_append, length_beBytes32]

/-- **Every XDR list walks to its end.** From an aligned offset where an XDR list of `certs`
starts, the walk finds exactly the listed keys and ends at the end of the buffer. -/
theorem xdrWalk_of_xdrList {certificates : List UInt8} {certs : List (List UInt8)} {pos : Nat}
    (h : XdrList (certificates.drop pos) certs) (hpos : pos % 4 = 0) {fuel : Nat}
    (hfuel : certs.length ≤ fuel) :
    (xdrWalk certificates fuel pos).2 = true ∧
      (xdrWalk certificates fuel pos).1.map (keySlice certificates) = certs := by
  generalize hbuf : certificates.drop pos = buf at h
  induction h generalizing pos fuel with
  | @last cert pad hlen hpad =>
      obtain ⟨fuel, rfl⟩ : ∃ f, fuel = f + 1 := ⟨fuel - 1, by simp at hfuel; omega⟩
      obtain ⟨hval, hkey, -, hsize⟩ :=
        @entry_of_drop_eq certificates cert pad [] pos (by rw [hbuf]; simp) hlen hpad
      simp only [List.length_nil, Nat.add_zero] at hsize
      simp only [xdrWalk, hval]
      rw [if_neg (by omega), if_neg (by omega), alignValue4_entry hpos, if_neg (by omega)]
      exact ⟨rfl, by simp [hkey]⟩
  | @cons cert pad rest certs hlen hpad hrest ih =>
      obtain ⟨fuel, rfl⟩ : ∃ f, fuel = f + 1 := ⟨fuel - 1, by simp at hfuel; omega⟩
      obtain ⟨hval, hkey, hnext, hsize⟩ := entry_of_drop_eq hbuf hlen hpad
      have hrest4 := hrest.four_le
      have hpos' : (pos + 4 + alignValue4 cert.length) % 4 = 0 := by
        have := alignValue4_mod cert.length
        omega
      obtain ⟨hwf, hkeys⟩ := ih hpos' (by simp at hfuel; omega) hnext
      simp only [xdrWalk, hval]
      rw [if_neg (by omega), if_neg (by omega), alignValue4_entry hpos, if_pos (by omega)]
      exact ⟨hwf, by simp [hkey, hkeys]⟩

/-- **A walk that ends at the end of the buffer has read an XDR list.** -/
theorem xdrList_of_xdrWalk {certificates : List UInt8} {fuel pos : Nat} (hpos : pos % 4 = 0)
    (h : (xdrWalk certificates fuel pos).2 = true) :
    XdrList (certificates.drop pos) ((xdrWalk certificates fuel pos).1.map (keySlice certificates)) := by
  induction fuel generalizing pos with
  | zero => cases h
  | succ fuel ih =>
      simp only [xdrWalk] at h ⊢
      generalize hlen : beValue32 ((certificates.drop pos).take 4) = len at h ⊢
      have hlt : ¬certificates.length < pos + 4 → len < 2 ^ 32 := by
        intro hshort
        rw [← hlen]
        apply beValue32_lt
        simp only [List.length_take, List.length_drop]
        omega
      -- The two walks that stop at an entry that does not fit contradict `h`.
      split_ifs at h ⊢ with hshort hover hnext
      · -- An entry, then the XDR list the rest of the walk read.
        rw [alignValue4_entry hpos] at hnext h ⊢
        have hkey : (keySlice certificates (pos + 4, len)).length = len :=
          length_keySlice (by dsimp only; omega)
        have hnextpos : (pos + 4 + alignValue4 len) % 4 = 0 := by
          have := alignValue4_mod len
          omega
        rw [drop_eq_entry hlen (by omega), List.map_cons]
        refine XdrList.cons_of_length hkey (hlt hshort) ?_ (ih hnextpos h)
        simp only [List.length_take, List.length_drop]
        have := le_alignValue4 len
        omega
      · -- The last entry: its padding ends the buffer.
        rw [alignValue4_entry hpos] at hnext
        have hkey : (keySlice certificates (pos + 4, len)).length = len :=
          length_keySlice (by dsimp only; omega)
        have hend : certificates.length ≤ pos + 4 + alignValue4 len := by omega
        rw [drop_eq_entry hlen (by omega), List.drop_eq_nil_of_le hend, List.append_nil,
          List.map_cons, List.map_nil]
        refine XdrList.last_of_length hkey (hlt hshort) ?_
        simp only [List.length_take, List.length_drop]
        have := le_alignValue4 len
        omega

/-! ### The attempts -/

/-- The `ValidateBlob` calls on `keys` in order, with the answers `answers` (as many calls
as there are answers). -/
def blobEvents (signedPolicy : List UInt8) (keys : List (List UInt8)) (answers : List EfiStatus) :
    List MfciEvent :=
  (keys.zip answers).map fun ka => ⟨.validateBlob signedPolicy ka.1, ka.2⟩

/-- The status the attempts end with: `EFI_SUCCESS` once a key validates; after the last key
fails, its status if the list was well formed and `EFI_ABORTED` if not. -/
def attemptsStatus (wellFormed : Bool) (answers : List EfiStatus) : EfiStatus :=
  if .success ∈ answers then .success
  else if wellFormed then answers.getLastD .aborted
  else .aborted

/-- A run of attempts on `keys`: `ValidateBlob` was called on the first keys in order with
the answers `answers`, every answer but the last failed, and the attempts stopped before the
last key only at a success. -/
structure Attempts (signedPolicy : List UInt8) (keys : List (List UInt8)) (t : List MfciEvent)
    (answers : List EfiStatus) : Prop where
  length_le : answers.length ≤ keys.length
  events : t = blobEvents signedPolicy keys answers
  failed : ∀ a ∈ answers.dropLast, a ≠ .success
  stopped : answers.length < keys.length → .success ∈ answers

theorem mem_dropLast_cons {α : Type} {a b : α} {l : List α} (h : a ∈ (b :: l).dropLast) :
    a = b ∨ a ∈ l.dropLast := by
  cases l with
  | nil => simp at h
  | cons c l => simpa [List.dropLast_cons_cons] using h

/-- A failed attempt on `key`, then the attempts on `keys`. -/
theorem Attempts.cons {signedPolicy key : List UInt8} {keys : List (List UInt8)}
    {t : List MfciEvent} {answers : List EfiStatus} {r : EfiStatus}
    (h : Attempts signedPolicy keys t answers) (hr : r ≠ .success) :
    Attempts signedPolicy (key :: keys) (⟨.validateBlob signedPolicy key, r⟩ :: t) (r :: answers) where
  length_le := Nat.succ_le_succ h.length_le
  events := by rw [h.events]; rfl
  failed a ha := by
    rcases mem_dropLast_cons ha with rfl | ha
    · exact hr
    · exact h.failed a ha
  stopped hlt := List.mem_cons_of_mem _ (h.stopped (Nat.lt_of_succ_lt_succ hlt))

/-- A failure before other answers does not change the status they end with. -/
theorem attemptsStatus_cons {wellFormed : Bool} {a r : EfiStatus} {answers : List EfiStatus}
    (hr : r ≠ .success) :
    attemptsStatus wellFormed (r :: a :: answers) = attemptsStatus wellFormed (a :: answers) := by
  have hlast : (r :: a :: answers).getLastD .aborted = (a :: answers).getLastD .aborted := by
    simp only [List.getLastD_cons]
  simp only [attemptsStatus, hlast, List.mem_cons (a := EfiStatus.success) (b := r), Ne.symm hr,
    false_or]

theorem run_tryKeys {signedPolicy : List UInt8} {wellFormed : Bool} {keys : List (List UInt8)}
    {t : List MfciEvent} {status : EfiStatus}
    (h : Run (tryKeys signedPolicy wellFormed keys) t (.returned status)) :
    ∃ answers, Attempts signedPolicy keys t answers ∧ status = attemptsStatus wellFormed answers := by
  induction keys generalizing t with
  | nil =>
      simp only [tryKeys, run_pure_iff', Outcome.returned.injEq] at h
      obtain ⟨rfl, rfl⟩ := h
      exact ⟨[], ⟨Nat.le_refl _, rfl, by simp, by simp⟩, by cases wellFormed <;> rfl⟩
  | cons key keys ih =>
      simp only [tryKeys, validateBlob, run_bind_returned_iff, run_lift_returned_iff, run_ite_iff,
        run_pure_iff', Outcome.returned.injEq, Bool.not_eq_true', EfiStatus.isError_eq_false] at h
      obtain ⟨t₁, t₂, r, rfl, rfl, h⟩ := h
      rcases h with ⟨rfl, rfl, rfl⟩ | ⟨hr, ⟨⟨rfl, rfl⟩, rfl, rfl⟩ | ⟨hlast, hrun⟩⟩
      · -- The first key validates.
        exact ⟨[.success], ⟨by simp, by simp [blobEvents], by simp, by simp⟩, by simp [attemptsStatus]⟩
      · -- The last key of a well-formed list fails: its status.
        exact ⟨[status], ⟨by simp, by simp [blobEvents], by simp, by simp⟩,
          by simp [attemptsStatus, Ne.symm hr]⟩
      · -- A failure with keys left, or the last key of a malformed list: the attempts go on.
        obtain ⟨answers, hatt, rfl⟩ := ih hrun
        refine ⟨r :: answers, hatt.cons hr, ?_⟩
        cases answers with
        | nil =>
            -- No attempt after this one: no key was left, so the list was malformed.
            have hkeys : keys = [] := by
              by_contra hne
              have := hatt.stopped (List.length_pos_iff.mpr hne)
              simp at this
            have hwf : wellFormed = false := by simpa [hkeys] using hlast
            simp [attemptsStatus, hwf, Ne.symm hr]
        | cons a answers => exact (attemptsStatus_cons hr).symm

/-! ### The routine -/

/-- An XDR list is a whole number of 4-byte words. -/
theorem XdrList.length_mod {buf : List UInt8} {certs : List (List UInt8)} (h : XdrList buf certs) :
    buf.length % 4 = 0 := by
  induction h with
  | @last cert pad hlen hpad =>
      have := alignValue4_mod cert.length
      simp only [List.length_append, length_beBytes32]
      omega
  | @cons cert pad rest certs hlen hpad hrest ih =>
      have := alignValue4_mod cert.length
      simp only [List.length_append, length_beBytes32]
      omega

/-- Two keys, `[0xAA]` and `[0xBB, 0xCC]`, as an XDR list. -/
def twoKeyCertificates : List UInt8 := [0, 0, 0, 1, 0xAA, 0, 0, 0, 0, 0, 0, 2, 0xBB, 0xCC, 0, 0]

/-- A valid entry followed by a stray byte is not an XDR list, yet a key that validates
ends the routine with `EFI_SUCCESS`, not `EFI_ABORTED`. -/
theorem malformed_list_validates :
    (¬∃ certs, XdrList [0, 0, 0, 1, 0xAA, 0, 0, 0, 0xFF] certs) ∧
      Run (validateBlobWithXdrCertificates [1] [0, 0, 0, 1, 0xAA, 0, 0, 0, 0xFF])
        [⟨.validateBlob [1] [0xAA], .success⟩] (.returned .success) :=
  ⟨fun ⟨_, h⟩ => absurd h.length_mod (by decide), Run.of_check rfl⟩

end MuPlus.Mfci
