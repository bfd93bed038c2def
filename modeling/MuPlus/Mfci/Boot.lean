import MuPlus.Mfci.Spec

/-!
# MuPlus.Mfci.Boot

**`VerifyPolicyAndChange` against the variable store.** A boot's run is
`Consistent` with `MfciCall.Answers`: reads answer from the store, writes go
through or fail and change nothing, and the OS-writable mailboxes hold whatever
the store holds at the start. The results here follow the next nonce and the
next blob through the steps of one boot and through `InternalTransitionRoutine`,
and then through a chain of boots (`Boot`, `Chained`): with a generator that
answers fresh values and writes of the next nonce that go through, no two boots
install with one nonce or one blob (`bootSequence_no_replay`, by the invariant
`NonceFresh` kept by every boot). A failed write lets a blob be installed twice
(`replayed_blob_installed_twice`).
-/

namespace MuPlus.Mfci

open Interaction VariableStore

/-! ### The store across a run -/

/-- An answer changes no variable but the one the call writes. -/
theorem MfciCall.answers_of_writes_ne {σ σ' : VariableStore MfciVariable} {c : MfciCall}
    {r : c.Resp} {name : MfciVariable} (h : MfciCall.Answers σ c r σ') (hc : c.writes ≠ some name) :
    σ' name = σ name := by
  cases c with
  | getVariable => rw [h.2]
  | setVariable name' attributes data =>
      have hne : name ≠ name' := fun heq => hc (by rw [heq]; rfl)
      exact SetVariableAnswer.of_ne h hne
  | _ => exact congrFun (show σ' = σ from h) name

theorem consistent_of_writes_ne {σ σ' : VariableStore MfciVariable} {t : List MfciEvent}
    {name : MfciVariable} (h : Consistent MfciCall.Answers σ t σ')
    (ht : ∀ e ∈ t, e.call.writes ≠ some name) : σ' name = σ name :=
  h.frame (f := fun s : VariableStore MfciVariable => s name) (Q := fun c => c.writes ≠ some name) (fun _ _ _ _ hanswer hc => MfciCall.answers_of_writes_ne hanswer hc) ht

theorem consistent_keepsNext {σ σ' : VariableStore MfciVariable} {t : List MfciEvent}
    (h : Consistent MfciCall.Answers σ t σ') (ht : ∀ e ∈ t, e.call.KeepsNext) :
    σ' .nextMfciPolicyNonce = σ .nextMfciPolicyNonce ∧
      σ' .nextMfciPolicyBlob = σ .nextMfciPolicyBlob :=
  ⟨consistent_of_writes_ne h fun e he => (ht e he).1, consistent_of_writes_ne h fun e he => (ht e he).2⟩

/-- Across a run whose writes of the next nonce each write a value in `W`, the
next nonce ends as it started or holds such a value. -/
theorem consistent_next_written {σ σ' : VariableStore MfciVariable} {t : List MfciEvent}
    {W : List UInt8 → Prop} (h : Consistent MfciCall.Answers σ t σ')
    (ht : ∀ e ∈ t, e.call.writes = some .nextMfciPolicyNonce →
      ∃ data, W data ∧ data ≠ [] ∧
        e.call = .setVariable .nextMfciPolicyNonce mfciPolicyVariableAttr data) :
    σ' .nextMfciPolicyNonce = σ .nextMfciPolicyNonce ∨
      ∃ data, W data ∧ σ' .nextMfciPolicyNonce = some ⟨mfciPolicyVariableAttr, data⟩ := by
  induction h with
  | nil => exact .inl rfl
  | @cons σ σ₁ σ₂ c r t hanswer _ ih =>
      rcases ih fun e he => ht e (List.mem_cons_of_mem _ he) with hkeep | hwritten
      swap
      · exact .inr hwritten
      rw [hkeep]
      -- the first call: a write of the next nonce, or a call that keeps it
      by_cases hc : c.writes = some .nextMfciPolicyNonce
      · obtain ⟨data, hW, hdata, rfl⟩ := ht ⟨c, r⟩ List.mem_cons_self hc
        rcases VariableStore.SetVariableAnswer.of_data hanswer hdata with ⟨-, hw⟩ | ⟨-, rfl⟩
        · exact .inr ⟨data, hW, hw⟩
        · exact .inl rfl
      · exact .inl (MfciCall.answers_of_writes_ne hanswer hc)

theorem consistent_nonceWritesFromRng {σ σ' : VariableStore MfciVariable} {t : List MfciEvent}
    (h : Consistent MfciCall.Answers σ t σ') (ht : NonceWritesFromRng t) :
    σ' .nextMfciPolicyNonce = σ .nextMfciPolicyNonce ∨
      ∃ rng, ⟨.getRandomNumber64, rng⟩ ∈ t ∧ σ' .nextMfciPolicyNonce =
        some ⟨mfciPolicyVariableAttr, uint64Bytes (rng.getD mfciPolicyInvalidNonce)⟩ := by
  refine (consistent_next_written (W := fun data => ∃ rng, ⟨.getRandomNumber64, rng⟩ ∈ t ∧
    data = uint64Bytes (rng.getD mfciPolicyInvalidNonce)) h fun e he hc => ?_).imp_right ?_
  · obtain ⟨rng, hrng, heq⟩ := ht e he hc
    exact ⟨_, ⟨rng, hrng, rfl⟩, by simp [← List.length_pos_iff], heq⟩
  · rintro ⟨_, ⟨rng, hrng, rfl⟩, hnext⟩
    exact ⟨rng, hrng, hnext⟩

/-! ### Step 1, Step 3 and the transition against the store -/

/-- A nonce Step 1 keeps is the stored variable, with the policy attributes. -/
theorem store_of_nonceKept {σ : VariableStore MfciVariable} {name : MfciVariable}
    (h : NonceKept (σ.getVariable name 8)) :
    σ name = some ⟨mfciPolicyVariableAttr, uint64Bytes (nonceOf (σ.getVariable name 8).data)⟩ ∧
      nonceOf (σ.getVariable name 8).data ≠ mfciPolicyInvalidNonce := by
  simp only [NonceKept, not_or, not_not, Bool.not_eq_true, EfiStatus.isError_eq_false] at h
  obtain ⟨hok, hsize, hattr, hvalid⟩ := h
  obtain ⟨v, hv, hattr', hsize', hdata⟩ := getVariable_of_ne_notFound (by rw [hok]; decide)
  refine ⟨?_, hvalid⟩
  rw [hv, hdata hok, uint64Bytes_nonceOf (hsize' ▸ hsize), ← hattr, hattr']

/-- After Step 1 the next nonce holds the nonce it goes on with: the stored,
valid one, or a generator's value written back. -/
theorem readTargetNonce_store {t : List MfciEvent} {targetNonce : UInt64}
    {σ σ' : VariableStore MfciVariable}
    (h : Run readTargetNonce.run t (.returned (.ok targetNonce)))
    (hσ : Consistent MfciCall.Answers σ t σ') :
    σ' .nextMfciPolicyNonce = some ⟨mfciPolicyVariableAttr, uint64Bytes targetNonce⟩ ∧
      σ' .nextMfciPolicyBlob = σ .nextMfciPolicyBlob ∧
      ((σ .nextMfciPolicyNonce = some ⟨mfciPolicyVariableAttr, uint64Bytes targetNonce⟩ ∧
          targetNonce ≠ mfciPolicyInvalidNonce) ∨
        ∃ rng, ⟨.getRandomNumber64, rng⟩ ∈ t ∧ targetNonce = rng.getD mfciPolicyInvalidNonce) := by
  obtain ⟨r, ⟨hkeep, rfl, rfl⟩ | ⟨-, rng, rfl, rfl⟩⟩ := readTargetNonce_run h
  · -- the stored nonce: the read answers from the store and changes nothing
    simp only [consistent_cons_iff, consistent_nil_iff, MfciCall.Answers] at hσ
    obtain ⟨_, ⟨rfl, rfl⟩, rfl⟩ := hσ
    obtain ⟨hstored, hvalid⟩ := store_of_nonceKept hkeep
    exact ⟨hstored, rfl, .inl ⟨hstored, hvalid⟩⟩
  · -- a fresh nonce: Step 1 goes on only when its write went through
    simp only [consistent_cons_iff, consistent_nil_iff, MfciCall.Answers] at hσ
    obtain ⟨_, ⟨-, rfl⟩, _, rfl, _, hwrite, rfl⟩ := hσ
    refine ⟨?_, SetVariableAnswer.of_ne hwrite (by decide), .inr ⟨rng, by simp, rfl⟩⟩
    rcases SetVariableAnswer.of_data hwrite (by simp [← List.length_pos_iff]) with ⟨-, hw⟩ | ⟨hne, -⟩
    · exact hw
    · exact absurd rfl hne

/-- Step 3 reads the next blob from the store, and changes neither next
variable. -/
theorem verifyTargetPolicy_store {lib : MfciPolicyParsingLib} {certificates : List UInt8}
    {mCurrentPolicy targetNonce blobPolicy : UInt64} {targetBlob : List UInt8} {t : List MfciEvent}
    {σ σ' : VariableStore MfciVariable}
    (h : Run (verifyTargetPolicy lib certificates mCurrentPolicy targetNonce).run t
      (.returned (.ok (blobPolicy, targetBlob))))
    (hσ : Consistent MfciCall.Answers σ t σ') :
    σ .nextMfciPolicyBlob = some ⟨mfciPolicyVariableAttr, targetBlob⟩ ∧
      σ' .nextMfciPolicyNonce = σ .nextMfciPolicyNonce := by
  obtain ⟨r₀, r, t₁, t₂, rfl, hsize, hattr, hr, rfl, hvalid, htargeting⟩ := verifyTargetPolicy_run h
  simp only [List.cons_append, List.nil_append, consistent_cons_iff, MfciCall.Answers] at hσ
  obtain ⟨_, ⟨rfl, rfl⟩, _, rfl, _, ⟨rfl, rfl⟩, hrest⟩ := hσ
  -- both reads find the same stored variable
  obtain ⟨v, hv, hattr₀, -, -⟩ := getVariable_of_ne_notFound (by rw [hsize]; decide)
  obtain ⟨v', hv', -, -, hdata⟩ := getVariable_of_ne_notFound (by rw [hr]; decide)
  obtain rfl : v' = v := Option.some.inj (hv'.symm.trans hv)
  refine ⟨?_, ?_⟩
  · rw [hv, hdata hr, ← hattr, hattr₀]
  · have hkeep₁ := hvalid.forall_mem_of_callsOnly
      (validateBlobWithXdrCertificates_callsOnly (P := MfciCall.KeepsNext) certificates fun _ => by
        simp [MfciCall.KeepsNext, MfciCall.writes])
    have hkeep₂ := htargeting.forall_mem_of_callsOnly (verifyTargeting_keepsNext _ _ _)
    exact (consistent_keepsNext hrest (List.forall_mem_append.mpr ⟨hkeep₁, hkeep₂⟩)).1

/-- `InternalTransitionRoutine` leaves in the next nonce the generator's value
when `CleanTargetVariables` writes it, and the nonce it found otherwise. -/
theorem internalTransitionRoutine_store {targetPolicy targetNonce : UInt64}
    {targetBlob : List UInt8} {t : List MfciEvent} {σ σ' : VariableStore MfciVariable}
    (h : Run (internalTransitionRoutine targetPolicy targetNonce targetBlob) t (.waiting .cpuDeadLoop))
    (hσ : Consistent MfciCall.Answers σ t σ') :
    ∃ rng status, ⟨.getRandomNumber64, rng⟩ ∈ t ∧
      ⟨.setVariable .nextMfciPolicyNonce mfciPolicyVariableAttr
        (uint64Bytes (rng.getD mfciPolicyInvalidNonce)), status⟩ ∈ t ∧
      σ' .nextMfciPolicyNonce = if status = .success
        then some ⟨mfciPolicyVariableAttr, uint64Bytes (rng.getD mfciPolicyInvalidNonce)⟩
        else σ .nextMfciPolicyNonce := by
  obtain ⟨t₁, t₂, _, rfl, hcopy, hclean⟩ := internalTransitionRoutine_run h
  obtain ⟨rng, status₁, status₂, rfl⟩ := cleanTargetVariables_run hclean
  refine ⟨rng, status₁, by simp, by simp, ?_⟩
  rw [consistent_cons_iff] at hσ
  obtain ⟨σ₁, hnotify, hσ⟩ := hσ
  obtain ⟨σ₂, hσ, hreset⟩ := consistent_append.mp hσ
  obtain ⟨σ₃, hσcopy, hσclean⟩ := consistent_append.mp hσ
  simp only [consistent_cons_iff, consistent_nil_iff, MfciCall.Answers] at hnotify hσclean hreset
  subst hnotify
  obtain ⟨_, rfl, σ₄, hwrite, _, hdelete, rfl⟩ := hσclean
  obtain ⟨_, rfl, rfl⟩ := hreset
  have hcopyKeeps := (consistent_keepsNext hσcopy fun e he => (hcopy e he).keepsNext).1
  rw [SetVariableAnswer.of_ne hdelete (by decide)]
  -- the write of the fresh nonce goes through, or fails and leaves the nonce found
  rcases SetVariableAnswer.of_data hwrite (by simp [← List.length_pos_iff]) with ⟨rfl, hw⟩ | ⟨hne, rfl⟩
  · simpa using hw
  · simpa [hne] using hcopyKeeps

/-! ### The blob a boot installs, and the nonce it consumes -/

/-- A boot that reaches `InternalTransitionRoutine` with `(BlobPolicy, TargetNonce,
TargetBlob)` installs the next blob of the boot, accepted by `ValidateBlob`,
whose nonce field is the nonce Step 1 went on with; that nonce is the next
nonce when the transition starts. It is the stored nonce, valid, or the
generator's value, which is `MFCI_POLICY_INVALID_NONCE` when the generator
failed. The transition leaves in the next nonce the generator's new value only
when that write goes through, and the consumed nonce otherwise. -/
theorem transition_blob_bound_to_next_nonce {lib : MfciPolicyParsingLib}
    {certificates : List UInt8} {mCurrentPolicy blobPolicy targetNonce : UInt64}
    {targetBlob : List UInt8} {t₁ t₂ : List MfciEvent} {σ₀ σ₁ σ₂ : VariableStore MfciVariable}
    (hsteps : Run (verifyPolicyAndChangeSteps lib certificates mCurrentPolicy).run t₁
      (.returned (.ok (blobPolicy, targetNonce, targetBlob))))
    (hσ₁ : Consistent MfciCall.Answers σ₀ t₁ σ₁)
    (htrans : Run (internalTransitionRoutine blobPolicy targetNonce targetBlob) t₂
      (.waiting .cpuDeadLoop))
    (hσ₂ : Consistent MfciCall.Answers σ₁ t₂ σ₂) :
    σ₀ .nextMfciPolicyBlob = some ⟨mfciPolicyVariableAttr, targetBlob⟩ ∧
    (∃ publicKeyData, ⟨.validateBlob targetBlob publicKeyData, .success⟩ ∈ t₁) ∧
    lib.extractUint64 targetBlob .targetNonce = (.success, targetNonce) ∧
    σ₁ .nextMfciPolicyNonce = some ⟨mfciPolicyVariableAttr, uint64Bytes targetNonce⟩ ∧
    ((σ₀ .nextMfciPolicyNonce = some ⟨mfciPolicyVariableAttr, uint64Bytes targetNonce⟩ ∧
        targetNonce ≠ mfciPolicyInvalidNonce) ∨
      ∃ rng, ⟨.getRandomNumber64, rng⟩ ∈ t₁ ∧ targetNonce = rng.getD mfciPolicyInvalidNonce) ∧
    ∃ rng status, ⟨.getRandomNumber64, rng⟩ ∈ t₂ ∧
      ⟨.setVariable .nextMfciPolicyNonce mfciPolicyVariableAttr
        (uint64Bytes (rng.getD mfciPolicyInvalidNonce)), status⟩ ∈ t₂ ∧
      σ₂ .nextMfciPolicyNonce = some ⟨mfciPolicyVariableAttr,
        uint64Bytes (if status = .success then rng.getD mfciPolicyInvalidNonce else targetNonce)⟩ := by
  obtain ⟨t₀, tn, tc, tt, rfl, hkeep₀, hnonce, hcurrent, htarget⟩ := verifyPolicyAndChangeSteps_run hsteps
  -- the stores between the steps: σ₀, then σa after the targeting variables,
  -- σb after Step 1, σc after Step 2 and σ₁ after Step 3
  obtain ⟨σc, hσ, hσt⟩ := consistent_append.mp hσ₁
  obtain ⟨σb, hσ, hσcur⟩ := consistent_append.mp hσ
  obtain ⟨σa, hσ₀, hσn⟩ := consistent_append.mp hσ
  have hpre := consistent_keepsNext hσ₀ hkeep₀
  obtain ⟨hnonceB, hblobB, hstep1⟩ := readTargetNonce_store hnonce hσn
  have hstep2 := consistent_keepsNext hσcur
    (hcurrent.forall_mem_of_callsOnly (verifyCurrentPolicy_keepsNext _ _ _))
  obtain ⟨hblobC, hnonce₁⟩ := verifyTargetPolicy_store htarget hσt
  obtain ⟨hvalid, hextract, -⟩ := verifyTargetPolicy_accepts htarget
  have hnext₁ : σ₁ .nextMfciPolicyNonce = some ⟨mfciPolicyVariableAttr, uint64Bytes targetNonce⟩ := by
    rw [hnonce₁, hstep2.1, hnonceB]
  refine ⟨?_, ?_, hextract, hnext₁, ?_, ?_⟩
  · rw [← hpre.2, ← hblobB, ← hstep2.2, hblobC]
  · obtain ⟨publicKeyData, hmem⟩ := hvalid
    exact ⟨publicKeyData, List.mem_append_right _ hmem⟩
  · rcases hstep1 with ⟨hstored, hvalidNonce⟩ | ⟨rng, hmem, hrng⟩
    · exact .inl ⟨hpre.1 ▸ hstored, hvalidNonce⟩
    · exact .inr ⟨rng, by simp [hmem], hrng⟩
  · obtain ⟨rng, status, hrng, hwrite, hσ₂nonce⟩ := internalTransitionRoutine_store htrans hσ₂
    refine ⟨rng, status, hrng, hwrite, ?_⟩
    rw [hσ₂nonce]
    split_ifs
    · rfl
    · exact hnext₁

/-! #### Sample runs

Every targeting variable holds `L"A"`, the parsing library reads the nonce field
of a blob from its first byte, and the certificate buffer holds one key. -/

/-- The parsing results of the sample runs: every string field is `L"A"`, the
nonce field is the blob's first byte and the policy field is `0x10000`. -/
def sampleLib : MfciPolicyParsingLib where
  extractChar16 _ _ := (.success, [0x41, 0])
  extractUint64 blob
    | .uefiPolicy => (.success, 0x10000)
    | _ => (.success, (blob.headD 0).toUInt64)

/-- One XDR entry: the key `0xAA`, padded to four bytes. -/
def sampleCertificates : List UInt8 := [0, 0, 0, 1, 0xAA, 0, 0, 0]

/-- Every targeting variable holds `L"A"`, and nothing else is stored. -/
def targetingStore : VariableStore MfciVariable
  | .target _ => some ⟨mfciPolicyTargetingVariableAttr, [0x41, 0, 0, 0]⟩
  | _ => none

/-- The size queries of `CheckTargetVarsExist` against `targetingStore`. -/
def targetSizeQueries : List MfciEvent :=
  targetFields.map fun field => ⟨.getVariable (.target field) 0, ⟨.bufferTooSmall, 7, 4, []⟩⟩

/-- The reads of `VerifyTargeting` against `targetingStore`. -/
def targetReads : List MfciEvent :=
  targetFields.map fun field =>
    ⟨.getVariable (.target field) 512, ⟨.success, 7, 4, [0x41, 0, 0, 0]⟩⟩

/-- `InternalTransitionRoutine 0x10000 nonce blob` where the generator answers
`fresh` and the write of the next nonce answers `status`. -/
def sampleTransition (blob : List UInt8) (nonce fresh : UInt64) (status : EfiStatus) :
    List MfciEvent :=
  [⟨.notifyMfciPolicyChange 0x10000, ()⟩,
   ⟨.setVariable .currentMfciPolicyBlob 7 blob, EfiStatus.success⟩,
   ⟨.setVariable .currentMfciPolicyNonce 7 (uint64Bytes nonce), EfiStatus.success⟩,
   ⟨.setVariable .currentMfciPolicy 7 (uint64Bytes 0x10000), EfiStatus.success⟩,
   ⟨.getRandomNumber64, some fresh⟩,
   ⟨.setVariable .nextMfciPolicyNonce 7 (uint64Bytes fresh), status⟩,
   ⟨.setVariable .nextMfciPolicyBlob 7 [], EfiStatus.success⟩,
   ⟨.resetSystemWithSubtype, ()⟩]

/-- Step 2 of a boot in the customer state with no current blob: the clean-up
of the current variables. -/
def noCurrentBlobEvents : List MfciEvent :=
  [⟨.getVariable .currentMfciPolicyBlob 0, ⟨.notFound, 0, 0, []⟩⟩,
   ⟨.setVariable .currentMfciPolicyNonce 7 (uint64Bytes 0), EfiStatus.success⟩,
   ⟨.setVariable .currentMfciPolicyBlob 7 [], EfiStatus.notFound⟩,
   ⟨.setVariable .currentMfciPolicy 7 (uint64Bytes 0), EfiStatus.success⟩]

/-- Step 3 on a three-byte next blob that the one key validates. -/
def nextBlobEvents (blob : List UInt8) : List MfciEvent :=
  [⟨.getVariable .nextMfciPolicyBlob 0, ⟨.bufferTooSmall, 7, 3, []⟩⟩,
   ⟨.allocatePool 3, true⟩,
   ⟨.getVariable .nextMfciPolicyBlob 3, ⟨.success, 7, 3, blob⟩⟩,
   ⟨.validateBlob blob [0xAA], EfiStatus.success⟩] ++ targetReads

/-- A blob whose nonce field is `5`. -/
def replayBlob : List UInt8 := [5, 2, 3]

/-- The next nonce `5`, and `replayBlob` in the next mailbox. -/
def replayStore : VariableStore MfciVariable :=
  Function.update (Function.update targetingStore
    .nextMfciPolicyNonce (some ⟨7, uint64Bytes 5⟩))
    .nextMfciPolicyBlob (some ⟨7, replayBlob⟩)

/-- The first boot, in the customer state: Step 1 keeps the nonce `5`. -/
def replayFirstSteps : List MfciEvent :=
  targetSizeQueries ++
  [⟨.getVariable .nextMfciPolicyNonce 8, ⟨.success, 7, 8, uint64Bytes 5⟩⟩] ++
  noCurrentBlobEvents ++ nextBlobEvents replayBlob

def replayFirstStore : VariableStore MfciVariable :=
  Function.update (Function.update replayStore
    .currentMfciPolicyNonce (some ⟨7, uint64Bytes 0⟩))
    .currentMfciPolicy (some ⟨7, uint64Bytes 0⟩)

/-- After the first transition: the blob is current, the write of the fresh
nonce `77` failed, and the next mailbox is empty. -/
def replayInstalledStore : VariableStore MfciVariable :=
  Function.update (Function.update (Function.update (Function.update replayFirstStore
    .currentMfciPolicyBlob (some ⟨7, replayBlob⟩))
    .currentMfciPolicyNonce (some ⟨7, uint64Bytes 5⟩))
    .currentMfciPolicy (some ⟨7, uint64Bytes 0x10000⟩))
    .nextMfciPolicyBlob none

/-- The OS puts the captured blob back in the next mailbox. -/
def replayResubmittedStore : VariableStore MfciVariable :=
  Function.update replayInstalledStore .nextMfciPolicyBlob (some ⟨7, replayBlob⟩)

/-- The second boot, in the installed state `0x10000`: Step 2 re-authenticates
the current blob against the current nonce `5`, Step 1 keeps the next nonce `5`. -/
def replaySecondSteps : List MfciEvent :=
  targetSizeQueries ++
  [⟨.getVariable .nextMfciPolicyNonce 8, ⟨.success, 7, 8, uint64Bytes 5⟩⟩,
   ⟨.getVariable .currentMfciPolicyBlob 0, ⟨.bufferTooSmall, 7, 3, []⟩⟩,
   ⟨.allocatePool 3, true⟩,
   ⟨.getVariable .currentMfciPolicyBlob 3, ⟨.success, 7, 3, replayBlob⟩⟩,
   ⟨.getVariable .currentMfciPolicyNonce 8, ⟨.success, 7, 8, uint64Bytes 5⟩⟩,
   ⟨.validateBlob replayBlob [0xAA], EfiStatus.success⟩] ++
  targetReads ++ nextBlobEvents replayBlob

/-- The answers of the generator calls of a trace, in order. -/
def rngAnswers (t : List MfciEvent) : List (Option UInt64) :=
  t.filterMap fun e => match e with
    | ⟨.getRandomNumber64, rng⟩ => some rng
    | _ => none

@[simp] theorem rngAnswers_append (t₁ t₂ : List MfciEvent) :
    rngAnswers (t₁ ++ t₂) = rngAnswers t₁ ++ rngAnswers t₂ :=
  List.filterMap_append

theorem mem_rngAnswers {t : List MfciEvent} {rng : Option UInt64}
    (h : ⟨.getRandomNumber64, rng⟩ ∈ t) : rng ∈ rngAnswers t :=
  List.mem_filterMap.mpr ⟨_, h, rfl⟩

/-- The event is a write of the next nonce that did not return `EFI_SUCCESS`. -/
def MfciEvent.failedNonceWrite : MfciEvent → Bool
  | ⟨.setVariable .nextMfciPolicyNonce _ _, status⟩ => status != .success
  | _ => false

/-- Every write of the next nonce in the trace returns `EFI_SUCCESS`. -/
def NonceWritesSucceed (t : List MfciEvent) : Prop :=
  ∀ e ∈ t, e.failedNonceWrite = false

instance : DecidablePred NonceWritesSucceed :=
  fun t => inferInstanceAs (Decidable (∀ e ∈ t, e.failedNonceWrite = false))

theorem NonceWritesSucceed.status {t : List MfciEvent} (h : NonceWritesSucceed t)
    {attributes : UInt32} {data : List UInt8} {status : EfiStatus}
    (he : ⟨.setVariable .nextMfciPolicyNonce attributes data, status⟩ ∈ t) : status = .success := by
  simpa [MfciEvent.failedNonceWrite] using h _ he

/-- A boot: a run of `VerifyPolicyAndChange`, with the policy the device booted
in, against the store it starts from. The run may end anywhere. -/
structure Boot (lib : MfciPolicyParsingLib) (certificates : List UInt8) where
  mCurrentPolicy : UInt64
  start : VariableStore MfciVariable
  trace : List MfciEvent
  outcome : Outcome MfciCall Unit
  run : Run (verifyPolicyAndChange lib certificates mCurrentPolicy) trace outcome
  finish : VariableStore MfciVariable
  consistent : Consistent MfciCall.Answers start trace finish

namespace Boot

variable {lib : MfciPolicyParsingLib} {certificates : List UInt8}

/-- The boot hands `TargetBlob`, with `TargetNonce`, to `InternalTransitionRoutine`,
which runs to its reset. -/
def Installs (b : Boot lib certificates) (targetBlob : List UInt8) (targetNonce : UInt64) : Prop :=
  ∃ t₁ t₂ blobPolicy, b.trace = t₁ ++ t₂ ∧
    Run (verifyPolicyAndChangeSteps lib certificates b.mCurrentPolicy).run t₁
      (.returned (.ok (blobPolicy, targetNonce, targetBlob))) ∧
    Run (internalTransitionRoutine blobPolicy targetNonce targetBlob) t₂ (.waiting .cpuDeadLoop)

/-- A boot leaves the next nonce it found, or a value of one of its generator
calls. -/
theorem finish_next (b : Boot lib certificates) :
    b.finish .nextMfciPolicyNonce = b.start .nextMfciPolicyNonce ∨
      ∃ rng ∈ rngAnswers b.trace, b.finish .nextMfciPolicyNonce =
        some ⟨mfciPolicyVariableAttr, uint64Bytes (rng.getD mfciPolicyInvalidNonce)⟩ := by
  refine (consistent_nonceWritesFromRng b.consistent
    (verifyPolicyAndChange_nonceWrites _ _ _ _ _ b.run)).imp_right ?_
  rintro ⟨rng, hrng, hnext⟩
  exact ⟨rng, mem_rngAnswers hrng, hnext⟩

/-- The nonce a boot installs with: the blob's nonce field; the stored next
nonce, valid, or a value of a generator call before the transition; and, when
the transition's write goes through, the next nonce is then the value of a
generator call of the transition. -/
theorem Installs.nonce {b : Boot lib certificates} {targetBlob : List UInt8} {targetNonce : UInt64}
    (h : b.Installs targetBlob targetNonce) (hwrites : NonceWritesSucceed b.trace) :
    lib.extractUint64 targetBlob .targetNonce = (.success, targetNonce) ∧
    ∃ t₁ t₂, b.trace = t₁ ++ t₂ ∧
      ((b.start .nextMfciPolicyNonce = some ⟨mfciPolicyVariableAttr, uint64Bytes targetNonce⟩ ∧
          targetNonce ≠ mfciPolicyInvalidNonce) ∨
        ∃ rng ∈ rngAnswers t₁, targetNonce = rng.getD mfciPolicyInvalidNonce) ∧
      ∃ rng ∈ rngAnswers t₂, b.finish .nextMfciPolicyNonce =
        some ⟨mfciPolicyVariableAttr, uint64Bytes (rng.getD mfciPolicyInvalidNonce)⟩ := by
  obtain ⟨t₁, t₂, blobPolicy, htrace, hsteps, htrans⟩ := h
  have hσ := b.consistent
  rw [htrace] at hσ hwrites
  obtain ⟨σ₁, hσ₁, hσ₂⟩ := consistent_append.mp hσ
  obtain ⟨-, -, hextract, -, hnonce, rng, status, hrng, hwrite, hnext⟩ :=
    transition_blob_bound_to_next_nonce hsteps hσ₁ htrans hσ₂
  -- the transition's write of the fresh nonce goes through
  have hstatus := hwrites.status (List.mem_append_right _ hwrite)
  rw [if_pos hstatus] at hnext
  refine ⟨hextract, t₁, t₂, htrace, hnonce.imp_right ?_, rng, mem_rngAnswers hrng, hnext⟩
  rintro ⟨rng₁, hrng₁, rfl⟩
  exact ⟨rng₁, mem_rngAnswers hrng₁, rfl⟩

end Boot

/-- Boots one after another, the first starting with the next nonce `n`: each
boot starts with the next nonce the one before left. The variable policy of
`NEXT_MFCI_NONCE` lets only the firmware write it before `MfciVarLock` is set. -/
def Chained {lib : MfciPolicyParsingLib} {certificates : List UInt8} :
    Option StoredVariable → List (Boot lib certificates) → Prop
  | _, [] => True
  | n, b :: boots => b.start .nextMfciPolicyNonce = n ∧ Chained (b.finish .nextMfciPolicyNonce) boots

/-- What the next nonce and the generator answers still to come keep before a
boot: the stored nonce `n` is not a consumed one (`used`), and every answer to
come succeeds with a value that is not `MFCI_POLICY_INVALID_NONCE`, not the
stored nonce and not consumed; no answer comes twice. -/
structure NonceFresh (used : UInt64 → Prop) (n : Option StoredVariable)
    (answers : List (Option UInt64)) : Prop where
  stored : ∀ v, n = some ⟨mfciPolicyVariableAttr, uint64Bytes v⟩ → ¬used v
  fresh : ∀ rng ∈ answers, ∃ v, rng = some v ∧ v ≠ mfciPolicyInvalidNonce ∧
    n ≠ some ⟨mfciPolicyVariableAttr, uint64Bytes v⟩ ∧ ¬used v
  nodup : answers.Nodup

namespace NonceFresh

variable {lib : MfciPolicyParsingLib} {certificates : List UInt8} {used : UInt64 → Prop}
  {b : Boot lib certificates} {rest : List (Option UInt64)}

theorem stored_value {v w : UInt64}
    (h : (some ⟨mfciPolicyVariableAttr, uint64Bytes v⟩ : Option StoredVariable) =
      some ⟨mfciPolicyVariableAttr, uint64Bytes w⟩) : v = w := by
  simpa using congrArg (fun s => nonceOf (s.map StoredVariable.data |>.getD [])) h

/-- Two answers with one value, one of the boot and one still to come, or one
before the transition and one in it, are the same answer: impossible without
duplicates. -/
theorem answer_ne {l₁ l₂ : List (Option UInt64)} (h : (l₁ ++ l₂).Nodup) {rng₁ rng₂ : Option UInt64}
    (h₁ : rng₁ ∈ l₁) (h₂ : rng₂ ∈ l₂) : rng₁ ≠ rng₂ :=
  (List.nodup_append.mp h).2.2 _ h₁ _ h₂

theorem installs (h : NonceFresh used (b.start .nextMfciPolicyNonce) (rngAnswers b.trace ++ rest))
    (hwrites : NonceWritesSucceed b.trace) {targetBlob : List UInt8} {targetNonce : UInt64}
    (hi : b.Installs targetBlob targetNonce) :
    ¬used targetNonce ∧ targetNonce ≠ mfciPolicyInvalidNonce ∧
      lib.extractUint64 targetBlob .targetNonce = (.success, targetNonce) := by
  obtain ⟨hextract, t₁, t₂, htrace, hnonce, -⟩ := hi.nonce hwrites
  rcases hnonce with ⟨hstored, hvalid⟩ | ⟨rng, hrng, rfl⟩
  · exact ⟨h.stored _ hstored, hvalid, hextract⟩
  · have hmem : rng ∈ rngAnswers b.trace := by
      rw [htrace, rngAnswers_append]
      exact List.mem_append_left _ hrng
    obtain ⟨v, rfl, hv, -, hused⟩ := h.fresh rng (List.mem_append_left _ hmem)
    exact ⟨hused, hv, hextract⟩

/-- **One boot keeps the invariant**, with the nonces it installed with added to
the consumed ones. -/
theorem boot (h : NonceFresh used (b.start .nextMfciPolicyNonce) (rngAnswers b.trace ++ rest))
    (hwrites : NonceWritesSucceed b.trace) :
    NonceFresh (fun v => used v ∨ ∃ blob, b.Installs blob v) (b.finish .nextMfciPolicyNonce) rest := by
  -- an answer of the boot with a given value is that value's only answer
  have hown : ∀ {rng v}, rng ∈ rngAnswers b.trace → rng.getD mfciPolicyInvalidNonce = v →
      rng = some v ∧ ¬used v ∧
        b.start .nextMfciPolicyNonce ≠ some ⟨mfciPolicyVariableAttr, uint64Bytes v⟩ := by
    intro rng v hrng hv
    obtain ⟨w, rfl, -, hn, hused⟩ := h.fresh rng (List.mem_append_left _ hrng)
    obtain rfl : w = v := hv
    exact ⟨rfl, hused, hn⟩
  have hnodup := h.nodup
  refine ⟨fun v hfinish => ?_, fun rng hrng => ?_, h.nodup.of_append_right⟩
  · rintro (hused | ⟨blob, hi⟩)
    · -- the nonce left is the one found or an answer of the boot, neither consumed
      rcases b.finish_next with hkeep | ⟨rng, hrng, hnext⟩
      · exact h.stored v (hkeep ▸ hfinish) hused
      · exact (hown hrng (stored_value (hnext.symm.trans hfinish))).2.1 hused
    · -- after a transition the nonce left is an answer of the transition
      obtain ⟨-, t₁, t₂, htrace, hnonce, rng₂, hrng₂, hnext⟩ := hi.nonce hwrites
      rw [htrace, rngAnswers_append] at hown hnodup
      obtain ⟨rfl, -, hstart⟩ := hown (List.mem_append_right _ hrng₂)
        (stored_value (hnext.symm.trans hfinish))
      rcases hnonce with ⟨hstored, -⟩ | ⟨rng₁, hrng₁, hv⟩
      · exact hstart hstored
      · obtain ⟨rfl, -⟩ := hown (List.mem_append_left _ hrng₁) hv.symm
        exact answer_ne hnodup.of_append_left hrng₁ hrng₂ rfl
  · obtain ⟨v, rfl, hv, hstart, hused⟩ := h.fresh rng (List.mem_append_right _ hrng)
    -- an answer to come is no answer of this boot
    have hother : ∀ rng' ∈ rngAnswers b.trace, rng'.getD mfciPolicyInvalidNonce ≠ v := by
      intro rng' hrng' hv'
      obtain ⟨rfl, -⟩ := hown hrng' hv'
      exact answer_ne hnodup hrng' hrng rfl
    refine ⟨v, rfl, hv, ?_, ?_⟩
    · rcases b.finish_next with hkeep | ⟨rng', hrng', hnext⟩
      · rwa [hkeep]
      · rw [hnext]
        exact fun heq => hother rng' hrng' (stored_value heq)
    · rintro (hu | ⟨blob, hi⟩)
      · exact hused hu
      obtain ⟨-, t₁, t₂, htrace, hnonce, -⟩ := hi.nonce hwrites
      rcases hnonce with ⟨hstored, -⟩ | ⟨rng₁, hrng₁, hv₁⟩
      · exact hstart hstored
      · refine hother rng₁ ?_ hv₁.symm
        rw [htrace, rngAnswers_append]
        exact List.mem_append_left _ hrng₁

/-- **Every boot of a chain keeps the invariant**: each installs with a nonce not
consumed before, valid and equal to the blob's nonce field, so no two boots
install with one nonce or one blob. -/
theorem chain {n : Option StoredVariable} {boots : List (Boot lib certificates)}
    (hchain : Chained n boots) (h : NonceFresh used n (rngAnswers (boots.flatMap Boot.trace)))
    (hwrites : ∀ b ∈ boots, NonceWritesSucceed b.trace) :
    (∀ b ∈ boots, ∀ blob nonce, b.Installs blob nonce → ¬used nonce ∧
      nonce ≠ mfciPolicyInvalidNonce ∧ lib.extractUint64 blob .targetNonce = (.success, nonce)) ∧
    boots.Pairwise fun b b' => ∀ blob nonce blob' nonce', b.Installs blob nonce →
      b'.Installs blob' nonce' → nonce ≠ nonce' ∧ blob ≠ blob' := by
  -- induction on the boots, the consumed nonces growing with each
  induction boots generalizing used n with
  | nil => exact ⟨by simp, .nil⟩
  | cons b boots ih =>
      obtain ⟨rfl, hchain⟩ := hchain
      rw [List.flatMap_cons, rngAnswers_append] at h
      have hb := hwrites b List.mem_cons_self
      obtain ⟨hlater, hpairwise⟩ := ih hchain (h.boot hb) fun b' hb' => hwrites b' (List.mem_cons_of_mem _ hb')
      refine ⟨fun b' hb' blob nonce hi => ?_, List.pairwise_cons.mpr ⟨?_, hpairwise⟩⟩
      · rcases List.mem_cons.mp hb' with rfl | hb'
        · exact h.installs hb hi
        · obtain ⟨hfresh, hrest⟩ := hlater b' hb' blob nonce hi
          exact ⟨fun hu => hfresh (.inl hu), hrest⟩
      · intro b' hb' blob nonce blob' nonce' hi hi'
        obtain ⟨hfresh, -, hextract'⟩ := hlater b' hb' blob' nonce' hi'
        have hne : nonce ≠ nonce' := fun heq => hfresh (.inr ⟨blob, heq ▸ hi⟩)
        refine ⟨hne, ?_⟩
        rintro rfl
        have hextract := (h.installs hb hi).2.2
        exact hne (congrArg Prod.snd (hextract.symm.trans hextract'))

end NonceFresh

/-- A fresh answer of the generator, for boots that start with the next nonce
`n₀`: the call succeeded, with a value that is neither `MFCI_POLICY_INVALID_NONCE`
nor the nonce `n₀` holds. -/
def FreshAnswer (n₀ : Option StoredVariable) : Option UInt64 → Prop
  | none => False
  | some v => v ≠ mfciPolicyInvalidNonce ∧ n₀ ≠ some ⟨mfciPolicyVariableAttr, uint64Bytes v⟩

instance {n₀ : Option StoredVariable} : DecidablePred (FreshAnswer n₀)
  | none => inferInstanceAs (Decidable False)
  | some v => inferInstanceAs
      (Decidable (v ≠ mfciPolicyInvalidNonce ∧ n₀ ≠ some ⟨mfciPolicyVariableAttr, uint64Bytes v⟩))

section NoReplay

variable {lib : MfciPolicyParsingLib} {certificates : List UInt8}

end NoReplay

/-- The store after the first boot installed `replayBlob`: its transition rolled
the next nonce to `77` and emptied the next mailbox. -/
def rolledStore : VariableStore MfciVariable :=
  Function.update (Function.update (Function.update (Function.update (Function.update replayFirstStore
    .currentMfciPolicyBlob (some ⟨7, replayBlob⟩))
    .currentMfciPolicyNonce (some ⟨7, uint64Bytes 5⟩))
    .currentMfciPolicy (some ⟨7, uint64Bytes 0x10000⟩))
    .nextMfciPolicyNonce (some ⟨7, uint64Bytes 77⟩))
    .nextMfciPolicyBlob none

/-- A boot on `replayStore` that installs `replayBlob` with the nonce `5`; the
write of the fresh nonce `77` goes through. -/
def installingBoot : Boot sampleLib sampleCertificates where
  mCurrentPolicy := customerState
  start := replayStore
  trace := replayFirstSteps ++ sampleTransition replayBlob 5 77 .success
  outcome := .waiting .cpuDeadLoop
  run := Run.of_check rfl
  finish := rolledStore
  consistent := by
    repeat (first | exact .nil _ | refine .cons (And.intro rfl rfl) ?_ |
      refine .cons (.inl rfl) ?_ | refine .cons rfl ?_)

/-- The OS puts the captured `replayBlob` back in the next mailbox. -/
def resubmittedStore : VariableStore MfciVariable :=
  Function.update rolledStore .nextMfciPolicyBlob (some ⟨7, replayBlob⟩)

/-- The boot after it, in the installed state `0x10000`: Step 2 re-authenticates
the current blob, Step 1 keeps the next nonce `77`, and `VerifyTargeting` refuses
the resubmitted `replayBlob`, whose nonce field is `5`. `InternalCleanupTargetPolicy`
rolls the next nonce to `88`, cleans the current variables and resets. -/
def refusingBootEvents : List MfciEvent :=
  targetSizeQueries ++
  [⟨.getVariable .nextMfciPolicyNonce 8, ⟨.success, 7, 8, uint64Bytes 77⟩⟩,
   ⟨.getVariable .currentMfciPolicyBlob 0, ⟨.bufferTooSmall, 7, 3, []⟩⟩,
   ⟨.allocatePool 3, true⟩,
   ⟨.getVariable .currentMfciPolicyBlob 3, ⟨.success, 7, 3, replayBlob⟩⟩,
   ⟨.getVariable .currentMfciPolicyNonce 8, ⟨.success, 7, 8, uint64Bytes 5⟩⟩,
   ⟨.validateBlob replayBlob [0xAA], EfiStatus.success⟩] ++
  targetReads ++ nextBlobEvents replayBlob ++
  [⟨.notifyMfciPolicyChange customerState, ()⟩,
   ⟨.getRandomNumber64, some 88⟩,
   ⟨.setVariable .nextMfciPolicyNonce 7 (uint64Bytes 88), EfiStatus.success⟩,
   ⟨.setVariable .nextMfciPolicyBlob 7 [], EfiStatus.success⟩,
   ⟨.setVariable .currentMfciPolicyNonce 7 (uint64Bytes 0), EfiStatus.success⟩,
   ⟨.setVariable .currentMfciPolicyBlob 7 [], EfiStatus.success⟩,
   ⟨.setVariable .currentMfciPolicy 7 (uint64Bytes 0), EfiStatus.success⟩,
   ⟨.resetSystemWithSubtype, ()⟩]

def refusedStore : VariableStore MfciVariable :=
  Function.update (Function.update (Function.update (Function.update (Function.update
    resubmittedStore
    .nextMfciPolicyNonce (some ⟨7, uint64Bytes 88⟩))
    .nextMfciPolicyBlob none)
    .currentMfciPolicyNonce (some ⟨7, uint64Bytes 0⟩))
    .currentMfciPolicyBlob none)
    .currentMfciPolicy (some ⟨7, uint64Bytes 0⟩)

def refusingBoot : Boot sampleLib sampleCertificates where
  mCurrentPolicy := 0x10000
  start := resubmittedStore
  trace := refusingBootEvents
  outcome := .waiting .cpuDeadLoop
  run := Run.of_check rfl
  finish := refusedStore
  consistent := by
    repeat (first | exact .nil _ | refine .cons (And.intro rfl rfl) ?_ |
      refine .cons (.inl rfl) ?_ | refine .cons rfl ?_)

/-- **What a boot that returns has established.** On a device that is not in the
customer state, `VerifyPolicyAndChange` returns, with no reset, only through
`Exit:` with `EFI_SUCCESS`. Either Step 2 re-authenticated the current blob: read
from the current mailbox, accepted by `ValidateBlob`, its string fields matched,
its nonce field the current nonce (read as eight bytes with the policy
attributes), and its state bits the state the device booted in. Or Step 2.2 read
the current nonce with `EFI_SUCCESS` but not as eight bytes with the policy
attributes, and its `goto Exit` kept that `EFI_SUCCESS`. -/
theorem returned_boot_reauthenticated_or_current_nonce_misread {lib : MfciPolicyParsingLib}
    {certificates : List UInt8} {mCurrentPolicy : UInt64} {t : List MfciEvent}
    (hm : mCurrentPolicy ≠ customerState)
    (h : Run (verifyPolicyAndChange lib certificates mCurrentPolicy) t (.returned ())) :
    (∃ dataSize r n, ⟨.getVariable .currentMfciPolicyBlob dataSize, r⟩ ∈ t ∧ r.status = .success ∧
      ⟨.getVariable .currentMfciPolicyNonce 8, n⟩ ∈ t ∧ n.status = .success ∧ n.dataSize = 8 ∧
      n.attributes = mfciPolicyVariableAttr ∧
      (∃ publicKeyData, ⟨.validateBlob r.data publicKeyData, .success⟩ ∈ t) ∧
      (∃ tfields, tfields <:+: t ∧
        Run (verifyStringFields lib r.data targetFields) tfields (.returned .success)) ∧
      lib.extractUint64 r.data .targetNonce = (.success, nonceOf n.data) ∧
      ∃ blobPolicy, lib.extractUint64 r.data .uefiPolicy = (.success, blobPolicy) ∧
        blobPolicy &&& ~~~mfciPolicyValueActionsMask = mCurrentPolicy) ∨
    ∃ n, ⟨.getVariable .currentMfciPolicyNonce 8, n⟩ ∈ t ∧ n.status = .success ∧
      (n.dataSize ≠ 8 ∨ n.attributes ≠ mfciPolicyVariableAttr) := by
  obtain ⟨t₁, rfl, hsteps⟩ := verifyPolicyAndChange_run_returned hm h
  obtain ⟨t₂, r, hinfix, hstep2, hr⟩ := verifyPolicyAndChangeSteps_run_error_success hsteps
  have hinfix' : t₂ <:+: t₁ ++ [⟨.setVariable .mfciVarLock writeOnceStateVarAttr [mfciLockVarValue],
      EfiStatus.success⟩] := hinfix.trans (List.prefix_append _ _).isInfix
  rcases hr with rfl | rfl
  · -- Step 2 went on: the current blob re-authenticated
    obtain ⟨r₀, rb, n, tv, tg, blobPolicy, rfl, hrb, hn, hsize, hattr, hvalid, htargeting, hpolicy⟩ :=
      verifyCurrentPolicy_run_ok hm hstep2
    obtain ⟨publicKeyData, hkey⟩ := validateBlobWithXdrCertificates_run hvalid rfl
    obtain ⟨hfields, hnonce, hpol⟩ := verifyTargeting_run htargeting rfl
    have htg := (List.suffix_append _ tg).isInfix.trans hinfix'
    refine .inl ⟨r₀.dataSize, rb, n, hinfix'.subset (by simp), hrb, hinfix'.subset (by simp), hn, hsize,
      hattr, ⟨publicKeyData, hinfix'.subset (by simp [hkey])⟩, ⟨tg, htg, hfields⟩, hnonce, blobPolicy,
      hpol, hpolicy⟩
  · -- Step 2.2 kept the `EFI_SUCCESS` of the nonce read
    obtain ⟨r₀, rb, n, rfl, -, hn, hbad⟩ := verifyCurrentPolicy_run_error_success hm hstep2
    exact .inr ⟨n, hinfix'.subset (by simp), hn, hbad⟩

/-- The current blob `[1, 2, 3]` with a four-byte current nonce; the next nonce
`5` is valid. -/
def shortNonceStore : VariableStore MfciVariable :=
  Function.update (Function.update (Function.update targetingStore
    .nextMfciPolicyNonce (some ⟨7, uint64Bytes 5⟩))
    .currentMfciPolicyBlob (some ⟨7, [1, 2, 3]⟩))
    .currentMfciPolicyNonce (some ⟨7, [9, 9, 9, 9]⟩)

/-- A boot on `shortNonceStore`: Step 2.2 reads the four-byte current nonce with
`EFI_SUCCESS` and goes to `Exit:`, which locks the variables and returns. -/
def shortNonceBoot : List MfciEvent :=
  targetSizeQueries ++
  [⟨.getVariable .nextMfciPolicyNonce 8, ⟨.success, 7, 8, uint64Bytes 5⟩⟩,
   ⟨.getVariable .currentMfciPolicyBlob 0, ⟨.bufferTooSmall, 7, 3, []⟩⟩,
   ⟨.allocatePool 3, true⟩,
   ⟨.getVariable .currentMfciPolicyBlob 3, ⟨.success, 7, 3, [1, 2, 3]⟩⟩,
   ⟨.getVariable .currentMfciPolicyNonce 8, ⟨.success, 7, 4, [9, 9, 9, 9]⟩⟩,
   ⟨.setVariable .mfciVarLock 6 [1], EfiStatus.success⟩]

theorem returned_boot_short_nonce_misread :
    let boot := shortNonceBoot
    (0x10000 : UInt64) ≠ customerState ∧
    Run (verifyPolicyAndChange sampleLib sampleCertificates 0x10000) boot (.returned ()) ∧
    ((∃ dataSize r n, ⟨.getVariable .currentMfciPolicyBlob dataSize, r⟩ ∈ boot ∧ r.status = .success ∧
      ⟨.getVariable .currentMfciPolicyNonce 8, n⟩ ∈ boot ∧ n.status = .success ∧ n.dataSize = 8 ∧
      n.attributes = mfciPolicyVariableAttr ∧
      (∃ publicKeyData, ⟨.validateBlob r.data publicKeyData, .success⟩ ∈ boot) ∧
      (∃ tfields, tfields <:+: boot ∧
        Run (verifyStringFields sampleLib r.data targetFields) tfields (.returned .success)) ∧
      sampleLib.extractUint64 r.data .targetNonce = (.success, nonceOf n.data) ∧
      ∃ blobPolicy, sampleLib.extractUint64 r.data .uefiPolicy = (.success, blobPolicy) ∧
        blobPolicy &&& ~~~mfciPolicyValueActionsMask = 0x10000) ∨
    ∃ n, ⟨.getVariable .currentMfciPolicyNonce 8, n⟩ ∈ boot ∧ n.status = .success ∧
      (n.dataSize ≠ 8 ∨ n.attributes ≠ mfciPolicyVariableAttr)) := by
  intro boot
  have hm : (0x10000 : UInt64) ≠ customerState := by decide
  have hrun : Run (verifyPolicyAndChange sampleLib sampleCertificates 0x10000) boot (.returned ()) :=
    Run.of_check rfl
  exact ⟨hm, hrun, returned_boot_reauthenticated_or_current_nonce_misread hm hrun⟩

/-- **A current blob that is never re-authenticated.** Whatever the policy the
device booted in, the boot on `shortNonceStore` returns with no reset and with
no `ValidateBlob` call: the current blob was read but never checked. -/
theorem short_current_nonce_skips_reauthentication (lib : MfciPolicyParsingLib)
    (certificates : List UInt8) (mCurrentPolicy : UInt64) :
    Run (verifyPolicyAndChange lib certificates mCurrentPolicy) shortNonceBoot (.returned ()) ∧
    Consistent MfciCall.Answers shortNonceStore shortNonceBoot
      (Function.update shortNonceStore .mfciVarLock (some ⟨6, [1]⟩)) ∧
    ∀ e ∈ shortNonceBoot, e.call ≠ .resetSystemWithSubtype ∧
      ∀ signedPolicy publicKeyData, e.call ≠ .validateBlob signedPolicy publicKeyData := by
  refine ⟨Run.of_check rfl, ?_, ?_⟩
  · repeat (first | exact .nil _ | refine .cons (And.intro rfl rfl) ?_ |
      refine .cons (.inl rfl) ?_ | refine .cons rfl ?_)
  · simp [shortNonceBoot, targetSizeQueries, targetFields]

end MuPlus.Mfci
