import MuPlus.Mfci.Dxe

/-!
# MuPlus.Mfci.Spec

**What each routine of the MFCI driver does**, one lemma each, so that the
results about `VerifyPolicyAndChange` (`MuPlus.Mfci.Boot`) cite these and never
unfold a routine.

* Writes: which routines can write the next nonce or the next blob. Only Step 1
  (refreshing the nonce) and `CleanTargetVariables` do; every other routine the
  steps before `InternalTransitionRoutine` call keeps both (`MfciCall.KeepsNext`),
  and the copy of `InternalTransitionRoutine` writes the current variables only.
* The values written to the next nonce: on every run, each is the value of a
  generator call of the same run (`verifyPolicyAndChange_nonceWrites`).
* Runs that go on: the exact trace of a Step 1 that reaches Step 2
  (`readTargetNonce_run`); a blob that `ValidateBlobWithXdrCertificates` accepts
  was accepted by `ValidateBlob` against some key (`validateBlobWithXdrCertificates_run`);
  `VerifyTargeting` succeeds only when the blob's nonce field is the one expected
  (`verifyTargeting_run`); Step 3 reaches Step 4 only with the blob it read from
  the next mailbox (`verifyTargetPolicy_run`); and the steps before Step 4 are
  these runs one after the other (`verifyPolicyAndChangeSteps_run`).
* `InternalTransitionRoutine`: the events of a run up to its `CpuDeadLoop`
  (`internalTransitionRoutine_run`), with those of `CleanTargetVariables`
  (`cleanTargetVariables_run`).
-/

namespace MuPlus.Mfci

open Interaction Prog

/-! ### Writes -/

/-- The variable a call writes. -/
def MfciCall.writes : MfciCall → Option MfciVariable
  | .setVariable name _ _ => some name
  | _ => none

/-- The call writes neither the next nonce nor the next blob. -/
def MfciCall.KeepsNext (c : MfciCall) : Prop :=
  c.writes ≠ some .nextMfciPolicyNonce ∧ c.writes ≠ some .nextMfciPolicyBlob

theorem checkTargetVarsExist_keepsNext (fields : List TargetField) :
    (checkTargetVarsExist fields).CallsOnly MfciCall.KeepsNext := by
  induction fields with
  | nil => exact callsOnly_pure _
  | cons field fields ih =>
      refine (callsOnly_lift ?_).bind fun r => CallsOnly.ite (fun _ => callsOnly_pure _) fun _ => ih
      simp [MfciCall.KeepsNext, MfciCall.writes]

theorem populateTargetVarsFromLib_keepsNext (fields : List TargetField) :
    (populateTargetVarsFromLib fields).CallsOnly MfciCall.KeepsNext := by
  induction fields with
  | nil => exact callsOnly_pure _
  | cons field fields ih =>
      refine (callsOnly_lift ?_).bind fun r => CallsOnly.ite (fun _ => callsOnly_pure _) fun _ =>
        (callsOnly_lift ?_).bind fun s => CallsOnly.ite (fun _ => callsOnly_pure _) fun _ => ih
      all_goals simp [MfciCall.KeepsNext, MfciCall.writes]

theorem cpuDeadLoop_callsOnly {α : Type} {P : MfciCall → Prop} (h : P .cpuDeadLoop) :
    (cpuDeadLoop : MfciProg α).CallsOnly P :=
  ⟨h, fun e => (e : Empty).elim⟩

theorem cleanCurrentVariables_keepsNext : cleanCurrentVariables.CallsOnly MfciCall.KeepsNext := by
  simp only [cleanCurrentVariables]
  repeat' first | exact callsOnly_pure _ | apply CallsOnly.bind | apply callsOnly_lift | intro
  all_goals simp [MfciCall.KeepsNext, MfciCall.writes]

theorem internalCleanupCurrentPolicy_keepsNext (mCurrentPolicy : UInt64) :
    (internalCleanupCurrentPolicy mCurrentPolicy).CallsOnly MfciCall.KeepsNext := by
  simp only [internalCleanupCurrentPolicy]
  repeat' first
    | exact callsOnly_pure _ | exact cleanCurrentVariables_keepsNext
    | apply cpuDeadLoop_callsOnly | apply CallsOnly.bind | apply CallsOnly.ite | apply callsOnly_lift
    | intro
  all_goals simp [MfciCall.KeepsNext, MfciCall.writes]

theorem cleanupCurrentPolicyThenVerifyTarget_keepsNext (mCurrentPolicy : UInt64) :
    (cleanupCurrentPolicyThenVerifyTarget mCurrentPolicy).run.CallsOnly MfciCall.KeepsNext := by
  simp only [cleanupCurrentPolicyThenVerifyTarget]
  repeat' first
    | exact callsOnly_exceptT_throw _ | exact callsOnly_exceptT_pure _
    | exact callsOnly_exceptT_liftM (internalCleanupCurrentPolicy_keepsNext _)
    | apply CallsOnly.exceptT_bind | apply CallsOnly.exceptT_ite | intro

/-- The certificate loop calls nothing but `ValidateBlob` on the blob. -/
theorem validateBlobWithXdrCertificatesLoop_callsOnly {P : MfciCall → Prop}
    {signedPolicy certificates : List UInt8} (hP : ∀ key, P (.validateBlob signedPolicy key))
    (fuel publicKeyDataCurrent : Nat) :
    (validateBlobWithXdrCertificatesLoop signedPolicy certificates fuel publicKeyDataCurrent).CallsOnly P := by
  induction fuel generalizing publicKeyDataCurrent with
  | zero => exact callsOnly_pure _
  | succ fuel ih =>
      simp only [validateBlobWithXdrCertificatesLoop]
      repeat' first
        | exact callsOnly_pure _ | exact ih _ | exact callsOnly_lift (hP _)
        | apply CallsOnly.bind | apply CallsOnly.ite | intro

theorem validateBlobWithXdrCertificates_callsOnly {P : MfciCall → Prop}
    {signedPolicy : List UInt8} (certificates : List UInt8)
    (hP : ∀ key, P (.validateBlob signedPolicy key)) :
    (validateBlobWithXdrCertificates signedPolicy certificates).CallsOnly P := by
  simp only [validateBlobWithXdrCertificates]
  repeat' first
    | exact callsOnly_pure _ | exact validateBlobWithXdrCertificatesLoop_callsOnly hP _ _
    | apply CallsOnly.ite | intro

/-- `VerifyTargeting` only reads the targeting variables. -/
theorem verifyTargeting_keepsNext (lib : MfciPolicyParsingLib) (policyBlob : List UInt8)
    (expectedNonce : UInt64) :
    (verifyTargeting lib policyBlob expectedNonce).CallsOnly MfciCall.KeepsNext := by
  have hhelper : ∀ field, (verifyStringFieldHelper lib policyBlob field).CallsOnly MfciCall.KeepsNext := by
    intro field
    simp only [verifyStringFieldHelper, getOemField]
    repeat' first
      | exact callsOnly_pure _ | apply CallsOnly.bind | apply CallsOnly.ite | apply callsOnly_lift
      | split | intro
    all_goals simp [MfciCall.KeepsNext, MfciCall.writes]
  have hfields : ∀ fields, (verifyStringFields lib policyBlob fields).CallsOnly MfciCall.KeepsNext := by
    intro fields
    induction fields with
    | nil => exact callsOnly_pure _
    | cons field fields ih =>
        exact (hhelper field).bind fun status => CallsOnly.ite (fun _ => callsOnly_pure _) fun _ => ih
  simp only [verifyTargeting]
  repeat' first
    | exact callsOnly_pure _ | exact hfields _ | apply CallsOnly.bind | apply CallsOnly.ite
    | split | intro

/-- Step 2 keeps the next nonce and the next blob: its clean-up writes only the
current variables. -/
theorem verifyCurrentPolicy_keepsNext (lib : MfciPolicyParsingLib) (certificates : List UInt8)
    (mCurrentPolicy : UInt64) :
    (verifyCurrentPolicy lib certificates mCurrentPolicy).run.CallsOnly MfciCall.KeepsNext := by
  simp only [verifyCurrentPolicy]
  repeat' first
    | exact callsOnly_exceptT_throw _ | exact callsOnly_exceptT_pure _
    | exact cleanupCurrentPolicyThenVerifyTarget_keepsNext _
    | exact callsOnly_exceptT_liftM (verifyTargeting_keepsNext _ _ _)
    | exact callsOnly_exceptT_liftM (validateBlobWithXdrCertificates_callsOnly _ fun _ => by
        simp [MfciCall.KeepsNext, MfciCall.writes])
    | apply callsOnly_exceptT_liftM | apply callsOnly_lift
    | apply CallsOnly.exceptT_bind | apply CallsOnly.exceptT_ite | split | intro
  all_goals simp [MfciCall.KeepsNext, MfciCall.writes]

/-- The call writes one of the current-policy variables. -/
def MfciCall.WritesCurrent : MfciCall → Prop
  | .setVariable name _ _ =>
      name = .currentMfciPolicyBlob ∨ name = .currentMfciPolicyNonce ∨ name = .currentMfciPolicy
  | _ => False

theorem MfciCall.WritesCurrent.keepsNext {c : MfciCall} (h : c.WritesCurrent) : c.KeepsNext := by
  cases c with
  | setVariable name attributes data => rcases h with rfl | rfl | rfl <;> simp [KeepsNext, writes]
  | _ => cases h

theorem internalTransitionCopy_writesCurrent (targetPolicy targetNonce : UInt64)
    (targetBlob : List UInt8) :
    (internalTransitionCopy targetPolicy targetNonce targetBlob).CallsOnly MfciCall.WritesCurrent := by
  simp only [internalTransitionCopy, setVariable]
  repeat' first
    | exact callsOnly_pure _ | apply CallsOnly.bind | apply CallsOnly.ite | apply callsOnly_lift
    | intro
  all_goals simp [MfciCall.WritesCurrent]

theorem cleanTargetVariables_callsOnly :
    cleanTargetVariables.CallsOnly (· ≠ MfciCall.cpuDeadLoop) := by
  simp only [cleanTargetVariables, getRandomNumber64, setVariable]
  repeat' first
    | exact callsOnly_pure _ | exact callsOnly_lift (by simp) | apply CallsOnly.bind | intro

/-! ### The values written to the next nonce

Every write of the next nonce, on every run of `VerifyPolicyAndChange` and
whatever its outcome, writes the value of a generator call of the same run (the
invalid nonce for a failed one): the two writers, Step 1 and
`CleanTargetVariables`, write the answer of the call just before, and every
other routine keeps the next nonce. -/

/-- Every write of the next nonce in `t` writes, with the policy attributes, the
value of a generator call of `t` (`MFCI_POLICY_INVALID_NONCE` for a failed one). -/
def NonceWritesFromRng (t : List MfciEvent) : Prop :=
  ∀ e ∈ t, e.call.writes = some .nextMfciPolicyNonce →
    ∃ rng, ⟨.getRandomNumber64, rng⟩ ∈ t ∧
      e.call = .setVariable .nextMfciPolicyNonce mfciPolicyVariableAttr
        (uint64Bytes (rng.getD mfciPolicyInvalidNonce))

theorem nonceWritesFromRng_of_ne {t : List MfciEvent}
    (ht : ∀ e ∈ t, e.call.writes ≠ some .nextMfciPolicyNonce) : NonceWritesFromRng t :=
  fun e he hwrites => absurd hwrites (ht e he)

theorem nonceWritesFromRng_nil : NonceWritesFromRng [] :=
  nonceWritesFromRng_of_ne (by simp)

theorem nonceWritesFromRng_append {t₁ t₂ : List MfciEvent} (h₁ : NonceWritesFromRng t₁)
    (h₂ : NonceWritesFromRng t₂) : NonceWritesFromRng (t₁ ++ t₂) := by
  intro e he hwrites
  rcases List.mem_append.mp he with he | he
  · obtain ⟨rng, hrng, heq⟩ := h₁ e he hwrites
    exact ⟨rng, List.mem_append_left _ hrng, heq⟩
  · obtain ⟨rng, hrng, heq⟩ := h₂ e he hwrites
    exact ⟨rng, List.mem_append_right _ hrng, heq⟩

theorem runsIn_of_keepsNext {α : Type} {p : MfciProg α} (hp : p.CallsOnly MfciCall.KeepsNext) :
    p.RunsIn NonceWritesFromRng :=
  runsIn_of_callsOnly hp fun _ ht => nonceWritesFromRng_of_ne fun e he => (ht e he).1

theorem nonceWritesFromRng_rng_write {rng : Option UInt64} {status : EfiStatus} {t : List MfciEvent}
    (ht : ∀ e ∈ t, e.call.writes ≠ some .nextMfciPolicyNonce) :
    NonceWritesFromRng (⟨.getRandomNumber64, rng⟩ :: ⟨.setVariable .nextMfciPolicyNonce
      mfciPolicyVariableAttr (uint64Bytes (rng.getD mfciPolicyInvalidNonce)), status⟩ :: t) := by
  intro e he hwrites
  refine ⟨rng, List.mem_cons_self, ?_⟩
  rcases List.mem_cons.mp he with rfl | he
  · cases hwrites
  rcases List.mem_cons.mp he with rfl | he
  · rfl
  · exact absurd hwrites (ht e he)

theorem runsIn_after_rng_write {β : Type} {rng : Option UInt64} {status : EfiStatus}
    {p : MfciProg β} (hp : p.CallsOnly fun c => c.writes ≠ some .nextMfciPolicyNonce) :
    p.RunsIn fun t => NonceWritesFromRng (⟨.getRandomNumber64, rng⟩ :: ⟨.setVariable
      .nextMfciPolicyNonce mfciPolicyVariableAttr (uint64Bytes (rng.getD mfciPolicyInvalidNonce)), status⟩ :: t) :=
  runsIn_of_callsOnly hp fun _ ht => nonceWritesFromRng_rng_write ht

theorem cleanTargetVariables_nonceWrites : cleanTargetVariables.RunsIn NonceWritesFromRng := by
  refine runsIn_call nonceWritesFromRng_nil fun rng => ?_
  -- the value written is the generator's, or the invalid nonce when it failed
  cases rng
  all_goals
    refine runsIn_call (nonceWritesFromRng_of_ne (by simp [MfciCall.writes])) fun status => ?_
    refine runsIn_after_rng_write ?_
    exact (callsOnly_lift (by simp [MfciCall.writes])).bind fun _ => callsOnly_pure _

theorem readTargetNonce_nonceWrites : readTargetNonce.run.RunsIn NonceWritesFromRng := by
  refine RunsIn.exceptT_bind nonceWritesFromRng_nil nonceWritesFromRng_append
    (runsIn_exceptT_liftM nonceWritesFromRng_nil nonceWritesFromRng_append
      (runsIn_of_keepsNext (callsOnly_lift (by simp [MfciCall.KeepsNext, MfciCall.writes])))) fun r => ?_
  refine RunsIn.exceptT_ite (fun _ => ?_) fun _ => runsIn_pure nonceWritesFromRng_nil _
  refine runsIn_exceptT_call nonceWritesFromRng_nil fun rng => ?_
  refine runsIn_exceptT_call (nonceWritesFromRng_of_ne (by simp [MfciCall.writes])) fun status => ?_
  refine runsIn_after_rng_write ?_
  repeat' first
    | exact callsOnly_exceptT_throw _ | exact callsOnly_exceptT_pure _
    | apply CallsOnly.exceptT_bind | apply CallsOnly.exceptT_ite | intro

theorem internalCleanupTargetPolicy_nonceWrites (mCurrentPolicy : UInt64) :
    (internalCleanupTargetPolicy mCurrentPolicy).RunsIn NonceWritesFromRng := by
  simp only [internalCleanupTargetPolicy]
  repeat' first
    | exact cleanTargetVariables_nonceWrites
    | exact runsIn_of_keepsNext cleanCurrentVariables_keepsNext
    | exact runsIn_pure nonceWritesFromRng_nil _
    | exact runsIn_of_keepsNext (cpuDeadLoop_callsOnly (by simp [MfciCall.KeepsNext, MfciCall.writes]))
    | exact runsIn_of_keepsNext (callsOnly_lift (by simp [MfciCall.KeepsNext, MfciCall.writes]))
    | refine RunsIn.bind nonceWritesFromRng_append ?_ fun _ => ?_
    | refine RunsIn.ite (fun _ => ?_) fun _ => ?_

theorem verifyTargetPolicy_nonceWrites (lib : MfciPolicyParsingLib) (certificates : List UInt8)
    (mCurrentPolicy targetNonce : UInt64) :
    (verifyTargetPolicy lib certificates mCurrentPolicy targetNonce).run.RunsIn NonceWritesFromRng := by
  simp only [verifyTargetPolicy]
  repeat' first
    | exact runsIn_pure nonceWritesFromRng_nil _
    | exact runsIn_exceptT_liftM nonceWritesFromRng_nil nonceWritesFromRng_append
        (internalCleanupTargetPolicy_nonceWrites _)
    | exact runsIn_exceptT_liftM nonceWritesFromRng_nil nonceWritesFromRng_append
        (runsIn_of_keepsNext (verifyTargeting_keepsNext _ _ _))
    | exact runsIn_exceptT_liftM nonceWritesFromRng_nil nonceWritesFromRng_append
        (runsIn_of_keepsNext (validateBlobWithXdrCertificates_callsOnly _ fun _ => by
          simp [MfciCall.KeepsNext, MfciCall.writes]))
    | exact runsIn_exceptT_liftM nonceWritesFromRng_nil nonceWritesFromRng_append
        (runsIn_of_keepsNext (callsOnly_lift (by simp [MfciCall.KeepsNext, MfciCall.writes])))
    | refine RunsIn.exceptT_bind nonceWritesFromRng_nil nonceWritesFromRng_append ?_ fun _ => ?_
    | refine RunsIn.exceptT_ite (fun _ => ?_) fun _ => ?_

theorem verifyPolicyAndChangeSteps_nonceWrites (lib : MfciPolicyParsingLib) (certificates : List UInt8)
    (mCurrentPolicy : UInt64) :
    (verifyPolicyAndChangeSteps lib certificates mCurrentPolicy).run.RunsIn NonceWritesFromRng := by
  simp only [verifyPolicyAndChangeSteps]
  repeat' first
    | exact runsIn_pure nonceWritesFromRng_nil _
    | exact readTargetNonce_nonceWrites
    | exact verifyTargetPolicy_nonceWrites _ _ _ _
    | exact runsIn_of_keepsNext (verifyCurrentPolicy_keepsNext _ _ _)
    | exact runsIn_exceptT_liftM nonceWritesFromRng_nil nonceWritesFromRng_append
        (runsIn_of_keepsNext (checkTargetVarsExist_keepsNext _))
    | exact runsIn_exceptT_liftM nonceWritesFromRng_nil nonceWritesFromRng_append
        (runsIn_of_keepsNext (populateTargetVarsFromLib_keepsNext _))
    | refine RunsIn.exceptT_bind nonceWritesFromRng_nil nonceWritesFromRng_append ?_ fun _ => ?_
    | refine RunsIn.exceptT_ite (fun _ => ?_) fun _ => ?_

theorem internalTransitionRoutine_nonceWrites (targetPolicy targetNonce : UInt64)
    (targetBlob : List UInt8) :
    (internalTransitionRoutine targetPolicy targetNonce targetBlob).RunsIn NonceWritesFromRng := by
  simp only [internalTransitionRoutine]
  repeat' first
    | exact cleanTargetVariables_nonceWrites
    | exact runsIn_of_callsOnly (internalTransitionCopy_writesCurrent _ _ _) fun _ ht =>
        nonceWritesFromRng_of_ne fun e he => (ht e he).keepsNext.1
    | exact runsIn_of_keepsNext (cpuDeadLoop_callsOnly (by simp [MfciCall.KeepsNext, MfciCall.writes]))
    | exact runsIn_of_keepsNext (callsOnly_lift (by simp [MfciCall.KeepsNext, MfciCall.writes]))
    | refine RunsIn.bind nonceWritesFromRng_append ?_ fun _ => ?_

theorem verifyPolicyAndChange_nonceWrites (lib : MfciPolicyParsingLib) (certificates : List UInt8)
    (mCurrentPolicy : UInt64) :
    (verifyPolicyAndChange lib certificates mCurrentPolicy).RunsIn NonceWritesFromRng := by
  refine RunsIn.bind nonceWritesFromRng_append (verifyPolicyAndChangeSteps_nonceWrites _ _ _) fun r => ?_
  -- Step 4, or `Exit:`, whose clean-up writes only the current variables
  rcases r with status | ⟨blobPolicy, targetNonce, targetBlob⟩
  · refine runsIn_of_keepsNext ?_
    simp only [verifyPolicyAndChangeExit, lockPolicyVariables, setVariable]
    repeat' first
      | exact callsOnly_pure _ | exact internalCleanupCurrentPolicy_keepsNext _
      | apply CallsOnly.bind | apply CallsOnly.ite | apply callsOnly_lift | intro
    all_goals simp [MfciCall.KeepsNext, MfciCall.writes]
  · exact internalTransitionRoutine_nonceWrites _ _ _

/-! ### Runs that go on -/

/-- Step 1 keeps the stored next nonce: the read succeeded with eight bytes and
the policy attributes, and the nonce is not `MFCI_POLICY_INVALID_NONCE`. -/
def NonceKept (r : GetVariableResult) : Prop :=
  ¬(r.status.isError ∨ r.dataSize ≠ 8 ∨ r.attributes ≠ mfciPolicyVariableAttr ∨
    nonceOf r.data = mfciPolicyInvalidNonce)

/-- Step 1 goes on with the stored nonce, or with a fresh one from the generator
(`MFCI_POLICY_INVALID_NONCE` when it fails) once that is written back. -/
theorem readTargetNonce_run {t : List MfciEvent} {targetNonce : UInt64}
    (h : Run readTargetNonce.run t (.returned (.ok targetNonce))) :
    ∃ r, (NonceKept r ∧ t = [⟨.getVariable .nextMfciPolicyNonce 8, r⟩] ∧
        targetNonce = nonceOf r.data) ∨
      (¬NonceKept r ∧ ∃ rng, targetNonce = rng.getD mfciPolicyInvalidNonce ∧
        t = [⟨.getVariable .nextMfciPolicyNonce 8, r⟩, ⟨.getRandomNumber64, rng⟩,
          ⟨.setVariable .nextMfciPolicyNonce mfciPolicyVariableAttr (uint64Bytes targetNonce),
            EfiStatus.success⟩]) := by
  simp only [readTargetNonce, getVariable, getRandomNumber64, setVariable, run_exceptT_bind_ok_iff,
    run_exceptT_liftM_ok_iff, run_lift_returned_iff, exceptT_run_ite, run_ite_iff,
    run_exceptT_throw_ok_iff, run_exceptT_pure_ok_iff, false_and, and_false, exists_false, false_or,
    Bool.not_eq_true, EfiStatus.isError_eq_false] at h
  obtain ⟨_, _, r, rfl, rfl, h⟩ := h
  refine ⟨r, ?_⟩
  -- the write-back of a fresh nonce must succeed for Step 1 to go on
  rcases h with ⟨hrefresh, _, _, rng, rfl, rfl, _, _, status, rfl, rfl, rfl, rfl, rfl⟩ |
    ⟨hkeep, rfl, rfl⟩
  · exact .inr ⟨fun hkeep => hkeep hrefresh, rng, rfl, rfl⟩
  · exact .inl ⟨hkeep, rfl, rfl⟩

/-- A loop that ends in success ends on a key `ValidateBlob` accepted. -/
theorem validateBlobWithXdrCertificatesLoop_run {signedPolicy certificates : List UInt8}
    {fuel publicKeyDataCurrent : Nat} {t : List MfciEvent} {status : EfiStatus}
    (h : Run (validateBlobWithXdrCertificatesLoop signedPolicy certificates fuel publicKeyDataCurrent)
      t (.returned status))
    (hok : status = .success) :
    ∃ publicKeyData, (⟨.validateBlob signedPolicy publicKeyData, .success⟩ : MfciEvent) ∈ t := by
  subst hok
  induction fuel generalizing publicKeyDataCurrent t with
  | zero => simp [validateBlobWithXdrCertificatesLoop] at h
  | succ fuel ih =>
      simp only [validateBlobWithXdrCertificatesLoop, validateBlob, run_bind_returned_iff, run_ite_iff,
        run_pure_iff', run_lift_returned_iff, Outcome.returned.injEq, Bool.not_eq_true',
        EfiStatus.isError_eq_false] at h
      -- a malformed entry ends the loop with `EFI_ABORTED`
      rcases h with ⟨-, -, h⟩ | ⟨-, ⟨-, -, h⟩ | ⟨-, t₁, t₂, r, rfl, rfl, h⟩⟩
      · cases h
      · cases h
      -- after a key: accepted, or the next entry, or the last key's failure
      rcases h with ⟨rfl, -, -⟩ | ⟨hr, ⟨-, hrun⟩ | ⟨-, -, rfl⟩⟩
      · exact ⟨_, List.mem_append_left _ (List.mem_singleton_self _)⟩
      · obtain ⟨publicKeyData, hmem⟩ := ih hrun
        exact ⟨publicKeyData, List.mem_append_right _ hmem⟩
      · exact absurd rfl hr

theorem validateBlobWithXdrCertificates_run {signedPolicy certificates : List UInt8}
    {t : List MfciEvent} {status : EfiStatus}
    (h : Run (validateBlobWithXdrCertificates signedPolicy certificates) t (.returned status))
    (hok : status = .success) :
    ∃ publicKeyData, (⟨.validateBlob signedPolicy publicKeyData, .success⟩ : MfciEvent) ∈ t := by
  simp only [validateBlobWithXdrCertificates, run_ite_iff, run_pure_iff', Outcome.returned.injEq] at h
  -- an empty blob or a buffer too short for one entry is `EFI_ABORTED`
  rcases h with ⟨-, -, rfl⟩ | ⟨-, ⟨-, -, rfl⟩ | ⟨-, h⟩⟩
  · cases hok
  · cases hok
  · exact validateBlobWithXdrCertificatesLoop_run h hok

/-- `VerifyTargeting` succeeds after the string fields matched, on a blob whose
nonce field is the expected nonce; it returns the blob's policy field. -/
theorem verifyTargeting_run {lib : MfciPolicyParsingLib} {policyBlob : List UInt8}
    {expectedNonce : UInt64} {t : List MfciEvent} {status : EfiStatus} {extractedPolicy : UInt64}
    (h : Run (verifyTargeting lib policyBlob expectedNonce) t (.returned (status, extractedPolicy)))
    (hok : status = .success) :
    Run (verifyStringFields lib policyBlob targetFields) t (.returned .success) ∧
      lib.extractUint64 policyBlob .targetNonce = (.success, expectedNonce) ∧
      lib.extractUint64 policyBlob .uefiPolicy = (status, extractedPolicy) := by
  subst hok
  simp only [verifyTargeting, run_bind_returned_iff, run_ite_iff, run_pure_iff', Outcome.returned.injEq,
    Prod.mk.injEq, Bool.not_eq_true, EfiStatus.isError_eq_false] at h
  obtain ⟨t₁, t₂, fieldsStatus, rfl, hfields, h⟩ := h
  -- every exit before the last line returns an error
  rcases h with ⟨hfail, -, rfl, -⟩ | ⟨rfl, ⟨hfail, -, h, -⟩ | ⟨hnonce, ⟨-, -, h, -⟩ | ⟨hmatch, rfl, h⟩⟩⟩
  · cases hfail
  · rw [← h] at hfail
    cases hfail
  · cases h
  · refine ⟨by simpa using hfields, Prod.ext hnonce (not_not.mp hmatch), h.symm⟩

/-- Step 3 reaches Step 4 with the blob read from the next mailbox, accepted by
the signature check and targeted at the Step 1 nonce. -/
theorem verifyTargetPolicy_run {lib : MfciPolicyParsingLib} {certificates : List UInt8}
    {mCurrentPolicy targetNonce blobPolicy : UInt64} {targetBlob : List UInt8} {t : List MfciEvent}
    (h : Run (verifyTargetPolicy lib certificates mCurrentPolicy targetNonce).run t
      (.returned (.ok (blobPolicy, targetBlob)))) :
    ∃ r₀ r t₁ t₂, t = [⟨.getVariable .nextMfciPolicyBlob 0, r₀⟩, ⟨.allocatePool r₀.dataSize, true⟩,
        ⟨.getVariable .nextMfciPolicyBlob r₀.dataSize, r⟩] ++ t₁ ++ t₂ ∧
      r₀.status = .bufferTooSmall ∧ r₀.attributes = mfciPolicyVariableAttr ∧
      r.status = .success ∧ targetBlob = r.data ∧
      Run (validateBlobWithXdrCertificates targetBlob certificates) t₁ (.returned .success) ∧
      Run (verifyTargeting lib targetBlob targetNonce) t₂ (.returned (.success, blobPolicy)) := by
  simp only [verifyTargetPolicy, getVariable, allocatePool, run_exceptT_bind_ok_iff,
    run_exceptT_liftM_ok_iff, run_lift_returned_iff, exceptT_run_ite, run_ite_iff,
    run_exceptT_throw_ok_iff, run_exceptT_pure_ok_iff, false_and, and_false, exists_false, false_or,
    Bool.not_eq_true, EfiStatus.isError_eq_false, Bool.not_eq_false', not_or,
    not_not, Prod.mk.injEq] at h
  obtain ⟨_, _, r₀, rfl, rfl, -, ⟨hsize, hattr⟩, _, _, _, rfl, rfl, rfl, _, _, r, rfl, rfl, hr,
    t₁, _, _, rfl, hvalid, rfl, t₂, _, ⟨status, policy⟩, rfl, htarget, rfl, rfl, rfl, rfl⟩ := h
  exact ⟨r₀, r, t₁, t₂, by simp, hsize, hattr, hr, rfl, hvalid, htarget⟩

/-- What Step 3 establishes about the blob it goes on with: `ValidateBlob`
accepted it, its nonce field is the Step 1 nonce, and its policy field is the
policy returned. -/
theorem verifyTargetPolicy_accepts {lib : MfciPolicyParsingLib} {certificates : List UInt8}
    {mCurrentPolicy targetNonce blobPolicy : UInt64} {targetBlob : List UInt8} {t : List MfciEvent}
    (h : Run (verifyTargetPolicy lib certificates mCurrentPolicy targetNonce).run t
      (.returned (.ok (blobPolicy, targetBlob)))) :
    (∃ publicKeyData, (⟨.validateBlob targetBlob publicKeyData, .success⟩ : MfciEvent) ∈ t) ∧
      lib.extractUint64 targetBlob .targetNonce = (.success, targetNonce) ∧
      lib.extractUint64 targetBlob .uefiPolicy = (.success, blobPolicy) := by
  obtain ⟨r₀, r, t₁, t₂, rfl, -, -, -, -, hvalid, htargeting⟩ := verifyTargetPolicy_run h
  obtain ⟨publicKeyData, hmem⟩ := validateBlobWithXdrCertificates_run hvalid rfl
  obtain ⟨-, hnonce, hpolicy⟩ := verifyTargeting_run htargeting rfl
  exact ⟨⟨publicKeyData, List.mem_append_left _ (List.mem_append_right _ hmem)⟩, hnonce, hpolicy⟩

/-- The steps before Step 4: the targeting variables (which keep the next
variables), then Steps 1, 2 and 3 in turn. -/
theorem verifyPolicyAndChangeSteps_run {lib : MfciPolicyParsingLib} {certificates : List UInt8}
    {mCurrentPolicy blobPolicy targetNonce : UInt64} {targetBlob : List UInt8} {t : List MfciEvent}
    (h : Run (verifyPolicyAndChangeSteps lib certificates mCurrentPolicy).run t
      (.returned (.ok (blobPolicy, targetNonce, targetBlob)))) :
    ∃ t₀ t₁ t₂ t₃, t = t₀ ++ t₁ ++ t₂ ++ t₃ ∧ (∀ e ∈ t₀, e.call.KeepsNext) ∧
      Run readTargetNonce.run t₁ (.returned (.ok targetNonce)) ∧
      Run (verifyCurrentPolicy lib certificates mCurrentPolicy).run t₂ (.returned (.ok ())) ∧
      Run (verifyTargetPolicy lib certificates mCurrentPolicy targetNonce).run t₃
        (.returned (.ok (blobPolicy, targetBlob))) := by
  simp only [verifyPolicyAndChangeSteps, run_exceptT_bind_ok_iff, run_exceptT_liftM_ok_iff,
    exceptT_run_ite, run_ite_iff, run_exceptT_throw_ok_iff, run_exceptT_pure_ok_iff, false_and,
    and_false, exists_false, false_or, Bool.not_eq_true, EfiStatus.isError_eq_false,
    Prod.mk.injEq] at h
  obtain ⟨t₀, _, _, rfl, hcheck, h⟩ := h
  have hkeep₀ := hcheck.forall_mem_of_callsOnly (checkTargetVarsExist_keepsNext _)
  -- with or without populating the targeting variables, Steps 1 to 3 follow
  rcases h with ⟨-, tp, _, _, rfl, hpop, -, h⟩ | ⟨-, h⟩
  · obtain ⟨t₁, _, _, rfl, hnonce, t₂, _, _, rfl, hcur, t₃, _, ⟨_, _⟩, rfl, htarget, rfl, rfl, rfl, rfl⟩ := h
    have hkeepPop := hpop.forall_mem_of_callsOnly (populateTargetVarsFromLib_keepsNext _)
    refine ⟨t₀ ++ tp, t₁, t₂, t₃, by simp, ?_, hnonce, hcur, htarget⟩
    exact List.forall_mem_append.mpr ⟨hkeep₀, hkeepPop⟩
  · obtain ⟨t₁, _, _, rfl, hnonce, t₂, _, _, rfl, hcur, t₃, _, ⟨_, _⟩, rfl, htarget, rfl, rfl, rfl, rfl⟩ := h
    exact ⟨t₀, t₁, t₂, t₃, by simp, hkeep₀, hnonce, hcur, htarget⟩

/-! ### `InternalTransitionRoutine` -/

/-- `CleanTargetVariables` asks the generator, writes its value (or the invalid
nonce) to the next nonce, and deletes the next blob. -/
theorem cleanTargetVariables_run {t : List MfciEvent} {returnStatus : EfiStatus}
    (h : Run cleanTargetVariables t (.returned returnStatus)) :
    ∃ rng status₁ status₂, t = [⟨.getRandomNumber64, rng⟩,
      ⟨.setVariable .nextMfciPolicyNonce mfciPolicyVariableAttr
        (uint64Bytes (rng.getD mfciPolicyInvalidNonce)), status₁⟩,
      ⟨.setVariable .nextMfciPolicyBlob mfciPolicyVariableAttr [], status₂⟩] := by
  simp only [cleanTargetVariables, getRandomNumber64, setVariable, run_bind_returned_iff,
    run_lift_returned_iff, run_pure_iff'] at h
  obtain ⟨_, _, rng, rfl, rfl, _, _, status₁, rfl, rfl, _, _, status₂, rfl, rfl, rfl, -⟩ := h
  refine ⟨rng, status₁, status₂, ?_⟩
  cases rng <;> rfl

theorem run_cpuDeadLoop_iff {α : Type} {t : List MfciEvent} {o : Outcome MfciCall α} :
    Run (cpuDeadLoop : MfciProg α) t o ↔ t = [] ∧ o = .waiting .cpuDeadLoop := by
  cases t with
  | nil => simp [cpuDeadLoop]
  | cons e t =>
      simp only [cpuDeadLoop, run_call_cons_iff, reduceCtorEq, false_and, iff_false]
      rintro ⟨r, -⟩
      exact r.elim

/-- A run of `InternalTransitionRoutine` to its `CpuDeadLoop`: the notification,
writes of the current variables, `CleanTargetVariables`, and the reset. -/
theorem internalTransitionRoutine_run {targetPolicy targetNonce : UInt64} {targetBlob : List UInt8}
    {t : List MfciEvent}
    (h : Run (internalTransitionRoutine targetPolicy targetNonce targetBlob) t (.waiting .cpuDeadLoop)) :
    ∃ t₁ t₂ status, t = ⟨.notifyMfciPolicyChange targetPolicy, ()⟩ :: (t₁ ++ t₂ ++
        [⟨.resetSystemWithSubtype, ()⟩]) ∧
      (∀ e ∈ t₁, e.call.WritesCurrent) ∧ Run cleanTargetVariables t₂ (.returned status) := by
  simp only [internalTransitionRoutine, notifyMfciPolicyChange, resetSystemWithSubtype,
    run_bind_waiting_iff, run_lift_returned_iff, run_lift_waiting_iff, run_cpuDeadLoop_iff,
    reduceCtorEq, and_false, or_false, and_true] at h
  obtain ⟨_, _, _, rfl, rfl, h⟩ := h
  -- neither the copy nor `CleanTargetVariables` can stop at the dead loop
  rcases h with ⟨t₁, _, _, rfl, hcopy, h⟩ | hwait
  swap
  · exact absurd (hwait.callsOnly_waiting (internalTransitionCopy_writesCurrent _ _ _)) id
  rcases h with ⟨t₂, _, status, rfl, hclean, _, _, _, rfl, rfl, rfl⟩ | hwait
  swap
  · exact absurd rfl (hwait.callsOnly_waiting cleanTargetVariables_callsOnly)
  refine ⟨t₁, t₂, status, by simp, ?_, hclean⟩
  exact hcopy.forall_mem_of_callsOnly (internalTransitionCopy_writesCurrent _ _ _)

/-! ### Exits

On a device that is not in the customer state every clean-up resets it, so a run
that returns went around all of them. -/

section Exits

variable {lib : MfciPolicyParsingLib} {certificates : List UInt8} {mCurrentPolicy : UInt64}
  {t : List MfciEvent}

/-- `InternalCleanupCurrentPolicy` resets a device that is not in the customer
state: it never returns. -/
theorem internalCleanupCurrentPolicy_not_returned {status : EfiStatus}
    (hm : mCurrentPolicy ≠ customerState) :
    Run (internalCleanupCurrentPolicy mCurrentPolicy) t (.returned status) ↔ False := by
  simp only [internalCleanupCurrentPolicy, run_bind_returned_iff, run_ite_iff, hm, run_cpuDeadLoop_iff,
    reduceCtorEq, and_false, exists_false, false_and, or_false, not_false_eq_true, ne_eq,
    not_true_eq_false]

theorem cleanupCurrentPolicyThenVerifyTarget_not_returned {r : Except EfiStatus Unit}
    (hm : mCurrentPolicy ≠ customerState) :
    Run (cleanupCurrentPolicyThenVerifyTarget mCurrentPolicy).run t (.returned r) ↔ False := by
  rw [iff_false]
  intro h
  -- every run that returns went through a returning clean-up
  cases r with
  | ok u =>
      simp only [cleanupCurrentPolicyThenVerifyTarget, run_exceptT_bind_ok_iff,
        run_exceptT_liftM_ok_iff] at h
      obtain ⟨_, _, _, _, hclean, -⟩ := h
      exact (internalCleanupCurrentPolicy_not_returned hm).mp hclean
  | error e =>
      simp only [cleanupCurrentPolicyThenVerifyTarget, run_exceptT_bind_error_iff,
        run_exceptT_liftM_ok_iff, run_exceptT_liftM_error_iff, false_or] at h
      obtain ⟨_, _, _, _, hclean, -⟩ := h
      exact (internalCleanupCurrentPolicy_not_returned hm).mp hclean

/-- Step 1 leaves only with the error of its failed write. -/
theorem readTargetNonce_run_error {status : EfiStatus}
    (h : Run readTargetNonce.run t (.returned (.error status))) : status ≠ .success := by
  simp only [readTargetNonce, getVariable, getRandomNumber64, setVariable, run_exceptT_bind_error_iff,
    run_exceptT_liftM_ok_iff, run_exceptT_liftM_error_iff, run_lift_returned_iff, exceptT_run_ite,
    run_ite_iff, run_exceptT_throw_error_iff, run_exceptT_pure_error_iff, and_false, exists_false,
    false_or, or_false] at h
  obtain ⟨_, _, _, -, -, -, _, _, _, -, -, _, _, _, -, -, herr, -, rfl⟩ := h
  intro hsuccess
  simp [hsuccess] at herr

/-- Step 2 on a device that is not in the customer state goes on only after the
current blob re-authenticated: read from the current mailbox, accepted by the
signature check, targeted at the current nonce (read with eight bytes and the
policy attributes), and carrying the state bits the device booted in. -/
theorem verifyCurrentPolicy_run_ok (hm : mCurrentPolicy ≠ customerState)
    (h : Run (verifyCurrentPolicy lib certificates mCurrentPolicy).run t (.returned (.ok ()))) :
    ∃ r₀ r n t₁ t₂ blobPolicy,
      t = [⟨.getVariable .currentMfciPolicyBlob 0, r₀⟩, ⟨.allocatePool r₀.dataSize, true⟩,
        ⟨.getVariable .currentMfciPolicyBlob r₀.dataSize, r⟩,
        ⟨.getVariable .currentMfciPolicyNonce 8, n⟩] ++ t₁ ++ t₂ ∧
      r.status = .success ∧ n.status = .success ∧ n.dataSize = 8 ∧
      n.attributes = mfciPolicyVariableAttr ∧
      Run (validateBlobWithXdrCertificates r.data certificates) t₁ (.returned .success) ∧
      Run (verifyTargeting lib r.data (nonceOf n.data)) t₂ (.returned (.success, blobPolicy)) ∧
      blobPolicy &&& ~~~mfciPolicyValueActionsMask = mCurrentPolicy := by
  simp only [verifyCurrentPolicy, getVariable, allocatePool, run_exceptT_bind_ok_iff,
    run_exceptT_liftM_ok_iff, run_lift_returned_iff, exceptT_run_ite, run_ite_iff,
    run_exceptT_throw_ok_iff, run_exceptT_pure_ok_iff, false_and, and_false, exists_false, false_or,
    Bool.not_eq_true, EfiStatus.isError_eq_false, Bool.not_eq_false', not_or, not_not,
    cleanupCurrentPolicyThenVerifyTarget_not_returned hm] at h
  obtain ⟨_, _, r₀, rfl, rfl, -, -, _, _, _, rfl, rfl, rfl, _, _, r, rfl, rfl, hr, _, _, n, rfl, rfl,
    ⟨hn, hsize, hattr⟩, t₁, _, _, rfl, hvalid, rfl, t₂, _, ⟨status, blobPolicy⟩, rfl, htargeting,
    ⟨rfl, hpolicy⟩, rfl, -⟩ := h
  exact ⟨r₀, r, n, t₁, t₂, blobPolicy, by simp, hr, hn, hsize, hattr, hvalid, htargeting, hpolicy⟩

/-- Step 2 leaves with `EFI_SUCCESS` on a device that is not in the customer
state only through Step 2.2: the current nonce was read with `EFI_SUCCESS` but
not as eight bytes with the policy attributes. -/
theorem verifyCurrentPolicy_run_error_success (hm : mCurrentPolicy ≠ customerState)
    (h : Run (verifyCurrentPolicy lib certificates mCurrentPolicy).run t
      (.returned (.error .success))) :
    ∃ r₀ r n,
      t = [⟨.getVariable .currentMfciPolicyBlob 0, r₀⟩, ⟨.allocatePool r₀.dataSize, true⟩,
        ⟨.getVariable .currentMfciPolicyBlob r₀.dataSize, r⟩,
        ⟨.getVariable .currentMfciPolicyNonce 8, n⟩] ∧
      r.status = .success ∧ n.status = .success ∧
      (n.dataSize ≠ 8 ∨ n.attributes ≠ mfciPolicyVariableAttr) := by
  simp only [verifyCurrentPolicy, getVariable, allocatePool, run_exceptT_bind_error_iff,
    run_exceptT_liftM_ok_iff, run_exceptT_liftM_error_iff, run_lift_returned_iff, exceptT_run_ite,
    run_ite_iff, run_exceptT_throw_ok_iff, run_exceptT_throw_error_iff, run_exceptT_pure_error_iff,
    false_and, and_false, exists_false, false_or, or_false, Bool.not_eq_true,
    EfiStatus.isError_eq_false, Bool.not_eq_false', not_or, not_not, reduceCtorEq,
    cleanupCurrentPolicyThenVerifyTarget_not_returned hm] at h
  obtain ⟨_, _, r₀, rfl, rfl, -, -, _, _, _, rfl, rfl, rfl, _, _, r, rfl, rfl, hr, _, _, n, rfl, rfl,
    hbad, rfl, hn⟩ := h
  refine ⟨r₀, r, n, by simp, hr, hn, ?_⟩
  rw [hn] at hbad
  simpa using hbad

/-- The steps before Step 4 leave with `EFI_SUCCESS` only after Step 2 went on,
or left with `EFI_SUCCESS` itself. -/
theorem verifyPolicyAndChangeSteps_run_error_success
    (h : Run (verifyPolicyAndChangeSteps lib certificates mCurrentPolicy).run t
      (.returned (.error .success))) :
    ∃ t₂ r, t₂ <:+: t ∧ Run (verifyCurrentPolicy lib certificates mCurrentPolicy).run t₂ (.returned r) ∧
      (r = .ok () ∨ r = .error .success) := by
  have hnonce : ∀ {t : List MfciEvent}, Run readTargetNonce.run t (.returned (.error .success)) ↔ False :=
    ⟨fun h => readTargetNonce_run_error h rfl, False.elim⟩
  simp only [verifyPolicyAndChangeSteps, run_exceptT_bind_error_iff, run_exceptT_liftM_ok_iff,
    run_exceptT_liftM_error_iff, exceptT_run_ite, run_ite_iff, run_exceptT_throw_ok_iff,
    run_exceptT_throw_error_iff, run_exceptT_pure_error_iff, false_and, and_false, exists_false,
    false_or, or_false, Bool.not_eq_true, EfiStatus.isError_eq_false, hnonce, reduceCtorEq] at h
  obtain ⟨t₀, t', _, rfl, -, hrest⟩ := h
  -- with or without populating the targeting variables, Step 2 follows Step 1
  obtain ⟨tpre, t₂', rfl, hstep2⟩ : ∃ tpre t₂', t' = tpre ++ t₂' ∧
      (Run (verifyCurrentPolicy lib certificates mCurrentPolicy).run t₂' (.returned (.error .success)) ∨
        ∃ t₁ t₂ u, t₂' = t₁ ++ t₂ ∧
          Run (verifyCurrentPolicy lib certificates mCurrentPolicy).run t₁ (.returned (.ok u))) := by
    rcases hrest with ⟨-, tp, _, _, rfl, -, -, tn, t₂', _, rfl, -, h⟩ | ⟨-, tn, t₂', _, rfl, -, h⟩
    · refine ⟨tp ++ tn, t₂', by simp, h.imp_right ?_⟩
      rintro ⟨t₁, t₂, u, e, h₁, -⟩
      exact ⟨t₁, t₂, u, e, h₁⟩
    · refine ⟨tn, t₂', rfl, h.imp_right ?_⟩
      rintro ⟨t₁, t₂, u, e, h₁, -⟩
      exact ⟨t₁, t₂, u, e, h₁⟩
  clear hrest
  have hsuffix : t₂' <:+: t₀ ++ (tpre ++ t₂') := ⟨t₀ ++ tpre, [], by simp⟩
  rcases hstep2 with h | ⟨t₁, t₂, u, rfl, h⟩
  · exact ⟨t₂', _, hsuffix, h, .inr rfl⟩
  · exact ⟨t₁, _, (List.prefix_append t₁ t₂).isInfix.trans hsuffix, h, .inl rfl⟩

/-- `Exit:` returns on a device that is not in the customer state only when
`Status` is `EFI_SUCCESS` and the lock goes through. -/
theorem verifyPolicyAndChangeExit_run {status : EfiStatus} (hm : mCurrentPolicy ≠ customerState)
    (h : Run (verifyPolicyAndChangeExit mCurrentPolicy status) t (.returned ())) :
    status = .success ∧
      t = [⟨.setVariable .mfciVarLock writeOnceStateVarAttr [mfciLockVarValue], EfiStatus.success⟩] := by
  simp only [verifyPolicyAndChangeExit, lockPolicyVariables, setVariable, run_bind_returned_iff,
    run_lift_returned_iff, run_ite_iff, run_pure_iff', internalCleanupCurrentPolicy_not_returned hm,
    Outcome.returned.injEq, not_or, Bool.not_eq_true, EfiStatus.isError_eq_false, false_and,
    and_false, exists_false, false_or, and_true] at h
  obtain ⟨_, _, _, rfl, ⟨_, _, lockStatus, rfl, rfl, rfl, hlock⟩, ⟨rfl, rfl⟩, rfl⟩ := h
  -- a failed lock is reported as `EFI_SECURITY_VIOLATION`
  split at hlock
  · cases hlock
  · exact ⟨rfl, by simp [← hlock]⟩

theorem internalTransitionRoutine_not_returned {targetPolicy targetNonce : UInt64}
    {targetBlob : List UInt8} {u : Unit} :
    Run (internalTransitionRoutine targetPolicy targetNonce targetBlob) t (.returned u) ↔ False := by
  simp only [internalTransitionRoutine, run_bind_returned_iff, run_cpuDeadLoop_iff, reduceCtorEq,
    and_false, exists_false]

/-- `VerifyPolicyAndChange` returns on a device that is not in the customer state
only through `Exit:` with `EFI_SUCCESS` and a lock that went through. -/
theorem verifyPolicyAndChange_run_returned (hm : mCurrentPolicy ≠ customerState)
    (h : Run (verifyPolicyAndChange lib certificates mCurrentPolicy) t (.returned ())) :
    ∃ t₁, t = t₁ ++ [⟨.setVariable .mfciVarLock writeOnceStateVarAttr [mfciLockVarValue],
        EfiStatus.success⟩] ∧
      Run (verifyPolicyAndChangeSteps lib certificates mCurrentPolicy).run t₁
        (.returned (.error .success)) := by
  simp only [verifyPolicyAndChange, run_bind_returned_iff] at h
  obtain ⟨t₁, t₂, r, rfl, hsteps, hrest⟩ := h
  -- the transition never returns, so the steps left for `Exit:`
  rcases r with status | ⟨blobPolicy, targetNonce, targetBlob⟩
  · obtain ⟨rfl, rfl⟩ := verifyPolicyAndChangeExit_run hm hrest
    exact ⟨t₁, rfl, hsteps⟩
  · exact (internalTransitionRoutine_not_returned.mp hrest).elim

end Exits

end MuPlus.Mfci
