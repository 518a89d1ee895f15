import DiskQuota.Proofs.Native.Request

/-!
What the status of a call by address says. A status of zero is to mean that the manager was asked and
succeeded, and that its answer was delivered (`Sound`). The status is the code of the step that failed
where one did, so this is true unless an operation fails with a code of zero (`sound_iff`).
-/
namespace DiskQuota.Native

theorem signed_eq_zero {code : Status} : code.signed = 0 ↔ code = .ok := by
  constructor
  · intro h
    have hbits : code.signed.toUInt32 = (0 : Int32).toUInt32 := congrArg Int32.toUInt32 h
    rw [Status.signed, UInt32.toUInt32_toInt32] at hbits
    obtain ⟨k⟩ := code
    cases hbits
    rfl
  · rintro rfl
    rfl

/-- The status in a reply. -/
def Reply.code : Reply → Int32
  | .status s | .statusAndSlot s _ => s

theorem code_reply_ok (call : Call) (a : Answer) : (call.reply (.ok a)).code = 0 := by
  cases call <;> rfl

theorem code_reply_error (call : Call) (code : Status) :
    (call.reply (.error code)).code = code.signed := by
  cases call <;> rfl

theorem readWide_error {volume : Option (List UInt16)} {code : Status}
    (h : readWide volume = .error code) : code ≠ .ok := by
  cases volume with
  | none =>
    cases h
    decide
  | some us =>
    rw [readWide] at h
    split at h
    · cases h
    · cases h
      decide

/-- A call is never refused with the status of a success. -/
theorem operation_error {call : Call} {code : Status} (h : call.operation = .error code) :
    code ≠ .ok := by
  cases call with
  | setQuota volume limit =>
    cases hv : readWide volume with
    | ok v => simp [Call.operation, hv, Except.map] at h
    | error k =>
      simp only [Call.operation, hv, Except.map, Except.error.injEq] at h
      exact h ▸ readWide_error hv
  | getQuotaUsed volume slot =>
    cases slot with
    | none =>
      cases h
      decide
    | some n =>
      cases hv : readWide volume with
      | ok v => simp [Call.operation, hv, Except.map] at h
      | error k =>
        simp only [Call.operation, hv, Except.map, Except.error.injEq] at h
        exact h ▸ readWide_error hv

variable {σ ε : Type} (S : Service σ ε) (settings : Settings)

/-- The status is zero exactly if the manager was asked for the operation of the call and succeeded,
and the reply carries its answer: for a read, the slot holds the number read. -/
def Sound (call : Call) (s : σ) : Prop :=
  (call.run S settings s).value.code = 0 ↔
    ∃ op a, call.operation = .ok op ∧ (op.run S settings s).value = .ok a ∧
      (call.run S settings s).value = call.reply (.ok a)

/-- The status is sound exactly as far as no operation fails with a code of zero. -/
theorem sound_iff (call : Call) (s : σ) :
    Sound S settings call s ↔
      ¬∃ op e, call.operation = .ok op ∧ (op.run S settings s).value = .error e ∧ e.code = .ok := by
  rw [Sound, Call.run_eq]
  cases hop : call.operation with
  | error code =>
    have hne := operation_error hop
    simp [code_reply_error, signed_eq_zero, hne]
  | ok op =>
    cases hv : (op.run S settings s).value with
    | ok a =>
      have hreply : (Except.ok a : Except StepError Answer).mapError StepError.code = .ok a := rfl
      simp [hreply, code_reply_ok, hv]
    | error e =>
      have hreply : (Except.error e : Except StepError Answer).mapError StepError.code =
          .error e.code := rfl
      simp [hreply, code_reply_error, signed_eq_zero, hv]

end DiskQuota.Native
