import ComputeMonitor.Gateway.ToldGateway
import ComputeMonitor.Proofs.Gateway.RemoteDocument

/-!
What a failed refresh leaves behind.

A refresh that fails keeps the document and the session, with one exception: where the gateway tells that
the client was started anew, the log is given up before the new one is asked for, and is lost when the new
one does not come.
-/

set_option autoImplicit false

namespace ComputeMonitor.Gateway.RemoteDocument

open Client

variable {φ : Type} [Fetcher φ]

/-- In the coming poll the gateway tells that the client was started anew, and then does not answer with
the new log. -/
def LosesRestart (remote : RemoteDocument φ) : Prop :=
  ∃ state asked batch told failure left,
    Fetcher.fetchState remote.fetcher = (.ok state, asked) ∧
    Fetcher.fetchMessages asked remote.document.lastSeqno = (.ok batch, told) ∧
    batch.latestSeqno < remote.document.lastSeqno ∧
    Fetcher.fetchMessages told 0 = (.error failure, left)

theorem LosesRestart.holds_messages {remote : RemoteDocument φ} (loses : remote.LosesRestart) :
    remote.document.messages ≠ [] := by
  obtain ⟨-, -, batch, -, -, -, -, -, fallsBack, -⟩ := loses
  intro empty
  have nothingHeld : remote.document.lastSeqno = 0 := by
    unfold Document.lastSeqno
    rw [empty]
    rfl
  rw [nothingHeld] at fallsBack
  exact UInt64.not_lt_zero fallsBack

/-- A poll that fails changes the fetcher alone, unless it loses a restart. -/
theorem PollCourse.of_failure {remote after : RemoteDocument φ} {failure : Failure}
    (course : PollCourse remote (.error failure) after) :
    (¬ remote.LosesRestart ∧ ∃ fetcher, after = { remote with fetcher }) ∨
      (remote.LosesRestart ∧ ∃ fetcher, after = { remote.startSession with fetcher }) := by
  cases course with
  | noState stateFails =>
    refine .inl ⟨?_, _, rfl⟩
    rintro ⟨_, _, _, _, _, _, hasState, -⟩
    rw [stateFails] at hasState
    cases hasState
  | noMessages hasState messagesFail =>
    refine .inl ⟨?_, _, rfl⟩
    rintro ⟨_, _, _, _, _, _, sameState, hasBatch, -⟩
    rw [hasState] at sameState
    cases sameState
    rw [messagesFail] at hasBatch
    cases hasBatch
  | noNewLog hasState hasBatch fallsBack refetchFails =>
    exact .inr ⟨⟨_, _, _, _, _, _, hasState, hasBatch, fallsBack, refetchFails⟩, _, rfl⟩

/-- A failed refresh keeps the document and the session just when it does not lose a restart. If it does,
the log is emptied, which was not empty, and a new session has begun. The settings stay in any case. -/
theorem refresh_keeps_document_iff (remote : RemoteDocument φ) (failure : Failure)
    (failed : remote.refresh.1 = .error failure) :
    let after := remote.refresh.2
    (after.document = remote.document ∧ after.session = remote.session ↔ ¬ remote.LosesRestart) ∧
      (remote.LosesRestart → remote.document.messages ≠ [] ∧
        after.document = remote.document.clearMessages ∧ after.session = remote.session + 1) ∧
      after.maxFailures = remote.maxFailures ∧ after.messageLimit = remote.messageLimit := by
  intro after
  obtain ⟨sameAnswer, link, failures, settled⟩ := remote.refresh_settles
  have isAfter : after = { remote.poll.2 with link, failures } := settled
  have course := remote.poll_course
  rw [← sameAnswer, failed] at course
  rw [isAfter]
  rcases course.of_failure with ⟨keeps, fetcher, polled⟩ | ⟨loses, fetcher, polled⟩
  · rw [polled]
    exact ⟨⟨fun _ => keeps, fun _ => ⟨rfl, rfl⟩⟩, fun loses => (keeps loses).elim, rfl, rfl⟩
  · rw [polled]
    refine ⟨⟨fun kept => ?_, fun keeps => (keeps loses).elim⟩,
      fun _ => ⟨loses.holds_messages, rfl, rfl⟩, rfl, rfl⟩
    -- The count of sessions alone tells that something has changed.
    exact absurd kept.2 (Nat.succ_ne_self remote.session)

section Restart

/-- A gateway that tells its log once, then tells of a shorter one and cannot be asked for it. -/
def interruptedGateway : ToldGateway where
  polls := [
    { state := .ok { projects := [{ masterUrl := "a" }] }
      messages := [.ok { latestSeqno := 1, messages := [{
        seqno := 1, body := "before", timestamp := ⟨⟨⟨2026, 1, 1⟩, 0, 0, 0, 0⟩, 0⟩ }] }] },
    { state := .ok {}
      messages := [.ok {}, .error (.ofText "connection refused")] }]

def interruptedDocument : RemoteDocument ToldGateway :=
  (refresh { fetcher := interruptedGateway }).2

theorem interrupted_refresh_keeps_iff :
    let failure := Failure.ofText "connection refused" |>.during "fetch messages after restart"
    let after := interruptedDocument.refresh.2
    interruptedDocument.refresh.1 = .error failure ∧ interruptedDocument.LosesRestart ∧
      (after.document = interruptedDocument.document ∧ after.session = interruptedDocument.session ↔
        ¬ interruptedDocument.LosesRestart) ∧
      (interruptedDocument.LosesRestart → interruptedDocument.document.messages ≠ [] ∧
        after.document = interruptedDocument.document.clearMessages ∧
        after.session = interruptedDocument.session + 1) ∧
      after.maxFailures = interruptedDocument.maxFailures ∧
      after.messageLimit = interruptedDocument.messageLimit := by
  intro failure after
  have failed : interruptedDocument.refresh.1 = .error failure := rfl
  have loses : interruptedDocument.LosesRestart := ⟨_, _, _, _, _, _, rfl, rfl, by decide, rfl⟩
  exact ⟨failed, loses, refresh_keeps_document_iff interruptedDocument failure failed⟩

theorem interrupted_refresh_loses_log :
    ¬ ∀ failure, interruptedDocument.refresh.1 = .error failure →
      interruptedDocument.refresh.2.document = interruptedDocument.document ∧
      interruptedDocument.refresh.2.session = interruptedDocument.session := by
  intro keeps
  have kept := (keeps _ rfl).2
  exact absurd kept (by decide)

end Restart

end ComputeMonitor.Gateway.RemoteDocument
