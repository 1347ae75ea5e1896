import ComputeMonitor.Gateway.ToldGateway
import ComputeMonitor.Proofs.Gateway.RemoteDocument

/-!
The link as a function of the refreshes so far.

The link is settled from the link before and from a count that stops at a limit. Over any number of refreshes
it is what their answers alone tell: whether one has ever succeeded, and how many have failed since the last
that did.
-/

set_option autoImplicit false

namespace ComputeMonitor

/-- The refreshes that have failed since the last one that succeeded. Answers stand with the last one first. -/
def failuresSince (answers : List (Except Failure Unit)) : Nat := (answers.takeWhile fun answer => !answer.isOk).length

def Link.ofAnswers (maxFailures : Nat) (answers : List (Except Failure Unit)) : Link :=
  if answers.all fun answer => !answer.isOk then .disconnected
  else if failuresSince answers = 0 then .connected
  else if failuresSince answers < maxFailures then .reconnecting
  else .disconnected

theorem failuresSince_error (failure : Failure) (answers : List (Except Failure Unit)) :
    failuresSince (.error failure :: answers) = failuresSince answers + 1 := rfl

namespace Link

/-- A failure ends the link, or leaves it ended, or is one that it still bears. -/
theorem ofAnswers_error (maxFailures : Nat) (failure : Failure) (answers : List (Except Failure Unit)) :
    ofAnswers maxFailures (.error failure :: answers) =
      if maxFailures ≤ failuresSince answers + 1 ∨ ofAnswers maxFailures answers = .disconnected
        then .disconnected else .reconnecting := by
  have sameAll : ((.error failure :: answers).all fun answer => !answer.isOk) =
      answers.all fun answer => !answer.isOk := rfl
  unfold ofAnswers
  rw [sameAll, failuresSince_error]
  by_cases never : (answers.all fun answer => !answer.isOk) = true
  · simp [never]
  · by_cases ends : maxFailures ≤ failuresSince answers + 1
    · simp [never, ends]
    · -- A link that bears one failure more has borne those before.
      have bears : failuresSince answers + 1 < maxFailures := by omega
      have bore : failuresSince answers < maxFailures := by omega
      rw [if_neg never, if_neg never, if_neg (Nat.succ_ne_zero _), if_pos bears, if_pos bore, if_neg]
      rintro (reached | down)
      · exact ends reached
      · split at down <;> cases down

end Link

namespace Gateway.RemoteDocument

variable {φ : Type}

def meets (remote : RemoteDocument φ) (change : φ → φ) : RemoteDocument φ :=
  { remote with fetcher := change remote.fetcher }

variable [Fetcher φ]

/-- The answers of refreshes, the last one first, and what they lead to. Before each refresh the gateway may
change in any way. -/
def refreshes (remote : RemoteDocument φ) :
    List (φ → φ) → List (Except Failure Unit) × RemoteDocument φ
  | [] => ([], remote)
  | change :: earlier =>
    let (answers, reached) := remote.refreshes earlier
    let (answer, after) := (reached.meets change).refresh
    (answer :: answers, after)

theorem PollCourse.link_eq {remote after : RemoteDocument φ} {answer : Except Failure Unit}
    (course : PollCourse remote answer after) :
    after.link = remote.link ∧ after.failures = remote.failures ∧ after.maxFailures = remote.maxFailures := by
  cases course with
  | noState | noMessages | continued | noNewLog | restarted => exact ⟨rfl, rfl, rfl⟩

theorem refresh_cases (remote : RemoteDocument φ) :
    (remote.refresh.1 = .ok () ∧ remote.refresh.2 = remote.poll.2.recordSuccess) ∨
      ∃ failure, remote.refresh.1 = .error failure ∧ remote.refresh.2 = remote.poll.2.recordFailure := by
  unfold refresh
  rcases remote.poll with ⟨answer, after⟩
  cases answer with
  | ok => exact .inl ⟨rfl, rfl⟩
  | error failure => exact .inr ⟨failure, rfl, rfl⟩

structure Told (maxFailures : Nat) (answers : List (Except Failure Unit)) (remote : RemoteDocument φ) :
    Prop where
  limit : remote.maxFailures = maxFailures
  link : remote.link = .ofAnswers maxFailures answers
  failures : remote.failures = min (failuresSince answers) failureCountLimit

variable {remote : RemoteDocument φ} {maxFailures : Nat} {answers : List (Except Failure Unit)}

theorem Told.refresh (fits : maxFailures ≤ failureCountLimit) (told : remote.Told maxFailures answers) :
    remote.refresh.2.Told maxFailures (remote.refresh.1 :: answers) := by
  obtain ⟨sameLink, sameFailures, sameLimit⟩ := remote.poll_course.link_eq
  rcases remote.refresh_cases with ⟨succeeds, isAfter⟩ | ⟨failure, fails, isAfter⟩
  · rw [succeeds, isAfter]
    exact ⟨sameLimit.trans told.limit, rfl, rfl⟩
  · -- The count may have stopped, but not below a number of failures that ends the link.
    have counts : maxFailures ≤ min (remote.failures + 1) failureCountLimit ↔
        maxFailures ≤ failuresSince answers + 1 := by
      rw [told.failures]
      omega
    rw [fails, isAfter]
    constructor
    · exact sameLimit.trans told.limit
    · simp only [recordFailure, sameLink, sameFailures, sameLimit, told.limit, Bool.or_eq_true,
        decide_eq_true_eq, counts, Link.ofAnswers_error, told.link]
    · simp only [recordFailure, sameFailures, told.failures, failuresSince_error]
      omega

theorem Told.refreshes (fits : maxFailures ≤ failureCountLimit) (told : remote.Told maxFailures [])
    (changes : List (φ → φ)) :
    (remote.refreshes changes).2.Told maxFailures (remote.refreshes changes).1 := by
  induction changes with
  | nil => exact told
  | cons change earlier ih =>
    have met : ((remote.refreshes earlier).2.meets change).Told maxFailures (remote.refreshes earlier).1 :=
      ⟨ih.limit, ih.link, ih.failures⟩
    exact met.refresh fits

/-- From its making on, the link of a remote document and its count of failures are told by the answers of the
refreshes alone, and no failure brings a link back. -/
theorem refreshes_tell_link (fetcher : φ) (maxFailures messageLimit : Nat) (positive : 1 ≤ maxFailures)
    (fits : maxFailures ≤ failureCountLimit) (changes : List (φ → φ)) :
    let opened := ({ fetcher } : RemoteDocument φ).withMaxFailures maxFailures |>.withMessageLimit messageLimit
    let answers := (opened.refreshes changes).1
    let reached := (opened.refreshes changes).2
    reached.link = .ofAnswers maxFailures answers ∧
      reached.failures = min (failuresSince answers) failureCountLimit ∧
      (reached.link = .disconnected → ∀ change failure,
        (reached.meets change).refresh.1 = .error failure → (reached.meets change).refresh.2.link = .disconnected) := by
  intro opened answers reached
  have start : opened.Told maxFailures [] := ⟨Nat.max_eq_left positive, rfl, rfl⟩
  have told : reached.Told maxFailures answers := start.refreshes fits changes
  refine ⟨told.link, told.failures, fun down change failure fails => ?_⟩
  have met : (reached.meets change).Told maxFailures answers := ⟨told.limit, told.link, told.failures⟩
  have next := (met.refresh fits).link
  rw [fails, Link.ofAnswers_error, ← told.link, if_pos (.inr down)] at next
  exact next

section Flapping

def flappingGateway : ToldGateway where
  polls := [
    { state := .error (.ofText "connection refused"), messages := [] },
    { state := .ok {}, messages := [.ok {}] },
    { state := .ok {}, messages := [.error (.ofText "timed out")] },
    { state := .error (.ofText "connection refused"), messages := [] }]

/-- Two failures end the link, whichever fetch fails, but not while it has never been up. -/
theorem flapping_refreshes_tell_link :
    let opened := ({ fetcher := flappingGateway } : RemoteDocument ToldGateway).withMaxFailures 2
      |>.withMessageLimit 10
    1 ≤ 2 ∧ 2 ≤ failureCountLimit ∧
      ((opened.refreshes [id, id, id, id]).1.map Except.isOk) = [false, false, true, false] ∧
      (opened.refreshes [id]).2.link = .disconnected ∧ (opened.refreshes [id]).2.failures = 1 ∧
      (opened.refreshes [id, id, id]).2.link = .reconnecting ∧
      (opened.refreshes [id, id, id, id]).2.link = .disconnected ∧
      (opened.refreshes [id, id, id, id]).2.failures = 2 := by
  have told (changes : List (ToldGateway → ToldGateway)) :=
    refreshes_tell_link flappingGateway 2 10 (by decide) (by decide) changes
  refine ⟨by decide, by decide, rfl, (told _).1, (told _).2.1, (told _).1, (told _).1, (told _).2.1⟩

end Flapping

end Gateway.RemoteDocument
end ComputeMonitor
