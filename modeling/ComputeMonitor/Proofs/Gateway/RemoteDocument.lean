import ComputeMonitor.Gateway.RemoteDocument
import ComputeMonitor.Proofs.Client.MessageLog

/-!
What a refresh of a remote document can do, and the log behind its messages.

A refresh fails or succeeds, and in either case may have begun a new session before. The document holds
the newest messages of the log that its session has gathered. As it never drops the last one, what comes
after it has a higher number than everything gathered before, held or not.
-/

set_option autoImplicit false

namespace ComputeMonitor

namespace Gateway.RemoteDocument

open Client

variable {φ : Type}

/-- What a refresh does to the document and the session: each of a failure and a success may come after
the start of a new session. A failure leaves the state, and a new session has no message of the one
before. -/
inductive Refreshes (remote after : RemoteDocument φ) : Except Failure Unit → Prop where
  | failed (failure : Failure) (limit : after.messageLimit = remote.messageLimit)
      (document : after.document = remote.document)
      (session : after.session = remote.session) : Refreshes remote after (.error failure)
  | failedAnew (failure : Failure) (limit : after.messageLimit = remote.messageLimit)
      (document : after.document = remote.document.clearMessages)
      (session : after.session = remote.session + 1) : Refreshes remote after (.error failure)
  | accepted (state : State) (batch : List Message) (limit : after.messageLimit = remote.messageLimit)
      (document : after.document =
        ({ remote.document with state }.appendMessages batch remote.messageLimit).1)
      (session : after.session = remote.session) : Refreshes remote after (.ok ())
  | acceptedAnew (state : State) (batch : List Message)
      (limit : after.messageLimit = remote.messageLimit)
      (document : after.document =
        ({ remote.document.clearMessages with state }.appendMessages batch remote.messageLimit).1)
      (session : after.session = remote.session + 1) : Refreshes remote after (.ok ())

/-- A refresh extends the log of the session, or begins a session with a log of its own. -/
theorem Refreshes.gathers {remote after : RemoteDocument φ} {answer : Except Failure Unit}
    (refreshes : Refreshes remote after answer) (positive : 1 ≤ remote.messageLimit)
    {log : List Message} (gathers : remote.document.Gathers log) :
    (after.session = remote.session ∧ ∃ more, after.document.Gathers (log ++ more)) ∨
      (after.session = remote.session + 1 ∧ ∃ anew, after.document.Gathers anew) := by
  cases refreshes with
  | failed failure limit document session =>
    rw [document]
    exact .inl ⟨session, [], by rwa [List.append_nil]⟩
  | failedAnew failure limit document session =>
    rw [document]
    exact .inr ⟨session, [], Document.gathers_nil rfl⟩
  | accepted state batch limit document session =>
    have unread : ({ remote.document with state } : Document).Gathers log :=
      ⟨gathers.ascending, gathers.newest, gathers.kept⟩
    rw [document]
    exact .inl ⟨session, unread.append batch positive⟩
  | acceptedAnew state batch limit document session =>
    have cleared : ({ remote.document.clearMessages with state } : Document).Gathers [] :=
      Document.gathers_nil rfl
    obtain ⟨anew, gathered⟩ := cleared.append batch positive
    rw [document]
    exact .inr ⟨session, [] ++ anew, gathered⟩

theorem Refreshes.settle {remote after : RemoteDocument φ} {answer : Except Failure Unit}
    (refreshes : Refreshes remote after answer) (link : Link) (failures : Nat) :
    Refreshes remote { after with link, failures } answer := by
  cases refreshes with
  | failed failure limit document session => exact .failed failure limit document session
  | failedAnew failure limit document session => exact .failedAnew failure limit document session
  | accepted state batch limit document session => exact .accepted state batch limit document session
  | acceptedAnew state batch limit document session =>
    exact .acceptedAnew state batch limit document session

theorem Refreshes.messageLimit_eq {remote after : RemoteDocument φ} {answer : Except Failure Unit}
    (refreshes : Refreshes remote after answer) : after.messageLimit = remote.messageLimit := by
  cases refreshes <;> assumption

variable [Fetcher φ]

inductive PollCourse (remote : RemoteDocument φ) : Except Failure Unit → RemoteDocument φ → Prop where
  | noState {failure : Failure} {asked : φ}
      (stateFails : Fetcher.fetchState remote.fetcher = (.error failure, asked)) :
      PollCourse remote (.error (failure.during "fetch client state")) { remote with fetcher := asked }
  | noMessages {state : State} {asked told : φ} {failure : Failure}
      (hasState : Fetcher.fetchState remote.fetcher = (.ok state, asked))
      (messagesFail : Fetcher.fetchMessages asked remote.document.lastSeqno = (.error failure, told)) :
      PollCourse remote (.error (failure.during "fetch messages")) { remote with fetcher := told }
  | continued {state : State} {asked told : φ} {batch : MessageBatch}
      (hasState : Fetcher.fetchState remote.fetcher = (.ok state, asked))
      (hasBatch : Fetcher.fetchMessages asked remote.document.lastSeqno = (.ok batch, told))
      (goesOn : ¬ batch.latestSeqno < remote.document.lastSeqno) :
      PollCourse remote (.ok ()) ({ remote with fetcher := told }.accept state batch)
  | noNewLog {state : State} {asked told left : φ} {batch : MessageBatch} {failure : Failure}
      (hasState : Fetcher.fetchState remote.fetcher = (.ok state, asked))
      (hasBatch : Fetcher.fetchMessages asked remote.document.lastSeqno = (.ok batch, told))
      (fallsBack : batch.latestSeqno < remote.document.lastSeqno)
      (refetchFails : Fetcher.fetchMessages told 0 = (.error failure, left)) :
      PollCourse remote (.error (failure.during "fetch messages after restart"))
        { remote.startSession with fetcher := left }
  | restarted {state : State} {asked told left : φ} {batch anew : MessageBatch}
      (hasState : Fetcher.fetchState remote.fetcher = (.ok state, asked))
      (hasBatch : Fetcher.fetchMessages asked remote.document.lastSeqno = (.ok batch, told))
      (fallsBack : batch.latestSeqno < remote.document.lastSeqno)
      (hasNewLog : Fetcher.fetchMessages told 0 = (.ok anew, left)) :
      PollCourse remote (.ok ()) ({ remote.startSession with fetcher := left }.accept state anew)

section Calls

omit [Fetcher φ]

variable {α : Type} {remote : RemoteDocument φ} {undertaking : String} {request : φ → Except Failure α × φ}
  {asked : φ}

theorem call_of_error {failure : Failure} (fails : request remote.fetcher = (.error failure, asked)) :
    remote.call undertaking request = (.error (failure.during undertaking), { remote with fetcher := asked }) := by
  unfold call
  rw [fails]
  rfl

theorem call_of_ok {found : α} (answers : request remote.fetcher = (.ok found, asked)) :
    remote.call undertaking request = (.ok found, { remote with fetcher := asked }) := by
  unfold call
  rw [answers]
  rfl

end Calls

theorem poll_course (remote : RemoteDocument φ) : PollCourse remote remote.poll.1 remote.poll.2 := by
  obtain ⟨stateAnswer, asked, isState⟩ : ∃ answer asked,
      Fetcher.fetchState remote.fetcher = (answer, asked) := ⟨_, _, rfl⟩
  obtain ⟨batchAnswer, told, isBatch⟩ : ∃ answer told,
      Fetcher.fetchMessages asked remote.document.lastSeqno = (answer, told) := ⟨_, _, rfl⟩
  obtain ⟨newAnswer, left, isNew⟩ : ∃ answer left,
      Fetcher.fetchMessages told 0 = (answer, left) := ⟨_, _, rfl⟩
  unfold poll
  cases stateAnswer with
  | error failure =>
    rw [call_of_error isState]
    exact .noState isState
  | ok state =>
    rw [call_of_ok isState]
    dsimp only
    cases batchAnswer with
    | error failure =>
      rw [call_of_error isBatch]
      exact .noMessages isState isBatch
    | ok batch =>
      rw [call_of_ok isBatch]
      dsimp only
      by_cases fallsBack : batch.latestSeqno < remote.document.lastSeqno
      · rw [if_pos fallsBack]
        cases newAnswer with
        | error failure =>
          rw [call_of_error isNew]
          exact .noNewLog isState isBatch fallsBack isNew
        | ok anew =>
          rw [call_of_ok isNew]
          exact .restarted isState isBatch fallsBack isNew
      · rw [if_neg fallsBack]
        exact .continued isState isBatch fallsBack

theorem PollCourse.refreshes {remote after : RemoteDocument φ} {answer : Except Failure Unit}
    (course : PollCourse remote answer after) : Refreshes remote after answer := by
  cases course with
  | noState => exact .failed _ rfl rfl rfl
  | noMessages => exact .failed _ rfl rfl rfl
  | continued => exact .accepted _ _ rfl rfl rfl
  | noNewLog => exact .failedAnew _ rfl rfl rfl
  | restarted => exact .acceptedAnew _ _ rfl rfl rfl

theorem refresh_settles (remote : RemoteDocument φ) : remote.refresh.1 = remote.poll.1 ∧
    ∃ link failures, remote.refresh.2 = { remote.poll.2 with link, failures } := by
  unfold refresh
  split
  next after isPoll =>
    rw [isPoll]
    exact ⟨rfl, _, _, rfl⟩
  next failure after isPoll =>
    rw [isPoll]
    exact ⟨rfl, _, _, rfl⟩

theorem refresh_refreshes (remote : RemoteDocument φ) :
    Refreshes remote remote.refresh.2 remote.refresh.1 := by
  obtain ⟨sameAnswer, link, failures, settled⟩ := remote.refresh_settles
  rw [sameAnswer, settled]
  exact remote.poll_course.refreshes.settle link failures

theorem source_refresh {remote after : RemoteDocument φ} {answer : Except Failure Unit}
    (isRefresh : remote.refresh = (answer, after)) :
    DocumentSource.refresh remote = (answer.mapError .failed, after) := by
  change (remote.refresh.1.mapError Stop.failed, remote.refresh.2) = _
  rw [isRefresh]

/-- A remote document that keeps one message at least, after any number of refreshes. -/
inductive Reachable : RemoteDocument φ → Prop where
  | opened (fetcher : φ) (maxFailures limit : Nat) (positive : 1 ≤ limit) :
      Reachable { fetcher, maxFailures, messageLimit := limit }
  | refreshed {remote : RemoteDocument φ} (reachable : Reachable remote) : Reachable remote.refresh.2

theorem Reachable.gathers {remote : RemoteDocument φ} (reachable : remote.Reachable) :
    1 ≤ remote.messageLimit ∧ ∃ log, remote.document.Gathers log := by
  induction reachable with
  | opened fetcher maxFailures limit positive => exact ⟨positive, [], Document.gathers_nil rfl⟩
  | @refreshed remote reachable ih =>
    obtain ⟨positive, log, gathers⟩ := ih
    have refreshes := remote.refresh_refreshes
    refine ⟨by rwa [refreshes.messageLimit_eq], ?_⟩
    rcases refreshes.gathers positive gathers with ⟨-, more, extended⟩ | ⟨-, anew, gathered⟩
    · exact ⟨log ++ more, extended⟩
    · exact ⟨anew, gathered⟩

end Gateway.RemoteDocument
end ComputeMonitor
