import ComputeMonitor.Proofs.Gateway.RemoteDocument

/-!
The log of a document as a copy of the gateway's log.

A gateway keeps a log whose numbers are positive and rise. Between any two requests it may append messages
or, when its client is started anew, begin another log, and any request may fail. A document asks for what
follows the last number it holds, and knows of nothing else. After every refresh that succeeds it holds the
newest messages of the gateway's log nevertheless, as long as each restart shows in the numbers when
messages are next fetched.
-/

set_option autoImplicit false

namespace ComputeMonitor

namespace Gateway

open Client

structure ClientLog where
  messages : List Message
  ascending : Ascending messages
  positive : ∀ message ∈ messages, 0 < message.seqno

namespace ClientLog

def empty : ClientLog := ⟨[], .nil, fun _ member => nomatch member⟩

def latest (log : ClientLog) : UInt64 := (Document.mk {} log.messages).lastSeqno

theorem le_latest (log : ClientLog) {message : Message} (member : message ∈ log.messages) :
    message.seqno ≤ log.latest := by
  have gathers : (Document.mk {} log.messages).Gathers log.messages :=
    ⟨log.ascending, List.suffix_rfl, id⟩
  exact gathers.le_lastSeqno member

def append (log : ClientLog) (message : Message) : ClientLog :=
  if newer : log.latest < message.seqno then
    { messages := log.messages ++ [message]
      ascending := by
        refine List.pairwise_append.2 ⟨log.ascending, List.pairwise_singleton _ _, ?_⟩
        intro earlier member last isLast
        rw [List.mem_singleton.1 isLast]
        exact UInt64.lt_of_le_of_lt (log.le_latest member) newer
      positive := by
        intro other member
        rcases List.mem_append.1 member with earlier | isLast
        · exact log.positive other earlier
        · rw [List.mem_singleton.1 isLast]
          exact UInt64.lt_of_le_of_lt UInt64.zero_le newer }
  else log

def after (log : ClientLog) (number : UInt64) : MessageBatch where
  latestSeqno := log.latest
  messages := log.messages.filter (number < ·.seqno)

end ClientLog

inductive LogEvent where
  | append (message : Message)
  | restart (log : ClientLog)

/-- One request: what happens to the log before it is served, and whether it fails. A request for the
state that does not fail is answered with a state. -/
structure Turn where
  events : List LogEvent := []
  answer : Except Failure State := .ok {}

/-- A gateway to a client with a log. It notes whether the client was started anew since messages were
last fetched, and which log was there when they were. -/
structure LogGateway where
  log : ClientLog
  restarted : Bool := false
  served : ClientLog := .empty
  turns : List Turn := []

namespace LogGateway

def happen (gateway : LogGateway) : LogEvent → LogGateway
  | .append message => { gateway with log := gateway.log.append message }
  | .restart log => { gateway with log, restarted := true }

def reached (gateway : LogGateway) : LogGateway :=
  match gateway.turns with
  | [] => gateway
  | turn :: turns => turn.events.foldl happen { gateway with turns }

def answer (gateway : LogGateway) : Except Failure State :=
  match gateway.turns with
  | [] => .ok {}
  | turn :: _ => turn.answer

def tell (gateway : LogGateway) : LogGateway :=
  { gateway with restarted := false, served := gateway.log }

end LogGateway

instance : Fetcher LogGateway where
  fetchState gateway := (gateway.answer, gateway.reached)
  fetchMessages gateway number :=
    match gateway.answer with
    | .error failure => (.error failure, gateway.reached)
    | .ok _ => (.ok (gateway.reached.log.after number), gateway.reached.tell)

theorem fetchMessages_eq_ok {gateway told : LogGateway} {number : UInt64} {batch : MessageBatch}
    (fetched : Fetcher.fetchMessages gateway number = (.ok batch, told)) :
    gateway.answer.isOk = true ∧ batch = gateway.reached.log.after number ∧ told = gateway.reached.tell := by
  simp only [Fetcher.fetchMessages] at fetched
  split at fetched
  next => cases fetched
  next state isAnswer =>
    cases fetched
    exact ⟨by rw [isAnswer]; rfl, rfl, rfl⟩

theorem fetchMessages_eq_error {gateway told : LogGateway} {number : UInt64} {failure : Failure}
    (fetched : Fetcher.fetchMessages gateway number = (.error failure, told)) :
    told = gateway.reached := by
  simp only [Fetcher.fetchMessages] at fetched
  split at fetched
  next => exact (congrArg Prod.snd fetched).symm
  next => cases fetched

/-- Messages are held that are the newest of a beginning of the gateway's log, unless the client was
started anew since they were fetched. -/
def LogGateway.Extends (limit : Nat) (held : List Message) (gateway : LogGateway) : Prop :=
  gateway.restarted = true ∨ ∃ seen, seen <+: gateway.log.messages ∧ held = newest limit seen

namespace LogGateway.Extends

variable {limit : Nat} {held : List Message} {gateway : LogGateway}

theorem of_nil (gateway : LogGateway) : gateway.Extends limit [] :=
  .inr ⟨[], List.nil_prefix, (newest_nil limit).symm⟩

theorem happen (extended : gateway.Extends limit held) (event : LogEvent) :
    (gateway.happen event).Extends limit held := by
  cases event with
  | restart log => exact .inl rfl
  | append message =>
    rcases extended with restarted | ⟨seen, begun, isHeld⟩
    · exact .inl restarted
    · refine .inr ⟨seen, ?_, isHeld⟩
      simp only [LogGateway.happen, ClientLog.append]
      split
      next => exact begun.trans (List.prefix_append _ _)
      next => exact begun

theorem reached (extended : gateway.Extends limit held) : gateway.reached.Extends limit held := by
  unfold LogGateway.reached
  split
  next => exact extended
  next turn turns _ =>
    have begun : ({ gateway with turns } : LogGateway).Extends limit held := extended
    generalize ({ gateway with turns } : LogGateway) = current at begun ⊢
    induction turn.events generalizing current with
    | nil => exact begun
    | cons event rest ih => exact ih _ (begun.happen event)

end LogGateway.Extends

theorem ClientLog.filter_after {log : ClientLog} {seen rest : List Message}
    (whole : seen ++ rest = log.messages) (state : State) :
    log.messages.filter ((Document.mk state seen).lastSeqno < ·.seqno) = rest := by
  have ascending := log.ascending
  rw [← whole] at ascending ⊢
  obtain ⟨seenAscending, -, across⟩ := List.pairwise_append.1 ascending
  have gathers : (Document.mk state seen).Gathers seen := ⟨seenAscending, List.suffix_rfl, id⟩
  have noneSeen : seen.filter ((Document.mk state seen).lastSeqno < ·.seqno) = [] := by
    apply List.filter_eq_nil_iff.2
    intro message member newer
    exact UInt64.not_lt.2 (gathers.le_lastSeqno member) (of_decide_eq_true newer)
  have allNew : rest.filter ((Document.mk state seen).lastSeqno < ·.seqno) = rest := by
    apply List.filter_eq_self.2
    intro message member
    apply decide_eq_true
    -- The last number seen is one of the numbers seen, or zero, which no message has.
    rcases List.eq_nil_or_concat seen with rfl | ⟨front, last, same⟩
    · exact log.positive message (by rw [← whole]; exact member)
    · rw [List.concat_eq_append] at same
      have isLast : (Document.mk state seen).lastSeqno = last.seqno := by
        rw [Document.lastSeqno, same, List.getLast?_concat]
      rw [isLast]
      exact across last (by simp [same]) message member
  rw [List.filter_append, noneSeen, allNew, List.nil_append]

/-- Whoever holds the newest messages of a beginning of a log and takes in what the log has after them
holds the newest messages of the log. -/
theorem ClientLog.append_after {log : ClientLog} {document : Document} {limit : Nat}
    (positive : 1 ≤ limit) {seen : List Message} (begun : seen <+: log.messages)
    (held : document.messages = newest limit seen) (state : State) :
    ({ document with state }.appendMessages (log.after document.lastSeqno).messages limit).1.messages =
      newest limit log.messages := by
  obtain ⟨rest, whole⟩ := begun
  -- What was dropped of the log seen so far is its beginning, so that the last number held is still the
  -- last one seen.
  have sameLast : document.lastSeqno = (Document.mk state seen).lastSeqno := by
    have ofHeld : document.lastSeqno = (Document.mk state (newest limit seen)).lastSeqno := by
      unfold Document.lastSeqno
      rw [held]
    rw [ofHeld, lastSeqno_newest positive]
  have isRest : (log.after document.lastSeqno).messages = rest := by
    rw [sameLast]
    exact filter_after whole state
  have restAscending : Ascending rest := isRest ▸ log.ascending.filter _
  have restAbove : ∀ message ∈ rest, document.lastSeqno < message.seqno := by
    intro message member
    rw [← isRest] at member
    exact of_decide_eq_true (List.mem_filter.1 member).2
  have accepted : newerThan document.lastSeqno rest = rest :=
    newerThan_of_ascending restAscending restAbove
  rw [isRest]
  change newest limit (document.messages ++ newerThan document.lastSeqno rest) = _
  rw [accepted, held, newest_newest_append, whole]

namespace RemoteDocument

/-- If messages are fetched in the coming refresh for the first time since the client was started anew,
then the numbers show it, or no message is held. Where a new log is asked for nothing is held in any
case. -/
def ShowsRestart (remote : RemoteDocument LogGateway) : Prop :=
  let asked := remote.fetcher.reached
  remote.fetcher.answer.isOk = true → asked.answer.isOk = true → asked.reached.restarted = true →
    asked.reached.log.latest < remote.document.lastSeqno ∨ remote.document.messages = []

instance (remote : RemoteDocument LogGateway) : Decidable remote.ShowsRestart :=
  inferInstanceAs (Decidable (_ → _ → _ → _))

/-- What is held is known to be up to date, or to have been so before the last restart. -/
def Copies (remote : RemoteDocument LogGateway) : Prop :=
  remote.fetcher.Extends remote.messageLimit remote.document.messages

/-- The newest messages of the log that was told last are held, and this is the log that is there. -/
structure Replicates (remote : RemoteDocument LogGateway) : Prop where
  messages : remote.document.messages = newest remote.messageLimit remote.fetcher.served.messages
  current : remote.fetcher.log = remote.fetcher.served

theorem Replicates.copies {remote : RemoteDocument LogGateway} (replicates : remote.Replicates) :
    remote.Copies :=
  .inr ⟨remote.fetcher.served.messages, replicates.current ▸ List.prefix_rfl, replicates.messages⟩

theorem replicates_accept (remote : RemoteDocument LogGateway) (asked : LogGateway) {seen : List Message}
    (positive : 1 ≤ remote.messageLimit) (begun : seen <+: asked.log.messages)
    (held : remote.document.messages = newest remote.messageLimit seen) (state : State) :
    ({ remote with fetcher := asked.tell }.accept state
      (asked.log.after remote.document.lastSeqno)).Replicates where
  messages := ClientLog.append_after positive begun held state
  current := rfl

/-- A poll that succeeds makes the document a copy of the gateway's log, and one that fails leaves it what
it was or empties it. -/
theorem PollCourse.copies {remote after : RemoteDocument LogGateway} {answer : Except Failure Unit}
    (course : PollCourse remote answer after) (positive : 1 ≤ remote.messageLimit)
    (copies : remote.Copies) (shows : remote.ShowsRestart) :
    after.Copies ∧ (answer = .ok () → after.Replicates) := by
  cases course with
  | noState stateFails =>
    obtain ⟨-, rfl⟩ := Prod.mk.inj stateFails
    exact ⟨copies.reached, fun succeeds => nomatch succeeds⟩
  | noMessages hasState messagesFail =>
    obtain ⟨-, rfl⟩ := Prod.mk.inj hasState
    obtain rfl := fetchMessages_eq_error messagesFail
    exact ⟨copies.reached.reached, fun succeeds => nomatch succeeds⟩
  | @continued state asked told batch hasState hasBatch goesOn =>
    obtain ⟨isAnswer, rfl⟩ := Prod.mk.inj hasState
    obtain ⟨messagesAnswered, rfl, rfl⟩ := fetchMessages_eq_ok hasBatch
    have stateAnswered : remote.fetcher.answer.isOk = true := by
      rw [isAnswer]
      rfl
    -- A restart that went unnoticed would have shown in the numbers.
    have known : ∃ seen, seen <+: remote.fetcher.reached.reached.log.messages ∧
        remote.document.messages = newest remote.messageLimit seen := by
      rcases copies.reached.reached with restarted | known
      · rcases shows stateAnswered messagesAnswered restarted with fallsBack | empty
        · exact (goesOn fallsBack).elim
        · exact ⟨[], List.nil_prefix, by rw [empty, newest_nil]⟩
      · exact known
    obtain ⟨seen, begun, held⟩ := known
    have replicates := remote.replicates_accept _ positive begun held state
    exact ⟨replicates.copies, fun _ => replicates⟩
  | noNewLog hasState hasBatch fallsBack refetchFails =>
    exact ⟨.of_nil _, fun succeeds => nomatch succeeds⟩
  | @restarted state asked told left batch anew hasState hasBatch fallsBack hasNewLog =>
    obtain ⟨-, rfl, rfl⟩ := fetchMessages_eq_ok hasNewLog
    have replicates := remote.startSession.replicates_accept told.reached positive List.nil_prefix
      (newest_nil _).symm state
    exact ⟨replicates.copies, fun _ => replicates⟩

/-- A document that keeps one message at least, after any course of events and refreshes in which the
restarts show. -/
inductive Followed : RemoteDocument LogGateway → Prop where
  | opened (gateway : LogGateway) (maxFailures limit : Nat) (positive : 1 ≤ limit) :
      Followed { fetcher := gateway, maxFailures, messageLimit := limit }
  | happened {remote : RemoteDocument LogGateway} (followed : Followed remote) (event : LogEvent) :
      Followed { remote with fetcher := remote.fetcher.happen event }
  | refreshed {remote : RemoteDocument LogGateway} (followed : Followed remote)
      (shows : remote.ShowsRestart) : Followed remote.refresh.2

theorem refresh_copies {remote : RemoteDocument LogGateway} (positive : 1 ≤ remote.messageLimit)
    (copies : remote.Copies) (shows : remote.ShowsRestart) :
    remote.refresh.2.Copies ∧ (remote.refresh.1 = .ok () → remote.refresh.2.Replicates) := by
  obtain ⟨polledCopies, polledReplicates⟩ := remote.poll_course.copies positive copies shows
  obtain ⟨sameAnswer, link, failures, settled⟩ := remote.refresh_settles
  rw [sameAnswer, settled]
  refine ⟨polledCopies, fun succeeds => ?_⟩
  have replicates := polledReplicates succeeds
  exact ⟨replicates.messages, replicates.current⟩

theorem Followed.copies {remote : RemoteDocument LogGateway} (followed : remote.Followed) :
    1 ≤ remote.messageLimit ∧ remote.Copies := by
  induction followed with
  | opened gateway maxFailures limit positive => exact ⟨positive, .of_nil gateway⟩
  | happened _ event ih => exact ⟨ih.1, ih.2.happen event⟩
  | @refreshed remote _ shows ih =>
    obtain ⟨positive, copies⟩ := ih
    have limit := remote.refresh_refreshes.messageLimit_eq
    exact ⟨by rwa [limit], (refresh_copies positive copies shows).1⟩

/-- After every refresh that succeeds the messages are the newest ones of the log that was there when they
were last fetched, whatever happened to the log and to the requests before. -/
theorem Followed.refresh_replicates_log {remote : RemoteDocument LogGateway} (followed : remote.Followed)
    (shows : remote.ShowsRestart) (succeeds : remote.refresh.1 = .ok ()) :
    let after := remote.refresh.2
    after.document.messages = newest remote.messageLimit after.fetcher.served.messages := by
  intro after
  obtain ⟨positive, copies⟩ := followed.copies
  have replicates := (refresh_copies positive copies shows).2 succeeds
  have limit : after.messageLimit = remote.messageLimit := remote.refresh_refreshes.messageLimit_eq
  rw [← limit]
  exact replicates.messages

section Restart

def numbered (seqno : UInt64) (body : String) : Message where
  seqno := seqno
  body := body
  timestamp := ⟨⟨⟨2026, 1, 1⟩, 0, 0, 0, 0⟩, 0⟩

/-- A gateway that fails once when a new log is asked for, and whose log grows between the requests of the
refresh that comes next. -/
def restartedGateway : LogGateway where
  log := ((ClientLog.empty.append (numbered 1 "a")).append (numbered 2 "b")).append (numbered 3 "c")
  turns := [{}, {}, {}, {}, { answer := .error (.ofText "connection refused") },
    { events := [.append (numbered 2 "y")] }, { events := [.append (numbered 3 "z")] }]

/-- A document that holds two messages, after a refresh, a restart and a refresh that lost the new log. -/
def restartedDocument : RemoteDocument LogGateway :=
  let opened : RemoteDocument LogGateway := { fetcher := restartedGateway, messageLimit := 2 }
  let first := opened.refresh.2
  let anew := ClientLog.empty.append (numbered 1 "x")
  ({ first with fetcher := first.fetcher.happen (.restart anew) } : RemoteDocument LogGateway).refresh.2

theorem restarted_log_replicated :
    restartedDocument.Followed ∧ restartedDocument.ShowsRestart ∧
      restartedDocument.refresh.1 = .ok () ∧
      restartedDocument.refresh.2.document.messages =
        newest 2 restartedDocument.refresh.2.fetcher.served.messages ∧
      restartedDocument.refresh.2.document.messages = [numbered 2 "y", numbered 3 "z"] := by
  have followed : restartedDocument.Followed := by
    unfold restartedDocument
    refine .refreshed (.happened (.refreshed (.opened restartedGateway _ 2 (by decide)) ?_) _) ?_
    · decide
    · decide
  have shows : restartedDocument.ShowsRestart := by decide
  have succeeds : restartedDocument.refresh.1 = .ok () := rfl
  exact ⟨followed, shows, succeeds, followed.refresh_replicates_log shows succeeds, by decide⟩

end Restart

end RemoteDocument
end Gateway
end ComputeMonitor
