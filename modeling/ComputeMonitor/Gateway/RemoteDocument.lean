import ComputeMonitor.DocumentSource

/-!
The document of a client that is reached through a gateway, kept up to date by polling.

A poll fetches the state and the messages after the last one held. When the gateway's latest
number is below the last one held, the client has been started anew: the log is emptied, a new
session begins, and the messages are fetched from the start.
-/

set_option autoImplicit false

namespace ComputeMonitor.Gateway

open ComputeMonitor.Client

/-- Access to a gateway; every call may change what the next one answers. -/
class Fetcher (φ : Type) where
  fetchState : φ → Except Failure State × φ
  fetchMessages : φ → UInt64 → Except Failure MessageBatch × φ

def defaultMaxFailures : Nat := 3

def defaultMessageLimit : Nat := 2000

def failureCountLimit : Nat := 4294967295

structure RemoteDocument (φ : Type) where
  fetcher : φ
  document : Document := {}
  link : Link := .disconnected
  failures : Nat := 0
  maxFailures : Nat := defaultMaxFailures
  messageLimit : Nat := defaultMessageLimit
  session : Nat := 0
  deriving Inhabited

namespace RemoteDocument

variable {φ : Type} [Fetcher φ]

omit [Fetcher φ] in
/-- A count of failures that ends the link; one at least. -/
def withMaxFailures (remote : RemoteDocument φ) (maxFailures : Nat) : RemoteDocument φ :=
  { remote with maxFailures := max maxFailures 1 }

def withMessageLimit (remote : RemoteDocument φ) (limit : Nat) : RemoteDocument φ :=
  { remote with messageLimit := max limit 1 }

def call {α : Type} (remote : RemoteDocument φ) (undertaking : String)
    (request : φ → Except Failure α × φ) : Except Failure α × RemoteDocument φ :=
  let (answer, fetcher) := request remote.fetcher
  (answer.mapError (·.during undertaking), { remote with fetcher })

def startSession (remote : RemoteDocument φ) : RemoteDocument φ :=
  { remote with document := remote.document.clearMessages, session := remote.session + 1 }

def accept (remote : RemoteDocument φ) (state : State) (batch : MessageBatch) : RemoteDocument φ :=
  { remote with
    document := ({ remote.document with state }.appendMessages batch.messages remote.messageLimit).1 }

def poll (remote : RemoteDocument φ) : Except Failure Unit × RemoteDocument φ :=
  match remote.call "fetch client state" Fetcher.fetchState with
  | (.error failure, remote) => (.error failure, remote)
  | (.ok state, remote) =>
    let after := remote.document.lastSeqno
    match remote.call "fetch messages" (Fetcher.fetchMessages · after) with
    | (.error failure, remote) => (.error failure, remote)
    | (.ok batch, remote) =>
      if batch.latestSeqno < after then
        match remote.startSession.call "fetch messages after restart" (Fetcher.fetchMessages · 0) with
        | (.error failure, remote) => (.error failure, remote)
        | (.ok batch, remote) => (.ok (), remote.accept state batch)
      else (.ok (), remote.accept state batch)

/-- Count a failure. The link is down after too many of them, or if it was down before. -/
def recordFailure (remote : RemoteDocument φ) : RemoteDocument φ :=
  let failures := min (remote.failures + 1) failureCountLimit
  let down := remote.maxFailures ≤ failures || remote.link = .disconnected
  { remote with failures, link := if down then .disconnected else .reconnecting }

def recordSuccess (remote : RemoteDocument φ) : RemoteDocument φ :=
  { remote with failures := 0, link := .connected }

def refresh (remote : RemoteDocument φ) : Except Failure Unit × RemoteDocument φ :=
  match remote.poll with
  | (.ok (), remote) => (.ok (), remote.recordSuccess)
  | (.error failure, remote) => (.error failure, remote.recordFailure)

instance : DocumentSource (RemoteDocument φ) where
  refresh remote := (remote.refresh.1.mapError .failed, remote.refresh.2)
  document := RemoteDocument.document
  link := RemoteDocument.link
  session := RemoteDocument.session

end RemoteDocument
end ComputeMonitor.Gateway
