import ComputeMonitor.Client.Item

/-!
The document that all tables show: the latest state of the client and the log as it was gathered
over time.
-/

set_option autoImplicit false

namespace ComputeMonitor.Client

structure Document where
  state : State := {}
  messages : List Message := []
  deriving DecidableEq, Repr, Inhabited

/-- The messages of a batch that are newer than a number and than all before them. -/
def newerThan (last : UInt64) : List Message → List Message
  | [] => []
  | message :: rest =>
    if last < message.seqno then message :: newerThan message.seqno rest else newerThan last rest

def newest {α : Type} (limit : Nat) (entries : List α) : List α :=
  entries.drop (entries.length - limit)

namespace Document

def lastSeqno (document : Document) : UInt64 :=
  match document.messages.getLast? with
  | some message => message.seqno
  | none => 0

/-- Append the messages of a batch that are newer than all before them, and keep the newest ones
up to a limit. Returns how many were appended. -/
def appendMessages (document : Document) (batch : List Message) (limit : Nat) : Document × Nat :=
  let accepted := newerThan document.lastSeqno batch
  ({ document with messages := newest limit (document.messages ++ accepted) }, accepted.length)

def clearMessages (document : Document) : Document := { document with messages := [] }

end Document
end ComputeMonitor.Client
