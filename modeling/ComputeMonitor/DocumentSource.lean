import ComputeMonitor.Client.Document
import ComputeMonitor.Link

/-!
Where the document of a client comes from.
-/

set_option autoImplicit false

namespace ComputeMonitor

/-- A failure as a chain of texts: what was being done, then what went wrong, then its cause. -/
structure Failure where
  chain : List String
  deriving DecidableEq, Repr, Inhabited

namespace Failure

def ofText (text : String) : Failure := ⟨[text]⟩

def during (failure : Failure) (undertaking : String) : Failure := ⟨undertaking :: failure.chain⟩

def outermost (failure : Failure) : String := failure.chain.headD ""

def message (failure : Failure) : String := ": ".intercalate failure.chain

end Failure

/-- Why an undertaking does not succeed. A crash ends the program, and nothing is told of it. -/
inductive Stop where
  | failed (failure : Failure)
  | crashed
  deriving DecidableEq, Repr, Inhabited

namespace Stop

def ofText (text : String) : Stop := .failed (.ofText text)

def during (stop : Stop) (undertaking : String) : Stop :=
  match stop with
  | .failed failure => .failed (failure.during undertaking)
  | .crashed => .crashed

end Stop

/-- A source of documents. After a failed refresh the document read before can still be read. The
session changes when the source finds a client that has been started anew. -/
class DocumentSource (σ : Type) where
  refresh : σ → Except Stop Unit × σ
  document : σ → Client.Document
  link : σ → Link
  session : σ → Nat

end ComputeMonitor
