import ComputeMonitor.Gateway.RemoteDocument

/-!
A gateway that answers as it was told, and takes down what it is asked. Each fetch of the state
takes the next of its answers, and the message fetches up to the next one take theirs in turn.
When nothing is left the answers are empty.
-/

set_option autoImplicit false

namespace ComputeMonitor.Gateway

open ComputeMonitor.Client

structure ToldPoll where
  state : Except Failure State
  messages : List (Except Failure MessageBatch)

structure ToldGateway where
  polls : List ToldPoll
  batches : List (Except Failure MessageBatch) := []
  calls : List String := []

instance : Fetcher ToldGateway where
  fetchState gateway :=
    let calls := gateway.calls ++ ["state"]
    match gateway.polls with
    | poll :: polls => (poll.state, { polls, batches := poll.messages, calls })
    | [] => (.ok {}, { gateway with batches := [], calls })
  fetchMessages gateway after :=
    let calls := gateway.calls ++ ["messages:" ++ Text.numeral after.toNat]
    match gateway.batches with
    | batch :: batches => (batch, { gateway with batches, calls })
    | [] => (.ok {}, { gateway with calls })

end ComputeMonitor.Gateway
