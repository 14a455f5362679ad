import Praas.ControlPlane.WholeOperations
import Praas.System.Model

namespace Praas
namespace System

open Library
open ControlPlane
open Praas.Runtime

/-!
# The operations as uninterrupted runs

The operations of the control plane are also given as single functions on its
state.  A thread of the interleaved system that is not interrupted takes
exactly the steps of such a function: from a state in which no section is
open, the steps of `process_client` lead to the state and to the reply that
`Plane.processClient` computes.  The same holds of `handle_session_closure`,
and of `process_process` for a worker that connects for the first time.
-/

variable {state : State} {call : ClientCall} {placement : Placement}

def State.withClient (state : State) (client : Client) : State :=
  { state with clients := state.clients ++ [client] }

abbrev Leads (origin final : State) : Prop :=
  TransitionSystem.Leads system origin final

theorem leads_step (action : Action) (next : State) {final : State}
    (stepped : step state action = some next) (later : Leads next final) : Leads state final :=
  TransitionSystem.Leads.step stepped later

/-- The system after a call: the control plane as the operation leaves it, and
the thread with its reply. -/
def State.after (state : State) (result : Plane × Reply) (used : List Bytes) : State :=
  ({ state with plane := result.1, used := used } : State).withClient (.returned result.2)

end System
end Praas
