import Mathlib.Data.List.Basic
import Mathlib.Data.String.Basic

/-!
# Workspace identity and operation classes

`rho-protocol` and `rho-core`: what a request may change, the identity of the workspace that clients hold copies of, and the
broker that checks a request's expectations against it.
-/

namespace Rho

inductive OperationClass where
  | probe | stateCapable | projectMutation | stateAndProjectMutation
  deriving DecidableEq, Repr

inductive ExecutionOrigin where
  | user | agent | system
  deriving DecidableEq, Repr

def executionOriginName : ExecutionOrigin → String
  | .user => "user"
  | .agent => "agent"
  | .system => "system"

def operationClassName : OperationClass → String
  | .probe => "probe"
  | .stateCapable => "state_capable"
  | .projectMutation => "project_mutation"
  | .stateAndProjectMutation => "state_and_project_mutation"

/-- The counters are 64-bit in the source; they do not come near the end of their range. -/
structure WorkspaceIdentity where
  workspaceId : String
  kernelInstanceId : String
  executionSeq : Nat
  stateRevision : Nat
  projectRevision : Nat
  deriving DecidableEq, Repr

structure ExpectedWorkspace where
  kernelInstanceId : Option String
  stateRevision : Option Nat
  projectRevision : Option Nat
  deriving DecidableEq, Repr

inductive StaleWorkspace where
  | kernel (expected actual : String)
  | state (expected actual : Nat)
  | project (expected actual : Nat)
  deriving DecidableEq, Repr

namespace WorkspaceIdentity

/-- `apply`: the counters that a completed operation moves. -/
def apply (w : WorkspaceIdentity) (cls : OperationClass) : WorkspaceIdentity :=
  let w := { w with executionSeq := w.executionSeq + 1 }
  match cls with
  | .probe => w
  | .stateCapable => { w with stateRevision := w.stateRevision + 1 }
  | .projectMutation => { w with projectRevision := w.projectRevision + 1 }
  | .stateAndProjectMutation =>
    { w with stateRevision := w.stateRevision + 1, projectRevision := w.projectRevision + 1 }

/-- `restart_kernel`, with the id of the new kernel instance. -/
def restartKernel (w : WorkspaceIdentity) (kernelInstanceId : String) : WorkspaceIdentity :=
  { w with
    kernelInstanceId := kernelInstanceId
    executionSeq := w.executionSeq + 1
    stateRevision := w.stateRevision + 1 }

/-- `check`: the expectations that are stated hold. -/
def check (w : WorkspaceIdentity) (expected : ExpectedWorkspace) : Except StaleWorkspace Unit := do
  if let some value := expected.kernelInstanceId then
    if value ≠ w.kernelInstanceId then throw (.kernel value w.kernelInstanceId)
  if let some value := expected.stateRevision then
    if value ≠ w.stateRevision then throw (.state value w.stateRevision)
  if let some value := expected.projectRevision then
    if value ≠ w.projectRevision then throw (.project value w.projectRevision)

end WorkspaceIdentity

/-- The broker's state. -/
structure BrokerState where
  identity : WorkspaceIdentity
  deriving DecidableEq, Repr

namespace BrokerState

def authorize (b : BrokerState) (expected : ExpectedWorkspace) : Except StaleWorkspace Unit := b.identity.check expected

def complete (b : BrokerState) (cls : OperationClass) : BrokerState := { identity := b.identity.apply cls }

def projectChanged (b : BrokerState) : BrokerState := { identity := b.identity.apply .projectMutation }

def kernelRestarted (b : BrokerState) (kernelInstanceId : String) : BrokerState :=
  { identity := b.identity.restartKernel kernelInstanceId }

end BrokerState

end Rho
