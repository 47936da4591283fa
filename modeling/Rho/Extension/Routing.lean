import Rho.Lib.Run

/-!
# The routing gate of a scope

`RegistryHub` (`lifecycle.rs`): `lease` checks the routing flag, counts itself and checks again; `close_routing` lowers the flag;
`wait_for_idle` waits until the counter is zero. Every access to the flag, the counter and the notifier is one step, and the
calls of all clients interleave in any order. The counter is a natural number: a granted lease holds an `Arc`, whose own count
aborts the process long before the counter could wrap.
-/

namespace Rho

/-- How far one call of `lease` has come; a call that was granted is the lease it returned, until that is dropped. -/
inductive LeaseStage where
  | called
  /-- The first load found routing open. -/
  | checked
  /-- The counter is incremented. -/
  | counted
  /-- The second load found routing closed; the increment is still to be undone. -/
  | refused
  | granted
  /-- The call returned `RoutingError::Closed`, or its lease is dropped. -/
  | done
  deriving DecidableEq, Repr

/-- The counter includes the call. -/
def LeaseStage.counts : LeaseStage → Bool
  | .counted | .refused | .granted => true
  | .called | .checked | .done => false

/-- How far one call of `wait_for_idle` has come. A `notified` future is told by every `notify_waiters` after its creation. -/
inductive WaitStage where
  | looping
  /-- The first load was not zero. -/
  | busy
  | registered (told : Bool)
  | awaiting (told : Bool)
  | returned
  deriving DecidableEq, Repr

/-- A `notify_waiters` reaches the futures that exist. -/
def WaitStage.tell : WaitStage → WaitStage
  | .registered _ => .registered true
  | .awaiting _ => .awaiting true
  | stage => stage

/-- The registry of one scope, with the calls made on it. `notifies` counts the `notify_waiters` that a decrement to zero or a
closing still has to make. -/
structure RegistryHub where
  routing : Bool
  leases : Nat
  calls : List LeaseStage
  waiters : List WaitStage
  notifies : Nat
  deriving DecidableEq, Repr

namespace RegistryHub

/-- The registry of a candidate: closed, without leases. -/
def candidate : RegistryHub := { routing := false, leases := 0, calls := [], waiters := [], notifies := 0 }

def setCall (h : RegistryHub) (i : Nat) (stage : LeaseStage) : RegistryHub := { h with calls := h.calls.set i stage }

def setWaiter (h : RegistryHub) (j : Nat) (stage : WaitStage) : RegistryHub := { h with waiters := h.waiters.set j stage }

/-- `leases.fetch_sub(1)`: the decrement from one to zero notifies. -/
def uncount (h : RegistryHub) : RegistryHub :=
  { h with leases := h.leases - 1, notifies := if h.leases = 1 then h.notifies + 1 else h.notifies }

/-- A load of the counter by `wait_for_idle`: zero ends the wait. -/
def waitLoad (h : RegistryHub) (j : Nat) (otherwise : WaitStage) : RegistryHub :=
  h.setWaiter j (if h.leases = 0 then .returned else otherwise)

/-- The leases that are granted and not yet dropped. -/
def outstanding (h : RegistryHub) : Nat := h.calls.countP (fun stage => stage = .granted)

/-- The calls of `lease` that have incremented the counter and are not answered yet. -/
def undecided (h : RegistryHub) : Nat := h.calls.countP (fun stage => stage = .counted ∨ stage = .refused)

end RegistryHub

/-- The atomic steps, of the call `i` of `lease`, of the call `j` of `wait_for_idle`, or of whoever opens or closes. -/
inductive RoutingStep where
  | openRouting
  | closeRouting
  | notifyWaiters
  | lease
  | leaseCheck (i : Nat)
  | leaseCount (i : Nat)
  | leaseRecheck (i : Nat)
  | leaseUncount (i : Nat)
  | leaseDrop (i : Nat)
  | waitForIdle
  | waitLoad (j : Nat)
  | waitRegister (j : Nat)
  | waitReload (j : Nat)
  | waitWake (j : Nat)
  deriving DecidableEq, Repr

/-- What one step does; a step of a call that is not at that point does nothing. -/
def RegistryHub.step (h : RegistryHub) : RoutingStep → RegistryHub
  | .openRouting => { h with routing := true }
  | .closeRouting => { h with routing := false, notifies := h.notifies + 1 }
  | .notifyWaiters =>
    if h.notifies = 0 then h else { h with notifies := h.notifies - 1, waiters := h.waiters.map WaitStage.tell }
  | .lease => { h with calls := h.calls ++ [.called] }
  | .leaseCheck i =>
    match h.calls[i]? with
    | some .called => h.setCall i (if h.routing then .checked else .done)
    | _ => h
  | .leaseCount i =>
    match h.calls[i]? with
    | some .checked => { h with leases := h.leases + 1 }.setCall i .counted
    | _ => h
  | .leaseRecheck i =>
    match h.calls[i]? with
    | some .counted => h.setCall i (if h.routing then .granted else .refused)
    | _ => h
  | .leaseUncount i =>
    match h.calls[i]? with
    | some .refused => h.uncount.setCall i .done
    | _ => h
  | .leaseDrop i =>
    match h.calls[i]? with
    | some .granted => h.uncount.setCall i .done
    | _ => h
  | .waitForIdle => { h with waiters := h.waiters ++ [.looping] }
  | .waitLoad j =>
    match h.waiters[j]? with
    | some .looping => h.waitLoad j .busy
    | _ => h
  | .waitRegister j =>
    match h.waiters[j]? with
    | some .busy => h.setWaiter j (.registered false)
    | _ => h
  | .waitReload j =>
    match h.waiters[j]? with
    | some (.registered told) => h.waitLoad j (.awaiting told)
    | _ => h
  | .waitWake j =>
    match h.waiters[j]? with
    | some (.awaiting true) => h.setWaiter j .looping
    | _ => h

/-- In this step a call of `wait_for_idle` loads the counter, finds zero and returns. -/
def RegistryHub.ObservesIdle (h : RegistryHub) (l : RoutingStep) : Prop :=
  ∃ j : Nat, h.waiters[j]? ≠ some WaitStage.returned ∧ (h.step l).waiters[j]? = some WaitStage.returned

end Rho
