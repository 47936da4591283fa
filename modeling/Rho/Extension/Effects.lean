import Rho.Extension.Scopes

/-!
# Effect stacks

`EffectSink` and `EffectStack` (`lifecycle.rs`): what a plugin registers while it is activated is disposed in the reverse order. A
disposal holds the lock of the stack through its whole loop and waits for one disposer at a time; it may be dropped wherever it
waits, for the lock or for a disposer, and the lock is free again then. Between two waits a disposal is one step.

The clock decides what is late and which disposer exceeds its deadline, and is an argument of the step. The plugin instance, the
same in every record of a stack, and the diagnostics are left out.
-/

namespace Rho

inductive EffectStatus where
  | registered | disposing | disposed | failed
  deriving DecidableEq, Repr

structure DisposeError where
  code : String
  message : String
  deriving DecidableEq, Repr

namespace DisposeError

def scopeDisposeTimeout : DisposeError :=
  ⟨"scope_dispose_timeout", "scope disposal deadline expired before this effect could run"⟩

def effectDisposePanicked : DisposeError := ⟨"effect_dispose_panicked", "effect cleanup panicked at the host boundary"⟩

def effectDisposeTimeout : DisposeError := ⟨"effect_dispose_timeout", "effect cleanup exceeded its deadline"⟩

end DisposeError

structure EffectRecord where
  creationOrder : Nat
  status : EffectStatus
  cleanupError : Option DisposeError
  deriving DecidableEq, Repr

structure EffectDisposeReport where
  outcome : DisposeOutcome
  records : List EffectRecord
  deriving DecidableEq, Repr

/-! ## Registration -/

namespace EffectSink

/-- `push`: the creation order is the number of effects before. -/
def push (effects : List EffectRecord) : List EffectRecord := effects ++ [⟨effects.length, .registered, none⟩]

/-- The sink of a plugin that registers so many effects. -/
def pushes : Nat → List EffectRecord
  | 0 => []
  | n + 1 => push (pushes n)

end EffectSink

/-! ## Disposal -/

/-- A call of `dispose`. -/
abbrev DisposalId := Nat

/-- A disposer is called: which one, and what the record said before. -/
structure Invocation where
  creationOrder : Nat
  before : EffectStatus
  deriving DecidableEq, Repr

/-- An effect stack with the calls of `dispose` on it: those that wait for the lock, and the one that holds it with the effect it
waits for. `invocations` is the history of the disposers called, and `returned` what the calls have returned; the code keeps
neither. -/
structure EffectStack where
  effects : List EffectRecord
  report : Option EffectDisposeReport
  waiting : List DisposalId
  holder : Option (DisposalId × Nat)
  invocations : List Invocation
  returned : List (DisposalId × EffectDisposeReport)
  deriving DecidableEq, Repr

namespace EffectStack

/-- `into_stack`. -/
def intoStack (effects : List EffectRecord) : EffectStack :=
  { effects, report := none, waiting := [], holder := none, invocations := [], returned := [] }

def setRecord (s : EffectStack) (i : Nat) (status : EffectStatus) (cleanupError : Option DisposeError) : EffectStack :=
  { s with effects := s.effects.modify i (fun r => { r with status := status, cleanupError := cleanupError }) }

/-- How the wait for a disposer ends. -/
inductive Settled where
  | ok
  | error (e : DisposeError)
  | panicked
  | timedOut
  deriving DecidableEq, Repr

/-- What the record of an effect says when its disposer is done. -/
def settle (s : EffectStack) (i : Nat) : Settled → EffectStack
  | .ok => { s with effects := s.effects.modify i (fun r => { r with status := .disposed }) }
  | .error e => s.setRecord i .failed (some e)
  | .panicked => s.setRecord i .failed (some .effectDisposePanicked)
  | .timedOut => s.setRecord i .failed (some .effectDisposeTimeout)

/-- The end of the loop: the report is kept and returned, and the lock is free. -/
def finish (s : EffectStack) (task : DisposalId) : EffectStack :=
  let report : EffectDisposeReport :=
    { outcome := if s.effects.all (fun r => r.status = .disposed) then .disposed else .failed
      records := s.effects }
  { s with report := some report, holder := none, returned := (task, report) :: s.returned }

/-- The loop from the effect before the given one down to the first: effects that the deadline leaves no time for fail without
being disposed, until a disposer is called and waited for. -/
def proceed (s : EffectStack) (task : DisposalId) (late : Nat → Bool) : Nat → EffectStack
  | 0 => s.finish task
  | i + 1 =>
    match s.effects[i]? with
    | none => proceed s task late i
    | some record =>
      if late i then proceed (s.setRecord i .failed (some .scopeDisposeTimeout)) task late i
      else
        { s with
          effects := s.effects.modify i (fun r => { r with status := .disposing })
          holder := some (task, i)
          invocations := s.invocations ++ [⟨record.creationOrder, record.status⟩] }

end EffectStack

/-- What the parties do: call `dispose`, get the lock, see a disposer end, or drop the call where it waits. -/
inductive DisposalStep where
  | start (task : DisposalId)
  | acquire (task : DisposalId) (late : Nat → Bool)
  | settle (settled : EffectStack.Settled) (late : Nat → Bool)
  | cancel (task : DisposalId)

/-- What one step does; a step that the state does not allow does nothing. -/
def EffectStack.step (s : EffectStack) : DisposalStep → EffectStack
  | .start task =>
    if task ∈ s.waiting ∨ s.holder.map (·.1) = some task then s else { s with waiting := s.waiting ++ [task] }
  | .acquire task late =>
    if task ∈ s.waiting ∧ s.holder = none then
      let locked := { s with waiting := s.waiting.erase task }
      match s.report with
      | some report => { locked with returned := (task, report) :: s.returned }
      | none => locked.proceed task late s.effects.length
    else s
  | .settle settled late =>
    match s.holder with
    | some (task, i) => (s.settle i settled).proceed task late i
    | none => s
  | .cancel task =>
    if s.holder.map (·.1) = some task then { s with holder := none } else { s with waiting := s.waiting.erase task }

end Rho
