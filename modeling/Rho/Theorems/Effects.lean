import Rho.Extension.Effects

/-!
# Each disposer once, in the reverse order

A disposal that is dropped while it waits for a disposer leaves no report, and the next one begins the loop again at the last
effect, whatever the records say. As long as every disposal that begins the loop finds all records registered, each disposer is
called at most once, the last registered first.
-/

namespace Rho

open Run EffectStack

/-- The disposers called so far: each at most once, in the reverse order of registration, and none whose record said that it was
disposed. -/
structure DisposedOnce (s : EffectStack) : Prop where
  reverse : s.invocations.Pairwise (fun a b : Invocation => b.creationOrder < a.creationOrder)
  fresh : ∀ x ∈ s.invocations, x.before ≠ .disposed

/-- A disposal that gets the lock and finds no report finds every record registered. -/
def EffectStack.BeginsFresh (s : EffectStack) : DisposalStep → Prop
  | .acquire task _ => task ∈ s.waiting → s.holder = none → s.report = none → ∀ r ∈ s.effects, r.status = .registered
  | _ => True

namespace EffectAux

/-- The records are in the order of creation, the effects whose disposers were called have left the registered state, and the
loop has come down to the effect before which it stands, if there is a loop. -/
structure StackOk (s : EffectStack) (position : Option Nat) : Prop where
  once : DisposedOnce s
  order : ∀ (i : Nat) (r : EffectRecord), s.effects[i]? = some r → r.creationOrder = i
  left : ∀ x ∈ s.invocations, ∃ r, s.effects[x.creationOrder]? = some r ∧ r.status ≠ .registered
  above : ∀ i ∈ position, ∀ x ∈ s.invocations, i ≤ x.creationOrder
  below : ∀ i ∈ position, ∀ j < i, ∀ r, s.effects[j]? = some r → r.status = .registered

/-- The effect the holder of the lock waits for. -/
def position (s : EffectStack) : Option Nat := s.holder.map (·.2)

section Loop

variable {s : EffectStack} {i : Nat}

theorem get_modify_record {effects : List EffectRecord} {f : EffectRecord → EffectRecord} {j : Nat} {r : EffectRecord}
    (hr : (effects.modify i f)[j]? = some r) : ∃ r₀, effects[j]? = some r₀ ∧ r = if i = j then f r₀ else r₀ := by
  rw [List.getElem?_modify, Option.map_eq_map, Option.map_eq_some_iff] at hr
  obtain ⟨r₀, hr₀, heq⟩ := hr
  exact ⟨r₀, hr₀, heq.symm⟩

/-- The record of an effect that the loop has come to is written. -/
theorem StackOk.modify (hok : StackOk s (some i)) (f : EffectRecord → EffectRecord)
    (horder : ∀ r, (f r).creationOrder = r.creationOrder) (hstatus : ∀ r, (f r).status ≠ .registered) :
    StackOk { s with effects := s.effects.modify i f } (some i) := by
  refine ⟨⟨hok.once.reverse, hok.once.fresh⟩, ?_, ?_, hok.above, ?_⟩
  · intro j r hr
    obtain ⟨r₀, hr₀, rfl⟩ := get_modify_record hr
    split
    · exact (horder r₀).trans (hok.order j r₀ hr₀)
    · exact hok.order j r₀ hr₀
  · intro x hx
    obtain ⟨r, hr, hleft⟩ := hok.left x hx
    refine ⟨_, by rw [List.getElem?_modify, hr, Option.map_eq_map, Option.map_some], ?_⟩
    split
    · exact hstatus r
    · exact hleft
  · rintro _ ⟨⟩ j hj r hr
    obtain ⟨r₀, hr₀, rfl⟩ := get_modify_record hr
    rw [if_neg (Nat.ne_of_gt hj)]
    exact hok.below i rfl j hj r₀ hr₀

/-- The loop goes down by one effect. -/
theorem StackOk.descend (hok : StackOk s (some (i + 1))) : StackOk s (some i) := by
  refine ⟨hok.once, hok.order, hok.left, ?_, ?_⟩
  · rintro _ ⟨⟩ x hx
    exact Nat.le_of_succ_le (hok.above _ rfl x hx)
  · rintro _ ⟨⟩ j hj
    exact hok.below _ rfl j (Nat.lt_succ_of_lt hj)

/-- The disposer of the effect the loop has come to is called: it is still registered, and all called before it come after it in
the stack. -/
theorem StackOk.invoke (hok : StackOk s (some (i + 1))) {record : EffectRecord} (hrecord : s.effects[i]? = some record)
    (task : DisposalId) : StackOk { s with
      effects := s.effects.modify i (fun r => { r with status := .disposing })
      holder := some (task, i)
      invocations := s.invocations ++ [⟨record.creationOrder, record.status⟩] } (some i) := by
  have horder : record.creationOrder = i := hok.order i record hrecord
  have hregistered : record.status = .registered := hok.below _ rfl i (Nat.lt_succ_self i) record hrecord
  have hmodified := hok.descend.modify (fun r => { r with status := .disposing }) (fun _ => rfl) (fun _ => nofun)
  refine ⟨⟨?_, ?_⟩, hmodified.order, ?_, ?_, hmodified.below⟩
  · refine List.pairwise_append.mpr ⟨hok.once.reverse, List.pairwise_singleton _ _, ?_⟩
    intro x hx y hy
    cases List.mem_singleton.mp hy
    rw [horder]
    exact hok.above _ rfl x hx
  · intro x hx
    rcases List.mem_append.mp hx with hold | hnew
    · exact hok.once.fresh x hold
    · cases List.mem_singleton.mp hnew
      rw [hregistered]
      exact nofun
  · intro x hx
    rcases List.mem_append.mp hx with hold | hnew
    · exact hmodified.left x hold
    · cases List.mem_singleton.mp hnew
      have hget : (s.effects.modify i (fun r => { r with status := .disposing }))[i]? =
          some { record with status := .disposing } := by
        rw [List.getElem?_modify_eq, hrecord]
        rfl
      exact ⟨{ record with status := .disposing }, (congrArg (fun k : Nat => (_ : List EffectRecord)[k]?) horder).trans hget, nofun⟩
  · rintro _ ⟨⟩ x hx
    rcases List.mem_append.mp hx with hold | hnew
    · exact hmodified.above i rfl x hold
    · cases List.mem_singleton.mp hnew
      exact Nat.le_of_eq horder.symm

/-- The loop keeps to the order all the way down. -/
theorem stackOk_proceed (hok : StackOk s (some i)) (task : DisposalId) (late : Nat → Bool) :
    StackOk (s.proceed task late i) (position (s.proceed task late i)) := by
  induction i generalizing s with
  | zero => exact ⟨⟨hok.once.reverse, hok.once.fresh⟩, hok.order, hok.left, nofun, nofun⟩
  | succ i ih =>
    unfold proceed
    split
    · exact ih hok.descend
    · next record hrecord =>
      split
      · refine ih ?_
        exact hok.descend.modify (fun r => { r with status := .failed, cleanupError := some .scopeDisposeTimeout })
          (fun _ => rfl) (fun _ => nofun)
      · exact hok.invoke hrecord task

/-- The record of the effect that was waited for says how it ended. -/
theorem stackOk_settle (hok : StackOk s (some i)) (settled : EffectStack.Settled) : StackOk (s.settle i settled) (some i) := by
  cases settled with
  | ok => exact hok.modify (fun r => { r with status := .disposed }) (fun _ => rfl) (fun _ => nofun)
  | error e =>
    exact hok.modify (fun r => { r with status := .failed, cleanupError := some e }) (fun _ => rfl) (fun _ => nofun)
  | panicked =>
    exact hok.modify (fun r => { r with status := .failed, cleanupError := some .effectDisposePanicked }) (fun _ => rfl)
      (fun _ => nofun)
  | timedOut =>
    exact hok.modify (fun r => { r with status := .failed, cleanupError := some .effectDisposeTimeout }) (fun _ => rfl)
      (fun _ => nofun)

/-- A stack in which every record is registered has called no disposer. -/
theorem StackOk.begin {p : Option Nat} (hok : StackOk s p) (hregistered : ∀ r ∈ s.effects, r.status = .registered) (n : Nat) :
    StackOk s (some n) := by
  refine ⟨hok.once, hok.order, hok.left, ?_, ?_⟩
  · intro _ _ x hx
    obtain ⟨r, hr, hleft⟩ := hok.left x hx
    exact absurd (hregistered r (List.mem_of_getElem? hr)) hleft
  · intro _ _ j _ r hr
    exact hregistered r (List.mem_of_getElem? hr)

end Loop

/-- One step of a schedule in which the loop is begun only on registered records. -/
theorem stackOk_step {s : EffectStack} (hok : StackOk s (position s)) {l : DisposalStep} (hfresh : s.BeginsFresh l) :
    StackOk (s.step l) (position (s.step l)) := by
  have hframe : ∀ {s' : EffectStack}, s'.effects = s.effects → s'.invocations = s.invocations → s'.holder = s.holder →
      StackOk s' (position s') := by
    rintro ⟨effects, report, waiting, holder, invocations, returned⟩ rfl rfl rfl
    exact ⟨⟨hok.once.reverse, hok.once.fresh⟩, hok.order, hok.left, hok.above, hok.below⟩
  cases l with
  | start task =>
    unfold step
    simp only
    split
    · exact hok
    · exact hframe rfl rfl rfl
  | acquire task late =>
    unfold step
    simp only
    split
    · next hlock =>
      split
      · exact hframe rfl rfl rfl
      · next hreport =>
        have hregistered := hfresh hlock.1 hlock.2 hreport
        have hlocked : StackOk { s with waiting := s.waiting.erase task } (position s) :=
          ⟨⟨hok.once.reverse, hok.once.fresh⟩, hok.order, hok.left, hok.above, hok.below⟩
        exact stackOk_proceed (hlocked.begin hregistered _) task late
    · exact hok
  | settle settled late =>
    unfold step
    simp only
    split
    · next task i hholder =>
      have hposition : StackOk s (some i) := by
        have hat := hok
        rw [position, hholder] at hat
        exact hat
      exact stackOk_proceed (stackOk_settle hposition settled) task late
    · exact hok
  | cancel task =>
    unfold step
    simp only
    split
    · exact ⟨⟨hok.once.reverse, hok.once.fresh⟩, hok.order, hok.left, nofun, nofun⟩
    · exact hframe rfl rfl rfl

/-- The effects of a sink are in the order of creation. -/
theorem order_pushes (n i : Nat) (r : EffectRecord) (hr : (EffectSink.pushes n)[i]? = some r) : r.creationOrder = i := by
  induction n with
  | zero => cases hr
  | succ n ih =>
    rw [EffectSink.pushes, EffectSink.push, List.getElem?_append] at hr
    split at hr
    · exact ih hr
    · next hge =>
      rw [List.getElem?_singleton] at hr
      split at hr
      · next hzero =>
        cases hr
        show (EffectSink.pushes n).length = i
        omega
      · cases hr

end EffectAux

open EffectAux

/-- For every number of effects and every schedule of disposals, dropped ones among them, in which the loop is begun only on
registered records: each disposer is called at most once, in the reverse order, and none that is disposed. -/
theorem disposers_called_once (n : Nat) {trace : List DisposalStep}
    (hfresh : Along EffectStack.step EffectStack.BeginsFresh (.intoStack (EffectSink.pushes n)) trace) :
    DisposedOnce (after EffectStack.step (.intoStack (EffectSink.pushes n)) trace) := by
  have hinit : StackOk (.intoStack (EffectSink.pushes n)) (position (.intoStack (EffectSink.pushes n))) :=
    ⟨⟨List.Pairwise.nil, nofun⟩, order_pushes n, nofun, nofun, nofun⟩
  exact (invariant_along (I := fun s => StackOk s (position s)) (fun _ _ hok hc => stackOk_step hok hc) hinit hfresh).once

namespace EffectAux

def onTime : Nat → Bool := fun _ => false

/-- Two disposals of two effects: the second waits for the lock and gets the report of the first; a third is dropped. -/
def concurrentDisposals : List DisposalStep :=
  [.start 0, .start 1, .acquire 0 onTime, .start 2, .settle .ok onTime, .cancel 2, .settle .timedOut onTime, .acquire 1 onTime]

/-- The first disposal is dropped at the second disposer, and another begins. -/
def droppedDisposal : List DisposalStep :=
  [.start 0, .acquire 0 onTime, .settle .ok onTime, .cancel 0, .start 1, .acquire 1 onTime]

instance decidableBeginsFresh : ∀ s l, Decidable (EffectStack.BeginsFresh s l)
  | s, .acquire task _ => inferInstanceAs (Decidable
      (task ∈ s.waiting → s.holder = none → s.report = none → ∀ r ∈ s.effects, r.status = .registered))
  | _, .start _ => inferInstanceAs (Decidable True)
  | _, .settle _ _ => inferInstanceAs (Decidable True)
  | _, .cancel _ => inferInstanceAs (Decidable True)

end EffectAux

theorem disposers_called_once_two_effects :
    Along EffectStack.step EffectStack.BeginsFresh (.intoStack (EffectSink.pushes 2)) concurrentDisposals ∧
      DisposedOnce (after EffectStack.step (.intoStack (EffectSink.pushes 2)) concurrentDisposals) :=
  ⟨by decide, disposers_called_once 2 (by decide)⟩

/-- The disposer of the last effect is called again after its record says that it is disposed. -/
theorem disposer_called_again :
    ¬∀ n trace, DisposedOnce (after EffectStack.step (.intoStack (EffectSink.pushes n)) trace) := by
  intro honce
  have hcalled : (after EffectStack.step (.intoStack (EffectSink.pushes 2)) droppedDisposal).invocations =
      [⟨1, .registered⟩, ⟨0, .registered⟩, ⟨1, .disposed⟩] := by decide
  have hfresh := (honce 2 droppedDisposal).fresh ⟨1, .disposed⟩
  rw [hcalled] at hfresh
  exact hfresh (by decide) rfl

end Rho
