import Rho.Extension.SlotRace

/-!
# What the calls on a slot rely on

Each stage of a publication or a disposal relies on something: the gate it holds, the state of its candidate, the slot, the routing
of what it has closed. A step of one call keeps what the others rely on, so long as no publication replaces a candidate that its own
publication has still to open.
-/

namespace Rho

open Run SnapshotCell

def ScopeLifecycleState.Dying (state : ScopeLifecycleState) : Prop := state ≠ .ready ∧ state ≠ .active

namespace SlotCall

/-- The gate the call holds. -/
def holds : SlotCall → Option Ptr
  | .publish _ _ .locking | .dispose _ .locking | .returned => none
  | .publish _ candidate _ => some candidate
  | .dispose p _ => some p

/-- The candidate is in the slot, and its routing is still to be opened. -/
def window : SlotCall → Option Ptr
  | .publish _ candidate (.activating _) | .publish _ candidate (.opening _) => some candidate
  | _ => none

/-- The call is about to close the routing of a snapshot whose state it has seen leave `Ready` and `Active`. -/
def closes : SlotCall → Option Ptr
  | .publish _ _ (.quiescing p .closing) | .dispose p (.quiescing .closing) => some p
  | _ => none

/-- The call is about to exchange the slot, and for what it expects there. -/
def swaps : SlotCall → Option (Option Ptr)
  | .publish expected _ .swapping => some expected
  | _ => none

/-- The call is about to begin a disposal, if there is no report. -/
def begins : SlotCall → Option Ptr
  | .dispose p .reporting => some p
  | _ => none

end SlotCall

/-- A snapshot that is quiescing, disposing or disposed does not route, once the `begin_quiesce` that made it so has closed it. -/
def SlotWorld.DyingClosed (w : SlotWorld) : Prop :=
  ∀ x, (w.snapshot x).state.Dying → (w.snapshot x).routing = true → ∃ c ∈ w.calls, c.closes = some x

/-- When all calls have returned, the snapshot in the slot is not dying. -/
def SlotWorld.SlotLives (w : SlotWorld) : Prop :=
  (∀ c ∈ w.calls, c = .returned) → ∀ x, w.slot = some x → ¬(w.snapshot x).state.Dying

/-- A publication takes the slot from a snapshot only when no publication of that one has still to open it. -/
def SlotWorld.ReplacesOpened (w : SlotWorld) : SlotStep → Prop
  | .run i _ => ∀ expected ∈ (w.calls[i]?).bind SlotCall.swaps, w.slot = expected → expected ≠ none →
      ∀ c ∈ w.calls, c.window ≠ expected
  | _ => True

/-- A disposal without a report begins only on a snapshot that is not in the slot. -/
def SlotWorld.SparesCurrent (w : SlotWorld) : SlotStep → Prop
  | .run i _ => ∀ p ∈ (w.calls[i]?).bind SlotCall.begins, (w.snapshot p).report = none → w.slot ≠ some p
  | _ => True

/-- No call is under way, what routes is active, and so is what is in the slot. -/
structure SlotWorld.AtRest (w : SlotWorld) : Prop where
  calls : w.calls = []
  gates : ∀ x, (w.snapshot x).gate = none
  routing : ∀ x, (w.snapshot x).routing = true → (w.snapshot x).state = .active
  slot : ∀ x, w.slot = some x → (w.snapshot x).state = .active

namespace SlotAux

/-! ## What a call relies on -/

/-- The snapshot that a call has seen ready and that stays so while it holds the gate. -/
def readies : SlotCall → Option Ptr
  | .publish _ candidate .swapping | .publish _ candidate (.activating _) => some candidate
  | _ => none

/-- The snapshot that a call has made active and is about to open. -/
def opens : SlotCall → Option Ptr
  | .publish _ candidate (.opening _) => some candidate
  | _ => none

/-- The snapshot that a call has taken out of the slot. -/
def replaced : SlotCall → Option Ptr
  | .publish _ _ (.activating p) | .publish _ _ (.opening p) | .publish _ _ (.unlocking p) => p
  | .publish _ _ (.quiescing p _) => some p
  | _ => none

/-- The snapshot that a call has closed and is tearing down. -/
def torn : SlotCall → Option Ptr
  | .dispose p .draining | .dispose p .tearing | .dispose p (.writing _) => some p
  | _ => none

/-- `mark_active` has failed. -/
def restores : SlotCall → Bool
  | .publish _ _ (.restoring _) => true
  | _ => false

structure CallOk (w : SlotWorld) (i : CallId) (c : SlotCall) : Prop where
  gate : ∀ p, c.holds = some p → (w.snapshot p).gate = some i
  ready : ∀ p, readies c = some p → (w.snapshot p).state = .ready
  active : ∀ p, opens c = some p → (w.snapshot p).state = .active
  window : ∀ p, c.window = some p → w.slot = some p
  previous : ∀ p, replaced c = some p → (w.snapshot p).state ≠ .ready ∧ w.slot ≠ some p
  drained : ∀ p, torn c = some p → (w.snapshot p).routing = false
  activated : restores c = false

structure WorldOk (w : SlotWorld) : Prop where
  calls : ∀ (i : CallId) (c : SlotCall), w.calls[i]? = some c → CallOk w i c
  slot : ∀ x, w.slot = some x → (w.snapshot x).state = .ready → ∃ (i : CallId) (c : SlotCall), w.calls[i]? = some c ∧ c.window = some x
  closed : ∀ x, (w.snapshot x).routing = true → (w.snapshot x).state = .active ∨ ∃ (i : CallId) (c : SlotCall), w.calls[i]? = some c ∧ c.closes = some x

theorem holds_of_readies {c : SlotCall} {p : Ptr} (h : readies c = some p) : c.holds = some p := by
  unfold readies at h
  split at h
  · exact h
  · exact h
  · cases h

theorem holds_of_opens {c : SlotCall} {p : Ptr} (h : opens c = some p) : c.holds = some p := by
  unfold opens at h
  split at h
  · exact h
  · cases h

theorem window_of_opens {c : SlotCall} {p : Ptr} (h : opens c = some p) : c.window = some p := by
  unfold opens at h
  split at h
  · exact h
  · cases h

theorem holds_of_window {c : SlotCall} {p : Ptr} (h : c.window = some p) : c.holds = some p := by
  unfold SlotCall.window at h
  split at h
  · exact h
  · exact h
  · cases h

theorem holds_of_torn {c : SlotCall} {p : Ptr} (h : torn c = some p) : c.holds = some p := by
  unfold torn at h
  split at h
  · exact h
  · exact h
  · exact h
  · cases h

/-! ## The cells -/

section Cells

/-- A field that the edit leaves. -/
theorem kept_modify {α : Type} (field : SnapshotCell → α) {f : SnapshotCell → SnapshotCell} (hf : ∀ s, field (f s) = field s)
    (w : SlotWorld) (p q : Ptr) : field ((w.modify p f).snapshot q) = field (w.snapshot q) := by
  by_cases h : q = p
  · subst h
    simp [SlotWorld.modify, hf]
  · simp [SlotWorld.modify, h]

/-- The field that the edit sets. -/
theorem set_modify {α : Type} (field : SnapshotCell → α) {f : SnapshotCell → SnapshotCell} {a : α} (hf : ∀ s, field (f s) = a)
    (w : SlotWorld) (p q : Ptr) : field ((w.modify p f).snapshot q) = if q = p then a else field (w.snapshot q) := by
  by_cases h : q = p
  · subst h
    simp [SlotWorld.modify, hf]
  · simp [SlotWorld.modify, h]

variable (w : SlotWorld) (p q : Ptr)

@[simp] theorem state_setState (s : ScopeLifecycleState) :
    ((w.setState p s).snapshot q).state = if q = p then s else (w.snapshot q).state :=
  set_modify state (f := fun c => { c with state := s }) (fun _ => rfl) w p q

@[simp] theorem routing_setState (s : ScopeLifecycleState) :
    ((w.setState p s).snapshot q).routing = (w.snapshot q).routing :=
  kept_modify routing (f := fun c => { c with state := s }) (fun _ => rfl) w p q

@[simp] theorem gate_setState (s : ScopeLifecycleState) : ((w.setState p s).snapshot q).gate = (w.snapshot q).gate :=
  kept_modify gate (f := fun c => { c with state := s }) (fun _ => rfl) w p q

@[simp] theorem state_setRouting (b : Bool) : ((w.setRouting p b).snapshot q).state = (w.snapshot q).state :=
  kept_modify state (f := fun c => { c with routing := b }) (fun _ => rfl) w p q

@[simp] theorem routing_setRouting (b : Bool) :
    ((w.setRouting p b).snapshot q).routing = if q = p then b else (w.snapshot q).routing :=
  set_modify routing (f := fun c => { c with routing := b }) (fun _ => rfl) w p q

@[simp] theorem gate_setRouting (b : Bool) : ((w.setRouting p b).snapshot q).gate = (w.snapshot q).gate :=
  kept_modify gate (f := fun c => { c with routing := b }) (fun _ => rfl) w p q

@[simp] theorem state_setGate (g : Option CallId) : ((w.setGate p g).snapshot q).state = (w.snapshot q).state :=
  kept_modify state (f := fun c => { c with gate := g }) (fun _ => rfl) w p q

@[simp] theorem routing_setGate (g : Option CallId) : ((w.setGate p g).snapshot q).routing = (w.snapshot q).routing :=
  kept_modify routing (f := fun c => { c with gate := g }) (fun _ => rfl) w p q

@[simp] theorem gate_setGate (g : Option CallId) :
    ((w.setGate p g).snapshot q).gate = if q = p then g else (w.snapshot q).gate :=
  set_modify gate (f := fun c => { c with gate := g }) (fun _ => rfl) w p q

end Cells

/-! ## The other calls -/

section Others

variable {w : SlotWorld} {i j : CallId} {c : SlotCall} {p : Ptr}

/-- Two calls do not hold one gate. -/
theorem not_holds (hj : CallOk w j c) (hne : j ≠ i) (hp : (w.snapshot p).gate = none ∨ (w.snapshot p).gate = some i) :
    c.holds ≠ some p := by
  intro hholds
  have hgate := hj.gate p hholds
  rcases hp with hp | hp
  · rw [hp] at hgate
    cases hgate
  · rw [hp] at hgate
    exact hne (Option.some.inj hgate).symm

theorem CallOk.setGate (hj : CallOk w j c) (hp : c.holds ≠ some p) (g : Option CallId) : CallOk (w.setGate p g) j c := by
  refine ⟨?_, ?_, ?_, hj.window, ?_, ?_, hj.activated⟩
  · intro q hq
    have hne : q ≠ p := by
      rintro rfl
      exact hp hq
    rw [gate_setGate, if_neg hne]
    exact hj.gate q hq
  · intro q hq
    rw [state_setGate]
    exact hj.ready q hq
  · intro q hq
    rw [state_setGate]
    exact hj.active q hq
  · intro q hq
    rw [state_setGate]
    exact hj.previous q hq
  · intro q hq
    rw [routing_setGate]
    exact hj.drained q hq

/-- A state that leaves `Ready` and `Active` behind, of a snapshot that the call does not rely on. -/
theorem CallOk.setState (hj : CallOk w j c) (hready : readies c ≠ some p) (hopens : opens c ≠ some p)
    {s : ScopeLifecycleState} (hs : s ≠ .ready) : CallOk (w.setState p s) j c := by
  refine ⟨?_, ?_, ?_, hj.window, ?_, ?_, hj.activated⟩
  · intro q hq
    rw [gate_setState]
    exact hj.gate q hq
  · intro q hq
    rw [state_setState, if_neg (by rintro rfl; exact hready hq)]
    exact hj.ready q hq
  · intro q hq
    rw [state_setState, if_neg (by rintro rfl; exact hopens hq)]
    exact hj.active q hq
  · intro q hq
    rw [state_setState]
    refine ⟨?_, (hj.previous q hq).2⟩
    split
    · exact hs
    · exact (hj.previous q hq).1
  · intro q hq
    rw [routing_setState]
    exact hj.drained q hq

theorem CallOk.setRouting (hj : CallOk w j c) {b : Bool} (hb : b = true → torn c ≠ some p) :
    CallOk (w.setRouting p b) j c := by
  refine ⟨?_, ?_, ?_, hj.window, ?_, ?_, hj.activated⟩
  · intro q hq
    rw [gate_setRouting]
    exact hj.gate q hq
  · intro q hq
    rw [state_setRouting]
    exact hj.ready q hq
  · intro q hq
    rw [state_setRouting]
    exact hj.active q hq
  · intro q hq
    rw [state_setRouting]
    exact hj.previous q hq
  · intro q hq
    rw [routing_setRouting]
    split
    · next heq =>
      subst heq
      exact Bool.eq_false_iff.mpr fun hopen => hb hopen hq
    · exact hj.drained q hq

/-- The slot is taken by a ready snapshot from one that no call is about to open. -/
theorem CallOk.setSlot (hj : CallOk w j c) (hready : (w.snapshot p).state = .ready)
    (hwindow : ∀ x, w.slot = some x → c.window ≠ some x) : CallOk (w.setSlot (some p)) j c := by
  refine ⟨hj.gate, hj.ready, hj.active, ?_, ?_, hj.drained, hj.activated⟩
  · intro q hq
    exact absurd hq (hwindow q (hj.window q hq))
  · intro q hq
    obtain ⟨hstate, -⟩ := hj.previous q hq
    refine ⟨hstate, ?_⟩
    rintro ⟨⟩
    exact hstate hready

/-- What a call relies on is in three fields of the cells and the slot. -/
theorem CallOk.congr {w' : SlotWorld} (hj : CallOk w j c) (hgate : ∀ q, (w'.snapshot q).gate = (w.snapshot q).gate)
    (hstate : ∀ q, (w'.snapshot q).state = (w.snapshot q).state)
    (hrouting : ∀ q, (w'.snapshot q).routing = (w.snapshot q).routing) (hslot : w'.slot = w.slot) : CallOk w' j c := by
  refine ⟨?_, ?_, ?_, ?_, ?_, ?_, hj.activated⟩
  · intro q hq
    rw [hgate]
    exact hj.gate q hq
  · intro q hq
    rw [hstate]
    exact hj.ready q hq
  · intro q hq
    rw [hstate]
    exact hj.active q hq
  · rw [hslot]
    exact hj.window
  · intro q hq
    rw [hstate, hslot]
    exact hj.previous q hq
  · intro q hq
    rw [hrouting]
    exact hj.drained q hq

end Others

/-! ## One step -/

section Steps

variable {w : SlotWorld} {i : CallId} {old new : SlotCall} {p : Ptr}

theorem get_setCall {j : CallId} {c : SlotCall} (hc : (w.setCall i new).calls[j]? = some c) :
    j = i ∧ c = new ∨ j ≠ i ∧ w.calls[j]? = some c := by
  by_cases hne : j = i
  · subst hne
    have hlt : j < w.calls.length := by
      have hlength := (List.getElem?_eq_some_iff.mp hc).1
      rwa [SlotWorld.setCall, List.length_set] at hlength
    rw [SlotWorld.setCall, List.getElem?_set_self hlt] at hc
    exact Or.inl ⟨rfl, (Option.some.inj hc).symm⟩
  · rw [SlotWorld.setCall, List.getElem?_set_ne (Ne.symm hne)] at hc
    exact Or.inr ⟨hne, hc⟩

theorem get_setCall_self (hold : w.calls[i]? = some old) : (w.setCall i new).calls[i]? = some new :=
  List.getElem?_set_self (List.getElem?_eq_some_iff.mp hold).1

theorem get_setCall_ne {j : CallId} (hne : j ≠ i) : (w.setCall i new).calls[j]? = w.calls[j]? :=
  List.getElem?_set_ne (Ne.symm hne)

/-- One call moves on: the others can rely on what they did, the new stage on what it needs, and the slot and the open snapshots
are accounted for by the calls that accounted for them before, or by this one. -/
theorem WorldOk.advance (hok : WorldOk w) (w' : SlotWorld) (hold : w.calls[i]? = some old) (hcalls : w'.calls = w.calls)
    (hothers : ∀ (j : CallId) (c : SlotCall), j ≠ i → w.calls[j]? = some c → CallOk w j c → CallOk w' j c)
    (hnew : CallOk w' i new) (hslot : ∀ x, w'.slot = some x → (w'.snapshot x).state = .ready →
      new.window = some x ∨ w.slot = some x ∧ (w.snapshot x).state = .ready ∧ old.window ≠ some x)
    (hclosed : ∀ x, (w'.snapshot x).routing = true → (w'.snapshot x).state = .active ∨ new.closes = some x ∨
      (w.snapshot x).routing = true ∧ (w.snapshot x).state = (w'.snapshot x).state ∧ old.closes ≠ some x) :
    WorldOk (w'.setCall i new) := by
  have hold' : w'.calls[i]? = some old := by rw [hcalls]; exact hold
  refine ⟨?_, ?_, ?_⟩
  · intro j c hc
    rcases get_setCall hc with ⟨rfl, rfl⟩ | ⟨hne, hc⟩
    · exact hnew.congr (fun _ => rfl) (fun _ => rfl) (fun _ => rfl) rfl
    · rw [hcalls] at hc
      exact (hothers j c hne hc (hok.calls j c hc)).congr (fun _ => rfl) (fun _ => rfl) (fun _ => rfl) rfl
  · intro x hx hready
    rcases hslot x hx hready with hwindow | ⟨hx, hready, hother⟩
    · exact ⟨i, new, get_setCall_self hold', hwindow⟩
    · obtain ⟨j, c, hc, hwindow⟩ := hok.slot x hx hready
      have hne : j ≠ i := by
        rintro rfl
        rw [hold] at hc
        cases hc
        exact hother hwindow
      exact ⟨j, c, by rw [get_setCall_ne hne, hcalls]; exact hc, hwindow⟩
  · intro x hx
    rcases hclosed x hx with hactive | hcloses | ⟨hrouting, hsame, hother⟩
    · exact Or.inl hactive
    · exact Or.inr ⟨i, new, get_setCall_self hold', hcloses⟩
    · rcases hok.closed x hrouting with hactive | ⟨j, c, hc, hcloses⟩
      · exact Or.inl (hsame.symm.trans hactive)
      · have hne : j ≠ i := by
          rintro rfl
          rw [hold] at hc
          cases hc
          exact hother hcloses
        exact Or.inr ⟨j, c, by rw [get_setCall_ne hne, hcalls]; exact hc, hcloses⟩

/-- Only the call moves on. -/
theorem WorldOk.moveCall (hok : WorldOk w) (hold : w.calls[i]? = some old) (hnew : CallOk w i new) (hwindow : old.window = none)
    (hcloses : old.closes = none) : WorldOk (w.setCall i new) := by
  refine hok.advance _ hold rfl (fun _ _ _ _ hj => hj) hnew ?_ ?_
  · intro x hx hready
    exact Or.inr ⟨hx, hready, by rw [hwindow]; exact nofun⟩
  · intro x hx
    exact Or.inr (Or.inr ⟨hx, rfl, by rw [hcloses]; exact nofun⟩)

/-- A gate is locked, or let go, and the call moves on. -/
theorem WorldOk.moveGate (hok : WorldOk w) (hold : w.calls[i]? = some old)
    (hgate : (w.snapshot p).gate = none ∨ (w.snapshot p).gate = some i) (g : Option CallId)
    (hnew : CallOk (w.setGate p g) i new) (hwindow : old.window = none) (hcloses : old.closes = none) :
    WorldOk ((w.setGate p g).setCall i new) := by
  refine hok.advance _ hold rfl (fun j c hne _ hj => hj.setGate (not_holds hj hne hgate) g) hnew ?_ ?_
  · intro x hx hready
    rw [state_setGate] at hready
    exact Or.inr ⟨hx, hready, by rw [hwindow]; exact nofun⟩
  · intro x hx
    rw [routing_setGate] at hx
    rw [state_setGate]
    exact Or.inr (Or.inr ⟨hx, rfl, by rw [hcloses]; exact nofun⟩)

/-- A state is written that is not `Ready` and that no other call relies on. -/
theorem WorldOk.moveState (hok : WorldOk w) (hold : w.calls[i]? = some old)
    (hfree : ∀ (j : CallId) (c : SlotCall), j ≠ i → CallOk w j c → readies c ≠ some p ∧ opens c ≠ some p)
    {s : ScopeLifecycleState} (hs : s ≠ .ready) (hnew : CallOk (w.setState p s) i new)
    (hwindow : ∀ x ≠ p, old.window ≠ some x) (hcloses : old.closes = none)
    (hclosed : (w.snapshot p).routing = true → s = .active ∨ new.closes = some p) :
    WorldOk ((w.setState p s).setCall i new) := by
  refine hok.advance _ hold rfl (fun j c hne _ hj => hj.setState (hfree j c hne hj).1 (hfree j c hne hj).2 hs) hnew ?_ ?_
  · intro x hx hready
    rw [state_setState] at hready
    split at hready
    · exact absurd hready hs
    · next hne => exact Or.inr ⟨hx, hready, hwindow x hne⟩
  · intro x hx
    rw [routing_setState] at hx
    rw [state_setState]
    split
    · next heq =>
      subst heq
      rcases hclosed hx with hactive | hnew
      · exact Or.inl hactive
      · exact Or.inr (Or.inl hnew)
    · exact Or.inr (Or.inr ⟨hx, rfl, by rw [hcloses]; exact nofun⟩)

/-- No other call relies on a snapshot whose gate the call holds. -/
theorem free_of_gate (hgate : (w.snapshot p).gate = some i) (j : CallId) (c : SlotCall) (hne : j ≠ i) (hj : CallOk w j c) :
    readies c ≠ some p ∧ opens c ≠ some p := by
  have hholds := not_holds hj hne (Or.inr hgate)
  exact ⟨fun h => hholds (holds_of_readies h), fun h => hholds (holds_of_opens h)⟩

/-- No call relies on a snapshot that was taken out of the slot. -/
theorem free_of_replaced (hp : (w.snapshot p).state ≠ .ready ∧ w.slot ≠ some p) (j : CallId) (c : SlotCall)
    (hj : CallOk w j c) : readies c ≠ some p ∧ opens c ≠ some p :=
  ⟨fun h => hp.1 (hj.ready p h), fun h => hp.2 (hj.window p (window_of_opens h))⟩

/-- The steps of `begin_quiesce`, of whichever call: `call` is the call at each of its stages, and `done` what comes after. -/
theorem worldOk_quiesce (hok : WorldOk w) {stage : QuiesceStage} (call : QuiesceStage → SlotCall) {done : SlotCall}
    (hold : w.calls[i]? = some (call stage)) (hwindow : ∀ q, (call q).window = none)
    (hcloses : ∀ q, (call q).closes = if q = .closing then some p else none)
    (hrelies : ∀ q, readies (call q) = none ∧ opens (call q) = none)
    (hsame : ∀ (w : SlotWorld) (q q' : QuiesceStage), CallOk w i (call q) → CallOk w i (call q'))
    (hfree : ∀ (j : CallId) (c : SlotCall), j ≠ i → CallOk w j c → readies c ≠ some p ∧ opens c ≠ some p)
    (hdone : CallOk (w.setRouting p false) i (call stage) → CallOk (w.setRouting p false) i done) :
    WorldOk (match w.quiesceStep p stage with
      | (w', some stage') => w'.setCall i (call stage')
      | (w', none) => w'.setCall i done) := by
  have hcall := hok.calls i _ hold
  cases stage with
  | loading => exact hok.moveCall hold (hsame w _ _ hcall) (hwindow _) (hcloses _)
  | exchanging seen =>
    unfold SlotWorld.quiesceStep
    simp only
    split
    · next w' stage' heq =>
      split at heq
      · cases heq
        refine hok.moveState hold hfree nofun ?_ ?_ (hcloses _) ?_
        · refine hsame _ _ _ (hcall.setState ?_ ?_ nofun)
          · rw [(hrelies _).1]; exact nofun
          · rw [(hrelies _).2]; exact nofun
        · intro x _
          rw [hwindow]
          exact nofun
        · intro _
          exact Or.inr (hcloses _)
      · cases heq
        exact hok.moveCall hold (hsame w _ _ hcall) (hwindow _) (hcloses _)
    · next w' heq =>
      split at heq
      · cases heq
      · cases heq
  | closing =>
    refine hok.advance (w.setRouting p false) hold rfl (fun j c _ _ hj => hj.setRouting nofun)
      (hdone (hcall.setRouting nofun)) ?_ ?_
    · intro x hx hready
      rw [state_setRouting] at hready
      exact Or.inr ⟨hx, hready, by rw [hwindow]; exact nofun⟩
    · intro x hx
      rw [routing_setRouting] at hx
      split at hx
      · cases hx
      · next hne =>
        rw [state_setRouting]
        refine Or.inr (Or.inr ⟨hx, rfl, ?_⟩)
        rw [hcloses, if_pos rfl]
        exact fun heq => hne (Option.some.inj heq).symm

/-- The gate is still held after an edit of something else, and nothing else is relied on. -/
theorem callOk_gate {c : SlotCall} (hholds : c.holds = some p) (hgate : (w.snapshot p).gate = some i) (hready : readies c = none)
    (hopens : opens c = none) (hwindow : c.window = none)
    (hprevious : ∀ q, replaced c = some q → (w.snapshot q).state ≠ .ready ∧ w.slot ≠ some q)
    (htorn : ∀ q, torn c = some q → (w.snapshot q).routing = false) (hrestores : restores c = false) : CallOk w i c := by
  refine ⟨?_, by rw [hready]; exact nofun, by rw [hopens]; exact nofun, by rw [hwindow]; exact nofun, hprevious, htorn, hrestores⟩
  intro q hq
  rw [hholds] at hq
  cases hq
  exact hgate

/-- A call that holds nothing. -/
theorem callOk_free {c : SlotCall} (hholds : c.holds = none) (hprevious : replaced c = none) (hrestores : restores c = false) :
    CallOk w i c := by
  have hnone : ∀ {q : Ptr}, c.holds ≠ some q := by
    rw [hholds]
    exact nofun
  refine ⟨fun q hq => ?_, fun q hq => ?_, fun q hq => ?_, fun q hq => ?_, fun q hq => ?_, fun q hq => ?_, hrestores⟩
  · exact absurd hq hnone
  · exact absurd (holds_of_readies hq) hnone
  · exact absurd (holds_of_opens hq) hnone
  · exact absurd (holds_of_window hq) hnone
  · rw [hprevious] at hq
    cases hq
  · exact absurd (holds_of_torn hq) hnone

theorem worldOk_publishStep (hok : WorldOk w) {expected : Option Ptr} {candidate : Ptr} {stage : PublishStage}
    (hold : w.calls[i]? = some (.publish expected candidate stage))
    (hreplaces : stage = .swapping → w.slot = expected → expected ≠ none → ∀ c ∈ w.calls, c.window ≠ expected) :
    WorldOk (w.publishStep i expected candidate stage) := by
  have hcall := hok.calls i _ hold
  cases stage with
  | locking =>
    simp only [SlotWorld.publishStep]
    split
    · next hgate =>
      refine hok.moveGate hold (Or.inl hgate) _ ?_ rfl rfl
      exact callOk_gate rfl (by rw [gate_setGate, if_pos rfl]) rfl rfl rfl nofun nofun rfl
    · exact hok
  | checking =>
    have hgate := hcall.gate candidate rfl
    refine hok.moveCall hold ?_ rfl rfl
    split
    · next hready =>
      refine ⟨hcall.gate, ?_, nofun, nofun, nofun, nofun, rfl⟩
      rintro q ⟨⟩
      exact hready
    · exact callOk_gate rfl hgate rfl rfl rfl nofun nofun rfl
  | swapping =>
    have hgate := hcall.gate candidate rfl
    have hready := hcall.ready candidate rfl
    simp only [SlotWorld.publishStep]
    split
    · next hslot =>
      -- What the slot held is active by now: were it ready, its own publication would still have to open it.
      have hprevious : ∀ q, expected = some q → (w.snapshot q).state ≠ .ready := by
        rintro q rfl hq
        obtain ⟨j, c, hc, hwindow⟩ := hok.slot q hslot hq
        exact hreplaces rfl hslot nofun c (List.mem_of_getElem? hc) hwindow
      refine hok.advance _ hold rfl ?_ ?_ ?_ ?_
      · intro j c _ hc hj
        refine hj.setSlot hready ?_
        intro x hx
        rw [hx] at hslot
        subst hslot
        exact hreplaces rfl hx nofun c (List.mem_of_getElem? hc)
      · refine ⟨hcall.gate, hcall.ready, nofun, fun _ hq => hq, ?_, nofun, rfl⟩
        intro q hq
        refine ⟨hprevious q hq, ?_⟩
        rintro ⟨⟩
        exact hprevious candidate hq hready
      · intro x hx _
        exact Or.inl hx
      · intro x hx
        exact Or.inr (Or.inr ⟨hx, rfl, nofun⟩)
    · exact hok.moveCall hold (callOk_gate rfl hgate rfl rfl rfl nofun nofun rfl) rfl rfl
  | activating previous =>
    have hgate := hcall.gate candidate rfl
    have hready := hcall.ready candidate rfl
    simp only [SlotWorld.publishStep]
    rw [if_pos hready]
    refine hok.moveState hold (free_of_gate hgate) nofun ?_ ?_ rfl ?_
    · refine ⟨?_, nofun, ?_, ?_, ?_, nofun, rfl⟩
      · intro q hq
        rw [gate_setState]
        exact hcall.gate q hq
      · rintro q ⟨⟩
        rw [state_setState, if_pos rfl]
      · intro q hq
        exact hcall.window q hq
      · intro q hq
        obtain ⟨hstate, hslot⟩ := hcall.previous q hq
        refine ⟨?_, hslot⟩
        rw [state_setState]
        split
        · exact nofun
        · exact hstate
    · intro x hne heq
      exact hne (Option.some.inj heq).symm
    · intro _
      exact Or.inl rfl
  | restoring previous => cases hcall.activated
  | opening previous =>
    have hgate := hcall.gate candidate rfl
    have hactive := hcall.active candidate rfl
    simp only [SlotWorld.publishStep]
    refine hok.advance _ hold rfl ?_ ?_ ?_ ?_
    · intro j c hne _ hj
      exact hj.setRouting fun _ htorn => not_holds hj hne (Or.inr hgate) (holds_of_torn htorn)
    · have hprevious : ∀ q, previous = some q →
          ((w.setRouting candidate true).snapshot q).state ≠ .ready ∧ (w.setRouting candidate true).slot ≠ some q := by
        intro q hq
        rw [state_setRouting]
        exact hcall.previous q hq
      have hheld : ((w.setRouting candidate true).snapshot candidate).gate = some i := by
        rw [gate_setRouting]
        exact hgate
      cases previous with
      | none => exact callOk_gate rfl hheld rfl rfl rfl nofun nofun rfl
      | some q => exact callOk_gate rfl hheld rfl rfl rfl hprevious nofun rfl
    · intro x hx hready
      rw [state_setRouting] at hready
      refine Or.inr ⟨hx, hready, ?_⟩
      rintro ⟨⟩
      rw [hactive] at hready
      cases hready
    · intro x hx
      rw [state_setRouting]
      rw [routing_setRouting] at hx
      split at hx
      · next heq =>
        subst heq
        exact Or.inl hactive
      · exact Or.inr (Or.inr ⟨hx, rfl, nofun⟩)
  | quiescing p stage =>
    have hprevious := hcall.previous p rfl
    simp only [SlotWorld.publishStep]
    refine worldOk_quiesce hok (fun q => .publish expected candidate (.quiescing p q)) hold (fun _ => rfl) ?_
      (fun _ => ⟨rfl, rfl⟩) (fun w q q' h => ⟨h.gate, nofun, nofun, nofun, h.previous, nofun, rfl⟩)
      (fun j c _ hj => free_of_replaced hprevious j c hj) (fun h => ⟨h.gate, nofun, nofun, nofun, h.previous, nofun, rfl⟩)
    intro q
    cases q with
    | loading => rfl
    | exchanging _ => rfl
    | closing => rfl
  | unlocking previous =>
    have hgate := hcall.gate candidate rfl
    simp only [SlotWorld.publishStep]
    refine hok.moveGate hold (Or.inr hgate) none ?_ rfl rfl
    cases previous with
    | none => exact callOk_free rfl rfl rfl
    | some q => exact callOk_free rfl rfl rfl
  | refusing =>
    have hgate := hcall.gate candidate rfl
    exact hok.moveGate hold (Or.inr hgate) none (callOk_free rfl rfl rfl) rfl rfl

theorem worldOk_disposeStep (hok : WorldOk w) {stage : DisposeStage} (hold : w.calls[i]? = some (.dispose p stage))
    (outcome : DisposeOutcome) : WorldOk (w.disposeStep i p outcome stage) := by
  have hcall := hok.calls i _ hold
  cases stage with
  | locking =>
    simp only [SlotWorld.disposeStep]
    split
    · next hgate =>
      refine hok.moveGate hold (Or.inl hgate) _ ?_ rfl rfl
      exact callOk_gate rfl (by rw [gate_setGate, if_pos rfl]) rfl rfl rfl nofun nofun rfl
    · exact hok
  | reporting =>
    have hgate := hcall.gate p rfl
    simp only [SlotWorld.disposeStep]
    split
    · exact hok.moveGate hold (Or.inr hgate) none (callOk_free rfl rfl rfl) rfl rfl
    · exact hok.moveCall hold (callOk_gate rfl hgate rfl rfl rfl nofun nofun rfl) rfl rfl
  | quiescing stage =>
    have hgate := hcall.gate p rfl
    simp only [SlotWorld.disposeStep]
    refine worldOk_quiesce hok (fun q => .dispose p (.quiescing q)) hold (fun _ => rfl) ?_ (fun _ => ⟨rfl, rfl⟩)
      (fun w q q' h => ⟨h.gate, nofun, nofun, nofun, nofun, nofun, rfl⟩) (free_of_gate hgate) ?_
    · intro q
      cases q with
      | loading => rfl
      | exchanging _ => rfl
      | closing => rfl
    · intro h
      refine ⟨h.gate, nofun, nofun, nofun, nofun, ?_, rfl⟩
      rintro q ⟨⟩
      rw [routing_setRouting, if_pos rfl]
  | draining =>
    have hgate := hcall.gate p rfl
    have hclosed := hcall.drained p rfl
    refine hok.moveState hold (free_of_gate hgate) (fun h => by cases h) ?_ (fun _ _ h => by cases h) rfl ?_
    · refine callOk_gate rfl (by rw [gate_setState]; exact hgate) rfl rfl rfl (fun _ h => by cases h) ?_ rfl
      rintro q ⟨⟩
      rw [routing_setState]
      exact hclosed
    · rw [hclosed]
      exact fun h => absurd h Bool.false_ne_true
  | tearing =>
    have hgate := hcall.gate p rfl
    have hclosed := hcall.drained p rfl
    refine hok.moveState hold (free_of_gate hgate) ?_ ?_ (fun _ _ h => by cases h) rfl ?_
    · cases outcome with
      | failed => exact fun h => by cases h
      | disposed => exact fun h => by cases h
    · refine callOk_gate rfl (by rw [gate_setState]; exact hgate) rfl rfl rfl (fun _ h => by cases h) ?_ rfl
      rintro q ⟨⟩
      rw [routing_setState]
      exact hclosed
    · rw [hclosed]
      exact fun h => absurd h Bool.false_ne_true
  | writing outcome =>
    have hgate := hcall.gate p rfl
    let f : SnapshotCell → SnapshotCell := fun s => { s with report := some outcome }
    have hreported : ∀ q, ((w.modify p f).snapshot q).gate = (w.snapshot q).gate ∧
        ((w.modify p f).snapshot q).state = (w.snapshot q).state ∧
          ((w.modify p f).snapshot q).routing = (w.snapshot q).routing := fun q =>
      ⟨kept_modify gate (f := f) (fun _ => rfl) w p q, kept_modify state (f := f) (fun _ => rfl) w p q,
        kept_modify routing (f := f) (fun _ => rfl) w p q⟩
    refine hok.advance ((w.modify p f).setGate p none) hold rfl ?_ (callOk_free rfl rfl rfl) ?_ ?_
    · intro j c hne _ hj
      have hkept : CallOk (w.modify p f) j c :=
        hj.congr (fun q => (hreported q).1) (fun q => (hreported q).2.1) (fun q => (hreported q).2.2) rfl
      exact hkept.setGate (not_holds hj hne (Or.inr hgate)) none
    · intro x hx hready
      rw [state_setGate, (hreported x).2.1] at hready
      exact Or.inr ⟨hx, hready, fun h => by cases h⟩
    · intro x hx
      rw [routing_setGate, (hreported x).2.2] at hx
      rw [state_setGate, (hreported x).2.1]
      exact Or.inr (Or.inr ⟨hx, rfl, fun h => by cases h⟩)

/-- A new call waits for a gate. -/
theorem worldOk_start (hok : WorldOk w) {c : SlotCall} (hc : CallOk w w.calls.length c) :
    WorldOk { w with calls := w.calls ++ [c] } := by
  have hkeep : ∀ {j : CallId} {d : SlotCall}, w.calls[j]? = some d → (w.calls ++ [c])[j]? = some d := by
    intro j d hd
    rw [List.getElem?_append_left (List.getElem?_eq_some_iff.mp hd).1]
    exact hd
  refine ⟨?_, ?_, ?_⟩
  · intro j d hd
    rw [List.getElem?_append] at hd
    split at hd
    · exact (hok.calls j d hd).congr (fun _ => rfl) (fun _ => rfl) (fun _ => rfl) rfl
    · next hge =>
      rw [List.getElem?_singleton] at hd
      split at hd
      · next hzero =>
        cases hd
        have hj : j = w.calls.length := Nat.le_antisymm (Nat.sub_eq_zero_iff_le.mp hzero) (Nat.not_lt.mp hge)
        subst hj
        exact hc.congr (fun _ => rfl) (fun _ => rfl) (fun _ => rfl) rfl
      · cases hd
  · intro x hx hready
    obtain ⟨j, d, hd, hwindow⟩ := hok.slot x hx hready
    exact ⟨j, d, hkeep hd, hwindow⟩
  · intro x hx
    rcases hok.closed x hx with hactive | ⟨j, d, hd, hcloses⟩
    · exact Or.inl hactive
    · exact Or.inr ⟨j, d, hkeep hd, hcloses⟩

theorem worldOk_step (hok : WorldOk w) {l : SlotStep} (hreplaces : w.ReplacesOpened l) : WorldOk (w.step l) := by
  cases l with
  | publish expected candidate => exact worldOk_start hok (callOk_free rfl rfl rfl)
  | dispose p => exact worldOk_start hok (callOk_free rfl rfl rfl)
  | run i outcome =>
    unfold SlotWorld.step
    simp only
    split
    · next expected candidate stage hold =>
      refine worldOk_publishStep hok hold ?_
      rintro rfl
      exact hreplaces expected (by rw [hold]; rfl)
    · next p stage hold => exact worldOk_disposeStep hok hold outcome
    · exact hok
  | cancel i =>
    unfold SlotWorld.step
    simp only
    split
    · next hold => exact hok.moveCall hold (callOk_free rfl rfl rfl) rfl rfl
    · next hold => exact hok.moveCall hold (callOk_free rfl rfl rfl) rfl rfl
    · next p hold =>
      exact hok.moveGate hold (Or.inr ((hok.calls i _ hold).gate p rfl)) none (callOk_free rfl rfl rfl) rfl rfl
    · next p hold =>
      exact hok.moveGate hold (Or.inr ((hok.calls i _ hold).gate p rfl)) none (callOk_free rfl rfl rfl) rfl rfl
    · exact hok

theorem worldOk_atRest (hrest : w.AtRest) : WorldOk w := by
  have hnone : ∀ (i : CallId) (c : SlotCall), w.calls[i]? ≠ some c := by
    intro i c hc
    rw [hrest.calls] at hc
    cases hc
  refine ⟨fun i c hc => absurd hc (hnone i c), ?_, fun x hx => Or.inl (hrest.routing x hx)⟩
  intro x hx hready
  rw [hrest.slot x hx] at hready
  cases hready

theorem dyingClosed_of_worldOk (hok : WorldOk w) : w.DyingClosed := by
  intro x hdying hrouting
  rcases hok.closed x hrouting with hactive | ⟨i, c, hc, hcloses⟩
  · exact absurd hactive hdying.2
  · exact ⟨c, List.mem_of_getElem? hc, hcloses⟩

end Steps

/-! ## The slot -/

section Live

variable {w : SlotWorld} {i : CallId} {new : SlotCall} {p : Ptr}

/-- The snapshot that a disposal has begun with. -/
def begun : SlotCall → Option Ptr
  | .dispose p (.quiescing _) | .dispose p .draining | .dispose p .tearing | .dispose p (.writing _) => some p
  | _ => none

theorem holds_of_begun {c : SlotCall} {q : Ptr} (h : begun c = some q) : c.holds = some q := by
  unfold begun at h
  split at h
  · exact h
  · exact h
  · exact h
  · exact h
  · cases h

/-- The snapshot in the slot is not dying, and no disposal of it has begun. -/
structure LiveOk (w : SlotWorld) : Prop where
  slot : ∀ x, w.slot = some x → ¬(w.snapshot x).state.Dying
  calls : ∀ (i : CallId) (c : SlotCall), w.calls[i]? = some c → ∀ q, begun c = some q → w.slot ≠ some q

/-- One call moves on and the slot stays. -/
theorem LiveOk.moveOn (hlive : LiveOk w) (w' : SlotWorld) (hcalls : w'.calls = w.calls) (hslot : w'.slot = w.slot)
    (hstate : ∀ x, w.slot = some x → ¬(w'.snapshot x).state.Dying) (hnew : ∀ q, begun new = some q → w.slot ≠ some q) :
    LiveOk (w'.setCall i new) := by
  refine ⟨?_, ?_⟩
  · intro x hx
    exact hstate x (hslot ▸ hx)
  · intro j c hc q hq
    show w'.slot ≠ some q
    rw [hslot]
    rcases get_setCall hc with ⟨rfl, rfl⟩ | ⟨-, hc⟩
    · exact hnew q hq
    · rw [hcalls] at hc
      exact hlive.calls j c hc q hq

/-- The steps of `begin_quiesce` on a snapshot that is not in the slot. -/
theorem liveOk_quiesce (hlive : LiveOk w) {stage : QuiesceStage} (call : QuiesceStage → SlotCall) {done : SlotCall}
    (hp : w.slot ≠ some p) (hcall : ∀ q r, begun (call q) = some r → w.slot ≠ some r)
    (hdone : ∀ r, begun done = some r → w.slot ≠ some r) : LiveOk (match w.quiesceStep p stage with
      | (w', some stage') => w'.setCall i (call stage')
      | (w', none) => w'.setCall i done) := by
  cases stage with
  | loading => exact hlive.moveOn _ rfl rfl hlive.slot (hcall _)
  | exchanging seen =>
    by_cases hseen : (w.snapshot p).state = seen
    · simp only [SlotWorld.quiesceStep, if_pos hseen]
      refine hlive.moveOn _ rfl rfl ?_ (hcall _)
      intro x hx
      rw [state_setState, if_neg (by rintro rfl; exact hp hx)]
      exact hlive.slot x hx
    · simp only [SlotWorld.quiesceStep, if_neg hseen]
      exact hlive.moveOn _ rfl rfl hlive.slot (hcall _)
  | closing =>
    refine hlive.moveOn (w.setRouting p false) rfl rfl ?_ hdone
    intro x hx
    rw [state_setRouting]
    exact hlive.slot x hx

theorem liveOk_publishStep (hok : WorldOk w) (hlive : LiveOk w) {expected : Option Ptr} {candidate : Ptr}
    {stage : PublishStage} (hold : w.calls[i]? = some (.publish expected candidate stage)) :
    LiveOk (w.publishStep i expected candidate stage) := by
  have hcall := hok.calls i _ hold
  have hgate : ∀ g x, w.slot = some x → ¬((w.setGate candidate g).snapshot x).state.Dying := by
    intro g x hx
    rw [state_setGate]
    exact hlive.slot x hx
  cases stage with
  | locking =>
    simp only [SlotWorld.publishStep]
    split
    · exact hlive.moveOn (w.setGate candidate (some i)) rfl rfl (hgate _) nofun
    · exact hlive
  | checking =>
    refine hlive.moveOn _ rfl rfl hlive.slot ?_
    split
    · exact nofun
    · exact nofun
  | swapping =>
    have hready := hcall.ready candidate rfl
    simp only [SlotWorld.publishStep]
    split
    · refine ⟨?_, ?_⟩
      · rintro x ⟨⟩ hdying
        exact hdying.1 hready
      · intro j c hc q hq
        rintro ⟨⟩
        rcases get_setCall hc with ⟨rfl, rfl⟩ | ⟨hne, hc⟩
        · cases hq
        · exact not_holds (hok.calls j c hc) hne (Or.inr (hcall.gate candidate rfl)) (holds_of_begun hq)
    · exact hlive.moveOn _ rfl rfl hlive.slot nofun
  | activating previous =>
    simp only [SlotWorld.publishStep]
    rw [if_pos (hcall.ready candidate rfl)]
    refine hlive.moveOn (w.setState candidate .active) rfl rfl ?_ nofun
    intro x hx
    rw [state_setState]
    split
    · exact fun hdying => hdying.2 rfl
    · exact hlive.slot x hx
  | restoring previous => cases hcall.activated
  | opening previous =>
    simp only [SlotWorld.publishStep]
    refine hlive.moveOn (w.setRouting candidate true) rfl rfl ?_ ?_
    · intro x hx
      rw [state_setRouting]
      exact hlive.slot x hx
    · cases previous with
      | none => exact nofun
      | some q => exact nofun
  | quiescing p stage =>
    exact liveOk_quiesce hlive (fun q => .publish expected candidate (.quiescing p q)) (hcall.previous p rfl).2
      (fun _ => nofun) nofun
  | unlocking previous =>
    simp only [SlotWorld.publishStep]
    refine hlive.moveOn (w.setGate candidate none) rfl rfl (hgate _) ?_
    cases previous with
    | none => exact nofun
    | some q => exact nofun
  | refusing => exact hlive.moveOn (w.setGate candidate none) rfl rfl (hgate _) nofun

theorem liveOk_disposeStep (hlive : LiveOk w) {stage : DisposeStage} (hold : w.calls[i]? = some (.dispose p stage))
    (hspares : stage = .reporting → (w.snapshot p).report = none → w.slot ≠ some p) (outcome : DisposeOutcome) :
    LiveOk (w.disposeStep i p outcome stage) := by
  have hgate : ∀ g x, w.slot = some x → ¬((w.setGate p g).snapshot x).state.Dying := by
    intro g x hx
    rw [state_setGate]
    exact hlive.slot x hx
  have hbegun : ∀ {c : SlotCall}, begun c = some p → w.slot ≠ some p → ∀ q, begun c = some q → w.slot ≠ some q := by
    intro c hc hp q hq
    rw [hc] at hq
    cases hq
    exact hp
  have hstate : w.slot ≠ some p → ∀ s x, w.slot = some x → ¬((w.setState p s).snapshot x).state.Dying := by
    intro hp s x hx
    rw [state_setState, if_neg (by rintro rfl; exact hp hx)]
    exact hlive.slot x hx
  cases stage with
  | locking =>
    simp only [SlotWorld.disposeStep]
    split
    · exact hlive.moveOn (w.setGate p (some i)) rfl rfl (hgate _) nofun
    · exact hlive
  | reporting =>
    simp only [SlotWorld.disposeStep]
    split
    · exact hlive.moveOn (w.setGate p none) rfl rfl (hgate _) nofun
    · next hreport => exact hlive.moveOn _ rfl rfl hlive.slot (hbegun rfl (hspares rfl hreport))
  | quiescing stage =>
    have hp := hlive.calls i _ hold p rfl
    exact liveOk_quiesce hlive (fun q => .dispose p (.quiescing q)) hp (fun _ => hbegun rfl hp) (hbegun rfl hp)
  | draining =>
    have hp := hlive.calls i _ hold p rfl
    exact hlive.moveOn (w.setState p .disposing) rfl rfl (hstate hp _) (hbegun rfl hp)
  | tearing =>
    have hp := hlive.calls i _ hold p rfl
    exact hlive.moveOn (w.setState p _) rfl rfl (hstate hp _) (hbegun rfl hp)
  | writing outcome =>
    refine hlive.moveOn ((w.modify p (fun s => { s with report := some outcome })).setGate p none) rfl rfl ?_ nofun
    intro x hx
    rw [state_setGate, kept_modify state (f := fun s => { s with report := some outcome }) (fun _ => rfl)]
    exact hlive.slot x hx

theorem liveOk_start (hlive : LiveOk w) {c : SlotCall} (hc : begun c = none) : LiveOk { w with calls := w.calls ++ [c] } := by
  refine ⟨hlive.slot, ?_⟩
  intro j d hd q hq
  rw [List.getElem?_append] at hd
  split at hd
  · exact hlive.calls j d hd q hq
  · rw [List.getElem?_singleton] at hd
    split at hd
    · cases hd
      rw [hc] at hq
      cases hq
    · cases hd

theorem liveOk_step (hok : WorldOk w) (hlive : LiveOk w) {l : SlotStep} (hspares : w.SparesCurrent l) : LiveOk (w.step l) := by
  have hgate : ∀ p x, w.slot = some x → ¬((w.setGate p none).snapshot x).state.Dying := by
    intro p x hx
    rw [state_setGate]
    exact hlive.slot x hx
  cases l with
  | publish expected candidate => exact liveOk_start hlive rfl
  | dispose p => exact liveOk_start hlive rfl
  | run i outcome =>
    unfold SlotWorld.step
    simp only
    split
    · next expected candidate stage hold => exact liveOk_publishStep hok hlive hold
    · next p stage hold =>
      refine liveOk_disposeStep hlive hold ?_ outcome
      rintro rfl
      exact hspares p (by rw [hold]; rfl)
    · exact hlive
  | cancel i =>
    unfold SlotWorld.step
    simp only
    split
    · exact hlive.moveOn _ rfl rfl hlive.slot nofun
    · exact hlive.moveOn _ rfl rfl hlive.slot nofun
    · next p _ => exact hlive.moveOn (w.setGate p none) rfl rfl (hgate p) nofun
    · next p _ => exact hlive.moveOn (w.setGate p none) rfl rfl (hgate p) nofun
    · exact hlive

theorem liveOk_atRest (hrest : w.AtRest) : LiveOk w := by
  refine ⟨?_, ?_⟩
  · intro x hx hdying
    exact hdying.2 (hrest.slot x hx)
  · intro i c hc
    rw [hrest.calls] at hc
    cases hc

end Live

end SlotAux

end Rho
