import Mathlib.Order.Defs.Unbundled
import Mathlib.Tactic.Common

/-!
# Computations with a state that may fail

`EStateM` keeps the state that a computation had reached when it failed. Rules for what every way through a computation keeps of
the state, and inversion of a computation that succeeds.
-/

namespace Effect

variable {ε σ γ α β : Type}

/-- The state in which a computation ended, by a result or by an error. -/
def final : EStateM.Result ε σ α → σ
  | .ok _ s => s
  | .error _ s => s

/-- The rest of a computation, unless it failed before. -/
def attempt (fault : Option ε) : EStateM ε σ Unit :=
  match fault with
  | some e => throw e
  | none => pure ()

/-- The result of a computation without state. -/
def ofResult (x : Except ε α) : EStateM ε σ α :=
  match x with
  | .ok a => pure a
  | .error e => throw e

/-- A computation and what is done at either of its ends; the state that it has reached stays. -/
def handle {δ : Type} (x : EStateM ε σ α) (onOk : α → EStateM δ σ β) (onError : ε → EStateM δ σ β) : EStateM δ σ β :=
  fun s =>
    match x s with
    | .ok a t => onOk a t
    | .error e t => onError e t

/-! ## What every way through a computation keeps -/

/-- The computation leaves `f` of the state as it was, whether it succeeds or fails. -/
def Keeps (f : σ → γ) (x : EStateM ε σ α) : Prop := ∀ s, f (final (x s)) = f s

theorem keeps_pure (f : σ → γ) (a : α) : Keeps f (pure a : EStateM ε σ α) := fun _ => rfl

theorem keeps_throw (f : σ → γ) (e : ε) : Keeps f (throw e : EStateM ε σ α) := fun _ => rfl

theorem keeps_get (f : σ → γ) : Keeps f (get : EStateM ε σ σ) := fun _ => rfl

/-- A computation that looks at its state. -/
theorem keeps_looking {f : σ → γ} {g : σ → EStateM ε σ α} (h : ∀ s, f (final (g s s)) = f s) : Keeps f (get >>= g) := h

theorem keeps_attempt (f : σ → γ) (fault : Option ε) : Keeps f (attempt fault) := by
  cases fault with
  | some e => exact keeps_throw f e
  | none => exact keeps_pure f ()

theorem keeps_ofResult (f : σ → γ) (x : Except ε α) : Keeps f (ofResult x) := by
  cases x with
  | ok a => exact keeps_pure f a
  | error e => exact keeps_throw f e

theorem keeps_modify {f : σ → γ} {g : σ → σ} (h : ∀ s, f (g s) = f s) : Keeps f (modify g : EStateM ε σ PUnit) :=
  fun s => h s

theorem keeps_modifyGet {f : σ → γ} {g : σ → α × σ} (h : ∀ s, f (g s).2 = f s) :
    Keeps f (modifyGet g : EStateM ε σ α) := fun s => h s

theorem keeps_bind {f : σ → γ} {x : EStateM ε σ α} {g : α → EStateM ε σ β} (hx : Keeps f x) (hg : ∀ a, Keeps f (g a)) :
    Keeps f (x >>= g) := by
  intro s
  have hs := hx s
  change f (final (EStateM.bind x g s)) = f s
  unfold EStateM.bind
  cases h : x s with
  | ok a t =>
    rw [h] at hs
    rw [← show f t = f s from hs]
    exact hg a t
  | error e t =>
    rw [h] at hs
    exact hs

/-! ## How every way through a computation moves the state -/

/-- The state that the computation ends in is related to the one it starts in, whether it succeeds or fails. -/
def Moves (R : σ → σ → Prop) (x : EStateM ε σ α) : Prop := ∀ s, R s (final (x s))

section Moves

variable {R : σ → σ → Prop}

theorem moves_of_keeps {f : σ → γ} (h : ∀ s t, f t = f s → R s t) {x : EStateM ε σ α} (hx : Keeps f x) : Moves R x :=
  fun s => h s _ (hx s)

theorem moves_modify {g : σ → σ} (h : ∀ s, R s (g s)) : Moves R (modify g : EStateM ε σ PUnit) := h

variable [Std.Refl R]

theorem moves_pure (a : α) : Moves R (pure a : EStateM ε σ α) := fun s => Std.Refl.refl s

theorem moves_throw (e : ε) : Moves R (throw e : EStateM ε σ α) := fun s => Std.Refl.refl s

theorem moves_get : Moves R (get : EStateM ε σ σ) := fun s => Std.Refl.refl s

theorem moves_attempt (fault : Option ε) : Moves R (attempt fault) := by
  cases fault with
  | some e => exact moves_throw e
  | none => exact moves_pure ()

theorem moves_ofResult (x : Except ε α) : Moves R (ofResult x) := by
  cases x with
  | ok a => exact moves_pure a
  | error e => exact moves_throw e

theorem moves_bind [IsTrans σ R] {x : EStateM ε σ α} {g : α → EStateM ε σ β} (hx : Moves R x) (hg : ∀ a, Moves R (g a)) :
    Moves R (x >>= g) := by
  intro s
  have hs := hx s
  change R s (final (EStateM.bind x g s))
  unfold EStateM.bind
  cases h : x s with
  | ok a t =>
    rw [h] at hs
    exact IsTrans.trans s t _ hs (hg a t)
  | error e t =>
    rw [h] at hs
    exact hs

theorem moves_handle [IsTrans σ R] {δ : Type} {x : EStateM ε σ α} {onOk : α → EStateM δ σ β} {onError : ε → EStateM δ σ β}
    (hx : Moves R x) (hok : ∀ a, Moves R (onOk a)) (herror : ∀ e, Moves R (onError e)) : Moves R (handle x onOk onError) := by
  intro s
  have hs := hx s
  unfold handle
  cases h : x s with
  | ok a t =>
    rw [h] at hs
    exact IsTrans.trans s t _ hs (hok a t)
  | error e t =>
    rw [h] at hs
    exact IsTrans.trans s t _ hs (herror e t)

end Moves

/-! ## Where a computation ends -/

/-- The computation succeeded, with a result and a state of which this holds. -/
def succeeds (p : α → σ → Bool) : EStateM.Result ε σ α → Bool
  | .ok a s => p a s
  | .error _ _ => false

theorem of_succeeds {p : α → σ → Bool} {x : EStateM.Result ε σ α} (h : succeeds p x = true) : ∃ a s, x = .ok a s ∧ p a s = true := by
  cases x with
  | ok a s => exact ⟨a, s, rfl, h⟩
  | error e s => cases h

/-- The computation failed. -/
def fails : EStateM.Result ε σ α → Bool
  | .ok _ _ => false
  | .error _ _ => true

theorem of_fails {x : EStateM.Result ε σ α} (h : fails x = true) : ∃ e s, x = .error e s := by
  cases x with
  | ok a s => cases h
  | error e s => exact ⟨e, s, rfl⟩

theorem final_ofResult (x : Except ε α) (s : σ) : final (ofResult x s) = s := by
  cases x with
  | ok a => rfl
  | error e => rfl

/-! ## Conditions on both ends -/

/-- A result ends with a value and a state that satisfy one condition, or with an error and a state that satisfy another. -/
def Ends (Q : α → σ → Prop) (E : ε → σ → Prop) : EStateM.Result ε σ α → Prop
  | .ok a s => Q a s
  | .error e s => E e s

variable {r : EStateM.Result ε σ α} {Q : α → σ → Prop} {E : ε → σ → Prop} {x : EStateM ε σ α} {g : α → EStateM ε σ β} {s : σ}
  {P : α → σ → Prop} {t : σ} {F : ε → σ → Prop} {fault : Option ε} {b : Bool} {Good : σ → Prop} {a : α}

theorem ends_of_forall (hQ : ∀ a s, Q a s) (hE : ∀ e s, E e s) : Ends Q E r := by
  cases r with
  | ok a s => exact hQ a s
  | error e s => exact hE e s

theorem ends_bind {Q : β → σ → Prop} (hx : Ends P E (x s)) (hg : ∀ a t, P a t → Ends Q E (g a t)) : Ends Q E ((x >>= g) s) := by
  change Ends Q E (EStateM.bind x g s)
  unfold EStateM.bind
  cases h : x s with
  | ok a t =>
    rw [h] at hx
    exact hg a t hx
  | error e t =>
    rw [h] at hx
    exact hx

theorem ends_handle {δ : Type} {onOk : α → EStateM δ σ β} {onError : ε → EStateM δ σ β}
    {R : ε → σ → Prop} {Q : β → σ → Prop} {E : δ → σ → Prop} (hx : Ends P R (x s))
    (hok : ∀ a t, P a t → Ends Q E (onOk a t)) (herror : ∀ e t, R e t → Ends Q E (onError e t)) :
    Ends Q E (handle x onOk onError s) := by
  unfold handle
  cases h : x s with
  | ok a t =>
    rw [h] at hx
    exact hok a t hx
  | error e t =>
    rw [h] at hx
    exact herror e t hx

theorem ends_ofResult {x : Except ε α} (hQ : ∀ a, x = .ok a → Q a s)
    (hE : ∀ e, x = .error e → E e s) : Ends Q E (ofResult x s) := by
  cases x with
  | ok a => exact hQ a rfl
  | error e => exact hE e rfl

/-- A computation that looks at its state. -/
theorem ends_get {f : σ → EStateM ε σ α} (h : Ends Q E (f s s)) : Ends Q E (((get : EStateM ε σ σ) >>= f) s) := h

theorem ends_modify {g : σ → σ} {Q : PUnit → σ → Prop} (h : Q ⟨⟩ (g s)) : Ends Q E ((modify g : EStateM ε σ PUnit) s) := h

theorem ends_set {Q : PUnit → σ → Prop} (h : Q ⟨⟩ t) : Ends Q E ((set t : EStateM ε σ PUnit) s) := h

/-- What a computation keeps holds at both of its ends. -/
theorem ends_of_keeps {f : σ → γ} (h : Keeps f x) (s : σ) : Ends (fun _ t => f t = f s) (fun _ t => f t = f s) (x s) := by
  have hs := h s
  cases hx : x s with
  | ok a t =>
    rw [hx] at hs
    exact hs
  | error e t =>
    rw [hx] at hs
    exact hs

/-- Where a computation leads holds at both of its ends. -/
theorem ends_of_moves {R : σ → σ → Prop} (h : Moves R x) (s : σ) : Ends (fun _ t => R s t) (fun _ t => R s t) (x s) := by
  have hs := h s
  cases hx : x s with
  | ok a t =>
    rw [hx] at hs
    exact hs
  | error e t =>
    rw [hx] at hs
    exact hs

theorem Ends.mono (h : Ends P E r) (hQ : ∀ a s, P a s → Q a s) (hF : ∀ e s, E e s → F e s) : Ends Q F r := by
  cases r with
  | ok a s => exact hQ a s h
  | error e s => exact hF e s h

/-- Two conditions on the ends of one computation. -/
theorem Ends.and (h : Ends P E r) (h' : Ends Q F r) : Ends (fun a s => P a s ∧ Q a s) (fun e s => E e s ∧ F e s) r := by
  cases r with
  | ok a s => exact ⟨h, h'⟩
  | error e s => exact ⟨h, h'⟩

/-- A condition that both ends satisfy holds of the state that is reached. -/
theorem final_of_ends {P : σ → Prop} (h : Ends (fun _ s => P s) (fun _ s => P s) r) : P (final r) := by
  cases r with
  | ok a s => exact h
  | error e s => exact h

theorem ends_attempt {Q : Unit → σ → Prop} (hQ : fault = none → Q () s)
    (hE : ∀ e, fault = some e → E e s) : Ends Q E (attempt fault s) := by
  cases fault with
  | none => exact hQ rfl
  | some e => exact hE e rfl

theorem Ends.onError (h : Ends P E r) (hF : ∀ e s, E e s → F e s) : Ends P F r := h.mono (fun _ _ h => h) hF

/-- A first part that cannot fail. -/
theorem ends_certain {Q : β → σ → Prop} (hx : Ends P (fun _ _ => False) (x s)) (hg : ∀ a t, P a t → Ends Q E (g a t)) :
    Ends Q E ((x >>= g) s) := ends_bind (hx.onError fun _ _ h => h.elim) hg

/-- A first part that fails in a way of its own. -/
theorem ends_seq {Q : β → σ → Prop} (hx : Ends P F (x s)) (hE : ∀ e t, F e t → E e t) (hg : ∀ a t, P a t → Ends Q E (g a t)) :
    Ends Q E ((x >>= g) s) := ends_bind (hx.onError hE) hg

theorem ends_attempt_bind {Q : β → σ → Prop} {g : Unit → EStateM ε σ β} (hE : ∀ e, fault = some e → E e s)
    (hg : fault = none → Ends Q E (g () s)) : Ends Q E ((attempt fault >>= g) s) := by
  refine ends_bind (P := fun _ t => fault = none ∧ t = s) (ends_attempt (fun h => ⟨h, rfl⟩) hE) ?_
  rintro _ _ ⟨h, rfl⟩
  exact hg h

theorem ends_ofResult_bind {Q : β → σ → Prop} {x : Except ε α} (hE : ∀ e, x = .error e → E e s)
    (hg : ∀ a, x = .ok a → Ends Q E (g a s)) : Ends Q E ((ofResult x >>= g) s) := by
  refine ends_bind (P := fun a t => x = .ok a ∧ t = s) (ends_ofResult (fun _ h => ⟨h, rfl⟩) hE) ?_
  rintro a _ ⟨h, rfl⟩
  exact hg a h

/-! ## Computations that fail when something says so -/

/-- The computation fails exactly when `b` holds. -/
def FailsWhen (b : Bool) (Q : α → σ → Prop) (E : ε → σ → Prop) : EStateM.Result ε σ α → Prop :=
  Ends (fun a s => b = false ∧ Q a s) (fun e s => b = true ∧ E e s)

theorem failsWhen_fails (h : Ends Q E r) : FailsWhen (fails r) Q E r := by
  cases r with
  | ok a s => exact ⟨rfl, h⟩
  | error e s => exact ⟨rfl, h⟩

theorem failsWhen_attempt {Q : Unit → σ → Prop} (hQ : Q () s) (hE : ∀ e, E e s) :
    FailsWhen fault.isSome Q E (attempt fault s) := by
  cases fault with
  | none => exact ⟨rfl, hQ⟩
  | some e => exact ⟨rfl, hE e⟩

theorem failsWhen_ofResult {x : Except ε α} (hQ : ∀ a, x = .ok a → Q a s) (hE : ∀ e, E e s) :
    FailsWhen (!x.isOk) Q E (ofResult x s) := by
  cases x with
  | ok a => exact ⟨rfl, hQ a rfl⟩
  | error e => exact ⟨rfl, hE e⟩

theorem failsWhen_modify {g : σ → σ} {Q : PUnit → σ → Prop} (h : Q ⟨⟩ (g s)) :
    FailsWhen false Q E ((modify g : EStateM ε σ PUnit) s) := ⟨rfl, h⟩

/-- Two computations one after the other fail when one of them does. -/
theorem failsWhen_bind {c : Bool} {Q : β → σ → Prop} (hx : FailsWhen b P E (x s)) (hg : ∀ a t, P a t → FailsWhen c Q E (g a t)) :
    FailsWhen (b || c) Q E ((x >>= g) s) := by
  refine ends_bind (P := fun a t => b = false ∧ P a t) (Ends.mono hx (fun _ _ h => h) fun e t h => ⟨by rw [h.1]; rfl, h.2⟩) ?_
  rintro a t ⟨rfl, h⟩
  exact hg a t h

theorem FailsWhen.mono (h : FailsWhen b P E r) (hQ : ∀ a s, P a s → Q a s) (hF : ∀ e s, E e s → F e s) : FailsWhen b Q F r :=
  Ends.mono h (fun a s h => ⟨h.1, hQ a s h.2⟩) fun e s h => ⟨h.1, hF e s h.2⟩

/-- One step of a computation: whether it fails, and whether its failure is cleaned up after. -/
structure Stage where
  fails : Bool
  safe : Bool

/-- The first step that fails is one whose failure is cleaned up after. -/
def failsSafely : List Stage → Bool
  | [] => false
  | stage :: rest => if stage.fails then stage.safe else failsSafely rest

/-- A computation of these steps: when it fails, the state is a good one exactly when the first step that fails is a safe one. -/
def Staged (stages : List Stage) (Q : α → σ → Prop) (Good : σ → Prop) : EStateM.Result ε σ α → Prop :=
  Ends (fun a s => failsSafely stages = false ∧ Q a s) (fun _ s => Good s ↔ failsSafely stages = true)

/-- What no step stands for leaves a good state with no error. -/
theorem staged_nil (h : Ends Q (fun _ s => ¬ Good s) r) : Staged [] Q Good r :=
  h.mono (fun _ _ h => ⟨rfl, h⟩) fun _ _ h => ⟨fun hgood => absurd hgood h, nofun⟩

/-- One step and the others after it. -/
theorem staged_cons {stage : Stage} {rest : List Stage}
    {Q : β → σ → Prop} (hx : FailsWhen stage.fails P (fun _ t => Good t ↔ stage.safe = true) (x s))
    (hg : ∀ a t, P a t → Staged rest Q Good (g a t)) : Staged (stage :: rest) Q Good ((x >>= g) s) := by
  refine ends_bind (P := fun a t => stage.fails = false ∧ P a t) (Ends.mono hx (fun _ _ h => h) ?_) ?_
  · rintro e t ⟨hfails, hgood⟩
    rw [failsSafely, if_pos hfails]
    exact hgood
  · rintro a t ⟨hfails, h⟩
    rw [failsSafely, if_neg (by rw [hfails]; exact Bool.false_ne_true)]
    exact hg a t h

/-- What comes after the steps leaves a good state with no error. -/
theorem staged_bind {stages : List Stage} {Q : β → σ → Prop}
    (hx : Staged stages P Good (x s)) (hg : ∀ a t, P a t → Ends Q (fun _ u => ¬ Good u) (g a t)) :
    Staged stages Q Good ((x >>= g) s) := by
  refine ends_bind (P := fun a t => failsSafely stages = false ∧ P a t) hx ?_
  rintro a t ⟨hdanger, h⟩
  refine (hg a t h).mono (fun _ _ h => ⟨hdanger, h⟩) fun _ _ h => ?_
  rw [hdanger]
  exact ⟨fun hgood => absurd hgood h, nofun⟩

/-! ## Computations that succeed -/

/-- A bind succeeds through a first part and a rest that succeed. -/
theorem bind_ok {b : β} (h : (x >>= g) s = .ok b t) : ∃ a u, x s = .ok a u ∧ g a u = .ok b t := by
  change EStateM.bind x g s = .ok b t at h
  unfold EStateM.bind at h
  cases hx : x s with
  | ok a u =>
    rw [hx] at h
    exact ⟨a, u, rfl, h⟩
  | error e u =>
    rw [hx] at h
    cases h

/-- A computation that goes on after a result. -/
theorem bind_of_ok (h : x s = .ok a t) : (x >>= g) s = g a t := by
  change EStateM.bind x g s = _
  simp only [EStateM.bind, h]

/-- A computation that ends with an error. -/
theorem bind_of_error {e : ε} (h : x s = .error e t) : (x >>= g) s = .error e t := by
  change EStateM.bind x g s = _
  simp only [EStateM.bind, h]

theorem get_ok {a : σ} (h : (get : EStateM ε σ σ) s = .ok a t) : a = s ∧ t = s := by
  cases h
  exact ⟨rfl, rfl⟩

theorem pure_ok {b : α} (h : (pure a : EStateM ε σ α) s = .ok b t) : b = a ∧ t = s := by
  cases h
  exact ⟨rfl, rfl⟩

theorem attempt_ok {a : Unit} (h : attempt fault s = .ok a t) : fault = none ∧ t = s := by
  cases fault with
  | some e => cases h
  | none =>
    cases h
    exact ⟨rfl, rfl⟩

theorem ofResult_ok {x : Except ε α} (h : ofResult x s = .ok a t) : x = .ok a ∧ t = s := by
  cases x with
  | ok b =>
    cases h
    exact ⟨rfl, rfl⟩
  | error e => cases h

end Effect
