import Mathlib.Logic.Relation
import Rho.Lib.Run

/-!
# Programs of atomic actions

A program takes one action after the other on a state that it shares with others. An action carries a label, which tells the others
what it is about, is given an input by the environment and waits as long as it has no outcome. Rules in the manner of rely and guarantee:
what the actions and the ends of a program satisfy when between its actions the state moves only as the program relies on. Programs that
each guarantee what the others rely on can run together.
-/

inductive Proc (L ι σ ε α : Type) : Type 1 where
  | done (a : α)
  | fail (e : ε)
  | act {β : Type} (label : L) (f : ι → σ → Option (β × σ)) (next : β → Proc L ι σ ε α)

namespace Proc

variable {L ι σ ε α β : Type}

protected def bind (x : Proc L ι σ ε α) (g : α → Proc L ι σ ε β) : Proc L ι σ ε β :=
  match x with
  | done a => g a
  | fail e => fail e
  | act l f next => act l f fun b => (next b).bind g

instance : Monad (Proc L ι σ ε) where
  pure := done
  bind := Proc.bind

/-- The outcome of a program, which goes on whatever it is. -/
def attempt (x : Proc L ι σ ε α) : Proc L ι σ ε (Except ε α) :=
  match x with
  | done a => done (.ok a)
  | fail e => done (.error e)
  | act l f next => act l f fun b => (next b).attempt

def ofExcept : Except ε α → Proc L ι σ ε α
  | .ok a => done a
  | .error e => fail e

instance : MonadLift (Except ε) (Proc L ι σ ε) := ⟨ofExcept⟩

/-- One action, which waits until it has an outcome. -/
def await (l : L) (f : ι → σ → Option (α × σ)) : Proc L ι σ ε α := act l f done

/-- One action that may fail, with what it leaves then. -/
def perform (l : L) (f : ι → σ → Except ε α × σ) : Proc L ι σ ε α := act l (fun i s => some (f i s)) ofExcept

/-- One action that only reads. -/
def read (l : L) (f : σ → Except ε α) : Proc L ι σ ε α := perform l fun _ s => (f s, s)

/-- A program and what is done after it at either of its ends, as a guard does when it is dropped. -/
def guarded (l : L) (release : σ → σ) (x : Proc L ι σ ε α) : Proc L ι σ ε α := do
  let result ← x.attempt
  perform l fun _ s => (.ok (), release s)
  ofExcept result

/-- What the program does next, unless it has ended. -/
def label? : Proc L ι σ ε α → Option L
  | act l _ _ => some l
  | _ => none

/-- One action of the program, with its input; nothing while it waits or when it has ended. -/
def step (i : ι) (x : Proc L ι σ ε α) (s : σ) : Proc L ι σ ε α × σ :=
  match x with
  | act _ f next =>
    match f i s with
    | some (b, t) => (next b, t)
    | none => (x, s)
  | _ => (x, s)

/-! ## Rely and guarantee -/

/-- The program from a state on: each of its actions moves the state as guaranteed and its ends meet the conditions, as long as before
each action the state has moved only as relied on. -/
def Meets (R G : L → σ → σ → Prop) (Q : α → σ → Prop) (E : ε → σ → Prop) : Proc L ι σ ε α → σ → Prop
  | done a, s => Q a s
  | fail e, s => E e s
  | act l f next, s => ∀ t, Relation.ReflTransGen (R l) s t → ∀ i b u, f i t = some (b, u) → G l t u ∧ Meets R G Q E (next b) u

section Rules

variable {R G : L → σ → σ → Prop} {P : σ → Prop} {s t : σ}

variable {Q : α → σ → Prop} {E : ε → σ → Prop} {x : Proc L ι σ ε α} {r : Except ε α} {l : L}

theorem Meets.mono {Q' : α → σ → Prop} {E' : ε → σ → Prop} (hQ : ∀ a s, Q a s → Q' a s)
    (hE : ∀ e s, E e s → E' e s) (h : Meets R G Q E x s) : Meets R G Q' E' x s := by
  induction x generalizing s with
  | done a => exact hQ a s h
  | fail e => exact hE e s h
  | act l f next ih =>
    intro t ht i b u hf
    obtain ⟨hG, hnext⟩ := h t ht i b u hf
    exact ⟨hG, ih b hnext⟩

theorem meets_bind {Q : β → σ → Prop} {M : α → σ → Prop} {g : α → Proc L ι σ ε β}
    (hx : Meets R G M E x s) (hg : ∀ a t, M a t → Meets R G Q E (g a) t) : Meets R G Q E (x >>= g) s := by
  change Meets R G Q E (x.bind g) s
  induction x generalizing s with
  | done a => exact hg a s hx
  | fail e => exact hx
  | act l f next ih =>
    intro t ht i b u hf
    obtain ⟨hG, hnext⟩ := hx t ht i b u hf
    exact ⟨hG, ih b hnext⟩

theorem meets_attempt {Q : Except ε α → σ → Prop}
    (h : Meets R G (fun a => Q (.ok a)) (fun e => Q (.error e)) x s) : Meets R G Q E x.attempt s := by
  induction x generalizing s with
  | done a => exact h
  | fail e => exact h
  | act l f next ih =>
    intro t ht i b u hf
    obtain ⟨hG, hnext⟩ := h t ht i b u hf
    exact ⟨hG, ih b hnext⟩

theorem meets_ofExcept (hQ : ∀ a, r = .ok a → Q a s)
    (hE : ∀ e, r = .error e → E e s) : Meets R G Q E (ofExcept r : Proc L ι σ ε α) s := by
  cases r with
  | ok a => exact hQ a rfl
  | error e => exact hE e rfl

theorem meets_lift (hQ : ∀ a, r = .ok a → Q a s) (hE : ∀ e, r = .error e → E e s) : Meets R G Q E (liftM r : Proc L ι σ ε α) s :=
  meets_ofExcept hQ hE

/-- What holds before an action and is not disturbed holds when it is taken. -/
theorem stable_of_rely (hstable : ∀ t u, P t → R l t u → P u) (hP : P s) (h : Relation.ReflTransGen (R l) s t) : P t := by
  induction h with
  | refl => exact hP
  | tail _ hstep ih => exact hstable _ _ ih hstep

theorem meets_await {f : ι → σ → Option (α × σ)} (P : σ → Prop) (hP : P s)
    (hstable : ∀ t u, P t → R l t u → P u) (hact : ∀ t i a u, P t → f i t = some (a, u) → G l t u ∧ Q a u) :
    Meets R G Q E (await l f) s := by
  intro t ht i a u hf
  exact hact t i a u (stable_of_rely hstable hP ht) hf

theorem meets_perform {f : ι → σ → Except ε α × σ} (P : σ → Prop) (hP : P s) (hstable : ∀ t u, P t → R l t u → P u)
    (hact : ∀ t i, P t → G l t (f i t).2 ∧ (∀ a, (f i t).1 = .ok a → Q a (f i t).2) ∧ ∀ e, (f i t).1 = .error e → E e (f i t).2) :
    Meets R G Q E (perform l f) s := by
  intro t ht i r u hf
  obtain ⟨rfl, rfl⟩ : (f i t).1 = r ∧ (f i t).2 = u := by
    have h := Option.some.inj hf
    exact ⟨congrArg Prod.fst h, congrArg Prod.snd h⟩
  obtain ⟨hG, hQ, hE⟩ := hact t i (stable_of_rely hstable hP ht)
  exact ⟨hG, meets_ofExcept hQ hE⟩

theorem meets_guarded {M : Except ε α → σ → Prop} {release : σ → σ}
    (hx : Meets R G (fun a => M (.ok a)) (fun e => M (.error e)) x s) (hstable : ∀ r t u, M r t → R l t u → M r u)
    (hrelease : ∀ r t, M r t → G l t (release t)) (hQ : ∀ a t, M (.ok a) t → Q a (release t))
    (hE : ∀ e t, M (.error e) t → E e (release t)) : Meets R G Q E (guarded l release x) s := by
  refine meets_bind (meets_attempt hx) fun r t hr => ?_
  refine meets_bind (M := fun _ u => ∃ v, M r v ∧ u = release v) (meets_perform (M r) hr (hstable r) ?_) ?_
  · intro v i hv
    exact ⟨hrelease r v hv, fun _ _ => ⟨v, hv, rfl⟩, fun e he => nomatch he⟩
  · rintro - _ ⟨v, hv, rfl⟩
    refine meets_ofExcept ?_ ?_
    · rintro a rfl
      exact hQ a v hv
    · rintro e rfl
      exact hE e v hv

/-- A program whose ends have no condition meets its guarantees after a move that its next action relies on. -/
theorem Meets.moved (h : Meets R G (fun _ _ => True) (fun _ _ => True) x s)
    (hmove : ∀ l, x.label? = some l → R l s t) : Meets R G (fun _ _ => True) (fun _ _ => True) x t := by
  cases x with
  | done a => trivial
  | fail e => trivial
  | act l f next =>
    intro u hu
    exact h u (.head (hmove l rfl) hu)

end Rules

end Proc

/-! ## Programs that run together -/

/-- A state and the programs that share it, each by its place. -/
structure Pool (L ι σ ε α : Type) : Type 1 where
  state : σ
  procs : List (Proc L ι σ ε α)

namespace Pool

variable {L ι σ ε α : Type}

/-- The next action of a program. -/
def act (p : Pool L ι σ ε α) (n : Nat) (i : ι) : Pool L ι σ ε α :=
  match p.procs[n]? with
  | none => p
  | some x => ⟨(x.step i p.state).2, p.procs.set n (x.step i p.state).1⟩

/-- A program starts. -/
def start (p : Pool L ι σ ε α) (x : Proc L ι σ ε α) : Pool L ι σ ε α := { p with procs := p.procs ++ [x] }

/-- What a program does next. -/
def label? (p : Pool L ι σ ε α) (n : Nat) : Option L := p.procs[n]?.bind Proc.label?

theorem label?_of_get {p : Pool L ι σ ε α} {n : Nat} {x : Proc L ι σ ε α} (h : p.procs[n]? = some x) : p.label? n = x.label? := by
  rw [label?, h]
  rfl

/-- Every program meets its guarantees from the state on. -/
def Meets (R G : Nat → L → σ → σ → Prop) (p : Pool L ι σ ε α) : Prop :=
  ∀ (n : Nat) (x : Proc L ι σ ε α), p.procs[n]? = some x → x.Meets (R n) (G n) (fun _ _ => True) (fun _ _ => True) p.state

variable {R G : Nat → L → σ → σ → Prop} {p : Pool L ι σ ε α}

/-- What the state of a pool may be changed to without any program taking an action. -/
theorem Meets.disturb {s : σ} (h : p.Meets R G) (hmove : ∀ n l, p.label? n = some l → R n l p.state s) :
    Meets R G { p with state := s } := by
  intro n x hx
  exact (h n x hx).moved fun l hl => hmove n l ((label?_of_get hx).trans hl)

theorem Meets.start {x : Proc L ι σ ε α} (h : p.Meets R G)
    (hx : x.Meets (R p.procs.length) (G p.procs.length) (fun _ _ => True) (fun _ _ => True) p.state) : Meets R G (p.start x) := by
  intro n y hy
  rcases Nat.lt_or_ge n p.procs.length with hlt | hge
  · exact h n y ((List.getElem?_append_left hlt).symm.trans hy)
  · rw [Pool.start, List.getElem?_append_right hge, List.getElem?_singleton] at hy
    split at hy
    · rename_i hzero
      cases hy
      rwa [show n = p.procs.length by omega]
    · cases hy

/-- What an action makes of a pool. -/
theorem act_cases (p : Pool L ι σ ε α) (n : Nat) (i : ι) :
    p.act n i = p ∨ ∃ l β, ∃ (f : ι → σ → Option (β × σ)) (next : β → Proc L ι σ ε α) (b : β) (t : σ),
      p.procs[n]? = some (.act l f next) ∧ f i p.state = some (b, t) ∧ p.act n i = ⟨t, p.procs.set n (next b)⟩ := by
  unfold Pool.act
  cases hn : p.procs[n]? with
  | none => exact .inl rfl
  | some x =>
    have hsame : (⟨p.state, p.procs.set n x⟩ : Pool L ι σ ε α) = p := by
      obtain ⟨hlt, rfl⟩ := List.getElem?_eq_some_iff.mp hn
      rw [List.set_getElem_self hlt]
    cases x with
    | done a => exact .inl hsame
    | fail e => exact .inl hsame
    | act l f next =>
      cases hf : f i p.state with
      | none =>
        simp only [Proc.step, hf]
        exact .inl hsame
      | some r =>
        simp only [Proc.step, hf]
        exact .inr ⟨l, _, f, next, r.1, r.2, rfl, hf, rfl⟩

/-- An action keeps its guarantee, and what the other programs rely on. -/
theorem Meets.act {n : Nat} {i : ι} (h : p.Meets R G)
    (hmove : ∀ l, p.label? n = some l → G n l p.state (p.act n i).state →
      ∀ m l', m ≠ n → p.label? m = some l' → R m l' p.state (p.act n i).state) : Meets R G (p.act n i) := by
  rcases act_cases p n i with heq | ⟨l, β, f, next, b, t, hn, hf, heq⟩
  · rw [heq]
    exact h
  · rw [heq] at hmove ⊢
    obtain ⟨hG, hnext⟩ := h n _ hn p.state .refl i b t hf
    intro m y hy
    rcases eq_or_ne m n with rfl | hne
    · rw [List.getElem?_set_self (List.getElem?_eq_some_iff.mp hn).1] at hy
      cases hy
      exact hnext
    · rw [List.getElem?_set_ne (Ne.symm hne)] at hy
      exact (h m y hy).moved fun l' hl' => hmove l (label?_of_get hn) hG m l' hne ((label?_of_get hy).trans hl')

/-- An action changes the state only as it guarantees. -/
theorem Meets.guarantee {n : Nat} {i : ι} (h : p.Meets R G) :
    (p.act n i).state = p.state ∨ ∃ l, p.label? n = some l ∧ G n l p.state (p.act n i).state := by
  rcases act_cases p n i with heq | ⟨l, β, f, next, b, t, hn, hf, heq⟩
  · exact .inl (congrArg Pool.state heq)
  · rw [heq]
    exact .inr ⟨l, label?_of_get hn, (h n _ hn p.state .refl i b t hf).1⟩

end Pool
