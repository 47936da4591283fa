import Rho.Lib.Fallible

/-!
# A process that may stop

A connection to a durable state: a statement outside a transaction is durable at once, the statements of a transaction all together
when it commits. A process that stops leaves the durable state. A statement is given what is durable besides the state it works on,
for one that compares the two.
-/

namespace Durable

open Fallible

variable {σ ι : Type}

inductive Action (ι : Type) where
  | exec (statement : ι)
  | begin
  | commit

structure Conn (σ : Type) where
  disk : σ
  transaction : Option σ

variable (exec : σ → σ → ι → Except String σ)

def act (c : Conn σ) : Action ι → Except String (Conn σ)
  | .exec statement =>
    match c.transaction with
    | none => (exec c.disk c.disk statement).map (fun s => ⟨s, none⟩)
    | some s => (exec c.disk s statement).map (fun s => ⟨c.disk, some s⟩)
  | .begin =>
    match c.transaction with
    | none => .ok ⟨c.disk, some c.disk⟩
    | some _ => .error "cannot start a transaction within a transaction"
  | .commit =>
    match c.transaction with
    | none => .error "cannot commit - no transaction is active"
    | some s => .ok ⟨s, none⟩

/-- The connection after all actions; an action that fails ends the run. -/
def run (c : Conn σ) (actions : List (Action ι)) : Except String (Conn σ) := actions.foldlM (act exec) c

/-- What is durable when the process stops after some actions, or at one that fails. -/
def stopped (c : Conn σ) : List (Action ι) → Nat → σ
  | [], _ => c.disk
  | _ :: _, 0 => c.disk
  | a :: actions, n + 1 =>
    match act exec c a with
    | .error _ => c.disk
    | .ok c' => stopped c' actions n

variable {exec}

theorem stopped_zero (c : Conn σ) (actions : List (Action ι)) : stopped exec c actions 0 = c.disk := by
  cases actions with
  | nil => rfl
  | cons a actions => rfl

theorem stopped_succ (c : Conn σ) (a : Action ι) (actions : List (Action ι)) (n : Nat) :
    stopped exec c (a :: actions) (n + 1) =
      match act exec c a with
      | .error _ => c.disk
      | .ok c' => stopped exec c' actions n := rfl

variable {c c' : Conn σ} {actions before rest : List (Action ι)} {c₁ : Conn σ}

theorem run_cons {a : Action ι} (h : run exec c (a :: actions) = .ok c') :
    ∃ c₁, act exec c a = .ok c₁ ∧ run exec c₁ actions = .ok c' := by
  rw [run, List.foldlM_cons] at h
  exact bind_eq_ok h

theorem run_append (h : run exec c (before ++ rest) = .ok c') : ∃ c₁, run exec c before = .ok c₁ ∧ run exec c₁ rest = .ok c' := by
  rw [run, List.foldlM_append] at h
  exact bind_eq_ok h

theorem run_append_of_ok (h : run exec c before = .ok c₁) : run exec c (before ++ rest) = run exec c₁ rest := by
  rw [run, List.foldlM_append]
  change (run exec c before >>= fun c => run exec c rest) = _
  rw [h]
  rfl

/-- A process that stops past its first actions has done them. -/
theorem stopped_append (h : run exec c before = .ok c₁) (n : Nat) : stopped exec c (before ++ rest) n =
      if n ≤ before.length then stopped exec c before n else stopped exec c₁ rest (n - before.length) := by
  induction before generalizing c n with
  | nil =>
    cases h
    cases n with
    | zero => rw [List.nil_append, stopped_zero, if_pos (Nat.zero_le _), stopped_zero]
    | succ n => rw [if_neg (by simp), List.nil_append, List.length_nil, Nat.sub_zero]
  | cons a before ih =>
    obtain ⟨c₂, hact, hrun⟩ := run_cons h
    cases n with
    | zero => rw [stopped_zero, if_pos (Nat.zero_le _), stopped_zero]
    | succ n =>
      rw [List.cons_append, stopped_succ, hact]
      simp only [List.length_cons, Nat.add_le_add_iff_right, Nat.add_sub_add_right]
      rw [ih hrun n, stopped_succ, hact]

/-- A process that stops past its last action has done all of them. -/
theorem stopped_all (h : run exec c actions = .ok c') (n : Nat)
    (hn : actions.length ≤ n) : stopped exec c actions n = c'.disk := by
  induction actions generalizing c n with
  | nil =>
    cases h
    rfl
  | cons a actions ih =>
    obtain ⟨c₁, hact, hrun⟩ := run_cons h
    cases n with
    | zero => exact absurd hn (by simp)
    | succ n =>
      rw [stopped_succ, hact]
      exact ih hrun n (by rw [List.length_cons] at hn; omega)

/-! ## Statements that keep something -/

section

variable {β : Type} {f : σ → β}

variable {s : σ} {c' : Conn σ} {statements : List ι}

/-- Statements outside a transaction that keep a value keep it wherever the process stops. -/
theorem stopped_kept (hkept : ∀ a ∈ statements, ∀ d s s', exec d s a = .ok s' → f s' = f s)
    (h : run exec ⟨s, none⟩ (statements.map .exec) = .ok c') (n : Nat) :
    f (stopped exec ⟨s, none⟩ (statements.map .exec) n) = f s := by
  induction statements generalizing s n with
  | nil => rfl
  | cons a statements ih =>
    cases n with
    | zero => rw [stopped_zero]
    | succ n =>
      obtain ⟨c₁, hact, hrun⟩ := run_cons h
      obtain ⟨s₁, hs₁, rfl⟩ := map_eq_ok hact
      rw [List.map_cons, stopped_succ, hact]
      rw [ih (fun a ha => hkept a (List.mem_cons_of_mem _ ha)) hrun n]
      exact hkept a List.mem_cons_self _ _ _ hs₁

/-- What every statement keeps holds wherever the process stops. -/
theorem stopped_invariant {I : σ → Prop}
    (hstep : ∀ a ∈ statements, ∀ d s s', exec d s a = .ok s' → I s → I s') (hs : I s) (n : Nat) :
    I (stopped exec ⟨s, none⟩ (statements.map .exec) n) := by
  induction statements generalizing s n with
  | nil => exact hs
  | cons a statements ih =>
    cases n with
    | zero => exact hs
    | succ n =>
      rw [List.map_cons, stopped_succ]
      cases hact : act exec ⟨s, none⟩ (.exec a) with
      | error e => exact hs
      | ok c₁ =>
        obtain ⟨s₁, hs₁, rfl⟩ := map_eq_ok hact
        exact ih (fun a ha => hstep a (List.mem_cons_of_mem _ ha)) (hstep a List.mem_cons_self _ _ _ hs₁ hs) n

/-- After statements outside a transaction there is none, and the value is the one before them. -/
theorem run_kept (hkept : ∀ a ∈ statements, ∀ d s s', exec d s a = .ok s' → f s' = f s)
    (h : run exec ⟨s, none⟩ (statements.map .exec) = .ok c') : c'.transaction = none ∧ f c'.disk = f s := by
  induction statements generalizing s with
  | nil =>
    cases h
    exact ⟨rfl, rfl⟩
  | cons a statements ih =>
    obtain ⟨c₁, hact, hrun⟩ := run_cons h
    obtain ⟨s₁, hs₁, rfl⟩ := map_eq_ok hact
    obtain ⟨hnone, hdisk⟩ := ih (fun a ha => hkept a (List.mem_cons_of_mem _ ha)) hrun
    exact ⟨hnone, hdisk.trans (hkept a List.mem_cons_self _ _ _ hs₁)⟩

end

/-! ## A transaction -/

/-- The statements of a transaction leave what is durable. -/
theorem run_body {d s : σ} {c' : Conn σ} {statements : List ι} (h : run exec ⟨d, some s⟩ (statements.map .exec) = .ok c') :
    c'.disk = d ∧ ∃ s', c'.transaction = some s' := by
  induction statements generalizing s with
  | nil =>
    cases h
    exact ⟨rfl, s, rfl⟩
  | cons a statements ih =>
    obtain ⟨c₁, hact, hrun⟩ := run_cons h
    obtain ⟨s₁, -, rfl⟩ := map_eq_ok hact
    exact ih hrun

theorem stopped_body {d s : σ} {statements : List ι} (n : Nat) :
    stopped exec ⟨d, some s⟩ (statements.map .exec) n = d := by
  induction statements generalizing s n with
  | nil => rfl
  | cons a statements ih =>
    cases n with
    | zero => rfl
    | succ n =>
      rw [List.map_cons, stopped_succ]
      cases hact : act exec ⟨d, some s⟩ (.exec a) with
      | error e => rfl
      | ok c₁ =>
        obtain ⟨s₁, -, rfl⟩ := map_eq_ok hact
        exact ih n

/-- Statements around one transaction. -/
def transaction (before body after : List ι) : List (Action ι) :=
  before.map .exec ++ (.begin :: body.map .exec ++ (.commit :: after.map .exec))

/-- When the statements around a transaction keep a value, a process that stops anywhere leaves the value before the transaction or
the one after it. -/
theorem stopped_transaction {β : Type} {f : σ → β} {s : σ} {c' : Conn σ} {before body after : List ι}
    (hbefore : ∀ a ∈ before, ∀ d s s', exec d s a = .ok s' → f s' = f s)
    (hafter : ∀ a ∈ after, ∀ d s s', exec d s a = .ok s' → f s' = f s)
    (h : run exec ⟨s, none⟩ (transaction before body after) = .ok c') (n : Nat) :
    f (stopped exec ⟨s, none⟩ (transaction before body after) n) = f s ∨
      f (stopped exec ⟨s, none⟩ (transaction before body after) n) = f c'.disk := by
  obtain ⟨c₁, hrun₁, hrest⟩ := run_append h
  obtain ⟨hnone, hdisk⟩ := run_kept hbefore hrun₁
  obtain ⟨s₁, rfl⟩ : ∃ s₁, c₁ = ⟨s₁, none⟩ := ⟨c₁.disk, by rw [← hnone]⟩
  obtain ⟨c₂, hbegin, hrest⟩ := run_append hrest
  obtain ⟨c₃, hact, hbody⟩ := run_cons hbegin
  cases hact
  obtain ⟨hdisk₂, s₂, htransaction⟩ := run_body hbody
  obtain ⟨c₄, hcommit, hrest⟩ := run_cons hrest
  obtain ⟨d₂, rfl⟩ : ∃ d, c₂ = ⟨d, some s₂⟩ := ⟨c₂.disk, by rw [← htransaction]⟩
  cases hcommit
  rw [transaction, stopped_append hrun₁]
  split
  · exact .inl (stopped_kept hbefore hrun₁ n)
  · rw [stopped_append hbegin]
    split
    · left
      rw [← hdisk]
      congr 1
      generalize n - (List.map Action.exec before).length = m
      cases m with
      | zero => rfl
      | succ m => exact stopped_body m
    · next hlarge =>
      right
      obtain ⟨m, hm⟩ : ∃ m, n - (List.map Action.exec before).length - (Action.begin :: List.map Action.exec body).length = m + 1 :=
        ⟨_, (Nat.succ_pred_eq_of_pos (by omega)).symm⟩
      rw [hm, stopped_succ]
      simp only [act]
      rw [stopped_kept hafter hrest m, (run_kept hafter hrest).2]

/-! ## Runs from related states -/

/-- Runs of the same actions from related states succeed together and end in related states. -/
theorem run_related {R : σ → σ → Prop} {actions : List (Action ι)}
    (hexec : ∀ a, .exec a ∈ actions → ∀ d d' s s' t, R d d' → R s s' → exec d s a = .ok t → ∃ t', exec d' s' a = .ok t' ∧ R t t')
    {d d' : σ} (hd : R d d') {o o' : Option σ} (ho : Option.Rel R o o') {c : Conn σ} (h : run exec ⟨d, o⟩ actions = .ok c) :
    ∃ c', run exec ⟨d', o'⟩ actions = .ok c' ∧ R c.disk c'.disk := by
  induction actions generalizing d d' o o' with
  | nil =>
    cases h
    exact ⟨⟨d', o'⟩, rfl, hd⟩
  | cons a actions ih =>
    obtain ⟨c₁, hact, hrun⟩ := run_cons h
    have hstep : ∃ c₁', act exec ⟨d', o'⟩ a = .ok c₁' ∧ R c₁.disk c₁'.disk ∧ Option.Rel R c₁.transaction c₁'.transaction := by
      cases a with
      | exec a =>
        cases ho with
        | none =>
          obtain ⟨t, ht, rfl⟩ := map_eq_ok hact
          obtain ⟨t', ht', hR⟩ := hexec a List.mem_cons_self d d' d d' t hd hd ht
          refine ⟨⟨t', none⟩, ?_, hR, .none⟩
          simp only [act]
          rw [ht']
          rfl
        | some hs =>
          obtain ⟨t, ht, rfl⟩ := map_eq_ok hact
          obtain ⟨t', ht', hR⟩ := hexec a List.mem_cons_self d d' _ _ t hd hs ht
          refine ⟨⟨d', some t'⟩, ?_, hd, .some hR⟩
          simp only [act]
          rw [ht']
          rfl
      | begin =>
        cases ho with
        | none =>
          cases hact
          exact ⟨_, rfl, hd, .some hd⟩
        | some hs => cases hact
      | commit =>
        cases ho with
        | none => cases hact
        | some hs =>
          cases hact
          exact ⟨_, rfl, hs, .none⟩
    obtain ⟨⟨d₁', o₁'⟩, hact', hdisk, htransaction⟩ := hstep
    obtain ⟨c', hrun', hR⟩ := ih (fun a ha => hexec a (List.mem_cons_of_mem _ ha)) hdisk htransaction hrun
    refine ⟨c', ?_, hR⟩
    rw [run, List.foldlM_cons, hact']
    exact hrun'

end Durable
