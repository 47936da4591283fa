import Mathlib.Data.List.Induction
import Mathlib.Data.Set.Function
import Rho.Lib.OrdMap
import Rho.Lib.Run

/-!
# Single-use tokens

A ledger in which tokens are granted under a key and spent by naming it. Spending takes the token out of the ledger whether or not
it is then found good. Every token that is spent goes back to a grant of its own.
-/

namespace Tokens

variable {κ β : Type} [LinearOrder κ]

/-- What can happen to a ledger. -/
inductive Op (κ β : Type) where
  | grant (key : κ) (value : β)
  | spend (key : κ)
  | idle

/-- The ledger after an operation. -/
def step (ledger : List (κ × β)) : Op κ β → List (κ × β)
  | .grant key value => OrdMap.insert key value ledger
  | .spend key => OrdMap.erase ledger key
  | .idle => ledger

/-- The operation leaves the token under a key alone. -/
def Spares (key : κ) : Op κ β → Prop
  | .grant k _ | .spend k => k ≠ key
  | .idle => True

theorem get_step {ledger : List (κ × β)} {op : Op κ β} {key : κ} (h : Spares key op) :
    OrdMap.get (step ledger op) key = OrdMap.get ledger key := by
  cases op with
  | grant k v => rw [step, OrdMap.get_insert, if_neg h]
  | spend k => rw [step, OrdMap.get_erase, if_neg h]
  | idle => rfl

/-- A token in the ledger was granted, and nothing has touched its key since. -/
theorem granted_of_get {ops : List (Op κ β)} {key : κ} {v : β} (h : OrdMap.get (Run.after step [] ops) key = some v) :
    ∃ j : Nat, ops[j]? = some (.grant key v) ∧ ∀ (k : Nat) (op : Op κ β), j < k → ops[k]? = some op → Spares key op := by
  induction ops using List.reverseRecOn with
  | nil => exact absurd h (by simp [OrdMap.get])
  | append_singleton ops op ih =>
    rw [Run.after_append, Run.after_cons, Run.after_nil] at h
    have hlast : (ops ++ [op])[ops.length]? = some op := by simp
    by_cases hspare : Spares key op
    · rw [get_step hspare] at h
      obtain ⟨j, hj, hrest⟩ := ih h
      have hlt : j < ops.length := (List.getElem?_eq_some_iff.mp hj).1
      refine ⟨j, by rw [List.getElem?_append_left hlt]; exact hj, ?_⟩
      intro k op' hjk hk
      by_cases hk' : k < ops.length
      · rw [List.getElem?_append_left hk'] at hk
        exact hrest k op' hjk hk
      · have hbound := (List.getElem?_eq_some_iff.mp hk).1
        rw [List.length_append, List.length_singleton] at hbound
        have hkeq : k = ops.length := by omega
        rw [hkeq, hlast] at hk
        cases hk
        exact hspare
    · cases op with
      | grant k w =>
        have hk : k = key := not_not.mp hspare
        rw [step, OrdMap.get_insert, if_pos hk] at h
        cases h
        refine ⟨ops.length, by rw [hlast, hk], ?_⟩
        intro k' op' hlt hk'
        have hbound := (List.getElem?_eq_some_iff.mp hk').1
        rw [List.length_append, List.length_singleton] at hbound
        omega
      | spend k =>
        have hk : k = key := not_not.mp hspare
        rw [step, OrdMap.get_erase, if_pos hk] at h
        cases h
      | idle => exact absurd trivial hspare

/-- A token that a spending finds goes back to a grant before it with the same key and value, and no operation between the two
touched the key. -/
theorem grant_of_taken {ops : List (Op κ β)} {i : Nat} {key : κ} {v : β}
    (h : OrdMap.get (Run.after step [] (ops.take i)) key = some v) :
    ∃ j < i, ops[j]? = some (.grant key v) ∧ ∀ (k : Nat) (op : Op κ β), j < k → k < i → ops[k]? = some op → Spares key op := by
  obtain ⟨j, hj, hrest⟩ := granted_of_get h
  have hlt : j < i := by
    have := (List.getElem?_eq_some_iff.mp hj).1
    rw [List.length_take] at this
    omega
  refine ⟨j, hlt, by rwa [List.getElem?_take_of_lt hlt] at hj, ?_⟩
  intro k op hjk hki hk
  exact hrest k op hjk (by rwa [List.getElem?_take_of_lt hki])

/-- The grant of the token that a spending takes, as a function of the spending: it is before it, and no two spendings share one. -/
theorem exists_grantOf (ops : List (Op κ β)) : ∃ grantOf : Nat → Nat,
      (∀ (i : Nat) (key : κ) (v : β), ops[i]? = some (.spend key) → OrdMap.get (Run.after step [] (ops.take i)) key = some v →
        grantOf i < i ∧ ops[grantOf i]? = some (.grant key v) ∧
        ∀ (k : Nat) (op : Op κ β), grantOf i < k → k < i → ops[k]? = some op → Spares key op) ∧
      Set.InjOn grantOf {i | ∃ key v, ops[i]? = some (.spend key) ∧
        OrdMap.get (Run.after step [] (ops.take i)) key = some v} := by
  classical
  have hex : ∀ i : Nat, ∃ j : Nat, ∀ key v, ops[i]? = some (.spend key) →
      OrdMap.get (Run.after step [] (ops.take i)) key = some v →
      j < i ∧ ops[j]? = some (.grant key v) ∧ ∀ (k : Nat) (op : Op κ β), j < k → k < i → ops[k]? = some op → Spares key op := by
    intro i
    by_cases h : ∃ key v, ops[i]? = some (.spend key) ∧
        OrdMap.get (Run.after step [] (ops.take i)) key = some v
    · obtain ⟨key, v, hop, htaken⟩ := h
      obtain ⟨j, hlt, hgrant, hspare⟩ := grant_of_taken htaken
      refine ⟨j, ?_⟩
      intro key' v' hop' htaken'
      rw [hop] at hop'
      cases hop'
      rw [htaken] at htaken'
      cases htaken'
      exact ⟨hlt, hgrant, hspare⟩
    · exact ⟨0, fun key v hop htaken => absurd ⟨key, v, hop, htaken⟩ h⟩
  choose grantOf hgrant using hex
  refine ⟨grantOf, hgrant, ?_⟩
  intro i hi i' hi' heq
  obtain ⟨key, v, hop, htaken⟩ := hi
  obtain ⟨key', v', hop', htaken'⟩ := hi'
  obtain ⟨hlt, hg, hspare⟩ := hgrant i key v hop htaken
  obtain ⟨hlt', hg', hspare'⟩ := hgrant i' key' v' hop' htaken'
  rw [heq, hg'] at hg
  cases hg
  -- Of two spendings with one grant, the earlier would lie between the grant and the later and touch the key.
  rcases Nat.lt_trichotomy i i' with h | h | h
  · exact absurd rfl (hspare' i _ (by omega) h hop)
  · exact h
  · exact absurd rfl (hspare i' _ (by omega) h hop')

end Tokens
