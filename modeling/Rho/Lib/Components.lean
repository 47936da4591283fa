import Rho.Lib.ClosedPath

/-!
# Strongly connected components by bounded reachability

The nodes reached from a node are found by adding the neighbours of what was reached, once for each node of the graph. Two nodes
are in one component when each is reached from the other.
-/

namespace Components

variable {α : Type*}

/-- The nodes reached from `s` in at most the given number of rounds. -/
def reach (adj : α → List α) : Nat → List α → List α
  | 0, s => s
  | n + 1, s => reach adj n (s ++ s.flatMap adj)

/-- The component of a node: what it reaches and is reached from. -/
def component [DecidableEq α] (adj : α → List α) (nodes : List α) (u : α) : List α :=
  nodes.filter (fun v => v ∈ reach adj (nodes.length + 1) [u] ∧ u ∈ reach adj (nodes.length + 1) [v])

/-- The components of a graph. -/
def components [DecidableEq α] (adj : α → List α) (nodes : List α) : List (List α) := (nodes.map (component adj nodes)).dedup

variable {adj : α → List α} {nodes : List α}

theorem subset_reach (n : Nat) : ∀ s : List α, s ⊆ reach adj n s := by
  induction n with
  | zero => intro s; exact List.Subset.refl s
  | succ n ih => intro s; exact List.Subset.trans (List.subset_append_left s _) (ih _)

/-- Whatever is reached is reached along edges. -/
theorem reach_sound (n : Nat) : ∀ s : List α, ∀ v ∈ reach adj n s,
    ∃ u ∈ s, Relation.ReflTransGen (fun a b => b ∈ adj a) u v := by
  induction n with
  | zero =>
    intro s v hv
    exact ⟨v, hv, Relation.ReflTransGen.refl⟩
  | succ n ih =>
    intro s v hv
    obtain ⟨w, hw, hwv⟩ := ih _ v hv
    rcases List.mem_append.mp hw with hw | hw
    · exact ⟨w, hw, hwv⟩
    · obtain ⟨u, hu, hadj⟩ := List.mem_flatMap.mp hw
      exact ⟨u, hu, Relation.ReflTransGen.head hadj hwv⟩

/-- The end of a walk is reached when there are as many rounds as the walk has steps. -/
theorem reach_of_walk : ∀ (l : List α) (n : Nat) (s : List α) (u v : α), l.length < n → u ∈ s →
    List.IsChain (fun a b => b ∈ adj a) (u :: (l ++ [v])) → v ∈ reach adj n s := by
  intro l
  induction l with
  | nil =>
    intro n s u v hn hu hc
    obtain ⟨n, rfl⟩ := Nat.exists_eq_succ_of_ne_zero (Nat.ne_of_gt hn)
    have hv : v ∈ adj u := by simpa using hc
    exact subset_reach n _ (List.mem_append_right s (List.mem_flatMap.mpr ⟨u, hu, hv⟩))
  | cons w l ih =>
    intro n s u v hn hu hc
    obtain ⟨n, rfl⟩ := Nat.exists_eq_succ_of_ne_zero (Nat.ne_zero_of_lt hn)
    rw [List.cons_append, List.isChain_cons_cons] at hc
    have hw : w ∈ s ++ s.flatMap adj := List.mem_append_right s (List.mem_flatMap.mpr ⟨u, hu, hc.1⟩)
    exact ih n _ w v (by simpa using hn) hw hc.2

/-- With one round more than there are nodes, reaching is the reflexive and transitive closure. -/
theorem mem_reach (hadj : ∀ u, adj u ⊆ nodes) (u v : α) :
    v ∈ reach adj (nodes.length + 1) [u] ↔ Relation.ReflTransGen (fun a b => b ∈ adj a) u v := by
  constructor
  · intro h
    obtain ⟨w, hw, hwv⟩ := reach_sound _ _ v h
    rwa [List.mem_singleton.mp hw] at hwv
  · intro h
    rcases Relation.reflTransGen_iff_eq_or_transGen.mp h with rfl | h
    · exact subset_reach _ _ (List.mem_singleton_self v)
    · obtain ⟨l₀, hw⟩ := ClosedPath.exists_walk h
      obtain ⟨l, -, hnd, -, hc⟩ := ClosedPath.exists_nodup _ u l₀ (Nat.le_refl _) hw
      have hall : l ⊆ nodes := by
        intro z hz
        have htarget := ClosedPath.target_of_isChain (fun a b hab => hadj a hab) _ u hc
        exact htarget z (List.mem_append_left _ hz)
      have hlen := (List.subperm_of_subset hnd hall).length_le
      exact reach_of_walk l _ [u] u v (by omega) (List.mem_singleton_self u) hc

/-- Two nodes are in one component exactly when each is reached from the other. -/
theorem mem_component [DecidableEq α] (hadj : ∀ u, adj u ⊆ nodes) (u v : α) :
    v ∈ component adj nodes u ↔ v ∈ nodes ∧ Relation.ReflTransGen (fun a b => b ∈ adj a) u v ∧
      Relation.ReflTransGen (fun a b => b ∈ adj a) v u := by
  simp only [component, List.mem_filter, decide_eq_true_eq, mem_reach hadj]

end Components
