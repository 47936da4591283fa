import Mathlib.Data.List.Nodup
import Mathlib.Data.List.Perm.Subperm
import Mathlib.Data.List.Chain
import Mathlib.Logic.Relation

/-!
# Searching a closed path by backtracking

A depth-first search that extends a path by one allowed neighbour at a time, in the order of the adjacency lists, never visiting
a node of the path twice, and stops when a neighbour is the start. It finds a closed path whenever some walk of allowed nodes leads back to
the start (`find_isSome_of_transGen`): a walk can be cut down to one without repetitions, and the search follows it.
-/

namespace ClosedPath

section Search

variable {α : Type*} [DecidableEq α]

/-- The search from `current`: `path` is the path so far and `onPath` its nodes. The fuel bounds the length of the path. -/
def find (adj : α → List α) (start : α) (allowed : List α) : Nat → α → List α → List α → Option (List α)
  | 0, _, _, _ => none
  | n + 1, current, path, onPath =>
    (adj current).findSome? fun next =>
      if next ∉ allowed then none
      else if next = start then some (path ++ [start])
      else if next ∈ onPath then none
      else find adj start allowed n next (path ++ [next]) (next :: onPath)

end Search

/-! ## Walks without repetitions -/

section Walks

variable {α : Type*}

variable {R : α → α → Prop} {x y : α}

/-- A walk from `x` can be shortened to one that does not come back to `x`. -/
theorem exists_avoiding (n : Nat) : ∀ l : List α, l.length ≤ n → List.IsChain R (x :: (l ++ [y])) →
      ∃ l', l' ⊆ l ∧ l'.length ≤ l.length ∧ x ∉ l' ∧ List.IsChain R (x :: (l' ++ [y])) := by
  induction n with
  | zero =>
    intro l hl hc
    obtain rfl := List.eq_nil_of_length_eq_zero (Nat.le_zero.mp hl)
    exact ⟨[], List.Subset.refl _, Nat.le_refl _, List.not_mem_nil, hc⟩
  | succ n ih =>
    intro l hl hc
    by_cases hx : x ∈ l
    · obtain ⟨a, b, rfl⟩ := List.append_of_mem hx
      have hsuf : List.IsChain R (x :: (b ++ [y])) := by
        have : x :: (a ++ x :: b ++ [y]) = (x :: a) ++ (x :: (b ++ [y])) := by simp
        rw [this] at hc
        exact hc.right_of_append
      obtain ⟨l', hsub, hlen, hx', hc'⟩ := ih b (by simp at hl; omega) hsuf
      refine ⟨l', fun z hz => by simp [hsub hz], ?_, hx', hc'⟩
      simp only [List.length_append, List.length_cons]
      omega
    · exact ⟨l, List.Subset.refl _, Nat.le_refl _, hx, hc⟩

/-- A walk can be cut down to one without repetitions. -/
theorem exists_nodup (n : Nat) : ∀ (x : α) (l : List α), l.length ≤ n → List.IsChain R (x :: (l ++ [y])) →
      ∃ l', l' ⊆ l ∧ l'.Nodup ∧ x ∉ l' ∧ List.IsChain R (x :: (l' ++ [y])) := by
  induction n with
  | zero =>
    intro x l hl hc
    obtain rfl := List.eq_nil_of_length_eq_zero (Nat.le_zero.mp hl)
    exact ⟨[], List.Subset.refl _, List.nodup_nil, List.not_mem_nil, hc⟩
  | succ n ih =>
    intro x l hl hc
    obtain ⟨l₁, hsub, hlen, hx, hc₁⟩ := exists_avoiding _ l (Nat.le_refl _) hc
    cases l₁ with
    | nil => exact ⟨[], List.nil_subset _, List.nodup_nil, List.not_mem_nil, hc₁⟩
    | cons z l₂ =>
      rw [List.cons_append, List.isChain_cons_cons] at hc₁
      obtain ⟨l₃, hsub₃, hnd, hz, hc₃⟩ := ih z l₂ (by simp at hlen; omega) hc₁.2
      refine ⟨z :: l₃, ?_, List.nodup_cons.mpr ⟨hz, hnd⟩, ?_, ?_⟩
      · intro w hw
        rcases List.mem_cons.mp hw with rfl | hw
        · exact hsub List.mem_cons_self
        · exact hsub (List.mem_cons_of_mem _ (hsub₃ hw))
      · intro hm
        rcases List.mem_cons.mp hm with rfl | hm
        · exact hx List.mem_cons_self
        · exact hx (List.mem_cons_of_mem _ (hsub₃ hm))
      · rw [List.cons_append, List.isChain_cons_cons]
        exact ⟨hc₁.1, hc₃⟩

/-- Two nodes related by one or more steps are the ends of a walk. -/
theorem exists_walk (h : Relation.TransGen R x y) : ∃ l, List.IsChain R (x :: (l ++ [y])) := by
  induction h using Relation.TransGen.head_induction_on with
  | single h => exact ⟨[], by simpa using h⟩
  | @head a c h _ ih =>
    obtain ⟨l, hl⟩ := ih
    exact ⟨c :: l, by rw [List.cons_append, List.isChain_cons_cons]; exact ⟨h, hl⟩⟩

/-- The nodes a walk steps to are targets of its relation. -/
theorem target_of_isChain {P : α → Prop} (hP : ∀ a b, R a b → P b) :
    ∀ (l : List α) (x : α), List.IsChain R (x :: l) → ∀ z ∈ l, P z
  | [], _, _, z, hz => by simp at hz
  | w :: l, x, hc, z, hz => by
    rw [List.isChain_cons_cons] at hc
    rcases List.mem_cons.mp hz with rfl | hz
    · exact hP x z hc.1
    · exact target_of_isChain hP l w hc.2 z hz

end Walks

variable {α : Type*} [DecidableEq α] {adj : α → List α} {start : α} {allowed : List α}

/-! ## The search is sound -/

/-- What is found goes on from the path so far by allowed edges, comes to no node twice and ends at the start. -/
theorem find_sound (n : Nat) : ∀ (current : α) (path onPath closed : List α),
    find adj start allowed n current path onPath = some closed → path.getLast? = some current → path.Nodup →
      (∀ x ∈ path, x ∈ onPath) → start ∈ path → path.IsChain (fun u v => v ∈ adj u ∧ v ∈ allowed) →
        ∃ rest, closed = path ++ rest ++ [start] ∧ (path ++ rest).Nodup ∧
          (path ++ rest ++ [start]).IsChain (fun u v => v ∈ adj u ∧ v ∈ allowed) := by
  induction n with
  | zero =>
    intro current path onPath closed h
    cases h
  | succ n ih =>
    intro current path onPath closed h hlast hnodup honPath hstart hchain
    obtain ⟨next, hnext, h⟩ := List.exists_of_findSome?_eq_some h
    split at h
    · cases h
    next hallowed =>
    -- the edge to the next node goes on from the end of the path
    have hlonger : (path ++ [next]).IsChain (fun u v => v ∈ adj u ∧ v ∈ allowed) := by
      refine List.isChain_append.mpr ⟨hchain, List.isChain_singleton next, ?_⟩
      intro u hu v hv
      rw [hlast] at hu
      cases hu
      cases hv
      exact ⟨hnext, not_not.mp hallowed⟩
    split at h
    · next heq =>
      cases h
      subst heq
      exact ⟨[], by rw [List.append_nil], by rw [List.append_nil]; exact hnodup, by rw [List.append_nil]; exact hlonger⟩
    split at h
    · cases h
    next hne hfresh =>
    have hfresh' : (path ++ [next]).Nodup := by
      refine List.nodup_append.mpr ⟨hnodup, List.nodup_singleton next, ?_⟩
      intro x hx y hy
      cases List.mem_singleton.mp hy
      rintro rfl
      exact hfresh (honPath x hx)
    have honPath' : ∀ x ∈ path ++ [next], x ∈ next :: onPath := by
      intro x hx
      rcases List.mem_append.mp hx with hx | hx
      · exact List.mem_cons_of_mem _ (honPath x hx)
      · cases List.mem_singleton.mp hx
        exact List.mem_cons_self
    obtain ⟨rest, hclosed, hnodup', hchain'⟩ := ih next (path ++ [next]) (next :: onPath) closed h List.getLast?_concat hfresh' honPath'
      (List.mem_append_left _ hstart) hlonger
    rw [List.append_assoc path, List.singleton_append] at hclosed hnodup' hchain'
    exact ⟨next :: rest, hclosed, hnodup', hchain'⟩

/-! ## The search is complete -/

/-- The search succeeds when a walk without repetitions, off the path so far, leads back to the start. -/
theorem find_isSome (n : Nat) : ∀ (current : α) (path onPath l : List α), l.length < n → l.Nodup →
    (∀ x ∈ l, x ∉ onPath) → List.IsChain (fun u v => v ∈ adj u ∧ v ∈ allowed) (current :: (l ++ [start])) →
      (find adj start allowed n current path onPath).isSome := by
  induction n with
  | zero => intro current path onPath l hl; omega
  | succ n ih =>
    intro current path onPath l hl hnd hoff hc
    simp only [find, List.findSome?_isSome_iff]
    cases l with
    | nil =>
      have hstep : start ∈ adj current ∧ start ∈ allowed := by simpa using hc
      exact ⟨start, hstep.1, by simp [hstep.2]⟩
    | cons z l =>
      rw [List.cons_append, List.isChain_cons_cons] at hc
      refine ⟨z, hc.1.1, ?_⟩
      by_cases hz : z = start
      · subst hz
        simp [hc.1.2]
      · rw [if_neg (not_not_intro hc.1.2), if_neg hz, if_neg (hoff z List.mem_cons_self)]
        refine ih z _ _ l (by simp at hl; omega) (List.nodup_cons.mp hnd).2 ?_ hc.2
        intro x hx
        rw [List.mem_cons, not_or]
        refine ⟨?_, hoff x (List.mem_cons_of_mem _ hx)⟩
        rintro rfl
        exact (List.nodup_cons.mp hnd).1 hx

/-- The search from the start succeeds when the start is reached from itself through allowed nodes. -/
theorem find_isSome_of_transGen (h : Relation.TransGen (fun u v => v ∈ adj u ∧ v ∈ allowed) start start) :
    (find adj start allowed (allowed.length + 1) start [start] [start]).isSome := by
  obtain ⟨l₀, hw⟩ := exists_walk h
  obtain ⟨l, _, hnd, hs, hc⟩ := exists_nodup _ start l₀ (Nat.le_refl _) hw
  have hall : ∀ z ∈ l, z ∈ allowed := by
    intro z hz
    exact target_of_isChain (P := fun z => z ∈ allowed) (fun _ _ hab => hab.2) _ start hc z (by simp [hz])
  have hlen : l.length ≤ allowed.length := (List.subperm_of_subset hnd hall).length_le
  refine find_isSome _ start [start] [start] l (by omega) hnd ?_ hc
  intro x hx
  rw [List.mem_singleton]
  rintro rfl
  exact hs hx

end ClosedPath
