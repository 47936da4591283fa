import Mathlib.Data.Finset.Card
import Mathlib.Data.Fintype.Card
import Mathlib.Data.Set.Finite.Basic
import Mathlib.Data.List.Lex
import Mathlib.Data.List.Sort
import Mathlib.Logic.Relation
import Mathlib.Order.WellFounded

/-!
# Kahn's algorithm with a least-first ready set

A directed graph is a list of nodes and, for each node, the list of its dependents. The algorithm keeps the number of
unfinished predecessors of every node and the set of nodes that have none, and takes the least of them each time.

The loop is shown to be the greedy enumeration (`Greedy`): each node listed is the least one available. Over an acyclic graph
a greedy enumeration lists every node (`Greedy.legal`), and no legal enumeration comes before it (`Greedy.le_of_legal`).
-/

/-! ## Ordered sets as increasing lists -/

namespace OrdSet

variable {α : Type*} [LinearOrder α]

/-- Insertion into an increasing list that holds each element once. -/
def insert (a : α) (l : List α) : List α := if a ∈ l then l else l.orderedInsert (· ≤ ·) a

/-- The elements of a list, each once and in increasing order. -/
def ofList (l : List α) : List α := l.dedup.insertionSort (· ≤ ·)

@[simp] theorem mem_insert {a b : α} {l : List α} : b ∈ insert a l ↔ b = a ∨ b ∈ l := by
  unfold insert
  split
  · rename_i h
    constructor
    · exact Or.inr
    · rintro (rfl | hb)
      · exact h
      · exact hb
  · simp [List.mem_orderedInsert]

@[simp] theorem mem_ofList {a : α} {l : List α} : a ∈ ofList l ↔ a ∈ l := by
  simp [ofList]

theorem nodup_ofList (l : List α) : (ofList l).Nodup :=
  (List.perm_insertionSort (· ≤ ·) l.dedup).nodup_iff.mpr l.nodup_dedup

theorem sorted_insert {a : α} {l : List α} (h : l.Pairwise (· < ·)) : (insert a l).Pairwise (· < ·) := by
  unfold insert
  split
  · exact h
  · rename_i ha
    have hle : (l.orderedInsert (· ≤ ·) a).Pairwise (· ≤ ·) :=
      List.Pairwise.orderedInsert a l (h.imp fun hab => le_of_lt hab)
    have hnd : (l.orderedInsert (· ≤ ·) a).Nodup :=
      (List.perm_orderedInsert (· ≤ ·) a l).nodup_iff.mpr (List.nodup_cons.mpr ⟨ha, h.imp ne_of_lt⟩)
    exact (hle.and hnd).imp fun hab => lt_of_le_of_ne hab.1 hab.2

theorem sorted_ofList (l : List α) : (ofList l).Pairwise (· < ·) :=
  ((List.pairwise_insertionSort (· ≤ ·) l.dedup).and (nodup_ofList l)).imp fun hab => lt_of_le_of_ne hab.1 hab.2

end OrdSet

namespace Kahn

variable {α : Type*} [LinearOrder α]

/-- A finite directed graph: its nodes, and the dependents of each node, each listed once. -/
structure Digraph (α : Type*) where
  nodes : List α
  adj : α → List α
  nodes_nodup : nodes.Nodup
  adj_nodup : ∀ u, (adj u).Nodup
  adj_subset : ∀ u, adj u ⊆ nodes

namespace Digraph

/-- The edge relation between nodes. -/
def Edge (g : Digraph α) (u v : α) : Prop := u ∈ g.nodes ∧ v ∈ g.adj u

/-- No node is reached from itself by one or more edges. -/
def Acyclic (g : Digraph α) : Prop := ∀ v, ¬Relation.TransGen g.Edge v v

/-- The unfinished predecessors of a node. -/
def pending (g : Digraph α) (done : Finset α) (v : α) : Finset α :=
  (g.nodes.toFinset \ done).filter (fun u => v ∈ g.adj u)

/-- A node is available when it is unfinished and all its predecessors are finished. -/
def Avail (g : Digraph α) (done : Finset α) (v : α) : Prop :=
  v ∈ g.nodes ∧ v ∉ done ∧ ∀ u ∈ g.nodes, v ∈ g.adj u → u ∈ done

/-- A topological order: every node once, each after all its predecessors. -/
structure IsTopological (g : Digraph α) (order : List α) : Prop where
  nodup : order.Nodup
  mem_iff : ∀ v, v ∈ order ↔ v ∈ g.nodes
  before : ∀ l₁ v l₂, order = l₁ ++ v :: l₂ → ∀ u ∈ g.nodes, v ∈ g.adj u → u ∈ l₁

/-- A legal enumeration from a set of finished nodes: each node is available when its turn comes, and none is left. -/
def Legal (g : Digraph α) : Finset α → List α → Prop
  | done, [] => ∀ v ∈ g.nodes, v ∈ done
  | done, v :: rest => g.Avail done v ∧ g.Legal (insert v done) rest

/-- The greedy enumeration: the least available node each time, until none is available. -/
inductive Greedy (g : Digraph α) : Finset α → List α → Prop where
  | stop {done : Finset α} : (∀ v, ¬g.Avail done v) → Greedy g done []
  | pick {done : Finset α} {v : α} {rest : List α} :
      g.Avail done v → (∀ w, g.Avail done w → v ≤ w) → Greedy g (insert v done) rest → Greedy g done (v :: rest)

end Digraph

/-! ## The loop -/

/-- The state of the loop: the ready set, the count of unfinished predecessors, and the order so far. -/
structure State (α : Type*) where
  ready : List α
  inDegree : α → Nat
  order : List α

/-- One dependent of the node just taken: its count goes down, and at zero it becomes ready. -/
def relax (s : (α → Nat) × List α) (d : α) : (α → Nat) × List α :=
  let degree := Function.update s.1 d (s.1 d - 1)
  (degree, if degree d = 0 then OrdSet.insert d s.2 else s.2)

/-- One turn of the loop: list the node popped from the ready set and relax its dependents. -/
def take (g : Digraph α) (s : State α) (v : α) (ready : List α) : State α :=
  let r := (g.adj v).foldl relax (s.inDegree, ready)
  { ready := r.2, inDegree := r.1, order := s.order ++ [v] }

/-- The loop: pop the least ready node and take it, until the ready set is empty. The fuel bounds the number of turns. -/
def run (g : Digraph α) : Nat → State α → State α
  | 0, s => s
  | n + 1, s =>
    match s.ready with
    | [] => s
    | v :: ready => run g n (take g s v ready)

/-- The counts the loop starts from: every edge adds one to its target. -/
def inDegrees (g : Digraph α) (v : α) : Nat := g.nodes.countP (fun u => v ∈ g.adj u)

/-- The state the loop starts from: the nodes without predecessors are ready. -/
def start (g : Digraph α) : State α :=
  { ready := OrdSet.ofList (g.nodes.filter (fun v => inDegrees g v = 0)), inDegree := inDegrees g, order := [] }

/-- The order the algorithm returns. -/
def order (g : Digraph α) : List α := (run g g.nodes.length (start g)).order

/-! ## Relaxing the dependents -/

theorem foldl_relax_degree (l : List α) (hl : l.Nodup) :
    ∀ (s : (α → Nat) × List α) (v : α), (l.foldl relax s).1 v = if v ∈ l then s.1 v - 1 else s.1 v := by
  induction l with
  | nil => intro s v; simp
  | cons d l ih =>
    intro s v
    obtain ⟨hd, hl⟩ := List.nodup_cons.mp hl
    rw [List.foldl_cons, ih hl]
    by_cases hv : v = d
    · subst hv
      simp [relax, hd]
    · simp [relax, hv]

theorem foldl_relax_ready (l : List α) (hl : l.Nodup) :
    ∀ (s : (α → Nat) × List α) (v : α), v ∈ (l.foldl relax s).2 ↔ v ∈ s.2 ∨ (v ∈ l ∧ s.1 v - 1 = 0) := by
  induction l with
  | nil => intro s v; simp
  | cons d l ih =>
    intro s v
    obtain ⟨hd, hl⟩ := List.nodup_cons.mp hl
    rw [List.foldl_cons, ih hl]
    by_cases hv : v = d
    · subst hv
      by_cases hz : s.1 v - 1 = 0 <;> simp [relax, hd, hz]
    · by_cases hz : s.1 d - 1 = 0 <;> simp [relax, hv, hz]

theorem foldl_relax_sorted (l : List α) :
    ∀ s : (α → Nat) × List α, s.2.Pairwise (· < ·) → (l.foldl relax s).2.Pairwise (· < ·) := by
  induction l with
  | nil => intro s h; exact h
  | cons d l ih =>
    intro s h
    rw [List.foldl_cons]
    apply ih
    simp only [relax]
    split
    · exact OrdSet.sorted_insert h
    · exact h

/-! ## What the loop keeps -/

namespace Digraph

/-- Finishing a node takes one from the pending predecessors of its dependents and nothing from the others. -/
theorem card_pending_insert (g : Digraph α) {done : Finset α} {v : α} (hv : v ∈ g.nodes) (hd : v ∉ done) (w : α) :
    (g.pending (insert v done) w).card =
      if w ∈ g.adj v then (g.pending done w).card - 1 else (g.pending done w).card := by
  have hset : g.nodes.toFinset \ insert v done = (g.nodes.toFinset \ done).erase v := by
    ext x
    simp only [Finset.mem_sdiff, Finset.mem_insert, Finset.mem_erase]
    tauto
  have hmem : v ∈ g.nodes.toFinset \ done := Finset.mem_sdiff.mpr ⟨List.mem_toFinset.mpr hv, hd⟩
  unfold pending
  rw [hset, Finset.filter_erase]
  by_cases hw : w ∈ g.adj v
  · rw [if_pos hw, Finset.card_erase_of_mem (Finset.mem_filter.mpr ⟨hmem, hw⟩)]
  · rw [if_neg hw, Finset.erase_eq_of_notMem]
    simp [hw]

/-- A node is available exactly when it is unfinished and has nothing pending. -/
theorem avail_iff (g : Digraph α) (done : Finset α) (v : α) :
    g.Avail done v ↔ v ∈ g.nodes ∧ v ∉ done ∧ (g.pending done v).card = 0 := by
  simp only [Avail, pending, Finset.card_eq_zero, Finset.filter_eq_empty_iff, Finset.mem_sdiff, List.mem_toFinset]
  constructor
  · rintro ⟨h₁, h₂, h₃⟩
    exact ⟨h₁, h₂, fun u hu hadj => hu.2 (h₃ u hu.1 hadj)⟩
  · rintro ⟨h₁, h₂, h₃⟩
    refine ⟨h₁, h₂, fun u hu hadj => ?_⟩
    by_contra hd
    exact h₃ ⟨hu, hd⟩ hadj

end Digraph

/-- The invariant of the loop at a set of finished nodes: the counts are the pending counts, the ready set is the set of
available nodes in increasing order, and no finished node has an unfinished predecessor. -/
structure Inv (g : Digraph α) (done : Finset α) (s : State α) : Prop where
  degree : ∀ v, s.inDegree v = (g.pending done v).card
  ready : ∀ v, v ∈ s.ready ↔ g.Avail done v
  sorted : s.ready.Pairwise (· < ·)
  closed : ∀ v ∈ done, ∀ u ∈ g.nodes, v ∈ g.adj u → u ∈ done

theorem inDegrees_eq (g : Digraph α) (v : α) : inDegrees g v = (g.pending ∅ v).card := by
  unfold inDegrees Digraph.pending
  rw [List.countP_eq_length_filter, Finset.sdiff_empty, ← List.toFinset_card_of_nodup (g.nodes_nodup.filter _),
    List.toFinset_filter]
  simp only [decide_eq_true_eq]

theorem inv_start (g : Digraph α) : Inv g ∅ (start g) where
  degree v := inDegrees_eq g v
  ready v := by simp [start, inDegrees_eq, g.avail_iff]
  sorted := OrdSet.sorted_ofList _
  closed v hv := by simp at hv

/-- One turn of the loop keeps the invariant, with the node taken finished. -/
theorem inv_take (g : Digraph α) {done : Finset α} {s : State α} (h : Inv g done s) {v : α} {ready : List α}
    (hv : s.ready = v :: ready) : Inv g (insert v done) (take g s v ready) := by
  obtain ⟨hn, hd, hp⟩ := (h.ready v).mp (hv ▸ List.mem_cons_self)
  have hsort := h.sorted
  rw [hv, List.pairwise_cons] at hsort
  have hrest : ∀ w, w ∈ ready ↔ w ≠ v ∧ g.Avail done w := by
    intro w
    rw [← h.ready, hv, List.mem_cons]
    constructor
    · intro hw
      exact ⟨ne_of_gt (hsort.1 w hw), Or.inr hw⟩
    · rintro ⟨hne, rfl | hw⟩
      · exact absurd rfl hne
      · exact hw
  refine ⟨?_, ?_, ?_, ?_⟩
  · intro w
    simp only [take, foldl_relax_degree _ (g.adj_nodup v), g.card_pending_insert hn hd, h.degree]
  · intro w
    simp only [take, foldl_relax_ready _ (g.adj_nodup v), hrest, h.degree, g.avail_iff, g.card_pending_insert hn hd,
      Finset.mem_insert, not_or]
    constructor
    · rintro (⟨hne, hwn, hwd, hw0⟩ | ⟨hadj, hw0⟩)
      · refine ⟨hwn, ⟨hne, hwd⟩, ?_⟩
        split <;> omega
      · -- a dependent of the unfinished `v` is neither `v` nor finished
        refine ⟨g.adj_subset v hadj, ⟨?_, fun hwd => hd (h.closed w hwd v hn hadj)⟩, by rw [if_pos hadj]; exact hw0⟩
        rintro rfl
        exact hd (hp w hn hadj)
    · rintro ⟨hwn, ⟨hne, hwd⟩, hw0⟩
      by_cases hadj : w ∈ g.adj v
      · rw [if_pos hadj] at hw0
        exact Or.inr ⟨hadj, hw0⟩
      · rw [if_neg hadj] at hw0
        exact Or.inl ⟨hne, hwn, hwd, hw0⟩
  · exact foldl_relax_sorted _ _ hsort.2
  · intro w hw u hu hadj
    rcases Finset.mem_insert.mp hw with rfl | hw
    · exact Finset.mem_insert_of_mem (hp u hu hadj)
    · exact Finset.mem_insert_of_mem (h.closed w hw u hu hadj)

/-- The loop extends the order by a greedy enumeration, when the fuel covers the unfinished nodes. -/
theorem run_greedy (g : Digraph α) (n : Nat) : ∀ (done : Finset α) (s : State α), Inv g done s →
    (g.nodes.toFinset \ done).card ≤ n → ∃ rest, (run g n s).order = s.order ++ rest ∧ g.Greedy done rest := by
  induction n with
  | zero =>
    intro done s h hn
    refine ⟨[], by simp [run], .stop fun v hv => ?_⟩
    have hempty := Finset.card_eq_zero.mp (Nat.le_zero.mp hn)
    have hmem : v ∈ g.nodes.toFinset \ done := Finset.mem_sdiff.mpr ⟨List.mem_toFinset.mpr hv.1, hv.2.1⟩
    simp [hempty] at hmem
  | succ n ih =>
    intro done s h hn
    cases hr : s.ready with
    | nil =>
      refine ⟨[], by simp [run, hr], .stop fun v hv => ?_⟩
      have := (h.ready v).mpr hv
      simp [hr] at this
    | cons v ready =>
      obtain ⟨hvn, hvd, hvp⟩ := (h.ready v).mp (hr ▸ List.mem_cons_self)
      have hcard : (g.nodes.toFinset \ insert v done).card ≤ n := by
        have hmem : v ∈ g.nodes.toFinset \ done := Finset.mem_sdiff.mpr ⟨List.mem_toFinset.mpr hvn, hvd⟩
        have hlt := Finset.card_lt_card (Finset.ssubset_iff_of_subset (Finset.sdiff_subset_sdiff
          (Finset.Subset.refl g.nodes.toFinset) (Finset.subset_insert v done)) |>.mpr ⟨v, hmem, by simp⟩)
        omega
      obtain ⟨rest, ho, hgr⟩ := ih _ _ (inv_take g h hr) hcard
      refine ⟨v :: rest, ?_, .pick ⟨hvn, hvd, hvp⟩ ?_ hgr⟩
      · rw [run, hr]
        simp only [ho]
        simp [take]
      · intro w hw
        have hwr := (h.ready w).mpr hw
        have hsort := h.sorted
        rw [hr] at hwr hsort
        rcases List.mem_cons.mp hwr with rfl | hwr
        · exact le_refl _
        · exact le_of_lt ((List.pairwise_cons.mp hsort).1 w hwr)

/-- The order of the algorithm is the greedy enumeration of the graph. -/
theorem order_greedy (g : Digraph α) : g.Greedy ∅ (order g) := by
  have hfuel : (g.nodes.toFinset \ ∅).card ≤ g.nodes.length := by
    rw [Finset.sdiff_empty]
    exact List.toFinset_card_le g.nodes
  obtain ⟨rest, ho, hgr⟩ := run_greedy g g.nodes.length ∅ (start g) (inv_start g) hfuel
  have hrest : order g = rest := ho.trans (List.nil_append rest)
  exact hrest ▸ hgr

theorem Digraph.Greedy.mem_nodes {g : Digraph α} {done : Finset α} {o : List α} (h : g.Greedy done o) {v : α} (hv : v ∈ o) :
    v ∈ g.nodes := by
  induction h with
  | stop => cases hv
  | pick havail _ _ ih =>
    rcases List.mem_cons.mp hv with rfl | hv
    · exact havail.1
    · exact ih hv

/-- Only nodes are listed, whether the graph has a cycle or not. -/
theorem mem_nodes_of_mem_order (g : Digraph α) {v : α} (hv : v ∈ order g) : v ∈ g.nodes := (order_greedy g).mem_nodes hv

/-! ## Greedy enumerations of an acyclic graph -/

namespace Digraph

/-- In an acyclic graph some unfinished node has all its predecessors finished, as long as one is unfinished. -/
theorem exists_avail (g : Digraph α) (ha : g.Acyclic) (done : Finset α) {x : α} (hxn : x ∈ g.nodes) (hxd : x ∉ done) :
    ∃ v, g.Avail done v := by
  let R : {v // v ∈ g.nodes} → {v // v ∈ g.nodes} → Prop := fun u v => Relation.TransGen g.Edge u.1 v.1
  have : IsTrans _ R := ⟨fun _ _ _ h h' => Relation.TransGen.trans h h'⟩
  have : Std.Irrefl R := ⟨fun v h => ha v.1 h⟩
  have : Finite {v // v ∈ g.nodes} := List.finite_toSet g.nodes
  have hwf : WellFounded R := Finite.wellFounded_of_trans_of_irrefl R
  obtain ⟨v, hvd, hmin⟩ := hwf.has_min {v | v.1 ∉ done} ⟨⟨x, hxn⟩, hxd⟩
  refine ⟨v.1, v.2, hvd, fun u hu hadj => ?_⟩
  by_contra hud
  exact hmin ⟨u, hu⟩ hud (Relation.TransGen.single ⟨hu, hadj⟩)

/-- A greedy enumeration of an acyclic graph leaves no node out. -/
theorem Greedy.legal {g : Digraph α} (ha : g.Acyclic) {done : Finset α} {o : List α} (h : g.Greedy done o) :
    g.Legal done o := by
  induction h with
  | @stop done hstop =>
    intro v hv
    by_contra hd
    obtain ⟨w, hw⟩ := g.exists_avail ha done hv hd
    exact hstop w hw
  | pick hv _ _ ih => exact ⟨hv, ih⟩

/-- No legal enumeration is lexicographically before the greedy one. -/
theorem Greedy.le_of_legal {g : Digraph α} {done : Finset α} {o : List α} (h : g.Greedy done o) :
    ∀ o', g.Legal done o' → o = o' ∨ List.Lex (· < ·) o o' := by
  induction h with
  | stop hstop =>
    intro o' ho'
    cases o' with
    | nil => exact Or.inl rfl
    | cons w rest => exact absurd ho'.1 (hstop w)
  | @pick done v rest hv hmin _ ih =>
    intro o' ho'
    cases o' with
    | nil => exact absurd (ho' v hv.1) hv.2.1
    | cons w rest' =>
      rcases (hmin w ho'.1).lt_or_eq with hlt | rfl
      · exact Or.inr (.rel hlt)
      · rcases ih rest' ho'.2 with rfl | hlex
        · exact Or.inl rfl
        · exact Or.inr (.cons hlex)

/-- A legal enumeration lists unfinished nodes once each, and every node is finished or listed. -/
theorem Legal.nodup_mem {g : Digraph α} : ∀ (o : List α) (done : Finset α), g.Legal done o →
    o.Nodup ∧ (∀ v ∈ o, v ∈ g.nodes ∧ v ∉ done) ∧ ∀ v ∈ g.nodes, v ∈ done ∨ v ∈ o
  | [], done, h => ⟨List.nodup_nil, by simp, fun v hv => Or.inl (h v hv)⟩
  | v :: o, done, ⟨hv, ho⟩ => by
    obtain ⟨hnd, hdisj, hall⟩ := Legal.nodup_mem o _ ho
    refine ⟨List.nodup_cons.mpr ⟨fun hm => (hdisj v hm).2 (Finset.mem_insert_self _ _), hnd⟩, ?_, ?_⟩
    · intro w hw
      rcases List.mem_cons.mp hw with rfl | hw
      · exact ⟨hv.1, hv.2.1⟩
      · exact ⟨(hdisj w hw).1, fun hd => (hdisj w hw).2 (Finset.mem_insert_of_mem hd)⟩
    · intro w hw
      have := hall w hw
      simp only [Finset.mem_insert, List.mem_cons] at this ⊢
      tauto

/-- In a legal enumeration every node comes after its unfinished predecessors. -/
theorem Legal.before {g : Digraph α} : ∀ (o : List α) (done : Finset α), g.Legal done o →
    ∀ l₁ v l₂, o = l₁ ++ v :: l₂ → ∀ u ∈ g.nodes, v ∈ g.adj u → u ∈ done ∨ u ∈ l₁
  | [], _, _, l₁, v, l₂, h, _, _, _ => by simp at h
  | w :: o, done, ⟨hw, ho⟩, [], v, l₂, h, u, hu, hadj => by
    obtain ⟨rfl, rfl⟩ := List.cons.inj h
    exact Or.inl (hw.2.2 u hu hadj)
  | w :: o, done, ⟨hw, ho⟩, x :: l₁, v, l₂, h, u, hu, hadj => by
    obtain ⟨rfl, rfl⟩ := List.cons.inj h
    rcases Legal.before _ _ ho l₁ v l₂ rfl u hu hadj with hd | hl
    · rcases Finset.mem_insert.mp hd with rfl | hd
      · exact Or.inr List.mem_cons_self
      · exact Or.inl hd
    · exact Or.inr (List.mem_cons_of_mem _ hl)

/-- A legal enumeration from nothing is a topological order. -/
theorem Legal.isTopological {g : Digraph α} {o : List α} (h : g.Legal ∅ o) : g.IsTopological o where
  nodup := (Legal.nodup_mem o ∅ h).1
  mem_iff v := ⟨fun hv => ((Legal.nodup_mem o ∅ h).2.1 v hv).1,
    fun hv => by simpa using (Legal.nodup_mem o ∅ h).2.2 v hv⟩
  before l₁ v l₂ ho u hu hadj := by simpa using Legal.before o ∅ h l₁ v l₂ ho u hu hadj

/-- A topological order, cut anywhere, is a legal enumeration of what follows the cut. -/
theorem IsTopological.legal_of_append {g : Digraph α} {o : List α} (h : g.IsTopological o) :
    ∀ l₂ l₁, o = l₁ ++ l₂ → g.Legal l₁.toFinset l₂ := by
  intro l₂
  induction l₂ with
  | nil =>
    intro l₁ ho v hv
    have := (h.mem_iff v).mpr hv
    rw [ho, List.append_nil] at this
    exact List.mem_toFinset.mpr this
  | cons v l₂ ih =>
    intro l₁ ho
    have hnd := h.nodup
    rw [ho] at hnd
    refine ⟨⟨(h.mem_iff v).mp (by simp [ho]), ?_, fun u hu hadj => ?_⟩, ?_⟩
    · rw [List.mem_toFinset]
      exact fun hm => (List.disjoint_of_nodup_append hnd) hm List.mem_cons_self
    · exact List.mem_toFinset.mpr (h.before l₁ v l₂ ho u hu hadj)
    · have hins : insert v l₁.toFinset = (l₁ ++ [v]).toFinset := by
        ext x
        simp
      rw [hins]
      exact ih (l₁ ++ [v]) (by simp [ho])

end Digraph

/-- Over an acyclic graph the algorithm returns a topological order. -/
theorem order_isTopological (g : Digraph α) (ha : g.Acyclic) : g.IsTopological (order g) :=
  ((order_greedy g).legal ha).isTopological

/-- The order of the algorithm is the lexicographically least topological order. -/
theorem order_le (g : Digraph α) (o : List α) (ho : g.IsTopological o) :
    order g = o ∨ List.Lex (· < ·) (order g) o :=
  (order_greedy g).le_of_legal o (by simpa using ho.legal_of_append o [] rfl)

end Kahn
