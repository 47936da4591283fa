import Rho.Theorems.Scopes

/-!
# A refused publication

A candidate that is refused is disposed, and a disposal goes down to the children of the scope. A refusal leaves the published
scopes as they were exactly when none of them that routes is a candidate or below one: a candidate is not compared with what is in
the slots before it is disposed.
-/

namespace Rho

open Run ScopeAux ScopeManager

/-! ## The scopes below a scope -/

/-- A disposal of the first goes on to the second: a scope with a report is not disposed again. -/
def ChildOf (h : Heap) (p c : Ptr) : Prop := ∃ s, h[p]? = some s ∧ s.report = none ∧ c ∈ s.children

/-- The scope itself and those that its disposal can come to. -/
def Below (h : Heap) : Ptr → Ptr → Prop := Relation.ReflTransGen (ChildOf h)

namespace ScopeAux

section Below

variable {h h' : Heap} {p q : Ptr}

theorem childOf_winds (hw : WindsDown h h') {a b : Ptr} (hab : ChildOf h' a b) : ChildOf h a b := by
  obtain ⟨s', hs', hreport, hb⟩ := hab
  obtain ⟨s, hs, hwinds⟩ := hw.get_before hs'
  refine ⟨s, hs, ?_, hwinds.children ▸ hb⟩
  cases hr : s.report with
  | none => rfl
  | some report =>
    have hsome := hwinds.report (by rw [hr]; rfl)
    rw [hreport] at hsome
    cases hsome

/-- Winding down cuts scopes off and joins none. -/
theorem below_winds (hw : WindsDown h h') (hb : Below h' p q) : Below h p q :=
  Relation.ReflTransGen.mono (fun _ _ => childOf_winds hw) _ _ hb

theorem get_foldl {dispose : Ptr → Heap → Heap × Option ScopeDisposeReport} (hd : ∀ c h, WindsDown h (dispose c h).1)
    (hq : ∀ c h, ¬Below h c q → (dispose c h).1[q]? = h[q]?) (children : List Ptr) (loop : ChildLoop)
    (hc : ∀ c ∈ children, ¬Below loop.heap c q) :
    (children.foldl (fun (loop : ChildLoop) child => loop.record child (dispose child loop.heap)) loop).heap[q]? =
      loop.heap[q]? := by
  induction children generalizing loop with
  | nil => rfl
  | cons c children ih =>
    rw [List.foldl_cons, ih, heap_record]
    · exact hq c loop.heap (hc c List.mem_cons_self)
    · intro c' hc' hb
      rw [heap_record] at hb
      exact hc c' (List.mem_cons_of_mem _ hc') (below_winds (hd c loop.heap) hb)

/-- The children's loop leaves what is not below the scope. -/
theorem get_childLoop {children : Ptr → Teardown} {s : ScopeSnapshot} (hs : h[p]? = some s) (hnone : s.report = none)
    (hq : ∀ c h, ¬Below h c q → (quiesceAndDispose (children c) c h).1[q]? = h[q]?) (hb : ¬Below h p q) :
    (childLoop children p h s hnone).heap[q]? = h[q]? := by
  have hne : p ≠ q := by
    rintro rfl
    exact hb .refl
  have hstart : (h.set p (s.enterDisposing hnone))[q]? = h[q]? := List.getElem?_set_ne hne
  refine Eq.trans ?_ hstart
  refine get_foldl (fun c h => windsDown_quiesce (children c) c h) hq _ _ ?_
  intro c hc hbelow
  refine hb (.head ⟨s, hs, hnone, List.mem_reverse.mp hc⟩ ?_)
  exact below_winds (windsDown_enterDisposing hs hnone) hbelow

/-- A disposal touches nothing but the scope and what is below it. -/
theorem get_quiesce (t : Teardown) (hb : ¬Below h p q) : (quiesceAndDispose t p h).1[q]? = h[q]? := by
  have hne : ∀ {p : Ptr} {h : Heap}, ¬Below h p q → p ≠ q := by
    rintro p h hb rfl
    exact hb .refl
  induction t generalizing p h with
  | skipped => rfl
  | abandoned disposing children ih =>
    cases hs : h[p]? with
    | none => rw [quiesce_missing _ hs]
    | some s =>
      by_cases hnone : s.report = none
      · cases disposing with
        | false => rw [quiesce_abandoned children hs hnone, List.getElem?_set_ne (hne hb)]
        | true =>
          rw [quiesce_abandoned_disposing children hs hnone]
          exact get_childLoop hs hnone (fun c h hb => ih c hb) hb
      · rw [quiesce_reported _ hs hnone]
  | finished quiesceTimedOut children pluginsFailed ih =>
    cases hs : h[p]? with
    | none => rw [quiesce_missing _ hs]
    | some s =>
      by_cases hnone : s.report = none
      · rw [quiesce_finished quiesceTimedOut children pluginsFailed hs hnone, List.getElem?_set_ne (hne hb)]
        exact get_childLoop hs hnone (fun c h hb => ih c hb) hb
      · rw [quiesce_reported _ hs hnone]

end Below

/-! ## A disposal that comes to a scope -/

/-- The heap is wound down and no report is written. -/
def WindsQuietly (h h' : Heap) : Prop := HeapRel (fun s s' => Winds s s' ∧ s'.report = s.report) h h'

section Quiet

variable {h h' h'' : Heap} {p q : Ptr}

theorem WindsQuietly.refl (h : Heap) : WindsQuietly h h := HeapRel.refl (fun s => ⟨Winds.refl s, rfl⟩) h

theorem WindsQuietly.trans (h₁ : WindsQuietly h h') (h₂ : WindsQuietly h' h'') : WindsQuietly h h'' :=
  HeapRel.trans (fun ha hb => ⟨ha.1.trans hb.1, hb.2.trans ha.2⟩) h₁ h₂

theorem WindsQuietly.winds (hq : WindsQuietly h h') : WindsDown h h' := HeapRel.mono (fun _ _ hw => hw.1) hq

theorem quietly_enterDisposing {s : ScopeSnapshot} (hs : h[p]? = some s) (hnone : s.report = none) :
    WindsQuietly h (h.set p (s.enterDisposing hnone)) :=
  HeapRel.set (WindsQuietly.refl h) hs ⟨winds_enterDisposing s hnone, rfl⟩

/-- The path stays when nothing is reported. -/
theorem childOf_quietly (hq : WindsQuietly h h') {a b : Ptr} (hab : ChildOf h a b) : ChildOf h' a b := by
  obtain ⟨s, hs, hreport, hb⟩ := hab
  obtain ⟨s', hs', hwinds, hsame⟩ := hq.get hs
  exact ⟨s', hs', hsame.trans hreport, hwinds.children ▸ hb⟩

/-- A teardown whose parts are all dropped on the way. -/
def AllDropped : Teardown → Prop
  | .skipped => True
  | .abandoned _ children => ∀ c, AllDropped (children c)
  | .finished _ _ _ => False

theorem quietly_quiesce {t : Teardown} (ht : AllDropped t) (p : Ptr) (h : Heap) :
    WindsQuietly h (quiesceAndDispose t p h).1 := by
  induction t generalizing p h with
  | skipped => exact WindsQuietly.refl h
  | abandoned disposing children ih =>
    cases hs : h[p]? with
    | none => rw [quiesce_missing _ hs]; exact WindsQuietly.refl h
    | some s =>
      by_cases hnone : s.report = none
      · cases disposing with
        | false =>
          rw [quiesce_abandoned children hs hnone]
          exact HeapRel.set (WindsQuietly.refl h) hs ⟨winds_beginQuiesce s, rfl⟩
        | true =>
          rw [quiesce_abandoned_disposing children hs hnone]
          exact (quietly_enterDisposing hs hnone).trans
            (rel_foldl WindsQuietly.refl WindsQuietly.trans (fun c h => ih c (ht c) c h) _ ⟨_, [], false⟩)
      · rw [quiesce_reported _ hs hnone]
        exact WindsQuietly.refl h
  | finished quiesceTimedOut children pluginsFailed => cases ht

/-- A disposal whose children's disposals are all dropped comes to each of the children with no report written. -/
theorem visits_quietly {t : Teardown} {children : Ptr → Teardown} (ht : t.onChildren = some children)
    (hdropped : ∀ c, AllDropped (children c)) {s : ScopeSnapshot} (hs : h[p]? = some s) (hnone : s.report = none) {c : Ptr}
    (hc : c ∈ s.children) :
    ∃ h₀, WindsQuietly h h₀ ∧ WindsDown (quiesceAndDispose (children c) c h₀).1 (quiesceAndDispose t p h).1 := by
  obtain ⟨h₀, hbefore, hafter⟩ := visits_run WindsQuietly.refl WindsQuietly.trans
    (fun child => quiesceAndDispose (children child) child) (fun c h => quietly_quiesce (hdropped c) c h)
    (h.set p (s.enterDisposing hnone)) hc
  have hstart := (quietly_enterDisposing hs hnone).trans hbefore
  refine ⟨h₀, hstart, ?_⟩
  cases t with
  | skipped => cases ht
  | abandoned disposing children' =>
    cases disposing with
    | false => cases ht
    | true =>
      cases ht
      rw [quiesce_abandoned_disposing children hs hnone]
      exact hafter.winds
  | finished quiesceTimedOut children' pluginsFailed =>
    cases ht
    rw [quiesce_finished quiesceTimedOut children pluginsFailed hs hnone]
    obtain ⟨s₁, hs₁, hwinds⟩ := (hstart.winds.trans (windsDown_quiesce (children c) c h₀)).get hs
    exact HeapRel.set hafter.winds hs₁ (hwinds.disposedAs _)

/-- The scope does not route. -/
def ClosedIn (h : Heap) (q : Ptr) : Prop := ∀ s, h[q]? = some s → s.routing = false

theorem ClosedIn.winds (hc : ClosedIn h q) (hw : WindsDown h h') : ClosedIn h' q := by
  intro s' hs'
  obtain ⟨s, hs, hwinds⟩ := hw.get_before hs'
  exact Bool.eq_false_iff.mpr fun hr => Bool.false_ne_true ((hc s hs).symm.trans (hwinds.routing hr))

/-- For every scope below another there is a way the disposal of the other can go, dropped at last, that closes it. -/
theorem exists_dropped (hb : Below h p q) :
    ∃ t, AllDropped t ∧ ∀ h', WindsQuietly h h' → ClosedIn (quiesceAndDispose t p h').1 q := by
  induction hb using Relation.ReflTransGen.head_induction_on with
  | refl =>
    refine ⟨.abandoned false (fun _ => .skipped), fun _ => trivial, ?_⟩
    intro h' _ s hs
    exact closed_quiesce (t := .abandoned false (fun _ => .skipped)) trivial hs
  | head hstep _ ih =>
    obtain ⟨t, ht, hcloses⟩ := ih
    refine ⟨.abandoned true (fun _ => t), fun _ => ht, ?_⟩
    intro h' hquiet
    obtain ⟨s, hs, hnone, hc⟩ := childOf_quietly hquiet hstep
    obtain ⟨h₀, hbefore, hafter⟩ := visits_quietly (t := .abandoned true (fun _ => t)) rfl (fun _ => ht) hs hnone hc
    exact (hcloses h₀ (hquiet.trans hbefore)).winds hafter

/-- The same for a disposal that is carried through. -/
theorem exists_disposal (hb : Below h p q) : ∃ d : Disposal, ClosedIn (quiesceAndDispose d.teardown p h).1 q := by
  rcases Relation.ReflTransGen.cases_head hb with rfl | ⟨c, hstep, hrest⟩
  · exact ⟨calm, fun s hs => closed_quiesce (t := calm.teardown) trivial hs⟩
  · obtain ⟨t, ht, hcloses⟩ := exists_dropped hrest
    obtain ⟨s, hs, hnone, hc⟩ := hstep
    refine ⟨⟨false, fun _ => t, false⟩, ?_⟩
    obtain ⟨h₀, hbefore, hafter⟩ := visits_quietly (t := .finished false (fun _ => t) false) rfl (fun _ => ht) hs hnone hc
    exact (hcloses h₀ hbefore).winds hafter

end Quiet

end ScopeAux

/-! ## What a refusal must leave -/

/-- The scope is the published project or the published workspace. -/
def ScopeManager.InSlot (m : ScopeManager) (q : Ptr) : Prop := ∃ slot, m.current slot = some q

/-- The slots, their routing and the children of the registered scopes are as before, and the candidates are disposed and closed. -/
structure RolledBack (m m' : ScopeManager) (candidates : List Ptr) : Prop where
  project : m'.project = m.project
  workspace : m'.workspace = m.workspace
  routing : ∀ q, m.InSlot q → (m'.Routable q ↔ m.Routable q)
  children : ∀ q, q = m.application ∨ m.InSlot q → m'.childrenOf q = m.childrenOf q
  candidates : ∀ c ∈ candidates, m'.Disposed c ∧ ¬m'.Routable c

/-- No published scope that routes is a candidate or below one. -/
def ScopeManager.Spares (m : ScopeManager) (candidates : List Ptr) : Prop :=
  ∀ c ∈ candidates, ∀ q, Below m.heap c q → m.InSlot q → ¬m.Routable q

namespace ScopeAux

/-- What is published is a snapshot, and it has been started. -/
structure PublishedOk (m : ScopeManager) : Prop where
  application : m.application < m.heap.length
  slotsIn : SlotsIn m
  started : ∀ q, q = m.application ∨ m.InSlot q → m.stateOf q ≠ some .ready

section Refusal

variable {m m' m₁ : ScopeManager} {c q : Ptr}

theorem closedIn_of_not_routable (h : ClosedIn m.heap q) : ¬m.Routable q := by
  rintro ⟨s, hs, hrouting⟩
  rw [h s hs] at hrouting
  cases hrouting

/-- A refusal that spares the published scopes leaves them as they were. -/
theorem rolledBack_of_spares (hlt : c < m.heap.length) (hspares : m.Spares [c]) (d : Disposal) :
    RolledBack m (m.retire d c).1 [c] := by
  have hwound := wound_retire hlt d
  refine ⟨hwound.project, hwound.workspace, ?_, fun q _ => childrenOf_winds hwound.heap q, ?_⟩
  · intro q hq
    refine ⟨routable_winds hwound.heap, ?_⟩
    intro hroutable
    have hbelow : ¬Below m.heap c q := fun hb => hspares c (List.mem_singleton.mpr rfl) q hb hq hroutable
    obtain ⟨s, hs, hrouting⟩ := hroutable
    refine ⟨s, ?_, hrouting⟩
    rw [retire_eq hlt]
    exact (get_quiesce d.teardown hbelow).trans hs
  · intro c' hc'
    have hdisposed := hwound.disposed c' hc'
    exact ⟨hdisposed, not_routable_of_disposed hdisposed⟩

/-- A refusal that rolls back however the disposal goes spares the published scopes. -/
theorem spares_of_rolledBack (hlt : c < m.heap.length) (hback : ∀ d, RolledBack m (m.retire d c).1 [c]) : m.Spares [c] := by
  intro c' hc' q hb hq hroutable
  cases List.mem_singleton.mp hc'
  obtain ⟨d, hclosed⟩ := exists_disposal hb
  refine closedIn_of_not_routable (m := (m.retire d c).1) ?_ (((hback d).routing q hq).mpr hroutable)
  rw [retire_eq hlt]
  exact hclosed

variable {expected : Option Ptr} {t : ScopeManager.TreePublication} {a b w : Ptr}

theorem publishWorkspace_accepted {project : Ptr} (accepts : m.AcceptsWorkspace expected c project)
    (d : Disposal) : ∃ report, (m.publishWorkspace expected c d).2 = .ok report := by
  obtain ⟨hproject, ⟨wi, pi, hwi, hpi, hid⟩, hready, hcurrent⟩ := accepts
  have hparent : ¬(m.identityOf c).bind (·.parentId) ≠ (m.identityOf project).map (·.id) := by
    rw [hwi, hpi, Option.bind_some, Option.map_some, hid, not_not]
  have hsame : ¬m.current .workspace ≠ expected := not_not.mpr hcurrent
  unfold publishWorkspace publishWith
  rw [stateOf] at hready
  simp only [hproject, if_neg hparent, hready, if_neg hsame]
  exact ⟨_, rfl⟩

/-- A workspace candidate that is not accepted is refused and disposed. -/
theorem publishWorkspace_refused (hin : SlotsIn m) (hlt : c < m.heap.length)
    (hnot : ¬∃ project, m.AcceptsWorkspace expected c project) (d : Disposal) :
    (m.publishWorkspace expected c d).1 = (m.retire d c).1 ∧ ∃ e, (m.publishWorkspace expected c d).2 = .error e := by
  have hget : m.heap[c]? = some m.heap[c] := List.getElem?_eq_getElem hlt
  unfold publishWorkspace
  cases hproject : m.project with
  | none => exact ⟨rfl, _, rfl⟩
  | some project =>
    have hpi := List.getElem?_eq_getElem (hin .project project hproject)
    simp only
    split
    · exact ⟨rfl, _, rfl⟩
    · next hparent =>
      unfold publishWith
      split
      · next hready =>
        split
        · exact ⟨rfl, _, rfl⟩
        · next hcurrent =>
          rw [identityOf, identityOf, hpi, not_not] at hparent
          obtain ⟨wi, hwi, hid⟩ := Option.bind_eq_some_iff.mp hparent
          exact absurd ⟨project, hproject, ⟨wi, _, hwi, by rw [identityOf, hpi]; rfl, hid⟩, hready,
            not_not.mp hcurrent⟩ hnot
      · exact ⟨rfl, _, rfl⟩
      · next hmissing =>
        rw [hget] at hmissing
        cases hmissing

theorem publishWorkspace_rolls_back (hin : SlotsIn m) (expected : Option Ptr) (hlt : c < m.heap.length) :
    (∀ d e, (m.publishWorkspace expected c d).2 = .error e → RolledBack m (m.publishWorkspace expected c d).1 [c]) ↔
      (∃ project, m.AcceptsWorkspace expected c project) ∨ m.Spares [c] := by
  by_cases haccepts : ∃ project, m.AcceptsWorkspace expected c project
  · refine ⟨fun _ => Or.inl haccepts, ?_⟩
    intro _ d e herror
    obtain ⟨project, haccepts⟩ := haccepts
    obtain ⟨report, hreport⟩ := publishWorkspace_accepted haccepts d
    rw [hreport] at herror
    cases herror
  · have hrefused := publishWorkspace_refused hin hlt haccepts
    constructor
    · intro hback
      refine Or.inr (spares_of_rolledBack hlt fun d => ?_)
      obtain ⟨hstate, e, herror⟩ := hrefused d
      rw [← hstate]
      exact hback d e herror
    · intro hcondition d e _
      rw [(hrefused d).1]
      exact rolledBack_of_spares hlt (hcondition.resolve_left haccepts) d

/-! ### Two candidates -/

/-- The state in which the two candidates of a tree are refused: the state before, or the one in which the workspace candidate is
attached to the project candidate. -/
structure Prepared (m m₁ : ScopeManager) (t : ScopeManager.TreePublication) : Prop where
  length : m₁.heap.length = m.heap.length
  project : m₁.project = m.project
  workspace : m₁.workspace = m.workspace
  routable : ∀ q, m₁.Routable q ↔ m.Routable q
  children : ∀ q, q = m.application ∨ m.InSlot q → m₁.childrenOf q = m.childrenOf q
  kept : ∀ a q, Below m.heap a q → Below m₁.heap a q
  added : ∀ a q, Below m₁.heap a q → Below m.heap a q ∨ Below m.heap t.workspaceCandidate q

theorem prepared_refl (m : ScopeManager) (t : ScopeManager.TreePublication) : Prepared m m t :=
  ⟨rfl, rfl, rfl, fun _ => Iff.rfl, fun _ _ => rfl, fun _ _ hb => hb, fun _ _ hb => Or.inl hb⟩

theorem childOf_attachTree : ChildOf (m.attachTree t).heap a b → ChildOf m.heap a b ∨ b = t.workspaceCandidate := by
  rintro ⟨s', hs', hreport, hb⟩
  rw [attachTree, get_modify, Option.map_eq_some_iff] at hs'
  obtain ⟨s, hs, rfl⟩ := hs'
  split at hreport
  · rw [if_pos ‹_›] at hb
    rcases List.mem_append.mp hb with hold | hnew
    · exact Or.inl ⟨s, hs, hreport, hold⟩
    · exact Or.inr (List.mem_singleton.mp hnew)
  · rw [if_neg ‹_›] at hb
    exact Or.inl ⟨s, hs, hreport, hb⟩

theorem childOf_attachTree_of (hab : ChildOf m.heap a b) : ChildOf (m.attachTree t).heap a b := by
  obtain ⟨s, hs, hreport, hb⟩ := hab
  refine ⟨_, by rw [attachTree, get_modify, hs, Option.map_some], ?_, ?_⟩
  · split
    · exact hreport
    · exact hreport
  · split
    · exact List.mem_append_left _ hb
    · exact hb

theorem prepared_attachTree (hok : PublishedOk m)
    (hready : m.stateOf t.projectCandidate = some .ready) : Prepared m (m.attachTree t) t := by
  refine ⟨length_modify .., rfl, rfl, ?_, ?_, ?_, ?_⟩
  · intro q
    constructor
    · exact routable_modify_closed (f := fun s => s.withChildren (s.children ++ [t.workspaceCandidate])) (fun _ hr => hr)
    · rintro ⟨s, hs, hrouting⟩
      refine ⟨_, by rw [attachTree, get_modify, hs, Option.map_some], ?_⟩
      split
      · exact hrouting
      · exact hrouting
  · intro q hq
    have hne : t.projectCandidate ≠ q := by
      rintro rfl
      exact hok.started _ hq hready
    exact (childrenOf_modify (fun l => l ++ [t.workspaceCandidate]) (fun s => rfl) (lt_of_stateOf hready)).trans (if_neg hne)
  · intro a q hb
    exact Relation.ReflTransGen.mono (fun _ _ => childOf_attachTree_of) _ _ hb
  · intro a q hb
    induction hb using Relation.ReflTransGen.head_induction_on with
    | refl => exact Or.inl .refl
    | head hstep _ ih =>
      rcases ih with hrest | hworkspace
      · rcases childOf_attachTree hstep with hold | rfl
        · exact Or.inl (.head hold hrest)
        · exact Or.inr hrest
      · exact Or.inr hworkspace

/-- Both candidates are disposed, the workspace first. -/
def retireBoth (m : ScopeManager) (w p : Ptr) (dw dp : Disposal) : ScopeManager := ((m.retire dw w).1.retire dp p).1

theorem wound_retireBoth {p : Ptr} (hw : w < m.heap.length) (hp : p < m.heap.length) (dw dp : Disposal) :
    Wound m (retireBoth m w p dw dp) [p, w] := by
  have hworkspace := wound_retire hw dw
  exact hworkspace.trans (wound_retire (length_of_heapRel hworkspace.heap hp) dp)

theorem heap_retireBoth {p : Ptr} (hw : w < m.heap.length) (hp : p < m.heap.length) (dw dp : Disposal) :
    (retireBoth m w p dw dp).heap = (quiesceAndDispose dp.teardown p (quiesceAndDispose dw.teardown w m.heap).1).1 := by
  have hlt : p < (m.retire dw w).1.heap.length := length_of_heapRel (wound_retire hw dw).heap hp
  rw [retireBoth, retire_eq hlt, retire_eq hw]
  rfl

theorem rolledBack_tree (hprepared : Prepared m m₁ t)
    (hp : t.projectCandidate < m.heap.length) (hw : t.workspaceCandidate < m.heap.length)
    (hspares : m.Spares [t.projectCandidate, t.workspaceCandidate]) (dw dp : Disposal) :
    RolledBack m (retireBoth m₁ t.workspaceCandidate t.projectCandidate dw dp) [t.projectCandidate, t.workspaceCandidate] := by
  rw [← hprepared.length] at hp hw
  have hwound := wound_retireBoth hw hp dw dp
  refine ⟨hwound.project.trans hprepared.project, hwound.workspace.trans hprepared.workspace, ?_, ?_, ?_⟩
  · intro q hq
    refine ⟨fun hroutable => (hprepared.routable q).mp (routable_winds hwound.heap hroutable), ?_⟩
    intro hroutable
    have hworkspace : ¬Below m.heap t.workspaceCandidate q := fun hb =>
      hspares _ (List.mem_cons_of_mem _ (List.mem_singleton.mpr rfl)) q hb hq hroutable
    have hproject : ¬Below m.heap t.projectCandidate q := fun hb => hspares _ List.mem_cons_self q hb hq hroutable
    have hfirst : ¬Below m₁.heap t.workspaceCandidate q := fun hb =>
      hworkspace ((hprepared.added _ _ hb).elim id id)
    have hsecond : ¬Below (quiesceAndDispose dw.teardown t.workspaceCandidate m₁.heap).1 t.projectCandidate q := fun hb =>
      (hprepared.added _ _ (below_winds (windsDown_quiesce _ _ _) hb)).elim hproject hworkspace
    obtain ⟨s, hs, hrouting⟩ := (hprepared.routable q).mpr hroutable
    refine ⟨s, ?_, hrouting⟩
    rw [heap_retireBoth hw hp, get_quiesce _ hsecond, get_quiesce _ hfirst]
    exact hs
  · intro q hq
    rw [childrenOf_winds hwound.heap]
    exact hprepared.children q hq
  · intro c hc
    have hdisposed := hwound.disposed c hc
    exact ⟨hdisposed, not_routable_of_disposed hdisposed⟩

/-- A disposal that comes to none of the children. -/
def alone : Disposal := ⟨false, fun _ => .skipped, false⟩

theorem get_alone {h : Heap} {p q : Ptr} (hne : p ≠ q) : (quiesceAndDispose alone.teardown p h).1[q]? = h[q]? := by
  cases hs : h[p]? with
  | none => rw [quiesce_missing _ hs]
  | some s =>
    by_cases hnone : s.report = none
    · rw [alone, Disposal.teardown, quiesce_finished false _ false hs hnone, List.getElem?_set_ne hne]
      have hloop : h.set p (s.enterDisposing hnone) = (childLoop (fun _ => .skipped) p h s hnone).heap :=
        rel_foldl (R := Eq) (fun _ => rfl) Eq.trans (fun _ _ => rfl) _ ⟨_, [], false⟩
      rw [← hloop, List.getElem?_set_ne hne]
    · rw [quiesce_reported _ hs hnone]

/-- What is below a scope and not below another stays below it when the other alone is disposed. -/
theorem below_alone {h : Heap} {p q : Ptr} (hw : ¬Below h w q) (hp : Below h p q) :
    Below (quiesceAndDispose alone.teardown w h).1 p q := by
  induction hp using Relation.ReflTransGen.head_induction_on with
  | refl => exact .refl
  | @head a b hstep hrest ih =>
    refine .head ?_ ih
    have hne : w ≠ a := by
      rintro rfl
      exact hw (.head hstep hrest)
    obtain ⟨s, hs, hreport, hb⟩ := hstep
    exact ⟨s, (get_alone hne).trans hs, hreport, hb⟩

theorem spares_of_rolledBack_tree (hprepared : Prepared m m₁ t)
    (hp : t.projectCandidate < m.heap.length) (hw : t.workspaceCandidate < m.heap.length)
    (hback : ∀ dw dp, RolledBack m (retireBoth m₁ t.workspaceCandidate t.projectCandidate dw dp)
      [t.projectCandidate, t.workspaceCandidate]) : m.Spares [t.projectCandidate, t.workspaceCandidate] := by
  rw [← hprepared.length] at hp hw
  intro c hc q hb hq hroutable
  have hcontra : ∀ dw dp, ¬ClosedIn (retireBoth m₁ t.workspaceCandidate t.projectCandidate dw dp).heap q := fun dw dp hclosed =>
    closedIn_of_not_routable hclosed (((hback dw dp).routing q hq).mpr hroutable)
  have hworkspace : ¬Below m.heap t.workspaceCandidate q := by
    intro hbelow
    obtain ⟨dw, hclosed⟩ := exists_disposal (hprepared.kept _ _ hbelow)
    refine hcontra dw calm ?_
    rw [heap_retireBoth hw hp]
    exact hclosed.winds (windsDown_quiesce _ _ _)
  rcases List.mem_cons.mp hc with rfl | hc
  · -- The path from the project candidate does not lead through the other, which may have a report already.
    have hother : ¬Below m₁.heap t.workspaceCandidate q := fun hbelow => hworkspace ((hprepared.added _ _ hbelow).elim id id)
    obtain ⟨dp, hclosed⟩ := exists_disposal (below_alone hother (hprepared.kept _ _ hb))
    refine hcontra alone dp ?_
    rw [heap_retireBoth hw hp]
    exact hclosed
  · cases List.mem_singleton.mp hc
    exact hworkspace hb

theorem publishProjectTree_accepted (accepts : m.AcceptsTree t) (dw dp : Disposal) :
    ∃ report, (m.publishProjectTree { t with disposeWorkspace := dw, disposeProject := dp }).2 = some (.ok report) := by
  obtain ⟨wi, pi, hwi, hpi, hid⟩ := accepts.names
  obtain ⟨w, hw, rfl⟩ := Option.map_eq_some_iff.mp hwi
  obtain ⟨p, hp, rfl⟩ := Option.map_eq_some_iff.mp hpi
  have hpready : p.state = .ready := by
    have hready := accepts.project_ready
    rw [stateOf, hp] at hready
    exact Option.some.inj hready
  have hwready : w.state = .ready := by
    have hready := accepts.workspace_ready
    rw [stateOf, hw] at hready
    exact Option.some.inj hready
  unfold publishProjectTree
  simp only [accepts.distinct, if_false, hp, hw, List.find?, hpready, hwready, hid, ne_eq, not_true_eq_false, decide_false,
    accepts.project, accepts.workspace]
  exact ⟨_, rfl⟩

/-- Two candidates that are not accepted are refused and disposed. -/
theorem publishProjectTree_refused (hok : PublishedOk m)
    (hp : t.projectCandidate < m.heap.length) (hw : t.workspaceCandidate < m.heap.length)
    (hdistinct : t.projectCandidate ≠ t.workspaceCandidate) (hnot : ¬m.AcceptsTree t) : ∃ m₁, Prepared m m₁ t ∧ ∀ dw dp,
      (m.publishProjectTree { t with disposeWorkspace := dw, disposeProject := dp }).1 =
        retireBoth m₁ t.workspaceCandidate t.projectCandidate dw dp ∧
      ∃ e, (m.publishProjectTree { t with disposeWorkspace := dw, disposeProject := dp }).2 = some (.error e) := by
  have hpget := List.getElem?_eq_getElem hp
  have hwget := List.getElem?_eq_getElem hw
  unfold publishProjectTree
  simp only [hdistinct, if_false, hpget, hwget]
  cases hfind : [m.heap[t.projectCandidate], m.heap[t.workspaceCandidate]].find? (fun s => s.state ≠ .ready) with
  | some s => exact ⟨m, prepared_refl m t, fun dw dp => ⟨rfl, _, rfl⟩⟩
  | none =>
    rw [List.find?_eq_none] at hfind
    have hpready := hfind _ List.mem_cons_self
    have hwready := hfind _ (List.mem_cons_of_mem _ List.mem_cons_self)
    simp only [ne_eq, decide_not, Bool.not_eq_eq_eq_not, Bool.not_true, decide_eq_false_iff_not, not_not] at hpready hwready
    have hready : m.stateOf t.projectCandidate = some .ready := by
      rw [stateOf, hpget, Option.map_some, hpready]
    have hprepared := prepared_attachTree hok hready
    simp only
    by_cases hparent : m.heap[t.workspaceCandidate].identity.parentId ≠ some m.heap[t.projectCandidate].identity.id
    · simp only [if_pos hparent]
      exact ⟨m, prepared_refl m t, fun dw dp => ⟨rfl, _, rfl⟩⟩
    · simp only [if_neg hparent]
      by_cases hproject : m.project ≠ t.expectedProject
      · simp only [if_pos hproject]
        exact ⟨_, hprepared, fun dw dp => ⟨rfl, _, rfl⟩⟩
      · simp only [if_neg hproject]
        by_cases hworkspace : m.workspace ≠ t.expectedWorkspace
        · simp only [if_pos hworkspace]
          exact ⟨_, hprepared, fun dw dp => ⟨rfl, _, rfl⟩⟩
        · refine absurd ⟨hdistinct, hready, ?_, ?_, not_not.mp hproject, not_not.mp hworkspace⟩ hnot
          · rw [stateOf, hwget, Option.map_some, hwready]
          · exact ⟨_, _, by rw [identityOf, hwget]; rfl, by rw [identityOf, hpget]; rfl,
              not_not.mp hparent⟩

theorem publishProjectTree_rolls_back (hok : PublishedOk m) (t : ScopeManager.TreePublication)
    (hp : t.projectCandidate < m.heap.length) (hw : t.workspaceCandidate < m.heap.length) :
    (∀ dw dp e, (m.publishProjectTree { t with disposeWorkspace := dw, disposeProject := dp }).2 = some (.error e) →
        RolledBack m (m.publishProjectTree { t with disposeWorkspace := dw, disposeProject := dp }).1
          [t.projectCandidate, t.workspaceCandidate]) ↔
      t.projectCandidate = t.workspaceCandidate ∨ m.AcceptsTree t ∨ m.Spares [t.projectCandidate, t.workspaceCandidate] := by
  by_cases hdistinct : t.projectCandidate = t.workspaceCandidate
  · refine ⟨fun _ => Or.inl hdistinct, ?_⟩
    intro _ dw dp e herror
    unfold publishProjectTree at herror
    rw [if_pos hdistinct] at herror
    cases herror
  by_cases haccepts : m.AcceptsTree t
  · refine ⟨fun _ => Or.inr (Or.inl haccepts), ?_⟩
    intro _ dw dp e herror
    obtain ⟨report, hreport⟩ := publishProjectTree_accepted haccepts dw dp
    rw [hreport] at herror
    cases herror
  · obtain ⟨m₁, hprepared, hrefused⟩ := publishProjectTree_refused hok hp hw hdistinct haccepts
    constructor
    · intro hback
      refine Or.inr (Or.inr (spares_of_rolledBack_tree hprepared hp hw fun dw dp => ?_))
      obtain ⟨hstate, e, herror⟩ := hrefused dw dp
      rw [← hstate]
      exact hback dw dp e herror
    · intro hcondition dw dp e _
      rw [(hrefused dw dp).1]
      exact rolledBack_tree hprepared hp hw ((hcondition.resolve_left hdistinct).resolve_left haccepts) dw dp

end Refusal

/-! ## Every state of the host -/

section Reached

variable {scc : ProviderGraph → List (List PluginId)} {m m' : ScopeManager}

/-- What was started is still started, whatever else is done to the snapshots. -/
theorem PublishedOk.edit (hok : PublishedOk m) (hkept : HeapRel Kept m.heap m'.heap) (happ : m'.application = m.application)
    (hslot : ∀ slot q, m'.current slot = some q → m.current slot = some q ∨ q < m.heap.length ∧ m'.stateOf q ≠ some .ready) :
    PublishedOk m' := by
  refine ⟨happ ▸ length_of_heapRel hkept hok.application, ?_, ?_⟩
  · intro slot q hq
    rcases hslot slot q hq with hold | ⟨hlt, -⟩
    · exact length_of_heapRel hkept (hok.slotsIn slot q hold)
    · exact length_of_heapRel hkept hlt
  · rintro q (rfl | ⟨slot, hq⟩)
    · rw [happ]
      exact started_kept hkept (hok.started _ (Or.inl rfl))
    · rcases hslot slot q hq with hold | ⟨-, hstarted⟩
      · exact started_kept hkept (hok.started q (Or.inr ⟨slot, hold⟩))
      · exact hstarted

theorem current_of_slots {m m' : ScopeManager} (hproject : m'.project = m.project) (hworkspace : m'.workspace = m.workspace)
    (slot : ScopeManager.Slot) : m'.current slot = m.current slot := by
  cases slot with
  | project => exact hproject
  | workspace => exact hworkspace

theorem PublishedOk.wound (hok : PublishedOk m) {r : List Ptr} (h : Wound m m' r) : PublishedOk m' := by
  refine hok.edit (kept_of_windsDown h.heap) h.application ?_
  intro slot q hq
  rw [current_of_slots h.project h.workspace] at hq
  exact Or.inl hq

theorem publishedOk_addSnapshot (hok : PublishedOk m) (s : ScopeSnapshot) : PublishedOk (addSnapshot m s) := by
  refine ⟨lt_addSnapshot s hok.application, fun slot q hq => lt_addSnapshot s (hok.slotsIn slot q hq), ?_⟩
  intro q hq
  have hlt : q < m.heap.length := by
    rcases hq with rfl | ⟨slot, hq⟩
    · exact hok.application
    · exact hok.slotsIn slot q hq
  rw [stateOf, get_addSnapshot hlt]
  exact hok.started q hq

theorem started_markActive (m : ScopeManager) (p : Ptr) :
    (m.modify p ScopeSnapshot.markActive).stateOf p ≠ some .ready := by
  intro hready
  obtain ⟨s', hs', hstate⟩ := Option.map_eq_some_iff.mp hready
  rw [get_modify, Option.map_eq_some_iff] at hs'
  obtain ⟨s, -, rfl⟩ := hs'
  rw [if_pos rfl] at hstate
  unfold ScopeSnapshot.markActive at hstate
  split at hstate
  · cases hstate
  · next hne => exact hne hstate

theorem publishedOk_installCandidate (hok : PublishedOk m) (slot : ScopeManager.Slot) (parent : Ptr) (expected : Option Ptr)
    {candidate : Ptr} (hlt : candidate < m.heap.length) :
    PublishedOk (m.installCandidate slot parent expected candidate) := by
  have hedited := edited_installCandidate m slot parent expected candidate
  have hstarted : (m.installCandidate slot parent expected candidate).stateOf candidate ≠ some .ready :=
    started_kept ((edited_closePrevious _ expected).trans (edited_children _ parent _)).kept (started_markActive _ candidate)
  obtain ⟨hproject, hworkspace⟩ := slots_installCandidate m slot parent expected candidate
  refine hok.edit hedited.kept hedited.application ?_
  intro slot' q hq
  rw [current_of_slots hproject hworkspace] at hq
  cases slot with
  | project =>
    cases slot' with
    | project =>
      cases hq
      exact Or.inr ⟨hlt, hstarted⟩
    | workspace => exact Or.inl hq
  | workspace =>
    cases slot' with
    | project => exact Or.inl hq
    | workspace =>
      cases hq
      exact Or.inr ⟨hlt, hstarted⟩

theorem publishedOk_treeInstalled (hok : PublishedOk m) {t : ScopeManager.TreePublication} (accepts : m.AcceptsTree t) :
    PublishedOk (treeInstalled m t) := by
  have hedited := edited_treeInstalled m t
  have hlast : ∀ m₂ : ScopeManager, HeapRel Kept m₂.heap
      ((m₂.modify m.application (fun s => s.replaceChild t.expectedProject t.projectCandidate)).closePrevious
        t.expectedProject).heap := fun m₂ =>
    ((edited_children m₂ m.application _).trans (edited_closePrevious _ t.expectedProject)).kept
  have hworkspace : (treeInstalled m t).stateOf t.workspaceCandidate ≠ some .ready :=
    started_kept (hlast _) (started_markActive _ t.workspaceCandidate)
  have hproject : (treeInstalled m t).stateOf t.projectCandidate ≠ some .ready :=
    started_kept (hlast _)
      (started_kept (edited_markActive _ t.workspaceCandidate).kept (started_markActive _ t.projectCandidate))
  obtain ⟨hp, hw⟩ := slots_treeInstalled m t
  refine hok.edit hedited.kept hedited.application ?_
  intro slot q hq
  cases slot with
  | project =>
    cases hp.symm.trans hq
    exact Or.inr ⟨lt_of_stateOf accepts.project_ready, hproject⟩
  | workspace =>
    cases hw.symm.trans hq
    exact Or.inr ⟨lt_of_stateOf accepts.workspace_ready, hworkspace⟩

theorem publishedOk_uninstall (hok : PublishedOk m) (slot : ScopeManager.Slot) (parent : Option Ptr) (p : Ptr) :
    PublishedOk (m.uninstall slot parent p) := by
  have hedited := edited_uninstall m slot parent p
  refine hok.edit hedited.kept hedited.application ?_
  intro slot' q hq
  have hslots : (m.uninstall slot parent p).current slot' = (m.setCurrent none slot).current slot' := by
    unfold uninstall
    cases parent with
    | none => exact current_of_slots rfl rfl slot'
    | some _ => exact current_of_slots rfl rfl slot'
  rw [hslots] at hq
  cases slot with
  | project =>
    cases slot' with
    | project => cases hq
    | workspace => exact Or.inl hq
  | workspace =>
    cases slot' with
    | project => exact Or.inl hq
    | workspace => cases hq

theorem publishedOk_children (hok : PublishedOk m) (p : Ptr) (g : ScopeSnapshot → List Ptr) :
    PublishedOk (m.modify p (fun s => s.withChildren (g s))) :=
  hok.edit (edited_children m p g).kept rfl (fun slot _ hq => Or.inl ((current_of_slots rfl rfl slot).symm.trans hq))

theorem publishedOk_step (scc : ProviderGraph → List (List PluginId)) (hok : PublishedOk m) (l : ScopeStep) :
    PublishedOk (m.step scc l) := by
  cases step_shape scc hok.slotsIn l with
  | wound r h => exact hok.wound h
  | built identity parent plan descriptors r hparent hplan h => exact (publishedOk_addSnapshot hok _).wound h
  | project expected candidate d r accepts h previous =>
    exact (publishedOk_installCandidate hok _ _ _ (lt_of_stateOf accepts.2.1)).wound h
  | workspace expected candidate d project r accepts h previous =>
    exact (publishedOk_installCandidate hok _ _ _ (lt_of_stateOf accepts.2.2.1)).wound h
  | attached t r ready h => exact (publishedOk_children hok _ _).wound h
  | tree t r accepts h previous => exact (publishedOk_treeInstalled hok accepts).wound h
  | clearedProject p r hproject hworkspace h hp => exact (publishedOk_uninstall hok _ _ _).wound h
  | clearedWorkspace w r hworkspace h hw => exact (publishedOk_uninstall hok _ _ _).wound h

theorem publishedOk_hostStep (scc : ProviderGraph → List (List PluginId)) (hok : PublishedOk m) (l : HostStep) :
    PublishedOk (m.hostStep scc l) := by
  cases l with
  | manager l => exact publishedOk_step scc hok l
  | attachChild parent child =>
    show PublishedOk (m.attachChild parent child).1
    unfold attachChild
    split
    · split
      · exact hok
      · split
        · exact hok
        · exact publishedOk_children hok _ _
    · exact hok

theorem publishedOk_new {descriptors : List PluginDescriptor} (hnew : new scc descriptors = .ok m) :
    PublishedOk m := by
  have hslots := slotsOk_new hnew
  refine ⟨hslots.application, hslots.slotsIn, ?_⟩
  obtain ⟨plan, -, hnew⟩ := Fallible.bind_eq_ok hnew
  cases hnew
  rintro q (rfl | ⟨slot, hq⟩)
  · exact hslots.started
  · cases slot with
    | project => cases hq
    | workspace => cases hq

end Reached

end ScopeAux

/-- In every state of a host, a refused workspace or a refused tree leaves what is published as it was, and its candidates
disposed, however the disposals go, exactly when no published scope that routes is a candidate or below one. -/
theorem refusals_roll_back {scc : ProviderGraph → List (List PluginId)} {descriptors : List PluginDescriptor} {m₀ : ScopeManager}
    (hnew : ScopeManager.new scc descriptors = .ok m₀) (trace : List HostStep) {m : ScopeManager}
    (hm : after (ScopeManager.hostStep scc) m₀ trace = m) : (∀ expected c, c < m.heap.length →
      ((∀ d e, (m.publishWorkspace expected c d).2 = .error e → RolledBack m (m.publishWorkspace expected c d).1 [c]) ↔
        (∃ project, m.AcceptsWorkspace expected c project) ∨ m.Spares [c])) ∧
    ∀ t : ScopeManager.TreePublication, t.projectCandidate < m.heap.length → t.workspaceCandidate < m.heap.length →
      ((∀ dw dp e, (m.publishProjectTree { t with disposeWorkspace := dw, disposeProject := dp }).2 = some (.error e) →
          RolledBack m (m.publishProjectTree { t with disposeWorkspace := dw, disposeProject := dp }).1
            [t.projectCandidate, t.workspaceCandidate]) ↔
        t.projectCandidate = t.workspaceCandidate ∨ m.AcceptsTree t ∨
          m.Spares [t.projectCandidate, t.workspaceCandidate]) := by
  have hok : PublishedOk m :=
    hm ▸ invariant (I := PublishedOk) (fun _ l hok => publishedOk_hostStep scc hok l) trace (publishedOk_new hnew)
  exact ⟨fun expected c hlt => publishWorkspace_rolls_back hok.slotsIn expected hlt,
    fun t hp hw => publishProjectTree_rolls_back hok t hp hw⟩

namespace ScopeAux

/-- A scope without children has only itself below it. -/
theorem below_childless {h : Heap} {p q : Ptr} {s : ScopeSnapshot} (hs : h[p]? = some s) (hc : s.children = [])
    (hb : Below h p q) : q = p := by
  rcases Relation.ReflTransGen.cases_head hb with heq | ⟨c, ⟨s', hs', -, hmem⟩, -⟩
  · exact heq.symm
  · rw [hs] at hs'
    cases hs'
    rw [hc] at hmem
    cases hmem

/-- The tree is published, and a further workspace is built below the project. -/
def secondWorkspace : List HostStep :=
  (treePublished.map .manager) ++ [.manager (.buildWorkspace 1 workspaceA [] activating)]

theorem error_of_toOption {ε α : Type} {r : Except ε α} (h : r.toOption.isSome = false) : ∃ e, r = .error e := by
  cases r with
  | error e => exact ⟨e, rfl⟩
  | ok a => cases h

end ScopeAux

/-- A second workspace is offered as if none were published: it is refused, and the published tree stays. -/
theorem refusals_roll_back_second_workspace :
    ∃ m₀ m, ScopeManager.new graphComponents [] = .ok m₀ ∧ after (ScopeManager.hostStep graphComponents) m₀ secondWorkspace = m ∧
      (∃ e, (m.publishWorkspace none 3 calm).2 = .error e) ∧ RolledBack m (m.publishWorkspace none 3 calm).1 [3] := by
  obtain ⟨m₀, hnew, hfacts⟩ := of_new graphComponents []
    (f := fun m₀ =>
      let m := after (ScopeManager.hostStep graphComponents) m₀ secondWorkspace
      (m.project, m.workspace, (m.heap[3]?).map (·.children), (m.publishWorkspace none 3 calm).2.toOption.isSome))
    (a := (some 1, some 2, some [], false)) (by decide +kernel)
  refine ⟨m₀, _, hnew, rfl, ?_⟩
  have hback := (refusals_roll_back hnew secondWorkspace rfl).1 none 3
  revert hback hfacts
  simp only
  generalize after (ScopeManager.hostStep graphComponents) m₀ secondWorkspace = m
  intro hfacts hback
  simp only [Prod.mk.injEq] at hfacts
  obtain ⟨hproject, hworkspace, hchildren, hrefused⟩ := hfacts
  obtain ⟨s, hs, hc⟩ := Option.map_eq_some_iff.mp hchildren
  obtain ⟨e, herror⟩ := error_of_toOption hrefused
  have hlt : 3 < m.heap.length := (List.getElem?_eq_some_iff.mp hs).1
  have hspares : m.Spares [3] := by
    intro c hmem q hb hq
    cases List.mem_singleton.mp hmem
    cases below_childless hs hc hb
    obtain ⟨slot, hslot⟩ := hq
    cases slot with
    | project => cases hproject.symm.trans hslot
    | workspace => cases hworkspace.symm.trans hslot
  exact ⟨⟨e, herror⟩, (hback hlt).mpr (Or.inr hspares) calm e herror⟩

/-- The published workspace is offered again: it is refused, disposed and closed in its slot. -/
theorem refusal_closes_published : ¬∀ m₀, ScopeManager.new graphComponents [] = .ok m₀ → ∀ trace expected c d e,
      c < (after (ScopeManager.hostStep graphComponents) m₀ trace).heap.length →
      ((after (ScopeManager.hostStep graphComponents) m₀ trace).publishWorkspace expected c d).2 = .error e →
      RolledBack (after (ScopeManager.hostStep graphComponents) m₀ trace)
        ((after (ScopeManager.hostStep graphComponents) m₀ trace).publishWorkspace expected c d).1 [c] := by
  intro hback
  obtain ⟨m₀, hnew, hfacts⟩ := of_new graphComponents []
    (f := fun m₀ =>
      let m := after (ScopeManager.hostStep graphComponents) m₀ secondWorkspace
      (m.workspace, (m.heap[2]?).map (·.routing), (m.publishWorkspace (some 2) 2 calm).2.toOption.isSome))
    (a := (some 2, some true, false)) (by decide +kernel)
  have hsecond := hback m₀ hnew secondWorkspace (some 2) 2 calm
  revert hsecond hfacts
  simp only
  generalize after (ScopeManager.hostStep graphComponents) m₀ secondWorkspace = m
  intro hfacts hsecond
  simp only [Prod.mk.injEq] at hfacts
  obtain ⟨hworkspace, hrouting, hrefused⟩ := hfacts
  obtain ⟨s, hs, hopen⟩ := Option.map_eq_some_iff.mp hrouting
  obtain ⟨e, herror⟩ := error_of_toOption hrefused
  have hrolled := hsecond e (List.getElem?_eq_some_iff.mp hs).1 herror
  exact (hrolled.candidates 2 (List.mem_singleton.mpr rfl)).2 ((hrolled.routing 2 ⟨.workspace, hworkspace⟩).mpr ⟨s, hs, hopen⟩)

end Rho
