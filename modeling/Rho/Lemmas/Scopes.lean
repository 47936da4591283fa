import Rho.Extension.Scopes
import Rho.Lib.Fallible

/-!
# What the scope operations do to the heap

A teardown only closes: it never opens a scope, never changes what a scope is or which children it has, and leaves every report.
The operations of the manager are described by what they do to the identities, the children, the routing flags and the reports.
-/

namespace Rho

open Fallible ScopeManager

namespace ScopeAux

/-! ## Heaps side by side -/

/-- The same snapshots are there, and each is related to what became of it. -/
def HeapRel (R : ScopeSnapshot → ScopeSnapshot → Prop) (h h' : Heap) : Prop := ∀ q : Ptr, Option.Rel R (h[q]?) (h'[q]?)

section HeapRel

variable {R : ScopeSnapshot → ScopeSnapshot → Prop} {h h' h'' : Heap} {p q : Ptr} {s s' : ScopeSnapshot}

theorem HeapRel.refl (hrefl : ∀ s, R s s) (h : Heap) : HeapRel R h h := by
  intro q
  cases h[q]? with
  | none => exact .none
  | some s => exact .some (hrefl s)

theorem HeapRel.trans (htrans : ∀ {a b c}, R a b → R b c → R a c) (h₁ : HeapRel R h h') (h₂ : HeapRel R h' h'') :
    HeapRel R h h'' := by
  intro q
  have hfirst := h₁ q
  have hsecond := h₂ q
  revert hfirst hsecond
  rcases h[q]? with _ | a <;> rcases h'[q]? with _ | b <;> rcases h''[q]? with _ | c <;> intro hfirst hsecond
  · exact .none
  · cases hsecond
  · cases hfirst
  · cases hfirst
  · cases hfirst
  · cases hfirst
  · cases hsecond
  · cases hfirst with
    | some hab => cases hsecond with
      | some hbc => exact .some (htrans hab hbc)

/-- The snapshot that became of one. -/
theorem HeapRel.get (hrel : HeapRel R h h') (hs : h[q]? = some s) : ∃ s', h'[q]? = some s' ∧ R s s' := by
  have hq := hrel q
  rw [hs] at hq
  revert hq
  rcases h'[q]? with _ | s' <;> intro hq
  · cases hq
  · cases hq with
    | some hR => exact ⟨s', rfl, hR⟩

/-- The snapshot that one has become of. -/
theorem HeapRel.get_before (hrel : HeapRel R h h') (hs : h'[q]? = some s') : ∃ s, h[q]? = some s ∧ R s s' := by
  have hq := hrel q
  rw [hs] at hq
  revert hq
  rcases h[q]? with _ | s <;> intro hq
  · cases hq
  · cases hq with
    | some hR => exact ⟨s, rfl, hR⟩

/-- One snapshot is set, and related to what it was. -/
theorem HeapRel.set (hrel : HeapRel R h h') (hs : h[p]? = some s) (hR : R s s') : HeapRel R h (h'.set p s') := by
  intro q
  by_cases hq : q = p
  · subst hq
    obtain ⟨t, ht, -⟩ := hrel.get hs
    obtain ⟨hlt, -⟩ := List.getElem?_eq_some_iff.mp ht
    rw [List.getElem?_set_self hlt, hs]
    exact .some hR
  · rw [List.getElem?_set_ne (Ne.symm hq)]
    exact hrel q

theorem HeapRel.modify {f : ScopeSnapshot → ScopeSnapshot} (hrefl : ∀ s, R s s) (hf : ∀ s, R s (f s)) (h : Heap) (p : Ptr) :
    HeapRel R h (h.modify p f) := by
  intro q
  rw [List.getElem?_modify]
  cases h[q]? with
  | none => exact .none
  | some s =>
    refine .some ?_
    split
    · exact hf s
    · exact hrefl s

end HeapRel

/-! ## What stays -/

/-- What a snapshot is does not change, its report stays, and it does not become ready again. -/
structure Kept (s s' : ScopeSnapshot) : Prop where
  identity : s'.identity = s.identity
  plan : s'.plan = s.plan
  parent : s'.parent = s.parent
  report : s.report.isSome = true → s'.report.isSome = true
  ready : s'.state = .ready → s.state = .ready

/-- A snapshot that is only wound down: the children stay, and routing is not opened. -/
structure Winds (s s' : ScopeSnapshot) : Prop extends Kept s s' where
  children : s'.children = s.children
  routing : s'.routing = true → s.routing = true

theorem Kept.refl (s : ScopeSnapshot) : Kept s s := ⟨rfl, rfl, rfl, id, id⟩

theorem Kept.trans {a b c : ScopeSnapshot} (h₁ : Kept a b) (h₂ : Kept b c) : Kept a c :=
  ⟨h₂.identity.trans h₁.identity, h₂.plan.trans h₁.plan, h₂.parent.trans h₁.parent, fun hr => h₂.report (h₁.report hr),
    fun hr => h₁.ready (h₂.ready hr)⟩

theorem Winds.refl (s : ScopeSnapshot) : Winds s s := ⟨Kept.refl s, rfl, id⟩

theorem Winds.trans {a b c : ScopeSnapshot} (h₁ : Winds a b) (h₂ : Winds b c) : Winds a c :=
  ⟨h₁.toKept.trans h₂.toKept, h₂.children.trans h₁.children, fun hr => h₁.routing (h₂.routing hr)⟩

theorem winds_beginQuiesce (s : ScopeSnapshot) : Winds s s.beginQuiesce := by
  refine ⟨⟨rfl, rfl, rfl, id, ?_⟩, rfl, nofun⟩
  intro hready
  unfold ScopeSnapshot.beginQuiesce at hready
  simp only at hready
  split at hready
  · cases hready
  · exact hready

theorem winds_enterDisposing (s : ScopeSnapshot) (hs : s.report = none) : Winds s (s.enterDisposing hs) :=
  ⟨⟨rfl, rfl, rfl, id, nofun⟩, rfl, nofun⟩

/-- The final state is not the first one. -/
theorem state_disposedAs (s : ScopeSnapshot) (report : ScopeDisposeReport) : (s.disposedAs report).state ≠ .ready := by
  rcases (s.disposedAs report).ok.2 rfl with hend | hend
  · rw [hend]
    exact nofun
  · rw [hend]
    exact nofun

theorem winds_disposedAs (s : ScopeSnapshot) (report : ScopeDisposeReport) : Winds s (s.disposedAs report) :=
  ⟨⟨rfl, rfl, rfl, fun _ => rfl, fun hready => absurd hready (state_disposedAs s report)⟩, rfl, nofun⟩

/-- A snapshot that has been wound down may as well be disposed from where it began. -/
theorem Winds.disposedAs {s t : ScopeSnapshot} (h : Winds s t) (report : ScopeDisposeReport) : Winds t (s.disposedAs report) :=
  ⟨⟨h.identity.symm, h.plan.symm, h.parent.symm, fun _ => rfl, fun hready => absurd hready (state_disposedAs s report)⟩,
    h.children.symm, nofun⟩

/-- The heap is only wound down. -/
abbrev WindsDown (h h' : Heap) : Prop := HeapRel Winds h h'

theorem WindsDown.refl (h : Heap) : WindsDown h h := HeapRel.refl Winds.refl h

theorem WindsDown.trans {h h' h'' : Heap} (h₁ : WindsDown h h') (h₂ : WindsDown h' h'') : WindsDown h h'' :=
  HeapRel.trans Winds.trans h₁ h₂

/-- A snapshot with a report does not route. -/
theorem routing_of_report (s : ScopeSnapshot) (hs : s.report.isSome = true) : s.routing = false := by
  cases hr : s.routing with
  | false => rfl
  | true =>
    have hactive := s.ok.1 hr
    rcases s.ok.2 hs with hend | hend
    · rw [hactive] at hend
      cases hend
    · rw [hactive] at hend
      cases hend

/-! ## The loop over the children -/

section Loop

variable {dispose : Ptr → Heap → Heap × Option ScopeDisposeReport}

theorem heap_record (loop : ChildLoop) (child : Ptr) (r : Heap × Option ScopeDisposeReport) :
    (loop.record child r).heap = r.1 := by
  rcases r with ⟨heap, _ | report⟩
  · rfl
  · rfl

/-- What every disposal does to the heap, the loop does. -/
theorem rel_foldl {R : Heap → Heap → Prop} (hrefl : ∀ h, R h h) (htrans : ∀ {a b c}, R a b → R b c → R a c)
    (hd : ∀ c h, R h (dispose c h).1) (children : List Ptr) (loop : ChildLoop) : R loop.heap
      (children.foldl (fun (loop : ChildLoop) child => loop.record child (dispose child loop.heap)) loop).heap := by
  induction children generalizing loop with
  | nil => exact hrefl _
  | cons c children ih =>
    rw [List.foldl_cons]
    have hrest := ih (loop.record c (dispose c loop.heap))
    rw [heap_record] at hrest
    exact htrans (hd c loop.heap) hrest

/-- Every child has its turn: the loop has come to it, it is disposed, and the loop goes on. -/
theorem visits_foldl {R : Heap → Heap → Prop} (hrefl : ∀ h, R h h) (htrans : ∀ {a b c}, R a b → R b c → R a c)
    (hd : ∀ c h, R h (dispose c h).1) {children : List Ptr} {c : Ptr} (hc : c ∈ children) (loop : ChildLoop) :
    ∃ h, R loop.heap h ∧ R (dispose c h).1
      (children.foldl (fun (loop : ChildLoop) child => loop.record child (dispose child loop.heap)) loop).heap := by
  induction children generalizing loop with
  | nil => cases hc
  | cons a children ih =>
    rw [List.foldl_cons]
    rcases List.mem_cons.mp hc with rfl | hc
    · refine ⟨loop.heap, hrefl _, ?_⟩
      have hrest := rel_foldl hrefl htrans hd children (loop.record c (dispose c loop.heap))
      rw [heap_record] at hrest
      exact hrest
    · obtain ⟨h, hbefore, hafter⟩ := ih hc (loop.record a (dispose a loop.heap))
      rw [heap_record] at hbefore
      exact ⟨h, htrans (hd a loop.heap) hbefore, hafter⟩

theorem windsDown_run (hd : ∀ c h, WindsDown h (dispose c h).1) (h : Heap) (children : List Ptr) :
    WindsDown h (ChildLoop.run dispose h children).heap :=
  rel_foldl WindsDown.refl WindsDown.trans hd _ ⟨h, [], false⟩

theorem visits_run {R : Heap → Heap → Prop} (hrefl : ∀ h, R h h) (htrans : ∀ {a b c}, R a b → R b c → R a c)
    (dispose : Ptr → Heap → Heap × Option ScopeDisposeReport) (hd : ∀ c h, R h (dispose c h).1) (h : Heap)
    {children : List Ptr} {c : Ptr} (hc : c ∈ children) :
    ∃ h₀, R h h₀ ∧ R (dispose c h₀).1 (ChildLoop.run dispose h children).heap :=
  visits_foldl hrefl htrans hd (List.mem_reverse.mpr hc) ⟨h, [], false⟩

end Loop

/-! ## The teardown of one scope -/

section Quiesce

variable {p : Ptr} {h : Heap} {s : ScopeSnapshot}

/-- The children's loop of a disposal, from the scope that has been closed. -/
def childLoop (children : Ptr → Teardown) (p : Ptr) (h : Heap) (s : ScopeSnapshot) (hnone : s.report = none) : ChildLoop :=
  ChildLoop.run (fun child => quiesceAndDispose (children child) child) (h.set p (s.enterDisposing hnone)) s.children

theorem quiesce_abandoned_eq (disposing : Bool) (children : Ptr → Teardown) (p : Ptr) (h : Heap) :
    quiesceAndDispose (.abandoned disposing children) p h =
      match h[p]? with
      | none => (h, none)
      | some s =>
        match hreport : s.report with
        | some report => (h, some report)
        | none => if disposing then ((childLoop children p h s hreport).heap, none) else (h.set p s.beginQuiesce, none) := by
  unfold quiesceAndDispose
  rfl

theorem quiesce_finished_eq (quiesceTimedOut : Bool) (children : Ptr → Teardown) (pluginsFailed : Bool) (p : Ptr) (h : Heap) :
    quiesceAndDispose (.finished quiesceTimedOut children pluginsFailed) p h =
      match h[p]? with
      | none => (h, none)
      | some s =>
        match hreport : s.report with
        | some report => (h, some report)
        | none =>
          let report := disposeReport s quiesceTimedOut (childLoop children p h s hreport) pluginsFailed
          ((childLoop children p h s hreport).heap.set p (s.disposedAs report), some report) := by
  unfold quiesceAndDispose
  rfl

theorem quiesce_missing (t : Teardown) (hp : h[p]? = none) : (quiesceAndDispose t p h).1 = h := by
  cases t with
  | skipped => rfl
  | abandoned disposing children => rw [quiesce_abandoned_eq, hp]
  | finished quiesceTimedOut children pluginsFailed => rw [quiesce_finished_eq, hp]

/-- A report that is there is returned, whatever the scope has become since. -/
theorem quiesce_reported (t : Teardown) (hs : h[p]? = some s) (hreport : s.report ≠ none) : (quiesceAndDispose t p h).1 = h := by
  cases t with
  | skipped => rfl
  | abandoned disposing children =>
    rw [quiesce_abandoned_eq, hs]
    simp only
    split
    · rfl
    · next hnone => exact absurd hnone hreport
  | finished quiesceTimedOut children pluginsFailed =>
    rw [quiesce_finished_eq, hs]
    simp only
    split
    · rfl
    · next hnone => exact absurd hnone hreport

theorem quiesce_abandoned (children : Ptr → Teardown) (hs : h[p]? = some s) (hnone : s.report = none) :
    (quiesceAndDispose (.abandoned false children) p h).1 = h.set p s.beginQuiesce := by
  rw [quiesce_abandoned_eq, hs]
  simp only
  split
  · next report hreport => exact absurd hreport (by rw [hnone]; exact nofun)
  · rfl

theorem quiesce_abandoned_disposing (children : Ptr → Teardown) (hs : h[p]? = some s) (hnone : s.report = none) :
    (quiesceAndDispose (.abandoned true children) p h).1 = (childLoop children p h s hnone).heap := by
  rw [quiesce_abandoned_eq, hs]
  simp only
  split
  · next report hreport => exact absurd hreport (by rw [hnone]; exact nofun)
  · rfl

theorem quiesce_finished (quiesceTimedOut : Bool) (children : Ptr → Teardown) (pluginsFailed : Bool) (hs : h[p]? = some s)
    (hnone : s.report = none) : (quiesceAndDispose (.finished quiesceTimedOut children pluginsFailed) p h).1 =
      (childLoop children p h s hnone).heap.set p
        (s.disposedAs (disposeReport s quiesceTimedOut (childLoop children p h s hnone) pluginsFailed)) := by
  rw [quiesce_finished_eq, hs]
  simp only
  split
  · next report hreport => exact absurd hreport (by rw [hnone]; exact nofun)
  · rfl

/-- The loop starts from the heap in which the scope itself is closed. -/
theorem windsDown_enterDisposing (hs : h[p]? = some s) (hnone : s.report = none) :
    WindsDown h (h.set p (s.enterDisposing hnone)) :=
  HeapRel.set (WindsDown.refl h) hs (winds_enterDisposing s hnone)

theorem windsDown_quiesce (t : Teardown) (p : Ptr) (h : Heap) : WindsDown h (quiesceAndDispose t p h).1 := by
  induction t generalizing p h with
  | skipped => exact WindsDown.refl h
  | abandoned disposing children ih =>
    cases hs : h[p]? with
    | none => rw [quiesce_missing _ hs]; exact WindsDown.refl h
    | some s =>
      by_cases hnone : s.report = none
      · cases disposing with
        | false =>
          rw [quiesce_abandoned children hs hnone]
          exact HeapRel.set (WindsDown.refl h) hs (winds_beginQuiesce s)
        | true =>
          rw [quiesce_abandoned_disposing children hs hnone]
          exact (windsDown_enterDisposing hs hnone).trans (windsDown_run (fun c h => ih c c h) _ _)
      · rw [quiesce_reported _ hs hnone]
        exact WindsDown.refl h
  | finished quiesceTimedOut children pluginsFailed ih =>
    cases hs : h[p]? with
    | none => rw [quiesce_missing _ hs]; exact WindsDown.refl h
    | some s =>
      by_cases hnone : s.report = none
      · rw [quiesce_finished quiesceTimedOut children pluginsFailed hs hnone]
        refine HeapRel.set ?_ hs (winds_disposedAs s _)
        exact (windsDown_enterDisposing hs hnone).trans (windsDown_run (fun c h => ih c c h) _ _)
      · rw [quiesce_reported _ hs hnone]
        exact WindsDown.refl h

theorem windsDown_childLoop (children : Ptr → Teardown) (p : Ptr) (h : Heap) (s : ScopeSnapshot) (hnone : s.report = none) :
    WindsDown (h.set p (s.enterDisposing hnone)) (childLoop children p h s hnone).heap :=
  windsDown_run (fun c h => windsDown_quiesce (children c) c h) _ _

variable {t : Teardown} {children : Ptr → Teardown} {c : Ptr}

/-- A disposal that is carried through leaves a report. -/
theorem reported_quiesce (ht : t.CarriedThrough) (hs : h[p]? = some s) :
    ∃ s', (quiesceAndDispose t p h).1[p]? = some s' ∧ s'.report.isSome = true := by
  cases t with
  | skipped => cases ht
  | abandoned disposing children => cases ht
  | finished quiesceTimedOut children pluginsFailed =>
    by_cases hnone : s.report = none
    · rw [quiesce_finished quiesceTimedOut children pluginsFailed hs hnone]
      obtain ⟨s₁, hs₁, -⟩ := ((windsDown_enterDisposing hs hnone).trans (windsDown_childLoop children p h s hnone)).get hs
      obtain ⟨hlt, -⟩ := List.getElem?_eq_some_iff.mp hs₁
      exact ⟨_, List.getElem?_set_self hlt, rfl⟩
    · rw [quiesce_reported _ hs hnone]
      exact ⟨s, hs, Option.isSome_iff_ne_none.mpr hnone⟩

/-- A disposal that has begun has closed the scope. -/
theorem closed_quiesce (ht : t.Begun) {s' : ScopeSnapshot}
    (hs' : (quiesceAndDispose t p h).1[p]? = some s') : s'.routing = false := by
  obtain ⟨s, hs, -⟩ := (windsDown_quiesce t p h).get_before hs'
  obtain ⟨hlt, -⟩ := List.getElem?_eq_some_iff.mp hs
  by_cases hnone : s.report = none
  · cases t with
    | skipped => cases ht
    | finished quiesceTimedOut children pluginsFailed =>
      obtain ⟨s₁, hs₁, hreport⟩ := reported_quiesce (t := .finished quiesceTimedOut children pluginsFailed) trivial hs
      rw [hs'] at hs₁
      cases hs₁
      exact routing_of_report s' hreport
    | abandoned disposing children =>
      cases disposing with
      | false =>
        rw [quiesce_abandoned children hs hnone, List.getElem?_set_self hlt] at hs'
        cases hs'
        rfl
      | true =>
        rw [quiesce_abandoned_disposing children hs hnone] at hs'
        obtain ⟨s₁, hs₁, hwinds⟩ := (windsDown_childLoop children p h s hnone).get_before hs'
        rw [List.getElem?_set_self hlt] at hs₁
        cases hs₁
        exact Bool.eq_false_iff.mpr fun hrouting => nomatch hwinds.routing hrouting
  · rw [quiesce_reported _ hs hnone, hs] at hs'
    cases hs'
    exact routing_of_report _ (Option.isSome_iff_ne_none.mpr hnone)

/-- A disposal that comes to the children of a scope without a report disposes each of them on the way. -/
theorem visits_quiesce (ht : t.onChildren = some children) (hs : h[p]? = some s) (hnone : s.report = none) (hc : c ∈ s.children) :
    ∃ h₀, WindsDown h h₀ ∧ WindsDown (quiesceAndDispose (children c) c h₀).1 (quiesceAndDispose t p h).1 := by
  obtain ⟨h₀, hbefore, hafter⟩ := visits_run WindsDown.refl WindsDown.trans
    (fun child => quiesceAndDispose (children child) child) (fun c h => windsDown_quiesce (children c) c h)
    (h.set p (s.enterDisposing hnone)) hc
  refine ⟨h₀, (windsDown_enterDisposing hs hnone).trans hbefore, ?_⟩
  cases t with
  | skipped => cases ht
  | abandoned disposing children' =>
    cases disposing with
    | false => cases ht
    | true =>
      cases ht
      rw [quiesce_abandoned_disposing children hs hnone]
      exact hafter
  | finished quiesceTimedOut children' pluginsFailed =>
    cases ht
    rw [quiesce_finished quiesceTimedOut children pluginsFailed hs hnone]
    obtain ⟨s₁, hs₁, hwinds⟩ :=
      (((windsDown_enterDisposing hs hnone).trans hbefore).trans (windsDown_quiesce (children c) c h₀)).get hs
    exact HeapRel.set hafter hs₁ (hwinds.disposedAs _)

/-- The only child of a scope without a report is disposed from the heap in which the scope itself is closed. -/
theorem visits_only_child (ht : t.onChildren = some children)
    (hs : h[p]? = some s) (hnone : s.report = none) (hc : s.children = [c]) :
    WindsDown (quiesceAndDispose (children c) c (h.set p (s.enterDisposing hnone))).1 (quiesceAndDispose t p h).1 := by
  have hloop : (childLoop children p h s hnone).heap =
      (quiesceAndDispose (children c) c (h.set p (s.enterDisposing hnone))).1 := by
    rw [childLoop, hc]
    exact heap_record _ _ _
  cases t with
  | skipped => cases ht
  | abandoned disposing children' =>
    cases disposing with
    | false => cases ht
    | true =>
      cases ht
      rw [quiesce_abandoned_disposing children hs hnone, hloop]
      exact WindsDown.refl _
  | finished quiesceTimedOut children' pluginsFailed =>
    cases ht
    rw [quiesce_finished quiesceTimedOut children pluginsFailed hs hnone]
    obtain ⟨s₁, hs₁, hwinds⟩ :=
      ((windsDown_enterDisposing hs hnone).trans (windsDown_childLoop children p h s hnone)).get hs
    rw [← hloop]
    exact HeapRel.set (WindsDown.refl _) hs₁ (hwinds.disposedAs _)

end Quiesce

/-! ## Managers side by side -/

section Managers

variable {m m' m'' : ScopeManager}

theorem HeapRel.mono {R R' : ScopeSnapshot → ScopeSnapshot → Prop} {h h' : Heap} (hmono : ∀ s s', R s s' → R' s s')
    (hrel : HeapRel R h h') : HeapRel R' h h' := by
  intro q
  have hq := hrel q
  revert hq
  rcases h[q]? with _ | s <;> rcases h'[q]? with _ | s' <;> intro hq
  · exact .none
  · cases hq
  · cases hq
  · cases hq with
    | some hR => exact .some (hmono s s' hR)

theorem kept_of_windsDown {h h' : Heap} (hw : WindsDown h h') : HeapRel Kept h h' := HeapRel.mono (fun _ _ hw => hw.toKept) hw

/-- A field that the relation keeps is the same for every address. -/
theorem map_of_heapRel {R : ScopeSnapshot → ScopeSnapshot → Prop} {α : Type} {h h' : Heap} (hrel : HeapRel R h h')
    (f : ScopeSnapshot → α) (hf : ∀ s s', R s s' → f s' = f s) (q : Ptr) : (h'[q]?).map f = (h[q]?).map f := by
  have hq := hrel q
  revert hq
  rcases h[q]? with _ | s <;> rcases h'[q]? with _ | s' <;> intro hq
  · rfl
  · cases hq
  · cases hq
  · cases hq with
    | some hR => exact congrArg some (hf s s' hR)

theorem identityOf_kept (h : HeapRel Kept m.heap m'.heap) (q : Ptr) : m'.identityOf q = m.identityOf q :=
  map_of_heapRel h _ (fun _ _ hk => hk.identity) q

theorem parentOf_kept (h : HeapRel Kept m.heap m'.heap) (q : Ptr) : m'.parentOf q = m.parentOf q := by
  have hmap := congrArg (fun o => Option.bind o id) (map_of_heapRel h ScopeSnapshot.parent (fun _ _ hk => hk.parent) q)
  simp only [Option.bind_map] at hmap
  exact hmap

theorem namesParent_kept (h : HeapRel Kept m.heap m'.heap) {w p : Ptr} (hn : m.NamesParent w p) : m'.NamesParent w p := by
  obtain ⟨wi, pi, hw, hp, hid⟩ := hn
  exact ⟨wi, pi, by rw [identityOf_kept h, hw], by rw [identityOf_kept h, hp], hid⟩

theorem disposed_kept (h : HeapRel Kept m.heap m'.heap) {q : Ptr} (hd : m.Disposed q) : m'.Disposed q := by
  obtain ⟨s, hs, hreport⟩ := hd
  obtain ⟨s', hs', hk⟩ := h.get hs
  exact ⟨s', hs', hk.report hreport⟩

theorem childrenOf_winds (h : WindsDown m.heap m'.heap) (q : Ptr) : m'.childrenOf q = m.childrenOf q := by
  unfold childrenOf
  rw [map_of_heapRel h _ (fun _ _ hw => hw.children) q]

theorem routable_winds (h : WindsDown m.heap m'.heap) {q : Ptr} (hr : m'.Routable q) : m.Routable q := by
  obtain ⟨s', hs', hrouting⟩ := hr
  obtain ⟨s, hs, hw⟩ := h.get_before hs'
  exact ⟨s, hs, hw.routing hrouting⟩

theorem not_routable_of_disposed {q : Ptr} (hd : m.Disposed q) : ¬m.Routable q := by
  rintro ⟨s', hs', hrouting⟩
  obtain ⟨s, hs, hreport⟩ := hd
  rw [hs] at hs'
  cases hs'
  rw [routing_of_report s' hreport] at hrouting
  cases hrouting

theorem length_of_heapRel {R : ScopeSnapshot → ScopeSnapshot → Prop} {h h' : Heap} (hrel : HeapRel R h h') {q : Ptr}
    (hq : q < h.length) : q < h'.length := by
  obtain ⟨s', hs', -⟩ := hrel.get (List.getElem?_eq_getElem hq)
  exact (List.getElem?_eq_some_iff.mp hs').1

/-- The heap is wound down, the slots stay, and the snapshots added to the history are disposed. -/
structure Wound (m m' : ScopeManager) (retired : List Ptr) : Prop where
  heap : WindsDown m.heap m'.heap
  application : m'.application = m.application
  project : m'.project = m.project
  workspace : m'.workspace = m.workspace
  history : m'.retired = retired ++ m.retired
  disposed : ∀ q ∈ retired, m'.Disposed q

theorem Wound.refl (m : ScopeManager) : Wound m m [] := ⟨WindsDown.refl _, rfl, rfl, rfl, rfl, nofun⟩

theorem Wound.trans {r r' : List Ptr} (h : Wound m m' r) (h' : Wound m' m'' r') : Wound m m'' (r' ++ r) := by
  refine ⟨h.heap.trans h'.heap, h'.application.trans h.application, h'.project.trans h.project,
    h'.workspace.trans h.workspace, ?_, ?_⟩
  · rw [h'.history, h.history, List.append_assoc]
  · intro q hq
    rcases List.mem_append.mp hq with hnew | hold
    · exact h'.disposed q hnew
    · exact disposed_kept (kept_of_windsDown h'.heap) (h.disposed q hold)

theorem wound_dispose (m : ScopeManager) (d : Disposal) (p : Ptr) : Wound m (m.dispose d p).1 [] :=
  ⟨windsDown_quiesce d.teardown p m.heap, rfl, rfl, rfl, rfl, nofun⟩

theorem disposed_dispose {p : Ptr} (hp : p < m.heap.length) (d : Disposal) : (m.dispose d p).1.Disposed p :=
  reported_quiesce (t := d.teardown) trivial (List.getElem?_eq_getElem hp)

theorem retire_eq {p : Ptr} (hp : p < m.heap.length) (d : Disposal) :
    (m.retire d p).1 = { (m.dispose d p).1 with retired := p :: m.retired } := by
  unfold retire
  rw [if_pos hp]
  rfl

theorem wound_retire {p : Ptr} (hp : p < m.heap.length) (d : Disposal) : Wound m (m.retire d p).1 [p] := by
  rw [retire_eq hp]
  refine ⟨windsDown_quiesce d.teardown p m.heap, rfl, rfl, rfl, rfl, ?_⟩
  intro q hq
  cases List.mem_singleton.mp hq
  exact disposed_dispose hp d

/-- Retiring an address only winds the heap down. -/
theorem wound_retire_any (m : ScopeManager) (d : Disposal) (p : Ptr) : ∃ r, Wound m (m.retire d p).1 r := by
  by_cases hp : p < m.heap.length
  · exact ⟨[p], wound_retire hp d⟩
  · refine ⟨[], ?_⟩
    unfold retire
    rw [if_neg hp]
    exact Wound.refl m

end Managers

/-! ## Edits of one snapshot -/

section Edits

variable {m : ScopeManager} {p q : Ptr} {f : ScopeSnapshot → ScopeSnapshot}

theorem kept_markActive (s : ScopeSnapshot) : Kept s s.markActive := by
  unfold ScopeSnapshot.markActive
  split
  · exact ⟨rfl, rfl, rfl, id, nofun⟩
  · exact Kept.refl s

theorem kept_withChildren (s : ScopeSnapshot) (children : List Ptr) : Kept s (s.withChildren children) :=
  ⟨rfl, rfl, rfl, id, id⟩

theorem children_markActive (s : ScopeSnapshot) : s.markActive.children = s.children := by
  unfold ScopeSnapshot.markActive
  split
  · rfl
  · rfl

theorem report_markActive (s : ScopeSnapshot) : s.markActive.report = s.report := by
  unfold ScopeSnapshot.markActive
  split
  · rfl
  · rfl

theorem get_modify (m : ScopeManager) (p q : Ptr) (f : ScopeSnapshot → ScopeSnapshot) :
    (m.modify p f).heap[q]? = (m.heap[q]?).map (fun s => if p = q then f s else s) :=
  List.getElem?_modify ..

theorem kept_modify (hf : ∀ s, Kept s (f s)) (m : ScopeManager) (p : Ptr) : HeapRel Kept m.heap (m.modify p f).heap :=
  HeapRel.modify Kept.refl hf m.heap p

/-- The children of one snapshot are edited. -/
theorem childrenOf_modify (g : List Ptr → List Ptr) (hf : ∀ s, (f s).children = g s.children) (hp : p < m.heap.length) :
    (m.modify p f).childrenOf q = if p = q then g (m.childrenOf q) else m.childrenOf q := by
  unfold childrenOf
  rw [get_modify]
  by_cases hq : p = q
  · subst hq
    rw [if_pos rfl, List.getElem?_eq_getElem hp]
    simp [hf]
  · rw [if_neg hq]
    simp [hq]

/-- An edit that leaves the children. -/
theorem childrenOf_modify_same (hf : ∀ s, (f s).children = s.children) (m : ScopeManager) (p q : Ptr) :
    (m.modify p f).childrenOf q = m.childrenOf q := by
  unfold childrenOf
  rw [get_modify, Option.map_map]
  congr 2
  funext s
  simp only [Function.comp_apply]
  split
  · exact hf s
  · rfl

/-- An edit opens at most the snapshot it is about. -/
theorem routable_modify (hr : (m.modify p f).Routable q) : m.Routable q ∨ q = p := by
  by_cases hq : p = q
  · exact Or.inr hq.symm
  · obtain ⟨s, hs, hrouting⟩ := hr
    rw [get_modify] at hs
    simp only [hq, if_false, Option.map_id'] at hs
    exact Or.inl ⟨s, hs, hrouting⟩

/-- An edit that does not touch routing, or closes. -/
theorem routable_modify_closed (hf : ∀ s, (f s).routing = true → s.routing = true) (hr : (m.modify p f).Routable q) :
    m.Routable q := by
  obtain ⟨s', hs', hrouting⟩ := hr
  rw [get_modify, Option.map_eq_some_iff] at hs'
  obtain ⟨s, hs, heq⟩ := hs'
  refine ⟨s, hs, ?_⟩
  split at heq
  · rw [← heq] at hrouting
    exact hf s hrouting
  · rw [heq]
    exact hrouting

/-- An edit that leaves the report. -/
theorem disposed_modify (hf : ∀ s, (f s).report = s.report) (hd : (m.modify p f).Disposed q) : m.Disposed q := by
  obtain ⟨s', hs', hreport⟩ := hd
  rw [get_modify, Option.map_eq_some_iff] at hs'
  obtain ⟨s, hs, heq⟩ := hs'
  refine ⟨s, hs, ?_⟩
  rw [← heq] at hreport
  split at hreport
  · rw [hf s] at hreport
    exact hreport
  · exact hreport

theorem length_modify (m : ScopeManager) (p : Ptr) (f : ScopeSnapshot → ScopeSnapshot) :
    (m.modify p f).heap.length = m.heap.length :=
  List.length_modify ..

end Edits

/-! ## Installing and taking out -/

/-- What an edit of the slots and children does: the snapshots stay what they are, only those named are opened, and no report is
written. -/
structure Edited (m m' : ScopeManager) (opened : List Ptr) : Prop where
  kept : HeapRel Kept m.heap m'.heap
  application : m'.application = m.application
  routable : ∀ q, m'.Routable q → m.Routable q ∨ q ∈ opened
  unreported : ∀ q, m'.Disposed q → m.Disposed q

section Installs

variable {m : ScopeManager}

theorem Edited.trans {m' m'' : ScopeManager} {o o' : List Ptr} (h : Edited m m' o) (h' : Edited m' m'' o') :
    Edited m m'' (o' ++ o) := by
  refine ⟨HeapRel.trans Kept.trans h.kept h'.kept, h'.application.trans h.application, ?_,
    fun q hq => h.unreported q (h'.unreported q hq)⟩
  intro q hq
  rcases h'.routable q hq with hold | hnew
  · rcases h.routable q hold with hold | hopened
    · exact Or.inl hold
    · exact Or.inr (List.mem_append_right _ hopened)
  · exact Or.inr (List.mem_append_left _ hnew)

/-- The slots alone change. -/
theorem edited_slots (m : ScopeManager) {m' : ScopeManager} (hheap : m'.heap = m.heap) (happ : m'.application = m.application) :
    Edited m m' [] := by
  refine ⟨by rw [hheap]; exact HeapRel.refl Kept.refl _, happ, fun q hq => Or.inl ?_, fun q hq => ?_⟩
  · rw [ScopeManager.Routable, hheap] at hq
    exact hq
  · rw [ScopeManager.Disposed, hheap] at hq
    exact hq

theorem edited_setCurrent (m : ScopeManager) (p : Option Ptr) (slot : ScopeManager.Slot) : Edited m (m.setCurrent p slot) [] := by
  cases slot with
  | project => exact edited_slots m rfl rfl
  | workspace => exact edited_slots m rfl rfl

theorem edited_markActive (m : ScopeManager) (p : Ptr) : Edited m (m.modify p ScopeSnapshot.markActive) [p] := by
  refine ⟨kept_modify kept_markActive m p, rfl, ?_, fun _ => disposed_modify report_markActive⟩
  intro q hq
  rcases routable_modify hq with hold | rfl
  · exact Or.inl hold
  · exact Or.inr (List.mem_singleton.mpr rfl)

theorem edited_beginQuiesce (m : ScopeManager) (p : Ptr) : Edited m (m.modify p ScopeSnapshot.beginQuiesce) [] :=
  ⟨kept_modify (fun s => (winds_beginQuiesce s).toKept) m p, rfl,
    fun _ hq => Or.inl (routable_modify_closed (fun s => (winds_beginQuiesce s).routing) hq),
    fun _ => disposed_modify (f := ScopeSnapshot.beginQuiesce) (fun _ => rfl)⟩

/-- An edit of a list of children. -/
theorem edited_children (m : ScopeManager) (p : Ptr) (g : ScopeSnapshot → List Ptr) :
    Edited m (m.modify p (fun s => s.withChildren (g s))) [] :=
  ⟨kept_modify (fun s => kept_withChildren s _) m p, rfl,
    fun _ hq => Or.inl (routable_modify_closed (f := fun s => s.withChildren (g s)) (fun _ hr => hr) hq),
    fun _ => disposed_modify (f := fun s => s.withChildren (g s)) (fun _ => rfl)⟩

theorem edited_closePrevious (m : ScopeManager) (previous : Option Ptr) :
    Edited m (m.closePrevious previous) [] := by
  cases previous with
  | none => exact edited_slots m rfl rfl
  | some old => exact edited_beginQuiesce m old

theorem edited_installCandidate (m : ScopeManager) (slot : ScopeManager.Slot) (parent : Ptr) (previous : Option Ptr)
    (candidate : Ptr) : Edited m (m.installCandidate slot parent previous candidate) [candidate] :=
  (((edited_setCurrent m (some candidate) slot).trans (edited_markActive _ candidate)).trans
    (edited_closePrevious _ previous)).trans (edited_children _ parent _)

theorem edited_installTree (m : ScopeManager) (t : ScopeManager.TreePublication) :
    Edited m ((m.attachTree t).installTree t) [t.workspaceCandidate, t.projectCandidate] := by
  have hslots : Edited (m.attachTree t)
      { m.attachTree t with project := some t.projectCandidate, workspace := some t.workspaceCandidate } [] :=
    edited_slots _ rfl rfl
  exact (((((edited_children m t.projectCandidate _).trans hslots).trans (edited_markActive _ t.projectCandidate)).trans
    (edited_markActive _ t.workspaceCandidate)).trans (edited_children _ m.application _)).trans
      (edited_closePrevious _ t.expectedProject)

theorem edited_uninstall (m : ScopeManager) (slot : ScopeManager.Slot) (parent : Option Ptr) (expected : Ptr) :
    Edited m (m.uninstall slot parent expected) [] := by
  have hclosed := (edited_setCurrent m none slot).trans (edited_beginQuiesce _ expected)
  cases parent with
  | none => exact hclosed
  | some p => exact hclosed.trans (edited_children _ p _)

theorem childrenOf_closePrevious (m : ScopeManager) (previous : Option Ptr) (q : Ptr) :
    (m.closePrevious previous).childrenOf q = m.childrenOf q := by
  cases previous with
  | none => rfl
  | some old => exact childrenOf_modify_same (f := ScopeSnapshot.beginQuiesce) (fun s => rfl) m old q

/-- The candidate is the last child of the parent; the children of the others stay. -/
theorem childrenOf_installCandidate {slot : ScopeManager.Slot} {parent : Ptr} (hparent : parent < m.heap.length)
    (previous : Option Ptr) (candidate q : Ptr) :
    (m.installCandidate slot parent previous candidate).childrenOf q =
      if parent = q then ScopeSnapshot.childrenWithout (m.childrenOf q) previous ++ [candidate] else m.childrenOf q := by
  have hlength := length_of_heapRel (((edited_setCurrent m (some candidate) slot).trans (edited_markActive _ candidate)).trans
    (edited_closePrevious _ previous)).kept hparent
  unfold installCandidate
  rw [childrenOf_modify (fun l => ScopeSnapshot.childrenWithout l previous ++ [candidate]) (fun s => rfl) hlength,
    childrenOf_closePrevious, childrenOf_modify_same children_markActive]
  cases slot with
  | project => rfl
  | workspace => rfl

/-- The workspace candidate comes below the project candidate, and that takes the place of the previous project below the
application. -/
theorem childrenOf_installTree {t : ScopeManager.TreePublication} (hp : t.projectCandidate < m.heap.length)
    (ha : m.application < m.heap.length) (hne : t.projectCandidate ≠ m.application) (q : Ptr) :
    ((m.attachTree t).installTree t).childrenOf q =
      if m.application = q then ScopeSnapshot.childrenWithout (m.childrenOf q) t.expectedProject ++ [t.projectCandidate]
      else if t.projectCandidate = q then m.childrenOf q ++ [t.workspaceCandidate] else m.childrenOf q := by
  have hattached : (m.attachTree t).childrenOf q =
      if t.projectCandidate = q then m.childrenOf q ++ [t.workspaceCandidate] else m.childrenOf q :=
    childrenOf_modify (fun l => l ++ [t.workspaceCandidate]) (fun s => rfl) hp
  unfold installTree
  simp only
  rw [childrenOf_closePrevious,
    childrenOf_modify (fun l => ScopeSnapshot.childrenWithout l t.expectedProject ++ [t.projectCandidate]) (fun s => rfl),
    childrenOf_modify_same children_markActive, childrenOf_modify_same children_markActive]
  · change (if m.application = q then
      ScopeSnapshot.childrenWithout ((m.attachTree t).childrenOf q) t.expectedProject ++ [t.projectCandidate]
      else (m.attachTree t).childrenOf q) = _
    rw [hattached]
    by_cases hq : m.application = q
    · rw [if_pos hq, if_pos hq, if_neg (hq ▸ hne)]
    · rw [if_neg hq, if_neg hq]
  · rw [length_modify, length_modify]
    exact (length_modify m t.projectCandidate _).symm ▸ ha

/-- Taking a snapshot out leaves the children of every snapshot but its parent. -/
theorem childrenOf_uninstall {slot : ScopeManager.Slot} {parent : Option Ptr} {q : Ptr} (hq : parent ≠ some q) (expected : Ptr) :
    (m.uninstall slot parent expected).childrenOf q = m.childrenOf q := by
  have hclosed : ((m.setCurrent none slot).modify expected ScopeSnapshot.beginQuiesce).childrenOf q = m.childrenOf q := by
    rw [childrenOf_modify_same (f := ScopeSnapshot.beginQuiesce) (fun s => rfl)]
    cases slot with
    | project => rfl
    | workspace => rfl
  cases parent with
  | none => exact hclosed
  | some p =>
    refine Eq.trans ?_ hclosed
    unfold childrenOf
    change ((((m.setCurrent none slot).modify expected ScopeSnapshot.beginQuiesce).modify p _).heap[q]?.map _).getD [] = _
    rw [get_modify]
    simp [Option.some_inj.not.mp hq]

end Installs

/-! ## The slots -/

/-- The application is running, the published project is its only child, and the published workspace one of the project's, which it
names as its parent. -/
structure SlotsOk (m : ScopeManager) : Prop where
  application : m.application < m.heap.length
  started : m.stateOf m.application ≠ some .ready
  project : ∀ p, m.project = some p → p < m.heap.length ∧ p ≠ m.application
  children : m.childrenOf m.application = m.project.toList
  workspace : ∀ w, m.workspace = some w → ∃ p, m.project = some p ∧ m.NamesParent w p ∧ w ∈ m.childrenOf p

theorem lt_of_stateOf {m : ScopeManager} {p : Ptr} {state : ScopeLifecycleState} (h : m.stateOf p = some state) :
    p < m.heap.length := by
  obtain ⟨s, hs, -⟩ := Option.map_eq_some_iff.mp h
  exact (List.getElem?_eq_some_iff.mp hs).1

theorem NamesParent.lt {m : ScopeManager} {w p : Ptr} (h : m.NamesParent w p) : w < m.heap.length := by
  obtain ⟨wi, -, hw, -, -⟩ := h
  obtain ⟨s, hs, -⟩ := Option.map_eq_some_iff.mp hw
  exact (List.getElem?_eq_some_iff.mp hs).1

/-- What is in a slot is a snapshot. -/
def SlotsIn (m : ScopeManager) : Prop := ∀ slot p, m.current slot = some p → p < m.heap.length

theorem SlotsOk.slotsIn {m : ScopeManager} (h : SlotsOk m) : SlotsIn m := by
  intro slot p hp
  cases slot with
  | project => exact (h.project p hp).1
  | workspace =>
    obtain ⟨_, -, hnames, -⟩ := h.workspace p hp
    exact NamesParent.lt hnames

/-! ## What a step can do -/

/-- The heap with a further snapshot. -/
def addSnapshot (m : ScopeManager) (s : ScopeSnapshot) : ScopeManager := { m with heap := m.heap ++ [s] }

/-- Both candidates are installed, and the previous workspace is in the history without having been disposed. -/
def treeInstalled (m : ScopeManager) (t : ScopeManager.TreePublication) : ScopeManager :=
  { (m.attachTree t).installTree t with retired := t.expectedWorkspace.toList ++ m.retired }

/-- The outcomes of a step: the heap is only wound down (after the workspace candidate of a tree was attached, or not), a candidate
is added, one or two candidates are published, or a slot is cleared. -/
inductive StepShape (scc : ProviderGraph → List (List PluginId)) (m m' : ScopeManager) : ScopeStep → Prop where
  | wound {l : ScopeStep} (r : List Ptr) (h : Wound m m' r) : StepShape scc m m' l
  | built {l : ScopeStep} (identity : ScopeIdentity) (parent : Option Ptr) (plan : ActivationPlan)
      (descriptors : List PluginDescriptor) (r : List Ptr) (hparent : ∀ q, parent = some q → q < m.heap.length)
      (hplan : resolveActivationPlan scc .phaseOne identity (parent.bind fun q => (m.heap[q]?).map ScopeSnapshot.plan)
        descriptors = .ok plan)
      (h : Wound (addSnapshot m (.newReady identity plan parent)) m' r) : StepShape scc m m' l
  | project (expected : Option Ptr) (candidate : Ptr) (d : Disposal) (r : List Ptr) (accepts : m.AcceptsProject expected candidate)
      (h : Wound (m.installCandidate .project m.application expected candidate) m' r)
      (previous : ∀ old, expected = some old → old ∈ r) : StepShape scc m m' (.publishProject expected candidate d)
  | workspace (expected : Option Ptr) (candidate : Ptr) (d : Disposal) (project : Ptr) (r : List Ptr)
      (accepts : m.AcceptsWorkspace expected candidate project)
      (h : Wound (m.installCandidate .workspace project expected candidate) m' r)
      (previous : ∀ old, expected = some old → old ∈ r) : StepShape scc m m' (.publishWorkspace expected candidate d)
  | attached {l : ScopeStep} (t : ScopeManager.TreePublication) (r : List Ptr)
      (ready : m.stateOf t.projectCandidate = some .ready) (h : Wound (m.attachTree t) m' r) : StepShape scc m m' l
  | tree (t : ScopeManager.TreePublication) (r : List Ptr) (accepts : m.AcceptsTree t) (h : Wound (treeInstalled m t) m' r)
      (previous : ∀ old, t.expectedProject = some old →
        old ∈ r ∧ m'.heap = (quiesceAndDispose t.disposeProject.teardown old (treeInstalled m t).heap).1) :
      StepShape scc m m' (.publishProjectTree t)
  | clearedProject {l : ScopeStep} (p : Ptr) (r : List Ptr) (hproject : m.project = some p) (hworkspace : m.workspace = none)
      (h : Wound (m.uninstall .project (some m.application) p) m' r) (hp : p ∈ r) : StepShape scc m m' l
  | clearedWorkspace {l : ScopeStep} (w : Ptr) (r : List Ptr) (hworkspace : m.workspace = some w)
      (h : Wound (m.uninstall .workspace m.project w) m' r) (hw : w ∈ r) : StepShape scc m m' l

section Shapes

variable {scc : ProviderGraph → List (List PluginId)} {m : ScopeManager}

theorem wound_refuse (m : ScopeManager) (slot : ScopeManager.Slot) (expected : Option Ptr) (candidate : Ptr) (d : Disposal)
    (reason : String) : ∃ r, Wound m (m.refuse slot expected candidate d reason).1 r :=
  wound_retire_any m d candidate

theorem wound_refuseTree (m : ScopeManager) (t : ScopeManager.TreePublication) (reason : String) :
    ∃ r, Wound m (m.refuseTree t reason).1 r := by
  obtain ⟨r, hworkspace⟩ := wound_retire_any m t.disposeWorkspace t.workspaceCandidate
  obtain ⟨r', hproject⟩ := wound_retire_any (m.retire t.disposeWorkspace t.workspaceCandidate).1 t.disposeProject
    t.projectCandidate
  exact ⟨r' ++ r, hworkspace.trans hproject⟩

/-- The candidate is added; when a plugin fails it is disposed at once. -/
theorem shape_addCandidate {l : ScopeStep} {identity : ScopeIdentity} {parent : Option Ptr} {plan : ActivationPlan}
    (descriptors : List PluginDescriptor) (a : ScopeManager.Activation) {generation : UInt64}
    (hparent : ∀ q, parent = some q → q < m.heap.length)
    (hplan : resolveActivationPlan scc .phaseOne identity (parent.bind fun q => (m.heap[q]?).map ScopeSnapshot.plan)
      descriptors = .ok plan) :
    StepShape scc m ({ m with nextGeneration := generation }.addCandidate identity parent plan a).1 l := by
  unfold addCandidate
  simp only
  split
  · exact .built identity parent plan descriptors [] hparent hplan ⟨WindsDown.refl _, rfl, rfl, rfl, rfl, nofun⟩
  · obtain ⟨r, hr⟩ := wound_retire_any
      { m with nextGeneration := generation, heap := m.heap ++ [.newReady identity plan parent] } a.rollback m.heap.length
    exact .built identity parent plan descriptors r hparent hplan
      ⟨hr.heap, hr.application, hr.project, hr.workspace, hr.history, hr.disposed⟩

theorem shape_buildScope {l : ScopeStep} (identity : ScopeIdentity) (parent : Option Ptr) (descriptors : List PluginDescriptor)
    (a : ScopeManager.Activation) (generation : UInt64) :
    StepShape scc m ({ m with nextGeneration := generation }.buildScopeCandidate scc identity parent descriptors a).1 l := by
  have hunchanged : StepShape scc m { m with nextGeneration := generation } l :=
    .wound [] ⟨WindsDown.refl _, rfl, rfl, rfl, rfl, nofun⟩
  unfold buildScopeCandidate
  cases parent with
  | none =>
    simp only
    split
    · exact hunchanged
    · next plan hplan => exact shape_addCandidate descriptors a nofun hplan
  | some q =>
    simp only
    split
    · exact hunchanged
    · next s hs =>
      split
      · exact hunchanged
      · next plan hplan =>
        refine shape_addCandidate descriptors a ?_ ?_
        · intro q' hq'
          cases hq'
          exact (List.getElem?_eq_some_iff.mp hs).1
        · rw [Option.bind_some, hs]
          exact hplan

theorem shape_buildChild {l : ScopeStep} (kind : ScopeKindId) (parent : Ptr) (scopeId : ScopeId)
    (descriptors : List PluginDescriptor) (a : ScopeManager.Activation) :
    StepShape scc m (m.buildChildCandidate scc kind parent scopeId descriptors a).1 l := by
  unfold buildChildCandidate
  split
  · exact .wound [] (Wound.refl m)
  · next s hs =>
    have hgeneration : ∃ generation, (m.nextIdentity kind scopeId (some s.identity)).1 =
        { m with nextGeneration := generation } := by
      unfold nextIdentity
      split
      · exact ⟨m.nextGeneration, rfl⟩
      · simp only
        split
        · exact ⟨_, rfl⟩
        · split
          · exact ⟨_, rfl⟩
          · exact ⟨_, rfl⟩
    obtain ⟨generation, hgeneration⟩ := hgeneration
    split
    · next taken e heq =>
      rw [heq] at hgeneration
      cases hgeneration
      exact .wound [] ⟨WindsDown.refl _, rfl, rfl, rfl, rfl, nofun⟩
    · next taken identity heq =>
      rw [heq] at hgeneration
      cases hgeneration
      exact shape_buildScope identity (some parent) descriptors a generation

/-- `publish_with`: the candidate is refused, or it was ready, the slot as expected, and it is installed. -/
theorem publishWith_cases (hin : SlotsIn m) (slot : ScopeManager.Slot) (parent : Ptr) (expected : Option Ptr) (candidate : Ptr)
    (d : Disposal) : (∃ r, Wound m (m.publishWith slot parent expected candidate d).1 r) ∨
      m.stateOf candidate = some .ready ∧ m.current slot = expected ∧
        ∃ r, Wound (m.installCandidate slot parent expected candidate) (m.publishWith slot parent expected candidate d).1 r ∧
          ∀ old, expected = some old → old ∈ r := by
  unfold publishWith
  split
  · next hready =>
    split
    · exact Or.inl (wound_refuse m slot expected candidate d _)
    · next hcurrent =>
      refine Or.inr ⟨hready, not_not.mp hcurrent, ?_⟩
      cases expected with
      | none => exact ⟨[], Wound.refl _, nofun⟩
      | some old =>
        have hlt := length_of_heapRel (edited_installCandidate m slot parent (some old) candidate).kept
          (hin _ _ (not_not.mp hcurrent))
        refine ⟨[old], wound_retire hlt d, ?_⟩
        intro old' heq
        cases heq
        exact List.mem_singleton.mpr rfl
  · exact Or.inl (wound_refuse m slot expected candidate d _)
  · exact Or.inl ⟨[], Wound.refl m⟩

theorem shape_publishProject (hin : SlotsIn m) (expected : Option Ptr) (candidate : Ptr) (d : Disposal) :
    StepShape scc m (m.publishProject expected candidate d).1 (.publishProject expected candidate d) := by
  unfold publishProject
  split
  · obtain ⟨r, hr⟩ := wound_refuse m .project expected candidate d "workspace_tree_publication_required"
    exact .wound r hr
  · next hworkspace =>
    rcases publishWith_cases hin .project m.application expected candidate d with ⟨r, hr⟩ | ⟨hready, hcurrent, r, hr, hold⟩
    · exact .wound r hr
    · exact .project expected candidate d r ⟨Option.not_isSome_iff_eq_none.mp hworkspace, hready, hcurrent⟩ hr hold

theorem shape_publishWorkspace (hin : SlotsIn m) (expected : Option Ptr) (candidate : Ptr) (d : Disposal) :
    StepShape scc m (m.publishWorkspace expected candidate d).1 (.publishWorkspace expected candidate d) := by
  unfold publishWorkspace
  split
  · obtain ⟨r, hr⟩ := wound_refuse m .workspace expected candidate d "workspace_parent_project_missing"
    exact .wound r hr
  · next project hproject =>
    split
    · obtain ⟨r, hr⟩ := wound_refuse m .workspace expected candidate d invalidChildParent
      exact .wound r hr
    · next hparent =>
      rcases publishWith_cases hin .workspace project expected candidate d with ⟨r, hr⟩ | ⟨hready, hcurrent, r, hr, hold⟩
      · exact .wound r hr
      · have hlt := hin .project project hproject
        have hpi : m.identityOf project = some (m.heap[project]).identity := by
          rw [identityOf, List.getElem?_eq_getElem hlt]
          rfl
        rw [hpi, Option.map_some, not_not] at hparent
        obtain ⟨wi, hwi, hid⟩ := Option.bind_eq_some_iff.mp hparent
        exact .workspace expected candidate d project r ⟨hproject, ⟨wi, _, hwi, hpi, hid⟩, hready, hcurrent⟩ hr hold

/-- The accepted tree: the previous project is disposed in the heap in which the candidates are installed. -/
theorem shape_retireTree (hin : SlotsIn m) {t : ScopeManager.TreePublication} (accepts : m.AcceptsTree t) :
    StepShape scc m (((m.attachTree t).installTree t).retireTree t).1 (.publishProjectTree t) := by
  have hhistory : { (m.attachTree t).installTree t with
      retired := t.expectedWorkspace.toList ++ ((m.attachTree t).installTree t).retired } = treeInstalled m t := by
    unfold treeInstalled installTree closePrevious
    cases t.expectedProject with
    | none => rfl
    | some old => rfl
  unfold retireTree
  simp only [hhistory]
  cases hep : t.expectedProject with
  | none =>
    refine .tree t [] accepts (Wound.refl _) ?_
    rw [hep]
    exact nofun
  | some old =>
    have hcurrent : m.current .project = some old := accepts.project.trans hep
    have hlt : old < (treeInstalled m t).heap.length :=
      length_of_heapRel (edited_installTree m t).kept (hin .project _ hcurrent)
    refine .tree t [old] accepts (wound_retire hlt t.disposeProject) ?_
    intro old' heq
    rw [hep] at heq
    cases heq
    refine ⟨List.mem_singleton.mpr rfl, ?_⟩
    simp only [retire_eq hlt]
    rfl

theorem shape_publishProjectTree (hin : SlotsIn m) (t : ScopeManager.TreePublication) :
    StepShape scc m (m.publishProjectTree t).1 (.publishProjectTree t) := by
  unfold publishProjectTree
  split
  · exact .wound [] (Wound.refl m)
  · next hdistinct =>
    split
    · next project workspace hproject hworkspace =>
      split
      · next s _ =>
        obtain ⟨r, hr⟩ := wound_refuseTree m t (invalidTransition s.state)
        exact .wound r hr
      · next hready =>
        rw [List.find?_eq_none] at hready
        have hpready := hready project (by simp)
        have hwready := hready workspace (by simp)
        simp only [ne_eq, decide_not, Bool.not_eq_eq_eq_not, Bool.not_true, decide_eq_false_iff_not, not_not] at hpready hwready
        split
        · obtain ⟨r, hr⟩ := wound_refuseTree m t invalidChildParent
          exact .wound r hr
        · next hparent =>
          have hready : m.stateOf t.projectCandidate = some .ready := by
            rw [stateOf, hproject, Option.map_some, hpready]
          simp only
          split
          · obtain ⟨r, hr⟩ := wound_refuseTree (m.attachTree t) t "project_expected_old_mismatch"
            exact .attached t r hready hr
          · next hep =>
            split
            · obtain ⟨r, hr⟩ := wound_refuseTree (m.attachTree t) t "workspace_expected_old_mismatch"
              exact .attached t r hready hr
            · next hew =>
              have haccepts : m.AcceptsTree t :=
                { distinct := hdistinct
                  project_ready := hready
                  workspace_ready := by rw [stateOf, hworkspace, Option.map_some, hwready]
                  names := ⟨workspace.identity, project.identity, by rw [identityOf, hworkspace]; rfl,
                    by rw [identityOf, hproject]; rfl, not_not.mp hparent⟩
                  project := not_not.mp hep
                  workspace := not_not.mp hew }
              exact shape_retireTree hin haccepts
    · exact .wound [] (Wound.refl m)

theorem shape_clearProject (hin : SlotsIn m) (expected : Option Ptr) (d : Disposal) {l : ScopeStep} :
    StepShape scc m (m.clearProject expected d).1 l := by
  unfold clearProject
  split
  · exact .wound [] (Wound.refl m)
  · next p =>
    split
    · exact .wound [] (Wound.refl m)
    · next hworkspace =>
      unfold clearSlot
      split
      · exact .wound [] (Wound.refl m)
      · next hcurrent =>
        have hlt := length_of_heapRel (edited_uninstall m .project (some m.application) p).kept
          (hin _ _ (not_not.mp hcurrent))
        exact .clearedProject p [p] (not_not.mp hcurrent) hworkspace (wound_retire hlt d) (List.mem_singleton.mpr rfl)

theorem shape_clearWorkspace (hin : SlotsIn m) (expected : Option Ptr) (d : Disposal) {l : ScopeStep} :
    StepShape scc m (m.clearWorkspace expected d).1 l := by
  unfold clearWorkspace
  split
  · exact .wound [] (Wound.refl m)
  · next w =>
    unfold clearSlot
    split
    · exact .wound [] (Wound.refl m)
    · next hcurrent =>
      have hlt := length_of_heapRel (edited_uninstall m .workspace m.project w).kept (hin _ _ (not_not.mp hcurrent))
      exact .clearedWorkspace w [w] (not_not.mp hcurrent) (wound_retire hlt d) (List.mem_singleton.mpr rfl)

/-- Every step has one of the shapes. -/
theorem step_shape (scc : ProviderGraph → List (List PluginId)) (hin : SlotsIn m) (l : ScopeStep) :
    StepShape scc m (m.step scc l) l := by
  cases l with
  | buildScope identity parent descriptors a => exact shape_buildScope identity parent descriptors a m.nextGeneration
  | buildProject scopeId descriptors a => exact shape_buildChild _ m.application scopeId descriptors a
  | buildWorkspace parent scopeId descriptors a => exact shape_buildChild _ parent scopeId descriptors a
  | publishProject expected candidate d => exact shape_publishProject hin expected candidate d
  | publishWorkspace expected candidate d => exact shape_publishWorkspace hin expected candidate d
  | publishProjectTree t => exact shape_publishProjectTree hin t
  | clearProject expected d => exact shape_clearProject hin expected d
  | clearWorkspace expected d => exact shape_clearWorkspace hin expected d
  | rollbackCandidate candidate d =>
    obtain ⟨r, hr⟩ := wound_retire_any m d candidate
    exact .wound r hr
  | shutdown d => exact .wound [] (wound_dispose m d m.application)

end Shapes

/-! ## The slots over a run -/

section Slots

variable {scc : ProviderGraph → List (List PluginId)} {m m' : ScopeManager}

theorem started_kept (h : HeapRel Kept m.heap m'.heap) {p : Ptr} (hs : m.stateOf p ≠ some .ready) :
    m'.stateOf p ≠ some .ready := by
  intro hready
  obtain ⟨s', hs', hstate⟩ := Option.map_eq_some_iff.mp hready
  obtain ⟨s, hget, hk⟩ := h.get_before hs'
  refine hs ?_
  rw [stateOf, hget, Option.map_some, hk.ready hstate]

/-- What the snapshots are stays; the slots and the lists of children are given. -/
theorem SlotsOk.edit (hok : SlotsOk m) (hkept : HeapRel Kept m.heap m'.heap) (happ : m'.application = m.application)
    (hproject : ∀ p, m'.project = some p → p < m.heap.length ∧ p ≠ m.application)
    (hchildren : m'.childrenOf m.application = m'.project.toList)
    (hworkspace : ∀ w, m'.workspace = some w → ∃ p, m'.project = some p ∧ m.NamesParent w p ∧ w ∈ m'.childrenOf p) :
    SlotsOk m' := by
  refine ⟨?_, ?_, ?_, ?_, ?_⟩
  · rw [happ]
    exact length_of_heapRel hkept hok.application
  · rw [happ]
    exact started_kept hkept hok.started
  · intro p hp
    obtain ⟨hlt, hne⟩ := hproject p hp
    rw [happ]
    exact ⟨length_of_heapRel hkept hlt, hne⟩
  · rw [happ]
    exact hchildren
  · intro w hw
    obtain ⟨p, hp, hnames, hmem⟩ := hworkspace w hw
    exact ⟨p, hp, namesParent_kept hkept hnames, hmem⟩

theorem SlotsOk.wound (hok : SlotsOk m) {r : List Ptr} (h : Wound m m' r) : SlotsOk m' := by
  refine hok.edit (kept_of_windsDown h.heap) h.application ?_ ?_ ?_
  · rw [h.project]
    exact hok.project
  · rw [h.project, childrenOf_winds h.heap]
    exact hok.children
  · rw [h.project, h.workspace]
    intro w hw
    obtain ⟨p, hp, hnames, hmem⟩ := hok.workspace w hw
    exact ⟨p, hp, hnames, by rw [childrenOf_winds h.heap]; exact hmem⟩

/-- A new snapshot leaves the others where they are. -/
theorem get_addSnapshot {s : ScopeSnapshot} {q : Ptr} (hq : q < m.heap.length) :
    (addSnapshot m s).heap[q]? = m.heap[q]? := List.getElem?_append_left hq

theorem lt_addSnapshot (s : ScopeSnapshot) {q : Ptr} (hq : q < m.heap.length) : q < (addSnapshot m s).heap.length := by
  rw [addSnapshot, List.length_append]
  exact Nat.lt_add_right _ hq

theorem slotsOk_addSnapshot (hok : SlotsOk m) (s : ScopeSnapshot) : SlotsOk (addSnapshot m s) := by
  have hsame : ∀ {q}, q < m.heap.length → (addSnapshot m s).heap[q]? = m.heap[q]? := fun hq => get_addSnapshot hq
  refine ⟨lt_addSnapshot s hok.application, ?_, ?_, ?_, ?_⟩
  · show (addSnapshot m s).stateOf m.application ≠ _
    rw [stateOf, hsame hok.application]
    exact hok.started
  · intro p hp
    obtain ⟨hlt, hne⟩ := hok.project p hp
    exact ⟨lt_addSnapshot s hlt, hne⟩
  · show (addSnapshot m s).childrenOf m.application = _
    rw [childrenOf, hsame hok.application]
    exact hok.children
  · intro w hw
    obtain ⟨p, hp, ⟨wi, pi, hwi, hpi, hid⟩, hmem⟩ := hok.workspace w hw
    have hplt := (hok.project p hp).1
    have hwlt := NamesParent.lt ⟨wi, pi, hwi, hpi, hid⟩
    refine ⟨p, hp, ⟨wi, pi, ?_, ?_, hid⟩, ?_⟩
    · rw [identityOf, hsame hwlt]
      exact hwi
    · rw [identityOf, hsame hplt]
      exact hpi
    · rw [childrenOf, hsame hplt]
      exact hmem

/-- A ready candidate is not the application. -/
theorem SlotsOk.ne_application (hok : SlotsOk m) {p : Ptr} (hready : m.stateOf p = some .ready) : p ≠ m.application := by
  rintro rfl
  exact hok.started hready

/-- The only child of the application goes when it is replaced. -/
theorem childrenWithout_toList (slot : Option Ptr) : ScopeSnapshot.childrenWithout slot.toList slot = [] := by
  cases slot with
  | none => rfl
  | some p => exact List.erase_cons_head ..

theorem slots_installCandidate (m : ScopeManager) (slot : ScopeManager.Slot) (parent : Ptr) (expected : Option Ptr)
    (candidate : Ptr) :
    (m.installCandidate slot parent expected candidate).project = (m.setCurrent (some candidate) slot).project ∧
      (m.installCandidate slot parent expected candidate).workspace = (m.setCurrent (some candidate) slot).workspace := by
  cases expected with
  | none => exact ⟨rfl, rfl⟩
  | some old => exact ⟨rfl, rfl⟩

variable {expected : Option Ptr} {candidate : Ptr} {t : ScopeManager.TreePublication}

theorem slotsOk_installProject (hok : SlotsOk m) (accepts : m.AcceptsProject expected candidate) :
    SlotsOk (m.installCandidate .project m.application expected candidate) := by
  obtain ⟨hworkspace, hready, hproject⟩ := accepts
  have hedited := edited_installCandidate m .project m.application expected candidate
  obtain ⟨hslot, hother⟩ := slots_installCandidate m .project m.application expected candidate
  refine hok.edit hedited.kept hedited.application ?_ ?_ ?_
  · rw [hslot]
    rintro p ⟨⟩
    exact ⟨lt_of_stateOf hready, hok.ne_application hready⟩
  · rw [hslot, childrenOf_installCandidate hok.application, if_pos rfl, hok.children, hproject, childrenWithout_toList]
    rfl
  · rw [hother]
    intro w hw
    rw [show (m.setCurrent (some candidate) .project).workspace = none from hworkspace] at hw
    cases hw

theorem slotsOk_installWorkspace (hok : SlotsOk m) {project : Ptr} (accepts : m.AcceptsWorkspace expected candidate project) :
    SlotsOk (m.installCandidate .workspace project expected candidate) := by
  obtain ⟨hproject, hnames, hready, hworkspace⟩ := accepts
  obtain ⟨hlt, hne⟩ := hok.project project hproject
  have hedited := edited_installCandidate m .workspace project expected candidate
  obtain ⟨hother, hslot⟩ := slots_installCandidate m .workspace project expected candidate
  refine hok.edit hedited.kept hedited.application ?_ ?_ ?_
  · rw [hother]
    exact hok.project
  · rw [hother, childrenOf_installCandidate hlt, if_neg hne]
    exact hok.children
  · rw [hother, hslot]
    rintro w ⟨⟩
    refine ⟨project, hproject, hnames, ?_⟩
    rw [childrenOf_installCandidate hlt, if_pos rfl]
    exact List.mem_append_right _ (List.mem_singleton.mpr rfl)

theorem slots_treeInstalled (m : ScopeManager) (t : ScopeManager.TreePublication) :
    (treeInstalled m t).project = some t.projectCandidate ∧ (treeInstalled m t).workspace = some t.workspaceCandidate := by
  unfold treeInstalled installTree closePrevious
  cases t.expectedProject with
  | none => exact ⟨rfl, rfl⟩
  | some old => exact ⟨rfl, rfl⟩

theorem edited_treeInstalled (m : ScopeManager) (t : ScopeManager.TreePublication) :
    Edited m (treeInstalled m t) [t.workspaceCandidate, t.projectCandidate] := by
  have hhistory : Edited ((m.attachTree t).installTree t) (treeInstalled m t) [] := edited_slots _ rfl rfl
  exact (edited_installTree m t).trans hhistory

theorem slotsOk_treeInstalled (hok : SlotsOk m) (accepts : m.AcceptsTree t) : SlotsOk (treeInstalled m t) := by
  have hedited := edited_treeInstalled m t
  have hlt := lt_of_stateOf accepts.project_ready
  have hne := hok.ne_application accepts.project_ready
  have hchildren : ∀ q, (treeInstalled m t).childrenOf q = _ := childrenOf_installTree hlt hok.application hne
  obtain ⟨hproject, hworkspace⟩ := slots_treeInstalled m t
  refine hok.edit hedited.kept hedited.application ?_ ?_ ?_
  · rw [hproject]
    rintro p ⟨⟩
    exact ⟨hlt, hne⟩
  · rw [hproject, hchildren, if_pos rfl, hok.children, ← accepts.project, childrenWithout_toList]
    rfl
  · rw [hproject, hworkspace]
    rintro w ⟨⟩
    refine ⟨t.projectCandidate, rfl, accepts.names, ?_⟩
    rw [hchildren, if_neg (Ne.symm hne), if_pos rfl]
    exact List.mem_append_right _ (List.mem_singleton.mpr rfl)

theorem slotsOk_attachTree (hok : SlotsOk m)
    (hready : m.stateOf t.projectCandidate = some .ready) : SlotsOk (m.attachTree t) := by
  have hchildren : ∀ q, (m.attachTree t).childrenOf q = _ := fun q =>
    childrenOf_modify (q := q) (fun l => l ++ [t.workspaceCandidate]) (fun s => rfl) (lt_of_stateOf hready)
  refine hok.edit (edited_children m t.projectCandidate _).kept rfl hok.project ?_ ?_
  · rw [hchildren, if_neg (hok.ne_application hready)]
    exact hok.children
  · intro w hw
    obtain ⟨p, hp, hnames, hmem⟩ := hok.workspace w hw
    refine ⟨p, hp, hnames, ?_⟩
    rw [hchildren]
    split
    · exact List.mem_append_left _ hmem
    · exact hmem

/-- The only child of the application goes when it is cleared. -/
theorem slotsOk_uninstallProject (hok : SlotsOk m) {p : Ptr} (hproject : m.project = some p) (hworkspace : m.workspace = none) :
    SlotsOk (m.uninstall .project (some m.application) p) := by
  refine hok.edit (edited_uninstall m .project (some m.application) p).kept rfl nofun ?_ ?_
  · have hlt : m.application < ((m.setCurrent none .project).modify p ScopeSnapshot.beginQuiesce).heap.length := by
      rw [length_modify]
      exact hok.application
    rw [uninstall, childrenOf_modify (fun l => l.filter (fun c => c ≠ p)) (fun s => rfl) hlt, if_pos rfl,
      childrenOf_modify_same (f := ScopeSnapshot.beginQuiesce) (fun s => rfl)]
    change (m.childrenOf m.application).filter _ = []
    rw [hok.children, hproject]
    simp
  · intro w hw
    rw [show (m.uninstall .project (some m.application) p).workspace = none from hworkspace] at hw
    cases hw

theorem slots_uninstallWorkspace (m : ScopeManager) (w : Ptr) :
    (m.uninstall .workspace m.project w).project = m.project ∧ (m.uninstall .workspace m.project w).workspace = none := by
  unfold uninstall
  cases hproject : m.project with
  | none => exact ⟨hproject, rfl⟩
  | some p => exact ⟨hproject, rfl⟩

theorem slotsOk_uninstallWorkspace (hok : SlotsOk m) (w : Ptr) : SlotsOk (m.uninstall .workspace m.project w) := by
  have hedited := edited_uninstall m .workspace m.project w
  obtain ⟨hproject, hworkspace⟩ := slots_uninstallWorkspace m w
  refine hok.edit hedited.kept hedited.application ?_ ?_ ?_
  · rw [hproject]
    exact hok.project
  · rw [hproject, childrenOf_uninstall]
    · exact hok.children
    · intro happ
      exact (hok.project _ happ).2 rfl
  · rw [hworkspace]
    exact nofun

theorem slotsOk_step (scc : ProviderGraph → List (List PluginId)) (hok : SlotsOk m) (l : ScopeStep) : SlotsOk (m.step scc l) := by
  cases step_shape scc hok.slotsIn l with
  | wound r h => exact hok.wound h
  | built identity parent plan descriptors r hparent hplan h => exact (slotsOk_addSnapshot hok _).wound h
  | project expected candidate d r accepts h previous => exact (slotsOk_installProject hok accepts).wound h
  | workspace expected candidate d project r accepts h previous => exact (slotsOk_installWorkspace hok accepts).wound h
  | attached t r ready h => exact (slotsOk_attachTree hok ready).wound h
  | tree t r accepts h previous => exact (slotsOk_treeInstalled hok accepts).wound h
  | clearedProject p r hproject hworkspace h hp => exact (slotsOk_uninstallProject hok hproject hworkspace).wound h
  | clearedWorkspace w r hworkspace h hw => exact (slotsOk_uninstallWorkspace hok w).wound h

theorem slotsOk_new {descriptors : List PluginDescriptor} (hnew : new scc descriptors = .ok m) : SlotsOk m := by
  obtain ⟨plan, -, hnew⟩ := bind_eq_ok hnew
  cases hnew
  refine ⟨Nat.zero_lt_one, ?_, nofun, rfl, nofun⟩
  intro hready
  cases hready

end Slots

end ScopeAux

end Rho
