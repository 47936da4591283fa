import Rho.Extension.Candidate
import Rho.Theorems.Activation

/-!
# The rollback of a failed activation

What the plugins of a candidate have registered up to the first failure is disposed in the reverse order, each effect once, and
nothing of it stays in the registry, which never routes. This holds whatever fails and however it fails, unless a panic comes before
there is a future to catch it: then the build ends where it is, and all that is registered and not yet disposed is left.
-/

namespace Rho

open ResolverAux ContributionRegistry

namespace Candidate

/-- What was registered is taken back: the activators called are those of the plugins in the order, the effects are disposed in the
reverse order of their registration, the registry is empty and has never routed. -/
structure RolledBack (plugins : List InternalPlugin) (order : List PluginId) (c : Candidate) : Prop where
  called : c.called = order.filter (fun id => (plugins.find? (fun p => p.descriptor.id = id)).isSome)
  disposals : c.disposals = c.registered.reverse
  registry : ∀ kind capabilityId, c.registry.owner kind capabilityId = none
  unrouted : ∀ r ∈ c.registries, r.routing = false

/-- What the activators of some plugins ask for, one after the other. -/
def registrationsOf (plugins : List InternalPlugin) (order : List PluginId) : List Registration :=
  order.flatMap fun id => ((plugins.find? (fun p => p.descriptor.id = id)).map (·.activator.registrations)).getD []

/-- No panic escapes in the call of what fails, or in the call of a disposer: but one that has nothing behind it does no harm. -/
def PanicsCaught (plugins : List InternalPlugin) (order : List PluginId) (failing : Activator) : Prop :=
  if failing.ending = .panickedInCall then registrationsOf plugins order = []
  else .effect .panickedInCall ∉ (registrationsOf plugins order).tail

/-! ## The activation -/

/-- An effect with the plugin it belongs to, its number there and what disposes it. -/
abbrev Work := PluginId × Nat × Disposer

/-- The effects of a plugin in the order of their registration. -/
def workOf (pluginId : PluginId) (disposers : List Disposer) : List Work := disposers.zipIdx.map fun d => (pluginId, d.2, d.1)

/-- The effects that are registered, and how they came from what was asked for. -/
structure Registered (c : Candidate) (xs : List Registration) (work : List Work) : Prop where
  registered : c.registered = work.map fun w => (w.1, w.2.1)
  owned : ∀ kind capabilityId p, c.registry.owner kind capabilityId = some p →
    ∃ i, (p, i, Disposer.registration kind capabilityId) ∈ work
  empty : xs = [] ↔ work = []
  panics : Registration.effect .panickedInCall ∈ xs.tail ↔ ∃ w ∈ work.tail, w.2.2 = .own .panickedInCall
  disposals : c.disposals = []
  routing : c.registry.routing = false
  unrouted : ∀ r ∈ c.registries, r.routing = false

theorem mem_tail_concat {α : Type*} {l : List α} {a b : α} : b ∈ (l ++ [a]).tail ↔ b ∈ l.tail ∨ l ≠ [] ∧ b = a := by
  cases l with
  | nil => simp
  | cons x l => simp

theorem workOf_concat (pluginId : PluginId) (disposers : List Disposer) (d : Disposer) :
    workOf pluginId (disposers ++ [d]) = workOf pluginId disposers ++ [(pluginId, disposers.length, d)] := by
  simp [workOf, List.zipIdx_append]

section Activation

variable {c : Candidate} {xs : List Registration} {work : List Work} {pluginId : PluginId} {sink : Sink}

theorem registered_new : Registered new [] [] := by
  refine ⟨rfl, nofun, by simp, by simp, rfl, rfl, ?_⟩
  intro r hr
  cases List.mem_singleton.mp hr
  rfl

/-- What was asked for is registered, with the registry it makes. -/
theorem Registered.push (h : Registered c xs work) {x : Registration} {d : Disposer} {i : Nat} {c' : Candidate}
    (hregistered : c'.registered = c.registered ++ [(pluginId, i)])
    (howner : ∀ kind capabilityId p, c'.registry.owner kind capabilityId = some p →
      c.registry.owner kind capabilityId = some p ∨ p = pluginId ∧ d = .registration kind capabilityId)
    (hpanics : x = .effect .panickedInCall ↔ d = .own .panickedInCall) (hdisposals : c'.disposals = c.disposals)
    (hrouting : c'.registry.routing = false) (hunrouted : ∀ r ∈ c'.registries, r.routing = false) :
    Registered c' (xs ++ [x]) (work ++ [(pluginId, i, d)]) := by
  refine ⟨?_, ?_, by simp, ?_, hdisposals.trans h.disposals, hrouting, hunrouted⟩
  · rw [hregistered, h.registered, List.map_append, List.map_singleton]
  · intro kind capabilityId p hp
    rcases howner kind capabilityId p hp with hold | ⟨rfl, rfl⟩
    · obtain ⟨j, hj⟩ := h.owned kind capabilityId p hold
      exact ⟨j, List.mem_append_left _ hj⟩
    · exact ⟨i, List.mem_append_right _ (List.mem_singleton_self _)⟩
  · rw [mem_tail_concat, h.panics]
    constructor
    · rintro (⟨w, hw, hd⟩ | ⟨hne, hx⟩)
      · exact ⟨w, mem_tail_concat.mpr (Or.inl hw), hd⟩
      · exact ⟨_, mem_tail_concat.mpr (Or.inr ⟨fun hempty => hne (h.empty.mpr hempty), rfl⟩), hpanics.mp hx.symm⟩
    · rintro ⟨w, hw, hd⟩
      rcases mem_tail_concat.mp hw with hw | ⟨hne, rfl⟩
      · exact Or.inl ⟨w, hw, hd⟩
      · exact Or.inr ⟨fun hempty => hne (h.empty.mp hempty), (hpanics.mpr hd).symm⟩

variable {kind : RegistryKind} {capabilityId : CapabilityId} {p : PluginId}

/-- A contribution that is refused is registered by someone already. -/
theorem Registered.refused (h : Registered c xs work)
    (howner : c.registry.owner kind capabilityId = some p) : Registered c (xs ++ [.contribution kind capabilityId]) work := by
  have hne : work ≠ [] := by
    rintro rfl
    obtain ⟨i, hi⟩ := h.owned kind capabilityId p howner
    cases hi
  refine ⟨h.registered, h.owned, ?_, ?_, h.disposals, h.routing, h.unrouted⟩
  · simp [hne]
  · rw [mem_tail_concat, h.panics]
    exact ⟨fun hp => hp.resolve_right (fun hx => nomatch hx.2), Or.inl⟩

theorem registerOne_refused (howner : c.registry.owner kind capabilityId = some p) :
    registerOne pluginId (c, sink) (.contribution kind capabilityId) = (c, sink) := by
  simp [registerOne, register, howner]

theorem registerOne_accepted (howner : c.registry.owner kind capabilityId = none) :
    registerOne pluginId (c, sink) (.contribution kind capabilityId) =
      push pluginId (c.setRegistry (c.registry.setOwner kind capabilityId (some pluginId)), sink)
        (.registration kind capabilityId) := by
  simp [registerOne, register, howner]

/-- One registration. -/
theorem Registered.registerOne (h : Registered c xs (work ++ workOf pluginId sink.disposers)) (x : Registration) :
    Registered (Candidate.registerOne pluginId (c, sink) x).1 (xs ++ [x])
        (work ++ workOf pluginId (Candidate.registerOne pluginId (c, sink) x).2.disposers) ∧
      (Candidate.registerOne pluginId (c, sink) x).1.called = c.called ∧
      (Candidate.registerOne pluginId (c, sink) x).1.activated = c.activated := by
  cases x with
  | effect ending =>
    refine ⟨?_, rfl, rfl⟩
    change Registered _ _ (work ++ workOf pluginId (sink.disposers ++ [.own ending]))
    rw [workOf_concat, ← List.append_assoc]
    exact h.push rfl (fun _ _ _ hp => Or.inl hp) (by simp) rfl h.routing h.unrouted
  | contribution kind capabilityId =>
    cases howner : c.registry.owner kind capabilityId with
    | some p =>
      rw [registerOne_refused howner]
      exact ⟨h.refused howner, rfl, rfl⟩
    | none =>
      rw [registerOne_accepted howner]
      refine ⟨?_, rfl, rfl⟩
      change Registered _ _ (work ++ workOf pluginId (sink.disposers ++ [.registration kind capabilityId]))
      rw [workOf_concat, ← List.append_assoc]
      refine h.push rfl ?_ (by simp) rfl h.routing ?_
      · intro kind' capabilityId' p hp
        change (if kind' = kind ∧ capabilityId' = capabilityId then some pluginId else _) = some p at hp
        split at hp
        · next hsame =>
          obtain ⟨rfl, rfl⟩ := hsame
          cases hp
          exact Or.inr ⟨rfl, rfl⟩
        · exact Or.inl hp
      · intro r hr
        rcases List.mem_append.mp hr with hr | hr
        · exact h.unrouted r hr
        · cases List.mem_singleton.mp hr
          exact h.routing

/-- The call of an activator. -/
theorem Registered.activate (h : Registered c xs work) (pluginId : PluginId) (activator : Activator) :
    Registered (c.activate pluginId activator).1 (xs ++ activator.registrations)
        (work ++ workOf pluginId (c.activate pluginId activator).2.disposers) ∧
      (c.activate pluginId activator).1.called = c.called ++ [pluginId] ∧
      (c.activate pluginId activator).1.activated = c.activated := by
  have hfold : ∀ (rest : List Registration) (s : Candidate × Sink) (done : List Registration),
      Registered s.1 done (work ++ workOf pluginId s.2.disposers) →
        Registered (rest.foldl (Candidate.registerOne pluginId) s).1 (done ++ rest)
            (work ++ workOf pluginId (rest.foldl (Candidate.registerOne pluginId) s).2.disposers) ∧
          (rest.foldl (Candidate.registerOne pluginId) s).1.called = s.1.called ∧
          (rest.foldl (Candidate.registerOne pluginId) s).1.activated = s.1.activated := by
    intro rest
    induction rest with
    | nil =>
      intro s done hs
      rw [List.append_nil]
      exact ⟨hs, rfl, rfl⟩
    | cons x rest ih =>
      intro s done hs
      obtain ⟨hone, hcalled, hactivated⟩ := hs.registerOne x
      obtain ⟨hrest, hcalled', hactivated'⟩ := ih _ _ hone
      rw [List.append_assoc, List.singleton_append] at hrest
      exact ⟨hrest, hcalled'.trans hcalled, hactivated'.trans hactivated⟩
  have hstart : Registered { c with called := c.called ++ [pluginId] } xs (work ++ workOf pluginId Sink.empty.disposers) := by
    change Registered _ _ (work ++ [])
    rw [List.append_nil]
    exact ⟨h.registered, h.owned, h.empty, h.panics, h.disposals, h.routing, h.unrouted⟩
  exact hfold activator.registrations _ xs hstart

/-- The effects of the plugins activated so far. -/
def workIn (c : Candidate) : List Work := c.activated.flatMap fun a => workOf a.pluginId a.disposers

/-- The effects that are registered are those of the activated plugins, none of which has been disposed. -/
structure Standing (c : Candidate) (xs : List Registration) : Prop where
  registered : Registered c xs c.workIn
  undisposed : ∀ a ∈ c.activated, a.effects.report = none

theorem workIn_addActivated (c : Candidate) (pluginId : PluginId) (sink : Sink) :
    (c.addActivated pluginId sink).workIn = c.workIn ++ workOf pluginId sink.disposers := by
  unfold workIn addActivated
  rw [List.flatMap_append, List.flatMap_singleton]
  rfl

/-- A plugin joins the activated ones with what is in its sink. -/
theorem Standing.addActivated (hundisposed : ∀ a ∈ c.activated, a.effects.report = none)
    (h : Registered c xs (c.workIn ++ workOf pluginId sink.disposers)) : Standing (c.addActivated pluginId sink) xs := by
  constructor
  · rw [workIn_addActivated]
    exact ⟨h.registered, h.owned, h.empty, h.panics, h.disposals, h.routing, h.unrouted⟩
  · intro a ha
    rcases List.mem_append.mp ha with ha | ha
    · exact hundisposed a ha
    · cases List.mem_singleton.mp ha
      rfl

theorem Standing.activate (h : Standing c xs) (pluginId : PluginId) (activator : Activator) :
    Registered (c.activate pluginId activator).1 (xs ++ activator.registrations)
        ((c.activate pluginId activator).1.workIn ++ workOf pluginId (c.activate pluginId activator).2.disposers) ∧
      (c.activate pluginId activator).1.called = c.called ++ [pluginId] ∧
      ∀ a ∈ (c.activate pluginId activator).1.activated, a.effects.report = none := by
  obtain ⟨hregistered, hcalled, hactivated⟩ := h.registered.activate pluginId activator
  have hwork : (c.activate pluginId activator).1.workIn = c.workIn := by rw [workIn, workIn, hactivated]
  rw [hwork, hactivated]
  exact ⟨hregistered, hcalled, h.undisposed⟩

variable {plugins : List InternalPlugin} {passiveIds : List PluginId}

/-- How the loop ends at the plugin that is the first to fail. -/
structure FailsAt (plugins : List InternalPlugin) (order : List PluginId) (activator : Activator) (c : Candidate) (xs : List Registration)
    (r : Activated × Candidate) : Prop where
  called : r.2.called = c.called ++ order.filter (fun id => (plugins.find? (fun p => p.descriptor.id = id)).isSome)
  escaped : activator.ending = .panickedInCall → r.1 = .unwound ∧ ∃ work, Registered r.2 (xs ++ registrationsOf plugins order) work
  caught : activator.ending ≠ .panickedInCall →
    (∃ pluginId error, r.1 = .failed pluginId error) ∧ Standing r.2 (xs ++ registrationsOf plugins order)

theorem activateAll_fails {id : PluginId} {plugin : InternalPlugin} (after : List PluginId)
    (hplugin : plugins.find? (fun p => p.descriptor.id = id) = some plugin) (hfails : plugin.activator.ending ≠ .ok) :
    ∀ (before : List PluginId) (c : Candidate) (xs : List Registration), Standing c xs →
      (∀ id' ∈ before, plugins.find? (fun p => p.descriptor.id = id') = none → id' ∈ passiveIds) →
      (∀ id' ∈ before, ∀ p, plugins.find? (fun p => p.descriptor.id = id') = some p → p.activator.ending = .ok) →
      FailsAt plugins (before ++ [id]) plugin.activator c xs (activateAll plugins passiveIds (before ++ id :: after) c) := by
  intro before
  induction before with
  | nil =>
    intro c xs hstanding _ _
    obtain ⟨hregistered, hcalled, hundisposed⟩ := hstanding.activate id plugin.activator
    have hxs : registrationsOf plugins [id] = plugin.activator.registrations := by
      simp [registrationsOf, hplugin]
    have hone : [id].filter (fun i => (plugins.find? (fun p => p.descriptor.id = i)).isSome) = [id] := by
      simp [hplugin]
    rw [List.nil_append, List.nil_append]
    rw [activateAll]
    rw [hplugin]
    dsimp only
    cases hending : plugin.activator.ending with
    | ok => exact absurd hending hfails
    | error e =>
      refine ⟨by rw [hone]; exact hcalled, fun h => (nomatch hending.symm.trans h), fun _ => ⟨⟨_, _, rfl⟩, ?_⟩⟩
      rw [hxs]
      exact .addActivated hundisposed hregistered
    | panicked =>
      refine ⟨by rw [hone]; exact hcalled, fun h => (nomatch hending.symm.trans h), fun _ => ⟨⟨_, _, rfl⟩, ?_⟩⟩
      rw [hxs]
      exact .addActivated hundisposed hregistered
    | panickedInCall =>
      refine ⟨by rw [hone]; exact hcalled, fun _ => ?_, fun h => absurd hending h⟩
      rw [hxs]
      exact ⟨rfl, _, hregistered⟩
  | cons first before ih =>
    intro c xs hstanding hpassive hok
    have hpassive' := fun id' h => hpassive id' (List.mem_cons_of_mem _ h)
    have hok' := fun id' h => hok id' (List.mem_cons_of_mem _ h)
    rw [List.cons_append, List.cons_append]
    rw [activateAll]
    cases hfirst : plugins.find? (fun p => p.descriptor.id = first) with
    | none =>
      dsimp only
      rw [if_pos (hpassive first List.mem_cons_self hfirst)]
      have hadded : Standing (c.addActivated first .empty) xs := by
        refine .addActivated hstanding.undisposed ?_
        change Registered c xs (c.workIn ++ [])
        rw [List.append_nil]
        exact hstanding.registered
      have hrest := ih _ xs hadded hpassive' hok'
      have hxs : registrationsOf plugins (first :: (before ++ [id])) = registrationsOf plugins (before ++ [id]) := by
        simp [registrationsOf, hfirst]
      refine ⟨?_, ?_, ?_⟩
      · rw [hrest.called, List.filter_cons_of_neg (by simp [hfirst])]
        rfl
      · rw [hxs]
        exact hrest.escaped
      · rw [hxs]
        exact hrest.caught
    | some p =>
      dsimp only
      rw [hok first List.mem_cons_self p hfirst]
      dsimp only
      obtain ⟨hregistered, hcalled, hundisposed⟩ := hstanding.activate first p.activator
      have hrest := ih _ _ (Standing.addActivated hundisposed hregistered) hpassive' hok'
      have hxs : xs ++ registrationsOf plugins (first :: (before ++ [id])) =
          xs ++ p.activator.registrations ++ registrationsOf plugins (before ++ [id]) := by
        simp [registrationsOf, hfirst]
      refine ⟨?_, ?_, ?_⟩
      · rw [hrest.called, List.filter_cons_of_pos (by simp [hfirst])]
        change (c.activate first p.activator).1.called ++ _ = _
        rw [hcalled, List.append_assoc, List.singleton_append]
      · rw [hxs]
        exact hrest.escaped
      · rw [hxs]
        exact hrest.caught

end Activation

/-! ## The disposal -/

/-- One disposer is called, and what it does to the registry. -/
def disposeOne (c : Candidate) (w : Work) : Candidate :=
  let called := { c with disposals := c.disposals ++ [(w.1, w.2.1)] }
  match w.2.2 with
  | .registration kind capabilityId => called.setRegistry (c.registry.unregister kind capabilityId w.1)
  | .own _ => called

/-- The disposers are called one after the other, up to the first whose call panics. -/
def disposeAll : List Work → Candidate → Candidate
  | [], c => c
  | w :: work, c => if w.2.2 = .own .panickedInCall then c.disposeOne w else disposeAll work (c.disposeOne w)

theorem disposeAll_append (l l' : List Work) (c : Candidate) :
    disposeAll (l ++ l') c = if ∃ w ∈ l, w.2.2 = .own .panickedInCall then disposeAll l c else disposeAll l' (disposeAll l c) := by
  induction l generalizing c with
  | nil => simp [disposeAll]
  | cons w l ih =>
    simp only [List.cons_append, disposeAll, List.exists_mem_cons_iff]
    by_cases hw : w.2.2 = .own .panickedInCall
    · simp [hw]
    · simp only [hw, if_false, false_or]
      exact ih _

/-- With time for each effect the loop over a stack calls the disposers down to the first. -/
theorem disposeFrom_eq (plugin : ActivatedPlugin) (n : Nat) (hn : n ≤ plugin.disposers.length) (c : Candidate) (stack : EffectStack) :
    (disposeFrom plugin (fun _ => false) n c stack).1 =
        disposeAll ((workOf plugin.pluginId plugin.disposers).take n).reverse c ∧
      ((disposeFrom plugin (fun _ => false) n c stack).2 = none ↔
        ∃ w ∈ (workOf plugin.pluginId plugin.disposers).take n, w.2.2 = .own .panickedInCall) := by
  induction n generalizing c stack with
  | zero =>
    refine ⟨rfl, ?_⟩
    simp [disposeFrom, EffectStack.finish]
  | succ n ih =>
    have hget : (plugin.disposers)[n]? = some plugin.disposers[n] := List.getElem?_eq_getElem hn
    have htake : (workOf plugin.pluginId plugin.disposers).take (n + 1) =
        (workOf plugin.pluginId plugin.disposers).take n ++ [(plugin.pluginId, n, plugin.disposers[n])] := by
      rw [List.take_add_one, workOf, List.getElem?_map, List.getElem?_zipIdx, hget]
      simp
    have hexists : (∃ w ∈ (workOf plugin.pluginId plugin.disposers).take (n + 1), w.2.2 = .own .panickedInCall) ↔
        (∃ w ∈ (workOf plugin.pluginId plugin.disposers).take n, w.2.2 = .own .panickedInCall) ∨
          plugin.disposers[n] = .own .panickedInCall := by
      simp only [htake, List.mem_append, List.mem_singleton, or_and_right, exists_or, exists_eq_left]
    have hrest := ih (Nat.le_of_succ_le hn)
    rw [hexists, htake, List.reverse_append, List.reverse_singleton, List.singleton_append]
    unfold disposeFrom
    rw [hget]
    simp only [Bool.false_eq_true, if_false, disposeAll, disposeOne]
    cases plugin.disposers[n] with
    | registration kind capabilityId =>
      refine ⟨(hrest _ _).1, (hrest _ _).2.trans ?_⟩
      rw [or_iff_left nofun]
    | own ending =>
      cases ending with
      | settled settled =>
        refine ⟨(hrest _ _).1, (hrest _ _).2.trans ?_⟩
        rw [or_iff_left nofun]
      | panickedInCall => exact ⟨rfl, iff_of_true rfl (Or.inr rfl)⟩

theorem disposeEffects_eq (plugin : ActivatedPlugin) (hfresh : plugin.effects.report = none) (c : Candidate) :
    (c.disposeEffects plugin (fun _ => false)).1 = disposeAll (workOf plugin.pluginId plugin.disposers).reverse c ∧
      ((c.disposeEffects plugin (fun _ => false)).2 = none ↔
        ∃ w ∈ workOf plugin.pluginId plugin.disposers, w.2.2 = .own .panickedInCall) := by
  have hall : (workOf plugin.pluginId plugin.disposers).take plugin.disposers.length = workOf plugin.pluginId plugin.disposers := by
    rw [List.take_of_length_le]
    simp [workOf]
  have h := disposeFrom_eq plugin plugin.disposers.length (Nat.le_refl _) c plugin.effects
  rw [hall] at h
  unfold disposeEffects
  rw [hfresh]
  exact h

/-- The plugins are disposed one after the other, and so are all their effects. -/
theorem disposePlugins_eq {late : PluginId → Nat → Bool} (hlate : ∀ p i, late p i = false) :
    ∀ (plugins : List ActivatedPlugin) (c : Candidate), (∀ a ∈ plugins, a.effects.report = none) →
      (disposePlugins late plugins c).1 = disposeAll (plugins.flatMap fun a => (workOf a.pluginId a.disposers).reverse) c := by
  intro plugins
  induction plugins with
  | nil =>
    intro c _
    rfl
  | cons plugin plugins ih =>
    intro c hfresh
    have hnever : late plugin.pluginId = fun _ => false := funext (hlate plugin.pluginId)
    obtain ⟨hdisposed, hpanics⟩ := disposeEffects_eq plugin (hfresh plugin List.mem_cons_self) c
    have hexists : (∃ w ∈ (workOf plugin.pluginId plugin.disposers).reverse, w.2.2 = .own .panickedInCall) ↔
        (c.disposeEffects plugin (fun _ => false)).2 = none := by
      simp only [List.mem_reverse, hpanics]
    rw [List.flatMap_cons, disposeAll_append]
    simp only [hexists, ← hdisposed]
    unfold disposePlugins
    rw [hnever]
    generalize c.disposeEffects plugin (fun _ => false) = r at *
    obtain ⟨c', report⟩ := r
    cases report with
    | none => rfl
    | some report =>
      rw [if_neg nofun]
      exact ih c' fun a ha => hfresh a (List.mem_cons_of_mem _ ha)

/-- What a disposer leaves registered was registered before, and is not its own. -/
theorem owner_disposeOne {c : Candidate} {w : Work} {kind : RegistryKind} {capabilityId : CapabilityId} {p : PluginId}
    (h : (c.disposeOne w).registry.owner kind capabilityId = some p) :
    c.registry.owner kind capabilityId = some p ∧ ¬ (w.1 = p ∧ w.2.2 = .registration kind capabilityId) := by
  obtain ⟨pluginId, i, disposer⟩ := w
  cases disposer with
  | own ending => exact ⟨h, fun hw => nomatch hw.2⟩
  | registration kind' capabilityId' =>
    simp only [disposeOne, setRegistry, unregister] at h
    split at h
    · simp only [setOwner] at h
      split at h
      · cases h
      · next hother =>
        refine ⟨h, ?_⟩
        rintro ⟨-, hw⟩
        cases hw
        exact hother ⟨rfl, rfl⟩
    · next hother =>
      refine ⟨h, ?_⟩
      rintro ⟨rfl, hw⟩
      cases hw
      exact hother h

/-- No disposer lets the registry route. -/
theorem unrouted_disposeOne {c : Candidate} (hrouting : c.registry.routing = false) (hunrouted : ∀ r ∈ c.registries, r.routing = false)
    (w : Work) : (c.disposeOne w).registry.routing = false ∧ ∀ r ∈ (c.disposeOne w).registries, r.routing = false := by
  obtain ⟨pluginId, i, disposer⟩ := w
  cases disposer with
  | own ending => exact ⟨hrouting, hunrouted⟩
  | registration kind capabilityId =>
    have hkept : (c.registry.unregister kind capabilityId pluginId).routing = false := by
      unfold unregister
      split
      · exact hrouting
      · exact hrouting
    refine ⟨hkept, ?_⟩
    intro r hr
    rcases List.mem_append.mp hr with hr | hr
    · exact hunrouted r hr
    · cases List.mem_singleton.mp hr
      exact hkept

theorem disposeOne_frame (c : Candidate) (w : Work) :
    (c.disposeOne w).called = c.called ∧ (c.disposeOne w).registered = c.registered ∧
      (c.disposeOne w).disposals = c.disposals ++ [(w.1, w.2.1)] := by
  obtain ⟨pluginId, i, disposer⟩ := w
  cases disposer with
  | own ending => exact ⟨rfl, rfl, rfl⟩
  | registration kind capabilityId => exact ⟨rfl, rfl, rfl⟩

theorem disposeAll_frame (work : List Work) (c : Candidate) :
    (disposeAll work c).called = c.called ∧ (disposeAll work c).registered = c.registered := by
  induction work generalizing c with
  | nil => exact ⟨rfl, rfl⟩
  | cons w work ih =>
    obtain ⟨hcalled, hregistered, -⟩ := disposeOne_frame c w
    unfold disposeAll
    split
    · exact ⟨hcalled, hregistered⟩
    · exact ⟨(ih _).1.trans hcalled, (ih _).2.trans hregistered⟩

theorem disposeAll_unrouted (work : List Work) (c : Candidate) (hrouting : c.registry.routing = false)
    (hunrouted : ∀ r ∈ c.registries, r.routing = false) : ∀ r ∈ (disposeAll work c).registries, r.routing = false := by
  induction work generalizing c with
  | nil => exact hunrouted
  | cons w work ih =>
    obtain ⟨hrouting', hunrouted'⟩ := unrouted_disposeOne hrouting hunrouted w
    unfold disposeAll
    split
    · exact hunrouted'
    · exact ih _ hrouting' hunrouted'

/-- When no call of a disposer panics but that of the last, all are called and nothing stays registered. -/
theorem disposeAll_done (work : List Work) (c : Candidate) (hcaught : ∀ w ∈ work.dropLast, w.2.2 ≠ .own .panickedInCall)
    (howned : ∀ kind capabilityId p, c.registry.owner kind capabilityId = some p →
      ∃ i, (p, i, Disposer.registration kind capabilityId) ∈ work) :
    (disposeAll work c).disposals = c.disposals ++ work.map (fun w => (w.1, w.2.1)) ∧
      ∀ kind capabilityId, (disposeAll work c).registry.owner kind capabilityId = none := by
  induction work generalizing c with
  | nil =>
    refine ⟨(List.append_nil _).symm, ?_⟩
    intro kind capabilityId
    rw [Option.eq_none_iff_forall_ne_some]
    intro p hp
    obtain ⟨i, hi⟩ := howned kind capabilityId p hp
    cases hi
  | cons w work ih =>
    obtain ⟨-, -, hdisposals⟩ := disposeOne_frame c w
    have howned' : ∀ kind capabilityId p, (c.disposeOne w).registry.owner kind capabilityId = some p →
        ∃ i, (p, i, Disposer.registration kind capabilityId) ∈ work := by
      intro kind capabilityId p hp
      obtain ⟨hp, hother⟩ := owner_disposeOne hp
      obtain ⟨i, hi⟩ := howned kind capabilityId p hp
      rcases List.mem_cons.mp hi with rfl | hi
      · exact absurd ⟨rfl, rfl⟩ hother
      · exact ⟨i, hi⟩
    cases work with
    | nil =>
      have hlast : disposeAll [w] c = c.disposeOne w := by
        unfold disposeAll
        split
        · rfl
        · rfl
      rw [hlast]
      refine ⟨hdisposals, ?_⟩
      intro kind capabilityId
      rw [Option.eq_none_iff_forall_ne_some]
      intro p hp
      obtain ⟨i, hi⟩ := howned' kind capabilityId p hp
      cases hi
    | cons w' work =>
      obtain ⟨hrest, hempty⟩ := ih (c.disposeOne w) (fun v hv => hcaught v (List.mem_cons_of_mem _ hv)) howned'
      rw [disposeAll, if_neg (hcaught w List.mem_cons_self)]
      refine ⟨?_, hempty⟩
      rw [hrest, hdisposals, List.append_assoc, List.singleton_append]
      rfl

/-- A call that panics before the last one leaves the rest. -/
theorem disposeAll_stops (work : List Work) (c : Candidate) (hpanics : ∃ w ∈ work.dropLast, w.2.2 = .own .panickedInCall) :
    (disposeAll work c).disposals.length < c.disposals.length + work.length := by
  induction work generalizing c with
  | nil =>
    obtain ⟨w, hw, -⟩ := hpanics
    cases hw
  | cons w work ih =>
    obtain ⟨-, -, hdisposals⟩ := disposeOne_frame c w
    have hone : (c.disposeOne w).disposals.length = c.disposals.length + 1 := by rw [hdisposals, List.length_append, List.length_singleton]
    cases work with
    | nil =>
      obtain ⟨v, hv, -⟩ := hpanics
      cases hv
    | cons w' work =>
      rw [disposeAll]
      split
      · rw [hone, List.length_cons, List.length_cons]
        omega
      · next hw =>
        obtain ⟨v, hv, hpanic⟩ := hpanics
        rcases List.mem_cons.mp hv with rfl | hv
        · exact absurd hpanic hw
        · have hrest := ih (c.disposeOne w) ⟨v, hv, hpanic⟩
          rw [hone] at hrest
          rw [List.length_cons]
          omega

/-- A candidate whose activation has failed is rolled back when no disposer but the first registered panics in its call. -/
theorem rolledBack_quiesce_iff {plugins : List InternalPlugin} {order : List PluginId} {c : Candidate} {xs : List Registration}
    {timing : Timing} (hlate : ∀ p i, timing.late p i = false) (hstanding : Standing c xs)
    (hcalled : c.called = order.filter (fun id => (plugins.find? (fun p => p.descriptor.id = id)).isSome)) :
    RolledBack plugins order (c.quiesceAndDispose timing).1 ↔ .effect .panickedInCall ∉ xs.tail := by
  have hregistered := hstanding.registered
  have hdisposed : (c.quiesceAndDispose timing).1 = disposeAll c.workIn.reverse (c.setRegistry c.registry.closeRouting) := by
    have hreverse : (c.activated.reverse.flatMap fun a => (workOf a.pluginId a.disposers).reverse) = c.workIn.reverse := by
      rw [workIn, List.reverse_flatMap]
      rfl
    rw [← hreverse]
    exact disposePlugins_eq hlate c.activated.reverse _ fun a ha => hstanding.undisposed a (List.mem_reverse.mp ha)
  obtain ⟨hframe, hframe'⟩ := disposeAll_frame c.workIn.reverse (c.setRegistry c.registry.closeRouting)
  have hunrouted : ∀ r ∈ (c.setRegistry c.registry.closeRouting).registries, r.routing = false := by
    intro r hr
    rcases List.mem_append.mp hr with hr | hr
    · exact hregistered.unrouted r hr
    · cases List.mem_singleton.mp hr
      rfl
  rw [hdisposed, hregistered.panics]
  constructor
  · rintro hback ⟨w, hw, hpanic⟩
    have hlast : w ∈ c.workIn.reverse.dropLast := by
      rw [List.dropLast_reverse]
      exact List.mem_reverse.mpr hw
    have hshort := disposeAll_stops c.workIn.reverse (c.setRegistry c.registry.closeRouting) ⟨w, hlast, hpanic⟩
    have hall := congrArg List.length hback.disposals
    rw [hframe'] at hall
    change _ = c.registered.reverse.length at hall
    change _ < c.disposals.length + _ at hshort
    rw [hregistered.registered] at hall
    rw [hregistered.disposals] at hshort
    simp only [List.length_reverse, List.length_map, List.length_nil] at hall hshort
    omega
  · intro hcaught
    obtain ⟨hdisposals, hempty⟩ := disposeAll_done c.workIn.reverse (c.setRegistry c.registry.closeRouting)
      (by
        intro w hw hpanic
        rw [List.dropLast_reverse] at hw
        exact hcaught ⟨w, List.mem_reverse.mp hw, hpanic⟩)
      (by
        intro kind capabilityId p hp
        obtain ⟨i, hi⟩ := hregistered.owned kind capabilityId p hp
        exact ⟨i, List.mem_reverse.mpr hi⟩)
    refine ⟨hframe.trans hcalled, ?_, hempty, disposeAll_unrouted _ _ rfl hunrouted⟩
    rw [hdisposals, hframe']
    change c.disposals ++ _ = c.registered.reverse
    rw [hregistered.disposals, hregistered.registered, List.nil_append, List.map_reverse]

/-- The plugins of a plan are among the descriptors it was resolved from. -/
theorem mem_ids_of_mem_order {scc : ProviderGraph → List (List PluginId)} {policy : ScopePolicy} {scope : ScopeIdentity}
    {parentPlan : Option ActivationPlan} {descriptors : List PluginDescriptor} {plan : ActivationPlan}
    (h : resolveActivationPlan scc policy scope parentPlan descriptors = .ok plan) {id : PluginId} (hid : id ∈ plan.activationOrder) :
    id ∈ descriptors.map (·.id) := by
  obtain ⟨-, -, -, s, -, -, rfl⟩ := resolve_ok_inv h
  have hnode : id ∈ ProviderGraph.sortedNodes ⟨(normalizedDescriptors descriptors).map fun d => d.id, s.edges⟩ :=
    Kahn.mem_nodes_of_mem_order _ hid
  exact (normalizedDescriptors_ids descriptors).mem_iff.mp (OrdSet.mem_ofList.mp hnode)

end Candidate

open Candidate

/-- For every plan and every behaviour of the plugins, the build takes back what was registered up to the first failure exactly when no
panic escapes in a call while anything is left to take back. -/
theorem failed_build_rolls_back_iff {scc : ProviderGraph → List (List PluginId)} {identity : ScopeIdentity}
    {parentPlan : Option ActivationPlan} {plugins : List InternalPlugin} {passive : List PluginDescriptor} {timing : Timing}
    {plan : ActivationPlan} {before after : List PluginId} {id : PluginId} {plugin : InternalPlugin}
    (hresolve : resolveActivationPlan scc .phaseOne identity parentPlan (plugins.map (·.descriptor) ++ passive) = .ok plan)
    (horder : plan.activationOrder = before ++ id :: after)
    (hbefore : ∀ id' ∈ before, ∀ p, plugins.find? (fun p => p.descriptor.id = id') = some p → p.activator.ending = .ok)
    (hplugin : plugins.find? (fun p => p.descriptor.id = id) = some plugin) (hfails : plugin.activator.ending ≠ .ok)
    (hlate : ∀ p i, timing.late p i = false) :
    RolledBack plugins (before ++ [id]) (build scc identity parentPlan plugins passive timing).2 ↔
      PanicsCaught plugins (before ++ [id]) plugin.activator := by
  have hpassive : ∀ id' ∈ before, plugins.find? (fun p => p.descriptor.id = id') = none → id' ∈ passive.map (·.id) := by
    intro id' hid' hnone
    have hmem := mem_ids_of_mem_order hresolve (by rw [horder]; exact List.mem_append_left _ hid')
    rw [List.map_append, List.mem_append, List.map_map] at hmem
    refine hmem.resolve_left fun hmem => ?_
    obtain ⟨p, hp, hpid⟩ := List.mem_map.mp hmem
    have hother := List.find?_eq_none.mp hnone p hp
    exact hother (decide_eq_true hpid)
  have hnew : Standing new [] := ⟨registered_new, nofun⟩
  have hfail := activateAll_fails after hplugin hfails before new [] hnew hpassive hbefore
  have hcalled := hfail.called
  have hcaught := hfail.caught
  have hescaped := hfail.escaped
  rw [List.nil_append] at hescaped hcaught
  unfold build PanicsCaught
  rw [hresolve]
  dsimp only
  rw [horder]
  generalize activateAll plugins (passive.map (·.id)) (before ++ id :: after) new = r at *
  obtain ⟨ended, c⟩ := r
  by_cases hending : plugin.activator.ending = .panickedInCall
  · rw [if_pos hending]
    obtain ⟨rfl, work, hregistered⟩ := hescaped hending
    dsimp only at hregistered hcalled ⊢
    constructor
    · intro hback
      have hnone := hback.disposals
      rw [hregistered.disposals, hregistered.registered] at hnone
      refine hregistered.empty.mpr ?_
      simpa using hnone.symm
    · intro hempty
      obtain rfl := hregistered.empty.mp hempty
      refine ⟨hcalled, by rw [hregistered.disposals, hregistered.registered]; rfl, ?_, hregistered.unrouted⟩
      intro kind capabilityId
      rw [Option.eq_none_iff_forall_ne_some]
      intro p hp
      obtain ⟨i, hi⟩ := hregistered.owned kind capabilityId p hp
      cases hi
  · rw [if_neg hending]
    obtain ⟨⟨pluginId, error, rfl⟩, hstanding⟩ := hcaught hending
    dsimp only at hstanding hcalled ⊢
    have hiff : RolledBack plugins (before ++ [id]) (c.quiesceAndDispose timing).1 ↔
        .effect .panickedInCall ∉ (registrationsOf plugins (before ++ [id])).tail := rolledBack_quiesce_iff hlate hstanding hcalled
    generalize c.quiesceAndDispose timing = q at *
    obtain ⟨c', report⟩ := q
    cases report with
    | none => exact hiff
    | some report => exact hiff

/-! A plugin for a log, and one for plots that needs the log. -/

namespace CandidateAux

open ActivationAux

/-- The log's own effect cannot be disposed. -/
def logger : InternalPlugin where
  descriptor := ⟨⟨"logger", logger_valid⟩, [⟨"application", application_valid⟩], [cap "log" log_valid], [], []⟩
  activator := ⟨[.contribution .marker ⟨"log", log_valid⟩, .effect (.settled .panicked)], .ok⟩

/-- The plots register a source, and then the activator ends as given. -/
def plotter (ending : ActivationEnding) : InternalPlugin where
  descriptor := ⟨⟨"plotter", plotter_valid⟩, [⟨"application", application_valid⟩], [], [cap "log" log_valid], []⟩
  activator := ⟨[.contribution .source ⟨"plot", plot_valid⟩], ending⟩

def inTime : Timing := ⟨false, fun _ _ => false⟩

/-- The candidate that is left when the plots end so. -/
def left (ending : ActivationEnding) : Candidate :=
  (build componentsOf applicationScope none [logger, plotter ending] [] inTime).2

end CandidateAux

open ActivationAux CandidateAux

/-- An activator that panics while it is waited for is taken back, and the log with it. -/
theorem failed_build_rolls_back_polled :
    RolledBack [logger, plotter .panicked] [⟨"logger", by decide⟩, ⟨"plotter", by decide⟩] (left .panicked) := by
  obtain ⟨plan, hresolve, horder⟩ : ∃ plan,
      resolveActivationPlan componentsOf .phaseOne applicationScope none [logger.descriptor, (plotter .panicked).descriptor] = .ok plan ∧
        plan.activationOrder = [⟨"logger", by decide⟩] ++ [⟨"plotter", by decide⟩] := ⟨_, rfl, rfl⟩
  refine (failed_build_rolls_back_iff hresolve horder ?_ rfl (by decide) (fun _ _ => rfl)).mpr ?_
  · intro id hid p hp
    cases List.mem_singleton.mp hid
    cases hp
    rfl
  · exact (if_neg (by decide)).mpr (by decide +kernel)

/-- When the activator panics in the call itself, the source and the log stay. -/
theorem panic_in_call_leaves_log :
    ¬ RolledBack [logger, plotter .panickedInCall] [⟨"logger", by decide⟩, ⟨"plotter", by decide⟩] (left .panickedInCall) := by
  intro hback
  have hlog := hback.registry .marker ⟨"log", by decide⟩
  have hleft : (left .panickedInCall).registry.owner .marker ⟨"log", by decide⟩ = some ⟨"logger", by decide⟩ := by rfl
  rw [hleft] at hlog
  cases hlog

end Rho
