import EventGateway.Proofs.Registry
import EventGateway.Router.Basic
/-!
# Fan-out — which sessions an event comes to

The loop over scopes and subscribers is opened once: `Progress` is what it has done at each of its points, `visit`
keeps it, and the end of it is `fanOut_spec`: the event was pushed once to each live session that wants it, and every
other session is as it was.  The index only leads to sessions; whether they want the event they decide themselves, so a
session that is marked as seen is never asked for too few scopes.
-/
namespace EventGateway

namespace Session

/-- What becomes of a session when an event is published. -/
def offer (now : Nat) (e : Event) (s : Session) : Session := if s.wants e then (s.push now e.payload).2 else s

theorem wants_iff (s : Session) {e : Event} : s.wants e = true ↔ s.capabilities.allows e.kind = true ∧
    s.released = false ∧ ∃ scope ∈ e.scopes, ∃ kinds, s.subscriptions[scope]? = some kinds ∧
      kinds.admits e.kind = true := by
  simp [wants, admits, Option.any_eq_true, and_assoc]

theorem offer_of_released {now : Nat} {e : Event} {s : Session} (h : s.released = true) : s.offer now e = s := by
  have hw : s.wants e ≠ true := fun hw => by
    rw [(s.wants_iff.1 hw).2.1] at h; cases h
  rw [offer, if_neg hw]

end Session

namespace Router

/-! ## Pushing to one session -/

theorem registry_noteOverflow (r : Router) (id : SessionId) (message : String) (outcome : PushOutcome) :
    (r.noteOverflow id message outcome).registry = r.registry := by
  unfold noteOverflow; split <;> rfl

theorem registry_enqueue (now : Moment) (id : SessionId) (p : Wire.Payload) (r : Router) :
    (r.enqueue now id p).2.registry = r.registry.changed id (·.push now.ticks p) := by
  unfold enqueue Registry.changed
  split <;> rename_i h <;> rw [h] <;> rfl

theorem enqueue_fst_of_handle? {now : Moment} {id : SessionId} {p : Wire.Payload} {r : Router} {s : Session}
    (h : r.registry.handle? id = some s) : (r.enqueue now id p).1 = (s.push now.ticks p).1 := by
  unfold enqueue
  rw [Registry.modify?_of_handle? _ h]

theorem registry_reply (now : Moment) (id : SessionId) (p : Wire.Payload) (r : Router) :
    (r.reply now id p).2.registry = r.registry.changed id (·.push now.ticks p) := by
  unfold reply
  rw [← registry_enqueue]
  exact registry_noteOverflow _ _ _ _

theorem registry_closeWith (id : SessionId) (code : CloseCode) (r : Router) :
    (r.closeWith id code).2.registry = r.registry.changed id (·.closeWith code) := by
  unfold closeWith Registry.changed
  split <;> rename_i h <;> rw [h] <;> rfl

theorem registry_nextOutgoing (id : SessionId) (r : Router) :
    (r.nextOutgoing id).2.registry = r.registry.changed id (·.nextOutgoing) := by
  unfold nextOutgoing Registry.changed
  split <;> rename_i h <;> rw [h] <;> rfl

theorem nextOutgoing_fst_of_handle? {id : SessionId} {r : Router} {s : Session}
    (h : r.registry.handle? id = some s) : (r.nextOutgoing id).1 = s.nextOutgoing.1 := by
  unfold nextOutgoing
  rw [Registry.modify?_of_handle? _ h]

namespace Fanout

/-- The sessions that the event was pushed to, in this order. -/
def reached (f : Fanout) : List SessionId := f.outcomes.map Prod.fst

/-- **What a fan-out that began at `r` has done so far.** -/
structure Progress (now : Moment) (e : Event) (r : Router) (f : Fanout) : Prop where
  consistent : f.router.registry.Consistent
  nodup : f.reached.Nodup
  reached_iff : ∀ id, id ∈ f.reached ↔ id ∈ f.seen ∧ ∃ s, r.registry.session? id = some s ∧ s.wants e = true
  session? : ∀ id, f.router.registry.session? id = if id ∈ f.reached then
    (r.registry.session? id).map (fun s => (s.push now.ticks e.payload).2) else r.registry.session? id
  outcome : ∀ x ∈ f.outcomes, ∃ s, r.registry.session? x.1 = some s ∧ x.2 = (s.push now.ticks e.payload).1
  retired : f.router.registry.retired = r.registry.retired
  byScope : f.router.registry.byScope = r.registry.byScope
  queue : f.router.registry.queue = r.registry.queue

theorem progress_start (now : Moment) (e : Event) {r : Router} (hr : r.registry.Consistent) :
    Progress now e r ⟨[], [], r⟩ :=
  ⟨hr, List.nodup_nil, (fun _ => by simp [reached]), (fun _ => by simp [reached]), (fun _ h => by cases h), rfl, rfl,
    rfl⟩

/-- A session that the fan-out finds is, its stream aside, the one that was there in the beginning. -/
theorem Progress.sameStanding {now : Moment} {e : Event} {r : Router} {f : Fanout} (hf : Progress now e r f)
    {id : SessionId} {s : Session} (h : f.router.registry.session? id = some s) :
    ∃ s₀, r.registry.session? id = some s₀ ∧ s₀.SameStanding s := by
  rw [hf.session?] at h
  split at h
  · obtain ⟨s₀, hs₀, rfl⟩ := Option.map_eq_some_iff.1 h
    exact ⟨s₀, hs₀, s₀.sameStanding_push _ _⟩
  · exact ⟨s, h, rfl⟩

/-- A session that wants the event and was not asked before is pushed to. -/
theorem Progress.push {now : Moment} {e : Event} {r : Router} {f : Fanout} (hf : Progress now e r f) {s s₀ : Session}
    (hs₀ : r.registry.session? s.id = some s₀) (hseen : s.id ∉ f.seen) (hwants : s₀.wants e = true)
    (message : String) : Progress now e r ⟨s.id :: f.seen,
      f.outcomes ++ [(s.id, (f.router.enqueue now s.id e.payload).1)],
      (f.router.enqueue now s.id e.payload).2.noteOverflow s.id message (f.router.enqueue now s.id e.payload).1⟩ := by
  have hnew : s.id ∉ f.reached := fun h => hseen ((hf.reached_iff _).1 h).1
  -- The session is not reached yet, so it is still as it was in the beginning.
  have hcur : f.router.registry.session? s.id = some s₀ := by rw [hf.session?, if_neg hnew, hs₀]
  have hstanding : ∀ t : Session, t.SameStanding (t.push now.ticks e.payload).2 := fun t => t.sameStanding_push _ _
  have hreached : ∀ (o : PushOutcome) (r' : Router) (seen : List SessionId),
      reached ⟨seen, f.outcomes ++ [(s.id, o)], r'⟩ = f.reached ++ [s.id] := fun _ _ _ => by simp [reached]
  have hregistry : ∀ o, ((f.router.enqueue now s.id e.payload).2.noteOverflow s.id message o).registry =
      f.router.registry.changed s.id (·.push now.ticks e.payload) := fun o => by
    rw [registry_noteOverflow, registry_enqueue]
  refine ⟨?_, ?_, fun id => ?_, fun id => ?_, fun x hx => ?_, ?_, ?_, ?_⟩
  · rw [hregistry]; exact hf.consistent.changed hstanding
  · rw [hreached, List.nodup_append]
    refine ⟨hf.nodup, by simp, fun a ha b hb he => ?_⟩
    rw [he, List.mem_singleton.1 hb] at ha
    exact hnew ha
  · rw [hreached, List.mem_append, List.mem_singleton, hf.reached_iff, List.mem_cons]
    by_cases hid : id = s.id
    · subst hid
      exact ⟨fun _ => ⟨.inl rfl, s₀, hs₀, hwants⟩, fun _ => .inr rfl⟩
    · simp [hid]
  · rw [hreached, hregistry, Registry.session?_changed hf.consistent hstanding, hf.session?]
    simp only [List.mem_append, List.mem_singleton]
    by_cases hid : id = s.id
    · subst hid
      simp [hnew]
    · simp [hid]
  · rcases List.mem_append.1 hx with hx | hx
    · exact hf.outcome x hx
    · rw [List.mem_singleton.1 hx]
      exact ⟨s₀, hs₀, enqueue_fst_of_handle? (Registry.handle?_of_session? hcur)⟩
  · rw [hregistry, Registry.retired_changed hf.consistent hstanding hcur, hf.retired]
  · rw [hregistry, Registry.byScope_changed, hf.byScope]
  · rw [hregistry, Registry.queue_changed, hf.queue]

/-- A session that does not want the event is only marked as asked. -/
theorem Progress.pass {now : Moment} {e : Event} {r : Router} {f : Fanout} (hf : Progress now e r f) {s s₀ : Session}
    (hs₀ : r.registry.session? s.id = some s₀) (hseen : s.id ∉ f.seen) (hwants : s₀.wants e ≠ true) :
    Progress now e r { f with seen := s.id :: f.seen } := by
  refine ⟨hf.consistent, hf.nodup, fun id => ?_, hf.session?, hf.outcome, hf.retired, hf.byScope, hf.queue⟩
  rw [show reached { f with seen := s.id :: f.seen } = f.reached from rfl, hf.reached_iff, List.mem_cons]
  by_cases hid : id = s.id
  · subst hid
    refine ⟨fun h => absurd h.1 hseen, fun ⟨_, t, ht, hw⟩ => absurd ?_ hwants⟩
    rw [hs₀] at ht
    rw [Option.some.inj ht]
    exact hw
  · simp [hid]

theorem Progress.visit {now : Moment} {e : Event} {r : Router} {f : Fanout} (hf : Progress now e r f) {s s₀ : Session}
    (hs₀ : r.registry.session? s.id = some s₀) (hsame : s₀.SameStanding s) :
    Progress now e r (f.visit now e s) ∧ ∀ id, id ∈ (f.visit now e s).seen ↔ id ∈ f.seen ∨ s.id = id := by
  unfold Fanout.visit
  by_cases hseen : s.id ∈ f.seen
  · rw [if_pos (by simpa using hseen)]
    exact ⟨hf, fun id => ⟨.inl, fun h => h.elim (fun h => h) (fun he => he ▸ hseen)⟩⟩
  rw [if_neg (by simpa using hseen)]
  have hmem : ∀ id, id ∈ s.id :: f.seen ↔ id ∈ f.seen ∨ s.id = id := fun id => by
    rw [List.mem_cons, or_comm, eq_comm]
  by_cases hwants : s.wants e = true
  · rw [if_pos hwants]
    exact ⟨hf.push hs₀ hseen (hsame.wants_eq e ▸ hwants) _, hmem⟩
  · rw [if_neg hwants]
    exact ⟨hf.pass hs₀ hseen (hsame.wants_eq e ▸ hwants), hmem⟩

theorem Progress.visits {now : Moment} {e : Event} {r : Router} : ∀ (ss : List Session) {f : Fanout},
    Progress now e r f → (∀ s ∈ ss, ∃ s₀, r.registry.session? s.id = some s₀ ∧ s₀.SameStanding s) →
      Progress now e r (ss.foldl (Fanout.visit now e) f) ∧
        ∀ id, id ∈ (ss.foldl (Fanout.visit now e) f).seen ↔ id ∈ f.seen ∨ ∃ s ∈ ss, s.id = id
  | [], f, hf, _ => ⟨hf, fun id => by simp⟩
  | s :: ss, f, hf, hss => by
    obtain ⟨s₀, hs₀, hsame⟩ := hss s List.mem_cons_self
    obtain ⟨hvisit, hseen⟩ := hf.visit hs₀ hsame
    obtain ⟨hrest, hseen'⟩ := visits ss hvisit (fun t ht => hss t (List.mem_cons_of_mem _ ht))
    refine ⟨hrest, fun id => ?_⟩
    rw [List.foldl_cons, hseen', hseen, or_assoc]
    simp

theorem Progress.visitScope {now : Moment} {e : Event} {r : Router} {f : Fanout} (hf : Progress now e r f)
    (scope : Scope) : Progress now e r (f.visitScope now e scope) ∧
      ∀ id, id ∈ (f.visitScope now e scope).seen ↔
        id ∈ f.seen ∨ (id ∈ r.registry.byScope.ids scope ∧ ∃ s, r.registry.session? id = some s) := by
  have hsub : ∀ s, s ∈ f.router.registry.subscribers scope ↔
      ∃ id ∈ r.registry.byScope.ids scope, f.router.registry.session? id = some s := fun s => by
    rw [Registry.subscribers, List.mem_filterMap, hf.byScope]
  obtain ⟨hprogress, hseen⟩ := hf.visits (f.router.registry.subscribers scope) (fun s hs => by
    obtain ⟨id, -, hid⟩ := (hsub s).1 hs
    obtain ⟨s₀, hs₀, hsame⟩ := hf.sameStanding hid
    exact ⟨s₀, by rw [hf.consistent.live_id hid]; exact hs₀, hsame⟩)
  refine ⟨hprogress, fun id => (hseen id).trans (or_congr_right ⟨?_, ?_⟩)⟩
  · rintro ⟨s, hs, rfl⟩
    obtain ⟨id, hmem, hid⟩ := (hsub s).1 hs
    rw [hf.consistent.live_id hid]
    obtain ⟨s₀, hs₀, -⟩ := hf.sameStanding hid
    exact ⟨hmem, s₀, hs₀⟩
  · rintro ⟨hmem, s₀, hs₀⟩
    obtain ⟨s, hs⟩ : ∃ s, f.router.registry.session? id = some s := by
      rw [hf.session?, hs₀]; split <;> exact ⟨_, rfl⟩
    exact ⟨s, (hsub s).2 ⟨id, hmem, hs⟩, hf.consistent.live_id hs⟩

theorem Progress.visitScopes {now : Moment} {e : Event} {r : Router} : ∀ (scopes : List Scope) {f : Fanout},
    Progress now e r f → Progress now e r (scopes.foldl (Fanout.visitScope now e) f) ∧
      ∀ id, id ∈ (scopes.foldl (Fanout.visitScope now e) f).seen ↔ id ∈ f.seen ∨
        ∃ scope ∈ scopes, id ∈ r.registry.byScope.ids scope ∧ ∃ s, r.registry.session? id = some s
  | [], f, hf => ⟨hf, fun id => by simp⟩
  | scope :: scopes, f, hf => by
    obtain ⟨hone, hseen⟩ := hf.visitScope scope
    obtain ⟨hrest, hseen'⟩ := visitScopes scopes hone
    refine ⟨hrest, fun id => ?_⟩
    rw [List.foldl_cons, hseen', hseen, or_assoc]
    simp

theorem visit_induction {P : Registry → Prop} {now : Moment} {e : Event}
    (hpush : ∀ (r : Registry) (id : SessionId), P r → P (r.changed id (·.push now.ticks e.payload))) {f : Fanout}
    (hf : P f.router.registry) (s : Session) : P (f.visit now e s).router.registry := by
  unfold Fanout.visit
  split
  · exact hf
  · split
    · simp only [registry_noteOverflow, registry_enqueue]
      exact hpush _ _ hf
    · exact hf

end Fanout

/-! ## The whole fan-out -/

/-- **What every push keeps is kept by a fan-out.** -/
theorem fanOut_induction {P : Registry → Prop} {now : Moment} {e : Event}
    (hpush : ∀ (r : Registry) (id : SessionId), P r → P (r.changed id (·.push now.ticks e.payload)))
    (scopes : List Scope) {r : Router} (hr : P r.registry) : P (r.fanOut now e scopes).router.registry :=
  List.foldlRecOn (motive := fun f : Fanout => P f.router.registry) scopes _ hr fun f hf scope _ =>
    List.foldlRecOn (motive := fun f : Fanout => P f.router.registry) (f.router.registry.subscribers scope) _ hf
      fun _ hf s _ => Fanout.visit_induction hpush hf s

/-- The index leads from one of the event's scopes to every session that wants it. -/
theorem indexed_of_wants {r : Router} (hr : r.registry.Consistent) {id : SessionId} {s : Session} {e : Event}
    (hs : r.registry.session? id = some s) (hw : s.wants e = true) :
    ∃ scope ∈ e.scopes, id ∈ r.registry.byScope.ids scope := by
  obtain ⟨-, -, scope, hscope, kinds, hkinds, -⟩ := s.wants_iff.1 hw
  exact ⟨scope, hscope, hr.indexed hs (Std.ExtTreeMap.mem_iff_isSome_getElem?.2 (by rw [hkinds]; rfl))⟩

/-- **A fan-out over all the scopes of an event, in any order, comes to each live session that wants the event.** -/
theorem fanOut_spec (now : Moment) (e : Event) {scopes : List Scope} (hscopes : e.scopes ⊆ scopes) {r : Router}
    (hr : r.registry.Consistent) : Fanout.Progress now e r (r.fanOut now e scopes) ∧
      ∀ id, id ∈ (r.fanOut now e scopes).reached ↔ ∃ s, r.registry.session? id = some s ∧ s.wants e = true := by
  obtain ⟨hprogress, hseen⟩ := Fanout.Progress.visitScopes scopes (Fanout.progress_start now e hr)
  refine ⟨hprogress, fun id => (hprogress.reached_iff id).trans ⟨fun h => h.2, ?_⟩⟩
  rintro ⟨s, hs, hw⟩
  obtain ⟨scope, hscope, hmem⟩ := indexed_of_wants hr hs hw
  exact ⟨(hseen id).2 (.inr ⟨scope, hscopes hscope, hmem, s, hs⟩), s, hs, hw⟩

/-! ## Publishing -/

theorem registry_publish (now : Moment) (e : Event) (r : Router) :
    (r.publish now e).2.registry = (r.fanOut now e e.scopes).router.registry := rfl

theorem consistent_publish (now : Moment) (e : Event) {r : Router} (hr : r.registry.Consistent) :
    (r.publish now e).2.registry.Consistent := (fanOut_spec now e (List.Subset.refl _) hr).1.consistent

/-- **To a live session publishing is one offer.** -/
theorem session?_fanOut (now : Moment) (e : Event) {scopes : List Scope} (hscopes : e.scopes ⊆ scopes) {r : Router}
    (hr : r.registry.Consistent) (id : SessionId) : (r.fanOut now e scopes).router.registry.session? id =
      (r.registry.session? id).map (·.offer now.ticks e) := by
  obtain ⟨hprogress, hreached⟩ := fanOut_spec now e hscopes hr
  rw [hprogress.session?]
  cases hs : r.registry.session? id with
  | none => simp
  | some s =>
    have hiff : id ∈ (r.fanOut now e scopes).reached ↔ s.wants e = true := by
      rw [hreached, hs]; simp
    by_cases hw : s.wants e = true
    · rw [if_pos (hiff.2 hw), Option.map_some, Option.map_some, Session.offer, if_pos hw]
    · rw [if_neg (fun h => hw (hiff.1 h)), Option.map_some, Session.offer, if_neg hw]

/-- **To any session publishing is one offer**, for one that is gone wants nothing. -/
theorem handle?_publish (now : Moment) (e : Event) {r : Router} (hr : r.registry.Consistent) (id : SessionId) :
    (r.publish now e).2.registry.handle? id = (r.registry.handle? id).map (·.offer now.ticks e) := by
  rw [registry_publish]
  have hlive := session?_fanOut now e (List.Subset.refl e.scopes) hr id
  cases hs : r.registry.session? id with
  | some s =>
    rw [hs, Option.map_some] at hlive
    rw [Registry.handle?_of_session? hlive, Registry.handle?_of_session? hs]; rfl
  | none =>
    rw [hs, Option.map_none] at hlive
    rw [Registry.handle?_of_session?_eq_none hlive, Registry.handle?_of_session?_eq_none hs,
      (fanOut_spec now e (List.Subset.refl _) hr).1.retired]
    cases hg : r.registry.retired[id]? with
    | none => rfl
    | some s => rw [Option.map_some, Session.offer_of_released (hr.retired_released hg)]

end Router
end EventGateway
