import EventGateway.Proofs.Run
/-!
# The journal — nothing depends on what has been noted

Two routers keep the `SameBooks` if they differ in their journals only.  Whatever is done to both gets the same answer
and leaves them so, one lemma for each operation; `SameBooks.run` is the sum of it.
-/
namespace EventGateway.Router

/-- **Nothing but the journal differs.** -/
structure SameBooks (r r' : Router) : Prop where
  registry : r.registry = r'.registry
  stats : r.stats = r'.stats

namespace SameBooks

variable {r r' r'' : Router}

theorem refl (r : Router) : r.SameBooks r := ⟨rfl, rfl⟩

theorem symm (h : r.SameBooks r') : r'.SameBooks r := ⟨h.registry.symm, h.stats.symm⟩

theorem trans (h : r.SameBooks r') (h' : r'.SameBooks r'') : r.SameBooks r'' :=
  ⟨h.registry.trans h'.registry, h.stats.trans h'.stats⟩

theorem note (h : r.SameBooks r') (level level' : Level) (message message' : String)
    (details details' : List (String × Detail)) :
    (r.note level message details).SameBooks (r'.note level' message' details') := ⟨h.registry, h.stats⟩

theorem noteOverflow (h : r.SameBooks r') (id : SessionId) (message : String) (outcome : PushOutcome) :
    (r.noteOverflow id message outcome).SameBooks (r'.noteOverflow id message outcome) := by
  unfold Router.noteOverflow
  split
  · exact h.note ..
  · exact h

theorem noteScope (h : r.SameBooks r') (message : String) (id : SessionId) (scope : Scope) (changed : Bool) :
    (r.noteScope message id scope changed).SameBooks (r'.noteScope message id scope changed) := by
  unfold Router.noteScope
  split
  · exact h.note ..
  · exact h

/-! ## Queues -/

theorem enqueue (h : r.SameBooks r') (now : Moment) (id : SessionId) (p : Wire.Payload) :
    (r.enqueue now id p).1 = (r'.enqueue now id p).1 ∧
      (r.enqueue now id p).2.SameBooks (r'.enqueue now id p).2 := by
  unfold Router.enqueue
  rw [h.registry]
  split
  · exact ⟨rfl, rfl, h.stats⟩
  · exact ⟨rfl, h⟩

theorem reply (h : r.SameBooks r') (now : Moment) (id : SessionId) (p : Wire.Payload) :
    (r.reply now id p).2.SameBooks (r'.reply now id p).2 := by
  obtain ⟨houtcome, h⟩ := h.enqueue now id p
  simp only [Router.reply, houtcome]
  exact h.noteOverflow ..

theorem closeWith (h : r.SameBooks r') (id : SessionId) (code : CloseCode) :
    (r.closeWith id code).2.SameBooks (r'.closeWith id code).2 := by
  unfold Router.closeWith
  rw [h.registry]
  split
  · exact ⟨rfl, h.stats⟩
  · exact h

theorem nextOutgoing (h : r.SameBooks r') (id : SessionId) :
    (r.nextOutgoing id).1 = (r'.nextOutgoing id).1 ∧ (r.nextOutgoing id).2.SameBooks (r'.nextOutgoing id).2 := by
  unfold Router.nextOutgoing
  rw [h.registry]
  split
  · exact ⟨rfl, rfl, h.stats⟩
  · exact ⟨rfl, h⟩

/-! ## Publishing -/

theorem visit (now : Moment) (e : Event) {f f' : Fanout} (h : f.router.SameBooks f'.router)
    (hseen : f.seen = f'.seen ∧ f.outcomes = f'.outcomes) (s : Session) :
    (f.visit now e s).router.SameBooks (f'.visit now e s).router ∧
      (f.visit now e s).seen = (f'.visit now e s).seen ∧ (f.visit now e s).outcomes = (f'.visit now e s).outcomes := by
  obtain ⟨houtcome, hrouter⟩ := h.enqueue now s.id e.payload
  unfold Fanout.visit
  rw [hseen.1, hseen.2]
  split
  · exact ⟨h, hseen⟩
  · split
    · generalize f.router.enqueue now s.id e.payload = x at houtcome hrouter ⊢
      generalize f'.router.enqueue now s.id e.payload = x' at houtcome hrouter ⊢
      obtain ⟨outcome, r⟩ := x
      obtain ⟨_, r'⟩ := x'
      cases houtcome
      exact ⟨hrouter.noteOverflow .., rfl, rfl⟩
    · exact ⟨h, rfl, rfl⟩

theorem visits (now : Moment) (e : Event) : ∀ (ss : List Session) {f f' : Fanout}, f.router.SameBooks f'.router →
    f.seen = f'.seen ∧ f.outcomes = f'.outcomes →
      (ss.foldl (Fanout.visit now e) f).router.SameBooks (ss.foldl (Fanout.visit now e) f').router ∧
        (ss.foldl (Fanout.visit now e) f).seen = (ss.foldl (Fanout.visit now e) f').seen ∧
          (ss.foldl (Fanout.visit now e) f).outcomes = (ss.foldl (Fanout.visit now e) f').outcomes
  | [], _, _, h, hseen => ⟨h, hseen⟩
  | s :: ss, _, _, h, hseen => by
    obtain ⟨h, hseen⟩ := visit now e h hseen s
    exact visits now e ss h hseen

theorem visitScopes (now : Moment) (e : Event) : ∀ (scopes : List Scope) {f f' : Fanout},
    f.router.SameBooks f'.router → f.seen = f'.seen ∧ f.outcomes = f'.outcomes →
      (scopes.foldl (Fanout.visitScope now e) f).router.SameBooks
          (scopes.foldl (Fanout.visitScope now e) f').router ∧
        (scopes.foldl (Fanout.visitScope now e) f).outcomes = (scopes.foldl (Fanout.visitScope now e) f').outcomes
  | [], _, _, h, hseen => ⟨h, hseen.2⟩
  | scope :: scopes, f, f', h, hseen => by
    have hvisit := visits now e (f'.router.registry.subscribers scope) h hseen
    have hsubscribers : f.router.registry.subscribers scope = f'.router.registry.subscribers scope := by
      rw [h.registry]
    rw [List.foldl_cons, List.foldl_cons, Fanout.visitScope, Fanout.visitScope, hsubscribers]
    exact visitScopes now e scopes hvisit.1 hvisit.2

theorem publish (h : r.SameBooks r') (now : Moment) (e : Event) :
    (r.publish now e).2.SameBooks (r'.publish now e).2 := by
  have hstart : (Fanout.mk [] [] r).router.SameBooks (Fanout.mk [] [] r').router := h
  obtain ⟨hrouter, houtcomes⟩ := visitScopes now e e.scopes hstart ⟨rfl, rfl⟩
  refine ⟨hrouter.registry, ?_⟩
  show Stats.countPublish (r.fanOut now e e.scopes).router.stats _ =
    Stats.countPublish (r'.fanOut now e e.scopes).router.stats _
  rw [fanOut, fanOut, hrouter.stats, houtcomes]

theorem publishAll (now : Moment) : ∀ (es : List Event) {r r' : Router}, r.SameBooks r' →
    (publishAll now es r).SameBooks (publishAll now es r')
  | [], _, _, h => h
  | e :: es, _, _, h => publishAll now es (h.publish now e)

/-! ## Sessions -/

theorem create (h : r.SameBooks r') (now : Moment) (connection : Connection) (identity : Identity)
    (capabilities : Wire.Capabilities) :
    (∃ e, r.create now connection identity capabilities = .error e ∧
      r'.create now connection identity capabilities = .error e) ∨
    ∃ s r₁ r₁', r.create now connection identity capabilities = .ok (s, r₁) ∧
      r'.create now connection identity capabilities = .ok (s, r₁') ∧ r₁.SameBooks r₁' := by
  unfold Router.create
  rw [h.registry]
  cases r'.registry.create now connection identity capabilities with
  | error e => exact .inl ⟨e, rfl, rfl⟩
  | ok sr => exact .inr ⟨_, _, _, rfl, rfl, rfl, h.stats⟩

theorem destroy (h : r.SameBooks r') (id : SessionId) :
    (r.step (.destroy id)).SameBooks (r'.step (.destroy id)) := by
  simp only [step, Router.destroy]
  rw [h.registry]
  cases r'.registry.destroy id with
  | none => exact h
  | some sr => exact ⟨rfl, h.stats⟩

theorem subscribe (h : r.SameBooks r') (id : SessionId) (scope : Scope) (kinds : EventKinds) :
    (∃ e, r.subscribe id scope kinds = .error e ∧ r'.subscribe id scope kinds = .error e) ∨
    ∃ changed r₁ r₁', r.subscribe id scope kinds = .ok (changed, r₁) ∧
      r'.subscribe id scope kinds = .ok (changed, r₁') ∧ r₁.SameBooks r₁' := by
  unfold Router.subscribe
  rw [h.registry]
  cases r'.registry.subscribe id scope kinds with
  | error e => exact .inl ⟨e, rfl, rfl⟩
  | ok cr =>
    have hbooks : SameBooks { r with registry := cr.2 } { r' with registry := cr.2 } := ⟨rfl, h.stats⟩
    exact .inr ⟨_, _, _, rfl, rfl, hbooks.noteScope ..⟩

theorem unsubscribe (h : r.SameBooks r') (id : SessionId) (scope : Scope) :
    (∃ e, r.unsubscribe id scope = .error e ∧ r'.unsubscribe id scope = .error e) ∨
    ∃ changed r₁ r₁', r.unsubscribe id scope = .ok (changed, r₁) ∧
      r'.unsubscribe id scope = .ok (changed, r₁') ∧ r₁.SameBooks r₁' := by
  unfold Router.unsubscribe
  rw [h.registry]
  cases r'.registry.unsubscribe id scope with
  | error e => exact .inl ⟨e, rfl, rfl⟩
  | ok cr =>
    have hbooks : SameBooks { r with registry := cr.2 } { r' with registry := cr.2 } := ⟨rfl, h.stats⟩
    exact .inr ⟨_, _, _, rfl, rfl, hbooks.noteScope ..⟩

/-! ## Commands -/

theorem perform (h : r.SameBooks r') (handler : CommandHandler) (now : Moment) (s : Session) (action : Action) :
    (r.perform handler now s action).1 = (r'.perform handler now s action).1 ∧
      (r.perform handler now s action).2.SameBooks (r'.perform handler now s action).2 := by
  unfold Router.perform
  rw [h.registry]
  exact ⟨rfl, rfl, h.stats⟩

theorem execute (h : r.SameBooks r') (handler : CommandHandler) (now : Moment) (s : Session) (command : Command) :
    (r.execute handler now s command).1 = (r'.execute handler now s command).1 ∧
      (r.execute handler now s command).2.SameBooks (r'.execute handler now s command).2 := by
  cases command with
  | subscribe scope kinds =>
    rcases hv : handler.authorize s.identity scope with ⟨notes, _ | _⟩
    · simp only [Router.execute, hv]
      exact ⟨trivial, h.registry, h.stats⟩
    · have hnoted : SameBooks { r with journal := notes ++ r.journal } { r' with journal := notes ++ r'.journal } :=
        ⟨h.registry, h.stats⟩
      simp only [Router.execute, hv]
      rcases hnoted.subscribe s.id scope kinds with ⟨e, he, he'⟩ | ⟨changed, r₁, r₁', hr, hr', h⟩
      · rw [he, he']
        exact ⟨rfl, hnoted⟩
      · rw [hr, hr']
        exact ⟨rfl, h.reply ..⟩
  | unsubscribe scope =>
    simp only [Router.execute]
    rcases h.unsubscribe s.id scope with ⟨e, he, he'⟩ | ⟨changed, r₁, r₁', hr, hr', h⟩
    · rw [he, he']
      exact ⟨rfl, h⟩
    · rw [hr, hr']
      exact ⟨rfl, h.reply ..⟩
  | heartbeat lastSeq =>
    simp only [Router.execute]
    exact ⟨trivial, (h.note ..).reply ..⟩
  | act action =>
    obtain ⟨hanswer, h⟩ := h.perform handler now s action
    simp only [Router.execute]
    rcases hx : r.perform handler now s action with ⟨_ | events, r₁⟩ <;>
      rcases hx' : r'.perform handler now s action with ⟨_ | events', r₁'⟩ <;> rw [hx, hx'] at hanswer h <;>
      cases hanswer
    · exact ⟨rfl, h⟩
    · exact ⟨rfl, h.publishAll now events⟩

theorem reportFailure (h : r.SameBooks r') (now : Moment) (id : SessionId) (command : String) (e : CommandError) :
    (r.reportFailure now id command e).SameBooks (r'.reportFailure now id command e) :=
  (h.note ..).reply ..

theorem submit (h : r.SameBooks r') (handler : CommandHandler) (now : Moment) (id : SessionId) (command : Command) :
    (r.submit handler now id command).2.SameBooks (r'.submit handler now id command).2 := by
  unfold Router.submit
  rw [h.registry]
  split
  · exact h
  · rename_i s _
    obtain ⟨hanswer, h⟩ := h.execute handler now s command
    rcases hx : r.execute handler now s command with ⟨e | _, r₁⟩ <;>
      rcases hx' : r'.execute handler now s command with ⟨e' | _, r₁'⟩ <;> rw [hx, hx'] at hanswer h <;>
      cases hanswer
    · have hcounted : SameBooks { r₁ with stats := r₁.stats.countCommand true }
          { r₁' with stats := r₁'.stats.countCommand true } := ⟨h.registry, congrArg (·.countCommand true) h.stats⟩
      exact hcounted.reportFailure ..
    · exact ⟨h.registry, congrArg (·.countCommand false) h.stats⟩

/-! ## Steps -/

theorem step (h : r.SameBooks r') (x : Step) : (r.step x).SameBooks (r'.step x) := by
  cases x with
  | create now connection identity capabilities =>
    simp only [Router.step]
    rcases h.create now connection identity capabilities with ⟨e, he, he'⟩ | ⟨s, r₁, r₁', hr, hr', h⟩
    · rw [he, he']
      exact h
    · rw [hr, hr']
      exact h
  | destroy id => exact h.destroy id
  | subscribe id scope kinds =>
    simp only [Router.step]
    rcases h.subscribe id scope kinds with ⟨e, he, he'⟩ | ⟨changed, r₁, r₁', hr, hr', h⟩
    · rw [he, he']
      exact h
    · rw [hr, hr']
      exact h
  | unsubscribe id scope =>
    simp only [Router.step]
    rcases h.unsubscribe id scope with ⟨e, he, he'⟩ | ⟨changed, r₁, r₁', hr, hr', h⟩
    · rw [he, he']
      exact h
    · rw [hr, hr']
      exact h
  | publish now e => exact h.publish now e
  | enqueue now id p => exact (h.enqueue now id p).2
  | reply now id p => exact h.reply now id p
  | close id code => exact h.closeWith id code
  | drain id => exact (h.nextOutgoing id).2
  | submit handler now id command => exact h.submit handler now id command

theorem run : ∀ (steps : List Step) {r r' : Router}, r.SameBooks r' → (r.run steps).SameBooks (r'.run steps)
  | [], _, _, h => h
  | x :: xs, _, _, h => run xs (h.step x)

end SameBooks
end EventGateway.Router
