import EventGateway.Proofs.Alike
import EventGateway.Proofs.Run
/-!
# Isolation — no session notices what another one does

A step of one session leaves the registry alike to what it was (`own_step`), and every other step does the same in two
registries that are alike (`alike_step`).  So the steps of a session may be struck out of a run, and no other session
can tell (`run_without`).
-/
namespace EventGateway.Router

open Registry (Alike Touched)

/-! ## Operations in two routers that are alike -/

section Both

variable {a : SessionId} {r r' : Router}

theorem nextOutgoing_fst (i : SessionId) (r : Router) :
    (r.nextOutgoing i).1 = (r.registry.handle? i).bind (·.nextOutgoing.1) := by
  cases h : r.registry.handle? i with
  | some s => rw [nextOutgoing_fst_of_handle? h]; rfl
  | none =>
    unfold nextOutgoing
    rw [Registry.modify?_of_handle?_eq_none _ h]
    rfl

theorem alike_reply (h : Alike a r.registry r'.registry) (now : Moment) (i : SessionId) (p : Wire.Payload) :
    Alike a (r.reply now i p).2.registry (r'.reply now i p).2.registry := by
  rw [registry_reply, registry_reply]
  exact h.touched (Registry.touched_push h.consistent i now.ticks p) (Registry.touched_push h.consistent' i now.ticks p)

theorem subscribe_eq (i : SessionId) (scope : Scope) (kinds : EventKinds) (r : Router) :
    (∀ e, r.registry.subscribe i scope kinds = .error e → r.subscribe i scope kinds = .error e) ∧
      ∀ changed registry, r.registry.subscribe i scope kinds = .ok (changed, registry) →
        ∃ r₁, r.subscribe i scope kinds = .ok (changed, r₁) ∧ r₁.registry = registry := by
  unfold subscribe
  refine ⟨fun e h => by rw [h]; rfl, fun changed registry h => ?_⟩
  rw [h]
  exact ⟨_, rfl, registry_noteScope _ _ _ _ _⟩

theorem unsubscribe_eq (i : SessionId) (scope : Scope) (r : Router) :
    (∀ e, r.registry.unsubscribe i scope = .error e → r.unsubscribe i scope = .error e) ∧
      ∀ changed registry, r.registry.unsubscribe i scope = .ok (changed, registry) →
        ∃ r₁, r.unsubscribe i scope = .ok (changed, r₁) ∧ r₁.registry = registry := by
  unfold unsubscribe
  refine ⟨fun e h => by rw [h]; rfl, fun changed registry h => ?_⟩
  rw [h]
  exact ⟨_, rfl, registry_noteScope _ _ _ _ _⟩

/-- **Two answers that say the same**, with routers that are alike where there are any. -/
inductive Agree (a : SessionId) {ε α : Type} : Except ε (α × Router) → Except ε (α × Router) → Prop where
  | error (e : ε) : Agree a (.error e) (.error e)
  | ok (x : α) {r r' : Router} (h : Alike a r.registry r'.registry) : Agree a (.ok (x, r)) (.ok (x, r'))

theorem agree_subscribe (h : Alike a r.registry r'.registry) {i : SessionId} (hi : i ≠ a) (scope : Scope)
    (kinds : EventKinds) : Agree a (r.subscribe i scope kinds) (r'.subscribe i scope kinds) := by
  have hsame := h.session? i hi
  cases hs : r.registry.session? i with
  | none =>
    rw [(subscribe_eq i scope kinds r).1 _ (Registry.subscribe_of_session?_eq_none hs scope kinds),
      (subscribe_eq i scope kinds r').1 _ (Registry.subscribe_of_session?_eq_none (hsame.symm.trans hs) scope kinds)]
    exact .error _
  | some s =>
    obtain ⟨_, hok, ht⟩ := Registry.subscribe_of_session? h.consistent hs scope kinds
    obtain ⟨_, hok', ht'⟩ := Registry.subscribe_of_session? h.consistent' (hsame.symm.trans hs) scope kinds
    obtain ⟨r₁, hr₁, rfl⟩ := (subscribe_eq i scope kinds r).2 _ _ hok
    obtain ⟨r₁', hr₁', rfl⟩ := (subscribe_eq i scope kinds r').2 _ _ hok'
    rw [hr₁, hr₁']
    exact .ok _ (h.touched ht ht')

theorem agree_unsubscribe (h : Alike a r.registry r'.registry) {i : SessionId} (hi : i ≠ a) (scope : Scope) :
    Agree a (r.unsubscribe i scope) (r'.unsubscribe i scope) := by
  have hsame := h.session? i hi
  cases hs : r.registry.session? i with
  | none =>
    rw [(unsubscribe_eq i scope r).1 _ (Registry.unsubscribe_of_session?_eq_none hs scope),
      (unsubscribe_eq i scope r').1 _ (Registry.unsubscribe_of_session?_eq_none (hsame.symm.trans hs) scope)]
    exact .error _
  | some s =>
    obtain ⟨_, hok, ht⟩ := Registry.unsubscribe_of_session? h.consistent hs scope
    obtain ⟨_, hok', ht'⟩ := Registry.unsubscribe_of_session? h.consistent' (hsame.symm.trans hs) scope
    obtain ⟨r₁, hr₁, rfl⟩ := (unsubscribe_eq i scope r).2 _ _ hok
    obtain ⟨r₁', hr₁', rfl⟩ := (unsubscribe_eq i scope r').2 _ _ hok'
    rw [hr₁, hr₁']
    exact .ok _ (h.touched ht ht')

/-! ### Publishing -/

/-- **Publishing only pushes**: connections and ids are as they were. -/
theorem publish_keeps (now : Moment) (e : Event) (r : Router) :
    (r.publish now e).2.registry.byConnection = r.registry.byConnection ∧
      (r.publish now e).2.registry.ids = r.registry.ids :=
  fanOut_induction (P := fun registry => registry.byConnection = r.registry.byConnection ∧
    registry.ids = r.registry.ids) (fun _ _ h => ⟨Registry.byConnection_changed.trans h.1, Registry.ids_changed.trans h.2⟩)
    e.scopes ⟨rfl, rfl⟩

theorem alike_publish (h : Alike a r.registry r'.registry) (now : Moment) (e : Event) :
    Alike a (r.publish now e).2.registry (r'.publish now e).2.registry := by
  have hlive := session?_fanOut now e (List.Subset.refl e.scopes) h.consistent
  have hlive' := session?_fanOut now e (List.Subset.refl e.scopes) h.consistent'
  have hhandle := handle?_publish now e h.consistent
  have hhandle' := handle?_publish now e h.consistent'
  obtain ⟨hconnection, hids⟩ := publish_keeps now e r
  obtain ⟨hconnection', hids'⟩ := publish_keeps now e r'
  -- An offer does not change whose connection it is.
  have howner : ∀ found : Option Session,
      (found.map (·.offer now.ticks e)).map (·.connection.id) = found.map (·.connection.id) := by
    intro found
    cases found with
    | none => rfl
    | some s =>
      simp only [Option.map_some, Session.offer]
      split <;> rfl
  refine ⟨consistent_publish now e h.consistent, consistent_publish now e h.consistent', fun i hi => ?_, fun i hi => ?_,
    ?_, fun c hc => ?_, ?_, ?_⟩
  · rw [registry_publish, registry_publish, hlive, hlive', h.session? i hi]
  · rw [hhandle, hhandle', h.handle? i hi]
  · rw [hhandle, hhandle', howner, howner, h.connection]
  · rw [hconnection, hconnection']
    refine h.byConnection c ((Registry.owns_iff ?_ c).1 hc)
    rw [hhandle, howner]
  · rw [hids, hids', h.ids]
  · rw [queue_publish now e h.consistent, queue_publish now e h.consistent', h.queue]

theorem alike_publishAll (now : Moment) : ∀ (es : List Event) {r r' : Router}, Alike a r.registry r'.registry →
    Alike a (publishAll now es r).registry (publishAll now es r').registry
  | [], _, _, h => h
  | e :: es, _, _, h => alike_publishAll now es (alike_publish h now e)

/-! ### Commands -/

/-- The ids that a handler has taken are the same in both, and so are the events that it brings about. -/
theorem alike_perform (h : Alike a r.registry r'.registry) (handler : CommandHandler) (now : Moment) (s : Session)
    (action : Action) : (r.perform handler now s action).1 = (r'.perform handler now s action).1 ∧
      Alike a (r.perform handler now s action).2.registry (r'.perform handler now s action).2.registry := by
  unfold perform
  rw [← h.ids]
  exact ⟨rfl, consistent_withIds h.consistent _, consistent_withIds h.consistent' _, h.session?, h.handle?,
    h.connection, h.byConnection, rfl, h.queue⟩

theorem alike_execute (h : Alike a r.registry r'.registry) (handler : CommandHandler) (now : Moment) {s : Session}
    (hs : s.id ≠ a) (command : Command) :
    (r.execute handler now s command).1 = (r'.execute handler now s command).1 ∧
      Alike a (r.execute handler now s command).2.registry (r'.execute handler now s command).2.registry := by
  cases command with
  | subscribe scope kinds =>
    rcases hv : handler.authorize s.identity scope with ⟨notes, _ | _⟩
    · simp only [execute, hv]
      exact ⟨trivial, h⟩
    · have hagree := @agree_subscribe a { r with journal := notes ++ r.journal }
        { r' with journal := notes ++ r'.journal } h s.id hs scope kinds
      simp only [execute, hv]
      generalize subscribe s.id scope kinds { r with journal := notes ++ r.journal } = x at hagree ⊢
      generalize subscribe s.id scope kinds { r' with journal := notes ++ r'.journal } = x' at hagree ⊢
      cases hagree with
      | error e => exact ⟨rfl, h⟩
      | ok changed h => exact ⟨rfl, alike_reply h now s.id _⟩
  | unsubscribe scope =>
    have hagree := agree_unsubscribe h hs scope
    simp only [execute]
    generalize r.unsubscribe s.id scope = x at hagree ⊢
    generalize r'.unsubscribe s.id scope = x' at hagree ⊢
    cases hagree with
    | error e => exact ⟨rfl, h⟩
    | ok changed h => exact ⟨rfl, alike_reply h now s.id _⟩
  | heartbeat lastSeq =>
    simp only [execute]
    exact ⟨trivial, alike_reply (by exact h) now s.id _⟩
  | act action =>
    obtain ⟨hanswer, h⟩ := alike_perform h handler now s action
    simp only [execute]
    rcases hx : r.perform handler now s action with ⟨_ | events, r₁⟩ <;>
      rcases hx' : r'.perform handler now s action with ⟨_ | events', r₁'⟩ <;> rw [hx, hx'] at hanswer h <;>
      cases hanswer
    · exact ⟨rfl, h⟩
    · exact ⟨rfl, alike_publishAll now events h⟩

theorem alike_reportFailure (h : Alike a r.registry r'.registry) (now : Moment) (i : SessionId) (command : String)
    (e : CommandError) :
    Alike a (r.reportFailure now i command e).registry (r'.reportFailure now i command e).registry := by
  rw [registry_reportFailure, registry_reportFailure]
  exact h.touched (Registry.touched_push h.consistent i now.ticks _)
    (Registry.touched_push h.consistent' i now.ticks _)

theorem alike_submit (h : Alike a r.registry r'.registry) (handler : CommandHandler) (now : Moment) {i : SessionId}
    (hi : i ≠ a) (command : Command) :
    Alike a (r.submit handler now i command).2.registry (r'.submit handler now i command).2.registry := by
  have hhandle := h.handle? i hi
  unfold submit
  rw [← hhandle]
  cases hs : r.registry.handle? i with
  | none => exact h
  | some s =>
    have hid : s.id ≠ a := h.consistent.handle_id hs ▸ hi
    obtain ⟨hanswer, h⟩ := alike_execute h handler now hid command
    dsimp only
    rcases hx : r.execute handler now s command with ⟨e | _, r₁⟩ <;>
      rcases hx' : r'.execute handler now s command with ⟨e' | _, r₁'⟩ <;> rw [hx, hx'] at hanswer h <;>
      cases hanswer
    · exact alike_reportFailure (by exact h) now i command.name e
    · exact h

end Both

/-! ## Steps of one session -/

/-- Whether a step is an operation on this session. -/
def Step.isOf (a : SessionId) : Step → Bool
  | .create .. | .publish .. => false
  | .destroy i | .subscribe i .. | .unsubscribe i _ | .enqueue _ i _ | .reply _ i _ | .close i _ | .drain i |
    .submit _ _ i _ => i == a

/-- **The session publishes nothing, and what is its own is not given away**: no action that it submits brings about an
event or takes an id, and neither its id nor its connection is given to a session that begins. -/
def contained (r : Router) (a : SessionId) : Step → Bool
  | .create now connection identity capabilities => (r.registry.handle? a).all fun s =>
    s.connection.id != connection.id && !r.begins a (.create now connection identity capabilities)
  | .submit handler now i (.act action) => i != a || (r.registry.handle? a).all fun s =>
    (handler.execute now r.registry.ids s.identity action).2 == r.registry.ids &&
      (handler.execute now r.registry.ids s.identity action).1.toOption.all List.isEmpty
  | _ => true

/-- Every step of a run is contained. -/
def containedRun (a : SessionId) : List Step → Router → Bool
  | [], _ => true
  | x :: xs, r => r.contained a x && containedRun a xs (r.step x)

/-- What a step hands to the writer of a session: envelopes, close code, and whether it is the end. -/
def drained (r : Router) (id : SessionId) : Step → List (Option Outgoing)
  | .drain i => if i = id then [(r.nextOutgoing i).1] else []
  | _ => []

/-- Everything that a run hands to the writer of a session. -/
def stream (id : SessionId) : List Step → Router → List (Option Outgoing)
  | [], _ => []
  | x :: xs, r => r.drained id x ++ stream id xs (r.step x)

section Own

variable {a : SessionId} {r : Router} {r' : Registry}

/-- An action that brings about nothing and takes no id leaves the registry as it is. -/
theorem registry_perform_of_contained {handler : CommandHandler} {now : Moment} {s : Session} {action : Action}
    (hs : r.registry.handle? a = some s) (hx : r.contained a (.submit handler now a (.act action)) = true) :
    (r.perform handler now s action).2.registry = r.registry ∧
      ∀ events, (r.perform handler now s action).1 = .ok events → events = [] := by
  simp only [contained, hs, bne_self_eq_false, Bool.false_or, Option.all_some, Bool.and_eq_true, beq_iff_eq] at hx
  unfold perform
  refine ⟨?_, fun events h => ?_⟩
  · show ({ r.registry with ids := _ } : Registry) = _
    rw [hx.1]
  · have hnone := hx.2
    rw [show (handler.execute now r.registry.ids s.identity action).1 = .ok events from h] at hnone
    exact List.isEmpty_iff.1 hnone

theorem own_executed (h : Alike a r.registry r') {handler : CommandHandler} {now : Moment} {s : Session}
    (hs : r.registry.handle? a = some s) {command : Command} {answer : Except CommandError Unit} {registry : Registry}
    (hx : r.contained a (.submit handler now a command) = true)
    (hexecuted : Executed handler now s r command answer registry) : Alike a registry r' := by
  have hid : s.id = a := h.consistent.handle_id hs
  cases hexecuted with
  | refused => exact h
  | failed action e r₁ hperform =>
    obtain ⟨hregistry, -⟩ := registry_perform_of_contained hs hx
    rw [hperform] at hregistry
    rw [show r₁.registry = r.registry from hregistry]
    exact h
  | subscribed scope kinds r₀ r₁ changed h₀ hsubscribe =>
    rw [hid] at hsubscribe ⊢
    have ht := Registry.touched_of_subscribe (h₀ ▸ h.consistent) (subscribe_ok hsubscribe)
    rw [h₀] at ht
    exact (h.touched_own ht).touched_own (Registry.touched_push ht.consistent a now.ticks _)
  | unsubscribed scope r₁ changed hunsubscribe =>
    rw [hid] at hunsubscribe ⊢
    have ht := Registry.touched_of_unsubscribe h.consistent (unsubscribe_ok hunsubscribe)
    exact (h.touched_own ht).touched_own (Registry.touched_push ht.consistent a now.ticks _)
  | heartbeat lastSeq =>
    rw [hid]
    exact h.touched_own (Registry.touched_push h.consistent a now.ticks _)
  | acted action events r₁ hperform =>
    obtain ⟨hregistry, hnone⟩ := registry_perform_of_contained hs hx
    rw [hperform] at hregistry hnone
    rw [hnone events rfl]
    show Alike a r₁.registry r'
    rw [show r₁.registry = r.registry from hregistry]
    exact h

theorem own_submit (h : Alike a r.registry r') {handler : CommandHandler} {now : Moment} {command : Command}
    (hx : r.contained a (.submit handler now a command) = true) :
    Alike a (r.submit handler now a command).2.registry r' := by
  generalize hregistry : (r.submit handler now a command).2.registry = registry
  have hsubmitted : Submitted handler now a r command registry := hregistry ▸ submitted handler now a command r
  cases hsubmitted with
  | unknown => exact h
  | reported s hs e registry hexecuted =>
    have hown := own_executed h hs hx hexecuted
    exact hown.touched_own (Registry.touched_push hown.consistent a now.ticks _)
  | done s hs registry hexecuted => exact own_executed h hs hx hexecuted

/-- **A step of the one session does nothing to the others.** -/
theorem own_step (h : Alike a r.registry r') {x : Step} (hof : x.isOf a = true) (hx : r.contained a x = true) :
    Alike a (r.step x).registry r' := by
  cases x with
  | create | publish => cases hof
  | destroy i =>
    obtain rfl : i = a := by simpa [Step.isOf] using hof
    simp only [step]
    cases hd : r.destroy i with
    | none => exact h
    | some sr => exact h.destroyed_own (destroy_some hd)
  | subscribe i scope kinds =>
    obtain rfl : i = a := by simpa [Step.isOf] using hof
    simp only [step]
    cases hd : r.subscribe i scope kinds with
    | error => exact h
    | ok cr => exact h.touched_own (Registry.touched_of_subscribe h.consistent (subscribe_ok hd))
  | unsubscribe i scope =>
    obtain rfl : i = a := by simpa [Step.isOf] using hof
    simp only [step]
    cases hd : r.unsubscribe i scope with
    | error => exact h
    | ok cr => exact h.touched_own (Registry.touched_of_unsubscribe h.consistent (unsubscribe_ok hd))
  | enqueue now i p =>
    obtain rfl : i = a := by simpa [Step.isOf] using hof
    simp only [step, registry_enqueue]
    exact h.touched_own (Registry.touched_push h.consistent i now.ticks p)
  | reply now i p =>
    obtain rfl : i = a := by simpa [Step.isOf] using hof
    simp only [step, registry_reply]
    exact h.touched_own (Registry.touched_push h.consistent i now.ticks p)
  | close i code =>
    obtain rfl : i = a := by simpa [Step.isOf] using hof
    simp only [step, registry_closeWith]
    exact h.touched_own (Registry.touched_changed h.consistent i (fun s => s.sameStanding_closeWith code))
  | drain i =>
    obtain rfl : i = a := by simpa [Step.isOf] using hof
    simp only [step, registry_nextOutgoing]
    exact h.touched_own (Registry.touched_changed h.consistent i (fun s => s.sameStanding_nextOutgoing))
  | submit handler now i command =>
    obtain rfl : i = a := by simpa [Step.isOf] using hof
    exact own_submit h hx

theorem drained_of_own {x : Step} (hof : x.isOf a = true) {b : SessionId} (hb : b ≠ a) : r.drained b x = [] := by
  cases x with
  | drain i =>
    have hi : i = a := by simpa [Step.isOf] using hof
    exact if_neg fun he => hb (he.symm.trans hi)
  | _ => rfl

end Own

/-! ## Steps of anybody else -/

section Others

variable {a : SessionId} {r r' : Router}

theorem create_eq (now : Moment) (connection : Connection) (identity : Identity) (capabilities : Wire.Capabilities)
    (r : Router) :
    (∀ e, r.registry.create now connection identity capabilities = .error e →
      r.create now connection identity capabilities = .error e) ∧
      ∀ s registry, r.registry.create now connection identity capabilities = .ok (s, registry) →
        ∃ r₁, r.create now connection identity capabilities = .ok (s, r₁) ∧ r₁.registry = registry := by
  unfold create
  refine ⟨fun e h => by rw [h]; rfl, fun s registry h => ?_⟩
  rw [h]
  exact ⟨_, rfl, rfl⟩

/-- Sessions begin alike: they get the same id, and the same connections are free. -/
theorem alike_create (h : Alike a r.registry r'.registry) {now : Moment} {connection : Connection}
    {identity : Identity} {capabilities : Wire.Capabilities}
    (hx : r.contained a (.create now connection identity capabilities) = true) :
    Alike a (r.step (.create now connection identity capabilities)).registry
      (r'.step (.create now connection identity capabilities)).registry := by
  have hown : ∀ s, r.registry.handle? a = some s → s.connection.id ≠ connection.id ∧
      r.begins a (.create now connection identity capabilities) = false := by
    intro s hs
    simpa [contained, hs] using hx
  have hfree := h.byConnection connection.id (fun s hs => (hown s hs).1)
  simp only [step]
  cases hc : r.registry.byConnection[connection.id]? with
  | some j =>
    rw [(create_eq now connection identity capabilities r).1 _ (Registry.create_of_taken hc ..),
      (create_eq now connection identity capabilities r').1 _ (Registry.create_of_taken (hfree.symm.trans hc) ..)]
    exact h
  | none =>
    obtain ⟨_, hok⟩ := Registry.create_of_free hc now identity capabilities
    obtain ⟨_, hok'⟩ := Registry.create_of_free (hfree.symm.trans hc) now identity capabilities
    rw [← h.ids, ← h.queue] at hok'
    obtain ⟨r₁, hr₁, rfl⟩ := (create_eq now connection identity capabilities r).2 _ _ hok
    obtain ⟨r₁', hr₁', rfl⟩ := (create_eq now connection identity capabilities r').2 _ _ hok'
    rw [hr₁, hr₁']
    refine h.created hok hok' fun hid => ?_
    cases hs : r.registry.handle? a with
    | none => rfl
    | some s =>
      have hnew := (hown s hs).2
      simp [begins, hr₁, Except.toOption, hid] at hnew

/-- **A step of anybody else does the same in both.** -/
theorem alike_step (h : Alike a r.registry r'.registry) {x : Step} (hof : x.isOf a = false)
    (hx : r.contained a x = true) : Alike a (r.step x).registry (r'.step x).registry := by
  cases x with
  | create now connection identity capabilities => exact alike_create h hx
  | publish now e => exact alike_publish h now e
  | destroy i =>
    have hi : i ≠ a := by simpa [Step.isOf] using hof
    have hsame := h.session? i hi
    simp only [step]
    cases hd : r.destroy i with
    | none =>
      have hnone : r.registry.session? i = none := by
        cases hs : r.registry.session? i with
        | none => rfl
        | some s =>
          unfold destroy at hd
          rw [Registry.destroy_of_session? hs] at hd
          cases hd
      have hd' : r'.destroy i = none := by
        unfold destroy Registry.destroy
        rw [← hsame, hnone]
        rfl
      rw [hd']
      exact h
    | some sr =>
      have hs := (Registry.destroy_some (destroy_some hd)).1
      have hdestroy := Registry.destroy_of_session? (hsame.symm.trans hs)
      obtain ⟨r₁', hd', hr₁'⟩ : ∃ r₁', r'.destroy i = some (sr.1, r₁') ∧
          r₁'.registry = r'.registry.step (.destroy i) := by
        unfold destroy
        rw [hdestroy]
        exact ⟨_, rfl, rfl⟩
      rw [hd']
      exact h.destroyed (destroy_some hd) (hr₁' ▸ hdestroy)
  | subscribe i scope kinds =>
    have hi : i ≠ a := by simpa [Step.isOf] using hof
    have hagree := agree_subscribe h hi scope kinds
    simp only [step]
    generalize r.subscribe i scope kinds = y at hagree ⊢
    generalize r'.subscribe i scope kinds = y' at hagree ⊢
    cases hagree with
    | error e => exact h
    | ok changed h => exact h
  | unsubscribe i scope =>
    have hi : i ≠ a := by simpa [Step.isOf] using hof
    have hagree := agree_unsubscribe h hi scope
    simp only [step]
    generalize r.unsubscribe i scope = y at hagree ⊢
    generalize r'.unsubscribe i scope = y' at hagree ⊢
    cases hagree with
    | error e => exact h
    | ok changed h => exact h
  | enqueue now i p =>
    simp only [step, registry_enqueue]
    exact h.touched (Registry.touched_push h.consistent i now.ticks p)
      (Registry.touched_push h.consistent' i now.ticks p)
  | reply now i p => exact alike_reply h now i p
  | close i code =>
    simp only [step, registry_closeWith]
    exact h.touched (Registry.touched_changed h.consistent i (fun s => s.sameStanding_closeWith code))
      (Registry.touched_changed h.consistent' i (fun s => s.sameStanding_closeWith code))
  | drain i =>
    simp only [step, registry_nextOutgoing]
    exact h.touched (Registry.touched_changed h.consistent i (fun s => s.sameStanding_nextOutgoing))
      (Registry.touched_changed h.consistent' i (fun s => s.sameStanding_nextOutgoing))
  | submit handler now i command =>
    have hi : i ≠ a := by simpa [Step.isOf] using hof
    exact alike_submit h handler now hi command

theorem drained_of_alike (h : Alike a r.registry r'.registry) {b : SessionId} (hb : b ≠ a) (x : Step) :
    r.drained b x = r'.drained b x := by
  cases x with
  | drain i =>
    simp only [drained]
    by_cases hi : i = b
    · subst hi
      rw [if_pos rfl, if_pos rfl, nextOutgoing_fst, nextOutgoing_fst, h.handle? i hb]
    · rw [if_neg hi, if_neg hi]
  | _ => rfl

end Others

/-! ## Runs -/

/-- **A run with the steps of one session struck out** leaves the registry alike, and hands the same to every other
session's writer. -/
theorem run_without {a : SessionId} : ∀ (xs : List Step) {r r' : Router}, Alike a r.registry r'.registry →
    containedRun a xs r = true →
      Alike a (r.run xs).registry (r'.run (xs.filter (!·.isOf a))).registry ∧
        ∀ b, b ≠ a → stream b xs r = stream b (xs.filter (!·.isOf a)) r'
  | [], _, _, h, _ => ⟨h, fun _ _ => rfl⟩
  | x :: xs, r, r', h, hcontained => by
    obtain ⟨hx, hxs⟩ := Bool.and_eq_true_iff.1 hcontained
    cases hof : x.isOf a with
    | true =>
      obtain ⟨hrun, hstream⟩ := run_without xs (own_step h hof hx) hxs
      rw [List.filter_cons_of_neg (by simp [hof])]
      refine ⟨hrun, fun b hb => ?_⟩
      rw [stream, drained_of_own hof hb, List.nil_append, hstream b hb]
    | false =>
      obtain ⟨hrun, hstream⟩ := run_without xs (alike_step h hof hx) hxs
      rw [List.filter_cons_of_pos (by simp [hof])]
      refine ⟨hrun, fun b hb => ?_⟩
      rw [stream, stream, drained_of_alike h hb, hstream b hb]

/-- **A slow or misbehaving session influences no other.**  Two runs go on from the same point and differ only in what
session `a` does, which publishes nothing.  Then every other session is the same at their ends, its subscriptions, its
queue and its counter included, and its writer was handed the same, close codes included.  Beginnings of runs are runs,
so this is so at each point of the one and the corresponding point of the other. -/
theorem sessions_isolated (ids : Generator) (queue : QueueConfig) (before xs ys : List Step) (a : SessionId)
    (hxs : containedRun a xs ((new ids queue).run before) = true)
    (hys : containedRun a ys ((new ids queue).run before) = true)
    (same : xs.filter (!·.isOf a) = ys.filter (!·.isOf a)) (b : SessionId) (hb : b ≠ a) :
    let r := (new ids queue).run before
    (r.run xs).registry.handle? b = (r.run ys).registry.handle? b ∧
      (r.run xs).registry.session? b = (r.run ys).registry.session? b ∧ stream b xs r = stream b ys r := by
  intro r
  have halike : Alike a r.registry r.registry :=
    Alike.refl a (consistent_run before (Registry.consistent_new ids queue))
  obtain ⟨hrun, hstream⟩ := run_without xs halike hxs
  obtain ⟨hrun', hstream'⟩ := run_without ys halike hys
  rw [same] at hrun hstream
  exact ⟨(hrun.handle? b hb).trans (hrun'.handle? b hb).symm, (hrun.session? b hb).trans (hrun'.session? b hb).symm,
    (hstream b hb).trans (hstream' b hb).symm⟩

/-- Two clients follow the same user.  In one run the first reads what it is sent; in the other it reads nothing, is
closed for backpressure, and leaves.  The second gets its three events either way. -/
theorem sessions_isolated_saturated :
    let client (n : Nat) := Step.create ⟨0, 0⟩ ⟨n, .json, ⟨2, 0⟩⟩ ⟨⟨7⟩, "agent"⟩ .all
    let before := [client 1, client 2, .subscribe ⟨4097⟩ (.user ⟨5⟩) .presence,
      .subscribe ⟨4098⟩ (.user ⟨5⟩) .presence]
    let e := Event.presenceUpdated ⟨5⟩ .online
    let reading := [Step.publish ⟨0, 0⟩ e, .drain ⟨4097⟩, .publish ⟨1, 0⟩ e, .drain ⟨4097⟩, .drain ⟨4098⟩, client 3,
      .publish ⟨2, 0⟩ e, .drain ⟨4098⟩]
    let leaving := [Step.publish ⟨0, 0⟩ e, .publish ⟨1, 0⟩ e, .drain ⟨4098⟩, client 3, .destroy ⟨4097⟩,
      .publish ⟨2, 0⟩ e, .drain ⟨4098⟩, .submit (LocalChannels.handler ⟨[]⟩) ⟨2, 0⟩ ⟨4097⟩ (.act (.startTyping ⟨0⟩))]
    let r := (new ⟨1, 0, 0⟩ ⟨2, 1, .disconnect⟩).run before
    containedRun ⟨4097⟩ reading r = true ∧ containedRun ⟨4097⟩ leaving r = true ∧
      reading.filter (!·.isOf ⟨4097⟩) = leaving.filter (!·.isOf ⟨4097⟩) ∧ (⟨4098⟩ : SessionId) ≠ ⟨4097⟩ ∧
      stream ⟨4098⟩ reading r = stream ⟨4098⟩ leaving r ∧
      (stream ⟨4098⟩ leaving r).map (fun out => out.map (·.envelopes.map (·.seq))) = [some [1, 2], some [3]] := by
  intro client before e reading leaving r
  have hreading : containedRun ⟨4097⟩ reading r = true := by decide +kernel
  have hleaving : containedRun ⟨4097⟩ leaving r = true := by decide +kernel
  have hne : (⟨4098⟩ : SessionId) ≠ ⟨4097⟩ := by decide
  obtain ⟨-, -, hstream⟩ := sessions_isolated ⟨1, 0, 0⟩ ⟨2, 1, .disconnect⟩ before reading leaving ⟨4097⟩ hreading
    hleaving rfl ⟨4098⟩ hne
  exact ⟨hreading, hleaving, rfl, hne, hstream, by decide +kernel⟩

end EventGateway.Router
