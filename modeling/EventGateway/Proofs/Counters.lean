import EventGateway.Proofs.Run
/-!
# Counters — what each operation counts

Publishing counts the event and what became of it in each queue (`stats_publish`), a command counts itself
(`stats_submit`), and nothing else counts anything.  What is reported is counted in 64 bits each time
(`Stats.snapshot_countPublish`, `Stats.snapshot_countCommand`).
-/
namespace EventGateway

namespace Stats

/-! ## In 64 bits -/

/-- **A command is counted as by counters of 64 bits**, which start again at zero. -/
theorem snapshot_countCommand (s : Stats) (failed : Bool) : (s.countCommand failed).snapshot =
    { s.snapshot with
      commands := s.snapshot.commands + 1
      commandFailures := s.snapshot.commandFailures + .ofNat failed.toNat } := by
  simp only [snapshot, countCommand, UInt64.ofNat_add, UInt64.ofNat_one]

/-- And so is an event. -/
theorem snapshot_countPublish (s : Stats) (outcomes : List PushOutcome) : (s.countPublish outcomes).snapshot =
    { s.snapshot with
      published := s.snapshot.published + 1
      delivered := s.snapshot.delivered + .ofNat (outcomes.countP (·.isQueued))
      dropped := s.snapshot.dropped + .ofNat (outcomes.foldl (fun n o => n + o.dropped) 0)
      overflows := s.snapshot.overflows + .ofNat (outcomes.count .overflowed) } := by
  simp only [snapshot, countPublish, UInt64.ofNat_add, UInt64.ofNat_one]

end Stats

namespace Router

theorem stats_noteOverflow (id : SessionId) (message : String) (outcome : PushOutcome) (r : Router) :
    (r.noteOverflow id message outcome).stats = r.stats := by
  unfold noteOverflow; split <;> rfl

theorem stats_noteScope (message : String) (id : SessionId) (scope : Scope) (changed : Bool) (r : Router) :
    (r.noteScope message id scope changed).stats = r.stats := by
  unfold noteScope; split <;> rfl

/-! ## Sessions and their queues -/

theorem stats_create {now : Moment} {connection : Connection} {identity : Identity}
    {capabilities : Wire.Capabilities} {r r' : Router} {s : Session}
    (h : r.create now connection identity capabilities = .ok (s, r')) : r'.stats = r.stats := by
  unfold create at h
  cases hc : r.registry.create now connection identity capabilities with
  | error => rw [hc] at h; cases h
  | ok sr =>
    rw [hc] at h
    cases h
    rfl

theorem stats_destroy {id : SessionId} {r r' : Router} {s : Session} (h : r.destroy id = some (s, r')) :
    r'.stats = r.stats := by
  unfold destroy at h
  obtain ⟨sr, -, h⟩ := Option.bind_eq_some_iff.1 h
  cases h
  rfl

theorem stats_subscribe {i : SessionId} {scope : Scope} {kinds : EventKinds} {r r' : Router} {changed : Bool}
    (h : r.subscribe i scope kinds = .ok (changed, r')) : r'.stats = r.stats := by
  unfold subscribe at h
  cases hc : r.registry.subscribe i scope kinds with
  | error => rw [hc] at h; cases h
  | ok cr =>
    rw [hc] at h
    cases h
    exact stats_noteScope _ _ _ _ _

theorem stats_unsubscribe {i : SessionId} {scope : Scope} {r r' : Router} {changed : Bool}
    (h : r.unsubscribe i scope = .ok (changed, r')) : r'.stats = r.stats := by
  unfold unsubscribe at h
  cases hc : r.registry.unsubscribe i scope with
  | error => rw [hc] at h; cases h
  | ok cr =>
    rw [hc] at h
    cases h
    exact stats_noteScope _ _ _ _ _

theorem stats_enqueue (now : Moment) (id : SessionId) (p : Wire.Payload) (r : Router) :
    (r.enqueue now id p).2.stats = r.stats := by
  unfold enqueue; split <;> rfl

theorem stats_reply (now : Moment) (id : SessionId) (p : Wire.Payload) (r : Router) :
    (r.reply now id p).2.stats = r.stats :=
  (stats_noteOverflow _ _ _ _).trans (stats_enqueue now id p r)

theorem stats_closeWith (id : SessionId) (code : CloseCode) (r : Router) :
    (r.closeWith id code).2.stats = r.stats := by
  unfold closeWith; split <;> rfl

theorem stats_nextOutgoing (id : SessionId) (r : Router) : (r.nextOutgoing id).2.stats = r.stats := by
  unfold nextOutgoing; split <;> rfl

/-! ## Publishing -/

theorem Fanout.stats_visit (now : Moment) (e : Event) (f : Fanout) (s : Session) :
    (f.visit now e s).router.stats = f.router.stats := by
  unfold Fanout.visit
  split
  · rfl
  · split
    · exact (stats_noteOverflow _ _ _ _).trans (stats_enqueue _ _ _ _)
    · rfl

theorem Fanout.stats_visits (now : Moment) (e : Event) : ∀ (ss : List Session) (f : Fanout),
    (ss.foldl (Fanout.visit now e) f).router.stats = f.router.stats
  | [], _ => rfl
  | s :: ss, f => (Fanout.stats_visits now e ss _).trans (f.stats_visit now e s)

theorem Fanout.stats_visitScopes (now : Moment) (e : Event) : ∀ (scopes : List Scope) (f : Fanout),
    (scopes.foldl (Fanout.visitScope now e) f).router.stats = f.router.stats
  | [], _ => rfl
  | scope :: scopes, f => (Fanout.stats_visitScopes now e scopes _).trans
      (Fanout.stats_visits now e (f.router.registry.subscribers scope) f)

/-- **Publishing counts the event by the outcomes of its pushes.** -/
theorem stats_publish (now : Moment) (e : Event) (r : Router) :
    (r.publish now e).2.stats = r.stats.countPublish ((r.fanOut now e e.scopes).outcomes.map Prod.snd) := by
  have hfan : (r.fanOut now e e.scopes).router.stats = r.stats := Fanout.stats_visitScopes now e e.scopes ⟨[], [], r⟩
  rw [← hfan]
  rfl

/-! ## Commands -/

/-- A command that publishes nothing. -/
theorem stats_execute {handler : CommandHandler} {now : Moment} {s : Session} {command : Command}
    (hcommand : ∀ action, command ≠ .act action) (r : Router) :
    (r.execute handler now s command).2.stats = r.stats := by
  cases command with
  | subscribe scope kinds =>
    simp only [execute]
    split
    · rfl
    · split
      · rfl
      · rename_i h
        refine (stats_reply _ _ _ _).trans ((stats_subscribe h).trans ?_)
        rfl
  | unsubscribe scope =>
    simp only [execute]
    split
    · rfl
    · rename_i h
      exact (stats_reply _ _ _ _).trans (stats_unsubscribe h)
  | heartbeat lastSeq => exact stats_reply _ _ _ _
  | act action => exact absurd rfl (hcommand action)

theorem stats_reportFailure (now : Moment) (id : SessionId) (command : String) (e : CommandError) (r : Router) :
    (r.reportFailure now id command e).stats = r.stats := by
  unfold reportFailure
  exact stats_reply _ _ _ _

/-- **A command of a session counts itself**, and as a failure if it fails. -/
theorem stats_submit {handler : CommandHandler} {now : Moment} {i : SessionId} {command : Command} {r : Router}
    {s : Session} (hs : r.registry.handle? i = some s) : (r.submit handler now i command).2.stats =
      (r.execute handler now s command).2.stats.countCommand (!(r.execute handler now s command).1.isOk) := by
  simp only [submit, hs]
  split <;> rename_i h <;> rw [h]
  · rfl
  · exact stats_reportFailure _ _ _ _ _

/-! ## Steps -/

/-- Whether a step counts anything. -/
def Step.isCounted : Step → Bool
  | .publish .. | .submit .. => true
  | _ => false

/-- **Only publications and commands are counted.** -/
theorem stats_step (r : Router) {x : Step} (hx : x.isCounted = false) : (r.step x).stats = r.stats := by
  cases x with
  | create now connection identity capabilities =>
    simp only [step]
    cases h : r.create now connection identity capabilities with
    | error => rfl
    | ok sr => exact stats_create h
  | destroy i =>
    simp only [step]
    cases h : r.destroy i with
    | none => rfl
    | some sr => exact stats_destroy h
  | subscribe i scope kinds =>
    simp only [step]
    cases h : r.subscribe i scope kinds with
    | error => rfl
    | ok cr => exact stats_subscribe h
  | unsubscribe i scope =>
    simp only [step]
    cases h : r.unsubscribe i scope with
    | error => rfl
    | ok cr => exact stats_unsubscribe h
  | enqueue now i p => exact stats_enqueue now i p r
  | reply now i p => exact stats_reply now i p r
  | close i code => exact stats_closeWith i code r
  | drain i => exact stats_nextOutgoing i r
  | publish | submit => cases hx

end Router
end EventGateway
