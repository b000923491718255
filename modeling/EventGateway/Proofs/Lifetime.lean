import EventGateway.Proofs.Connections
/-!
# Lifetimes — a session for each connection that is let in, and for as long

A session comes with the verdict on the Identify of its connection, and goes when the connection ends.  `Change` lists
what a step can do to the record of the sessions: nothing, bring one, or end one; `Tenancy` is what every change keeps:
each connection has one session at most, which is live as long as its link serves it.
-/
namespace EventGateway

/-! ## Turns, and the session of their connection -/

namespace Phase

/-- What the machine of the first steps has been fed by the time that a link gets there. -/
def fed : Phase → List Bootstrap.Call
  | .authenticating _ who .. => [.feed (.frame (.identify who))]
  | _ => []

end Phase

namespace Gateway

/-- **What a turn means for the session of its connection**: it stays, if there is one, or it comes, or it goes. -/
inductive Tenure (svc : Service) (g : Gateway) (id : ConnectionId) (l : Link) :
    Step → List Router.Step → Link → Prop where
  | stays (x : Step) (calls : List Router.Step) (l' : Link) (hsession : l'.phase.session? = l.phase.session?)
    (hlate : l.phase.isEarly = false → l'.phase.isEarly = false) (hcreate : ∀ y ∈ calls, ∀ c, y.isFor c = false)
    (hends : ∀ i, calls.any (·.ends i) = false) (hidle : l.phase.session? = none → calls = []) :
    Tenure svc g id l x calls l'
  | begins (connection : Connection) (who : Wire.Identify) (deadline verdictAt : Nat) (identity : Identity)
    (s : Session) (r : Router) (l' : Link) (hphase : l.phase = .authenticating connection who deadline verdictAt)
    (hcreate : g.router.create g.now connection identity (.negotiate svc.capabilities who.capabilities) = .ok (s, r))
    (hserves : l'.phase.session? = some s.id) :
    Tenure svc g id l (.judged id (.ok identity))
      [.create g.now connection identity (.negotiate svc.capabilities who.capabilities), .reply g.now s.id s.ready] l'
  | ends (x : Step) (calls : List Router.Step) (l' : Link) (session : SessionId)
    (hphase : l.phase.session? = some session) (hended : l'.phase = .ended)
    (hcreate : ∀ y ∈ calls, ∀ c, y.isFor c = false) (hends : ∀ i, calls.any (·.ends i) = (session == i)) :
    Tenure svc g id l x calls l'

section Turns

variable {svc : Service} {g : Gateway} {id : ConnectionId} {l l' : Link} {x : Step} {cause? : Option Cause}
  {calls : List Router.Step}

theorem Turn.tenure (h : Turn svc g id l x cause? calls l') : Tenure svc g id l x calls l' := by
  have hquiet : ∀ {l₁ : Link}, l₁.phase.session? = l.phase.session? →
      (l.phase.isEarly = false → l₁.phase.isEarly = false) → Tenure svc g id l x [] l₁ := fun hsession hlate =>
    .stays x [] _ hsession hlate (by simp) (fun _ => rfl) (fun _ => rfl)
  cases h with
  | idle | arrived | cut | skipped => exact hquiet rfl (fun h => h)
  | asked _ _ _ _ _ _ hphase => exact hquiet (by rw [hphase]; rfl) (fun h => by rw [hphase] at h; cases h)
  | refused x cause code? bootstrap inbox hphase =>
    have hended := (Link.dismissed_cases code? { l with bootstrap, inbox }).1
    exact hquiet (by rw [hended, Phase.session?_of_isEarly hphase]; rfl) (fun _ => by rw [hended]; rfl)
  | created connection who deadline verdictAt idleAt identity s r hphase hcreate =>
    exact .begins connection who deadline verdictAt identity s r _ hphase hcreate rfl
  | heard _ _ _ _ _ _ _ hphase => exact hquiet (by rw [hphase]; rfl) (fun _ => rfl)
  | served c session _ _ _ p _ hphase =>
    refine .stays _ _ _ (by rw [hphase]; rfl) (fun _ => rfl) (fun y hy i => ?_) (fun i => ?_)
      (fun hnone => by rw [hphase] at hnone; cases hnone)
    · rw [List.mem_singleton.1 hy]
      exact (Router.isOf_serving _ _ _ session p).2 i
    · unfold Router.serving
      split <;> rfl
  | stopped x _ code session idleAt heardAt bootstrap inbox hphase =>
    have hsession : l.phase.session? = some session := by rw [hphase]; rfl
    unfold Service.stopping Link.stopped
    split
    · refine .ends x _ _ session hsession rfl (fun y hy c => ?_) (fun i => by simp [Router.Step.ends])
      simp only [List.mem_cons, List.not_mem_nil, or_false] at hy
      rcases hy with rfl | rfl <;> rfl
    · refine .stays x _ _ hsession.symm (fun _ => rfl) (fun y hy c => ?_) (fun i => rfl)
        (fun hnone => by rw [hsession] at hnone; cases hnone)
      rw [List.mem_singleton.1 hy]
      rfl
  | left x _ session calls _ _ _ hphase hcalls hdestroy =>
    refine .ends x _ _ session hphase rfl (fun y hy c => ?_) (fun i => ?_)
    · rcases hcalls y hy with rfl | rfl <;> rfl
    · rw [Bool.eq_iff_iff, List.any_eq_true]
      constructor
      · rintro ⟨y, hy, hi⟩
        rcases hcalls y hy with rfl | rfl
        · cases hi
        · exact hi
      · exact fun hi => ⟨_, hdestroy, hi⟩
  | wrote session _ _ hphase =>
    refine .stays _ _ _ rfl (fun h => h) (fun y hy c => ?_) (fun i => rfl)
      (fun hnone => by rw [hphase] at hnone; cases hnone)
    rw [List.mem_singleton.1 hy]
    rfl
  | signedOff session _ _ _ hphase =>
    refine .ends _ _ _ session hphase rfl (fun y hy c => ?_) (fun i => by simp [Router.Step.ends])
    simp only [List.mem_cons, List.not_mem_nil, or_false] at hy
    rcases hy with rfl | rfl <;> rfl

/-- **A link that is still in its first steps** has stayed where it was, or an Identify has been read. -/
theorem Turn.first (h : Turn svc g id l x cause? calls l') (hearly : l'.phase.isEarly = true) :
    l'.phase = l.phase ∨ l'.phase.connection? = l.phase.connection? ∧
      l.machineCalls svc.settings.maxFrameBytes.toNat x = l'.phase.fed ∧ l.phase.fed = [] := by
  have hended : ∀ {l₁ : Link}, l₁.phase = .ended → l₁.phase.isEarly ≠ true := fun h => by rw [h]; simp [Phase.isEarly]
  cases h with
  | idle | arrived | cut | skipped | wrote => exact .inl rfl
  | asked _ _ _ _ who _ hphase hasked => exact .inr ⟨by rw [hphase]; rfl, hasked, by rw [hphase]; rfl⟩
  | refused => exact absurd hearly (hended (Link.dismissed_cases _ _).1)
  | stopped _ _ _ session =>
    unfold Link.stopped at hearly
    split at hearly <;> cases hearly
  | _ => cases hearly

/-- **An Identify that is accepted brings a session.** -/
theorem Turn.begins_of_accepted {connection : Connection} {who : Wire.Identify} {deadline verdictAt : Nat}
    {identity : Identity} (h : Turn svc g id l (.judged id (.ok identity)) none calls l')
    (hphase : l.phase = .authenticating connection who deadline verdictAt)
    (hb : l'.bootstrap ≠ l.bootstrap) : ∃ s r, g.router.create g.now connection identity
      (.negotiate svc.capabilities who.capabilities) = .ok (s, r) ∧
        calls = [.create g.now connection identity (.negotiate svc.capabilities who.capabilities),
          .reply g.now s.id s.ready] := by
  cases h with
  | idle => exact absurd rfl hb
  | created _ _ _ _ _ _ s r hphase' hcreate =>
    rw [hphase] at hphase'
    cases hphase'
    exact ⟨s, r, hcreate, rfl⟩
  | left _ _ _ _ _ _ _ hsession => rw [hphase] at hsession; cases hsession

end Turns

/-! ## Steps, and the record of the sessions -/

/-- What is on record of a session. -/
def record? (g : Gateway) (session : SessionId) : Option (Session.Terms × Bool) := g.router.registry.record? session

/-- **What a step does to the record**: nothing, or it brings a session for an Identify that is accepted, or it ends the
session of a connection that ends. -/
inductive Change (svc : Service) (g g' : Gateway) : Step → Prop where
  | stays (x : Step) (hrecord : ∀ i, g'.record? i = g.record? i)
    (hlink : ∀ {c l}, g.link? c = some l → ∃ l', g'.link? c = some l' ∧ l'.phase.session? = l.phase.session? ∧
      (l.phase.isEarly = false → l'.phase.isEarly = false))
    (hnew : ∀ {c l'}, g'.link? c = some l' → l'.phase.session? ≠ none → ∃ l, g.link? c = some l)
    (hidle : ∀ {c l}, x.at? = some c → g.link? c = some l → l.phase.session? = none →
      g'.router.registry = g.router.registry) : Change svc g g' x
  | begins (id : ConnectionId) (l l' : Link) (connection : Connection) (who : Wire.Identify) (deadline verdictAt : Nat)
    (identity : Identity) (session : SessionId) (hl : g.link? id = some l)
    (hphase : l.phase = .authenticating connection who deadline verdictAt) (hconnection : connection.id = id)
    (hfresh : g.record? session = none) (hrecord : ∀ i, g'.record? i = if i = session then
      some (⟨identity, connection, .negotiate svc.capabilities who.capabilities⟩, false) else g.record? i)
    (hlink : ∀ c, g'.link? c = if c = id then some l' else g.link? c) (hserves : l'.phase.session? = some session) :
    Change svc g g' (.judged id (.ok identity))
  | ends (x : Step) (id : ConnectionId) (l l' : Link) (session : SessionId) (hx : x.at? = some id)
    (hl : g.link? id = some l) (hphase : l.phase.session? = some session) (hended : l'.phase = .ended)
    (hrecord : ∀ i, g'.record? i = if i = session then (g.record? i).map (fun e => (e.1, true)) else g.record? i)
    (hlink : ∀ c, g'.link? c = if c = id then some l' else g.link? c) : Change svc g g' x

section Change

variable {svc : Service} {g g' : Gateway} {x : Step}

/-- A new session is on record as soon as it has been told that it is ready. -/
theorem record?_created (hg : g.Sound svc) {connection : Connection} {identity : Identity}
    {capabilities : Wire.Capabilities} {s : Session} {r : Router} {p : Wire.Payload}
    (h : g.router.create g.now connection identity capabilities = .ok (s, r)) (i : SessionId) :
    (g.router.run [.create g.now connection identity capabilities, .reply g.now s.id p]).registry.record? i =
      if i = s.id then some (⟨identity, connection, capabilities⟩, false) else g.record? i := by
  obtain ⟨hstep, -⟩ := create_spec hg h
  have hr : r.registry.Consistent := hstep ▸ (hg.router.step (by trivial)).consistent
  rw [Router.run, List.foldl_cons, hstep]
  exact (Router.record?_step (x := .reply g.now s.id p) hr (fun _ => rfl) i).trans (Router.record?_create h i)

/-- What a turn does to the record. -/
theorem Turn.change {id : ConnectionId} {l l' : Link} {cause? : Option Cause} {calls : List Router.Step}
    (hturn : Turn svc g id l x cause? calls l') (hg : g.Sound svc) (hl : g.link? id = some l) (hx : x.at? = some id)
    (hsame : g'.SameBooks (g.turned id calls l')) (hfits : g'.router.registry.ids.Fits) : Change svc g g' x := by
  have hlink := link?_turned hsame hl
  have hregistry : g'.router.registry = (g.router.run calls).registry := hsame.router.registry
  have hrecord : ∀ i, g'.record? i = (g.router.run calls).registry.record? i := fun i => by rw [record?, hregistry]
  have hconsistent := hg.router.consistent
  cases hturn.tenure with
  | stays _ _ _ hsession hlate hcreate hends hidle =>
    refine .stays x (fun i => ?_) (fun {c l₀} hl₀ => ?_) (fun {c l₁} hl₁ _ => ?_) (fun {c l₀} hc hl₀ hnone => ?_)
    · rw [hrecord, Router.record?_run calls hconsistent hcreate, hends]
      rfl
    · rw [hlink]
      by_cases hc : c = id
      · subst hc
        rw [hl] at hl₀
        obtain rfl := Option.some.inj hl₀
        exact ⟨l', if_pos rfl, hsession, hlate⟩
      · exact ⟨l₀, (if_neg hc).trans hl₀, rfl, fun h => h⟩
    · rw [hlink] at hl₁
      split at hl₁
      · rename_i hc
        exact ⟨l, hc ▸ hl⟩
      · exact ⟨l₁, hl₁⟩
    · obtain rfl := Option.some.inj (hx.symm.trans hc)
      rw [hl] at hl₀
      rw [hregistry, hidle (Option.some.inj hl₀ ▸ hnone)]
      rfl
  | begins connection who deadline verdictAt identity s r _ hphase hcreate hserves =>
    have hfresh := create_fresh hg hcreate (hregistry ▸ hfits)
    refine .begins id l l' connection who deadline verdictAt identity s.id hl hphase
      ((hg.stands hl).authenticating hphase).1 ?_ (fun i => (hrecord i).trans (record?_created hg hcreate i)) hlink
      hserves
    rw [record?, Registry.record?, hfresh]
    rfl
  | ends _ _ _ session hphase hended hcreate hends =>
    refine .ends x id l l' session hx hl hphase hended (fun i => ?_) hlink
    rw [hrecord, Router.record?_run calls hconsistent hcreate, hends]
    by_cases hi : i = session
    · subst hi
      simp [record?]
    · simp [record?, hi, Ne.symm hi]

/-- **What a step does to the record is one of these.** -/
theorem Sound.change (hg : g.Sound svc) (x : Step) (hfits : (g.step svc x).router.registry.ids.Fits) :
    Change svc g (g.step svc x) x := by
  have hsame : ∀ {g' : Gateway}, (∀ i, g'.record? i = g.record? i) → (∀ c, g'.link? c = g.link? c) →
      (∀ {c l}, x.at? = some c → g.link? c = some l → False) → Change svc g g' x := fun hrecord hlink hnowhere =>
    .stays x hrecord (fun {_ l} hl => ⟨l, (hlink _).trans hl, rfl, fun h => h⟩)
      (fun {_ l'} hl' _ => ⟨l', (hlink _).symm.trans hl'⟩) (fun hc hl _ => (hnowhere hc hl).elim)
  cases hx : x.at? with
  | some id =>
    cases hl : g.link? id with
    | none =>
      rw [step_eq_self hx hl]
      refine hsame (fun _ => rfl) (fun _ => rfl) fun hc hlink => ?_
      rw [← Option.some.inj (hx.symm.trans hc), hl] at hlink
      cases hlink
    | some l =>
      obtain ⟨calls, l', hturn, -, hbooks⟩ := hg.turns hl hx
      exact hturn.change hg hl hx hbooks hfits
  | none =>
    cases x with
    | opened | unreached =>
      refine .stays _ (fun i => ?_) (fun {c l} hl => ?_) (fun {c l'} hl' hsession => ?_) (fun hc => by cases hc)
      · rw [record?, (step_same_of_added? rfl).router.registry]
        rfl
      · exact ⟨l, hg.link?_elsewhere (by simp [Step.at?]) hl, rfl, fun h => h⟩
      · rcases (hg.numbered_step _).2 _ _ hl' with hlink | ⟨-, hadded⟩
        · exact hlink
        · exact absurd (added_early hadded).2 hsession
    | publish e =>
      exact hsame (fun i => Router.record?_step (x := .publish g.now e) hg.router.consistent (fun _ => rfl) i)
        (fun _ => rfl) (fun hc => by cases hc)
    | pass now => exact hsame (fun _ => rfl) (fun _ => rfl) (fun hc => by cases hc)
    | _ => cases hx

/-- **What is on record stays on record**, on the same terms. -/
theorem Change.record?_of_record? (h : Change svc g g' x) {i : SessionId} {t : Session.Terms} {gone : Bool}
    (hi : g.record? i = some (t, gone)) : ∃ gone', g'.record? i = some (t, gone') := by
  cases h with
  | stays _ hrecord => exact ⟨gone, (hrecord i).trans hi⟩
  | begins _ _ _ _ _ _ _ _ session _ _ _ hfresh hrecord =>
    refine ⟨gone, (hrecord i).trans ((if_neg fun he => ?_).trans hi)⟩
    rw [he, hfresh] at hi
    cases hi
  | ends _ _ _ _ session _ _ _ _ hrecord =>
    rw [hrecord, hi]
    split
    · exact ⟨true, rfl⟩
    · exact ⟨gone, rfl⟩

end Change

/-! ## Who has whom -/

/-- **Sessions and connections belong to each other**: a connection has one session at most, which is live exactly as
long as its link serves it. -/
structure Tenancy (g : Gateway) : Prop where
  known : ∀ {i t gone}, g.record? i = some (t, gone) → ∃ l, g.link? t.connection.id = some l ∧ l.phase.isEarly = false
  single : ∀ {i j t t' gone gone'}, g.record? i = some (t, gone) → g.record? j = some (t', gone') →
    t.connection.id = t'.connection.id → i = j
  serving : ∀ {i t}, g.record? i = some (t, false) →
    ∃ l, g.link? t.connection.id = some l ∧ l.phase.session? = some i
  served : ∀ {c l i}, g.link? c = some l → l.phase.session? = some i →
    ∃ t, g.record? i = some (t, false) ∧ t.connection.id = c

section Tenancy

variable {svc : Service} {g g' : Gateway} {x : Step} {id : ConnectionId} {l l' : Link}

/-- A session that comes to a connection that was in its first steps. -/
theorem Tenancy.begins (hg : g.Tenancy) (hl : g.link? id = some l) (hearly : l.phase.isEarly = true)
    {session : SessionId} {t : Session.Terms} (ht : t.connection.id = id) (hfresh : g.record? session = none)
    (hrecord : ∀ i, g'.record? i = if i = session then some (t, false) else g.record? i)
    (hlink : ∀ c, g'.link? c = if c = id then some l' else g.link? c) (hserves : l'.phase.session? = some session) :
    g'.Tenancy := by
  -- The connection has had no session, and so nobody else is of it.
  have hothers : ∀ {i t gone}, g.record? i = some (t, gone) → t.connection.id ≠ id := fun hi he => by
    obtain ⟨l₀, hl₀, hlate⟩ := hg.known hi
    rw [he, hl] at hl₀
    rw [← Option.some.inj hl₀, hearly] at hlate
    cases hlate
  have hcases : ∀ {i t' gone}, g'.record? i = some (t', gone) → (i = session ∧ t' = t) ∨
      g.record? i = some (t', gone) := fun {i _ _} hi => by
    rw [hrecord] at hi
    split at hi
    · rename_i he
      cases hi
      exact .inl ⟨he, rfl⟩
    · exact .inr hi
  have hself : g'.link? id = some l' := (hlink id).trans (if_pos rfl)
  refine ⟨fun hi => ?_, fun hi hj hsame => ?_, fun hi => ?_, fun {c l₁ i} hl₁ hsession => ?_⟩
  · rcases hcases hi with ⟨-, rfl⟩ | hi
    · exact ⟨l', ht ▸ hself, Phase.isEarly_eq_false_of_session? hserves⟩
    · obtain ⟨l₀, hl₀, hlate⟩ := hg.known hi
      exact ⟨l₀, (hlink _).trans ((if_neg (hothers hi)).trans hl₀), hlate⟩
  · rcases hcases hi with ⟨rfl, rfl⟩ | hi <;> rcases hcases hj with ⟨rfl, rfl⟩ | hj
    · rfl
    · exact absurd (hsame.symm.trans ht) (hothers hj)
    · exact absurd (hsame.trans ht) (hothers hi)
    · exact hg.single hi hj hsame
  · rcases hcases hi with ⟨rfl, rfl⟩ | hi
    · exact ⟨l', ht ▸ hself, hserves⟩
    · obtain ⟨l₀, hl₀, hsession⟩ := hg.serving hi
      exact ⟨l₀, (hlink _).trans ((if_neg (hothers hi)).trans hl₀), hsession⟩
  · rw [hlink] at hl₁
    split at hl₁
    · rename_i hc
      rw [← Option.some.inj hl₁, hserves] at hsession
      exact ⟨t, (hrecord i).trans (if_pos (Option.some.inj hsession).symm), ht.trans hc.symm⟩
    · obtain ⟨t₀, ht₀, hc⟩ := hg.served hl₁ hsession
      refine ⟨t₀, (hrecord i).trans ((if_neg fun he => ?_).trans ht₀), hc⟩
      rw [he, hfresh] at ht₀
      cases ht₀

/-- A session that goes with its connection. -/
theorem Tenancy.ends (hg : g.Tenancy) (hl : g.link? id = some l) {session : SessionId}
    (hphase : l.phase.session? = some session) (hended : l'.phase = .ended)
    (hrecord : ∀ i, g'.record? i = if i = session then (g.record? i).map (fun e => (e.1, true)) else g.record? i)
    (hlink : ∀ c, g'.link? c = if c = id then some l' else g.link? c) : g'.Tenancy := by
  obtain ⟨t₁, ht₁, hid⟩ := hg.served hl hphase
  have hbefore : ∀ {i t gone}, g'.record? i = some (t, gone) → ∃ gone₀, g.record? i = some (t, gone₀) ∧
      (gone = false → gone₀ = false ∧ i ≠ session) := fun {i t gone} hi => by
    rw [hrecord] at hi
    split at hi
    · obtain ⟨e, he, heq⟩ := Option.map_eq_some_iff.1 hi
      cases heq
      exact ⟨e.2, he, fun h => by cases h⟩
    · rename_i hne
      exact ⟨gone, hi, fun h => ⟨h, hne⟩⟩
  refine ⟨fun hi => ?_, fun hi hj hsame => ?_, fun {i t} hi => ?_, fun {c l₁ i} hl₁ hsession => ?_⟩
  · obtain ⟨_, hi, -⟩ := hbefore hi
    obtain ⟨l₀, hl₀, hlate⟩ := hg.known hi
    rw [hlink]
    split
    · exact ⟨l', rfl, by rw [hended]; rfl⟩
    · exact ⟨l₀, hl₀, hlate⟩
  · obtain ⟨_, hi, -⟩ := hbefore hi
    obtain ⟨_, hj, -⟩ := hbefore hj
    exact hg.single hi hj hsame
  · obtain ⟨_, hi, hlive⟩ := hbefore hi
    obtain ⟨rfl, hne⟩ := hlive rfl
    obtain ⟨l₀, hl₀, hsession⟩ := hg.serving hi
    refine ⟨l₀, (hlink _).trans ((if_neg fun hc => hne ?_).trans hl₀), hsession⟩
    rw [hc, hl] at hl₀
    rw [← Option.some.inj hl₀, hphase] at hsession
    exact (Option.some.inj hsession).symm
  · rw [hlink] at hl₁
    split at hl₁
    · rw [← Option.some.inj hl₁, hended] at hsession
      cases hsession
    · rename_i hc
      obtain ⟨t₀, ht₀, hid₀⟩ := hg.served hl₁ hsession
      refine ⟨t₀, (hrecord i).trans ((if_neg fun he => hc ?_).trans ht₀), hid₀⟩
      rw [he, ht₁] at ht₀
      cases ht₀
      exact hid₀.symm.trans hid

/-- **Every change keeps sessions and connections together.** -/
theorem Change.tenancy (h : Change svc g g' x) (hg : g.Tenancy) : g'.Tenancy := by
  cases h with
  | stays _ hrecord hlink hnew =>
    refine ⟨fun hi => ?_, fun hi hj => ?_, fun hi => ?_, fun hl' hsession => ?_⟩
    · obtain ⟨l, hl, hlate⟩ := hg.known ((hrecord _).symm.trans hi)
      obtain ⟨l', hl', -, hlate'⟩ := hlink hl
      exact ⟨l', hl', hlate' hlate⟩
    · exact hg.single ((hrecord _).symm.trans hi) ((hrecord _).symm.trans hj)
    · obtain ⟨l, hl, hsession⟩ := hg.serving ((hrecord _).symm.trans hi)
      obtain ⟨l', hl', hsame, -⟩ := hlink hl
      exact ⟨l', hl', hsame.trans hsession⟩
    · obtain ⟨l, hl⟩ := hnew hl' (by rw [hsession]; simp)
      obtain ⟨l₁, hl₁, hsame, -⟩ := hlink hl
      rw [hl'] at hl₁
      rw [Option.some.inj hl₁, hsame] at hsession
      obtain ⟨t, ht, hid⟩ := hg.served hl hsession
      exact ⟨t, (hrecord _).trans ht, hid⟩
  | begins id l l' connection who deadline verdictAt identity session hl hphase hconnection hfresh hrecord hlink
      hserves =>
    exact hg.begins hl (by rw [hphase]; rfl) hconnection hfresh hrecord hlink hserves
  | ends _ id l l' session _ hl hphase hended hrecord hlink => exact hg.ends hl hphase hended hrecord hlink

end Tenancy

/-! ## Runs -/

/-- **What every run of a gateway keeps, as long as the ids fit**: its indexes are exact, too, and sessions and
connections belong to each other. -/
structure Settled (svc : Service) (g : Gateway) : Prop extends Sound svc g where
  exact : g.router.registry.Exact
  tenancy : g.Tenancy

theorem settled_new (svc : Service) (ids : Generator) (now : Moment) : (new svc ids now).Settled svc := by
  have hnone : ∀ i, (new svc ids now).record? i = none := fun i => by
    simp [record?, Registry.record?, new, note, Router.note, Router.new, Registry.new, Registry.handle?]
  refine ⟨sound_new svc ids now, Registry.exact_new ids svc.settings.queue, fun hi => ?_, fun hi => ?_, fun hi => ?_,
    fun hl => ?_⟩
  · rw [hnone] at hi; cases hi
  · rw [hnone] at hi; cases hi
  · rw [hnone] at hi; cases hi
  · simp [new, note, link?] at hl

section Settled

variable {svc : Service} {g : Gateway}

theorem Settled.step (hg : g.Settled svc) (x : Step) (hfits : (g.step svc x).router.registry.ids.Fits) :
    (g.step svc x).Settled svc := by
  refine ⟨hg.toSound.step x hfits, ?_, (hg.change x hfits).tenancy hg.tenancy⟩
  obtain ⟨calls, hdraws, hregistry, -⟩ := hg.calls x
  rw [hregistry] at hfits ⊢
  exact hg.router.exact_run hg.exact hdraws hfits

theorem Settled.run (hg : g.Settled svc) (xs : List Step) (hfits : (g.run svc xs).router.registry.ids.Fits) :
    (g.run svc xs).Settled svc := by
  induction xs generalizing g with
  | nil => exact hg
  | cons x xs ih => exact ih (hg.step x (hg.fits_step hfits)) hfits

theorem Sound.record?_run (hg : g.Sound svc) (xs : List Step) (hfits : (g.run svc xs).router.registry.ids.Fits)
    {i : SessionId} {t : Session.Terms} {gone : Bool} (hi : g.record? i = some (t, gone)) :
    ∃ gone', (g.run svc xs).record? i = some (t, gone') := by
  induction xs generalizing g gone with
  | nil => exact ⟨gone, hi⟩
  | cons x xs ih =>
    have hfits' := hg.fits_step hfits
    obtain ⟨gone', hi'⟩ := (hg.change x hfits').record?_of_record? hi
    exact ih (hg.step x hfits') hfits hi'

/-- **Who comes to be on record has been let in.** -/
theorem Sound.admitted_run (hg : g.Sound svc) (xs : List Step) (hfits : (g.run svc xs).router.registry.ids.Fits)
    {i : SessionId} {t : Session.Terms} {gone : Bool} (hi : (g.run svc xs).record? i = some (t, gone))
    (hnone : g.record? i = none) : ∃ ys identity zs l who deadline verdictAt,
      xs = ys ++ .judged t.connection.id (.ok identity) :: zs ∧
        (g.run svc ys).link? t.connection.id = some l ∧ l.phase = .authenticating t.connection who deadline verdictAt ∧
          t = ⟨identity, t.connection, .negotiate svc.capabilities who.capabilities⟩ := by
  induction xs generalizing g with
  | nil =>
    rw [show g.run svc [] = g from rfl, hnone] at hi
    cases hi
  | cons x xs ih =>
    have hfits' := hg.fits_step hfits
    have hg' := hg.step x hfits'
    cases hnext : (g.step svc x).record? i with
    | none =>
      obtain ⟨ys, identity, zs, l, who, deadline, verdictAt, rfl, hrest⟩ := ih hg' hfits hi hnext
      exact ⟨x :: ys, identity, zs, l, who, deadline, verdictAt, rfl, hrest⟩
    | some e =>
      -- It is this step that brings the session.
      obtain ⟨t₁, gone₁⟩ := e
      obtain ⟨gone', hlater⟩ := hg'.record?_run xs hfits hnext
      obtain rfl : t₁ = t := by
        rw [show g.run svc (x :: xs) = (g.step svc x).run svc xs from rfl, hlater] at hi
        exact (Prod.mk.inj (Option.some.inj hi)).1
      cases hg.change x hfits' with
      | stays _ hrecord => rw [hrecord, hnone] at hnext; cases hnext
      | ends _ _ _ _ _ _ _ _ _ hrecord =>
        rw [hrecord, hnone] at hnext
        split at hnext <;> cases hnext
      | begins id l l' connection who deadline verdictAt identity session hl hphase hconnection _ hrecord =>
        rw [hrecord, hnone] at hnext
        split at hnext <;> cases hnext
        exact ⟨[], identity, xs, l, who, deadline, verdictAt, by rw [hconnection]; rfl, by rw [hconnection]; exact hl,
          hphase, rfl⟩

/-- **Who is let in comes to be on record.** -/
theorem Sound.record?_accepted (hg : g.Sound svc) {id : ConnectionId} {l : Link} (hl : g.link? id = some l)
    {connection : Connection} {who : Wire.Identify} {deadline verdictAt : Nat}
    (hphase : l.phase = .authenticating connection who deadline verdictAt) (identity : Identity) :
    ∃ i, (g.step svc (.judged id (.ok identity))).record? i =
      some (⟨identity, connection, .negotiate svc.capabilities who.capabilities⟩, false) := by
  obtain ⟨calls, l', hturn, hbootstrap, hsame⟩ := hg.turns hl (x := .judged id (.ok identity)) rfl
  have hb := ((hg.stands hl).authenticating hphase).2
  have hmoved : l'.bootstrap ≠ l.bootstrap := by
    rw [hbootstrap, Link.machineCalls, hphase, hb]
    simp [Phase.isAuthenticating, Bootstrap.run, Bootstrap.call, Bootstrap.advance, Bootstrap.transition]
  obtain ⟨s, r, hcreate, rfl⟩ := hturn.begins_of_accepted hphase hmoved
  refine ⟨s.id, ?_⟩
  rw [record?, hsame.router.registry]
  exact (record?_created hg hcreate s.id).trans (if_pos rfl)

/-! ### The first steps -/

/-- **While a link is in its first steps**, it is for the same connection, and its phase tells what has been read. -/
theorem Orderly.first_step (hg : g.Orderly svc) (x : Step) {id : ConnectionId} {l : Link} (hl : g.link? id = some l)
    {connection? : Option Connection} {done : List Bootstrap.Call} (hbegun : Bootstrap.Begun done l.bootstrap)
    (hfirst : l.phase.isEarly = true → l.phase.connection? = connection? ∧ done = l.phase.fed) :
    let calls := if x.at? = some id then l.machineCalls svc.settings.maxFrameBytes.toNat x else []
    ∃ l', (g.step svc x).link? id = some l' ∧ Bootstrap.Begun (done ++ calls) l'.bootstrap ∧
      (l'.phase.isEarly = true → l'.phase.connection? = connection? ∧ done ++ calls = l'.phase.fed) := by
  intro calls
  by_cases hx : x.at? = some id
  · obtain ⟨calls', l', hturn, hbootstrap, hsame⟩ := hg.turns hl hx
    have hcalls : calls = l.machineCalls svc.settings.maxFrameBytes.toNat x := if_pos hx
    have hbegun' : Bootstrap.Begun (done ++ calls) l'.bootstrap := by
      rw [hbootstrap, hcalls]
      exact hbegun.run _
    refine ⟨l', by rw [link?_turned hsame hl, if_pos rfl], hbegun', fun hearly => ?_⟩
    rcases hturn.first hearly with hphase | ⟨hconnection, hfed, hnothing⟩
    · rw [hphase] at hearly ⊢
      obtain ⟨hconnection, hdone⟩ := hfirst hearly
      refine ⟨hconnection, ?_⟩
      -- The machine stands where it stood, so nothing was done with it.
      have hstands := hturn.stands (hg.stands hl)
      cases hl' : l.phase with
      | identifying c deadline =>
        rw [(hstands.identifying (hphase.trans hl')).2] at hbegun'
        rw [hbegun'.eq_nil]
        rfl
      | authenticating c who deadline verdictAt =>
        rw [(hstands.authenticating (hphase.trans hl')).2] at hbegun'
        have hlength := hbegun'.length_eq_one
        rw [hdone, hl'] at hlength ⊢
        obtain hnil : calls = [] := List.eq_nil_of_length_eq_zero (by simpa [Phase.fed] using hlength)
        rw [hnil, List.append_nil]
      | _ => rw [hl'] at hearly; cases hearly
    · obtain ⟨hconnection', hdone⟩ := hfirst (by
        refine Bool.of_not_eq_false fun hlate => ?_
        rw [hturn.isEarly_eq_false hlate] at hearly
        cases hearly)
      exact ⟨hconnection.trans hconnection', by rw [hdone, hnothing, hcalls, hfed]; rfl⟩
  · refine ⟨l, hg.link?_elsewhere hx hl, ?_⟩
    rw [show calls = [] from if_neg hx, List.append_nil]
    exact ⟨hbegun, hfirst⟩

theorem Orderly.first_run (hg : g.Orderly svc) (xs : List Step) {id : ConnectionId} {l : Link}
    (hl : g.link? id = some l) {connection? : Option Connection} {done : List Bootstrap.Call}
    (hbegun : Bootstrap.Begun done l.bootstrap)
    (hfirst : l.phase.isEarly = true → l.phase.connection? = connection? ∧ done = l.phase.fed) :
    ∃ l', (g.run svc xs).link? id = some l' ∧ (l'.phase.isEarly = true →
      l'.phase.connection? = connection? ∧ done ++ history svc id xs g = l'.phase.fed) := by
  induction xs generalizing g l done with
  | nil => exact ⟨l, hl, by rw [history, List.append_nil]; exact hfirst⟩
  | cons x xs ih =>
    obtain ⟨l₁, hl₁, hbegun₁, hfirst₁⟩ := hg.first_step x hl hbegun hfirst
    obtain ⟨l', hl', hlast⟩ := ih (hg.step x).1 hl₁ hbegun₁ hfirst₁
    refine ⟨l', hl', ?_⟩
    rw [history, hl, ← List.append_assoc]
    exact hlast

end Settled

/-! ## Whole connections -/

/-- The verdict on an Identify is still to come, and no other frame has been read on the connection. -/
structure Asking (svc : Service) (g : Gateway) (id : ConnectionId) (xs : List Step) (connection : Connection)
    (who : Wire.Identify) : Prop where
  phase : ∃ l deadline verdictAt, (g.run svc xs).link? id = some l ∧
    l.phase = .authenticating connection who deadline verdictAt
  single : history svc id xs g = [.feed (.frame (.identify who))]

end Gateway

/-- A session that a connection has, or has had. -/
def Registry.Had (r : Registry) (c : ConnectionId) (i : SessionId) (s : Session) : Prop :=
  r.handle? i = some s ∧ s.connection.id = c

namespace Gateway

/-- **What a connection and its session are to each other**, some steps after the connection was opened. -/
structure Lifetime (svc : Service) (request : Opening) (g : Gateway) (id : ConnectionId) (xs : List Step) : Prop where
  known : ∃ l, (g.run svc xs).link? id = some l
  /-- It is let in once at most. -/
  accepted : ∀ {ys zs ys' zs' identity identity' connection connection' who who'},
    xs = ys ++ .judged id (.ok identity) :: zs → Asking svc g id ys connection who →
      xs = ys' ++ .judged id (.ok identity') :: zs' → Asking svc g id ys' connection' who' → ys = ys'
  /-- There is one session at most, now or ever. -/
  once : ∀ {i j s s'}, (g.run svc xs).router.registry.Had id i s → (g.run svc xs).router.registry.Had id j s' → i = j
  /-- There is one exactly if the only Identify was accepted, and it is for whom and for what was agreed upon. -/
  admitted : ∀ t : Session.Terms, (∃ i s, (g.run svc xs).router.registry.Had id i s ∧ s.terms = t) ↔
    ∃ ys identity zs encoding version who, xs = ys ++ .judged id (.ok identity) :: zs ∧
      request.negotiate svc.versions = .ok (encoding, version) ∧ Asking svc g id ys ⟨id, encoding, version⟩ who ∧
        t = ⟨identity, ⟨id, encoding, version⟩,
          ⟨svc.capabilities.bits &&& (who.capabilities &&& Wire.Capabilities.all.bits)⟩⟩
  /-- None of this ever changes. -/
  kept : ∀ {ys zs i s}, xs = ys ++ zs → (g.run svc ys).router.registry.Had id i s →
    ∃ s', (g.run svc xs).router.registry.handle? i = some s' ∧ s'.terms = s.terms
  /-- It is live until the connection ends. -/
  live : ∀ {l i s}, (g.run svc xs).link? id = some l → (g.run svc xs).router.registry.Had id i s →
    ((g.run svc xs).router.registry.session? i = some s ↔ l.phase ≠ .ended)
  /-- Once the connection has ended, nothing leads to it, or to the session that it has had. -/
  forgotten : ∀ {l}, (g.run svc xs).link? id = some l → l.phase = .ended →
    (g.run svc xs).router.registry.byConnection[id]? = none ∧
      ∀ {i s}, (g.run svc xs).router.registry.Had id i s → s.id = i ∧ (g.run svc xs).router.registry.Forgets s
  /-- What happens on a connection that has had no session leaves the registry as it is. -/
  spared : (∀ i s, ¬ (g.run svc xs).router.registry.Had id i s) → ∀ {ys x zs}, xs = ys ++ x :: zs → x.at? = some id →
    (g.run svc (ys ++ [x])).router.registry = (g.run svc ys).router.registry

section Lifetime

variable {svc : Service} {g : Gateway} {id : ConnectionId}

theorem record?_of_had {i : SessionId} {s : Session} (h : g.router.registry.Had id i s) :
    g.record? i = some (s.terms, s.released) := by
  rw [record?, Registry.record?, h.1]
  rfl

theorem had_of_record? {i : SessionId} {t : Session.Terms} {gone : Bool} (h : g.record? i = some (t, gone))
    (hid : t.connection.id = id) : ∃ s, g.router.registry.Had id i s ∧ s.terms = t ∧ s.released = gone := by
  obtain ⟨s, hs, rfl, hgone⟩ := Registry.record?_eq_some_iff.1 h
  exact ⟨s, ⟨hs, hid⟩, rfl, hgone⟩

/-- A session is live until its connection ends. -/
theorem Settled.session?_iff (hg : g.Settled svc) {l : Link} (hl : g.link? id = some l) {i : SessionId} {s : Session}
    (hs : g.router.registry.Had id i s) : g.router.registry.session? i = some s ↔ l.phase ≠ .ended := by
  have hrecord := record?_of_had hs
  have hid : s.terms.connection.id = id := hs.2
  rw [hg.router.consistent.session?_eq_some_iff]
  refine ⟨fun ⟨_, hlive⟩ hended => ?_, fun hne => ⟨hs.1, ?_⟩⟩
  · rw [hlive] at hrecord
    obtain ⟨l₀, hl₀, hsession⟩ := hg.tenancy.serving hrecord
    rw [hid, hl] at hl₀
    rw [← Option.some.inj hl₀, hended] at hsession
    cases hsession
  · -- The link is past its first steps, so if it has not ended it serves a session, and there is no other.
    obtain ⟨l₀, hl₀, hlate⟩ := hg.tenancy.known hrecord
    rw [hid, hl] at hl₀
    obtain rfl := Option.some.inj hl₀
    obtain ⟨j, hj⟩ : ∃ j, l.phase.session? = some j := by
      cases hphase : l.phase with
      | live session => exact ⟨session, rfl⟩
      | closing session => exact ⟨session, rfl⟩
      | ended => exact absurd hphase hne
      | _ => rw [hphase] at hlate; cases hlate
    obtain ⟨t, ht, htid⟩ := hg.tenancy.served hl hj
    obtain rfl := hg.tenancy.single hrecord ht (hid.trans htid.symm)
    rw [hrecord] at ht
    exact (Prod.mk.inj (Option.some.inj ht)).2

/-- **A connection that has ended is forgotten**, and so is its session. -/
theorem Settled.forgets (hg : g.Settled svc) {l : Link} (hl : g.link? id = some l) (hended : l.phase = .ended) :
    g.router.registry.byConnection[id]? = none ∧
      ∀ {i s}, g.router.registry.Had id i s → s.id = i ∧ g.router.registry.Forgets s := by
  have hconnection : g.router.registry.byConnection[id]? = none := by
    refine Option.eq_none_iff_forall_ne_some.2 fun i hi => ?_
    obtain ⟨s, hs, hid⟩ := (hg.exact.byConnection id i).1 hi
    exact (hg.session?_iff hl ⟨Registry.handle?_of_session? hs, hid⟩).1 hs hended
  refine ⟨hconnection, fun {i s} hs => ?_⟩
  have hi : s.id = i := hg.router.consistent.handle_id hs.1
  refine ⟨hi, hg.exact.forgets ?_ (by rw [hs.2]; exact hconnection)⟩
  rw [hi]
  refine Option.eq_none_iff_forall_ne_some.2 fun s' hs' => ?_
  have hsame := hs.1.symm.trans (Registry.handle?_of_session? hs')
  rw [← Option.some.inj hsame] at hs'
  exact (hg.session?_iff hl hs).1 hs' hended

/-- A link that has just been opened, and what has been agreed upon if the request was not refused. -/
theorem begun_opened (svc : Service) (id : ConnectionId) (request : Opening) (now : Moment) :
    Bootstrap.Begun [] (Link.opened svc id request now).bootstrap ∧ (Link.opened svc id request now).phase.fed = [] ∧
      ∀ connection, (Link.opened svc id request now).phase.connection? = some connection → ∃ encoding version,
        request.negotiate svc.versions = .ok (encoding, version) ∧ connection = ⟨id, encoding, version⟩ := by
  unfold Link.opened
  cases request.negotiate svc.versions with
  | error fault => exact ⟨.later _ _ (.inr rfl), rfl, fun _ h => by cases h⟩
  | ok granted => exact ⟨.waiting, rfl, fun _ h => ⟨granted.1, granted.2, rfl, (Option.some.inj h).symm⟩⟩

section Opened

variable {request : Opening} {now : Moment} {xs : List Step}

/-- **Where the verdict is still to come**, the client has sent an Identify and no other frame, on the connection that
was agreed upon. -/
theorem Orderly.asking (hg : g.Orderly svc) (hl : g.link? id = some (Link.opened svc id request now)) {l : Link}
    (hl' : (g.run svc xs).link? id = some l) {connection : Connection} {who : Wire.Identify} {deadline verdictAt : Nat}
    (hphase : l.phase = .authenticating connection who deadline verdictAt) : ∃ encoding version,
      request.negotiate svc.versions = .ok (encoding, version) ∧ connection = ⟨id, encoding, version⟩ ∧
        Asking svc g id xs connection who := by
  obtain ⟨hbegun, hfed, hagreed⟩ := begun_opened svc id request now
  obtain ⟨l₁, hl₁, hfirst⟩ := hg.first_run xs hl hbegun fun _ => ⟨rfl, hfed.symm⟩
  rw [hl'] at hl₁
  obtain rfl := Option.some.inj hl₁
  obtain ⟨hconnection, hhistory⟩ := hfirst (by rw [hphase]; rfl)
  rw [hphase] at hconnection hhistory
  obtain ⟨encoding, version, hnegotiate, hconnection⟩ := hagreed connection hconnection.symm
  exact ⟨encoding, version, hnegotiate, hconnection, ⟨l, deadline, verdictAt, hl', hphase⟩, hhistory⟩

theorem Settled.split (hg : g.Settled svc) {ys zs : List Step}
    (hfits : (g.run svc (ys ++ zs)).router.registry.ids.Fits) : (g.run svc ys).router.registry.ids.Fits ∧
      (g.run svc ys).Settled svc ∧ ((g.run svc ys).run svc zs).router.registry.ids.Fits := by
  rw [run_append] at hfits
  have hys := Generator.Fits.mono hfits ((hg.toOrderly.run ys).time_le zs)
  exact ⟨hys, hg.run ys hys, hfits⟩

/-- Who has been on record for a connection still is. -/
theorem Settled.had_later (hg : g.Settled svc) {ys zs : List Step}
    (hfits : (g.run svc (ys ++ zs)).router.registry.ids.Fits) {i : SessionId} {t : Session.Terms} {gone : Bool}
    (hi : (g.run svc ys).record? i = some (t, gone)) (hid : t.connection.id = id) :
    ∃ s, (g.run svc (ys ++ zs)).router.registry.Had id i s ∧ s.terms = t := by
  obtain ⟨-, hys, hfits'⟩ := hg.split hfits
  obtain ⟨gone', hi'⟩ := hys.record?_run zs hfits' hi
  rw [← run_append] at hi'
  obtain ⟨s, hs, hterms, -⟩ := had_of_record? hi' hid
  exact ⟨s, hs, hterms⟩

/-- The session of an Identify that was accepted. -/
theorem Settled.had_of_accepted (hg : g.Settled svc) {ys zs : List Step} {identity : Identity}
    (hfits : (g.run svc (ys ++ .judged id (.ok identity) :: zs)).router.registry.ids.Fits) {connection : Connection}
    {who : Wire.Identify} (hasking : Asking svc g id ys connection who) :
    ∃ i s, (g.run svc (ys ++ .judged id (.ok identity) :: zs)).router.registry.Had id i s ∧
      s.terms = ⟨identity, connection, .negotiate svc.capabilities who.capabilities⟩ := by
  obtain ⟨l, deadline, verdictAt, hl, hphase⟩ := hasking.phase
  obtain ⟨-, hys, -⟩ := hg.split hfits
  obtain ⟨i, hi⟩ := hys.record?_accepted hl hphase identity
  have hi' : (g.run svc (ys ++ [.judged id (.ok identity)])).record? i =
      some (⟨identity, connection, .negotiate svc.capabilities who.capabilities⟩, false) := by
    rw [run_append]
    exact hi
  rw [List.append_cons] at hfits ⊢
  obtain ⟨s, hs, hterms⟩ := hg.had_later hfits hi' ((hys.stands hl).authenticating hphase).1
  exact ⟨i, s, hs, hterms⟩

/-- **Whoever was let in is not asked about again.** -/
theorem Settled.not_asking_again (hg : g.Settled svc) {ys more : List Step} {identity : Identity}
    (hfits : (g.run svc (ys ++ .judged id (.ok identity) :: more)).router.registry.ids.Fits)
    {connection connection' : Connection} {who who' : Wire.Identify} (hasking : Asking svc g id ys connection who) :
    ¬ Asking svc g id (ys ++ .judged id (.ok identity) :: more) connection' who' := by
  rintro ⟨⟨l, deadline, verdictAt, hl, hphase⟩, -⟩
  obtain ⟨i, s, hs, -⟩ := hg.had_of_accepted hfits hasking
  obtain ⟨l', hl', hlate⟩ := (hg.run _ hfits).tenancy.known (record?_of_had hs)
  rw [show s.terms.connection.id = id from hs.2, hl] at hl'
  rw [← Option.some.inj hl', hphase] at hlate
  cases hlate

theorem Settled.asking_unique (hg : g.Settled svc) {ys ys' zs zs' : List Step} {identity identity' : Identity}
    (hxs : xs = ys ++ .judged id (.ok identity) :: zs) (hxs' : xs = ys' ++ .judged id (.ok identity') :: zs')
    (hfits : (g.run svc xs).router.registry.ids.Fits) {connection connection' : Connection} {who who' : Wire.Identify}
    (hasking : Asking svc g id ys connection who) (hasking' : Asking svc g id ys' connection' who') : ys = ys' := by
  have hfirst : ∀ {ys ys' zs zs' identity identity' connection connection' who who'},
      xs = ys ++ .judged id (.ok identity) :: zs → Asking svc g id ys connection who →
        Asking svc g id ys' connection' who' → ∀ more, ys' = ys ++ more →
          .judged id (.ok identity) :: zs = more ++ .judged id (.ok identity') :: zs' → ys = ys' := by
    intro ys ys' zs zs' identity identity' connection connection' who who' hxs hasking hasking' more hys hmore
    cases more with
    | nil => rw [hys, List.append_nil]
    | cons x more =>
      obtain ⟨rfl, -⟩ := List.cons.inj hmore
      rw [hys] at hasking'
      have hwhole : xs = (ys ++ .judged id (.ok identity) :: more) ++ .judged id (.ok identity') :: zs' := by
        rw [hxs, hmore, List.append_assoc]
      rw [hwhole] at hfits
      exact absurd hasking' (hg.not_asking_again (hg.split hfits).1 hasking)
  rcases List.append_eq_append_iff.1 (hxs.symm.trans hxs') with ⟨more, hys, hmore⟩ | ⟨more, hys, hmore⟩
  · exact hfirst hxs hasking hasking' more hys hmore
  · exact (hfirst hxs' hasking' hasking more hys hmore).symm

/-- **What happens on a connection without a session leaves the registry as it is.** -/
theorem Settled.spared (hg : g.Settled svc) (hl : ∃ l, g.link? id = some l) {ys zs : List Step} {x : Step}
    (hfits : (g.run svc (ys ++ x :: zs)).router.registry.ids.Fits) (hx : x.at? = some id)
    (hnone : ∀ i s, ¬ (g.run svc (ys ++ x :: zs)).router.registry.Had id i s) :
    (g.run svc (ys ++ [x])).router.registry = (g.run svc ys).router.registry := by
  obtain ⟨-, hys, hfits'⟩ := hg.split hfits
  have hfirst : ∀ {l}, (g.run svc ys).link? id = some l → l.phase.session? = none := fun {l} hl' => by
    refine Option.eq_none_iff_forall_ne_some.2 fun i hsession => ?_
    obtain ⟨t, ht, hid⟩ := hys.tenancy.served hl' hsession
    obtain ⟨s, hs, -⟩ := hg.had_later hfits ht hid
    exact hnone i s hs
  obtain ⟨l₀, hl₀⟩ := hl
  obtain ⟨l, hl', -⟩ := hg.toOrderly.bootstrap_run ys hl₀
  rw [run_append]
  cases hys.change x (hys.fits_step hfits') with
  | stays _ _ _ _ hidle => exact hidle hx hl' (hfirst hl')
  | begins i l₁ l₂ connection who deadline verdictAt identity session hl₁ hphase hconnection _ hrecord =>
    obtain rfl : i = id := Option.some.inj hx
    have hsession : (g.run svc (ys ++ [.judged i (.ok identity)])).record? session =
        some (⟨identity, connection, .negotiate svc.capabilities who.capabilities⟩, false) := by
      rw [run_append]
      exact (hrecord session).trans (if_pos rfl)
    rw [List.append_cons] at hfits hnone
    obtain ⟨s, hs, -⟩ := hg.had_later hfits hsession hconnection
    exact absurd hs (hnone _ _)
  | ends _ i l₁ l₂ session hx' hl₁ hphase =>
    obtain rfl : i = id := Option.some.inj (hx'.symm.trans hx)
    rw [hfirst hl₁] at hphase
    cases hphase

theorem Settled.lifetime (hg : g.Settled svc) (hl : g.link? id = some (Link.opened svc id request now))
    (hnew : ∀ {i t gone}, g.record? i = some (t, gone) → t.connection.id ≠ id) (xs : List Step)
    (hfits : (g.run svc xs).router.registry.ids.Fits) : Lifetime svc request g id xs := by
  have hend := hg.run xs hfits
  obtain ⟨last, hlast, -⟩ := hg.toOrderly.bootstrap_run xs hl
  refine ⟨⟨last, hlast⟩, fun hxs hasking hxs' hasking' => hg.asking_unique hxs hxs' hfits hasking hasking',
    fun hi hj => hend.tenancy.single (record?_of_had hi) (record?_of_had hj) (hi.2.trans hj.2.symm),
    fun t => ⟨?_, ?_⟩, fun {ys zs i s} hxs hs => ?_, fun hl' hs => hend.session?_iff hl' hs,
    fun hl' hended => hend.forgets hl' hended, fun hnone {ys x zs} hxs hx => ?_⟩
  · rintro ⟨i, s, hs, rfl⟩
    have hfresh : g.record? i = none := by
      refine Option.eq_none_iff_forall_ne_some.2 fun ⟨t, gone⟩ hi => ?_
      obtain ⟨gone', hi'⟩ := hg.record?_run xs hfits hi
      rw [record?_of_had hs] at hi'
      obtain ⟨rfl, -⟩ := Prod.mk.inj (Option.some.inj hi')
      exact hnew hi hs.2
    obtain ⟨ys, identity, zs, l, who, deadline, verdictAt, hxs, hl', hphase, hterms⟩ :=
      hg.admitted_run xs hfits (record?_of_had hs) hfresh
    rw [show s.terms.connection.id = id from hs.2] at hxs hl'
    obtain ⟨encoding, version, hnegotiate, hconnection, hasking⟩ := hg.asking hl hl' hphase
    rw [hconnection] at hasking hterms
    exact ⟨ys, identity, zs, encoding, version, who, hxs, hnegotiate, hasking, hterms⟩
  · rintro ⟨ys, identity, zs, encoding, version, who, rfl, -, hasking, rfl⟩
    exact hg.had_of_accepted hfits hasking
  · subst hxs
    obtain ⟨s', hs', hterms⟩ := hg.had_later hfits (record?_of_had hs) hs.2
    exact ⟨s', hs'.1, hterms⟩
  · subst hxs
    exact hg.spared ⟨_, hl⟩ hfits hx hnone

/-- A connection that is opened adds nothing to the registry, and is nobody else's. -/
theorem Settled.lifetime_opened (hg : g.Settled svc) (request : Opening) (peer : Peer) (xs : List Step)
    (hfits : ((g.step svc (.opened request peer)).run svc xs).router.registry.ids.Fits) :
    (g.step svc (.opened request peer)).router.registry = g.router.registry ∧
      Lifetime svc request (g.step svc (.opened request peer)) g.newId xs := by
  have hregistry : (g.step svc (.opened request peer)).router.registry = g.router.registry :=
    (step_same_of_added? rfl).router.registry
  have hopened := hg.step (.opened request peer) (Generator.Fits.mono hfits ((hg.toOrderly.step _).1.time_le xs))
  have hlink : (g.step svc (.opened request peer)).link? g.newId = some (Link.opened svc g.newId request g.now) :=
    (hg.link?_added rfl g.newId).trans (if_pos rfl)
  refine ⟨hregistry, hopened.lifetime hlink (fun {i t gone} hi hid => ?_) xs hfits⟩
  rw [record?, hregistry] at hi
  obtain ⟨l, hl, -⟩ := hg.tenancy.known hi
  exact hg.newId_not_mem ((lookup_isSome_iff _ _).1 ⟨l, hid ▸ hl⟩)

end Opened

end Lifetime

/-- **A connection has a session exactly as long as it is let in and has not ended.**  Whatever happens before the
connection is opened, on it and on others, at each point after that: it has one session at most, and has one exactly if
the authenticator accepted the only Identify; the session is for that identity, with the encoding and the version that
were agreed upon and with what the server offers of what was asked for, which never changes; once the connection has
ended, nothing in the registry leads to it or to the session; and a connection without a session adds nothing. -/
theorem session_lives_with_connection (svc : Service) (ids : Generator) (now : Moment) (before after : List Step)
    (request : Opening) (peer : Peer)
    (fits : ((new svc ids now).run svc (before ++ .opened request peer :: after)).router.registry.ids.Fits) :
    let start := (new svc ids now).run svc before
    let g := start.step svc (.opened request peer)
    g.router.registry = start.router.registry ∧ Lifetime svc request g start.newId after := by
  rw [run_append] at fits
  have hbefore := Generator.Fits.mono fits (((sound_new svc ids now).toOrderly.run before).time_le _)
  have hsettled := (settled_new svc ids now).run before hbefore
  rw [run_cons] at fits
  generalize (new svc ids now).run svc before = start at hsettled fits ⊢
  exact hsettled.lifetime_opened request peer after fits

/-- A client asks for more than there is, is let in with what the server offers of it, and leaves: its session was there
in between, and nothing leads to it any more. -/
theorem session_lives_with_connection_left :
    let svc : Service := ⟨Settings.standard, ⟨[⟨2, 0⟩], by decide⟩, ⟨5⟩, .table [], 0, LocalChannels.handler ⟨[]⟩⟩
    let reading := Step.read 1 (LocalChannels.collaborator ⟨[]⟩)
    let sends (p : Wire.Payload) := Step.arrive 1 (.frame ((Wire.Envelope.unsequenced p).encode .protobuf))
    let served := [sends (.identify ⟨"t", 14, ""⟩), reading, .judged 1 (.ok ⟨⟨7⟩, ""⟩)]
    let after := served ++ [sends (.subscribe "user:5" 0), reading, .arrive 1 .close, reading]
    let g := ((new svc ⟨1, 0, 0⟩ ⟨0, 0⟩).run svc [.pass ⟨1, 1⟩]).step svc (.opened ⟨none, none⟩ ⟨"", none⟩)
    (g.run svc after).router.registry.ids.Fits ∧ (g.run svc served).router.registry.byConnection[1]? = some ⟨4097⟩ ∧
      ∃ s, (g.run svc after).router.registry.Had 1 ⟨4097⟩ s ∧ s.capabilities = ⟨4⟩ ∧
        (g.run svc after).router.registry.Forgets s := by
  intro svc reading sends served after g
  have hfits : ((new svc ⟨1, 0, 0⟩ ⟨0, 0⟩).run svc
      ([.pass ⟨1, 1⟩] ++ .opened ⟨none, none⟩ ⟨"", none⟩ :: after)).router.registry.ids.Fits := by
    unfold Generator.Fits
    decide +kernel
  have hended : ((g.run svc after).link? 1).map (fun l => decide (l.phase = .ended)) = some true := by decide +kernel
  have hknown : ((g.run svc after).router.registry.handle? ⟨4097⟩).map (fun s => (s.connection.id, s.capabilities)) =
      some (1, ⟨4⟩) := by decide +kernel
  obtain ⟨l, hl, hphase⟩ := Option.map_eq_some_iff.1 hended
  obtain ⟨s, hs, hsame⟩ := Option.map_eq_some_iff.1 hknown
  obtain ⟨hid, hcapabilities⟩ := Prod.mk.inj hsame
  have hlifetime : Lifetime svc ⟨none, none⟩ g 1 after :=
    (session_lives_with_connection svc ⟨1, 0, 0⟩ ⟨0, 0⟩ [.pass ⟨1, 1⟩] after ⟨none, none⟩ ⟨"", none⟩ hfits).2
  refine ⟨?_, by decide +kernel, s, ⟨hs, hid⟩, hcapabilities, ?_⟩
  · unfold Generator.Fits
    decide +kernel
  · exact ((hlifetime.forgotten hl (of_decide_eq_true hphase)).2 ⟨hs, hid⟩).2

end Gateway
end EventGateway
