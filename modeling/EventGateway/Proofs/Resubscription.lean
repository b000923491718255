import EventGateway.Proofs.Run
import EventGateway.Proofs.ScopeText
/-!
# Resubscription — what is acknowledged can be asked for again

A subscription is acknowledged with the text of its scope and the bits of its filter.  A command with these means the
same subscription, so that it changes nothing, and a command to unsubscribe with the same text takes back that
subscription and no other (`acknowledged_subscription`).
-/
namespace EventGateway

/-! ## Filters -/

namespace EventKinds

theorem ofFilterBits_ne_zero (bits : UInt32) : (ofFilterBits bits).bits ≠ 0 := by
  unfold ofFilterBits
  split
  · decide
  · rename_i h
    simpa using h

/-- **A filter has no bits but known ones.** -/
theorem ofFilterBits_and_all (bits : UInt32) : (ofFilterBits bits).bits &&& all.bits = (ofFilterBits bits).bits := by
  unfold ofFilterBits
  split
  · rfl
  · show bits &&& all.bits &&& all.bits = bits &&& all.bits
    rw [UInt32.and_assoc, UInt32.and_self]

/-- The bits of a filter stand for that filter. -/
theorem ofFilterBits_idem (bits : UInt32) : ofFilterBits (ofFilterBits bits).bits = ofFilterBits bits := by
  have hknown := ofFilterBits_and_all bits
  rw [ofFilterBits, hknown, if_neg (by simpa using ofFilterBits_ne_zero bits)]

end EventKinds

/-! ## Commands -/

namespace Command

/-- **A command that subscribes is repeated by its acknowledgement**, and taken back by the text in it. -/
theorem ofPayload_acknowledged {text : String} {events : UInt32} {command : Command}
    (h : ofPayload (.subscribe text events) = .ok command) :
    ∃ scope, scope.isProper = true ∧ command = .subscribe scope (.ofFilterBits events) ∧
      ofPayload (.subscribe scope.text (EventKinds.ofFilterBits events).bits) = .ok command ∧
      ofPayload (.unsubscribe scope.text) = .ok (.unsubscribe scope) := by
  cases made_of_ofPayload h with
  | subscribe _ _ scope hscope =>
    have hproper := Scope.isProper_of_parse hscope
    refine ⟨scope, hproper, rfl, ?_, ?_⟩
    · rw [ofPayload, parseScope, Scope.parse_text hproper, EventKinds.ofFilterBits_idem]
      rfl
    · rw [ofPayload, parseScope, Scope.parse_text hproper]
      rfl

end Command

/-- Whoever asks may follow every scope that can be named. -/
theorem LocalChannels.authorize_of_isProper {scope : Scope} (h : scope.isProper = true) (who : Identity) :
    (LocalChannels.authorize who scope).2 = .ok () := by
  cases scope with
  | channel id => exact if_pos h
  | user id =>
    rw [LocalChannels.authorize, if_pos (show id.isPositive = true from h)]
  | presence => rfl

/-! ## Replies that find a place -/

/-- The next control reply finds a place. -/
def Queue.takesReplies (q : Queue) : Bool := !q.isClosing && q.controls < q.config.controlCapacity

/-- The session with a reply at the end of its queue. -/
def Session.answered (s : Session) (p : Wire.Payload) : Session :=
  { s with queue := { s.queue with items := s.queue.items ++ [p], controls := s.queue.controls + 1 } }

theorem Session.push_of_takesReplies {s : Session} {p : Wire.Payload} (h : s.queue.takesReplies = true)
    (hp : p.isCritical = true) (now : Nat) : (s.push now p).2 = s.answered p := by
  simp only [Queue.takesReplies, Bool.and_eq_true, Bool.not_eq_true', decide_eq_true_eq] at h
  rw [Session.push, Queue.push, if_neg (by simp [h.1]), if_pos hp, if_pos h.2]
  rfl

namespace SessionIndex

variable {κ : Type} [Ord κ] [Std.TransOrd κ] [Std.LawfulEqOrd κ]

/-- Who is in the index already is not added again. -/
theorem add_of_mem {index : SessionIndex κ} {key : κ} {id : SessionId} (h : id ∈ index.ids key) :
    index.add key id = index := by
  obtain ⟨found, hfound, hid⟩ := (index.mem_ids_iff key id).1 h
  have hinsert : found.insert id = found := Std.ExtTreeSet.ext_mem fun j => by
    rw [Std.ExtTreeSet.mem_insert, Std.LawfulEqCmp.compare_eq_iff_eq]
    exact ⟨fun hj => hj.elim (fun hj => hj ▸ hid) fun hj => hj, .inr⟩
  refine Std.ExtTreeMap.ext_getElem? fun key' => ?_
  rw [add, Std.ExtTreeMap.getElem?_alter]
  split
  · rename_i hkey
    rw [← Std.LawfulEqOrd.eq_of_compare hkey, hfound, Option.getD_some, hinsert]
  · rfl

end SessionIndex

theorem insert_of_getElem? {κ V : Type} [DecidableEq κ] [Ord κ] [Std.TransOrd κ] [Std.LawfulEqOrd κ]
    {m : Std.ExtTreeMap κ V} {k : κ} {v : V} (h : m[k]? = some v) : m.insert k v = m := by
  refine Std.ExtTreeMap.ext_getElem? fun i => ?_
  rw [getElem?_insert_eq]
  split
  · rename_i hi
    rw [hi, h]
  · rfl

namespace Registry

variable {r : Registry} {id : SessionId} {s : Session} {scope : Scope} {kinds : EventKinds}

/-- The filter with which a live session is subscribed to a scope. -/
def filter? (r : Registry) (id : SessionId) (scope : Scope) : Option EventKinds :=
  (r.session? id).bind (·.subscriptions[scope]?)

/-- **A reply has been put into the queue of a live session, and nothing else has happened.** -/
def answered (r : Registry) (s : Session) (p : Wire.Payload) : Registry :=
  { r with sessions := r.sessions.insert s.id (s.answered p) }

theorem changed_of_takesReplies {p : Wire.Payload} (hs : r.session? s.id = some s) (hroom : s.queue.takesReplies = true)
    (hp : p.isCritical = true) (now : Nat) : r.changed s.id (·.push now p) = r.answered s p := by
  have hlive : r.sessions.contains (s.answered p).id = true := by
    rw [Std.ExtTreeMap.contains_eq_isSome_getElem?]
    exact Option.isSome_iff_exists.2 ⟨s, hs⟩
  rw [changed_of_handle? (handle?_of_session? hs), Session.push_of_takesReplies hroom hp, put, if_pos hlive]
  rfl

theorem session?_answered (r : Registry) (s : Session) (p : Wire.Payload) (i : SessionId) :
    (r.answered s p).session? i = if i = s.id then some (s.answered p) else r.session? i :=
  getElem?_insert_eq _ _ _ _

theorem filter?_answered (hs : r.session? s.id = some s) (p : Wire.Payload) (i : SessionId) (scope : Scope) :
    (r.answered s p).filter? i scope = r.filter? i scope := by
  rw [filter?, filter?, session?_answered]
  split
  · rename_i hi
    rw [hi, hs]
    rfl
  · rfl

end Registry

/-! ## Subscribing and unsubscribing -/

namespace Session

/-- The session with one subscription more, or another filter for it. -/
def subscribedTo (s : Session) (scope : Scope) (kinds : EventKinds) : Session :=
  { s with subscriptions := s.subscriptions.insert scope kinds }

/-- The session with one subscription less. -/
def without (s : Session) (scope : Scope) : Session := { s with subscriptions := s.subscriptions.erase scope }

end Session

namespace Registry

variable {r : Registry} {id : SessionId} {s : Session} {scope : Scope} {kinds : EventKinds}

/-- **A live session has a subscription, and nothing else has happened.** -/
def subscribedTo (r : Registry) (s : Session) (scope : Scope) (kinds : EventKinds) : Registry :=
  { r with sessions := r.sessions.insert s.id (s.subscribedTo scope kinds), byScope := r.byScope.add scope s.id }

/-- **A live session has given up a subscription, and nothing else has happened.** -/
def without (r : Registry) (s : Session) (scope : Scope) : Registry :=
  { r with sessions := r.sessions.insert s.id (s.without scope), byScope := r.byScope.remove scope s.id }

/-- A live session can always subscribe. -/
theorem Consistent.subscribe_of_session? (hr : r.Consistent) (hs : r.session? s.id = some s) (scope : Scope)
    (kinds : EventKinds) : r.subscribe s.id scope kinds =
      .ok (s.subscriptions[scope]? ≠ some kinds, r.subscribedTo s scope kinds) := by
  rw [Registry.subscribe, hs]
  exact if_neg (by rw [hr.live_released hs]; exact Bool.false_ne_true)

/-- A subscription that is there already is subscribed to without any change. -/
theorem Consistent.subscribe_again (hr : r.Consistent) (hs : r.session? s.id = some s)
    (hkinds : s.subscriptions[scope]? = some kinds) : r.subscribe s.id scope kinds = .ok (false, r) := by
  have hmem : scope ∈ s.subscriptions :=
    Std.ExtTreeMap.mem_iff_isSome_getElem?.2 (by rw [hkinds]; rfl)
  have hsession : s.subscribedTo scope kinds = s := by rw [Session.subscribedTo, insert_of_getElem? hkinds]
  have hregistry : r.subscribedTo s scope kinds = r := by
    rw [subscribedTo, hsession, insert_of_getElem? hs, SessionIndex.add_of_mem (hr.indexed hs hmem)]
  rw [hr.subscribe_of_session? hs, hregistry, hkinds]
  simp

theorem Consistent.unsubscribe_of_mem (hr : r.Consistent) (hs : r.session? s.id = some s)
    (hscope : scope ∈ s.subscriptions) : r.unsubscribe s.id scope = .ok (true, r.without s scope) := by
  rw [Registry.unsubscribe, hs]
  exact (if_neg (by rw [hr.live_released hs]; exact Bool.false_ne_true)).trans
    (if_pos (Std.ExtTreeMap.contains_iff_mem.2 hscope))

theorem session?_subscribedTo (r : Registry) (s : Session) (scope : Scope) (kinds : EventKinds) (i : SessionId) :
    (r.subscribedTo s scope kinds).session? i = if i = s.id then some (s.subscribedTo scope kinds) else r.session? i :=
  getElem?_insert_eq _ _ _ _

theorem session?_without (r : Registry) (s : Session) (scope : Scope) (i : SessionId) :
    (r.without s scope).session? i = if i = s.id then some (s.without scope) else r.session? i :=
  getElem?_insert_eq _ _ _ _

/-- **One filter is gone, and all others are as they were.** -/
theorem filter?_without (hs : r.session? s.id = some s) (i : SessionId) (scope' : Scope) :
    (r.without s scope).filter? i scope' = if i = s.id ∧ scope' = scope then none else r.filter? i scope' := by
  rw [filter?, filter?, session?_without]
  by_cases hi : i = s.id
  · rw [if_pos hi, hi, hs]
    show (s.subscriptions.erase scope)[scope']? = _
    rw [getElem?_erase_eq]
    simp
  · rw [if_neg hi, if_neg fun h => hi h.1]

end Registry

namespace Router

section Submitting

variable {handler : CommandHandler} {now : Moment} {id : SessionId} {r : Router} {s : Session} {scope : Scope}
  {kinds : EventKinds} {changed : Bool} {registry : Registry}

/-- **A subscription that is granted is acknowledged.** -/
theorem submit_subscribe (now : Moment) (hs : r.registry.handle? id = some s)
    (hgranted : (handler.authorize s.identity scope).2 = .ok ())
    (hsubscribe : r.registry.subscribe s.id scope kinds = .ok (changed, registry)) :
    (r.submit handler now id (.subscribe scope kinds)).1 = .ok () ∧
      (r.submit handler now id (.subscribe scope kinds)).2.registry =
        registry.changed s.id (·.push now.ticks (.subscribed scope.text kinds.bits)) := by
  rcases hverdict : handler.authorize s.identity scope with ⟨notes, verdict⟩
  rw [hverdict] at hgranted
  cases hgranted
  have hrouter : ({ r with journal := notes ++ r.journal } : Router).subscribe s.id scope kinds = .ok (changed,
      { r with registry, journal := notes ++ r.journal }.noteScope "Session subscribed" s.id scope changed) := by
    rw [subscribe, hsubscribe]
    rfl
  simp only [submit, hs, execute, hverdict, hrouter, registry_reply, registry_noteScope, and_self]

theorem submit_unsubscribe (handler : CommandHandler) (now : Moment) (hs : r.registry.handle? id = some s)
    (hunsubscribe : r.registry.unsubscribe s.id scope = .ok (changed, registry)) :
    (r.submit handler now id (.unsubscribe scope)).1 = .ok () ∧
      (r.submit handler now id (.unsubscribe scope)).2.registry =
        registry.changed s.id (·.push now.ticks (.unsubscribed scope.text)) := by
  have hrouter : r.unsubscribe s.id scope = .ok (changed,
      { r with registry }.noteScope "Session unsubscribed" s.id scope changed) := by
    rw [unsubscribe, hunsubscribe]
    rfl
  simp only [submit, hs, execute, hrouter, registry_reply, registry_noteScope, and_self]

/-- A live session that is granted a subscription has it, and is told so if its queue takes replies. -/
theorem submit_subscribe_live (hr : r.registry.Consistent) (hs : r.registry.session? s.id = some s)
    (hgranted : (handler.authorize s.identity scope).2 = .ok ()) (hroom : s.queue.takesReplies = true) :
    (r.submit handler now s.id (.subscribe scope kinds)).2.registry =
      (r.registry.subscribedTo s scope kinds).answered (s.subscribedTo scope kinds)
        (.subscribed scope.text kinds.bits) := by
  obtain ⟨-, hregistry⟩ := submit_subscribe now (Registry.handle?_of_session? hs) hgranted
    (hr.subscribe_of_session? hs scope kinds)
  have hsession : (r.registry.subscribedTo s scope kinds).session? s.id = some (s.subscribedTo scope kinds) := by
    rw [Registry.session?_subscribedTo, if_pos rfl]
  exact hregistry.trans (Registry.changed_of_takesReplies (s := s.subscribedTo scope kinds) hsession hroom rfl now.ticks)

/-- Whoever is subscribed already gets the same acknowledgement again, and nothing else changes. -/
theorem submit_subscribe_again (hr : r.registry.Consistent) (hs : r.registry.session? s.id = some s)
    (hgranted : (handler.authorize s.identity scope).2 = .ok ()) (hkinds : s.subscriptions[scope]? = some kinds)
    (hroom : s.queue.takesReplies = true) :
    (r.submit handler now s.id (.subscribe scope kinds)).1 = .ok () ∧
      (r.submit handler now s.id (.subscribe scope kinds)).2.registry =
        r.registry.answered s (.subscribed scope.text kinds.bits) := by
  obtain ⟨hanswer, hregistry⟩ := submit_subscribe now (Registry.handle?_of_session? hs) hgranted
    (hr.subscribe_again hs hkinds)
  exact ⟨hanswer, hregistry.trans (Registry.changed_of_takesReplies hs hroom rfl now.ticks)⟩

/-- Whoever is subscribed gives up that subscription only. -/
theorem submit_unsubscribe_of_mem (hr : r.registry.Consistent) (hs : r.registry.session? s.id = some s)
    (hscope : scope ∈ s.subscriptions) (hroom : s.queue.takesReplies = true) :
    (r.submit handler now s.id (.unsubscribe scope)).1 = .ok () ∧
      (r.submit handler now s.id (.unsubscribe scope)).2.registry =
        (r.registry.without s scope).answered (s.without scope) (.unsubscribed scope.text) := by
  obtain ⟨hanswer, hregistry⟩ := submit_unsubscribe handler now (Registry.handle?_of_session? hs)
    (hr.unsubscribe_of_mem hs hscope)
  have hsession : (r.registry.without s scope).session? s.id = some (s.without scope) := by
    rw [Registry.session?_without, if_pos rfl]
  exact ⟨hanswer,
    hregistry.trans (Registry.changed_of_takesReplies (s := s.without scope) hsession hroom rfl now.ticks)⟩

end Submitting

/-- **What is acknowledged can be asked for again, and taken back.**  A live session asks for a subscription, in any
words and with any bits, while its queue takes replies.  If that succeeds, it is subscribed to one scope with one filter,
a set of known kinds that is not empty, and is told so.  The text and the bits that it is told make the same command,
which is granted to everybody.  Whenever later the session is still so subscribed and its queue takes replies, this
command changes nothing and is acknowledged in the same way, and the command to unsubscribe with the same text takes
back this subscription, and no other one of anybody. -/
theorem acknowledged_subscription (ids : Generator) (queue : QueueConfig) (steps : List Step) (channels : LocalChannels)
    (now : Moment) (id : SessionId) (s : Session) (text : String) (events : UInt32)
    (hs : ((new ids queue).run steps).registry.session? id = some s) (hroom : s.queue.takesReplies = true)
    (hok : (((new ids queue).run steps).handle channels.handler now id (.subscribe text events)).1 = .ok ()) :
    let r := (new ids queue).run steps
    let r' := (r.handle channels.handler now id (.subscribe text events)).2
    ∃ scope kinds,
      (r'.registry = (r.registry.subscribedTo s scope kinds).answered (s.subscribedTo scope kinds)
          (.subscribed scope.text kinds.bits) ∧
        r'.registry.filter? id scope = some kinds ∧ kinds.bits ≠ 0 ∧ kinds.bits &&& EventKinds.all.bits = kinds.bits) ∧
      Command.ofPayload (.subscribe text events) = .ok (.subscribe scope kinds) ∧
      Command.ofPayload (.subscribe scope.text kinds.bits) = .ok (.subscribe scope kinds) ∧
      (∀ who, (channels.handler.authorize who scope).2 = .ok ()) ∧
      ∀ later now' t, (r'.run later).registry.session? id = some t → t.subscriptions[scope]? = some kinds →
        t.queue.takesReplies = true →
        let q := r'.run later
        let again := q.handle channels.handler now' id (.subscribe scope.text kinds.bits)
        let back := q.handle channels.handler now' id (.unsubscribe scope.text)
        (q.registry.subscribe id scope kinds = .ok (false, q.registry) ∧ again.1 = .ok () ∧
          again.2.registry = q.registry.answered t (.subscribed scope.text kinds.bits)) ∧
        back.1 = .ok () ∧
        back.2.registry = (q.registry.without t scope).answered (t.without scope) (.unsubscribed scope.text) ∧
        ∀ j scope', back.2.registry.filter? j scope' =
          if j = id ∧ scope' = scope then none else q.registry.filter? j scope' := by
  intro r r'
  have hr : r.registry.Consistent := consistent_run steps (Registry.consistent_new ids queue)
  obtain rfl := hr.live_id hs
  cases hcommand : Command.ofPayload (.subscribe text events) with
  | error e =>
    rw [handle, hcommand] at hok
    cases hok
  | ok command =>
    obtain ⟨scope, hproper, rfl, hagain, hback⟩ := Command.ofPayload_acknowledged hcommand
    have hgranted : ∀ who, (channels.handler.authorize who scope).2 = .ok () :=
      LocalChannels.authorize_of_isProper hproper
    have hsubmit : r' = (r.submit channels.handler now s.id (.subscribe scope (.ofFilterBits events))).2 :=
      congrArg Prod.snd (handle_of_ofPayload hcommand)
    have hr' : r'.registry.Consistent := by
      rw [hsubmit]
      exact consistent_submit hr _ _ _ _
    have hregistry : r'.registry = (r.registry.subscribedTo s scope (.ofFilterBits events)).answered
        (s.subscribedTo scope (.ofFilterBits events)) (.subscribed scope.text (EventKinds.ofFilterBits events).bits) := by
      rw [hsubmit]
      exact submit_subscribe_live hr hs (hgranted _) hroom
    have hfilter : r'.registry.filter? s.id scope = some (.ofFilterBits events) := by
      have hsession : (r.registry.subscribedTo s scope (.ofFilterBits events)).session? s.id =
          some (s.subscribedTo scope (.ofFilterBits events)) := by
        rw [Registry.session?_subscribedTo, if_pos rfl]
      rw [hregistry, Registry.filter?_answered (s := s.subscribedTo scope _) hsession, Registry.filter?, hsession]
      show (s.subscriptions.insert scope _)[scope]? = _
      rw [getElem?_insert_eq, if_pos rfl]
    refine ⟨scope, .ofFilterBits events, ⟨hregistry, hfilter, EventKinds.ofFilterBits_ne_zero events,
      EventKinds.ofFilterBits_and_all events⟩, rfl, hagain, hgranted, ?_⟩
    intro later now' t ht hkinds hroom' q again back
    have hq : q.registry.Consistent := consistent_run later hr'
    have hid : t.id = s.id := hq.live_id ht
    rw [← hid] at ht
    have hscope : scope ∈ t.subscriptions := Std.ExtTreeMap.mem_iff_isSome_getElem?.2 (by rw [hkinds]; rfl)
    have hsubscribe : q.registry.subscribe s.id scope (.ofFilterBits events) = .ok (false, q.registry) :=
      hid ▸ hq.subscribe_again ht hkinds
    have hagain' : again.1 = .ok () ∧ again.2.registry =
        q.registry.answered t (.subscribed scope.text (EventKinds.ofFilterBits events).bits) := by
      show (q.handle channels.handler now' s.id _).1 = _ ∧ (q.handle channels.handler now' s.id _).2.registry = _
      rw [handle_of_ofPayload hagain, ← hid]
      exact submit_subscribe_again hq ht (hgranted _) hkinds hroom'
    have hback' : back.1 = .ok () ∧ back.2.registry =
        (q.registry.without t scope).answered (t.without scope) (.unsubscribed scope.text) := by
      show (q.handle channels.handler now' s.id _).1 = _ ∧ (q.handle channels.handler now' s.id _).2.registry = _
      rw [handle_of_ofPayload hback, ← hid]
      exact submit_unsubscribe_of_mem hq ht hscope hroom'
    refine ⟨⟨hsubscribe, hagain'⟩, hback'.1, hback'.2, fun j scope' => ?_⟩
    have hwithout : (q.registry.without t scope).session? (t.without scope).id = some (t.without scope) := by
      rw [Registry.session?_without]
      exact if_pos rfl
    rw [hback'.2, Registry.filter?_answered hwithout, Registry.filter?_without ht, hid]

theorem eq_ok_of_toOption {ε α : Type} {x : Except ε α} {a : α} (h : x.toOption = some a) : x = .ok a := by
  cases x with
  | error => cases h
  | ok => exact congrArg Except.ok (Option.some.inj h)

/-- A scope in other words, a filter of unknown bits only, and room for two replies: what is acknowledged is granted
once more, and taken back. -/
theorem acknowledged_subscription_respelled :
    let r := (new ⟨1, 0, 0⟩ ⟨256, 2, .dropOldest 64 3600000⟩).run
      [.create ⟨0, 0⟩ ⟨1, .json, ⟨2, 0⟩⟩ ⟨⟨7⟩, "t"⟩ .all]
    let r' := (r.handle (LocalChannels.handler ⟨[]⟩) ⟨0, 0⟩ ⟨4097⟩ (.subscribe " user : +05 " 32)).2
    r'.registry.filter? ⟨4097⟩ (.user ⟨5⟩) = some .all ∧
      (r'.handle (LocalChannels.handler ⟨[]⟩) ⟨0, 0⟩ ⟨4097⟩ (.subscribe (Scope.text (.user ⟨5⟩)) 31)).1 = .ok () ∧
      (r'.handle (LocalChannels.handler ⟨[]⟩) ⟨0, 0⟩ ⟨4097⟩ (.unsubscribe (Scope.text (.user ⟨5⟩)))).2.registry.filter?
        ⟨4097⟩ (.user ⟨5⟩) = none := by
  intro r r'
  have hlive : (r.registry.session? ⟨4097⟩).any (·.queue.takesReplies) = true := by decide +kernel
  obtain ⟨s, hs, hroom⟩ := (Option.any_eq_true _ _).1 hlive
  have hok : (r.handle (LocalChannels.handler ⟨[]⟩) ⟨0, 0⟩ ⟨4097⟩ (.subscribe " user : +05 " 32)).1.toOption =
    some () := by decide +kernel
  obtain ⟨scope, kinds, ⟨-, hfilter, -⟩, hcommand, -, -, hlater⟩ := acknowledged_subscription ⟨1, 0, 0⟩
    ⟨256, 2, .dropOldest 64 3600000⟩ [.create ⟨0, 0⟩ ⟨1, .json, ⟨2, 0⟩⟩ ⟨⟨7⟩, "t"⟩ .all] ⟨[]⟩ ⟨0, 0⟩ ⟨4097⟩ s
    " user : +05 " 32 hs hroom (eq_ok_of_toOption hok)
  have hread : (Command.ofPayload (.subscribe " user : +05 " 32)).toOption =
    some (.subscribe (.user ⟨5⟩) .all) := by decide +kernel
  rw [hcommand] at hread
  cases hread
  have hlive' : (r'.registry.session? ⟨4097⟩).any (·.queue.takesReplies) = true := by decide +kernel
  obtain ⟨t, ht, hroom'⟩ := (Option.any_eq_true _ _).1 hlive'
  have hkinds : t.subscriptions[Scope.user ⟨5⟩]? = some .all := by
    rw [← hfilter, Registry.filter?, ht]
    rfl
  obtain ⟨⟨-, hagain, -⟩, -, -, hback⟩ := hlater [] ⟨0, 0⟩ t ht hkinds hroom'
  exact ⟨hfilter, hagain, (hback _ _).trans (if_pos ⟨rfl, rfl⟩)⟩

end Router
end EventGateway
