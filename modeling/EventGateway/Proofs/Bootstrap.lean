import EventGateway.Connection.Bootstrap
/-!
# Bootstraps — the one history that leads to an identified client

`Advanced` lists what an input can do to the machine, and nothing below opens `transition` again.  `Led` says which
histories lead to each state; every input keeps to it (`Led.advance`), so the state that is reached tells what has
happened.
-/
namespace EventGateway.Bootstrap

/-- **What an input does**, the answer to it and the machine after it. -/
inductive Advanced (b : Bootstrap) : Input → Except ConnectionError Step × Bootstrap → Prop where
  | upgraded (h : b.state = .awaitingUpgrade) :
    Advanced b .upgraded (.ok .sendHandshake, { b with state := .handshakeSent })
  | delivered (h : b.state = .handshakeSent) :
    Advanced b .handshakeDelivered (.ok .awaitIdentify, { b with state := .awaitingIdentify })
  | asked (who : Wire.Identify) (h : b = ⟨.awaitingIdentify, false⟩) (hwho : Text.isAllBlank who.token = false) :
    Advanced b (.frame (.identify who)) (.ok (.authenticate who), ⟨.awaitingIdentify, true⟩)
  | granted (identity : Identity) (h : b = ⟨.awaitingIdentify, true⟩) :
    Advanced b (.authenticated identity) (.ok (.createSession identity), ⟨.identified, false⟩)
  | commanded (p : Wire.Payload) (h : b.state = .identified) (hp : p.role = .command) :
    Advanced b (.frame p) (.ok (.dispatch p), b)
  | disconnected : Advanced b .disconnected (.ok .closed, b.close)
  | refused (input : Input) (e : ConnectionError) : Advanced b input (.error e, b.close)

theorem advance_of_ok {b b' : Bootstrap} {input : Input} {step : Step} (h : b.transition input = (.ok step, b')) :
    b.advance input = (.ok step, b') := by
  rw [advance, h]

theorem advance_of_error {b b' : Bootstrap} {input : Input} {e : ConnectionError}
    (h : b.transition input = (.error e, b')) : b.advance input = (.error e, b.close) := by
  rw [advance, h]
  rfl

theorem transition_frame (b : Bootstrap) (p : Wire.Payload) : b.transition (.frame p) =
    if p.isFromClient then b.onFrame p else (.error (.wrongDirection p.name), b) := rfl

theorem onFrame_identify (who : Wire.Identify) : (⟨.awaitingIdentify, false⟩ : Bootstrap).onFrame (.identify who) =
    if Text.isAllBlank who.token then
      (.error (.malformedPayload "identify" "token is empty"), ⟨.awaitingIdentify, false⟩)
    else (.ok (.authenticate who), ⟨.awaitingIdentify, true⟩) := rfl

theorem onFrame_command {b : Bootstrap} (h : b.state = .identified) {p : Wire.Payload} (hp : p.role = .command) :
    b.onFrame p = (.ok (.dispatch p), b) := by
  unfold onFrame
  rw [h]
  exact if_pos hp

theorem advance_command {b : Bootstrap} (h : b.state = .identified) {p : Wire.Payload} (hp : p.role = .command) :
    b.advance (.frame p) = (.ok (.dispatch p), b) := by
  have hclient : p.isFromClient = true := by simp [Wire.Payload.isFromClient, hp]
  exact advance_of_ok (by rw [transition_frame, if_pos hclient, onFrame_command h hp])

theorem advance_identify {who : Wire.Identify} (hwho : Text.isAllBlank who.token = false) :
    (⟨.awaitingIdentify, false⟩ : Bootstrap).advance (.frame (.identify who)) =
      (.ok (.authenticate who), ⟨.awaitingIdentify, true⟩) := by
  have hclient : (Wire.Payload.identify who).isFromClient = true := rfl
  exact advance_of_ok (by rw [transition_frame, if_pos hclient, onFrame_identify, hwho]; rfl)

theorem advanced_frame (b : Bootstrap) (p : Wire.Payload) : Advanced b (.frame p) (b.advance (.frame p)) := by
  have hrefused : ∀ {e b'}, b.transition (.frame p) = (.error e, b') →
      Advanced b (.frame p) (b.advance (.frame p)) := fun h => by
    rw [advance_of_error h]
    exact .refused _ _
  cases hclient : p.isFromClient with
  | false => exact hrefused (by rw [transition_frame, hclient]; rfl)
  | true =>
    replace hrefused : ∀ {e b'}, b.onFrame p = (.error e, b') → Advanced b (.frame p) (b.advance (.frame p)) :=
      fun h => hrefused (by rw [transition_frame, if_pos hclient, h])
    obtain ⟨state, authenticating⟩ := b
    -- Only an Identify in its place and a command in its place get an answer.
    cases state with
    | awaitingIdentify =>
      cases p with
      | identify who =>
        cases authenticating with
        | true => exact hrefused rfl
        | false =>
          cases hwho : Text.isAllBlank who.token with
          | true => exact hrefused (by rw [onFrame_identify, if_pos hwho])
          | false =>
            rw [advance_identify hwho]
            exact .asked who rfl hwho
      | _ => exact hrefused rfl
    | identified =>
      by_cases hp : p.role = .command
      · rw [advance_command rfl hp]
        exact .commanded p rfl hp
      · exact hrefused (if_neg hp)
    | _ => exact hrefused rfl

theorem advanced (b : Bootstrap) (input : Input) : Advanced b input (b.advance input) := by
  cases input with
  | frame p => exact advanced_frame b p
  | disconnected => exact .disconnected
  | _ =>
    obtain ⟨state, _ | _⟩ := b <;> cases state <;>
      first
        | exact .refused _ _
        | exact .upgraded rfl
        | exact .delivered rfl
        | exact .granted _ rfl

/-! ## Histories -/

/-- What is done with the machine. -/
inductive Call where
  | feed (input : Input)
  | close

def call (b : Bootstrap) : Call → Bootstrap
  | .feed input => (b.advance input).2
  | .close => b.close

def run (b : Bootstrap) (calls : List Call) : Bootstrap := calls.foldl call b

theorem run_feed (b : Bootstrap) (input : Input) : b.run [.feed input] = (b.advance input).2 := rfl

/-- The answers to the inputs among some calls. -/
def answers : List Call → Bootstrap → List (Except ConnectionError Step)
  | [], _ => []
  | .feed input :: calls, b => (b.advance input).1 :: answers calls (b.call (.feed input))
  | .close :: calls, b => answers calls (b.call .close)

/-- The history of an identified client. -/
def accepted (who : Wire.Identify) (identity : Identity) (commands : List Wire.Payload) : List Input :=
  [.upgraded, .handshakeDelivered, .frame (.identify who), .authenticated identity] ++ commands.map .frame

/-- **The inputs that lead to a state**; to the closed one all may. -/
inductive Led : List Input → Bootstrap → Prop where
  | new : Led [] .new
  | upgraded : Led [.upgraded] ⟨.handshakeSent, false⟩
  | delivered : Led [.upgraded, .handshakeDelivered] ⟨.awaitingIdentify, false⟩
  | asked (who : Wire.Identify) (hwho : Text.isAllBlank who.token = false) :
    Led [.upgraded, .handshakeDelivered, .frame (.identify who)] ⟨.awaitingIdentify, true⟩
  | identified (who : Wire.Identify) (hwho : Text.isAllBlank who.token = false) (identity : Identity)
    (commands : List Wire.Payload) (hcommands : ∀ p ∈ commands, p.role = .command) :
    Led (accepted who identity commands) ⟨.identified, false⟩
  | closed (inputs : List Input) : Led inputs ⟨.closed, false⟩

theorem Led.advance {inputs : List Input} {b : Bootstrap} (h : Led inputs b) (input : Input) :
    Led (inputs ++ [input]) (b.advance input).2 := by
  have hadvanced := advanced b input
  generalize b.advance input = result at hadvanced ⊢
  cases hadvanced with
  | disconnected => exact .closed _
  | refused => exact .closed _
  | upgraded hstate =>
    cases h with
    | new => exact .upgraded
    | _ => cases hstate
  | delivered hstate =>
    cases h with
    | upgraded => exact .delivered
    | _ => cases hstate
  | asked who hb hwho =>
    cases h with
    | delivered => exact .asked who hwho
    | _ => cases hb
  | granted identity hb =>
    cases h with
    | asked who hwho => exact .identified who hwho identity [] (fun _ h => by cases h)
    | _ => cases hb
  | commanded p hstate hp =>
    cases h with
    | identified who hwho identity commands hcommands =>
      rw [accepted, List.append_assoc, show [Input.frame p] = [p].map .frame from rfl, ← List.map_append]
      refine .identified who hwho identity (commands ++ [p]) fun q hq => ?_
      rcases List.mem_append.1 hq with hq | hq
      · exact hcommands q hq
      · rw [List.mem_singleton.1 hq]; exact hp
    | _ => cases hstate

theorem Led.run : ∀ (inputs : List Input) {done : List Input} {b : Bootstrap}, Led done b →
    Led (done ++ inputs) (b.run (inputs.map .feed))
  | [], _, _, h => by rw [List.append_nil]; exact h
  | input :: inputs, done, b, h => by
    have hrest := Led.run inputs (h.advance input)
    rw [List.append_assoc] at hrest
    exact hrest

theorem run_commands : ∀ (commands : List Wire.Payload), (∀ p ∈ commands, p.role = .command) →
    run ⟨.identified, false⟩ ((commands.map Input.frame).map .feed) = ⟨.identified, false⟩
  | [], _ => rfl
  | p :: commands, h => by
    have hp : (⟨.identified, false⟩ : Bootstrap).call (.feed (.frame p)) = ⟨.identified, false⟩ := by
      rw [call, advance_command rfl (h p List.mem_cons_self)]
    rw [List.map_cons, List.map_cons, run, List.foldl_cons, hp]
    exact run_commands commands (fun q hq => h q (List.mem_cons_of_mem _ hq))

theorem run_accepted {who : Wire.Identify} (hwho : Text.isAllBlank who.token = false) (identity : Identity)
    {commands : List Wire.Payload} (hcommands : ∀ p ∈ commands, p.role = .command) :
    new.run ((accepted who identity commands).map .feed) = ⟨.identified, false⟩ := by
  have hasked : (⟨.awaitingIdentify, false⟩ : Bootstrap).call (.feed (.frame (.identify who))) =
      ⟨.awaitingIdentify, true⟩ := by
    rw [call, advance_identify hwho]
  rw [accepted, List.map_append, run, List.foldl_append]
  show run (call (call ⟨.awaitingIdentify, false⟩ (.feed (.frame (.identify who)))) (.feed (.authenticated identity)))
    ((commands.map Input.frame).map .feed) = _
  rw [hasked]
  exact run_commands commands hcommands

/-- **What may have been done with the machine** since the handshake was delivered, if an Identify is still to come or
is being looked into; what may have been done later is left open. -/
inductive Begun : List Call → Bootstrap → Prop where
  | waiting : Begun [] ⟨.awaitingIdentify, false⟩
  | asked (who : Wire.Identify) : Begun [.feed (.frame (.identify who))] ⟨.awaitingIdentify, true⟩
  | later (calls : List Call) (b : Bootstrap) (h : b.state = .identified ∨ b.state = .closed) : Begun calls b

theorem Begun.call {calls : List Call} {b : Bootstrap} (h : Begun calls b) (c : Call) :
    Begun (calls ++ [c]) (b.call c) := by
  cases c with
  | close => exact .later _ _ (.inr rfl)
  | feed input =>
    have hadvanced := advanced b input
    rw [Bootstrap.call]
    generalize b.advance input = result at hadvanced ⊢
    cases hadvanced with
    | disconnected => exact .later _ _ (.inr rfl)
    | refused => exact .later _ _ (.inr rfl)
    | granted => exact .later _ _ (.inl rfl)
    | commanded p hstate => exact .later _ _ (.inl hstate)
    | asked who hb =>
      subst hb
      cases h with
      | waiting => exact .asked who
      | later _ _ h => rcases h with h | h <;> cases h
    | upgraded hstate | delivered hstate =>
      cases h with
      | later _ _ h => rw [hstate] at h; rcases h with h | h <;> cases h
      | _ => cases hstate

theorem Begun.run : ∀ (more : List Call) {calls : List Call} {b : Bootstrap}, Begun calls b →
    Begun (calls ++ more) (b.run more)
  | [], _, _, h => by rw [List.append_nil]; exact h
  | c :: more, calls, b, h => by
    have hrest := Begun.run more (h.call c)
    rw [List.append_assoc] at hrest
    exact hrest

theorem Begun.eq_nil {calls : List Call} (h : Begun calls ⟨.awaitingIdentify, false⟩) : calls = [] := by
  cases h with
  | waiting => rfl
  | later _ _ h => rcases h with h | h <;> cases h

theorem Begun.length_eq_one {calls : List Call} (h : Begun calls ⟨.awaitingIdentify, true⟩) : calls.length = 1 := by
  cases h with
  | asked => rfl
  | later _ _ h => rcases h with h | h <;> cases h

/-! ## Answers -/

/-- The answers that have something done outside of the machine, once each. -/
def isMilestone : Except ConnectionError Step → Bool
  | .ok (.authenticate _) | .ok (.createSession _) => true
  | _ => false

def milestones (calls : List Call) (b : Bootstrap) : List (Except ConnectionError Step) :=
  (answers calls b).filter isMilestone

/-- **The milestones that lead to a state.** -/
inductive Reached : List (Except ConnectionError Step) → Bootstrap → Prop where
  | early (state : State) (h : state ≠ .identified) : Reached [] ⟨state, false⟩
  | asked (who : Wire.Identify) : Reached [.ok (.authenticate who)] ⟨.awaitingIdentify, true⟩
  | identified (who : Wire.Identify) (identity : Identity) :
    Reached [.ok (.authenticate who), .ok (.createSession identity)] ⟨.identified, false⟩
  | closed (who : Wire.Identify) (identity : Identity) (done : List (Except ConnectionError Step))
    (h : done <+: [.ok (.authenticate who), .ok (.createSession identity)]) : Reached done ⟨.closed, false⟩

theorem Reached.isPrefix {done : List (Except ConnectionError Step)} {b : Bootstrap} (h : Reached done b) :
    ∃ who identity, done <+: [.ok (.authenticate who), .ok (.createSession identity)] := by
  cases h with
  | early => exact ⟨⟨"", 0, ""⟩, ⟨⟨0⟩, ""⟩, List.nil_prefix⟩
  | asked who => exact ⟨who, ⟨⟨0⟩, ""⟩, List.prefix_append [_] [_]⟩
  | identified who identity => exact ⟨who, identity, List.prefix_refl _⟩
  | closed who identity _ h => exact ⟨who, identity, h⟩

theorem Reached.close {done : List (Except ConnectionError Step)} {b : Bootstrap} (h : Reached done b) :
    Reached done b.close := by
  obtain ⟨who, identity, hdone⟩ := h.isPrefix
  exact .closed who identity done hdone

theorem Reached.advance {done : List (Except ConnectionError Step)} {b : Bootstrap} (h : Reached done b)
    (input : Input) : Reached (done ++ [(b.advance input).1].filter isMilestone) (b.advance input).2 := by
  have hadvanced := advanced b input
  generalize b.advance input = result at hadvanced ⊢
  cases hadvanced with
  | disconnected => simpa [isMilestone] using h.close
  | refused => simpa [isMilestone] using h.close
  | upgraded hstate =>
    cases h with
    | early => exact .early _ (by decide)
    | _ => cases hstate
  | delivered hstate =>
    cases h with
    | early => exact .early _ (by decide)
    | _ => cases hstate
  | asked who hb =>
    cases h with
    | early => exact .asked who
    | _ => cases hb
  | granted identity hb =>
    cases h with
    | asked who => exact .identified who identity
    | _ => cases hb
  | commanded p hstate =>
    cases h with
    | identified who identity => exact .identified who identity
    | early _ hne => exact absurd hstate hne
    | _ => cases hstate

theorem Reached.run : ∀ (calls : List Call) {done : List (Except ConnectionError Step)} {b : Bootstrap},
    Reached done b → Reached (done ++ milestones calls b) (b.run calls)
  | [], _, _, h => by rw [milestones, answers, List.filter_nil, List.append_nil]; exact h
  | .feed input :: calls, done, b, h => by
    have hrest := Reached.run calls (h.advance input)
    rw [List.append_assoc, milestones, ← List.filter_append] at hrest
    exact hrest
  | .close :: calls, _, _, h => Reached.run calls h.close

/-- **Every error closes the machine.** -/
theorem closed_of_error {b : Bootstrap} {input : Input} {e : ConnectionError} (h : (b.advance input).1 = .error e) :
    (b.advance input).2 = ⟨.closed, false⟩ := by
  have hadvanced := advanced b input
  generalize b.advance input = result at hadvanced h ⊢
  cases hadvanced with
  | refused => rfl
  | _ => cases h

/-- What an answer says about the input, and about what has been answered before. -/
theorem Reached.answer {calls : List Call} {b : Bootstrap} (h : Reached (milestones calls new) b) (input : Input) :
    (∀ identity, (b.advance input).1 = .ok (.createSession identity) → input = .authenticated identity) ∧
    (∀ p, (b.advance input).1 = .ok (.dispatch p) → input = .frame p ∧ p.role = .command ∧ b.state = .identified ∧
      ∃ identity, .ok (.createSession identity) ∈ answers calls new) ∧
    (∀ e, (b.advance input).1 = .error e → (b.advance input).2 = ⟨.closed, false⟩) ∧
    (b.state = .closed → (b.advance input).2.state = .closed) := by
  have herror : ∀ e, (b.advance input).1 = .error e → (b.advance input).2 = ⟨.closed, false⟩ := fun _ => closed_of_error
  have hadvanced := advanced b input
  generalize b.advance input = result at hadvanced herror ⊢
  refine ⟨fun identity hanswer => ?_, fun p hanswer => ?_, herror, fun hclosed => ?_⟩
  · cases hadvanced with
    | granted => cases hanswer; rfl
    | _ => cases hanswer
  · cases hadvanced with
    | commanded p hstate hp =>
      cases hanswer
      refine ⟨rfl, hp, hstate, ?_⟩
      generalize hdone : milestones calls new = done at h
      cases h with
      | identified who identity =>
        have hmem : .ok (.createSession identity) ∈ milestones calls new := by rw [hdone]; simp
        exact ⟨identity, (List.mem_filter.1 hmem).1⟩
      | early _ hne => exact absurd hstate hne
      | _ => cases hstate
    | _ => cases hanswer
  · cases hadvanced with
    | upgraded h | delivered h => rw [hclosed] at h; cases h
    | commanded => exact hclosed
    | asked _ h | granted _ h => rw [h] at hclosed; cases hclosed
    | disconnected => rfl
    | refused => rfl

/-- **Exactly one shape of history is accepted**: the upgrade, the handshake, an Identify whose token is not blank, the
verdict that grants it, and then commands and nothing else.  Whatever is called, in whatever order, a client is
authenticated at most once and a session created at most once after that, for the identity of the verdict; commands are
passed on only to an identified client with a session; every error closes, and a closed machine stays closed. -/
theorem identified_iff_accepted :
    (∀ inputs : List Input, (new.run (inputs.map .feed)).isIdentified = true ↔ ∃ who identity commands,
      Text.isAllBlank who.token = false ∧ (∀ p ∈ commands, p.role = .command) ∧
        inputs = accepted who identity commands) ∧
    ∀ calls : List Call, let b := new.run calls
      (∃ who identity, milestones calls new <+: [.ok (.authenticate who), .ok (.createSession identity)]) ∧
      ∀ input : Input,
        (∀ identity, (b.advance input).1 = .ok (.createSession identity) → input = .authenticated identity) ∧
        (∀ p, (b.advance input).1 = .ok (.dispatch p) → input = .frame p ∧ p.role = .command ∧
          b.state = .identified ∧ ∃ identity, .ok (.createSession identity) ∈ answers calls new) ∧
        (∀ e, (b.advance input).1 = .error e → (b.advance input).2 = ⟨.closed, false⟩) ∧
        (b.state = .closed → (b.advance input).2.state = .closed ∧ b.close.state = .closed) := by
  refine ⟨fun inputs => ⟨fun h => ?_, ?_⟩, fun calls => ?_⟩
  · have hled : Led inputs (new.run (inputs.map .feed)) := Led.run inputs .new
    generalize new.run (inputs.map .feed) = b at h hled
    cases hled with
    | identified who hwho identity commands hcommands => exact ⟨who, identity, commands, hwho, hcommands, rfl⟩
    | _ => cases h
  · rintro ⟨who, identity, commands, hwho, hcommands, rfl⟩
    rw [run_accepted hwho identity hcommands]
    rfl
  · have hreached : Reached (milestones calls new) (new.run calls) := Reached.run calls (.early _ (by decide))
    refine ⟨hreached.isPrefix, fun input => ?_⟩
    obtain ⟨hcreate, hdispatch, herror, hclosed⟩ := hreached.answer input
    exact ⟨hcreate, hdispatch, herror, fun h => ⟨hclosed h, rfl⟩⟩

end EventGateway.Bootstrap
