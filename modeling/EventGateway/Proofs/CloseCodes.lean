import EventGateway.Proofs.Bootstrap
/-!
# Close codes — one from an open machine, and one for each frame that strays

Every error closes the machine, so that while it is open at most one answer comes with a close code.  Once it is closed
it has no code left to give (`advance_of_closed`), but for a frame that only the server sends: that is refused as such
before anybody looks at the state, whenever it comes.  `codes_eq` counts both kinds for every history.
-/
namespace EventGateway.Bootstrap

/-- A frame that only the server sends. -/
def Input.isMisdirected : Input → Bool
  | frame p => !p.isFromClient
  | _ => false

/-- The close code that goes with an answer. -/
def closeCode? : Except ConnectionError Step → Option CloseCode
  | .error e => e.closeCode?
  | .ok _ => none

/-- The close codes among the answers to some calls. -/
def codes (calls : List Call) (b : Bootstrap) : List CloseCode := (answers calls b).filterMap closeCode?

/-- The misdirected frames among some calls that find the machine closed. -/
def strays : List Call → Bootstrap → List Input
  | [], _ => []
  | .feed input :: calls, b =>
    (if b.state = .closed ∧ input.isMisdirected = true then [input] else []) ++ strays calls (b.call (.feed input))
  | .close :: calls, b => strays calls (b.call .close)

section Closed

variable {b : Bootstrap}

/-- **What a closed machine answers**, to everything but the end of the connection. -/
theorem advance_of_closed (h : b.state = .closed) {input : Input} (hinput : input ≠ .disconnected) :
    b.advance input = (.error (if input.isMisdirected then .wrongDirection input.text else .closed), b.close) := by
  refine advance_of_error (?_ : b.transition input = (_, b))
  cases input with
  | frame p =>
    rw [transition_frame]
    cases hclient : p.isFromClient with
    | false => simp [Input.isMisdirected, Input.text, hclient]
    | true =>
      have hframe : b.onFrame p = (.error .closed, b) := by
        unfold onFrame
        rw [h]
      simp [Input.isMisdirected, hclient, hframe]
  | disconnected => exact absurd rfl hinput
  | _ =>
    obtain ⟨state, authenticating⟩ := b
    cases h
    rfl

theorem call_of_closed (h : b.state = .closed) (c : Call) : (b.call c).state = .closed := by
  cases c with
  | close => rfl
  | feed input =>
    by_cases hinput : input = .disconnected
    · rw [hinput]
      rfl
    · rw [call, advance_of_closed h hinput]
      rfl

/-- A closed machine gives a code to the frames that stray, and to nothing else. -/
theorem closeCode?_of_closed (h : b.state = .closed) (input : Input) :
    closeCode? (b.advance input).1 = if input.isMisdirected then some .protocolViolation else none := by
  by_cases hinput : input = .disconnected
  · rw [hinput]
    rfl
  · rw [advance_of_closed h hinput]
    cases input.isMisdirected <;> rfl

end Closed

theorem codes_feed (input : Input) (calls : List Call) (b : Bootstrap) : codes (.feed input :: calls) b =
    (closeCode? (b.advance input).1).toList ++ codes calls (b.call (.feed input)) := by
  rw [codes, answers, List.filterMap_cons]
  cases closeCode? (b.advance input).1 <;> rfl

theorem codes_of_closed : ∀ (calls : List Call) {b : Bootstrap}, b.state = .closed →
    codes calls b = List.replicate (strays calls b).length .protocolViolation
  | [], _, _ => rfl
  | .close :: calls, b, h => codes_of_closed calls (call_of_closed h .close)
  | .feed input :: calls, b, h => by
    rw [codes_feed, codes_of_closed calls (call_of_closed h (.feed input)), closeCode?_of_closed h, strays]
    cases hmis : input.isMisdirected
    · simp
    · simp [h, List.replicate_succ]

/-- **The close codes of a history**: at most one, from the open machine, and then one for each frame that strays. -/
theorem codes_eq : ∀ (calls : List Call) (b : Bootstrap), ∃ first : Option CloseCode,
    codes calls b = first.toList ++ List.replicate (strays calls b).length .protocolViolation
  | [], _ => ⟨none, rfl⟩
  | .close :: calls, b => codes_eq calls (b.call .close)
  | .feed input :: calls, b => by
    by_cases h : b.state = .closed
    · exact ⟨none, codes_of_closed _ h⟩
    · have hstrays : strays (.feed input :: calls) b = strays calls (b.call (.feed input)) := by
        rw [strays, if_neg fun hstray => h hstray.1]
        rfl
      rw [codes_feed, hstrays]
      cases hanswer : (b.advance input).1 with
      | ok step => exact codes_eq calls (b.call (.feed input))
      | error e =>
        -- The machine is closed from here on.
        exact ⟨e.closeCode?, congrArg _ (codes_of_closed calls (congrArg _ (closed_of_error hanswer)))⟩

/-- **A machine gives away one close code, and one more for each frame that strays.**  Whatever is called, in whatever
order and on whatever machine: the answers come with at most one close code from the open machine, and then with a
protocol violation for each frame that only the server sends and that finds the machine closed.  Every other input finds
a closed machine that has no code to give; and it stays closed. -/
theorem one_code_but_for_strays (calls : List Call) (b : Bootstrap) :
    (∃ first : Option CloseCode,
      codes calls b = first.toList ++ List.replicate (strays calls b).length .protocolViolation) ∧
    ((b.run calls).state = .closed → ∀ input : Input, ((b.run calls).advance input).2.state = .closed ∧
      ((b.run calls).advance input).1 =
        if input = .disconnected then .ok .closed
        else if input.isMisdirected then .error (.wrongDirection input.text) else .error .closed) := by
  refine ⟨codes_eq calls b, fun h input => ⟨call_of_closed h (.feed input), ?_⟩⟩
  split
  · rename_i hinput
    rw [hinput]
    rfl
  · rename_i hinput
    rw [advance_of_closed h hinput]
    split <;> rfl

/-- An Identify that comes too late. -/
theorem one_code_but_for_strays_late :
    let calls := [Call.feed .upgraded, .feed .handshakeDelivered, .feed .timedOut]
    let late := Input.frame (.identify ⟨"token", 7, "agent"⟩)
    (new.run calls).state = .closed ∧ ((new.run calls).advance late).1 = .error .closed ∧
      codes (calls ++ [.feed late]) new = [.timeout] := by
  intro calls late
  have hclosed : (new.run calls).state = .closed := by decide
  obtain ⟨-, hanswers⟩ := one_code_but_for_strays calls new
  exact ⟨hclosed, (hanswers hclosed late).2, by decide⟩

/-- **A frame that strays gets a second close code** out of a machine that has given away its own. -/
theorem second_code_for_stray :
    let calls := [Call.feed .upgraded, .feed .handshakeDelivered, .feed .timedOut]
    let stray := Input.frame (.heartbeatAck 0)
    (new.run calls).state = .closed ∧ stray ≠ .disconnected ∧ ((new.run calls).advance stray).1 ≠ .error .closed ∧
      codes (calls ++ [.feed stray]) new = [.timeout, .protocolViolation] ∧
      ¬ (codes (calls ++ [.feed stray]) new).length ≤ 1 := by
  intro calls stray
  have hanswer : (new.run calls).advance stray = (.error (.wrongDirection "heartbeat_ack"), ⟨.closed, false⟩) := rfl
  refine ⟨by decide, by decide, ?_, by decide, by decide⟩
  rw [hanswer]
  exact nofun

end EventGateway.Bootstrap
