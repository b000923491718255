import EventGateway.Gateway.Request
import EventGateway.Proofs.Bootstrap
import EventGateway.Wire.Frame
/-!
# Faults — with which code they are answered

Whatever is wrong with a frame, or with a payload in the place where it stands, is a violation of the protocol
(`decode_faults`, `closeCode?_of_refused`).
-/
namespace EventGateway

namespace Wire

/-- Every fault that comes of it has the code. -/
def FaultsWith (code : CloseCode) {α : Type} (x : Except Fault α) : Prop :=
  ∀ fault, x = .error fault → fault.closeCode = code

variable {code : CloseCode}

theorem faultsWith_ok {α : Type} (a : α) : FaultsWith code (.ok a : Except Fault α) := fun _ h => by cases h

theorem faultsWith_error {α : Type} {fault : Fault} (h : fault.closeCode = code) :
    FaultsWith code (.error fault : Except Fault α) := fun _ he => by cases he; exact h

theorem FaultsWith.bind {α β : Type} {x : Except Fault α} {f : α → Except Fault β} (hx : FaultsWith code x)
    (hf : ∀ a, FaultsWith code (f a)) : FaultsWith code (x >>= f) := by
  cases x with
  | error fault => exact faultsWith_error (hx fault rfl)
  | ok a => exact hf a

theorem scanKey_faults (key : Nat) : FaultsWith .protocolViolation (scanKey key) := by
  unfold scanKey
  dsimp only
  repeat' split
  all_goals first | exact faultsWith_ok _ | exact faultsWith_error rfl

theorem skipField_faults (tag : Nat) (isPayload : Bool) (bytes : List UInt8) :
    FaultsWith .protocolViolation (skipField tag isPayload bytes) := by
  unfold skipField
  repeat' split
  all_goals first | exact faultsWith_ok _ | exact faultsWith_error rfl

theorem scanField_faults (bytes : List UInt8) : FaultsWith .protocolViolation (scanField bytes) := by
  unfold scanField
  split
  · exact faultsWith_error rfl
  · exact (scanKey_faults _).bind fun _ => (skipField_faults _ _ _).bind fun _ => faultsWith_ok _

theorem countPayloads_faults : ∀ (fuel : Nat) (bytes : List UInt8),
    FaultsWith .protocolViolation (countPayloads fuel bytes)
  | 0, [] | _ + 1, [] => faultsWith_ok _
  | 0, _ :: _ => faultsWith_error rfl
  | fuel + 1, b :: bs => (scanField_faults _).bind fun _ => (countPayloads_faults fuel _).bind fun _ => by
    split <;> exact faultsWith_ok _

theorem ofBinary_faults (bytes : List UInt8) : FaultsWith .protocolViolation (Envelope.ofBinary bytes) := by
  have hscan : FaultsWith .protocolViolation (scanPayloads bytes) := by
    refine (countPayloads_faults bytes.length bytes).bind fun n => ?_
    split
    · exact faultsWith_error rfl
    · exact faultsWith_ok _
    · exact faultsWith_error rfl
  refine hscan.bind fun _ => ?_
  split
  · exact faultsWith_error rfl
  · exact faultsWith_error rfl
  · exact faultsWith_ok _

theorem read_faults (f : Frame) : FaultsWith .protocolViolation f.read := by
  cases f with
  | binary bytes => exact ofBinary_faults bytes
  | text s =>
    simp only [Frame.read]
    split
    · exact faultsWith_error rfl
    · exact faultsWith_error rfl
    · exact faultsWith_ok _

/-- **A frame that cannot be read, or is too long, violates the protocol.** -/
theorem decode_faults (limit : Nat) (f : Frame) : FaultsWith .protocolViolation (f.decode limit) := by
  unfold Frame.decode
  split
  · exact faultsWith_error rfl
  · have hread := read_faults f
    cases hf : f.read with
    | error fault => exact faultsWith_error (hread fault hf)
    | ok e => exact faultsWith_ok _

theorem ofQuery_faults (asked : Option String) : FaultsWith .protocolViolation (Encoding.ofQuery asked) := by
  unfold Encoding.ofQuery
  dsimp only
  split
  · exact faultsWith_ok _
  · split
    · exact faultsWith_ok _
    · exact faultsWith_ok _
    · exact faultsWith_ok _
    · exact faultsWith_error rfl

theorem resolve_faults (versions : VersionSet) (asked : Option String) :
    FaultsWith .versionUnsupported (versions.resolve asked) := by
  unfold VersionSet.resolve
  dsimp only
  split
  · exact faultsWith_ok _
  · refine FaultsWith.bind ?_ fun wanted => ?_
    · unfold Version.parse
      cases Version.parse? (Text.trim (asked.getD "")) with
      | none => exact faultsWith_error rfl
      | some v => exact faultsWith_ok _
    · split
      · exact faultsWith_ok _
      · exact faultsWith_error rfl

end Wire

namespace Bootstrap

/-- **A frame that is refused violates the protocol**, unless the connection is closed anyway. -/
theorem closeCode?_of_refused {b b' : Bootstrap} {p : Wire.Payload} {e : ConnectionError} (hb : b.state ≠ .closed)
    (h : b.advance (.frame p) = (.error e, b')) : e.closeCode? = some .protocolViolation := by
  have herror : (b.transition (.frame p)).1 = .error e := by
    unfold advance at h
    split at h
    · cases h
    · rename_i heq
      rw [heq]
      exact congrArg Prod.fst h
  rw [transition_frame] at herror
  split at herror
  · unfold onFrame at herror
    split at herror
    · rename_i hstate _
      exact absurd hstate hb
    · repeat' split at herror
      all_goals cases herror <;> rfl
    · split at herror <;> cases herror
      rfl
    · cases herror
      rfl
  · cases herror
    rfl

end Bootstrap
end EventGateway
