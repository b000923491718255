import EventGateway.Command.Basic
import EventGateway.Connection.Identity
import EventGateway.Journal
import EventGateway.Moment
import EventGateway.Snowflake.Generator
/-!
# Who carries out commands

The gateway itself knows nothing of channels and users.  A handler decides who may follow what, and answers an action
with the events that come of it.
-/
namespace EventGateway

/-- `execute` may take ids from the generator that the gateway uses for its sessions. -/
structure CommandHandler where
  authorize : Identity → Scope → Journal × Except CommandError Unit
  execute : Moment → Generator → Identity → Action → Except CommandError (List Event) × Generator

/-- Channels that keep nothing: what is said in them is passed on, and that is all. -/
structure LocalChannels where
  readOnly : List Snowflake
deriving DecidableEq, Repr

namespace LocalChannels

/-- The length of a message in characters, not bytes. -/
def maxContent : Nat := 2000

def checkChannel (id : Snowflake) : Except CommandError Unit :=
  if id.isPositive then .ok () else .error (.channelNotFound id)

def authorize (who : Identity) (scope : Scope) : Journal × Except CommandError Unit :=
  let granted : Journal × Except CommandError Unit :=
    ([⟨.trace, "Subscription authorized", [("user_id", .text who.user.text), ("scope", .text scope.text)]⟩], .ok ())
  match scope with
  | .channel id => ([], checkChannel id)
  | .user id => if id.isPositive then granted else ([], .error (.subscriptionDenied scope))
  | .presence => granted

/-- What a message says, white space at its ends aside. -/
def checkMessage (c : LocalChannels) (channel : Snowflake) (content : String) : Except CommandError String := do
  checkChannel channel
  if c.readOnly.contains channel then throw .cannotSendMessages
  let content := Text.trim content
  if content = "" then throw (.invalid "content must not be empty")
  if maxContent < content.length then throw (.contentTooLong maxContent)
  return content

/-- **An id is taken only for a message that is sent.** -/
def execute (c : LocalChannels) (now : Moment) (ids : Generator) (who : Identity) :
    Action → Except CommandError (List Event) × Generator
  | .sendMessage channel content =>
    match c.checkMessage channel content with
    | .error e => (.error e, ids)
    | .ok content =>
      let (id, ids) := ids.next now.age
      (.ok [.messageCreated channel id who.user content now.timestamp], ids)
  | .startTyping channel =>
    ((checkChannel channel).map (fun _ => [.typingStarted channel who.user now.timestamp]), ids)
  | .updatePresence status => (.ok [.presenceUpdated who.user status], ids)

def handler (c : LocalChannels) : CommandHandler := ⟨authorize, c.execute⟩

end LocalChannels
end EventGateway
