import EventGateway.Config.Settings
import EventGateway.Gateway.Link
import EventGateway.Gateway.Request
import EventGateway.Router.Basic
import EventGateway.Text.Quoted
import EventGateway.Token.Authenticator
/-!
# The gateway

All connections and the router between them.  Each operation here is one thing that happens: a request is opened, a
message is read, a verdict comes in, time runs out, or a writer sends what there is to send.  A verdict may take its
time; a command takes none, so the reader waits for the next message from the moment at which it has read one.
-/
namespace EventGateway

/-- What stays the same while the gateway runs. -/
structure Service where
  settings : Settings
  versions : Wire.VersionSet
  capabilities : Wire.Capabilities
  authenticator : Authenticator
  /-- How long a verdict takes, in milliseconds. -/
  verdictDelay : Nat
  handler : CommandHandler

structure Gateway where
  now : Moment
  router : Router
  links : List (ConnectionId × Link)

namespace Gateway

def link? (g : Gateway) (id : ConnectionId) : Option Link := g.links.lookup id

def put (id : ConnectionId) (l : Link) (g : Gateway) : Gateway :=
  { g with links := g.links.map (fun x => if x.1 = id then (id, l) else x) }

def note (level : Level) (message : String) (details : List (String × Detail)) (g : Gateway) : Gateway :=
  { g with router := g.router.note level message details }

def newId (g : Gateway) : ConnectionId := g.links.length + 1

/-! ## Ending a connection -/

/-- Sends a close frame, for what it is worth. -/
def sendClose (code : CloseCode) (l : Link) (g : Gateway) : Link × Gateway :=
  match l.send? (.close code) with
  | some l => (l, g)
  | none =>
    (l, g.note .debug "Failed to send close frame"
      [("close_code", .text code.label), ("error", .text "connection lost")])

/-- The transport has ended, or as good as. -/
def transportFault : ConnectionError := .transport "connection lost"

/-- Dismisses a client that has no session. -/
def dismiss (connection : Connection) (e : ConnectionError) (l : Link) (g : Gateway) : Link × Gateway :=
  let l := { l with phase := .ended }
  let name := ("connection_id", .text (Text.ofNat connection.id))
  match e.closeCode? with
  | some code =>
    let g := g.note .info "Closing connection during bootstrap"
      [name, ("close_code", .text code.label), ("error", .text e.message)]
    g.sendClose code l
  | none => (l, g.note .debug "Connection ended during bootstrap" [name, ("error", .text e.message)])

/-- Ends a connection that has no session. -/
def endBootstrap (id : ConnectionId) (connection : Connection) (e : ConnectionError) (l : Link) (g : Gateway) :
    Gateway :=
  let (l, g) := g.dismiss connection e l
  g.put id l

/-- Takes a session off the books. -/
def cleanup (id : ConnectionId) (session : SessionId) (l : Link) (g : Gateway) : Gateway :=
  let g := match g.router.registry.handle? session with
    | some s => g.note .info "Cleaning up session"
      [("session_id", .text session.text), ("connection_id", .text (Text.ofNat id)),
        ("created_at", .text (Text.ofInt s.createdAt.unix)), ("idle_ms", .number (g.now.ticks - l.heardAt)),
        ("last_seq", .number s.sequence.toNat)]
    | none => g
  let router := match g.router.destroy session with
    | some (_, router) => router
    | none => g.router
  { g with router }.put id { l with phase := .ended }

/-- **The reader has ended with a code**: the session is closed with it, and the writer gets a moment to say so.  If
the session is closing already, the code that was recorded first stands. -/
def endReader (svc : Service) (id : ConnectionId) (session : SessionId) (code : CloseCode) (l : Link) (g : Gateway) :
    Gateway :=
  let g := g.note .debug "Receive task ended with close code"
    [("session_id", .text session.text), ("close_code", .text code.label)]
  let g := { g with router := (g.router.closeWith session code).2 }
  if svc.settings.closeGrace = 0 then g.cleanup id session l
  else g.put id { l with phase := .closing session }

/-! ## Opening -/

/-- Grants or refuses an opening request.  The transport may be gone by then, so that neither the close frame nor the
Handshake can be sent. -/
def openOn (svc : Service) (request : Opening) (peer : Peer) (transport : Transport) (g : Gateway) :
    ConnectionId × Gateway :=
  let id := g.newId
  let add (l : Link) (g : Gateway) : Gateway := { g with links := g.links ++ [(id, l)] }
  let new : Link := ⟨.ended, .new, [], transport, [], g.now.ticks⟩
  let remote := ("remote_addr", .text peer.address)
  match request.negotiate svc.versions with
  | .error fault =>
    let g := g.note .info "Rejecting connection before handshake"
      [remote, ("close_code", .text fault.closeCode.label), ("error", .text fault.message)]
    let (l, g) := g.sendClose fault.closeCode { new with bootstrap := new.bootstrap.close }
    (id, add l g)
  | .ok (encoding, version) =>
    let g := g.note .info "WebSocket connection established"
      [("connection_id", .text (Text.ofNat id)), remote, ("encoding", .text encoding.text),
        ("version", .text version.text), ("requested_version", .text (Text.quotedOption request.version)),
        ("user_agent", .text (Text.quotedOption peer.agent))]
    let connection : Connection := ⟨id, encoding, version⟩
    let hello := Wire.Envelope.unsequenced
      (.handshake version.major version.revision svc.capabilities.bits svc.settings.heartbeatInterval)
    let upgraded : Link := { new with bootstrap := (new.bootstrap.advance .upgraded).2 }
    match upgraded.send? (.frame (hello.encode encoding)) with
    | some l => (id, add { l with
        phase := .identifying connection (g.now.ticks + svc.settings.identifyTimeout.toNat)
        bootstrap := (l.bootstrap.advance .handshakeDelivered).2 } g)
    | none =>
      let (l, g) := g.dismiss connection transportFault { upgraded with bootstrap := upgraded.bootstrap.close }
      (id, add l g)

/-- An opening request whose client is there to hear the answer. -/
def opened (svc : Service) (request : Opening) (peer : Peer) (g : Gateway) : ConnectionId × Gateway :=
  g.openOn svc request peer .up

/-! ## Identifying -/

/-- What the machine says to something other than a frame that it expects. -/
def unexpected (b : Bootstrap) (g : Gateway) : ConnectionError × Gateway :=
  (.invalidTransition b.state.text "frame",
    g.note .error "Bootstrap produced an unexpected step" [("state", .text b.state.text)])

/-- A frame from a client that is not identified. -/
def identify (svc : Service) (id : ConnectionId) (connection : Connection) (deadline : Nat) (f : Wire.Frame) (l : Link)
    (g : Gateway) : Gateway :=
  match f.decode svc.settings.maxFrameBytes.toNat with
  | .error fault => g.endBootstrap id connection (.wire fault) { l with bootstrap := l.bootstrap.close }
  | .ok p =>
    match l.bootstrap.advance (.frame p) with
    | (.error e, bootstrap) => g.endBootstrap id connection e { l with bootstrap }
    | (.ok (.authenticate who), bootstrap) =>
      let verdictAt := g.now.ticks + svc.verdictDelay
      g.put id { l with bootstrap, phase := .authenticating connection who deadline verdictAt }
    | (.ok _, bootstrap) =>
      let (e, g) := g.unexpected bootstrap
      g.endBootstrap id connection e { l with bootstrap := bootstrap.close }

/-- A session for a client that is identified, and the answer that it is ready. -/
def createSession (svc : Service) (id : ConnectionId) (connection : Connection) (who : Identity) (asked : UInt32)
    (l : Link) (g : Gateway) : Gateway :=
  match g.router.create g.now connection who (.negotiate svc.capabilities asked) with
  | .error e => g.endBootstrap id connection e l
  | .ok (s, router) =>
    let router := (router.reply g.now s.id (.ready s.id.toUInt64 s.user.toUInt64 s.connection.version.major
      s.connection.version.revision s.capabilities.bits)).2
    let g := { g with router }.note .info "Session ready"
      [("connection_id", .text (Text.ofNat connection.id)), ("session_id", .text s.id.text),
        ("user_id", .text s.user.text)]
    g.put id { l with
      phase := .live s.id (g.now.ticks + svc.settings.heartbeatTimeout.toNat)
      heardAt := g.now.ticks }

/-- An Identify has been looked into, and this is the answer. -/
def judged (svc : Service) (id : ConnectionId) (answer : Except AuthError Identity) (g : Gateway) : Gateway :=
  match g.link? id with
  | some l =>
    match l.phase with
    | .authenticating connection who _ _ =>
      match answer with
      | .error why =>
        let g := g.note .info "Identify rejected"
          [("connection_id", .text (Text.ofNat connection.id)), ("error", .text why.message)]
        match l.bootstrap.advance (.authRejected why.message) with
        | (.error e, bootstrap) => g.endBootstrap id connection e { l with bootstrap }
        | (.ok _, bootstrap) =>
          let (e, g) := g.unexpected bootstrap
          g.endBootstrap id connection e { l with bootstrap := bootstrap.close }
      | .ok identity =>
        match l.bootstrap.advance (.authenticated identity) with
        | (.error e, bootstrap) => g.endBootstrap id connection e { l with bootstrap }
        | (.ok (.createSession identity), bootstrap) =>
          g.createSession svc id connection identity who.capabilities { l with bootstrap }
        | (.ok _, bootstrap) =>
          let (e, g) := g.unexpected bootstrap
          g.endBootstrap id connection e { l with bootstrap := bootstrap.close }
    | _ => g
  | none => g

/-- The verdict on an Identify. -/
def verdict (svc : Service) (id : ConnectionId) (g : Gateway) : Gateway :=
  match g.link? id with
  | some l =>
    match l.phase with
    | .authenticating _ who _ _ => g.judged svc id (svc.authenticator.authenticate g.now who)
    | _ => g
  | none => g

/-! ## Reading -/

/-- The session is closed for something that its client sent. -/
def violation (svc : Service) (id : ConnectionId) (session : SessionId) (e : ConnectionError) (l : Link) (g : Gateway) :
    Gateway :=
  let g := g.note .info "Closing session on protocol error"
    [("session_id", .text session.text), ("error", .text e.message)]
  match e.closeCode? with
  | some code => g.endReader svc id session code l
  | none => g.cleanup id session l

/-- A frame from an identified client. -/
def serve (svc : Service) (id : ConnectionId) (session : SessionId) (f : Wire.Frame) (l : Link) (g : Gateway) :
    Gateway :=
  match f.decode svc.settings.maxFrameBytes.toNat with
  | .error fault => g.violation svc id session (.wire fault) { l with bootstrap := l.bootstrap.close }
  | .ok p =>
    let g := g.note .trace "Received payload"
      [("session_id", .text session.text), ("payload", .text p.name), ("inbound", .text f.encoding.text)]
    match l.bootstrap.advance (.frame p) with
    | (.error e, bootstrap) => g.violation svc id session e { l with bootstrap }
    | (.ok (.dispatch p), bootstrap) =>
      { g with router := (g.router.handle svc.handler g.now session p).2 }.put id { l with bootstrap }
    | (.ok _, bootstrap) =>
      let (e, g) := g.unexpected bootstrap
      g.violation svc id session e { l with bootstrap := bootstrap.close }

/-- What a client that is not identified sends. -/
def readIdentifying (svc : Service) (id : ConnectionId) (connection : Connection) (deadline : Nat) (m : Inbound)
    (l : Link) (g : Gateway) : Gateway :=
  let lost : Link := { l with bootstrap := (l.bootstrap.advance .disconnected).2 }
  match m with
  | .fault => g.endBootstrap id connection transportFault lost
  | .message .close => g.endBootstrap id connection .closed lost
  | .message (.ping payload) =>
    match l.send? (.pong payload) with
    | some l => g.put id l
    | none => g.endBootstrap id connection transportFault lost
  | .message (.pong _) => g.put id l
  | .message (.frame f) => g.identify svc id connection deadline f l

/-- The transport of a session has ended. -/
def lose (id : ConnectionId) (session : SessionId) (l : Link) (g : Gateway) : Gateway :=
  let g := g.note .warn "WebSocket error" [("session_id", .text session.text), ("error", .text transportFault.message)]
  g.cleanup id session { l with bootstrap := (l.bootstrap.advance .disconnected).2 }

/-- What an identified client sends; whatever it is, the client has been heard of. -/
def readLive (svc : Service) (id : ConnectionId) (session : SessionId) (m : Inbound) (l : Link) (g : Gateway) :
    Gateway :=
  let heard : Link := { l with
    phase := .live session (g.now.ticks + svc.settings.heartbeatTimeout.toNat)
    heardAt := g.now.ticks }
  match m with
  | .fault => g.lose id session l
  | .message .close =>
    let g := g.note .info "Client closed connection" [("session_id", .text session.text)]
    g.cleanup id session { heard with bootstrap := (l.bootstrap.advance .disconnected).2 }
  | .message (.ping payload) =>
    match heard.send? (.pong payload) with
    | some l => g.put id l
    | none => g.lose id session heard
  | .message (.pong _) => g.put id heard
  | .message (.frame f) => g.serve svc id session f heard

/-- Reads the first message that has arrived, if the reader is there. -/
def read (svc : Service) (id : ConnectionId) (g : Gateway) : Gateway :=
  match g.link? id with
  | some l =>
    match l.phase, l.inbox with
    | .identifying connection deadline, m :: inbox => g.readIdentifying svc id connection deadline m { l with inbox }
    | .live session _, m :: inbox => g.readLive svc id session m { l with inbox }
    | _, _ => g
  | none => g

/-- A message arrives; one that is too long for the transport is a fault of it. -/
def arrive (svc : Service) (id : ConnectionId) (m : Message) (g : Gateway) : Gateway :=
  match g.link? id with
  | some l =>
    let inbound : Inbound := if m.fits svc.settings.transportLimit then .message m else .fault
    g.put id { l with inbox := l.inbox ++ [inbound] }
  | none => g

/-- The transport is cut. -/
def cut (id : ConnectionId) (g : Gateway) : Gateway :=
  match g.link? id with
  | some l => g.put id { l with inbox := l.inbox ++ [.fault], transport := .cut }
  | none => g

/-! ## Time -/

/-- Nothing has arrived for too long. -/
def expire (svc : Service) (id : ConnectionId) (g : Gateway) : Gateway :=
  match g.link? id with
  | some l =>
    let (result, bootstrap) := l.bootstrap.advance .timedOut
    let e := match result with
      | .error e => e
      | .ok _ => ConnectionError.identifyTimeout
    let l := { l with bootstrap }
    match l.phase with
    | .identifying connection _ => g.endBootstrap id connection e l
    | .authenticating connection .. => g.endBootstrap id connection e l
    | .live session _ =>
      let g := g.note .info "Session idle" [("session_id", .text session.text), ("error", .text e.message)]
      match e.closeCode? with
      | some code => g.endReader svc id session code l
      | none => g.cleanup id session l
    | .closing _ => g
    | .ended => g
  | none => g

/-- The writer of a session that is closing has had its time. -/
def lapse (id : ConnectionId) (g : Gateway) : Gateway :=
  match g.link? id with
  | some l =>
    match l.phase with
    | .closing session => g.cleanup id session l
    | _ => g
  | none => g

/-! ## Writing -/

/-- Sends envelopes one after the other, as long as the transport takes them. -/
def sendAll (encoding : Wire.Encoding) : List Wire.Envelope → Link → Bool × Link
  | [], l => (true, l)
  | e :: rest, l =>
    match l.send? (.frame (e.encode encoding)) with
    | some l => sendAll encoding rest l
    | none => (false, l)

/-- The writer has ended. -/
def endWriter (id : ConnectionId) (session : SessionId) (l : Link) (g : Gateway) : Gateway :=
  let g := match l.phase with
    | .live .. => g.note .debug "Send task ended" [("session_id", .text session.text)]
    | _ => g
  g.cleanup id session l

/-- Sends what there is, and then the close frame if the session is to be closed. -/
def write (id : ConnectionId) (session : SessionId) (encoding : Wire.Encoding) (out : Outgoing) (l : Link)
    (g : Gateway) : Gateway :=
  if out.finished then g.endWriter id session l
  else match sendAll encoding out.envelopes l with
    | (false, l) =>
      let g := g.note .warn "Failed to send message to WebSocket" [("session_id", .text session.text)]
      g.endWriter id session l
    | (true, l) =>
      match out.close with
      | none => g.put id l
      | some code =>
        let g := g.note .info "Closing session" [("session_id", .text session.text), ("close_code", .text code.label)]
        let (l, g) := g.sendClose code l
        g.endWriter id session l

/-- The writer of a connection has a turn. -/
def flush (id : ConnectionId) (g : Gateway) : Gateway :=
  let turn (session : SessionId) (l : Link) : Gateway :=
    match g.router.registry.handle? session, g.router.nextOutgoing session with
    | some s, (some out, router) => { g with router }.write id session s.connection.encoding out l
    | _, _ => g
  match g.link? id with
  | some l =>
    match l.phase with
    | .live session _ => turn session l
    | .closing session => turn session l
    | _ => g
  | none => g

/-! ## Publishing -/

def publish (e : Event) (g : Gateway) : Nat × Gateway :=
  let (delivered, router) := g.router.publish g.now e
  (delivered, { g with router })

end Gateway
end EventGateway
