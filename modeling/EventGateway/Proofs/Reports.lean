import EventGateway.Proofs.Counters
/-!
# Reports — what the clients are told of their commands, and what is counted

A frame that is handled for a session counts as a command if there is one in it; where there is none, or it fails, the
client is told so.  Both counters thus miss the frames without a command, and nothing else (`commands_counted`).
-/
namespace EventGateway

open Wire (Payload)

namespace Router

/-! ## Tasks -/

/-- A frame of a client is handled, or something else happens. -/
inductive Task where
  | frame (handler : CommandHandler) (now : Moment) (id : SessionId) (p : Payload)
  | other (x : Step) (h : ∀ handler now id command, x ≠ .submit handler now id command)

def attend (r : Router) : Task → Router
  | .frame handler now id p => (r.handle handler now id p).2
  | .other x _ => r.step x

def attendAll (r : Router) (tasks : List Task) : Router := tasks.foldl attend r

/-- A frame, and how its command has ended. -/
structure Handled where
  payload : Payload
  answer : Except CommandError Unit

namespace Handled

/-- Whether there is a command in the frame. -/
def isReadable (x : Handled) : Bool := (Command.ofPayload x.payload).isOk

/-- What the client is told of a failure. -/
def report? (x : Handled) : Option Payload :=
  match x.answer with
  | .ok () => none
  | .error e => some (.error e.code e.message x.payload.name)

end Handled

/-- What is handled for a session that is known. -/
def handled (r : Router) : Task → List Handled
  | .frame handler now id p =>
    if (r.registry.handle? id).isSome then [⟨p, (r.handle handler now id p).1⟩] else []
  | .other .. => []

def handledAll : List Task → Router → List Handled
  | [], _ => []
  | x :: xs, r => r.handled x ++ handledAll xs (r.attend x)

def unreadable (log : List Handled) : Nat := log.countP (!·.isReadable)

def reports (log : List Handled) : List Payload := log.filterMap (·.report?)

theorem unreadable_singleton (x : Handled) : unreadable [x] = (!x.isReadable).toNat := by
  rw [unreadable, List.countP_singleton]
  cases x.isReadable <;> rfl

/-- A client is told of a failure exactly if there is one. -/
theorem length_reports_singleton (x : Handled) : (reports [x]).length = (!x.answer.isOk).toNat := by
  obtain ⟨p, e | a⟩ := x <;> rfl

/-! ## What is counted -/

/-- The counters of commands. -/
def commandCounts (r : Router) : Nat × Nat := (r.stats.commands, r.stats.commandFailures)

theorem commandCounts_of_stats {r r' : Router} (h : r'.stats = r.stats) : r'.commandCounts = r.commandCounts := by
  rw [commandCounts, commandCounts, h]

theorem commandCounts_publish (now : Moment) (e : Event) (r : Router) :
    (r.publish now e).2.commandCounts = r.commandCounts := by
  rw [commandCounts, stats_publish]
  rfl

theorem commandCounts_publishAll (now : Moment) : ∀ (es : List Event) (r : Router),
    (publishAll now es r).commandCounts = r.commandCounts
  | [], _ => rfl
  | e :: es, r => (commandCounts_publishAll now es _).trans (commandCounts_publish now e r)

theorem commandCounts_execute (handler : CommandHandler) (now : Moment) (s : Session) (command : Command)
    (r : Router) : (r.execute handler now s command).2.commandCounts = r.commandCounts := by
  cases command with
  | act action =>
    have hperform : (r.perform handler now s action).2.commandCounts = r.commandCounts := rfl
    simp only [execute]
    generalize r.perform handler now s action = result at hperform ⊢
    obtain ⟨e | events, r₁⟩ := result
    · exact hperform
    · exact (commandCounts_publishAll now events r₁).trans hperform
  | _ => exact commandCounts_of_stats (stats_execute (fun _ h => by cases h) r)

theorem commandCounts_step (r : Router) {x : Step} (hx : ∀ handler now id command, x ≠ .submit handler now id command) :
    (r.step x).commandCounts = r.commandCounts := by
  cases x with
  | publish now e => exact commandCounts_publish now e r
  | submit handler now id command => exact absurd rfl (hx handler now id command)
  | _ => exact commandCounts_of_stats (stats_step r rfl)

/-- **A command of a session counts itself**, and as a failure if its client is told of one. -/
theorem commandCounts_submit (handler : CommandHandler) (now : Moment) {i : SessionId} (command : Command) {r : Router}
    {s : Session} (hs : r.registry.handle? i = some s) : (r.submit handler now i command).2.commandCounts =
      (r.stats.commands + 1, r.stats.commandFailures + (!(r.submit handler now i command).1.isOk).toNat) := by
  have hanswer : (r.submit handler now i command).1 = (r.execute handler now s command).1 := by
    simp only [submit, hs]
    split <;> rename_i h <;> rw [h]
  have hexecute := commandCounts_execute handler now s command r
  simp only [commandCounts, Prod.mk.injEq] at hexecute
  rw [commandCounts, stats_submit hs, hanswer, Stats.countCommand, hexecute.1, hexecute.2]

/-- **What a task adds to the counters, and what to the log.** -/
theorem counts_attend (r : Router) (x : Task) :
    (r.attend x).stats.commands + unreadable (r.handled x) = r.stats.commands + (r.handled x).length ∧
    (r.attend x).stats.commandFailures + unreadable (r.handled x) =
      r.stats.commandFailures + (reports (r.handled x)).length := by
  have hsame : ∀ {r' : Router}, r'.commandCounts = r.commandCounts →
      r'.stats.commands = r.stats.commands ∧ r'.stats.commandFailures = r.stats.commandFailures := Prod.mk.inj
  cases x with
  | other x hx => exact hsame (commandCounts_step r hx)
  | frame handler now i p =>
    rw [attend, handled]
    cases hp : Command.ofPayload p with
    | error e =>
      have hreport := hsame (commandCounts_of_stats (stats_reportFailure now i p.name e r))
      have hunread : Handled.isReadable ⟨p, .error e⟩ = false := by rw [Handled.isReadable, hp]; rfl
      rw [handle_of_ofPayload_eq_error hp, hreport.1, hreport.2]
      split
      · rw [unreadable_singleton, length_reports_singleton, hunread]
        exact ⟨rfl, rfl⟩
      · exact ⟨rfl, rfl⟩
    | ok command =>
      rw [handle_of_ofPayload hp]
      cases hs : r.registry.handle? i with
      | none => exact hsame (by rw [submit_of_handle?_eq_none hs])
      | some s =>
        have hsubmit := Prod.mk.inj (commandCounts_submit handler now command hs)
        have hread : Handled.isReadable ⟨p, (r.submit handler now i command).1⟩ = true := by
          rw [Handled.isReadable, hp]; rfl
        rw [if_pos Option.isSome_some, unreadable_singleton, length_reports_singleton, hread, hsubmit.1, hsubmit.2]
        exact ⟨rfl, rfl⟩

theorem unreadable_append (log log' : List Handled) : unreadable (log ++ log') = unreadable log + unreadable log' :=
  List.countP_append

theorem reports_append (log log' : List Handled) : reports (log ++ log') = reports log ++ reports log' :=
  List.filterMap_append

theorem counts_attendAll : ∀ (tasks : List Task) (r : Router),
    (r.attendAll tasks).stats.commands + unreadable (handledAll tasks r) =
      r.stats.commands + (handledAll tasks r).length ∧
    (r.attendAll tasks).stats.commandFailures + unreadable (handledAll tasks r) =
      r.stats.commandFailures + (reports (handledAll tasks r)).length
  | [], _ => ⟨rfl, rfl⟩
  | x :: xs, r => by
    obtain ⟨hcommands, hfailures⟩ := counts_attend r x
    obtain ⟨hcommands', hfailures'⟩ := counts_attendAll xs (r.attend x)
    rw [handledAll, unreadable_append, reports_append, List.length_append, List.length_append, attendAll,
      List.foldl_cons, ← attendAll]
    exact ⟨by omega, by omega⟩

/-! ## What the clients are told -/

theorem consistent_attend {r : Router} (hr : r.registry.Consistent) (x : Task) : (r.attend x).registry.Consistent := by
  cases x with
  | other x => exact (consistent_step hr x).1
  | frame handler now i p =>
    rw [attend]
    cases hp : Command.ofPayload p with
    | error e =>
      rw [handle_of_ofPayload_eq_error hp, registry_reportFailure]
      exact (consistent_pushed hr ..).1
    | ok command =>
      rw [handle_of_ofPayload hp]
      exact consistent_submit hr ..

theorem consistent_attendAll : ∀ (tasks : List Task) {r : Router}, r.registry.Consistent →
    (r.attendAll tasks).registry.Consistent
  | [], _, hr => hr
  | x :: xs, _, hr => consistent_attendAll xs (consistent_attend hr x)

theorem handle?_reportFailure {r : Router} (hr : r.registry.Consistent) (now : Moment) (i : SessionId)
    (command : String) (e : CommandError) (id : SessionId) :
    (r.reportFailure now i command e).registry.handle? id =
      if id = i then (r.registry.handle? id).map (·.move (.push now.ticks (.error e.code e.message command)))
      else r.registry.handle? id := by
  rw [registry_reportFailure]
  exact handle?_pushed hr i now.ticks _ id

/-- **The moves that a frame takes its session through**, by how its command has ended. -/
inductive Handled.Moves (now : Moment) : Handled → List Session.Move → Prop where
  | failed (p : Payload) (e : CommandError) : Moves now ⟨p, .error e⟩ [.push now.ticks (.error e.code e.message p.name)]
  | done (p : Payload) (command : Command) (hp : Command.ofPayload p = .ok command)
    (hcommand : ∀ action, command ≠ .act action) : Moves now ⟨p, .ok ()⟩ (command.moves now)
  | acted (p : Payload) (action : Action) (events : List Event) (hp : Command.ofPayload p = .ok (.act action)) :
    Moves now ⟨p, .ok ()⟩ (events.map (.offer now.ticks))

section Handling

variable {r : Router} {i : SessionId} {s : Session}

/-- **What handling a frame does to its own session**: it takes it through a few moves. -/
theorem handle_moves (hr : r.registry.Consistent) (handler : CommandHandler) (now : Moment)
    (hs : r.registry.handle? i = some s) (p : Payload) : ∃ ms : List Session.Move,
      (r.handle handler now i p).2.registry.handle? i = some (ms.foldl Session.move s) ∧
      Handled.Moves now ⟨p, (r.handle handler now i p).1⟩ ms := by
  have hfailed : ∀ {r₁ : Router} (e : CommandError), r₁.registry.Consistent →
      r₁.registry.handle? i = r.registry.handle? i → (r₁.reportFailure now i p.name e).registry.handle? i =
        some ([Session.Move.push now.ticks (.error e.code e.message p.name)].foldl Session.move s) := by
    intro r₁ e hr₁ hsame
    rw [handle?_reportFailure hr₁, if_pos rfl, hsame, hs]
    rfl
  cases hp : Command.ofPayload p with
  | error e =>
    rw [handle_of_ofPayload_eq_error hp]
    exact ⟨_, hfailed e hr rfl, .failed p e⟩
  | ok command =>
    rw [handle_of_ofPayload hp]
    have hexecuted := executed handler now s command r
    simp only [submit, hs]
    split <;> rename_i r₁ h <;> rw [h] at hexecuted
    · rcases hexecuted.handle?_of_ok hr hs with ⟨hcommand, hhandle⟩ |
        ⟨action, events, r₂, rfl, -, hr₂, hsame, hregistry⟩
      · exact ⟨_, (hhandle i).trans (by rw [if_pos rfl, hs]; rfl), .done p command hp hcommand⟩
      · refine ⟨_, ?_, .acted p action events hp⟩
        rw [hregistry, handle?_publishAll now i events hr₂, hsame, hs]
        rfl
    · rw [Command.name_of_ofPayload hp]
      exact ⟨_, hfailed _ (kept_consistent.execute hr hexecuted) (hexecuted.handle?_of_error i), .failed p _⟩

/-- **What handling a frame does to the other sessions**: they are offered events at most. -/
theorem handle_offers (hr : r.registry.Consistent) (handler : CommandHandler) (now : Moment) {id : SessionId}
    (hid : id ≠ i) (p : Payload) : ∃ ms : List Session.Move,
      (r.handle handler now i p).2.registry.handle? id = (r.registry.handle? id).map (ms.foldl Session.move) ∧
      ∀ m ∈ ms, m.isOffer = true := by
  have hnothing : ∀ {registry : Registry}, registry.handle? id = r.registry.handle? id → ∃ ms : List Session.Move,
      registry.handle? id = (r.registry.handle? id).map (ms.foldl Session.move) ∧ ∀ m ∈ ms, m.isOffer = true :=
    fun h => ⟨[], h.trans (Option.map_id_apply).symm, fun _ hm => by cases hm⟩
  cases hp : Command.ofPayload p with
  | error e =>
    rw [handle_of_ofPayload_eq_error hp]
    exact hnothing (by rw [handle?_reportFailure hr, if_neg hid])
  | ok command =>
    rw [handle_of_ofPayload hp]
    have hsubmitted := submitted handler now i command r
    generalize (r.submit handler now i command).2.registry = registry at hsubmitted ⊢
    cases hsubmitted with
    | unknown => exact hnothing rfl
    | reported s hs e registry h =>
      exact hnothing (by rw [handle?_pushed (kept_consistent.execute hr h), if_neg hid, h.handle?_of_error])
    | done s hs registry h =>
      rcases h.handle?_of_ok hr hs with ⟨-, hhandle⟩ | ⟨action, events, r₂, rfl, -, hr₂, hsame, rfl⟩
      · exact hnothing ((hhandle id).trans (if_neg hid))
      · refine ⟨_, ?_, Session.Move.isOffer_offers now.ticks events⟩
        rw [handle?_publishAll now id events hr₂, hsame]

/-- **A client is sent the report of its own failed command**, and no other session is sent any. -/
theorem handle_reports (hr : r.registry.Consistent) (handler : CommandHandler) (now : Moment)
    (hs : r.registry.handle? i = some s) (p : Payload) (id : SessionId) :
    ∃ ms : List Session.Move,
      (r.handle handler now i p).2.registry.handle? id = (r.registry.handle? id).map (ms.foldl Session.move) ∧
      ms.filter (·.isReport) = if id = i then
        ((Handled.mk p (r.handle handler now i p).1).report?.map (.push now.ticks)).toList else [] := by
  have hnone : ∀ {ms : List Session.Move}, (∀ m ∈ ms, m.isReport = false) → ms.filter (·.isReport) = [] :=
    fun h => List.filter_eq_nil_iff.2 fun m hm => by simp [h m hm]
  have hoffers : ∀ {ms : List Session.Move}, (∀ m ∈ ms, m.isOffer = true) → ms.filter (·.isReport) = [] :=
    fun h => hnone fun m hm => Session.Move.isReport_of_isOffer (h m hm)
  by_cases hid : id = i
  · subst hid
    obtain ⟨ms, hhandle, hms⟩ := handle_moves hr handler now hs p
    refine ⟨ms, by rw [hhandle, hs]; rfl, ?_⟩
    rw [if_pos rfl]
    generalize (r.handle handler now id p).1 = answer at hms
    cases hms with
    | failed => rfl
    | done => exact hnone Command.isReport_moves
    | acted _ _ events => exact hoffers (Session.Move.isOffer_offers now.ticks events)
  · obtain ⟨ms, hhandle, hms⟩ := handle_offers hr handler now hid p
    exact ⟨ms, hhandle, (hoffers hms).trans (if_neg hid).symm⟩

end Handling

/-! ## Runs -/

/-- **Both counters of commands miss the frames without a command, and nothing else.**  Take any router that has come
about, and any frames for its sessions among other things that happen.  The frames that were handled are counted, and
the failures that were reported, but for the frames that make no command; so the counters agree with what the clients
are told exactly if every frame made one.  A client is sent one report for each frame of its own that failed, made or
not, and nobody else is sent any. -/
theorem commands_counted (ids : Generator) (queue : QueueConfig) (steps : List Step) (tasks : List Task) :
    let r₀ := (new ids queue).run steps
    let r := r₀.attendAll tasks
    let log := handledAll tasks r₀
    r.stats.commands + unreadable log = r₀.stats.commands + log.length ∧
    r.stats.commandFailures + unreadable log = r₀.stats.commandFailures + (reports log).length ∧
    (r.stats.commands = r₀.stats.commands + log.length ∧
      r.stats.commandFailures = r₀.stats.commandFailures + (reports log).length ↔ unreadable log = 0) ∧
    ∀ before handler now i p after, tasks = before ++ .frame handler now i p :: after →
      let q := r₀.attendAll before
      (q.registry.handle? i).isSome = true → ∀ id, ∃ ms : List Session.Move,
        (q.handle handler now i p).2.registry.handle? id = (q.registry.handle? id).map (ms.foldl Session.move) ∧
        ms.filter (·.isReport) = if id = i then
          ((Handled.mk p (q.handle handler now i p).1).report?.map (.push now.ticks)).toList else [] := by
  intro r₀ r log
  obtain ⟨hcommands, hfailures⟩ := counts_attendAll tasks r₀
  have hcommands : r.stats.commands + unreadable log = r₀.stats.commands + log.length := hcommands
  have hfailures : r.stats.commandFailures + unreadable log = r₀.stats.commandFailures + (reports log).length :=
    hfailures
  refine ⟨hcommands, hfailures, by omega, ?_⟩
  rintro before handler now i p after - q hi id
  have hq : q.registry.Consistent :=
    consistent_attendAll before (consistent_run steps (Registry.consistent_new ids queue))
  obtain ⟨s, hs⟩ := Option.isSome_iff_exists.1 hi
  exact handle_reports hq handler now hs p id

/-- A Subscribe for a scope of no known kind is answered with an error, and counted neither as a command nor as a
failure. -/
theorem unreadable_uncounted :
    let r₀ := (new ⟨1, 0, 0⟩ ⟨256, 64, .dropOldest 64 3600000⟩).run
      [.create ⟨0, 0⟩ ⟨1, .json, ⟨2, 0⟩⟩ ⟨⟨7⟩, "t"⟩ .all]
    let tasks := [Task.frame (LocalChannels.handler ⟨[]⟩) ⟨0, 0⟩ ⟨4097⟩ (.subscribe "guild:1" 0)]
    let r := r₀.attendAll tasks
    let log := handledAll tasks r₀
    log.map (·.payload.role) = [.command] ∧
      (r.registry.handle? ⟨4097⟩).map (·.queue.items) =
        some [.error "INVALID_SCOPE" "Invalid scope: unknown scope kind `guild`" "subscribe"] ∧
      reports log = [.error "INVALID_SCOPE" "Invalid scope: unknown scope kind `guild`" "subscribe"] ∧
      r.stats.commands = 0 ∧ r.stats.commandFailures = 0 := by
  decide +kernel

end Router
end EventGateway
