import EventGateway.Config.Environment
import EventGateway.Json.Render
import EventGateway.Logging.Filter
/-!
# The console

Notes are printed one to a line.  How they look depends on where the gateway runs, and which of them are shown may be
overridden by a variable.
-/
namespace EventGateway

structure Logging where
  /-- What is shown unless a filter is given. -/
  level : Level
  json : Bool
  /-- Whether the beginning and the end of a span of work are printed too. -/
  spanEvents : Bool
  fileLine : Bool
  threadNames : Bool
  threadIds : Bool
deriving DecidableEq, Repr

/-- What there may be to print. -/
inductive LogEvent where
  | spanOpened (level : Level)
  | spanClosed (level : Level)
  | note (n : Note)
deriving DecidableEq, Repr

/-- A line as it is printed: its details only where the format is JSON. -/
structure LogLine where
  json : Bool
  level : Level
  message : String
  details : Option (List (String × Detail))
  place : Bool
  thread : Bool
deriving DecidableEq, Repr

namespace Logging

def standard : Logging := ⟨.info, false, false, true, false, false⟩

def ofEnvironment : Environment → Logging
  | .development => ⟨.debug, false, true, true, true, false⟩
  | .staging => standard
  | .production => ⟨.info, true, false, false, false, false⟩

/-- A filter that makes no sense is as good as none. -/
def filter (l : Logging) (given : Option String) : LogFilter := (given.bind LogFilter.parse?).getD (.upTo l.level)

def line (l : Logging) (level : Level) (message : String) (details : List (String × Detail)) : LogLine :=
  ⟨l.json, level, message, if l.json then some details else none, l.fileLine, l.threadNames⟩

/-- The line for an event, if one is printed. -/
def line? (l : Logging) (filter : LogFilter) (target : String) : LogEvent → Option LogLine
  | .spanOpened level =>
    if l.spanEvents && filter.shows ⟨target, none⟩ level then some (l.line level "new" []) else none
  | .spanClosed level =>
    if l.spanEvents && filter.shows ⟨target, none⟩ level then some (l.line level "close" []) else none
  | .note n =>
    if filter.shows ⟨target, some n.fields⟩ n.level then some (l.line n.level n.message n.details) else none

end Logging

def Detail.json : Detail → Json
  | text s => .str s
  | number n => .nat n

namespace LogLine

/-- The details of a line, the message among them. -/
def fields (l : LogLine) : Option Json :=
  l.details.map (fun ds => .ofFields (("message", .str l.message) :: ds.map (fun d => (d.1, d.2.json))))

/-- How a line is printed. -/
def text (l : LogLine) : String :=
  match l.fields with
  | some fields => (Json.ofFields [("level", .str l.level.text), ("fields", fields)]).render
  | none => l.level.text ++ " " ++ l.message

end LogLine

/-! ## Installing -/

/-- The one place where notes go; there can be no second one. -/
structure Console where
  installed : Option Logging
deriving DecidableEq, Repr

inductive ConsoleError where
  | alreadyInstalled
deriving DecidableEq, Repr

def ConsoleError.message : ConsoleError → String
  | alreadyInstalled => "Tracing subscriber already initialized"

def Console.install (l : Logging) (c : Console) : Except ConsoleError Console :=
  match c.installed with
  | some _ => .error .alreadyInstalled
  | none => .ok ⟨some l⟩

end EventGateway
