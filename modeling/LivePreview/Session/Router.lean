import LivePreview.Coordinator
import LivePreview.Host
import LivePreview.Realm.Basic
import LivePreview.Style.Client
import LivePreview.Style.Worker
/-!
# A preview session

A session joins the coordinator, the stylesheet worker with its client, the host and the realm. One
router handles what they say, one message at a time; every message leads to payloads for the realm
and requests for the worker. What is shown to observers is read off the router's state.
-/

namespace LivePreview.Session

/-- What the user asks a session for, besides edits. -/
inductive Command where
  | setScheme (value : ColorScheme)
  /-- The realm is being loaded again. -/
  | reload
  | clearConsole
deriving DecidableEq, Repr

/-- A message for the router. -/
inductive Message where
  | edit (event : EditEvent)
  | style (response : StyleResponse)
  | report (r : Report)
  | command (c : Command)
deriving DecidableEq, Repr

/-- What the router sends. -/
structure Sent where
  payloads : List Payload
  requests : List StyleRequest
deriving DecidableEq, Repr

namespace Sent

def nothing : Sent := ⟨[], []⟩

def ofPayloads (ps : List Payload) : Sent := ⟨ps, []⟩

def append (a b : Sent) : Sent := ⟨a.payloads ++ b.payloads, a.requests ++ b.requests⟩

end Sent

/-- The state of the router. -/
structure Router where
  host : Host
  styles : Style.StyleClient
  declaredImports : List String
  /-- There will be no stylesheet of utilities. -/
  unstyled : Bool
deriving DecidableEq, Repr

namespace Router

/-- Posts a payload. -/
def post (r : Router) (p : Payload) : Router × Sent :=
  let (host, payloads) := r.host.post p
  ({ r with host := host }, .ofPayloads payloads)

/-- Handles what is said about the source. -/
def onEdit (r : Router) : EditEvent → Router × Sent
  | .compiling => ({ r with host := r.host.beginCompile }, .nothing)
  | .compiled output =>
    let (styles, request) := r.styles.request output.classCandidates
    let (host, payloads) := r.host.compiled output.code
    ({ r with host := host, styles := styles, declaredImports := output.declaredImports },
     ⟨payloads, request.toList⟩)
  | .failed e => ({ r with host := r.host.compileFailed e }, .nothing)
  | .cleared =>
    let (host, payloads) := r.host.clear
    ({ r with host := host, declaredImports := [] }, .ofPayloads payloads)

/-- Handles a response of the worker. -/
def onStyle (r : Router) (response : StyleResponse) : Router × Sent :=
  let (styles, event) := r.styles.respond response
  let r := { r with styles := styles }
  match event with
  | .send request => (r, ⟨[], [request]⟩)
  | .apply css => r.post (.utilityStyles css)
  | .unstyled => { r with unstyled := true }.post (.utilityStyles "")
  | .failed _ => (r, .nothing)
  | .ignored => (r, .nothing)

/-- Handles a report of the realm. -/
def onReport (r : Router) (report : Report) : Router × Sent :=
  let (host, payloads) := r.host.receive report
  ({ r with host := host }, .ofPayloads payloads)

/-- Handles a command. -/
def onCommand (r : Router) : Command → Router × Sent
  | .setScheme value => r.post (.scheme value)
  | .reload => ({ r with host := r.host.reload }, .nothing)
  | .clearConsole => ({ r with host := r.host.clearConsole }, .nothing)

/-- Handles a message. -/
def handle (r : Router) : Message → Router × Sent
  | .edit event => r.onEdit event
  | .style response => r.onStyle response
  | .report report => r.onReport report
  | .command c => r.onCommand c

end Router

/-- What a session starts with. -/
structure Options where
  config : Config
  /-- The candidates that every stylesheet covers. -/
  baseline : List String
  themeStyles : Option String
  scheme : ColorScheme
deriving DecidableEq, Repr

/-- The router at the start; it has posted the scheme and the theme. -/
def Router.start (o : Options) : Router :=
  let r : Router :=
    ⟨Host.start o.config.consoleCapacity, Style.StyleClient.start o.baseline, [], false⟩
  let r := (r.post (.scheme o.scheme)).1
  match o.themeStyles with
  | some css => (r.post (.themeStyles css)).1
  | none => r

/-- What observers see. -/
structure Snapshot where
  status : Status
  compileError : Option SourceError
  failure : Option Failure
  console : List ConsoleEntry
  declaredImports : List String
  unstyled : Bool
deriving DecidableEq, Repr

/-- What observers of a router see. -/
def Router.snapshot (r : Router) : Snapshot :=
  { status := r.host.status
    compileError := r.host.compileError
    failure := r.host.failure
    console := r.host.console.entries
    declaredImports := r.declaredImports
    unstyled := r.unstyled }

end LivePreview.Session
