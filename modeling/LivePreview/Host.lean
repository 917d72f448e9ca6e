import LivePreview.Console.Log
import LivePreview.Message.Payload
import LivePreview.Transpile
/-!
# The host's side of the realm

The host holds payloads back until the realm is ready, and keeps the last payload of each kind so
that a realm that was loaded again can be brought up to date. The status of the preview is read off
what came of the last transformation and of the last module that was shown.
-/

namespace LivePreview

/-- The state of a preview as it is shown. -/
inductive Status where
  | idle
  | compiling
  | ready
  | error
deriving DecidableEq, Repr

namespace Status

def name : Status → String
  | idle => "idle"
  | compiling => "compiling"
  | ready => "ready"
  | error => "error"

def all : List Status := [idle, compiling, ready, error]

def ofName? (s : String) : Option Status := all.find? fun m => m.name = s

def toJson (s : Status) : Json := .str s.name

def ofJson? (j : Json) : Option Status := (Json.caseName? j).bind ofName?

end Status

/-- What is mounted in the realm. -/
inductive Mount where
  | code (text : String)
  | clear
deriving DecidableEq, Repr

/-- The last payload of each kind; a module and its removal are of one kind. -/
structure LatestPayloads where
  scheme : Option ColorScheme
  themeStyles : Option String
  utilityStyles : Option String
  mount : Option Mount
deriving DecidableEq, Repr

namespace LatestPayloads

def empty : LatestPayloads := ⟨none, none, none, none⟩

/-- Keeps a payload. -/
def record (l : LatestPayloads) : Payload → LatestPayloads
  | .scheme value => { l with scheme := some value }
  | .themeStyles css => { l with themeStyles := some css }
  | .utilityStyles css => { l with utilityStyles := some css }
  | .code text => { l with mount := some (.code text) }
  | .clear => { l with mount := some .clear }

/-- The payload of a mount. -/
def mountPayload : Mount → Payload
  | .code text => .code text
  | .clear => .clear

/-- The payloads that bring a new realm up to date, styles first. -/
def replay (l : LatestPayloads) : List Payload :=
  (l.scheme.map .scheme).toList ++ (l.themeStyles.map .themeStyles).toList ++
    (l.utilityStyles.map .utilityStyles).toList ++ (l.mount.map mountPayload).toList

end LatestPayloads

/-- What the host knows. -/
structure Host where
  realmReady : Bool
  latest : LatestPayloads
  compiling : Bool
  /-- A module was posted that the realm has not reported on. -/
  awaitingRender : Bool
  rendered : Bool
  compileError : Option SourceError
  failure : Option Failure
  console : ConsoleLog
deriving DecidableEq, Repr

namespace Host

/-- A host that has not heard of its realm. -/
def start (consoleCapacity : Nat) : Host :=
  { realmReady := false
    latest := LatestPayloads.empty
    compiling := false
    awaitingRender := false
    rendered := false
    compileError := none
    failure := none
    console := ConsoleLog.empty consoleCapacity }

/-- Posts a payload; it is delivered if the realm is ready. -/
def post (h : Host) (p : Payload) : Host × List Payload :=
  ({ h with latest := h.latest.record p }, if h.realmReady then [p] else [])

/-- The realm is being loaded again. -/
def reload (h : Host) : Host := { h with realmReady := false, awaitingRender := false }

/-- A transformation starts. -/
def beginCompile (h : Host) : Host := { h with compiling := true }

/-- A transformation has produced a module, which is posted. -/
def compiled (h : Host) (code : String) : Host × List Payload :=
  { h with compiling := false, compileError := none, failure := none, awaitingRender := true }.post
    (.code code)

/-- A transformation has failed; what is shown stays. -/
def compileFailed (h : Host) (e : SourceError) : Host :=
  { h with compiling := false, compileError := some e }

/-- There is nothing to show any more. -/
def clear (h : Host) : Host × List Payload :=
  { h with
    compiling := false
    awaitingRender := false
    rendered := false
    compileError := none
    failure := none }.post .clear

/-- Whether a payload is a module. -/
def isCode : Payload → Bool
  | .code _ => true
  | _ => false

/-- Takes a report of the realm; what is delivered in response comes with it. -/
def receive (h : Host) : Report → Host × List Payload
  | .ready =>
    let flush := h.latest.replay
    ({ h with realmReady := true, awaitingRender := flush.any isCode }, flush)
  | .rendered => ({ h with awaitingRender := false, rendered := true }, [])
  | .failed f =>
    ({ h with
       awaitingRender := false
       failure := some { f with stack := f.stack.filter (· ≠ "") } }, [])
  | .logged method args => ({ h with console := h.console.push method args }, [])

/-- Empties the console. -/
def clearConsole (h : Host) : Host := { h with console := h.console.clear }

/-- The state of the preview. -/
def status (h : Host) : Status :=
  if h.compileError.isSome || h.failure.isSome then .error
  else if h.compiling || h.awaitingRender then .compiling
  else if h.rendered then .ready
  else .idle

end Host

end LivePreview
