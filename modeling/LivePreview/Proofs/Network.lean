import LivePreview.Proofs.RealmHistory
import LivePreview.Session.Router
import LivePreview.Style.Compiler
/-!
# A session as a network

The parts of a session run side by side and talk through queues: events of the coordinator and
commands of the user to the router, requests and responses between the router and the stylesheet
worker, payloads and reports between the router and the realm. A `Step` takes one message from the
front of some queue, or is something that nobody waits for: an event, a command, a compiler that has
been loaded, a realm that is replaced by a new one or announces itself. Any order of steps is a run.

The compiler is loaded successfully and never fails. A realm that has not announced itself may miss
payloads.
-/
namespace LivePreview.Session

/-- The parts of a session, what is on its way between them, and what the realm shows. -/
structure Net where
  router : Router
  worker : Style.Worker
  realm : Realm
  /-- The realm has announced itself. -/
  listening : Bool
  /-- The stylesheet of the utilities that was delivered to the realm last. -/
  utilities : Option String
  events : List EditEvent
  commands : List Command
  requests : List StyleRequest
  responses : List StyleResponse
  payloads : List Payload
  reports : List Report
  /-- The events that the router has handled. -/
  handled : List EditEvent

namespace Net

/-- A session in which nothing has happened. -/
def start (o : Options) : Net :=
  { router := Router.start o
    worker := Style.Worker.start
    realm := Realm.start
    listening := false
    utilities := none
    events := []
    commands := []
    requests := []
    responses := []
    payloads := []
    reports := []
    handled := [] }

/-- The router handles a message, and what it sends is on its way. -/
def route (n : Net) (m : Message) : Net :=
  { n with
    router := (n.router.handle m).1
    requests := n.requests ++ (n.router.handle m).2.requests
    payloads := n.payloads ++ (n.router.handle m).2.payloads }

/-- The worker has done something, and its response is on its way. -/
def respond (n : Net) (moved : Style.Worker × StyleResponse) : Net :=
  { n with worker := moved.1, responses := n.responses ++ [moved.2] }

/-- The realm has done something, and its reports are on their way. -/
def act (n : Net) (moved : Realm × List Realm.Effect) : Net :=
  { n with
    realm := moved.1
    utilities := Realm.utilitiesAfter n.utilities moved.2
    reports := n.reports ++ Realm.reports moved.2 }

/-- A compiler that never fails. -/
def total (c : Style.Compiler) : Style.Outcome Style.Build :=
  .done fun key => .done (c.build key)

/-- One step of one part. -/
inductive Step (c : Style.Compiler) (n : Net) : Net → Prop
  | emit (e : EditEvent) : Step c n { n with events := n.events ++ [e] }
  | order (o : Command) : Step c n { n with commands := n.commands ++ [o] }
  | event (e : EditEvent) (rest : List EditEvent) : n.events = e :: rest →
      Step c n ({ n with events := rest, handled := n.handled ++ [e] }.route (.edit e))
  | command (o : Command) (rest : List Command) : n.commands = o :: rest →
      Step c n ({ n with commands := rest }.route (.command o))
  | response (r : StyleResponse) (rest : List StyleResponse) : n.responses = r :: rest →
      Step c n ({ n with responses := rest }.route (.style r))
  | report (r : Report) (rest : List Report) : n.reports = r :: rest →
      Step c n ({ n with reports := rest }.route (.report r))
  /-- The worker has loaded its compiler. -/
  | load : n.worker.starting = true → Step c n (n.respond (n.worker.load (total c)))
  | request (r : StyleRequest) (rest : List StyleRequest) : n.requests = r :: rest →
      Step c n ({ n with requests := rest }.respond (n.worker.answer r))
  | payload (s : Realm.Surroundings) (p : Payload) (rest : List Payload) : n.payloads = p :: rest →
      Step c n ({ n with payloads := rest }.act (n.realm.handle s (.payload p)))
  /-- A realm that has not announced itself misses a payload. -/
  | miss (p : Payload) (rest : List Payload) : n.listening = false → n.payloads = p :: rest →
      Step c n { n with payloads := rest }
  | console (s : Realm.Surroundings) (method : ConsoleMethod) (args : List ConsoleArgument) :
      Step c n (n.act (n.realm.handle s (.console method args)))
  | fault (s : Realm.Surroundings) (f : Failure) : Step c n (n.act (n.realm.handle s (.fault f)))
  /-- A new realm takes the place of the one before. -/
  | replace : Step c n { n with realm := Realm.start, listening := false, utilities := none }
  | announce : Step c n ({ n with listening := true }.act (n.realm, Realm.announcement))

/-- The states that are reached from the start. -/
inductive Reachable (c : Style.Compiler) (o : Options) : Net → Prop
  | start : Reachable c o (start o)
  | step {n n' : Net} : Reachable c o n → Step c n n' → Reachable c o n'

/-- Nothing is on its way. -/
structure Quiet (n : Net) : Prop where
  events : n.events = []
  commands : n.commands = []
  requests : n.requests = []
  responses : n.responses = []
  payloads : n.payloads = []
  reports : n.reports = []

/-- The set that an event asks for, with a baseline; an empty one is not asked for. -/
def demand? (baseline : List String) : EditEvent → Option (List String)
  | .compiled output =>
    if (baseline ++ output.classCandidates).isEmpty then none
    else some (baseline ++ output.classCandidates)
  | .compiling => none
  | .failed _ => none
  | .cleared => none

/-- The set that the last of some events asks for that asks for any. -/
def demanded (baseline : List String) (events : List EditEvent) : Option (List String) :=
  (events.filterMap (demand? baseline)).getLast?

end Net
end LivePreview.Session
