import LivePreview.Message.Styling
import LivePreview.Sequence
import LivePreview.Text.Order
/-!
# The worker's client

Every request is for the candidates of a source together with a baseline. A set that was asked for
last is not asked for again, a set that comes before the worker is ready is kept until it is, and of
the responses only those count that are newer than all before. If a request fails that was made
last, the same set may be asked for again.
-/

namespace LivePreview.Style

/-- What a response leads to. -/
inductive StyleEvent where
  /-- A request has to be sent. -/
  | send (request : StyleRequest)
  /-- There is a new stylesheet. -/
  | apply (css : String)
  /-- There will be no stylesheet. -/
  | unstyled
  /-- A request failed. -/
  | failed (message : String)
  | ignored
deriving DecidableEq, Repr

/-- The client's side of the worker. -/
structure StyleClient where
  /-- The candidates that every request has, ordered. -/
  baseline : List String
  ready : Bool
  /-- The worker failed to start. -/
  unavailable : Bool
  /-- The set to ask for when the worker is ready. -/
  held : Option (List String)
  /-- The set that was asked for last, unless that failed. -/
  lastSent : Option (List String)
  sequence : RequestSequence
  /-- The stylesheet applied last. -/
  current : Option String
deriving DecidableEq, Repr

namespace StyleClient

/-- A client that has not heard of its worker. -/
def start (baseline : List String) : StyleClient :=
  { baseline := Text.ordered baseline
    ready := false
    unavailable := false
    held := none
    lastSent := none
    sequence := RequestSequence.start
    current := none }

/-- The set to ask for: the baseline and the candidates, each once and in order. -/
def merged (c : StyleClient) (candidates : List String) : List String :=
  Text.ordered (c.baseline ++ candidates)

/-- Makes a request. -/
def issue (c : StyleClient) (key : List String) : StyleClient × StyleRequest :=
  let (sequence, id) := c.sequence.next
  ({ c with lastSent := some key, sequence := sequence }, ⟨key, id⟩)

/-- Asks for the stylesheet of a source's candidates. -/
def request (c : StyleClient) (candidates : List String) : StyleClient × Option StyleRequest :=
  let key := c.merged candidates
  if c.unavailable || key.isEmpty || c.lastSent == some key then (c, none)
  else if !c.ready then ({ c with held := some key }, none)
  else
    let (c, request) := c.issue key
    (c, some request)

/-- The worker is ready: the set that was held back is asked for. -/
def onReady (c : StyleClient) : StyleClient × StyleEvent :=
  let next := { c with ready := true, held := none }
  match c.held with
  | some key =>
    if c.lastSent == some key then (next, .ignored)
    else
      let (next, request) := next.issue key
      (next, .send request)
  | none => (next, .ignored)

/-- Takes a response. -/
def respond (c : StyleClient) : StyleResponse → StyleClient × StyleEvent
  | .ready => c.onReady
  | .css text id =>
    match c.sequence.accept? id with
    | some sequence => ({ c with sequence := sequence, current := some text }, .apply text)
    | none => (c, .ignored)
  | .failed _ none => ({ c with unavailable := true, held := none }, .unstyled)
  | .failed message (some id) =>
    (if c.sequence.isLatest id then { c with lastSent := none } else c, .failed message)

end StyleClient

end LivePreview.Style
