import LivePreview.Error
/-!
# Channels

Every long-lived part of a preview takes its messages over a channel. When the part has ended
nothing can be sent any more.
-/

namespace LivePreview

/-- The channels of a preview. -/
inductive Channel where
  | worker
  | coordinator
  | realm
  | session
deriving DecidableEq, Repr

namespace Channel

def name : Channel → String
  | worker => "css-worker"
  | coordinator => "orchestrator"
  | realm => "realm"
  | session => "session"

/-- Why nothing can be sent over a channel whose part has ended. -/
def closed (c : Channel) : PreviewError := .channelClosed c.name

end Channel

end LivePreview
