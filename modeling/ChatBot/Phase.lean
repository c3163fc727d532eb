/-!
# Phases of the event loop

The loop starts disconnected, is connected once the bot knows who it is,
processing once it has taken up a message, and terminated at its end.  Phases
only ever move forward.
-/

namespace ChatBot

/-- How far the event loop has come. -/
inductive Phase where
  | disconnected
  | connected
  | processing
  | terminated
  deriving DecidableEq, Inhabited, Repr

namespace Phase

/-- The phase after the bot has learnt who it is. -/
def connect : Phase → Phase
  | disconnected => connected
  | phase => phase

/-- The phase after a message was taken up. -/
def process : Phase → Phase
  | connected => processing
  | phase => phase

def acceptsMessages : Phase → Bool
  | connected | processing => true
  | disconnected | terminated => false

def isTerminated (phase : Phase) : Bool :=
  phase = terminated

def name : Phase → String
  | disconnected => "disconnected"
  | connected => "connected"
  | processing => "processing"
  | terminated => "terminated"

end Phase

end ChatBot
