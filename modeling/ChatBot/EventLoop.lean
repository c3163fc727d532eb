import ChatBot.Dispatch
import ChatBot.Event
import ChatBot.Phase

/-!
# The event loop

Takes the platform's events one at a time.  The bot asks who it is when it
connects, until it is told.  From then on it dispatches messages, except its own
and the echoes of its replies.  Only two events end the loop: a request to
terminate and the refusal of the bot's credentials.  Whatever else fails, the
loop goes on.
-/

namespace ChatBot

/-- How a run of the event loop ends. -/
inductive Ending where
  | terminated
  | sourceClosed
  | invalidCredentials
  deriving DecidableEq, Repr

/-- What does not change while the loop runs. -/
structure EventLoop (δ : Type) where
  dispatcher : Dispatcher δ
  identities : IdentityFinder

/-- What changes while the loop runs. -/
structure LoopState (δ : Type) where
  phase : Phase
  identity : Option Identity
  connections : Nat
  identityLookups : Nat
  desk : Desk δ

/-- The reports of the event loop. -/
inductive LoopReport where
  | handling (event : Event) (phase : Phase)
  | latency (milliseconds : UInt64)
  | transportError (code : Int32) (message : String)
  | invalidCredentials
  | terminationRequested
  | sourceClosed
  | connection (count : Nat)
  | reconnected (me : Identity)
  | connected (me : Identity)
  | identityUnknown (error : ApiError)
  | tooEarly (channel : String)
  | echo (replyTo : UInt64)
  | ownMessage
  | ownEdit
  | stopped (phase : Phase)

namespace LoopReport

def event : LoopReport → LogEvent
  | handling event phase =>
    ⟨.trace, "Handling event", [("event", event.name), ("state", phase.name)]⟩
  | latency milliseconds =>
    ⟨.info, "Current latency: " ++ (Duration.ofMilliseconds milliseconds.toNat).text, []⟩
  | transportError code message =>
    ⟨.error, "Error: Code " ++ toString code.toInt ++ " - " ++ message, []⟩
  | invalidCredentials => ⟨.error, "Invalid credentials", []⟩
  | terminationRequested => ⟨.info, "Termination requested", []⟩
  | sourceClosed => ⟨.info, "Event source closed, shutting down", []⟩
  | connection count => ⟨.info, "Connection counter: " ++ toString count, []⟩
  | reconnected me => ⟨.debug, "Reconnected, keeping self identity", [("id", me.id)]⟩
  | connected me => ⟨.info, "Connected", [("id", me.id), ("name", me.name)]⟩
  | identityUnknown error =>
    ⟨.error, "Failed to resolve self identity", [("error", error.message)]⟩
  | tooEarly channel =>
    ⟨.warn, "Dropping message received before connecting", [("channel", channel)]⟩
  | echo replyTo =>
    ⟨.trace, "Ignoring echo of own message", [("reply_to", toString replyTo.toNat)]⟩
  | ownMessage => ⟨.trace, "Ignoring own message", []⟩
  | ownEdit => ⟨.trace, "Ignoring edit of own message", []⟩
  | stopped phase => ⟨.info, "Event loop stopped", [("state", phase.name)]⟩

def entry (report : LoopReport) : Entry :=
  .log report.event

end LoopReport

variable {δ : Type}

namespace LoopState

def initial (responseCapacity userCapacity : Nat) (driver : δ) : LoopState δ where
  phase := .disconnected
  identity := none
  connections := 0
  identityLookups := 0
  desk := ⟨.empty responseCapacity, .empty userCapacity, driver⟩

def mapDriver (change : δ → δ) (state : LoopState δ) : LoopState δ :=
  { state with desk := { state.desk with driver := change state.desk.driver } }

end LoopState

namespace EventLoop

variable (loop : EventLoop δ)

/-- Takes note of a connection, and asks who the bot is if that is not known. -/
def onConnected (state : LoopState δ) : LoopState δ × List Entry :=
  let state := { state with connections := state.connections + 1 }
  let counted := LoopReport.entry (.connection state.connections)
  match state.identity with
  | some me => (state, [counted, LoopReport.entry (.reconnected me)])
  | none =>
    let answer := loop.identities state.identityLookups
    let state := { state with identityLookups := state.identityLookups + 1 }
    match answer with
    | .ok me =>
      ({ state with identity := some me, phase := state.phase.connect },
        [counted, LoopReport.entry (.connected me)])
    | .error error => (state, [counted, LoopReport.entry (.identityUnknown error)])

/-- An edited message with the channel of its event, if it names none itself. -/
def editedMessage (event : MessageEvent) (edited : Message) : Message :=
  if edited.channel = "" then { edited with channel := event.channel } else edited

/-- Hands a message event over to the dispatcher, for a bot that knows who it
is. -/
def route (me : Identity) (state : LoopState δ) (event : MessageEvent) :
    LoopState δ × List Entry :=
  match event.change with
  | none =>
    if event.user = me.id then (state, [LoopReport.entry .ownMessage])
    else
      let (desk, entries) :=
        loop.dispatcher.handleNew state.desk (Envelope.of event.message me)
      ({ state with phase := state.phase.process, desk }, entries)
  | some (.changed edited) =>
    if edited.user = me.id then (state, [LoopReport.entry .ownEdit])
    else
      let (desk, entries) :=
        loop.dispatcher.handleEdited state.desk (Envelope.of (editedMessage event edited) me)
      ({ state with phase := state.phase.process, desk }, entries)
  | some (.deleted timestamp) =>
    let (desk, entries) :=
      loop.dispatcher.handleDeleted state.desk ⟨event.channel, timestamp⟩
    ({ state with phase := state.phase.process, desk }, entries)

/-- Takes up a message event, unless it comes too early or is an echo. -/
def onMessage (state : LoopState δ) (event : MessageEvent) : LoopState δ × List Entry :=
  match state.identity with
  | none => (state, [LoopReport.entry (.tooEarly event.channel)])
  | some me =>
    if !state.phase.acceptsMessages then
      (state, [LoopReport.entry (.tooEarly event.channel)])
    else if event.isReplyEcho then
      (state, [LoopReport.entry (.echo event.replyTo)])
    else loop.route me state event

/-- Takes one event.  Gives an ending when the event ends the loop. -/
def handle (state : LoopState δ) (event : Event) :
    LoopState δ × List Entry × Option Ending :=
  let taken := LoopReport.entry (.handling event state.phase)
  match event with
  | .connected =>
    let (state, entries) := loop.onConnected state
    (state, taken :: entries, none)
  | .message event =>
    let (state, entries) := loop.onMessage state event
    (state, taken :: entries, none)
  | .latencyReport milliseconds =>
    (state, [taken, LoopReport.entry (.latency milliseconds)], none)
  | .transportError code message =>
    (state, [taken, LoopReport.entry (.transportError code message)], none)
  | .invalidCredentials =>
    ({ state with phase := .terminated },
      [taken, LoopReport.entry .invalidCredentials], some .invalidCredentials)
  | .termination =>
    ({ state with phase := .terminated },
      [taken, LoopReport.entry .terminationRequested], some .terminated)

/-- Takes events up to the first that ends the loop. -/
def takeAll (state : LoopState δ) : List Event → LoopState δ × List Entry × Option Ending
  | [] => (state, [], none)
  | event :: rest =>
    match loop.handle state event with
    | (state, entries, some ending) => (state, entries, some ending)
    | (state, entries, none) =>
      let (state, others, ending) := takeAll state rest
      (state, entries ++ others, ending)

/-- Runs over all the events of a source, which is closed after the last. -/
def run (state : LoopState δ) (events : List Event) : LoopState δ × List Entry × Ending :=
  match loop.takeAll state events with
  | (state, entries, some ending) => (state, entries, ending)
  | (state, entries, none) =>
    (state, entries ++ [LoopReport.entry .sourceClosed], .sourceClosed)

end EventLoop

end ChatBot
