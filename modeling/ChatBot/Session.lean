import ChatBot.Bot
import ChatBot.EventLoop
import ChatBot.Help
import ChatBot.Scheduler

/-!
# Sessions

A bot at work: the event loop and the scheduler, side by side.  Events reach the
loop through a channel of limited capacity.  When the loop has ended, the
scheduler is shut down, and the session has stopped once all runs in progress are
completed.  Until then the channel stays open, and events wait in it; who sends more
than it holds waits for the session to stop.  Otherwise time stands still while events
are handled.
-/

namespace ChatBot

/-- How many events the channel holds that the loop has not taken yet. -/
def channelCapacity : Nat := 16

/-- What does not change during a session. -/
structure Session (δ : Type) where
  loop : EventLoop δ

/-- How far a session has come: running, waiting for the runs in progress until a
given millisecond with so many events in the channel, or stopped. -/
inductive SessionStage where
  | running
  | stopping (ending : Ending) (stopTime waiting : Nat)
  | stopped (ending : Ending)
  deriving DecidableEq, Repr

/-- What changes during a session. -/
structure SessionState (δ : Type) where
  loop : LoopState δ
  scheduler : Scheduler
  stage : SessionStage

/-- What can happen to a session from outside: events that are sent back to back,
the passing of so many milliseconds, or a change on the platform. -/
inductive SessionStep (δ : Type) where
  | events (events : List Event)
  | advance (milliseconds : Nat)
  | adjust (change : δ → δ)

/-- What became of something that happened to a session. -/
inductive Delivery where
  | ok
  | closed
  | stopped
  deriving DecidableEq, Repr

namespace Delivery

def name : Delivery → String
  | ok => "ok"
  | closed => "closed"
  | stopped => "stopped"

end Delivery

namespace Event

def endsLoop : Event → Bool
  | invalidCredentials | termination => true
  | _ => false

/-- Whether some of the events that are sent back to back can no longer be sent
when the first that ends the loop is taken and the channel is closed at once.  The
loop takes events whenever the channel is full. -/
def overflow (events : List Event) : Bool :=
  (events.findIdx endsLoop / channelCapacity + 1) * channelCapacity < events.length

/-- How many of the events that are sent back to back come after the first that ends the
loop. -/
def afterEnding (events : List Event) : Nat :=
  events.length - (events.findIdx endsLoop + 1)

end Event

variable {δ : Type}

namespace SessionState

/-- The time on the clock of a session, in milliseconds. -/
def now (state : SessionState δ) : Nat :=
  state.scheduler.now

def isStopped (state : SessionState δ) : Bool :=
  match state.stage with
  | .stopped _ => true
  | .running | .stopping _ _ _ => false

/-- What becomes of something that sends no event. -/
def delivery (state : SessionState δ) : Delivery :=
  if state.isStopped then .stopped else .ok

/-- How a session has ended, or is about to. -/
def ending? (state : SessionState δ) : Option Ending :=
  match state.stage with
  | .running => none
  | .stopping ending _ _ | .stopped ending => some ending

def mapDriver (change : δ → δ) (state : SessionState δ) : SessionState δ :=
  { state with loop := state.loop.mapDriver change }

/-- The state with another state of the chat driver. -/
def withDriver (state : SessionState δ) (driver : δ) : SessionState δ :=
  state.mapDriver fun _ => driver

def finish (state : SessionState δ) (ending : Ending) : SessionState δ × List Moment :=
  ({ state with stage := .stopped ending },
    [⟨state.now, LoopReport.entry (.stopped state.loop.phase)⟩])

/-- Shuts the scheduler down after the loop has ended. -/
def stop (state : SessionState δ) (ending : Ending) : SessionState δ × List Moment :=
  let scheduler := state.scheduler.shutdown
  if scheduler.now ≤ state.now then { state with scheduler }.finish ending
  else
    ({ state with
        stage := .stopping ending scheduler.now 0
        scheduler := state.scheduler.abandon }, [])

def atTime (state : SessionState δ) (time : Nat) : SessionState δ :=
  { state with scheduler := { state.scheduler with now := time } }

/-- Sends so many events to a loop that has ended.  When the channel cannot hold them,
the sender waits until the session stops. -/
def enqueue (state : SessionState δ) (count : Nat) :
    SessionState δ × List Moment × Delivery :=
  match state.stage with
  | .stopping ending stopTime waiting =>
    if waiting + count ≤ channelCapacity then
      ({ state with stage := .stopping ending stopTime (waiting + count) }, [], .ok)
    else
      let (state, moments) := (state.atTime stopTime).finish ending
      (state, moments, .closed)
  | .running | .stopped _ => (state, [], state.delivery)

/-- Closes the source of events and waits until the session has stopped. -/
def close (state : SessionState δ) : SessionState δ × List Moment :=
  match state.stage with
  | .stopped _ => (state, [])
  | .stopping ending stopTime _ => (state.atTime stopTime).finish ending
  | .running =>
    let (stopping, moments) := state.stop .sourceClosed
    let moments := ⟨state.now, LoopReport.entry .sourceClosed⟩ :: moments
    match stopping.stage with
    | .stopping ending stopTime _ =>
      let (state, last) := (stopping.atTime stopTime).finish ending
      (state, moments ++ last)
    | .running | .stopped _ => (stopping, moments)

end SessionState

namespace Session

/-- The registry that a bot works with: that of its plugins, and the help if it is
wanted. -/
def registryOf (bot : Bot) : Registry × List LogEvent :=
  if bot.config.helpEnabled then
    bot.registry.register (Help.plugin bot.config.name bot.registry.infos)
  else (bot.registry, [])

def started (registry : Registry) (scheduler : Scheduler) : LogEvent :=
  ⟨.info, "Event loop started", [
    ("commands", toString registry.commands.length),
    ("hear_actions", toString registry.hearActions.length),
    ("scheduled_actions", toString scheduler.size)]⟩

def start (bot : Bot) (platform : ChatDriver δ) (users : UserFinder)
    (identities : IdentityFinder) (driver : δ) : Session δ × SessionState δ × List LogEvent :=
  let (registry, registered) := registryOf bot
  let scheduler := Scheduler.start 0 registry.scheduledActions
  let dispatcher : Dispatcher δ :=
    { registry, settings := bot.config.replySettings, driver := platform, users }
  (⟨⟨dispatcher, identities⟩⟩,
    ⟨.initial bot.responseCapacity bot.userCapacity driver, scheduler, .running⟩,
    registered ++ (scheduler.startReports registry.scheduledActions).map (·.event) ++
      [started registry scheduler])

variable (session : Session δ)

def platform : ChatDriver δ :=
  session.loop.dispatcher.driver

def deliver (state : SessionState δ) (events : List Event) :
    SessionState δ × List Moment × Delivery :=
  match state.stage with
  | .stopped _ => (state, [], if events.isEmpty then .stopped else .closed)
  | .stopping _ _ _ => state.enqueue events.length
  | .running =>
    let (loop, entries, ending) := session.loop.takeAll state.loop events
    let moments := Moment.allAt state.now entries
    let state := { state with loop }
    match ending with
    | none => (state, moments, .ok)
    | some ending =>
      let (state, last) := state.stop ending
      if state.isStopped && Event.overflow events then (state, moments ++ last, .closed)
      else
        let (state, more, delivery) := state.enqueue (Event.afterEnding events)
        (state, moments ++ last ++ more, delivery)

def advance (state : SessionState δ) (milliseconds : Nat) : SessionState δ × List Moment :=
  let (scheduler, driver, moments) :=
    state.scheduler.advance session.platform (state.now + milliseconds) state.loop.desk.driver
  let state := { state.withDriver driver with scheduler }
  match state.stage with
  | .running | .stopped _ => (state, moments)
  | .stopping ending stopTime _ =>
    if stopTime ≤ state.now then
      let (state, last) := state.finish ending
      (state, moments ++ last)
    else (state, moments)

def take (state : SessionState δ) : SessionStep δ → SessionState δ × List Moment × Delivery
  | .events events => session.deliver state events
  | .advance milliseconds =>
    let (state, moments) := session.advance state milliseconds
    (state, moments, state.delivery)
  | .adjust change =>
    let state := state.mapDriver change
    (state, [], state.delivery)

def takeAll (state : SessionState δ) : List (SessionStep δ) → SessionState δ × List Moment
  | [] => (state, [])
  | step :: rest =>
    let (state, moments, _) := session.take state step
    let (state, others) := takeAll state rest
    (state, moments ++ others)

end Session

end ChatBot
