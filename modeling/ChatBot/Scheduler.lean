import ChatBot.Registry
import ChatBot.Ticker

/-!
# The scheduler

Runs scheduled actions, each by a ticker of its own.  Actions with a period of
zero are left out.  Runs of different actions are made in the order of their
starts.  When the scheduler is shut down, runs in progress are completed.
-/

namespace ChatBot

/-- A scheduled action with its ticker. -/
structure ScheduledTask where
  action : ScheduledAction
  ticker : Ticker

/-- The tasks of the scheduler and its clock, in milliseconds. -/
structure Scheduler where
  now : Nat
  tasks : List ScheduledTask

/-- The reports of the scheduler. -/
inductive SchedulerReport where
  | skipped (plugin : String)
  | started (tasks : Nat)
  | running

namespace SchedulerReport

def event : SchedulerReport → LogEvent
  | skipped plugin =>
    ⟨.warn, "Skipping scheduled action with a zero period", [("plugin", plugin)]⟩
  | started tasks => ⟨.debug, "Scheduler started", [("tasks", toString tasks)]⟩
  | running => ⟨.debug, "Running scheduled action", []⟩

def entry (report : SchedulerReport) : Entry :=
  .log report.event

end SchedulerReport

/-- Something that the bot did, with the millisecond at which it was done. -/
structure Moment where
  time : Nat
  entry : Entry

namespace Moment

/-- Entries that are all made at one time. -/
def allAt (time : Nat) (entries : List Entry) : List Moment :=
  entries.map (⟨time, ·⟩)

end Moment

/-- A run of an action that is to start at a given millisecond. -/
structure PlannedRun where
  start : Nat
  action : ScheduledAction

namespace PlannedRun

def inOrder (runs : List PlannedRun) : List PlannedRun :=
  runs.mergeSort fun first second => first.start ≤ second.start

variable {δ : Type}

def makeAll (driver : ChatDriver δ) : List PlannedRun → δ → δ × List Moment
  | [], state => (state, [])
  | run :: rest, state =>
    let (state, entries) := run.action.run driver state
    let (state, moments) := makeAll driver rest state
    (state, Moment.allAt run.start (SchedulerReport.entry .running :: entries) ++ moments)

end PlannedRun

namespace ScheduledTask

/-- The task of an action that is started at a moment, if its period is not
zero. -/
def start? (now : Nat) (action : ScheduledAction) : Option ScheduledTask :=
  if positive : 0 < action.schedule.period.nanoseconds then
    some ⟨action, .start now action.schedule.period positive⟩
  else none

/-- The runs of a task up to a moment. -/
def runsUpTo (limit : Nat) (task : ScheduledTask) : List PlannedRun :=
  (task.ticker.runsUpTo task.action.takes limit).map (⟨·, task.action⟩)

/-- The task after its runs up to a moment. -/
def after (limit : Nat) (task : ScheduledTask) : ScheduledTask :=
  { task with ticker := task.ticker.after task.action.takes limit }

end ScheduledTask

namespace Scheduler

/-- Starts a task for every action with a period. -/
def start (now : Nat) (actions : List (Registered ScheduledAction)) : Scheduler where
  now := now
  tasks := actions.filterMap fun registered => ScheduledTask.start? now registered.action

/-- What is reported when actions are started: the actions that are left out, then
the number of tasks. -/
def startReports (scheduler : Scheduler) (actions : List (Registered ScheduledAction)) :
    List SchedulerReport :=
  (actions.filter (·.action.schedule.period.nanoseconds = 0)).map (.skipped ·.plugin) ++
    [.started scheduler.tasks.length]

def size (scheduler : Scheduler) : Nat :=
  scheduler.tasks.length

/-- The runs of all tasks up to a moment, in the order of their starts. -/
def runsUpTo (scheduler : Scheduler) (limit : Nat) : List PlannedRun :=
  PlannedRun.inOrder (scheduler.tasks.flatMap (·.runsUpTo limit))

/-- The scheduler after the runs up to a moment. -/
def after (scheduler : Scheduler) (limit : Nat) : Scheduler where
  now := limit
  tasks := scheduler.tasks.map (·.after limit)

/-- The moment at which the last of the runs in progress ends. -/
def stopTime (scheduler : Scheduler) : Nat :=
  scheduler.tasks.foldl (fun latest task => max latest task.ticker.freeAt) scheduler.now

variable {δ : Type}

/-- Lets time pass up to a moment and makes the runs that start by then. -/
def advance (scheduler : Scheduler) (driver : ChatDriver δ) (limit : Nat) (state : δ) :
    Scheduler × δ × List Moment :=
  let (state, moments) := PlannedRun.makeAll driver (scheduler.runsUpTo limit) state
  (scheduler.after limit, state, moments)

/-- Tells all tasks to stop and waits for the runs in progress.  When its run ends, a task stops,
also if its next tick is due by then. -/
def shutdown (scheduler : Scheduler) : Scheduler :=
  ⟨scheduler.stopTime, []⟩

/-- Tells all tasks to stop without waiting for them. -/
def abandon (scheduler : Scheduler) : Scheduler :=
  { scheduler with tasks := [] }

end Scheduler

end ChatBot
