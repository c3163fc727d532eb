import ChatBot.Duration

/-!
# Tickers

The clock of one scheduled action.  Ticks are due one period apart, to the
nanosecond, and are taken at whole milliseconds.  A tick is taken once it is due
and the run before it has ended.  A tick that is taken more than five
milliseconds late moves the next one to a full period from now, so that missed
ticks are not made up for.
-/

namespace ChatBot

/-- The clock of one scheduled action: its period and the moment at which the
next tick is due, in nanoseconds; the moment at which the latest run ends, in
milliseconds; and the number of runs so far. -/
structure Ticker where
  period : Nat
  due : Nat
  freeAt : Nat
  runs : Nat
  period_pos : 0 < period

namespace Ticker

/-- How late a tick may be taken, in nanoseconds, without moving the next one. -/
def leeway : Nat := 5000000

/-- A ticker that is started at a moment; its first tick is due one period
later. -/
def start (now : Nat) (period : Duration) (positive : 0 < period.nanoseconds) : Ticker where
  period := period.nanoseconds
  due := now * 1000000 + period.nanoseconds
  freeAt := now
  runs := 0
  period_pos := positive

/-- The millisecond at which the next tick is taken. -/
def nextRun (ticker : Ticker) : Nat :=
  max ((ticker.due + 999999) / 1000000) ticker.freeAt

/-- When the tick after the next one is due. -/
def dueAfter (ticker : Ticker) : Nat :=
  if ticker.nextRun * 1000000 ≤ ticker.due + leeway then ticker.due + ticker.period
  else ticker.nextRun * 1000000 + ticker.period

/-- Takes the next tick.  The run that it starts takes so many milliseconds,
counted run by run. -/
def take (takes : Nat → Nat) (ticker : Ticker) : Ticker where
  period := ticker.period
  due := ticker.dueAfter
  freeAt := ticker.nextRun + takes ticker.runs
  runs := ticker.runs + 1
  period_pos := ticker.period_pos

/-- Each tick is due later than the one before. -/
theorem due_lt_dueAfter (ticker : Ticker) : ticker.due < ticker.dueAfter := by
  have positive := ticker.period_pos
  unfold dueAfter
  split <;> omega

/-- A tick is not taken before it is due. -/
theorem due_le_nextRun (ticker : Ticker) : ticker.due ≤ ticker.nextRun * 1000000 := by
  unfold nextRun
  omega

/-- The nanoseconds from the next tick to the end of a limit. -/
def timeLeft (limit : Nat) (ticker : Ticker) : Nat :=
  limit * 1000000 + 1 - ticker.due

/-- The time that is left shrinks with every tick. -/
theorem timeLeft_take_lt (takes : Nat → Nat) (limit : Nat) (ticker : Ticker)
    (inTime : ticker.nextRun ≤ limit) :
    (ticker.take takes).timeLeft limit < ticker.timeLeft limit := by
  have later : ticker.due < (ticker.take takes).due := ticker.due_lt_dueAfter
  have taken := ticker.due_le_nextRun
  unfold timeLeft
  omega

/-- The starts of the runs up to a moment. -/
def runsUpTo (takes : Nat → Nat) (limit : Nat) (ticker : Ticker) : List Nat :=
  if ticker.nextRun ≤ limit then
    ticker.nextRun :: (ticker.take takes).runsUpTo takes limit
  else []
termination_by ticker.timeLeft limit
decreasing_by exact timeLeft_take_lt takes limit ticker ‹_›

/-- The ticker after the runs up to a moment. -/
def after (takes : Nat → Nat) (limit : Nat) (ticker : Ticker) : Ticker :=
  if ticker.nextRun ≤ limit then (ticker.take takes).after takes limit else ticker
termination_by ticker.timeLeft limit
decreasing_by exact timeLeft_take_lt takes limit ticker ‹_›

end Ticker

end ChatBot
