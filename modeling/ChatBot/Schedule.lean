import ChatBot.Duration

/-!
# Schedules

When a scheduled action runs.  The text of a schedule counts whole seconds in
the largest of days, hours, minutes and seconds that divides them, or whole
milliseconds when there is no whole second.
-/

namespace ChatBot

/-- When a scheduled action runs. -/
inductive Schedule where
  | every (period : Duration)
  deriving DecidableEq, Repr

namespace Schedule

/-- The time from one run to the next. -/
def period : Schedule → Duration
  | every period => period

def periodText (period : Duration) : String :=
  let seconds := period.seconds
  if seconds = 0 then toString period.milliseconds ++ "ms"
  else if seconds % 86400 = 0 then toString (seconds / 86400) ++ "d"
  else if seconds % 3600 = 0 then toString (seconds / 3600) ++ "h"
  else if seconds % 60 = 0 then toString (seconds / 60) ++ "m"
  else toString seconds ++ "s"

/-- The text of a schedule, as listings show it. -/
def text (schedule : Schedule) : String :=
  "every " ++ periodText schedule.period

/-- The exact text of a schedule, as diagnostics show it. -/
def exactText (schedule : Schedule) : String :=
  "Every(" ++ schedule.period.text ++ ")"

end Schedule

end ChatBot
