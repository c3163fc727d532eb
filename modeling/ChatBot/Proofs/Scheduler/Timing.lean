import ChatBot.Scheduler
import Mathlib.Algebra.GroupWithZero.Nat
import Mathlib.Data.List.Perm.Basic
import Mathlib.Data.Nat.Init
import Mathlib.Logic.Function.Iterate

/-!
# When scheduled actions run

The runs of an action are told by the ticks of its ticker alone, however time passes and whatever
other actions there are.  What carries the bounds is not when runs start but when ticks are due:
each tick is due at least a period after the one before.  A run may start late, when the one before
it takes long, but then the next tick is put off as well.
-/

namespace ChatBot

/-! ## The ticks of one ticker -/

namespace Ticker

/-- No tick is left to be taken up to a moment. -/
def Settled (now : Nat) (ticker : Ticker) : Prop :=
  now < ticker.nextRun

theorem settled_start (now : Nat) (period : Duration) (positive : 0 < period.nanoseconds) :
    (start now period positive).Settled now := by
  simp only [Settled, nextRun, start]
  omega

theorem settled_after (takes : Nat → Nat) (limit : Nat) (ticker : Ticker) :
    (ticker.after takes limit).Settled limit := by
  fun_induction after takes limit ticker with
  | case1 ticker _ ih => exact ih
  | case2 ticker late => exact Nat.lt_of_not_le late

theorem freeAt_le_nextRun (ticker : Ticker) : ticker.freeAt ≤ ticker.nextRun :=
  Nat.le_max_right _ _

section Runs

variable (takes : Nat → Nat) (ticker : Ticker)

theorem period_take : (ticker.take takes).period = ticker.period := by
  -- Not by `rfl`, which compares the two tickers field by field.
  rw [take]

theorem due_take : (ticker.take takes).due = ticker.dueAfter :=
  rfl

theorem freeAt_take : (ticker.take takes).freeAt = ticker.nextRun + takes ticker.runs :=
  rfl

theorem runs_take : (ticker.take takes).runs = ticker.runs + 1 :=
  rfl

/-- The start of a run, where the runs from here on are counted from zero. -/
def startOf (number : Nat) : Nat :=
  ((take takes)^[number] ticker).nextRun

theorem startOf_succ (number : Nat) :
    ticker.startOf takes (number + 1) = (ticker.take takes).startOf takes number := by
  rw [startOf, Function.iterate_succ_apply, startOf]

theorem startOf_succ' (number : Nat) :
    ticker.startOf takes (number + 1) = (((take takes)^[number] ticker).take takes).nextRun := by
  rw [startOf, Function.iterate_succ_apply']

theorem period_iterate (number : Nat) :
    ((take takes)^[number] ticker).period = ticker.period := by
  induction number with
  | zero => rfl
  | succ number ih => rw [Function.iterate_succ_apply', period_take, ih]

theorem runs_iterate (number : Nat) :
    ((take takes)^[number] ticker).runs = ticker.runs + number := by
  induction number with
  | zero => rfl
  | succ number ih => rw [Function.iterate_succ_apply', runs_take, ih, Nat.add_assoc]

/-! ### What one tick does -/

theorem leeway_eq : leeway = 5 * 1000000 :=
  rfl

/-- A run is over before the next one starts. -/
theorem nextRun_add_takes_le :
    ticker.nextRun + takes ticker.runs ≤ (ticker.take takes).nextRun := by
  rw [← freeAt_take]
  exact freeAt_le_nextRun _

theorem due_add_period_le : ticker.due + ticker.period ≤ ticker.dueAfter := by
  have taken := ticker.due_le_nextRun
  unfold dueAfter
  split <;> omega

theorem nextRun_add_period_le_dueAfter :
    ticker.nextRun * 1000000 + ticker.period ≤ ticker.dueAfter + leeway := by
  unfold dueAfter
  split
  · next early =>
      rw [Nat.add_right_comm]
      exact Nat.add_le_add_right early _
  · exact Nat.le_add_right _ _

/-- Runs start a period apart, but for the leeway. -/
theorem nextRun_add_period_le :
    ticker.nextRun * 1000000 + ticker.period ≤
      (ticker.take takes).nextRun * 1000000 + leeway := by
  have taken : ticker.dueAfter ≤ (ticker.take takes).nextRun * 1000000 :=
    due_le_nextRun (ticker.take takes)
  exact Nat.le_trans ticker.nextRun_add_period_le_dueAfter (Nat.add_le_add_right taken leeway)

/-! ### What any number of ticks does -/

theorem startOf_add_takes_le (number : Nat) :
    ticker.startOf takes number + takes (ticker.runs + number) ≤
      ticker.startOf takes (number + 1) := by
  have step := ((take takes)^[number] ticker).nextRun_add_takes_le takes
  rwa [runs_iterate, ← startOf_succ'] at step

/-- Runs never overlap. -/
theorem startOf_add_takes_le_of_lt {earlier later : Nat} (lt : earlier < later) :
    ticker.startOf takes earlier + takes (ticker.runs + earlier) ≤ ticker.startOf takes later := by
  induction later, lt using Nat.le_induction with
  | base => exact ticker.startOf_add_takes_le takes earlier
  | succ later _ ih =>
      have next := ticker.startOf_add_takes_le takes later
      exact Nat.le_trans ih (Nat.le_trans (Nat.le_add_right _ _) next)

theorem nextRun_le_startOf (number : Nat) : ticker.nextRun ≤ ticker.startOf takes number := by
  cases number with
  | zero => exact Nat.le_refl _
  | succ number =>
      have later := ticker.startOf_add_takes_le_of_lt takes (Nat.succ_pos number)
      exact Nat.le_trans (Nat.le_add_right _ _) later

theorem startOf_add_period_le (number : Nat) :
    ticker.startOf takes number * 1000000 + ticker.period ≤
      ticker.startOf takes (number + 1) * 1000000 + leeway := by
  have step := ((take takes)^[number] ticker).nextRun_add_period_le takes
  rwa [period_iterate, ← startOf_succ'] at step

/-- The bounds are carried by the ticks: each is due at least a period after the one before. -/
theorem due_add_le_iterate (number : Nat) :
    ticker.due + number * ticker.period ≤ ((take takes)^[number] ticker).due := by
  induction number with
  | zero => simp
  | succ number ih =>
      have step := ((take takes)^[number] ticker).due_add_period_le
      rw [period_iterate] at step
      rw [Function.iterate_succ_apply', due_take, Nat.succ_mul, ← Nat.add_assoc]
      exact Nat.le_trans (Nat.add_le_add_right ih _) step

theorem due_add_le_startOf (number : Nat) :
    ticker.due + number * ticker.period ≤ ticker.startOf takes number * 1000000 :=
  Nat.le_trans (ticker.due_add_le_iterate takes number) (due_le_nextRun _)

/-- A ticker with a period in whole milliseconds whose next tick is due at the given moment, and
will be taken then. -/
structure OnTime (period moment : Nat) (ticker : Ticker) : Prop where
  period : ticker.period = period * 1000000
  due : ticker.due = moment * 1000000
  free : ticker.freeAt ≤ moment

variable {takes ticker}

theorem OnTime.nextRun {period moment : Nat} (onTime : ticker.OnTime period moment) :
    ticker.nextRun = moment := by
  have free := onTime.free
  rw [Ticker.nextRun, onTime.due]
  omega

theorem OnTime.dueAfter {period moment : Nat} (onTime : ticker.OnTime period moment) :
    ticker.dueAfter = moment * 1000000 + period * 1000000 := by
  rw [Ticker.dueAfter, onTime.nextRun, onTime.due, onTime.period, if_pos (Nat.le_add_right _ _)]

/-- A run that takes no longer than the period leaves the ticker on time. -/
theorem OnTime.take {period moment : Nat} (onTime : ticker.OnTime period moment)
    (short : takes ticker.runs ≤ period) :
    (ticker.take takes).OnTime period (moment + period) where
  period := by rw [period_take, onTime.period]
  due := by rw [due_take, onTime.dueAfter, Nat.add_mul]
  free := by
    rw [freeAt_take, onTime.nextRun]
    exact Nat.add_le_add_left short moment

theorem OnTime.iterate {period moment number : Nat} (onTime : ticker.OnTime period moment)
    (short : ∀ earlier < number, takes (ticker.runs + earlier) ≤ period) :
    ((Ticker.take takes)^[number] ticker).OnTime period (moment + number * period) := by
  induction number with
  | zero => simpa using onTime
  | succ number ih =>
      have before := ih fun earlier lt => short earlier (Nat.lt_succ_of_lt lt)
      rw [Function.iterate_succ_apply', Nat.succ_mul, ← Nat.add_assoc]
      refine before.take ?_
      rw [runs_iterate]
      exact short number (Nat.lt_succ_self number)

end Runs

/-! ### The runs up to a moment -/

section UpTo

variable {takes : Nat → Nat} {limit : Nat} (ticker : Ticker)

/-- The runs up to a moment are those that start by then. -/
theorem getElem?_runsUpTo (number : Nat) :
    (ticker.runsUpTo takes limit)[number]? =
      if ticker.startOf takes number ≤ limit then some (ticker.startOf takes number) else none := by
  fun_induction runsUpTo takes limit ticker generalizing number with
  | case1 ticker inTime ih =>
      cases number with
      | zero => exact (if_pos inTime).symm
      | succ number => rw [List.getElem?_cons_succ, ih, startOf_succ]
  | case2 ticker late =>
      have later := ticker.nextRun_le_startOf takes number
      rw [if_neg (by omega)]
      rfl

variable {ticker} in
theorem of_mem_runsUpTo {start : Nat} (member : start ∈ ticker.runsUpTo takes limit) :
    ticker.nextRun ≤ start ∧ start ≤ limit := by
  obtain ⟨number, found⟩ := List.getElem?_of_mem member
  rw [getElem?_runsUpTo] at found
  split at found
  · next inTime =>
      obtain rfl := Option.some.inj found
      exact ⟨ticker.nextRun_le_startOf takes number, inTime⟩
  · cases found

theorem pairwise_runsUpTo : (ticker.runsUpTo takes limit).Pairwise (· ≤ ·) := by
  fun_induction runsUpTo takes limit ticker with
  | case1 ticker inTime ih =>
      refine List.pairwise_cons.mpr ⟨fun start member => ?_, ih⟩
      have ended := ticker.nextRun_add_takes_le takes
      exact Nat.le_trans (Nat.le_of_add_right_le ended) (of_mem_runsUpTo member).1
  | case2 ticker late => exact List.Pairwise.nil

/-- It makes no difference to the runs whether time passes at once or in parts. -/
theorem runsUpTo_append {first second : Nat} (le : first ≤ second) :
    ticker.runsUpTo takes first ++ (ticker.after takes first).runsUpTo takes second =
      ticker.runsUpTo takes second := by
  fun_induction runsUpTo takes first ticker with
  | case1 ticker inTime ih =>
      rw [after, if_pos inTime, List.cons_append, ih]
      conv_rhs => rw [runsUpTo, if_pos (Nat.le_trans inTime le)]
  | case2 ticker late => rw [after, if_neg late, List.nil_append]

end UpTo

end Ticker

/-! ## One task -/

namespace ScheduledTask

theorem start?_eq_some_iff {now : Nat} {action : ScheduledAction} {task : ScheduledTask} :
    start? now action = some task ↔ ∃ positive : 0 < action.schedule.period.nanoseconds,
      task = ⟨action, .start now action.schedule.period positive⟩ := by
  by_cases positive : 0 < action.schedule.period.nanoseconds
  · rw [start?, dif_pos positive, exists_prop_of_true positive, Option.some.injEq, eq_comm]
  · rw [start?, dif_neg positive]
    exact iff_of_false (Option.some_ne_none task).symm fun same => positive same.fst

/-- The start of a run of a task, where the runs from here on are counted from zero. -/
def startOf (task : ScheduledTask) (number : Nat) : Nat :=
  task.ticker.startOf task.action.takes number

theorem getElem?_runsUpTo (task : ScheduledTask) (limit number : Nat) :
    (task.runsUpTo limit)[number]? =
      if task.startOf number ≤ limit then some ⟨task.startOf number, task.action⟩ else none := by
  rw [runsUpTo, List.getElem?_map, Ticker.getElem?_runsUpTo, startOf]
  split <;> rfl

theorem of_mem_runsUpTo {task : ScheduledTask} {limit : Nat} {run : PlannedRun}
    (member : run ∈ task.runsUpTo limit) :
    run.action = task.action ∧ task.ticker.nextRun ≤ run.start ∧ run.start ≤ limit := by
  obtain ⟨start, inside, rfl⟩ := List.mem_map.mp member
  exact ⟨rfl, Ticker.of_mem_runsUpTo inside⟩

theorem inOrder_runsUpTo (task : ScheduledTask) (limit : Nat) :
    PlannedRun.inOrder (task.runsUpTo limit) = task.runsUpTo limit := by
  apply List.mergeSort_of_pairwise
  simp only [decide_eq_true_eq]
  exact List.pairwise_map.mpr task.ticker.pairwise_runsUpTo

theorem runsUpTo_append (task : ScheduledTask) {first second : Nat} (le : first ≤ second) :
    task.runsUpTo first ++ (task.after first).runsUpTo second = task.runsUpTo second := by
  rw [runsUpTo, runsUpTo, runsUpTo, after, ← List.map_append, task.ticker.runsUpTo_append le]

/-- A task that has taken every tick so far makes no run before time goes on. -/
theorem runsUpTo_of_settled {task : ScheduledTask} {now : Nat} (settled : task.ticker.Settled now) :
    task.runsUpTo now = [] := by
  rw [runsUpTo, Ticker.runsUpTo, if_neg (Nat.not_le_of_lt settled), List.map_nil]

/-- The starts of an action that was started at time zero are paced by a period of so many
milliseconds, where runs are counted from zero.  Runs do not overlap, none starts before its time,
and they start a period apart but for five milliseconds, so that missed ticks are not made up for.
As long as no run takes longer than the period, every run starts on time. -/
structure Paced (period : Nat) (takes starts : Nat → Nat) : Prop where
  first : starts 0 = period
  apart : ∀ {earlier later}, earlier < later → starts earlier + takes earlier ≤ starts later
  bounded : ∀ number, (number + 1) * period ≤ starts number
  spaced : ∀ number, starts number + period ≤ starts (number + 1) + 5
  exact : ∀ {number}, (∀ earlier < number, takes earlier ≤ period) →
    starts number = (number + 1) * period

theorem paced {action : ScheduledAction} {task : ScheduledTask}
    (started : start? 0 action = some task) {period : Nat}
    (whole : action.schedule.period = .ofMilliseconds period) :
    Paced period action.takes task.startOf := by
  obtain ⟨positive, rfl⟩ := start?_eq_some_iff.mp started
  let ticker := Ticker.start 0 action.schedule.period positive
  have onTime : ticker.OnTime period period := by
    constructor <;> simp [ticker, Ticker.start, whole, Duration.ofMilliseconds]
  have counted : ∀ number, ticker.runs + number = number := Nat.zero_add
  constructor
  · exact onTime.nextRun
  · intro earlier later lt
    have free := ticker.startOf_add_takes_le_of_lt action.takes lt
    rwa [counted] at free
  · intro number
    have due := ticker.due_add_le_startOf action.takes number
    rw [onTime.due, onTime.period, ← Nat.mul_assoc, ← Nat.add_mul] at due
    rw [Nat.succ_mul, Nat.add_comm]
    exact Nat.le_of_mul_le_mul_right due (by decide)
  · intro number
    have next := ticker.startOf_add_period_le action.takes number
    rw [onTime.period, ← Nat.add_mul, Ticker.leeway_eq, ← Nat.add_mul] at next
    exact Nat.le_of_mul_le_mul_right next (by decide)
  · intro number short
    have punctual : ((Ticker.take action.takes)^[number] ticker).OnTime period _ :=
      onTime.iterate fun earlier lt => by simpa only [counted] using short earlier lt
    rw [Nat.succ_mul, Nat.add_comm]
    exact punctual.nextRun

end ScheduledTask

/-! ## All tasks -/

namespace PlannedRun

theorem pairwise_inOrder (runs : List PlannedRun) :
    (inOrder runs).Pairwise (·.start ≤ ·.start) := by
  refine (List.pairwise_mergeSort ?_ ?_ runs).imp of_decide_eq_true
  · intro first second third
    simp only [decide_eq_true_eq]
    exact Nat.le_trans
  · intro first second
    simp only [Bool.or_eq_true, decide_eq_true_eq]
    exact Nat.le_total _ _

variable {δ : Type} (driver : ChatDriver δ)

theorem makeAll_append (first second : List PlannedRun) (state : δ) :
    makeAll driver (first ++ second) state =
      let (state, moments) := makeAll driver first state
      let (state, later) := makeAll driver second state
      (state, moments ++ later) := by
  induction first generalizing state with
  | nil => rfl
  | cons run rest ih => simp [makeAll, ih]

end PlannedRun

namespace Scheduler

/-- A scheduler after it was given so many milliseconds again and again. -/
def afterAll (scheduler : Scheduler) (waits : List Nat) : Scheduler :=
  waits.foldl (fun scheduler wait => scheduler.after (scheduler.now + wait)) scheduler

/-- Every tick up to now has been taken. -/
def Settled (scheduler : Scheduler) : Prop :=
  ∀ task ∈ scheduler.tasks, task.ticker.Settled scheduler.now

theorem mem_start {now : Nat} {actions : List (Registered ScheduledAction)}
    {task : ScheduledTask} :
    task ∈ (start now actions).tasks ↔
      ∃ registered ∈ actions, ScheduledTask.start? now registered.action = some task :=
  List.mem_filterMap

theorem settled_start (now : Nat) (actions : List (Registered ScheduledAction)) :
    (start now actions).Settled := by
  intro task member
  obtain ⟨registered, -, started⟩ := mem_start.mp member
  obtain ⟨positive, rfl⟩ := ScheduledTask.start?_eq_some_iff.mp started
  exact Ticker.settled_start now _ positive

theorem settled_after (scheduler : Scheduler) (limit : Nat) : (scheduler.after limit).Settled := by
  intro task member
  obtain ⟨earlier, -, rfl⟩ := List.mem_map.mp member
  exact Ticker.settled_after _ limit _

variable {δ : Type}

/-- Lets so many milliseconds pass again and again, and makes the runs that start meanwhile. -/
def advanceAll (driver : ChatDriver δ) : List Nat → Scheduler → δ → Scheduler × δ × List Moment
  | [], scheduler, state => (scheduler, state, [])
  | wait :: rest, scheduler, state =>
    let (scheduler, state, moments) := scheduler.advance driver (scheduler.now + wait) state
    let (scheduler, state, later) := advanceAll driver rest scheduler state
    (scheduler, state, moments ++ later)

/-- The runs that start while so many milliseconds pass again and again. -/
def runsThrough (scheduler : Scheduler) : List Nat → List PlannedRun
  | [] => []
  | wait :: rest =>
    scheduler.runsUpTo (scheduler.now + wait) ++
      (scheduler.after (scheduler.now + wait)).runsThrough rest

theorem advanceAll_eq (driver : ChatDriver δ) (waits : List Nat) (scheduler : Scheduler)
    (state : δ) :
    scheduler.advanceAll driver waits state =
      (scheduler.afterAll waits,
        PlannedRun.makeAll driver (scheduler.runsThrough waits) state) := by
  induction waits generalizing scheduler state with
  | nil => rfl
  | cons wait rest ih =>
      rw [advanceAll, advance, runsThrough, PlannedRun.makeAll_append]
      simp only [ih]
      rfl

/-- A task that is alone makes its own runs. -/
theorem runsThrough_singleton {now : Nat} {task : ScheduledTask}
    (settled : task.ticker.Settled now) (waits : List Nat) :
    (⟨now, [task]⟩ : Scheduler).runsThrough waits = task.runsUpTo (now + waits.sum) := by
  induction waits generalizing now task with
  | nil => exact (ScheduledTask.runsUpTo_of_settled settled).symm
  | cons wait rest ih =>
      have later : (task.after (now + wait)).ticker.Settled (now + wait) :=
        Ticker.settled_after _ _ _
      have first : (⟨now, [task]⟩ : Scheduler).runsUpTo (now + wait) =
          task.runsUpTo (now + wait) := by
        rw [runsUpTo, List.flatMap_singleton, ScheduledTask.inOrder_runsUpTo]
      calc (⟨now, [task]⟩ : Scheduler).runsThrough (wait :: rest)
          = task.runsUpTo (now + wait) ++
              (⟨now + wait, [task.after (now + wait)]⟩ : Scheduler).runsThrough rest :=
            congrArg (· ++ _) first
        _ = task.runsUpTo (now + (wait + rest.sum)) := by
            rw [ih later, task.runsUpTo_append (Nat.le_add_right _ _), Nat.add_assoc]

/-- Any tasks make each its own runs. -/
theorem runsThrough_perm {scheduler : Scheduler} (settled : scheduler.Settled)
    (waits : List Nat) :
    (scheduler.runsThrough waits).Perm
      (scheduler.tasks.flatMap (·.runsUpTo (scheduler.now + waits.sum))) := by
  induction waits generalizing scheduler with
  | nil =>
      have none : scheduler.tasks.flatMap (·.runsUpTo scheduler.now) = [] :=
        List.flatMap_eq_nil_iff.mpr fun task member =>
          ScheduledTask.runsUpTo_of_settled (settled task member)
      exact .of_eq none.symm
  | cons wait rest ih =>
      have later := ih (scheduler.settled_after (scheduler.now + wait))
      rw [after, List.flatMap_map] at later
      rw [runsThrough, List.sum_cons, ← Nat.add_assoc]
      refine ((List.mergeSort_perm _ _).append later).trans ((List.flatMap_append_perm ..).trans ?_)
      exact .of_eq (List.flatMap_congr fun task _ =>
        task.runsUpTo_append (Nat.le_add_right _ _))

theorem of_mem_runsThrough {scheduler : Scheduler} (settled : scheduler.Settled)
    {waits : List Nat} {run : PlannedRun} (member : run ∈ scheduler.runsThrough waits) :
    scheduler.now < run.start := by
  have made := (runsThrough_perm settled waits).mem_iff.mp member
  obtain ⟨task, among, planned⟩ := List.mem_flatMap.mp made
  exact Nat.lt_of_lt_of_le (settled task among) (ScheduledTask.of_mem_runsUpTo planned).2.1

theorem of_mem_runsUpTo {scheduler : Scheduler} {limit : Nat} {run : PlannedRun}
    (member : run ∈ scheduler.runsUpTo limit) : run.start ≤ limit := by
  obtain ⟨task, -, planned⟩ := List.mem_flatMap.mp (List.mem_mergeSort.mp member)
  exact (ScheduledTask.of_mem_runsUpTo planned).2.2

/-- Runs are made in the order of their starts. -/
theorem pairwise_runsThrough {scheduler : Scheduler} (settled : scheduler.Settled)
    (waits : List Nat) : (scheduler.runsThrough waits).Pairwise (·.start ≤ ·.start) := by
  induction waits generalizing scheduler with
  | nil => exact .nil
  | cons wait rest ih =>
      have later := scheduler.settled_after (scheduler.now + wait)
      refine List.pairwise_append.mpr
        ⟨PlannedRun.pairwise_inOrder _, ih later, fun first passed second coming => ?_⟩
      exact Nat.le_of_lt (Nat.lt_of_le_of_lt (of_mem_runsUpTo passed)
        (of_mem_runsThrough later coming))

theorem size_start (now : Nat) (actions : List (Registered ScheduledAction)) :
    (start now actions).size =
      actions.countP (0 < ·.action.schedule.period.nanoseconds) := by
  rw [size, start, List.length_filterMap_eq_countP]
  refine List.countP_congr fun registered _ => ?_
  rw [Option.isSome_iff_exists, decide_eq_true_iff]
  constructor
  · rintro ⟨task, started⟩
    exact (ScheduledTask.start?_eq_some_iff.mp started).fst
  · intro positive
    exact ⟨_, ScheduledTask.start?_eq_some_iff.mpr ⟨positive, rfl⟩⟩

/-- An action with a period of zero never runs. -/
theorem exists_of_mem_runsThrough {now : Nat} {actions : List (Registered ScheduledAction)}
    {waits : List Nat} {run : PlannedRun} (member : run ∈ (start now actions).runsThrough waits) :
    ∃ registered ∈ actions, run.action = registered.action ∧
      0 < registered.action.schedule.period.nanoseconds := by
  have made := (runsThrough_perm (settled_start now actions) waits).mem_iff.mp member
  obtain ⟨task, among, planned⟩ := List.mem_flatMap.mp made
  obtain ⟨registered, added, started⟩ := mem_start.mp among
  obtain ⟨positive, rfl⟩ := ScheduledTask.start?_eq_some_iff.mp started
  exact ⟨registered, added, (ScheduledTask.of_mem_runsUpTo planned).1, positive⟩

/-- The order in which actions were registered makes no difference to when they run. -/
theorem runsThrough_perm_of_perm (now : Nat) {first second : List (Registered ScheduledAction)}
    (same : first.Perm second) (waits : List Nat) :
    ((start now first).runsThrough waits).Perm ((start now second).runsThrough waits) :=
  (runsThrough_perm (settled_start now first) waits).trans <|
    ((same.filterMap _).flatMap_right _).trans
      (runsThrough_perm (settled_start now second) waits).symm

theorem runsThrough_append_perm (now : Nat) (first second : List (Registered ScheduledAction))
    (waits : List Nat) :
    ((start now (first ++ second)).runsThrough waits).Perm
      ((start now first).runsThrough waits ++ (start now second).runsThrough waits) := by
  have joint := runsThrough_perm (settled_start now (first ++ second)) waits
  have apart := (runsThrough_perm (settled_start now first) waits).append
    (runsThrough_perm (settled_start now second) waits)
  refine joint.trans (.trans (.of_eq ?_) apart.symm)
  simp only [start, List.filterMap_append, List.flatMap_append]

/-- An action makes no difference to when the others run. -/
theorem runsThrough_insert_perm (now : Nat) (before after : List (Registered ScheduledAction))
    (added : Registered ScheduledAction) (waits : List Nat) :
    ((start now (before ++ added :: after)).runsThrough waits).Perm
      ((start now (before ++ after)).runsThrough waits ++
        (start now [added]).runsThrough waits) := by
  have last : (before ++ added :: after).Perm ((before ++ after) ++ [added]) :=
    List.perm_middle.trans (List.perm_append_singleton _ _).symm
  exact (runsThrough_perm_of_perm now last waits).trans
    (runsThrough_append_perm now (before ++ after) [added] waits)

/-- The starts of an action that runs alone from time zero. -/
theorem exists_paced {registered : Registered ScheduledAction} {period : Nat}
    (positive : 0 < period)
    (whole : registered.action.schedule.period = .ofMilliseconds period) :
    ∃ starts, ScheduledTask.Paced period registered.action.takes starts ∧ ∀ waits number,
      ((start 0 [registered]).runsThrough waits)[number]? =
        if starts number ≤ waits.sum then some ⟨starts number, registered.action⟩ else none := by
  have recurs : 0 < registered.action.schedule.period.nanoseconds := by
    rw [whole]
    exact Nat.mul_pos positive (by decide)
  let task : ScheduledTask := ⟨registered.action, .start 0 registered.action.schedule.period recurs⟩
  have started : ScheduledTask.start? 0 registered.action = some task :=
    ScheduledTask.start?_eq_some_iff.mpr ⟨recurs, rfl⟩
  refine ⟨task.startOf, ScheduledTask.paced started whole, fun waits number => ?_⟩
  have alone : start 0 [registered] = ⟨0, [task]⟩ := by
    simp only [start, List.filterMap_cons, started, List.filterMap_nil]
  rw [alone, runsThrough_singleton (Ticker.settled_start 0 _ recurs), Nat.zero_add,
    ScheduledTask.getElem?_runsUpTo]

/-- Actions are started at time zero, and time passes in any parts.  What is made is a list of
runs, in the order of their starts.  Actions with a period of zero do not count and never run, and
no action makes a difference to when the others run.  An action with a period in whole milliseconds
has starts of its own, whatever time passes, and they are paced by the period. -/
theorem runs_paced (actions : List (Registered ScheduledAction)) :
    let runs := fun actions waits => (start 0 actions).runsThrough waits
    (∀ waits {δ : Type} (driver : ChatDriver δ) (state : δ),
        ((start 0 actions).advanceAll driver waits state).2 =
          PlannedRun.makeAll driver (runs actions waits) state) ∧
      (∀ waits, (runs actions waits).Pairwise (·.start ≤ ·.start)) ∧
      (start 0 actions).size = actions.countP (0 < ·.action.schedule.period.nanoseconds) ∧
      (∀ waits, ∀ run ∈ runs actions waits, ∃ registered ∈ actions,
        run.action = registered.action ∧ 0 < registered.action.schedule.period.nanoseconds) ∧
      (∀ before added after, actions = before ++ added :: after → ∀ waits,
        (runs actions waits).Perm (runs (before ++ after) waits ++ runs [added] waits)) ∧
      ∀ registered ∈ actions, ∀ period, 0 < period →
        registered.action.schedule.period = .ofMilliseconds period →
        ∃ starts, ScheduledTask.Paced period registered.action.takes starts ∧ ∀ waits number,
          (runs [registered] waits)[number]? =
            if starts number ≤ waits.sum then some ⟨starts number, registered.action⟩
            else none := by
  intro runs
  refine ⟨fun waits δ driver state => ?_,
    fun waits => pairwise_runsThrough (settled_start 0 actions) waits, size_start 0 actions,
    fun waits run member => exists_of_mem_runsThrough member, ?_, ?_⟩
  · rw [advanceAll_eq]
  · rintro before added after rfl waits
    exact runsThrough_insert_perm 0 before after added waits
  · intro registered _ period positive whole
    exact exists_paced positive whole

/-- An action every hundred milliseconds takes two hundred and fifty for its first run, which
puts off its second; next to it one takes all of its fifty milliseconds every time and is never
late, and one has no period. -/
theorem runs_paced_overrun :
    let slow : Registered ScheduledAction :=
      ⟨"p", .every (.ofMilliseconds 100), "", false, [], fun run => if run = 0 then 250 else 0⟩
    let prompt : Registered ScheduledAction :=
      ⟨"q", .every (.ofMilliseconds 50), "", false, [], fun _ => 50⟩
    let never : Registered ScheduledAction :=
      ⟨"r", .every (.ofMilliseconds 0), "", false, [], fun _ => 0⟩
    let actions := [slow, prompt, never]
    (start 0 actions).size = 2 ∧
      ((start 0 actions).runsThrough [120, 30]).Perm
        ((start 0 [prompt, never]).runsThrough [120, 30] ++
          (start 0 [slow]).runsThrough [120, 30]) ∧
      (∃ starts : Nat → Nat, (∀ number, starts number = (number + 1) * 50) ∧ ∀ waits number,
        ((start 0 [prompt]).runsThrough waits)[number]? =
          if starts number ≤ waits.sum then some ⟨starts number, prompt.action⟩ else none) ∧
      ((start 0 [slow]).runsThrough [120, 300]).map (·.start) = [100, 350] := by
  intro slow prompt never actions
  obtain ⟨-, -, size, -, inserted, paced⟩ := runs_paced actions
  obtain ⟨starts, steady, listed⟩ := paced prompt (by simp [actions]) 50 (by decide) rfl
  exact ⟨size.trans (by decide), inserted [] slow [prompt, never] rfl [120, 30],
    ⟨starts, fun number => steady.exact fun _ _ => Nat.le_refl 50, listed⟩, by decide +kernel⟩

end Scheduler

end ChatBot
