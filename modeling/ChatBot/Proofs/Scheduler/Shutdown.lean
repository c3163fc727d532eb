import ChatBot.Proofs.Scheduler.Timing

/-!
# Shutting the scheduler down

A scheduler that is told to stop completes the runs in progress and begins no others.  It has
stopped as soon as every run that it has begun has ended, and not before.
-/

namespace ChatBot

/-! ## One ticker -/

namespace Ticker

section Runs

variable {takes : Nat → Nat} (ticker : Ticker)

/-- A ticker is free when the runs that it has begun have ended. -/
theorem freeAt_after_le_iff {limit moment : Nat} :
    (ticker.after takes limit).freeAt ≤ moment ↔
      ticker.freeAt ≤ moment ∧ ∀ number, ticker.startOf takes number ≤ limit →
        ticker.startOf takes number + takes (ticker.runs + number) ≤ moment := by
  fun_induction after takes limit ticker with
  | case1 ticker inTime ih =>
      rw [ih, freeAt_take, runs_take]
      constructor
      · rintro ⟨first, others⟩
        have free := ticker.freeAt_le_nextRun
        refine ⟨by omega, fun number begun => ?_⟩
        cases number with
        | zero => exact first
        | succ number =>
            rw [startOf_succ] at begun ⊢
            rw [Nat.add_comm number 1, ← Nat.add_assoc]
            exact others number begun
      · rintro ⟨-, runs⟩
        refine ⟨runs 0 inTime, fun number begun => ?_⟩
        rw [← startOf_succ] at begun ⊢
        rw [Nat.add_assoc, Nat.add_comm 1 number]
        exact runs (number + 1) begun
  | case2 ticker late =>
      refine ⟨fun free => ⟨free, fun number begun => ?_⟩, And.left⟩
      exact absurd (Nat.le_trans (ticker.nextRun_le_startOf takes number) begun) late

/-- It makes no difference whether time passes at once or in parts. -/
theorem after_after {first second : Nat} (le : first ≤ second) :
    (ticker.after takes first).after takes second = ticker.after takes second := by
  fun_induction after takes first ticker with
  | case1 ticker inTime ih =>
      conv_rhs => rw [after, if_pos (Nat.le_trans inTime le)]
      exact ih
  | case2 ticker late => rfl

theorem after_of_settled {ticker : Ticker} {now : Nat} (settled : ticker.Settled now) :
    ticker.after takes now = ticker := by
  rw [after, if_neg (Nat.not_le_of_lt settled)]

end Runs

end Ticker

/-! ## All tasks -/

namespace ScheduledTask

/-- The end of a run of a task, where the runs from here on are counted from zero. -/
def endOf (task : ScheduledTask) (number : Nat) : Nat :=
  task.startOf number + task.action.takes (task.ticker.runs + number)

theorem freeAt_after_le_iff (task : ScheduledTask) {limit moment : Nat} :
    (task.after limit).ticker.freeAt ≤ moment ↔ task.ticker.freeAt ≤ moment ∧
      ∀ number, task.startOf number ≤ limit → task.endOf number ≤ moment :=
  task.ticker.freeAt_after_le_iff

end ScheduledTask

namespace Scheduler

theorem stopTime_le_iff (scheduler : Scheduler) (moment : Nat) :
    scheduler.stopTime ≤ moment ↔
      scheduler.now ≤ moment ∧ ∀ task ∈ scheduler.tasks, task.ticker.freeAt ≤ moment := by
  have latest : ∀ (tasks : List ScheduledTask) (least : Nat),
      tasks.foldl (fun latest task => max latest task.ticker.freeAt) least ≤ moment ↔
        least ≤ moment ∧ ∀ task ∈ tasks, task.ticker.freeAt ≤ moment := by
    intro tasks
    induction tasks with
    | nil => simp
    | cons task rest ih =>
        intro least
        rw [List.foldl_cons, ih, Nat.max_le, List.forall_mem_cons, and_assoc]
  exact latest scheduler.tasks scheduler.now

/-- It makes no difference to the tasks whether time passes at once or in parts. -/
theorem afterAll_eq {scheduler : Scheduler} (settled : scheduler.Settled) (waits : List Nat) :
    scheduler.afterAll waits = scheduler.after (scheduler.now + waits.sum) := by
  induction waits generalizing scheduler with
  | nil =>
      have still : ∀ task ∈ scheduler.tasks, task.after scheduler.now = id task := by
        intro task member
        rw [ScheduledTask.after, Ticker.after_of_settled (settled task member), id]
      have same := (List.map_congr_left still).trans (List.map_id _)
      exact congrArg (Scheduler.mk scheduler.now) same.symm
  | cons wait rest ih =>
      rw [List.sum_cons, ← Nat.add_assoc]
      refine (ih (scheduler.settled_after _)).trans ?_
      simp only [after, ScheduledTask.after, List.map_map, Function.comp_def,
        Ticker.after_after _ (Nat.le_add_right _ rest.sum)]

/-- A scheduler without tasks makes no runs. -/
theorem runsThrough_of_idle {scheduler : Scheduler} (idle : scheduler.tasks = [])
    (waits : List Nat) : scheduler.runsThrough waits = [] := by
  have settled : scheduler.Settled := by simp [Settled, idle]
  have runs := runsThrough_perm settled waits
  rwa [idle, List.flatMap_nil, List.perm_nil] at runs

/-- The scheduler is started with any actions and told to stop after any time.  It has stopped by
a moment exactly if every run that it has begun has ended by then, so that no run is cut off and it
waits for nothing else.  After that it makes no runs. -/
theorem shutdown_completes (now : Nat) (actions : List (Registered ScheduledAction))
    (waits : List Nat) :
    let started := start now actions
    let scheduler := started.afterAll waits
    (∀ moment, scheduler.shutdown.now ≤ moment ↔
      scheduler.now ≤ moment ∧ ∀ task ∈ started.tasks, ∀ number,
        task.startOf number ≤ scheduler.now → task.endOf number ≤ moment) ∧
      ∀ later, scheduler.shutdown.runsThrough later = [] := by
  intro started scheduler
  have passed : scheduler = started.after (now + waits.sum) :=
    afterAll_eq (settled_start now actions) waits
  refine ⟨fun moment => ?_, runsThrough_of_idle rfl⟩
  refine (scheduler.stopTime_le_iff moment).trans (and_congr_right fun reached => ?_)
  rw [passed] at reached ⊢
  have begun : ∀ task ∈ started.tasks, task.ticker.freeAt ≤ moment := by
    intro task member
    obtain ⟨registered, -, found⟩ := mem_start.mp member
    obtain ⟨positive, rfl⟩ := ScheduledTask.start?_eq_some_iff.mp found
    exact Nat.le_trans (Nat.le_add_right now waits.sum) reached
  simp only [after, List.forall_mem_map, ScheduledTask.freeAt_after_le_iff]
  exact forall₂_congr fun task member => and_iff_right (begun task member)

/-- A run that overruns its period is completed, and the tick that is due by then is not taken. -/
example :
    let clock : ScheduledAction := ⟨.every (.ofMilliseconds 10), "", false, [], fun _ => 15⟩
    ((start 0 [⟨"p", clock⟩]).afterAll [12]).shutdown.now = 25 := by
  decide +kernel

end Scheduler

end ChatBot
