import ChatBot.Proofs.Config.Rules
import ChatBot.Proofs.Session.UserCaches

/-!
# The capacities of a bot

The sizes that a configuration sets are the sizes of the caches that its bot works with, and the bot
stays within them: whatever it is told, by whatever platform, it tracks no more source messages and
knows no more users than was set.
-/

namespace ChatBot

variable {δ : Type}

/-- A desk whose caches keep within their capacities, and track no message without replies. -/
structure Desk.Bounded (responses users : Nat) (desk : Desk δ) : Prop where
  tidy : desk.replies.Tidy
  capacity_eq : desk.replies.capacity = responses
  users : desk.users.Bounded users

theorem Desk.bounded_initial (responses users : Nat) (driver : δ) :
    (LoopState.initial responses users driver).desk.Bounded responses users where
  tidy := ReplyCache.tidy_empty responses
  capacity_eq := rfl
  users := UserCache.bounded_empty users

section Sizes

variable {desk : Desk δ} {responses users : Nat}

theorem Desk.Bounded.size_replies_le (bounded : desk.Bounded responses users) :
    desk.replies.size ≤ responses := by
  rw [← bounded.capacity_eq]
  exact bounded.tidy.bounded

theorem Desk.Bounded.size_known_le (bounded : desk.Bounded responses users) :
    desk.users.known.size ≤ users := by
  rw [← bounded.users.capacity_eq]
  exact bounded.users.wellFormed.bounded

end Sizes

namespace Dispatcher

variable (dispatcher : Dispatcher δ) {desk : Desk δ} {responses users : Nat}

theorem bounded_take (bounded : desk.Bounded responses users) (step : DispatchStep) :
    (dispatcher.take desk step).1.Bounded responses users where
  tidy := dispatcher.tidy_take bounded.tidy step
  capacity_eq :=
    (dispatcher.capacity_take bounded.tidy.toWellFormed step).trans bounded.capacity_eq
  users := by
    rcases dispatcher.users_take desk step with same | ⟨envelope, asked⟩
    · rw [same]
      exact bounded.users
    · rw [asked]
      exact Inquiry.run_bounded dispatcher.users (dispatcher.registry.answersFor envelope)
        bounded.users

theorem bounded_takeAll (bounded : desk.Bounded responses users) (steps : List DispatchStep) :
    (dispatcher.takeAll desk steps).1.Bounded responses users := by
  induction steps generalizing desk with
  | nil => exact bounded
  | cons step rest ih => exact ih (dispatcher.bounded_take bounded step)

end Dispatcher

theorem EventLoop.keeps_bounded (loop : EventLoop δ) (responses users : Nat) :
    loop.Keeps fun state _ _ => state.desk.Bounded responses users where
  handle {state _ _} _ bounded event := by
    rw [(loop.handle_desk state event).1]
    exact loop.dispatcher.bounded_takeAll bounded (state.dispatched event)
  aside bounded _ _ _ := ⟨bounded.tidy, bounded.capacity_eq, bounded.users⟩

/-- The caches of a bot are bounded by what it was set up with, over every session and within
every burst of events. -/
theorem Session.bounded_start (bot : Bot) (platform : ChatDriver δ) (users : UserFinder)
    (identities : IdentityFinder) (driver : δ) (steps : List (SessionStep δ))
    (burst : List Event) :
    let (session, begun, _) := start bot platform users identities driver
    (session.loop.takeAll (session.takeAll begun steps).1.loop burst).1.desk.Bounded
      bot.responseCapacity bot.userCapacity := by
  let started := start bot platform users identities driver
  have keeps := started.1.loop.keeps_bounded bot.responseCapacity bot.userCapacity
  have begun := Desk.bounded_initial bot.responseCapacity bot.userCapacity driver
  have course : (started.1.takeAll started.2.1 steps).1.loop.desk.Bounded bot.responseCapacity
      bot.userCapacity :=
    @EventLoop.Keeps.session_takeAll δ started.1 _ keeps steps started.2.1 rfl [] []
      Event.quiet_nil begun
  exact @EventLoop.Keeps.takeAll δ _ _ keeps burst _ [] [] Event.quiet_nil course

/-- A configuration is refused exactly if it breaks a rule, with the error of the first rule that it
breaks; then there is no bot, and no log file was opened.  Otherwise there is a bot, unless its log
file cannot be opened; and whatever plugins the bot is given, on every platform and after every
event of every session, it tracks no more source messages than was set, each with replies, and knows
no more users than was set. -/
theorem Bot.setUp_bounds (config : Config) (installed : Bool) (files : FileTree) :
    let made := (setUp config installed files).1
    ((∀ rule : ConfigRule, rule.Kept config) ↔ ∀ error, made ≠ .error (.config error)) ∧
    (∀ before rule after, ConfigRule.inOrder = before ++ rule :: after →
      (∀ earlier ∈ before, earlier.Kept config) → ¬ rule.Kept config →
      ∃ error, rule.Blames config error ∧ made = .error (.config error) ∧
        (setUp config installed files).2.1 = files) ∧
    ((∀ rule : ConfigRule, rule.Kept config) →
      made =
        if ((LoggingBuilder.ofConfig config.logging).openFile files).2 then .ok (sized config)
        else .error (.logging LoggingError.fileNotOpened.message)) ∧
    ∀ bot, made = .ok bot →
      ∀ (plugins : List Plugin) {δ : Type} (platform : ChatDriver δ) (users : UserFinder)
        (identities : IdentityFinder) (driver : δ) (steps : List (SessionStep δ))
        (burst : List Event),
      let (session, begun, _) :=
        Session.start (bot.registerAll plugins).1 platform users identities driver
      let desk := (session.loop.takeAll (session.takeAll begun steps).1.loop burst).1.desk
      (desk.replies.size : Int) ≤ config.responseCacheSize ∧
        (∀ entry ∈ desk.replies.entries, entry.2 ≠ []) ∧
        (desk.users.known.size : Int) ≤ config.userInfoCacheSize := by
  refine ⟨kept_iff_setUp_ne installed files, ?_,
    fun kept => setUp_of_kept kept installed files, ?_⟩
  · intro before rule after split kept broken
    exact setUp_of_first_broken split kept broken installed files
  · intro bot made plugins δ platform users identities driver steps burst
    obtain ⟨kept, rfl⟩ := eq_sized_of_setUp made
    have bounded := Session.bounded_start ((sized config).registerAll plugins).1 platform users
      identities driver steps burst
    rw [registerAll_eq] at bounded ⊢
    have responses := Int.toNat_of_nonneg (kept .responses)
    have capacity := Int.toNat_of_nonneg (kept .users)
    rw [← responses, ← capacity]
    exact ⟨Int.ofNat_le.mpr bounded.size_replies_le, bounded.tidy.nonempty,
      Int.ofNat_le.mpr bounded.size_known_le⟩

/-- A blank name is reported although the sizes are wrong too.  A bot that may track one message and
answers two has tracked one of them in the end. -/
theorem Bot.setUp_bounds_small :
    let nameless : Config := { Config.default with name := " ", responseCacheSize := -1 }
    let small : Config := { Config.default with responseCacheSize := 1 }
    let echo := { Action.new .hear "anything" with
      predicate := some fun _ _ => true
      answer := some fun envelope => .done (some (.ofText envelope.text)) }
    let (session, begun, _) := Session.start
      ((sized small).registerAll [⟨"echo", [], [echo], []⟩]).1
      MemoryPlatform.driver (.ofTable []) (fun _ => .ok ⟨"bot", "Bot"⟩) .empty
    let posted := fun timestamp =>
      Event.message (.posted ⟨"general", "ann", "hello", ⟨timestamp⟩⟩)
    let steps := [.events [.connected, posted "1.0", posted "2.0"]]
    let desk := (session.takeAll begun steps).1.loop.desk
    (setUp nameless false .empty).1 = .error (.config (.violation .blankName)) ∧
      (desk.replies.size : Int) ≤ 1 ∧ desk.replies.keys = [⟨"general", ⟨"2.0"⟩⟩] := by
  intro nameless small echo
  obtain ⟨-, first, -, -⟩ := setUp_bounds nameless false .empty
  obtain ⟨error, blamed, refused, -⟩ := first [] .name
    [.responses, .users, .filePath, .format, .filters] rfl (by simp) (by decide +kernel)
  obtain rfl : error = .violation .blankName := blamed
  obtain ⟨-, -, -, bounded⟩ := setUp_bounds small false .empty
  have kept : ∀ rule : ConfigRule, rule.Kept small := by
    intro rule
    cases rule <;> decide +kernel
  have made := setUp_of_kept kept false .empty
  obtain ⟨tracked, -, -⟩ := bounded (sized small) made [⟨"echo", [], [echo], []⟩]
    MemoryPlatform.driver (.ofTable []) (fun _ => .ok ⟨"bot", "Bot"⟩) .empty
    [.events [.connected, .message (.posted ⟨"general", "ann", "hello", ⟨"1.0"⟩⟩),
      .message (.posted ⟨"general", "ann", "hello", ⟨"2.0"⟩⟩)]] []
  exact ⟨refused, tracked, by decide +kernel⟩

end ChatBot
