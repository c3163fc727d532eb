import ChatBot.Proofs.Cache.UserLookups
import ChatBot.Proofs.Session.Lockstep
import ChatBot.Proofs.Session.Metadata

/-!
# Sessions with different caches of users

On a platform that says the same of a user whenever it is asked, the cache of known users decides
which look-ups go to the platform, and nothing else.  Two desks whose caches differ, but say
nothing untrue, do the same with every event; only the reports that a user was found in the cache
may differ.  So two bots that are set up with caches of different sizes have the same sessions,
but for these reports.
-/

namespace ChatBot

variable {δ : Type}

/-! ## Inquiries against different caches -/

/-- Whether an event reports that a user was found in the cache. -/
def LogEvent.isHit (event : LogEvent) : Bool :=
  event.level = .trace ∧ event.message = (UserCache.hit "").message

/-- Whether an entry is more than a report that a user was found in the cache. -/
def Entry.beyondHits : Entry → Bool
  | call _ _ => true
  | log event => !event.isHit

theorem UserCache.isHit_of_mem_find {finder : UserFinder} {cache : UserCache} {user : String}
    {event : LogEvent} (member : event ∈ (cache.find finder user).2.2) : event.isHit = true := by
  rw [find] at member
  split at member
  · obtain rfl := List.mem_singleton.mp member
    simp [hit, LogEvent.isHit]
  · split at member
    · cases member
    · cases member

section Inquiries

variable {finder : UserFinder} {cache cache' : UserCache}

theorem UserCache.filter_find (cache : UserCache) (user : String) (events : List LogEvent) :
    ((cache.find finder user).2.2 ++ events).filter (!·.isHit) = events.filter (!·.isHit) := by
  have hits : (cache.find finder user).2.2.filter (!·.isHit) = [] :=
    List.filter_eq_nil_iff.mpr fun event member => by simp [isHit_of_mem_find member]
  rw [List.filter_append, hits, List.nil_append]

/-- An inquiry reports the same whatever was asked before it, but for the users found in the
cache. -/
theorem Inquiry.run_filter {α : Type} (fixed : finder.Fixed) (inquiry : Inquiry α)
    (faithful : cache.Faithful finder) (faithful' : cache'.Faithful finder) :
    (inquiry.run finder cache).2.2.filter (!·.isHit) =
      (inquiry.run finder cache').2.2.filter (!·.isHit) := by
  induction inquiry generalizing cache cache' with
  | done value => rfl
  | note event next ih => simp only [run, List.filter_cons, ih faithful faithful']
  | lookUp user next ih =>
      obtain ⟨found, still⟩ := faithful.find fixed user
      obtain ⟨found', still'⟩ := faithful'.find fixed user
      simp only [run, UserCache.filter_find, found, found']
      exact ih (finder 0 user) still still'

end Inquiries

theorem Entry.filter_log (events : List LogEvent) :
    (events.map Entry.log).filter beyondHits = (events.filter (!·.isHit)).map Entry.log :=
  List.filter_map ..

/-! ## Dispatching with different caches -/

/-- Two desks that are the same but for what they know of users, of which nothing is untrue. -/
structure Desk.UsersApart (finder : UserFinder) (first second : Desk δ) : Prop where
  replies : first.replies = second.replies
  driver : first.driver = second.driver
  faithful : first.users.Faithful finder
  faithful' : second.users.Faithful finder

namespace Dispatcher

variable (dispatcher : Dispatcher δ) (fixed : dispatcher.users.Fixed)

include fixed

/-- Which answers are wanted does not depend on what is known of users. -/
theorem answersFor_usersApart (replies : ReplyCache) (driver : δ) {users users' : UserCache}
    (faithful : users.Faithful dispatcher.users) (faithful' : users'.Faithful dispatcher.users)
    (envelope : Envelope) :
    ∃ answers known known' worked worked',
      dispatcher.answersFor ⟨replies, users, driver⟩ envelope =
          (answers, ⟨replies, known, driver⟩, worked) ∧
        dispatcher.answersFor ⟨replies, users', driver⟩ envelope =
          (answers, ⟨replies, known', driver⟩, worked') ∧
        known.Faithful dispatcher.users ∧ known'.Faithful dispatcher.users ∧
        worked.filter Entry.beyondHits = worked'.filter Entry.beyondHits := by
  simp only [answersFor]
  generalize dispatcher.registry.answersFor envelope = inquiry
  obtain ⟨value, still⟩ := inquiry.run_faithful fixed faithful
  obtain ⟨value', still'⟩ := inquiry.run_faithful fixed faithful'
  refine ⟨inquiry.value (dispatcher.users 0), _, _,
    (inquiry.run dispatcher.users users).2.2.map .log,
    (inquiry.run dispatcher.users users').2.2.map .log,
    by rw [value], by rw [value'], still, still', ?_⟩
  rw [Entry.filter_log, Entry.filter_log, inquiry.run_filter fixed faithful faithful']

variable {desk desk' : Desk δ} (apart : desk.UsersApart dispatcher.users desk')

include apart

theorem handleNew_usersApart (envelope : Envelope) :
    (dispatcher.handleNew desk envelope).1.UsersApart dispatcher.users
        (dispatcher.handleNew desk' envelope).1 ∧
      (dispatcher.handleNew desk envelope).2.filter Entry.beyondHits =
        (dispatcher.handleNew desk' envelope).2.filter Entry.beyondHits := by
  obtain ⟨replies, users, driver⟩ := desk
  obtain ⟨replies', users', driver'⟩ := desk'
  obtain ⟨rfl, rfl, faithful, faithful'⟩ := apart
  obtain ⟨answers, known, known', worked, worked', answered, answered', still, still', same⟩ :=
    dispatcher.answersFor_usersApart fixed replies driver faithful faithful' envelope
  simp only [handleNew, answered, answered', List.filter_append, same]
  exact ⟨⟨rfl, rfl, still, still'⟩, trivial⟩

theorem handleEdited_usersApart (envelope : Envelope) :
    (dispatcher.handleEdited desk envelope).1.UsersApart dispatcher.users
        (dispatcher.handleEdited desk' envelope).1 ∧
      (dispatcher.handleEdited desk envelope).2.filter Entry.beyondHits =
        (dispatcher.handleEdited desk' envelope).2.filter Entry.beyondHits := by
  obtain ⟨replies, users, driver⟩ := desk
  obtain ⟨replies', users', driver'⟩ := desk'
  obtain ⟨rfl, rfl, faithful, faithful'⟩ := apart
  obtain ⟨answers, known, known', worked, worked', answered, answered', still, still', same⟩ :=
    dispatcher.answersFor_usersApart fixed replies driver faithful faithful' envelope
  simp only [handleEdited, answered, answered']
  split
  · exact ⟨⟨rfl, rfl, faithful, faithful'⟩, rfl⟩
  · cases Lru.get? replies envelope.key with
    | mk previous cache =>
        cases previous with
        | none =>
            simp only
            split
            · exact ⟨⟨rfl, rfl, still, still'⟩, same⟩
            · simp only [List.filter_append, same]
              exact ⟨⟨rfl, rfl, still, still'⟩, trivial⟩
        | some previous =>
            simp only [List.filter_append, same]
            exact ⟨⟨rfl, rfl, still, still'⟩, trivial⟩

omit fixed

theorem handleDeleted_usersApart (key : MessageKey) :
    (dispatcher.handleDeleted desk key).1.UsersApart dispatcher.users
        (dispatcher.handleDeleted desk' key).1 ∧
      (dispatcher.handleDeleted desk key).2 = (dispatcher.handleDeleted desk' key).2 := by
  obtain ⟨replies, users, driver⟩ := desk
  obtain ⟨replies', users', driver'⟩ := desk'
  obtain ⟨rfl, rfl, faithful, faithful'⟩ := apart
  simp only [handleDeleted]
  cases Lru.remove replies key with
  | mk previous cache =>
      cases previous with
      | none => exact ⟨⟨rfl, rfl, faithful, faithful'⟩, rfl⟩
      | some previous => exact ⟨⟨rfl, rfl, faithful, faithful'⟩, rfl⟩

end Dispatcher

/-! ## Loops with different caches -/

/-- Two states of a loop that are the same but for what is known of users. -/
structure LoopState.UsersApart (finder : UserFinder) (first second : LoopState δ) : Prop where
  phase : first.phase = second.phase
  identity : first.identity = second.identity
  connections : first.connections = second.connections
  identityLookups : first.identityLookups = second.identityLookups
  desk : first.desk.UsersApart finder second.desk

theorem LoopState.usersApart_initial (finder : UserFinder) (responses users users' : Nat)
    (driver : δ) :
    (initial responses users driver).UsersApart finder (initial responses users' driver) :=
  ⟨rfl, rfl, rfl, rfl,
    ⟨rfl, rfl, UserCache.faithful_empty finder users, UserCache.faithful_empty finder users'⟩⟩

namespace EventLoop

variable (loop : EventLoop δ) {state state' : LoopState δ}
  (apart : state.UsersApart loop.dispatcher.users state')

include apart

theorem onConnected_usersApart :
    (loop.onConnected state).1.UsersApart loop.dispatcher.users (loop.onConnected state').1 ∧
      (loop.onConnected state).2 = (loop.onConnected state').2 := by
  obtain ⟨phase, identity, connections, lookups, desk⟩ := state
  obtain ⟨phase', identity', connections', lookups', desk'⟩ := state'
  obtain ⟨rfl, rfl, rfl, rfl, desks⟩ := apart
  simp only [onConnected]
  split
  · exact ⟨⟨rfl, rfl, rfl, rfl, desks⟩, rfl⟩
  · split
    · exact ⟨⟨rfl, rfl, rfl, rfl, desks⟩, rfl⟩
    · exact ⟨⟨rfl, rfl, rfl, rfl, desks⟩, rfl⟩

variable (fixed : loop.dispatcher.users.Fixed)

include fixed

theorem route_usersApart (me : Identity) (event : MessageEvent) :
    (loop.route me state event).1.UsersApart loop.dispatcher.users
        (loop.route me state' event).1 ∧
      (loop.route me state event).2.filter Entry.beyondHits =
        (loop.route me state' event).2.filter Entry.beyondHits := by
  obtain ⟨phase, identity, connections, lookups, desk⟩ := state
  obtain ⟨phase', identity', connections', lookups', desk'⟩ := state'
  obtain ⟨rfl, rfl, rfl, rfl, desks⟩ := apart
  simp only [route]
  split
  · split
    · exact ⟨⟨rfl, rfl, rfl, rfl, desks⟩, rfl⟩
    · obtain ⟨after, entries⟩ := loop.dispatcher.handleNew_usersApart fixed desks
        (Envelope.of event.message me)
      exact ⟨⟨rfl, rfl, rfl, rfl, after⟩, entries⟩
  · next edited _ =>
      split
      · exact ⟨⟨rfl, rfl, rfl, rfl, desks⟩, rfl⟩
      · obtain ⟨after, entries⟩ := loop.dispatcher.handleEdited_usersApart fixed desks
          (Envelope.of (editedMessage event edited) me)
        exact ⟨⟨rfl, rfl, rfl, rfl, after⟩, entries⟩
  · next timestamp _ =>
      obtain ⟨after, entries⟩ :=
        loop.dispatcher.handleDeleted_usersApart desks ⟨event.channel, timestamp⟩
      exact ⟨⟨rfl, rfl, rfl, rfl, after⟩, congrArg _ entries⟩

theorem onMessage_usersApart (event : MessageEvent) :
    (loop.onMessage state event).1.UsersApart loop.dispatcher.users
        (loop.onMessage state' event).1 ∧
      (loop.onMessage state event).2.filter Entry.beyondHits =
        (loop.onMessage state' event).2.filter Entry.beyondHits := by
  simp only [onMessage, ← apart.identity, ← apart.phase]
  split
  · exact ⟨apart, rfl⟩
  · split
    · exact ⟨apart, rfl⟩
    · split
      · exact ⟨apart, rfl⟩
      · exact loop.route_usersApart apart fixed _ event

/-- An event is handled in the same way, whatever is known of users. -/
theorem handle_usersApart (event : Event) :
    (loop.handle state event).1.UsersApart loop.dispatcher.users
        (loop.handle state' event).1 ∧
      (loop.handle state event).2.1.filter Entry.beyondHits =
        (loop.handle state' event).2.1.filter Entry.beyondHits := by
  have phase := apart.phase
  cases event with
  | connected =>
      obtain ⟨after, entries⟩ := loop.onConnected_usersApart apart
      exact ⟨after, by simp only [handle, phase, entries]⟩
  | message event =>
      obtain ⟨after, entries⟩ := loop.onMessage_usersApart apart fixed event
      exact ⟨after, by simp only [handle, List.filter_cons, phase, entries]⟩
  | latencyReport milliseconds => exact ⟨apart, by simp only [handle, phase]⟩
  | transportError code message => exact ⟨apart, by simp only [handle, phase]⟩
  | invalidCredentials => exact ⟨{ apart with phase := rfl }, by simp only [handle, phase]⟩
  | termination => exact ⟨{ apart with phase := rfl }, by simp only [handle, phase]⟩

omit apart

/-- A loop keeps step with itself, whatever is known of users, for who pays no attention to
the reports of users found in the cache. -/
theorem lockstep_usersApart :
    loop.Lockstep loop Entry.beyondHits (LoopState.UsersApart loop.dispatcher.users) where
  platform := rfl
  phase apart := apart.phase
  driver apart := apart.desk.driver
  mapDriver apart change :=
    { apart with desk := { apart.desk with driver := congrArg change apart.desk.driver } }
  handle apart event := loop.handle_usersApart apart fixed event

end EventLoop

/-! ## Sessions with different caches -/

namespace Moment

/-- The calls are made all the same when the reports of users found in the cache are left out. -/
theorem calls_seen (moments : List Moment) :
    calls (seen Entry.beyondHits moments) = calls moments := by
  simp only [calls, callsOf, seen, List.filterMap_map, List.filterMap_filter]
  congr 1
  funext moment
  obtain ⟨time, entry⟩ := moment
  cases entry with
  | call origin made => rfl
  | log event => simp [Entry.made?]

end Moment

namespace Bot

/-- The same bot with another cache of known users. -/
def withUserCache (bot : Bot) (size : Int) (capacity : Nat) : Bot :=
  { bot with
    config := { bot.config with userInfoCacheSize := size }
    userCapacity := capacity }

theorem registerAll_eq (bot : Bot) (plugins : List Plugin) :
    (bot.registerAll plugins).1 =
      { bot with registry := (bot.registry.registerAll plugins).1 } := by
  induction plugins generalizing bot with
  | nil => rfl
  | cons plugin rest ih => exact ih (bot.register plugin).1

/-- Bots whose configurations differ in the size of the cache of known users differ in that cache
only. -/
theorem registerAll_userInfoCacheSize {config : Config} {size : Int} {bot bot' : Bot}
    (valid : ofConfig config = .ok bot)
    (valid' : ofConfig { config with userInfoCacheSize := size } = .ok bot')
    (plugins : List Plugin) :
    (bot'.registerAll plugins).1 =
      (bot.registerAll plugins).1.withUserCache size bot'.userCapacity := by
  obtain ⟨config_eq, registry, responses⟩ := of_ofConfig valid
  obtain ⟨config_eq', registry', responses'⟩ := of_ofConfig valid'
  have capacities : bot.responseCapacity = bot'.responseCapacity :=
    Except.ok.inj (responses.symm.trans responses')
  obtain ⟨_, _, _, _⟩ := bot
  obtain ⟨_, _, _, _⟩ := bot'
  subst config_eq registry config_eq' registry' capacities
  rw [registerAll_eq, registerAll_eq]
  rfl

end Bot

namespace Session

variable (platform : ChatDriver δ) (identities : IdentityFinder) (driver : δ)

/-- Bots that differ in the cache of known users only work with the same loop, and start in states
that are the same but for what is known of users. -/
theorem start_withUserCache (bot : Bot) (size : Int) (capacity : Nat) (users : UserFinder) :
    let (session, begun, _) := start bot platform users identities driver
    let (session', begun', _) :=
      start (bot.withUserCache size capacity) platform users identities driver
    session' = session ∧ session.loop.dispatcher.users = users ∧
      begun.Lockstep (LoopState.UsersApart users) begun' :=
  ⟨rfl, rfl, ⟨LoopState.usersApart_initial _ _ _ _ _, rfl, rfl⟩⟩

/-- Bots that differ in the cache of known users only have the same sessions, but for the reports
of users found in the cache. -/
theorem seen_run_withUserCache {users : UserFinder} (fixed : users.Fixed) (bot : Bot) (size : Int)
    (capacity : Nat) (steps : List (SessionStep δ)) :
    let (session, begun, _) := start bot platform users identities driver
    let (session', begun', _) :=
      start (bot.withUserCache size capacity) platform users identities driver
    Moment.seen Entry.beyondHits (session.run begun steps).2 =
      Moment.seen Entry.beyondHits (session'.run begun' steps).2 := by
  obtain ⟨-, -, level⟩ := start_withUserCache platform identities driver bot size capacity users
  have lockstep := EventLoop.lockstep_usersApart
    (start bot platform users identities driver).1.loop fixed
  exact (lockstep_run lockstep level steps).2

end Session

/-- On a platform that answers from a table, a look-up through the cache is answered from the
table, whatever was looked up before.  It goes to the platform if the cache is turned off, or the
user is unknown, or is not among so many users that were looked up last as the cache may hold; a
look-up of an unknown user leaves the cache as it is; and the cache holds as many of the known
users that were looked up as it may.  So sessions of bots that are configured with caches of
different sizes, and else are the same, show the same at the same times, but for the reports of
users found in the cache; in particular they make the same calls with the same outcomes. -/
theorem UserCache.transparent (table : String → Except ApiError UserInfo) (capacity : Nat)
    (earlier : List String) (user : String) :
    let cache := (UserCache.empty capacity).afterAll (.always table) earlier
    let found := cache.find (.always table) user
    found.1 = table user ∧
      found.2.1.lookups = cache.lookups +
        (if capacity = 0 ∨ (table user).isOk = false ∨
          user ∉ (latestKnown table earlier).take capacity then 1 else 0) ∧
      ((table user).isOk = false → found.2.1.known = cache.known) ∧
      cache.known.size = min capacity (latestKnown table earlier).length ∧
      ∀ {config : Config} {size : Int} {bot bot' : Bot}, Bot.ofConfig config = .ok bot →
        Bot.ofConfig { config with userInfoCacheSize := size } = .ok bot' →
        ∀ (plugins : List Plugin) {δ : Type} (platform : ChatDriver δ)
          (identities : IdentityFinder) (driver : δ) (steps : List (SessionStep δ)),
        let (session, begun, _) :=
          Session.start (bot.registerAll plugins).1 platform (.always table) identities driver
        let (session', begun', _) :=
          Session.start (bot'.registerAll plugins).1 platform (.always table) identities driver
        Moment.seen Entry.beyondHits (session.run begun steps).2 =
            Moment.seen Entry.beyondHits (session'.run begun' steps).2 ∧
          Moment.calls (session.run begun steps).2 =
            Moment.calls (session'.run begun' steps).2 := by
  intro cache found
  have holds : Holds table capacity earlier cache := .afterAll table capacity earlier
  refine ⟨holds.find_answer user, ?_, fun unknown => ?_, holds.size_eq, ?_⟩
  · rw [holds.find_lookups user]
    congr 1
    by_cases among : user ∈ (latestKnown table earlier).take capacity
    · have positive : capacity ≠ 0 := by
        rintro rfl
        simp at among
      have known := (mem_latestKnown.mp (List.mem_of_mem_take among)).2
      simp [among, positive, known]
    · simp [among]
  · cases answer : table user with
    | ok info =>
        rw [answer] at unknown
        cases unknown
    | error error => exact holds.find_known_of_unknown answer
  · intro config size bot bot' valid valid' plugins δ platform identities driver steps
    rw [Bot.registerAll_userInfoCacheSize valid valid' plugins]
    have seen := Session.seen_run_withUserCache platform identities driver
      (fun _ _ => rfl : (UserFinder.always table).Fixed) (bot.registerAll plugins).1 size
      bot'.userCapacity steps
    refine ⟨seen, ?_⟩
    rw [← Moment.calls_seen, seen, Moment.calls_seen]

/-- A known user gives way to another and is looked up again, and an unknown one changes nothing;
and a bot that greets users by name does the same without a cache as with one. -/
theorem UserCache.transparent_greeting :
    let table := fun user => if user = "ann" ∨ user = "bob" then Except.ok ⟨user, user, none⟩
      else .error (.userNotFound user)
    let cache := (UserCache.empty 1).afterAll (.always table) ["ann", "eve", "bob"]
    let found := fun user => cache.find (.always table) user
    let greet := { Action.new .hear "anything" with
      predicate := some fun _ _ => true
      answer := some fun envelope => .lookUp envelope.user fun known =>
        .done (known.toOption.map fun user => .ofText user.name) }
    let cached : Config := { Config.default with userInfoCacheSize := 8 }
    let first := Session.start (Bot.registerAll ⟨.default, .empty, 5000, 0⟩
        [⟨"greeter", [], [greet], []⟩]).1
      MemoryPlatform.driver (.always table) (fun _ => .ok ⟨"bot", "Bot"⟩) .empty
    let second := Session.start (Bot.registerAll ⟨cached, .empty, 5000, 8⟩
        [⟨"greeter", [], [greet], []⟩]).1
      MemoryPlatform.driver (.always table) (fun _ => .ok ⟨"bot", "Bot"⟩) .empty
    let posted := fun user timestamp =>
      Event.message (.posted ⟨"general", user, "hello", ⟨timestamp⟩⟩)
    let steps := [.events [.connected, posted "ann" "1.0", posted "eve" "2.0", posted "ann" "3.0"]]
    let moments := (first.1.run first.2.1 steps).2
    let moments' := (second.1.run second.2.1 steps).2
    (found "ann").1 = table "ann" ∧ (found "ann").2.1.lookups = 4 ∧
      (found "bob").2.1.lookups = 3 ∧ (found "eve").2.1.known = cache.known ∧
      cache.known.size = 1 ∧ moments.length + 1 = moments'.length ∧
      (Moment.calls moments).length = 2 ∧
      Moment.seen Entry.beyondHits moments = Moment.seen Entry.beyondHits moments' ∧
      Moment.calls moments = Moment.calls moments' := by
  intro table cache found greet cached first second posted steps moments moments'
  obtain ⟨answer, lookups, -, size, sessions⟩ :=
    transparent table 1 ["ann", "eve", "bob"] "ann"
  obtain ⟨-, again, -, -, -⟩ := transparent table 1 ["ann", "eve", "bob"] "bob"
  obtain ⟨-, -, unknown, -, -⟩ := transparent table 1 ["ann", "eve", "bob"] "eve"
  refine ⟨answer, lookups.trans (by decide +kernel), again.trans (by decide +kernel),
    unknown (by decide +kernel), size.trans (by decide +kernel), by decide +kernel,
    by decide +kernel, ?_⟩
  exact sessions (rfl : Bot.ofConfig .default = .ok ⟨.default, .empty, 5000, 0⟩)
    (rfl : Bot.ofConfig cached = .ok ⟨cached, .empty, 5000, 8⟩) [⟨"greeter", [], [greet], []⟩]
    MemoryPlatform.driver (fun _ => .ok ⟨"bot", "Bot"⟩) .empty steps

end ChatBot
