import ChatBot.Proofs.Dispatch.Steps

/-!
# Reports of failures

A dispatcher reports each call that fails, at once and once, and nothing else as an error.
Other errors among its entries are those that rules note themselves while they work out their
answers.
-/

namespace ChatBot

def errorsOf (entries : List Entry) : List LogEvent :=
  (entries.filterMap Entry.log?).filter (·.level = .error)

@[simp]
theorem errorsOf_append (first second : List Entry) :
    errorsOf (first ++ second) = errorsOf first ++ errorsOf second := by
  simp [errorsOf]

@[simp]
theorem errorsOf_call (origin : Origin) (made : Call) (rest : List Entry) :
    errorsOf (.call origin made :: rest) = errorsOf rest :=
  rfl

theorem errorsOf_log (event : LogEvent) (rest : List Entry) :
    errorsOf (.log event :: rest) =
      if event.level = .error then event :: errorsOf rest else errorsOf rest := by
  simp [errorsOf, Entry.log?, List.filter_cons]

@[simp]
theorem errorsOf_logs (events : List LogEvent) :
    errorsOf (events.map Entry.log) = events.filter (·.level = .error) := by
  simp [errorsOf, List.filterMap_map, Function.comp_def, Entry.log?]

/-- The error that is reported of a call that was made for a source message and has failed: what
could not be done, in which channel, to which reply if there is one, and why. -/
def MadeCall.failure? : MadeCall → Option LogEvent
  | (.source _, .send channel _ (.error error)) =>
    some ⟨.error, "Failed to send reply", [("channel", channel), ("error", error.message)]⟩
  | (.source _, .update channel timestamp _ (.error error)) =>
    some ⟨.error, "Failed to update reply",
      [("channel", channel), ("reply", timestamp.text), ("error", error.message)]⟩
  | (.source _, .delete channel timestamp (.error error)) =>
    some ⟨.error, "Failed to delete reply",
      [("channel", channel), ("reply", timestamp.text), ("error", error.message)]⟩
  | _ => none

/-- The errors among entries are the failures of the calls among them. -/
def ReportsFailures (entries : List Entry) : Prop :=
  errorsOf entries = (callsOf entries).filterMap MadeCall.failure?

namespace ReportsFailures

variable {entries others : List Entry}

theorem nil : ReportsFailures [] :=
  rfl

theorem append (first : ReportsFailures entries) (second : ReportsFailures others) :
    ReportsFailures (entries ++ others) := by
  rw [ReportsFailures, errorsOf_append, callsOf_append, List.filterMap_append, first, second]

theorem log {event : LogEvent} (harmless : event.level ≠ .error)
    (reported : ReportsFailures entries) : ReportsFailures (.log event :: entries) := by
  rw [ReportsFailures, errorsOf_log, if_neg harmless, callsOf_log, reported]

/-- A call that does not fail for a source message calls for no error. -/
theorem call {origin : Origin} {made : Call} (fine : MadeCall.failure? (origin, made) = none)
    (reported : ReportsFailures entries) : ReportsFailures (.call origin made :: entries) := by
  rw [ReportsFailures, errorsOf_call, callsOf_call, List.filterMap_cons, fine, reported]

/-- A call that fails is followed by its report. -/
theorem failed {origin : Origin} {made : Call} {event : LogEvent}
    (fails : MadeCall.failure? (origin, made) = some event) (severe : event.level = .error)
    (reported : ReportsFailures entries) :
    ReportsFailures (.call origin made :: .log event :: entries) := by
  rw [ReportsFailures, errorsOf_call, errorsOf_log, if_pos severe, callsOf_call, callsOf_log,
    List.filterMap_cons, fails, reported]

/-- Where no calls are made at first, the errors are those up to then, and the failures of the
calls after that. -/
theorem after_silence (silent : callsOf entries = []) (reported : ReportsFailures others) :
    errorsOf (entries ++ others) =
      errorsOf entries ++ (callsOf (entries ++ others)).filterMap MadeCall.failure? := by
  rw [errorsOf_append, callsOf_append, silent, List.nil_append, reported]

end ReportsFailures

/-! ## What rules note themselves -/

theorem UserCache.eq_hit_of_mem_find {finder : UserFinder} {cache : UserCache} {user : String}
    {event : LogEvent} (member : event ∈ (cache.find finder user).2.2) : event = hit user := by
  unfold find at member
  split at member
  · exact List.mem_singleton.mp member
  · split at member
    · simp at member
    · simp at member

namespace Inquiry

variable {α β : Type} {event : LogEvent}

/-- An inquiry notes an event, whatever is answered to its look-ups for that. -/
def Notes (event : LogEvent) : Inquiry α → Prop
  | done _ => False
  | lookUp _ next => ∃ found, (next found).Notes event
  | note other next => event = other ∨ next.Notes event

theorem eq_of_notes_report {other : LogEvent} {value : α}
    (notes : (note other (done value)).Notes event) : event = other :=
  notes.resolve_right id

theorem notes_of_bind {inquiry : Inquiry α} {next : α → Inquiry β}
    (notes : (inquiry.bind next).Notes event) :
    inquiry.Notes event ∨ ∃ value, (next value).Notes event := by
  induction inquiry with
  | done value => exact Or.inr ⟨value, notes⟩
  | lookUp user rest ih =>
      obtain ⟨found, later⟩ := notes
      exact (ih found later).imp_left fun inside => ⟨found, inside⟩
  | note other rest ih =>
      rcases notes with rfl | later
      · exact Or.inl (Or.inl rfl)
      · exact (ih later).imp_left Or.inr

/-- Carrying out an inquiry reports no errors but those that it notes. -/
theorem notes_of_mem_run (severe : event.level = .error) (finder : UserFinder)
    {inquiry : Inquiry α} {cache : UserCache} (member : event ∈ (inquiry.run finder cache).2.2) :
    inquiry.Notes event := by
  induction inquiry generalizing cache with
  | done value => simp [run] at member
  | note other rest ih =>
      rcases List.mem_cons.mp member with rfl | later
      · exact Or.inl rfl
      · exact Or.inr (ih later)
  | lookUp user rest ih =>
      rcases List.mem_append.mp member with hit | later
      · obtain rfl := UserCache.eq_hit_of_mem_find hit
        cases severe
      · exact ⟨_, ih _ later⟩

end Inquiry

/-- A rule notes an event while it works out an answer. -/
def Action.Notes (action : Action) (event : LogEvent) : Prop :=
  ∃ answer envelope, action.answer = some answer ∧ (answer envelope).Notes event

namespace Route

variable {event : LogEvent} {envelope : Envelope}

theorem notes_of_renderOne (severe : event.level = .error) {matched : Registered Action}
    (notes : (renderOne envelope matched).Notes event) : matched.action.Notes event := by
  rcases Inquiry.notes_of_bind notes with own | ⟨answer, after⟩
  · unfold Action.render at own
    split at own
    · next answer answers => exact ⟨answer, envelope, answers, own⟩
    · obtain rfl := Inquiry.eq_of_notes_report own
      cases severe
  · -- What is noted once the rule has answered is no error.
    cases answer with
    | none =>
        obtain rfl := Inquiry.eq_of_notes_report after
        cases severe
    | some answer =>
        simp only at after
        split at after
        · obtain rfl := Inquiry.eq_of_notes_report after
          cases severe
        · obtain rfl := Inquiry.eq_of_notes_report after
          cases severe

theorem notes_of_renderAll (severe : event.level = .error) {matched : List (Registered Action)}
    (notes : (renderAll envelope matched).Notes event) :
    ∃ rule ∈ matched, rule.action.Notes event := by
  induction matched with
  | nil => cases notes
  | cons first rest ih =>
      rcases Inquiry.notes_of_bind notes with own | ⟨answers, later⟩
      · exact ⟨first, List.mem_cons_self .., notes_of_renderOne severe own⟩
      · rcases Inquiry.notes_of_bind later with others | ⟨_, none⟩
        · obtain ⟨rule, member, inside⟩ := ih others
          exact ⟨rule, List.mem_cons_of_mem first member, inside⟩
        · cases none

end Route

def Registry.rules (registry : Registry) : List (Registered Action) :=
  registry.commands ++ registry.hearActions

theorem Registry.mem_rules_add {registry : Registry} {plugin : Plugin}
    {rule : Registered Action} :
    rule ∈ (registry.add plugin).rules ↔ rule ∈ registry.rules ∨
      ∃ action ∈ plugin.commands ++ plugin.hearActions, rule = ⟨plugin.name, action⟩ := by
  simp only [rules, add, List.mem_append, List.mem_map, eq_comm, or_and_right, exists_or]
  exact or_or_or_comm

theorem Route.mem_rules {registry : Registry} {envelope : Envelope} {rule : Registered Action}
    (member : rule ∈ (Route.of registry envelope).actions) : rule ∈ registry.rules := by
  unfold Route.of at member
  split at member
  · split at member
    · next found =>
        obtain rfl := List.mem_singleton.mp member
        exact List.mem_append_left _ (List.mem_of_find?_eq_some found)
    · simp [actions] at member
  · exact List.mem_append_right _ (List.mem_of_mem_filter member)

/-- Working out the answers to a message, only rules note errors. -/
theorem Registry.notes_of_answersFor {event : LogEvent} (severe : event.level = .error)
    {registry : Registry} {envelope : Envelope}
    (notes : (registry.answersFor envelope).Notes event) :
    ∃ rule ∈ registry.rules, rule.action.Notes event := by
  unfold answersFor at notes
  split at notes
  · obtain rfl := Inquiry.eq_of_notes_report notes
    cases severe
  · obtain ⟨rule, member, inside⟩ := Route.notes_of_renderAll severe notes
    exact ⟨rule, Route.mem_rules member, inside⟩

/-! ## What a dispatcher reports -/

namespace Dispatcher

variable {δ : Type} (dispatcher : Dispatcher δ)

theorem reportsFailures_sendAll (source : MessageKey) (answers : List Answer) (state : δ) :
    ReportsFailures (dispatcher.sendAll source answers state).2.2 := by
  induction answers generalizing state with
  | nil => exact .nil
  | cons answer rest ih =>
      cases answered : dispatcher.driver.send state source.channel
          (dispatcher.settings.outgoing source.timestamp answer) with
      | mk result next =>
          cases result with
          | ok receipt =>
              simp only [sendAll, answered]
              exact .call rfl (.log (by simp [DispatchReport.event]) (ih next))
          | error error =>
              simp only [sendAll, answered]
              exact .failed rfl rfl (ih next)

theorem reportsFailures_updateAll (source : MessageKey) (changes : List (ReplyRecord × Answer))
    (state : δ) : ReportsFailures (dispatcher.updateAll source changes state).2.2 := by
  induction changes generalizing state with
  | nil => exact .nil
  | cons change rest ih =>
      obtain ⟨old, answer⟩ := change
      cases answered : dispatcher.driver.update state old.channel old.timestamp
          answer.replacement with
      | mk result next =>
          cases result with
          | ok receipt =>
              simp only [updateAll, answered]
              exact .call rfl (.log (by simp [DispatchReport.event]) (ih next))
          | error error =>
              simp only [updateAll, answered]
              exact .failed rfl rfl (ih next)

theorem reportsFailures_deleteAll (source : MessageKey) (replies : List ReplyRecord) (state : δ) :
    ReportsFailures (dispatcher.deleteAll source replies state).2 := by
  induction replies generalizing state with
  | nil => exact .nil
  | cons reply rest ih =>
      cases answered : dispatcher.driver.delete state reply.channel reply.timestamp with
      | mk result next =>
          cases result with
          | ok done =>
              simp only [deleteAll, answered]
              exact .call rfl (.log (by simp [DispatchReport.event]) (ih next))
          | error error =>
              simp only [deleteAll, answered]
              exact .failed rfl rfl (ih next)

theorem reportsFailures_reconcile (source : MessageKey) (previous : List ReplyRecord)
    (answers : List Answer) (state : δ) :
    ReportsFailures (dispatcher.reconcile source previous answers state).2.2 := by
  unfold reconcile
  split
  · exact dispatcher.reportsFailures_deleteAll source previous state
  · split
    · exact dispatcher.reportsFailures_updateAll source _ state
    · have deletions := dispatcher.reportsFailures_deleteAll source previous state
      exact .log (by simp [DispatchReport.event])
        (deletions.append (dispatcher.reportsFailures_sendAll source answers _))

/-- The errors that rules note while the answers to a step are worked out. -/
def noted (desk : Desk δ) : DispatchStep → List LogEvent
  | .posted envelope => errorsOf (dispatcher.answersFor desk envelope).2.2
  | .edited envelope =>
    if desk.replies.isEnabled then errorsOf (dispatcher.answersFor desk envelope).2.2 else []
  | .deleted _ => []

variable {dispatcher} in
theorem notes_of_mem_noted {desk : Desk δ} {step : DispatchStep} {event : LogEvent}
    (member : event ∈ dispatcher.noted desk step) :
    event.level = .error ∧ ∃ rule ∈ dispatcher.registry.rules, rule.action.Notes event := by
  have noted_by (envelope : Envelope)
      (inside : event ∈ errorsOf (dispatcher.answersFor desk envelope).2.2) :
      event.level = .error ∧ ∃ rule ∈ dispatcher.registry.rules, rule.action.Notes event := by
    rw [answersFor, errorsOf_logs, List.mem_filter] at inside
    have severe := of_decide_eq_true inside.2
    exact ⟨severe, Registry.notes_of_answersFor severe
      (Inquiry.notes_of_mem_run severe dispatcher.users inside.1)⟩
  cases step with
  | posted envelope => exact noted_by envelope member
  | deleted key => simp [noted] at member
  | edited envelope =>
      simp only [noted] at member
      split at member
      · exact noted_by envelope member
      · simp at member

theorem callsOf_answersFor (desk : Desk δ) (envelope : Envelope) :
    callsOf (dispatcher.answersFor desk envelope).2.2 = [] :=
  callsOf_logs _

/-- The errors of a step are those that rules note, and then the failures of its calls. -/
theorem errorsOf_take (desk : Desk δ) (step : DispatchStep) :
    errorsOf (dispatcher.take desk step).2 =
      dispatcher.noted desk step ++
        (callsOf (dispatcher.take desk step).2).filterMap MadeCall.failure? := by
  cases step with
  | posted envelope =>
      exact ReportsFailures.after_silence (dispatcher.callsOf_answersFor desk envelope)
        (dispatcher.reportsFailures_sendAll envelope.key _ _)
  | deleted key =>
      simp only [take, handleDeleted, noted, List.nil_append]
      split
      · exact dispatcher.reportsFailures_deleteAll key _ desk.driver
      · rfl
  | edited envelope =>
      have silent := dispatcher.callsOf_answersFor desk envelope
      simp only [take, handleEdited, noted]
      cases desk.replies.isEnabled with
      | false => rfl
      | true =>
          simp only [Bool.not_true, Bool.false_eq_true, if_false, if_true]
          split
          · split
            · simp [silent]
            · exact ReportsFailures.after_silence silent
                (dispatcher.reportsFailures_sendAll envelope.key _ _)
          · exact ReportsFailures.after_silence silent
              (dispatcher.reportsFailures_reconcile envelope.key _ _ _)

end Dispatcher

end ChatBot
