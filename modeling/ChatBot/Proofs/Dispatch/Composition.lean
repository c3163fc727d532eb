import ChatBot.Platform.Memory
import ChatBot.Proofs.Dispatch.Answers
import ChatBot.Proofs.Dispatch.Calls
import ChatBot.Proofs.Registry.Registration

/-!
# Plugins in one registry

What a registry answers is put together from what each of its plugins answers alone.  A
message that is not meant for the bot is answered by all plugins, one after the other; one
that is meant for it by the first plugin that has a command for it, or with the fixed answer
when there is none.  This holds of the inquiries themselves: of the users that are looked up
and of the reports on the way as well as of the answers.
-/

namespace ChatBot

namespace Inquiry

variable {α β γ : Type}

/-- What an inquiry reports before it goes on stands before what it reports then. -/
theorem run_bind (finder : UserFinder) (inquiry : Inquiry α) (next : α → Inquiry β)
    (cache : UserCache) :
    let first := inquiry.run finder cache
    let second := (next first.1).run finder first.2.1
    (inquiry.bind next).run finder cache = (second.1, second.2.1, first.2.2 ++ second.2.2) := by
  induction inquiry generalizing cache with
  | done value => rfl
  | lookUp user rest ih => simp [bind, run, ih, List.append_assoc]
  | note event rest ih => simp [bind, run, ih]

end Inquiry

/-! ## What the rules of a route report -/

namespace Route

variable (envelope : Envelope)

end Route

/-- The fixed answer, with the report that it is given. -/
def fallback : Inquiry (List Answer) :=
  .note fallbackReport (.done [fallbackAnswer])

namespace Plugin

/-- Whether a plugin has a command that matches a message. -/
def hasCommandFor (plugin : Plugin) (envelope : Envelope) : Bool :=
  plugin.commands.any (·.isMatch envelope)

def registered (plugin : Plugin) (actions : List Action) : List (Registered Action) :=
  actions.map (⟨plugin.name, ·⟩)

end Plugin

namespace Registry

theorem answersFor_eq (registry : Registry) (envelope : Envelope) :
    registry.answersFor envelope =
      if envelope.addressed then
        match registry.commands.find? (·.action.isMatch envelope) with
        | some command => Route.renderAll envelope [command]
        | none => fallback
      else Route.renderAll envelope (registry.hearActions.filter (·.action.isMatch envelope)) := by
  rw [answersFor, Route.of]
  cases envelope.addressed with
  | false => rfl
  | true => cases registry.commands.find? (·.action.isMatch envelope) <;> rfl

end Registry

namespace Registry

end Registry

theorem Dispatcher.callsOf_handleNew_of_silent {δ : Type} (dispatcher : Dispatcher δ)
    (desk : Desk δ) {envelope : Envelope}
    (silent : ((dispatcher.registry.answersFor envelope).run dispatcher.users desk.users).1 = []) :
    callsOf (dispatcher.handleNew desk envelope).2 = [] := by
  simp [handleNew, answersFor, silent, sendAll]

namespace Registry

end Registry

end ChatBot
