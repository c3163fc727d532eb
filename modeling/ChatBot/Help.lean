import ChatBot.Plugin

/-!
# The help plugin

A command that greets the author of the message by name and lists the visible
actions: commands, hear actions, then scheduled actions, each kind under a title
of its own when it has any.
-/

namespace ChatBot

namespace Help

def pluginName : String := "help"

def bullet (info : ActionInfo) : String :=
  if info.description = "" then "\t• `" ++ info.usage ++ "`\n"
  else "\t• `" ++ info.usage ++ "` - " ++ info.description ++ "\n"

def visible (kind : ActionKind) (infos : List ActionInfo) : List ActionInfo :=
  infos.filter fun info => info.kind = kind && !info.hidden

/-- The part of the listing for some actions; nothing when there are none. -/
def paragraph (title : String) (infos : List ActionInfo) : String :=
  if infos.isEmpty then ""
  else "\n" ++ title ++ "\n" ++ String.join (infos.map bullet)

def listing (botName : String) (infos : List ActionInfo) : String :=
  "I'm `" ++ botName ++ "` and I listen to the chat to help out.\n" ++
  paragraph ("I currently support the following commands (address me with `@" ++ botName ++
    "` or in a direct message):") (visible .command infos) ++
  paragraph "And I listen for the following:" (visible .hear infos) ++
  paragraph "And I do these on a schedule:" (visible .scheduled infos) ++
  "\nType `help` in a direct message to see this again."

/-- Whether a body asks for help: the word alone, in any case. -/
def asks (body : String) : Bool :=
  (Text.strip body.toList).map Char.toLower = "help".toList

/-- The mention by which a user is greeted who cannot be looked up. -/
def mentionOf (user : String) : String :=
  "<@" ++ user ++ ">"

def greeting (name listing : String) : Answer :=
  .ofText ("Hi, " ++ name ++ "! " ++ listing)

/-- Works out the answer to a request for help. -/
def reply (listing : String) (envelope : Envelope) : Inquiry (Option Answer) :=
  .lookUp envelope.user fun found =>
    match found with
    | .ok user => .done (some (greeting user.displayName listing))
    | .error error =>
      .note ⟨.debug, "User lookup failed, greeting by mention",
          [("user", envelope.user), ("error", error.message)]⟩
        (.done (some (greeting (mentionOf envelope.user) listing)))

/-- The help command for a bot with the given actions. -/
def command (botName : String) (infos : List ActionInfo) : Action where
  trigger := .command
  usage := "help"
  description := "Reply with usage instructions"
  hidden := false
  predicate := some fun body _ => asks body
  answer := some (reply (listing botName infos))

/-- The help plugin for a bot with the given actions. -/
def plugin (botName : String) (infos : List ActionInfo) : Plugin :=
  (Plugin.new pluginName).addAction (command botName infos)

end Help

end ChatBot
