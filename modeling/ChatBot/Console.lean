import ChatBot.Config.Loader
import ChatBot.Console.Options
import ChatBot.Console.Plugins
import ChatBot.Console.Terminal
import ChatBot.Session
import ChatBot.Wire

/-!
# The console bot

A bot at a terminal.  What is typed is read line by line: a line that starts with a
brace is an event in its JSON form, and any other is a message in the channel of the
terminal.  Reading, handling events and waiting take turns in any order; events wait
in a queue between being read and being handled.
-/

namespace ChatBot

/-- What a line means that was typed. -/
inductive ConsoleLine where
  | blank
  | malformed
  | event (event : Event)
  | message (text : String)

/-- The console bot at work: the lines that are not read yet, whether there is anything
to be read, the events that were read but not handled, and the session. -/
structure Console where
  input : List String
  isReading : Bool
  queue : List Event
  session : SessionState Terminal

/-- Whose turn it is: the reader's, the event loop's, or that of time. -/
inductive ConsoleTurn where
  | read
  | handle
  | wait (milliseconds : Nat)
  deriving DecidableEq, Repr

namespace ConsoleLine

def ofText (line : String) : ConsoleLine :=
  let line := Text.trim line
  match line.toList with
  | [] => blank
  | '{' :: _ =>
    match Event.read line with
    | some found => event found
    | none => malformed
  | _ => message line

end ConsoleLine

namespace Console

def user : String := "Uconsole"

def botId : String := "UPERCH"

def users : UserFinder := fun _ id =>
  .ok ⟨id, Text.toLower (String.ofList (id.toList.dropWhile (· = 'U'))), none⟩

/-- The bot has the name of its configuration. -/
def identities (name : String) : IdentityFinder := fun _ =>
  .ok ⟨botId, name⟩

/-- The configuration with what the command line says over it. -/
def withOptions (config : Config) (options : Options) : Config :=
  { config with
    threadedReplies := config.threadedReplies || options.threaded
    responseCacheSize := options.responseCacheSize.getD config.responseCacheSize }

/-- The loader that the command line asks for. -/
def loader (options : Options) (surroundings : Surroundings) : ConfigLoader :=
  { ConfigLoader.new surroundings with file := options.configFile.map FilePath.mk }

/-- The configuration that the command line asks for. -/
def loadConfig (options : Options) (surroundings : Surroundings) : Except ConfigError Config :=
  ((loader options surroundings).load surroundings).1.map (withOptions · options)

/-- The bot that the command line asks for, with its plugins.  A log file is made in
the given tree. -/
def bot (options : Options) (surroundings : Surroundings) (folder : FileTree) :
    Except BotError Bot :=
  match loadConfig options surroundings with
  | .error error => .error (.config error)
  | .ok config =>
    (Bot.setUp config false folder).1.map fun bot => (bot.registerAll plugins).1

def greeting (name : String) : TerminalLine :=
  .notice ("Talking to " ++ name ++ " in #" ++ channel ++ ". Mention it with <@" ++ botId ++
    ">. Ctrl+D quits.")

/-- The session of a bot at the terminal. -/
def sessionOf (bot : Bot) : Session Terminal :=
  (Session.start bot Terminal.driver users (identities bot.config.name) .empty).1

/-- A bot before anything is read.  The first event is that it is connected. -/
def start (bot : Bot) (input : List String) : Console where
  input := input
  isReading := true
  queue := [.connected]
  session :=
    (Session.start bot Terminal.driver users (identities bot.config.name)
      (Terminal.empty.print (greeting bot.config.name))).2.1

def terminal (console : Console) : Terminal :=
  console.session.loop.desk.driver

/-- Puts an event at the end of the queue.  When the session has stopped, the reader
learns it here and stops as well. -/
def enqueue (console : Console) (event : Event) : Console :=
  if console.session.isStopped then { console with isReading := false }
  else { console with queue := console.queue ++ [event] }

/-- The message that a line is read as, with a stamp of the terminal's clock. -/
def typedMessage (text : String) (stamp : Nat) : Event :=
  .message (.posted ⟨channel, user, text, stampOf stamp⟩)

def takeLine (console : Console) : ConsoleLine → Console
  | .blank | .malformed => console
  | .event event => console.enqueue event
  | .message text =>
    let (stamp, terminal) := console.terminal.printStamped .typed
    { console with session := console.session.withDriver terminal }.enqueue
      (typedMessage text stamp)

/-- The reader's turn.  At the end of the input it asks the bot to terminate. -/
def read (console : Console) : Console :=
  if !console.isReading then console
  else
    match console.input with
    | [] => { console.enqueue .termination with isReading := false }
    | line :: rest => { console with input := rest }.takeLine (.ofText line)

def handle (session : Session Terminal) (console : Console) : Console :=
  match console.queue with
  | [] => console
  | event :: rest =>
    { console with
      queue := rest
      session := (session.deliver console.session [event]).1 }

def take (session : Session Terminal) (console : Console) : ConsoleTurn → Console
  | .read => console.read
  | .handle => console.handle session
  | .wait milliseconds =>
    { console with session := (session.advance console.session milliseconds).1 }

def takeAll (session : Session Terminal) (console : Console) (turns : List ConsoleTurn) :
    Console :=
  turns.foldl (take session) console

/-- Reads at most so many lines, the end of the input counted, and handles every event
as soon as it is read, until the session has stopped. -/
def playOn (session : Session Terminal) : Nat → Console → Console
  | 0, console => console
  | limit + 1, console =>
    if console.session.isStopped then console
    else playOn session limit (console.read.handle session)

def play (bot : Bot) (input : List String) : Console :=
  playOn (sessionOf bot) (input.length + 1) ((start bot input).handle (sessionOf bot))

/-- Whether the bot was ended by the refusal of its credentials. -/
def failed (console : Console) : Bool :=
  console.session.ending? = some .invalidCredentials

/-- A console with one more line to be read. -/
def type (console : Console) (line : String) : Console :=
  { console with input := console.input ++ [line] }

/-- The lines that were shown after the first so many. -/
def linesFrom (console : Console) (shown : Nat) : List String :=
  (console.terminal.lines.drop shown).map (·.text)

def output (console : Console) : List String :=
  console.linesFrom 0

end Console

/-- What is seen of a run of the console bot from outside: its lines, of which each
may take several rows, and the code that it ends with. -/
structure ConsoleRun where
  lines : List String
  exitCode : Nat

namespace ConsoleRun

def failureCode : Nat := 1

/-- The code after a command line that makes no sense. -/
def misuseCode : Nat := 2

/-- What is seen of a console bot that has ended. -/
def ofConsole (console : Console) : ConsoleRun where
  lines := console.output
  exitCode := if console.failed then failureCode else 0

/-- The run of a command line on all lines of an input. -/
def ofArguments (arguments : List String) (surroundings : Surroundings) (folder : FileTree)
    (input : List String) : ConsoleRun :=
  match Console.Options.read arguments with
  | .misuse => ⟨[], misuseCode⟩
  | .help => ⟨Console.Options.helpLines, 0⟩
  | .run options =>
    match Console.bot options surroundings folder with
    | .error _ => ⟨[], failureCode⟩
    | .ok bot => ofConsole (Console.play bot input)

end ConsoleRun

end ChatBot
