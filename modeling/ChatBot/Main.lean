import ChatBot.Console

/-!
# The console bot as a program

Gathers what the bot needs to know of its surroundings, hands it the lines of the
standard input one by one, and shows on the standard output what appears on its
terminal.
-/

namespace ChatBot

namespace Program

/-- What the program waits for. -/
inductive Signal where
  | line (text : String)
  | endOfInput
  | tick

/-- Splits a list of characters at each null character. -/
def splitAtNulls : List Char → List (List Char)
  | [] => [[]]
  | '\x00' :: rest => [] :: splitAtNulls rest
  | c :: rest =>
    match splitAtNulls rest with
    | [] => [[c]]
    | first :: others => (c :: first) :: others

/-- The variables in a text of entries that null characters end.  Each is a name, an
equals sign and a value. -/
def variablesOf (text : String) : List (String × String) :=
  (splitAtNulls text.toList).filterMap fun entry =>
    let name := entry.takeWhile (· ≠ '=')
    match entry.drop name.length with
    | [] => none
    | _ :: value => some (String.ofList name, String.ofList value)

/-- The environment variables, where the system shows them as a file. -/
def readVariables : IO (List (String × String)) := do
  match ← (IO.FS.readBinFile "/proc/self/environ").toBaseIO with
  | .ok bytes => return variablesOf ((String.fromUTF8? bytes).getD "")
  | .error _ => return []

/-- What stands at the end of a path. -/
def readNode (path : FilePath) : IO (Option FileNode) := do
  let place := (← IO.currentDir) / path.text
  if ← place.isDir then return some .folder
  else if ← place.pathExists then return some (.file (← IO.FS.readFile place))
  else return none

/-- The surroundings, as far as the options need them. -/
def readSurroundings (options : Console.Options) : IO Surroundings := do
  let environment ← readVariables
  let surroundings : Surroundings := {
    files := fun _ => none
    workingFolder := ⟨(← IO.currentDir).toString⟩
    userFolder := Surroundings.userFolderOf environment
    environment }
  let paths := (Console.loader options surroundings).candidates surroundings
  let nodes ← paths.mapM fun path => return (path, ← readNode path)
  return { surroundings with files := fun path => (nodes.lookup path).join }

/-- Waits for a line of the standard input. -/
def startReader : BaseIO (Task Signal) := do
  let input ← IO.getStdin
  BaseIO.asTask (do
    match ← input.getLine.toBaseIO with
    | .ok "" | .error _ => return .endOfInput
    | .ok text => return .line text) Task.Priority.dedicated

def startTimer : BaseIO (Task Signal) :=
  BaseIO.asTask (do
    IO.sleep 1000
    return .tick) Task.Priority.dedicated

/-- Shows the lines after the first so many, and gives how many there are. -/
def showFrom (shown : Nat) (console : Console) : IO Nat := do
  let output ← IO.getStdout
  let lines := console.linesFrom shown
  for line in lines do
    output.putStrLn line
  output.flush
  return shown + lines.length

/-- Follows a conversation until the session has stopped. -/
partial def converse (session : Session Terminal) (started : Nat) (console : Console)
    (shown : Nat) (reader timer : Task Signal) : IO Console := do
  let shown ← showFrom shown console
  if console.session.isStopped then return console
  let signal ← IO.waitAny [reader, timer]
  let elapsed := (← IO.monoMsNow) - started
  let console := console.take session (.wait (elapsed - console.session.now))
  match signal with
  | .tick => converse session started console shown reader (← startTimer)
  | .line text =>
    let console := (console.type text).takeAll session [.read, .handle]
    converse session started console shown (← startReader) timer
  | .endOfInput =>
    let console := console.takeAll session [.read, .handle]
    converse session started console shown timer timer

/-- Runs the bot that the options ask for. -/
def run (options : Console.Options) : IO UInt32 := do
  match Console.bot options (← readSurroundings options) .empty with
  | .error error =>
    IO.eprintln ("Error: " ++ error.message)
    return UInt32.ofNat ConsoleRun.failureCode
  | .ok bot =>
    let session := Console.sessionOf bot
    let console := (Console.start bot []).take session .handle
    let started ← IO.monoMsNow
    let console ← converse session started console 0 (← startReader) (← startTimer)
    return UInt32.ofNat (ConsoleRun.ofConsole console).exitCode

end Program

end ChatBot

def main (arguments : List String) : IO UInt32 := do
  match ChatBot.Console.Options.read arguments with
  | .misuse =>
    IO.eprintln "error: the arguments make no sense; try --help"
    return UInt32.ofNat ChatBot.ConsoleRun.misuseCode
  | .help =>
    for line in ChatBot.Console.Options.helpLines do
      IO.println line
    return 0
  | .run options => ChatBot.Program.run options
