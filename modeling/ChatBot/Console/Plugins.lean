import ChatBot.Plugin
import ChatBot.Text.LowerCase
import ChatBot.Text.Occurrence

/-!
# The plugins of the console bot

Two small plugins, one of each kind of action: it reacts to blue jays, makes
things on command, and chirps once an hour.
-/

namespace ChatBot

namespace Console

def channel : String := "Cconsole"

/-- Reacts to blue jays, in letters of either case. -/
def blueJays : Action :=
  { Action.new .hear "blue jays" with
    description := "Reply when someone mentions blue jays"
    predicate := some fun text _ => Text.contains (Text.toLower text) "blue jays"
    answer := some fun _ =>
      .done (some (.ofText "I heard you say something about blue jays?")) }

def chirp : ScheduledAction where
  schedule := .every (.ofSeconds 3600)
  description := "Chirp in the console channel"
  hidden := false
  posts := [(channel, .ofText "Chirp!")]
  takes := fun _ => 0

def birds : Plugin :=
  ((Plugin.new "birds").addAction blueJays).addScheduled chirp

def make : Action :=
  { Action.new .command "make `<something>`" with
    description := "Have the bot make something for you"
    predicate := some fun text _ => "make".toList.isPrefixOf text.toList
    answer := some fun envelope =>
      .done (some (.ofText ("Make it yourself, <@" ++ envelope.user ++ ">"))) }

def maker : Plugin :=
  (Plugin.new "maker").addAction make

/-- All plugins of the console bot, in the order of their registration. -/
def plugins : List Plugin := [birds, maker]

end Console

end ChatBot
