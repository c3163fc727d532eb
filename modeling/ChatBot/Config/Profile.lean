import ChatBot.Text.LowerCase

/-!
# Profiles

A profile selects a configuration file that is read besides the common one.
Names of profiles are compared in lower case, and the two usual profiles have
short names.
-/

namespace ChatBot

/-- The circumstances that a bot is configured for. -/
inductive Profile where
  | development
  | production
  | custom (name : String)
  deriving DecidableEq, Inhabited, Repr

namespace Profile

def default : Profile := development

def ofName (name : String) : Profile :=
  let name := Text.toLower name
  if name = "production" ∨ name = "prod" then production
  else if name = "development" ∨ name = "dev" then development
  else custom name

def name : Profile → String
  | development => "development"
  | production => "production"
  | custom name => name

end Profile

end ChatBot
