import ChatBot.Cache.Users

/-!
# Inquiries

How an action works out its answer.  It may look up users and report on its
work on the way; nothing else is in its reach.  An inquiry is data: it is carried
out against a cache of users, or read off against a fixed table.
-/

namespace ChatBot

/-- A computation that may look up users and report on its work. -/
inductive Inquiry (α : Type) where
  | done (value : α)
  | lookUp (user : String) (next : Except ApiError UserInfo → Inquiry α)
  | note (event : LogEvent) (next : Inquiry α)

namespace Inquiry

variable {α β : Type}

/-- Goes on with the value of an inquiry. -/
def bind (inquiry : Inquiry α) (next : α → Inquiry β) : Inquiry β :=
  match inquiry with
  | done value => next value
  | lookUp user rest => lookUp user fun found => (rest found).bind next
  | note event rest => note event (rest.bind next)

/-- Carries out an inquiry: its value, the cache after its look-ups, and the
reports on the way. -/
def run (finder : UserFinder) (cache : UserCache) :
    Inquiry α → α × UserCache × List LogEvent
  | done value => (value, cache, [])
  | lookUp user next =>
    let (found, cache, hits) := cache.find finder user
    let (value, cache, events) := run finder cache (next found)
    (value, cache, hits ++ events)
  | note event next =>
    let (value, cache, events) := run finder cache next
    (value, cache, event :: events)

/-- The value of an inquiry when every user is answered from a fixed table. -/
def value (table : String → Except ApiError UserInfo) : Inquiry α → α
  | done value => value
  | lookUp user next => (next (table user)).value table
  | note _ next => next.value table

end Inquiry

end ChatBot
