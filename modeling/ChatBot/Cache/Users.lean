import ChatBot.Cache.Lru
import ChatBot.Platform

/-!
# Known users

What the platform said about users, so that it is asked again only for users
not seen lately.  Failed look-ups are not kept.
-/

namespace ChatBot

/-- What is known of users, and how many look-ups went to the platform. -/
structure UserCache where
  known : Lru String UserInfo
  lookups : Nat

namespace UserCache

def empty (capacity : Nat) : UserCache :=
  ⟨.empty capacity, 0⟩

def hit (id : String) : LogEvent :=
  ⟨.trace, "User info cache hit", [("user", id)]⟩

/-- Looks a user up, in the cache first. -/
def find (finder : UserFinder) (cache : UserCache) (id : String) :
    Except ApiError UserInfo × UserCache × List LogEvent :=
  match cache.known.get? id with
  | (some user, known) => (.ok user, { cache with known }, [hit id])
  | (none, known) =>
    match finder cache.lookups id with
    | .ok user => (.ok user, ⟨known.put id user, cache.lookups + 1⟩, [])
    | .error error => (.error error, ⟨known, cache.lookups + 1⟩, [])

end UserCache

end ChatBot
