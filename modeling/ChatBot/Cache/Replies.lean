import ChatBot.Cache.Lru
import ChatBot.Platform

/-!
# Tracked replies

Which replies the bot has posted for which source message, in the order in which
they were posted.  A source message without replies has no entry.
-/

namespace ChatBot

/-- The replies posted for source messages. -/
abbrev ReplyCache := Lru MessageKey (List ReplyRecord)

namespace ReplyCache

/-- Stores the replies of a source message, or forgets it when there are none. -/
def store (cache : ReplyCache) (key : MessageKey) (replies : List ReplyRecord) : ReplyCache :=
  if replies.isEmpty then (cache.remove key).2 else cache.put key replies

def describe (cache : ReplyCache) : String :=
  "ResponseCache \x7b capacity: " ++ toString cache.capacity ++ ", len: " ++
    toString cache.size ++ " \x7d"

end ReplyCache

end ChatBot
