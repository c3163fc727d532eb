import ChatBot.Platform

/-!
# A platform kept in memory

It accepts every request and remembers it, handing out timestamps in steps of
ten seconds, unless it is told to fail; then it remembers nothing.
-/

namespace ChatBot

/-- A platform that remembers what it was asked. -/
structure MemoryPlatform where
  nextTimestamp : Nat
  sent : List (String × OutgoingMessage × Timestamp)
  updated : List (String × Timestamp × OutgoingMessage)
  deleted : List (String × Timestamp)
  failing : Bool

namespace MemoryPlatform

def empty : MemoryPlatform :=
  { nextTimestamp := 1547785956, sent := [], updated := [], deleted := [], failing := false }

def timestampStep : Nat := 10

def refusal : ApiError :=
  .transport "in-memory driver set to fail"

def timestampAt (seconds : Nat) : Timestamp :=
  ⟨toString seconds ++ ".000000"⟩

def send (platform : MemoryPlatform) (channel : String) (message : OutgoingMessage) :
    Except ApiError Receipt × MemoryPlatform :=
  if platform.failing then (.error refusal, platform)
  else
    let timestamp := timestampAt platform.nextTimestamp
    (.ok ⟨channel, timestamp, message.text⟩,
      { platform with
        nextTimestamp := platform.nextTimestamp + timestampStep
        sent := platform.sent ++ [(channel, message, timestamp)] })

def update (platform : MemoryPlatform) (channel : String) (timestamp : Timestamp)
    (message : OutgoingMessage) : Except ApiError Receipt × MemoryPlatform :=
  if platform.failing then (.error refusal, platform)
  else
    (.ok ⟨channel, timestamp, message.text⟩,
      { platform with updated := platform.updated ++ [(channel, timestamp, message)] })

def delete (platform : MemoryPlatform) (channel : String) (timestamp : Timestamp) :
    Except ApiError Unit × MemoryPlatform :=
  if platform.failing then (.error refusal, platform)
  else (.ok (), { platform with deleted := platform.deleted ++ [(channel, timestamp)] })

/-- Tells the platform to fail from now on, or no longer. -/
def setFailing (platform : MemoryPlatform) (failing : Bool) : MemoryPlatform :=
  { platform with failing }

def callCount (platform : MemoryPlatform) : Nat :=
  platform.sent.length + platform.updated.length + platform.deleted.length

def driver : ChatDriver MemoryPlatform :=
  { send, update, delete }

end MemoryPlatform

end ChatBot
