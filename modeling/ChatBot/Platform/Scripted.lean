import ChatBot.Platform

/-!
# A platform with scripted failures

A chat driver behind a script.  The next entry of the script decides the next
call: a refusal makes it fail without reaching the driver, and an empty entry
lets it through.  Without an entry a call goes through.  Receipts may name
another channel than the one that was asked for.
-/

namespace ChatBot

/-- A driver's state behind a script of failures. -/
structure Scripted (δ : Type) where
  script : List (Option ApiError)
  inner : δ

namespace Scripted

variable {δ : Type}

/-- The refusal that awaits the next call, and the state after it was taken from
the script. -/
def nextFailure (state : Scripted δ) : Option ApiError × Scripted δ :=
  match state.script with
  | [] => (none, state)
  | entry :: rest => (entry, { state with script := rest })

/-- Makes a call unless the script refuses it. -/
def guarded {α : Type} (call : δ → Except ApiError α × δ) (state : Scripted δ) :
    Except ApiError α × Scripted δ :=
  match state.nextFailure with
  | (some error, state) => (.error error, state)
  | (none, state) =>
    let (result, inner) := call state.inner
    (result, { state with inner })

/-- Names another channel in a receipt where one is given for it. -/
def redirectReceipt (redirect : List (String × String)) (receipt : Receipt) : Receipt :=
  { receipt with channel := (redirect.lookup receipt.channel).getD receipt.channel }

def driver (redirect : List (String × String)) (inner : ChatDriver δ) :
    ChatDriver (Scripted δ) where
  send state channel message :=
    let (result, state) := state.guarded fun d => inner.send d channel message
    (result.map (redirectReceipt redirect), state)
  update state channel timestamp message :=
    let (result, state) := state.guarded fun d => inner.update d channel timestamp message
    (result.map (redirectReceipt redirect), state)
  delete state channel timestamp :=
    state.guarded fun d => inner.delete d channel timestamp

/-- Adds entries at the end of the script. -/
def plan (state : Scripted δ) (entries : List (Option ApiError)) : Scripted δ :=
  { state with script := state.script ++ entries }

def mapInner (change : δ → δ) (state : Scripted δ) : Scripted δ :=
  { state with inner := change state.inner }

end Scripted

end ChatBot
