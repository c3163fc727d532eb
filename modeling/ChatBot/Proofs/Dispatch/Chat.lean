import ChatBot.Proofs.Dispatch.Ledger

/-!
# The chat as everyone sees it

A platform that accepts every request keeps a chat of the messages that stand in it.
A post adds a message, an update replaces what a message says, and a deletion takes
a message away.  What a dispatcher has made of the chat can then be read off its
calls, one after the other.
-/

namespace ChatBot

/-- A message that stands in the chat. -/
structure LiveMessage where
  place : MessageKey
  text : String
  blocks : List Json

/-- A chat in which something else is said at a place. -/
def replaceAt (place : MessageKey) (message : OutgoingMessage) (chat : List LiveMessage) :
    List LiveMessage :=
  chat.map fun live =>
    if live.place = place then ⟨live.place, message.text, message.blocks⟩ else live

/-- A chat without what stands at a place. -/
def removeAt (place : MessageKey) (chat : List LiveMessage) : List LiveMessage :=
  chat.filter fun live => live.place ≠ place

namespace Call

/-- Whether the platform has accepted a call. -/
def accepted : Call → Bool
  | send _ _ (.ok _) | update _ _ _ (.ok _) | delete _ _ (.ok _) => true
  | _ => false

/-- What a call makes of the chat. -/
def shown (chat : List LiveMessage) : Call → List LiveMessage
  | send _ message (.ok receipt) => chat ++ [⟨receipt.place, message.text, message.blocks⟩]
  | update channel timestamp message (.ok _) => replaceAt ⟨channel, timestamp⟩ message chat
  | delete channel timestamp (.ok _) => removeAt ⟨channel, timestamp⟩ chat
  | _ => chat

/-- The place at which a call changes the chat. -/
def touched? : Call → Option MessageKey
  | send _ _ (.ok receipt) => some receipt.place
  | send _ _ (.error _) => none
  | update channel timestamp _ _ => some ⟨channel, timestamp⟩
  | delete channel timestamp _ => some ⟨channel, timestamp⟩

end Call

/-- What calls make of the chat, one after the other. -/
def chatAfter (chat : List LiveMessage) (calls : List MadeCall) : List LiveMessage :=
  calls.foldl (fun chat made => made.2.shown chat) chat

theorem chatAfter_append (chat : List LiveMessage) (first second : List MadeCall) :
    chatAfter chat (first ++ second) = chatAfter (chatAfter chat first) second :=
  List.foldl_append

theorem replaceAt_cons (place : MessageKey) (message : OutgoingMessage) (live : LiveMessage)
    (chat : List LiveMessage) :
    replaceAt place message (live :: chat) =
      (if live.place = place then ⟨live.place, message.text, message.blocks⟩ else live) ::
        replaceAt place message chat :=
  rfl

section Parts

variable {chat : List LiveMessage} {places : List MessageKey}

theorem filter_replaceAt (place : MessageKey) (message : OutgoingMessage)
    (chat : List LiveMessage) (places : List MessageKey) :
    (replaceAt place message chat).filter (fun live => live.place ∈ places) =
      replaceAt place message (chat.filter fun live => live.place ∈ places) := by
  unfold replaceAt
  rw [List.filter_map]
  congr 2
  funext live
  simp only [Function.comp_apply]
  split <;> rfl

theorem replaceAt_eq_self {place : MessageKey} (message : OutgoingMessage)
    (absent : ∀ live ∈ chat, live.place ≠ place) : replaceAt place message chat = chat := by
  unfold replaceAt
  rw [List.map_congr_left, List.map_id]
  intro live member
  exact if_neg (absent live member)

theorem removeAt_eq_self {place : MessageKey} (absent : ∀ live ∈ chat, live.place ≠ place) :
    removeAt place chat = chat := by
  apply List.filter_eq_self.mpr
  intro live member
  simpa using absent live member

/-- A call leaves alone the part of the chat at other places than its own. -/
theorem filter_shown_of_untouched {call : Call} (chat : List LiveMessage)
    (untouched : ∀ place, call.touched? = some place → place ∉ places) :
    (call.shown chat).filter (fun live => live.place ∈ places) =
      chat.filter fun live => live.place ∈ places := by
  have apart : ∀ place, call.touched? = some place →
      ∀ live ∈ chat.filter (fun live => live.place ∈ places), live.place ≠ place := by
    rintro place touched live member rfl
    exact untouched _ touched (by simpa using (List.mem_filter.mp member).2)
  cases call with
  | send channel message result =>
      cases result with
      | error error => rfl
      | ok receipt =>
          have outside := untouched receipt.place rfl
          simp [Call.shown, outside]
  | update channel timestamp message result =>
      cases result with
      | error error => rfl
      | ok receipt =>
          rw [Call.shown, filter_replaceAt, replaceAt_eq_self message (apart _ rfl)]
  | delete channel timestamp result =>
      cases result with
      | error error => rfl
      | ok _ =>
          have swapped : (removeAt ⟨channel, timestamp⟩ chat).filter
              (fun live => live.place ∈ places) =
              removeAt ⟨channel, timestamp⟩ (chat.filter fun live => live.place ∈ places) :=
            List.filter_comm ..
          rw [Call.shown, swapped, removeAt_eq_self (apart _ rfl)]

theorem filter_chatAfter_of_untouched {calls : List MadeCall} (chat : List LiveMessage)
    (untouched : ∀ made ∈ calls, ∀ place, made.2.touched? = some place → place ∉ places) :
    (chatAfter chat calls).filter (fun live => live.place ∈ places) =
      chat.filter fun live => live.place ∈ places := by
  induction calls generalizing chat with
  | nil => rfl
  | cons made rest ih =>
      have later := ih (made.2.shown chat) fun later member =>
        untouched later (List.mem_cons_of_mem made member)
      have first : (made.2.shown chat).filter (fun live => live.place ∈ places) =
          chat.filter fun live => live.place ∈ places :=
        filter_shown_of_untouched chat (untouched made (List.mem_cons_self ..))
      exact later.trans first

end Parts

end ChatBot
