import ChatBot.Help

/-!
# What a listing shows

A listing shows the usages and descriptions of the visible actions kind by kind, and nothing else
of the actions: not those that are hidden, nor the plugins, nor how the kinds are mixed.
-/

namespace ChatBot

namespace Help

/-- What is shown of the actions of a kind: the usages and descriptions of the visible ones. -/
def shown (kind : ActionKind) (infos : List ActionInfo) : List (String × String) :=
  (visible kind infos).map fun info => (info.usage, info.description)

/-- The kinds of actions in the order of a listing. -/
def kinds : List ActionKind := [.command, .hear, .scheduled]

def opening (botName : String) : String :=
  "I'm `" ++ botName ++ "` and I listen to the chat to help out.\n"

def closing : String :=
  "\nType `help` in a direct message to see this again."

def title (botName : String) : ActionKind → String
  | .command =>
    "I currently support the following commands (address me with `@" ++ botName ++
      "` or in a direct message):"
  | .hear => "And I listen for the following:"
  | .scheduled => "And I do these on a schedule:"

/-- The line for a usage and a description, which is left out when it is empty. -/
def line (entry : String × String) : String :=
  "\t• `" ++ entry.1 ++ "`" ++ (if entry.2 = "" then "" else " - " ++ entry.2) ++ "\n"

/-- The part of a listing for a kind: a title, and a line for each entry. -/
def partFor (botName : String) (kind : ActionKind) (entries : List (String × String)) : String :=
  "\n" ++ title botName kind ++ "\n" ++ String.join (entries.map line)

/-- Whether there is a visible action of a kind. -/
def has (infos : List ActionInfo) (kind : ActionKind) : Bool :=
  infos.any fun info => info.kind = kind && !info.hidden

variable {infos infos' : List ActionInfo}

theorem bullet_eq (info : ActionInfo) : bullet info = line (info.usage, info.description) := by
  have plain_end : "`\n" = "`" ++ "\n" := rfl
  have dash : "` - " = "`" ++ " - " := rfl
  unfold bullet line
  split <;> simp only [plain_end, dash, String.append_assoc, String.empty_append]

theorem isEmpty_visible (kind : ActionKind) (infos : List ActionInfo) :
    (visible kind infos).isEmpty = !has infos kind := by
  rw [visible, has, Bool.eq_iff_iff]
  simp

theorem has_eq (kind : ActionKind) (infos : List ActionInfo) :
    has infos kind = !(shown kind infos).isEmpty := by
  rw [shown, List.isEmpty_map, isEmpty_visible, Bool.not_not]

theorem paragraph_visible (botName : String) (kind : ActionKind) (infos : List ActionInfo) :
    paragraph (title botName kind) (visible kind infos) =
      if has infos kind then partFor botName kind (shown kind infos) else "" := by
  have bullets : (visible kind infos).map bullet = (shown kind infos).map line := by
    rw [shown, List.map_map]
    exact List.map_congr_left fun info _ => bullet_eq info
  rw [paragraph, isEmpty_visible, bullets]
  cases has infos kind <;> rfl

theorem join_filter_map {α : Type} (keeps : α → Bool) (text : α → String) (items : List α) :
    String.join ((items.filter keeps).map text) =
      String.join (items.map fun item => if keeps item then text item else "") := by
  refine String.toList_inj.mp ?_
  rw [String.toList_join, String.toList_join]
  induction items with
  | nil => rfl
  | cons item rest ih => cases kept : keeps item <;> simp [kept, ih]

/-- A listing has a part for each kind of which an action is visible, in a fixed order, and in it a
line for each of them. -/
theorem listing_eq (botName : String) (infos : List ActionInfo) :
    listing botName infos =
      opening botName ++
        String.join ((kinds.filter (has infos)).map fun kind =>
          partFor botName kind (shown kind infos)) ++
        closing := by
  have paragraphs : listing botName infos =
      opening botName ++ paragraph (title botName .command) (visible .command infos) ++
        paragraph (title botName .hear) (visible .hear infos) ++
        paragraph (title botName .scheduled) (visible .scheduled infos) ++ closing := rfl
  rw [paragraphs, join_filter_map]
  simp only [paragraph_visible, kinds, List.map_cons, List.map_nil, String.join_cons,
    String.join_nil, String.append_assoc, String.append_empty]

/-- Listings that show the same are the same. -/
theorem listing_congr (botName : String) (same : ∀ kind, shown kind infos = shown kind infos') :
    listing botName infos = listing botName infos' := by
  have kinds_eq : has infos = has infos' := funext fun kind => by rw [has_eq, has_eq, same]
  simp only [listing_eq, kinds_eq, same]

end Help

end ChatBot
