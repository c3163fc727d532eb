import ChatBot.Json

/-!
# Laying trees over one another

One tree over another: objects are laid over one another member by member, and any
other value takes the place of what is below it.
-/

namespace ChatBot

namespace Json

/-- Puts a member in the place of the one of the same name, or at the end. -/
def setMember (name : String) (value : Json) : List (String × Json) → List (String × Json)
  | [] => [(name, value)]
  | (other, old) :: rest =>
    if other = name then (name, value) :: rest else (other, old) :: setMember name value rest

mutual

def overlay (below : Json) : Json → Json
  | obj members =>
    match below with
    | obj lower => obj (overlayMembers lower members)
    | _ => obj members
  | upper => upper

def overlayMembers (below : List (String × Json)) :
    List (String × Json) → List (String × Json)
  | [] => below
  | (name, value) :: rest =>
    match below.lookup name with
    | some old => overlayMembers (setMember name (overlay old value) below) rest
    | none => overlayMembers (setMember name value below) rest

end

def overlayAll (layers : List Json) : Json :=
  layers.foldl overlay (obj [])

end Json

end ChatBot
