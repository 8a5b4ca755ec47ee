import Portal.Forms.Basic
import Portal.Store.Catalog
/-! The task boards' forms: a task, a comment, a share with another user, a list, and the
filter over a board. Both boards use the same forms. -/
namespace Portal
namespace Tasks
open Forms

def taskFields : List FieldSpec :=
  [{ name := "title", kind := .text (some 200), label := some "Title" },
   { name := "description", kind := .text none, required := false, label := some "Description" },
   { name := "priority", kind := .choice (Catalog.priorityChoices.map (·.1)), label := some "Priority" },
   { name := "status", kind := .choice (Catalog.statusChoices.map (·.1)), label := some "Status" },
   { name := "due_date", kind := .moment, required := false, label := some "Due date" }]

def commentFields : List FieldSpec :=
  [{ name := "content", kind := .text none, label := some "Content" }]

def shareFields : List FieldSpec :=
  [{ name := "username", kind := .text (some 150) },
   { name := "permission", kind := .choice (Catalog.permissionChoices.map (·.1)) },
   { name := "message", kind := .text none, required := false }]

def listFields : List FieldSpec :=
  [{ name := "name", kind := .text (some 100), label := some "Name" },
   { name := "description", kind := .text none, required := false, label := some "Description" },
   { name := "is_public", kind := .flag, required := false, label := some "Is public" }]

def filterFields : List FieldSpec :=
  [{ name := "search", kind := .text none, required := false },
   { name := "status", kind := .choice ("" :: Catalog.statusChoices.map (·.1)), required := false },
   { name := "priority", kind := .choice ("" :: Catalog.priorityChoices.map (·.1)), required := false }]

def noCheck (_ : Outcome) (_ : String) (v : Value) : App (Except String Value) := pure (.ok v)

def readShare (data : Submitted) (sharer : Option Nat) : App Outcome :=
  readAll shareFields data fun _ name v => do
    if name != "username" then return .ok v
    let username := v.textOr ""
    match (← App.all .user).find? (·.getText "username" == username) with
    | none => return .error ("User '" ++ username ++ "' does not exist.")
    | some u =>
      if sharer.isSome && u.pk == sharer then return .error "You cannot share a task with yourself."
      return .ok v

end Tasks
end Portal
