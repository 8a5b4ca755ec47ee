import Portal.Tasks.Forms
import Portal.Web.View
import Portal.Web.Reverse
/-! A task board's pages. Every page needs a signed-in user. A user sees the tasks they
created, are actively assigned to, or that were shared with them, newest first and ten to
a page; a task's page is open to the same users. Editing needs the creator or a share
that grants `edit` or `delete`; deleting needs the creator or a `delete` share; sharing
needs the creator or an `assign` share. Lists are seen by their creator and, when public,
by everyone. -/
namespace Portal
namespace Tasks
open Web

def template (b : Board) (name : String) : String := b.label ++ "/" ++ name

def refersTo (o : Obj) (field : String) (pk : Option Nat) : Bool :=
  pk.isSome && (o.get field).asNat? == pk

def shareOf (b : Board) (task : Obj) (user : Option Nat) : App (Option Obj) := do
  return (← App.all (.taskShare b)).find? fun s => refersTo s "task" task.pk && refersTo s "shared_with" user

def assigned (b : Board) (task : Obj) (user : Option Nat) : App Bool := do
  return (← App.all (.userTask b)).any fun a =>
    refersTo a "task" task.pk && refersTo a "user" user && a.getBool "is_active"

def isCreator (task : Obj) (user : Option Nat) : Bool := refersTo task "created_by" user

def canView (b : Board) (task : Obj) (user : Option Nat) : App Bool := do
  return isCreator task user || (← assigned b task user) || (← shareOf b task user).isSome

def granted (b : Board) (task : Obj) (user : Option Nat) (perms : List String) : App Bool := do
  if isCreator task user then return true
  match ← shareOf b task user with
  | some s => return perms.contains (s.getText "permission")
  | none => return false

def forbidden (text : String) : Response := { status := 403, body := text }

def visibleTasks (b : Board) (user : Option Nat) : App (List Obj) := do
  let tasks ← App.select (.task b) [] true
  let links ← App.all (.userTask b)
  let shares ← App.all (.taskShare b)
  return tasks.filter fun t =>
    isCreator t user ||
    links.any (fun a => refersTo a "task" t.pk && refersTo a "user" user && a.getBool "is_active") ||
    shares.any (fun s => refersTo s "task" t.pk && refersTo s "shared_with" user)

def choicesJson (cs : List (String × String)) : Json := .arr (cs.map fun (k, v) => Json.strs [k, v])

def listedTasks (b : Board) (r : Request) : App (List Obj) := do
  let mut xs ← visibleTasks b r.userId?
  if let some s := r.param? "status" then
    if !s.isEmpty then xs := xs.filter (·.getText "status" == s)
  if let some p := r.param? "priority" then
    if !p.isEmpty then xs := xs.filter (·.getText "priority" == p)
  if let some q := r.param? "search" then
    if !q.isEmpty then
      xs := xs.filter fun t => ["title", "description"].any fun f =>
        Value.passes .icontains (t.get f) (.text q)
  return xs

def taskList (b : Board) (r : Request) : App Response := do
  let xs ← listedTasks b r
  let status := r.param? "status"
  let priority := r.param? "priority"
  let search := r.param? "search"
  let page := pageLeniently xs 10 (r.param? "page")
  App.render (template b "task_list.html")
    [("page_obj", ← pageJson page), ("status_choices", choicesJson Catalog.statusChoices),
     ("priority_choices", choicesJson Catalog.priorityChoices),
     ("current_status", Json.optStr status), ("current_priority", Json.optStr priority),
     ("search_query", Json.optStr search)]

def taskDetail (b : Board) (r : Request) (pk : Nat) : App Response := do
  let task ← App.getOr404 (.task b) (·.pk == some pk)
  if !(← canView b task r.userId?) then return forbidden "You don't have permission to view this task."
  let comments ← App.select (.taskComment b) [("task", .int pk)] true
  App.render (template b "task_detail.html")
    [("task", ← App.refJson task), ("comments", ← App.refs comments),
     ("comment_form", Forms.summary "TaskCommentForm" commentFields none)]

def applyTask (t : Obj) (o : Forms.Outcome) : Obj :=
  ["title", "description", "priority", "status", "due_date"].foldl
    (fun t k => match o.get? k with
      | some v => t.set k v
      | none => t) t

def taskFormJson (o : Option Forms.Outcome) : Json := Forms.summary "TaskForm" taskFields o

def taskCreate (b : Board) (r : Request) : App Response := do
  if r.method == "POST" then
    App.readForm
    let o ← Forms.readAll taskFields (Forms.Submitted.ofPairs r.form) noCheck
    if o.valid then
      let now ← App.now
      let t := (applyTask (Obj.fresh (.task b) now) o).set "created_by" (Value.ofOptNat r.userId?)
      let t ← App.save t
      let link := (((Obj.fresh (.userTask b) (← App.now)).set "user" (Value.ofOptNat r.userId?)).set
        "task" (Value.ofOptNat t.pk)).set "role" (.text "owner")
      discard <| App.save link
      App.message "success" "Task created successfully!"
      return .redirect (PageName.taskDetail b (t.pk.getD 0)).path
    App.render (template b "task_form.html") [("form", taskFormJson (some o)), ("title", .str "Create Task")]
  else
    App.render (template b "task_form.html") [("form", taskFormJson none), ("title", .str "Create Task")]

def taskEdit (b : Board) (r : Request) (pk : Nat) : App Response := do
  let task ← App.getOr404 (.task b) (·.pk == some pk)
  if !(← granted b task r.userId? ["edit", "delete"]) then
    return forbidden "You don't have permission to edit this task."
  let ref ← App.refJson task
  if r.method == "POST" then
    App.readForm
    let o ← Forms.readAll taskFields (Forms.Submitted.ofPairs r.form) noCheck
    if o.valid then
      discard <| App.save (applyTask task o)
      App.message "success" "Task updated successfully!"
      return .redirect (PageName.taskDetail b pk).path
    App.render (template b "task_form.html")
      [("form", taskFormJson (some o)), ("task", ref), ("title", .str "Edit Task")]
  else
    App.render (template b "task_form.html")
      [("form", taskFormJson none), ("task", ref), ("title", .str "Edit Task")]

def taskDelete (b : Board) (r : Request) (pk : Nat) : App Response := do
  let task ← App.getOr404 (.task b) (·.pk == some pk)
  if !(← granted b task r.userId? ["delete"]) then
    return forbidden "You don't have permission to delete this task."
  if r.method == "POST" then
    discard <| App.delete task
    App.message "success" "Task deleted successfully!"
    return .redirect (PageName.taskList b).path
  App.render (template b "task_confirm_delete.html") [("task", ← App.refJson task)]

def addComment (b : Board) (r : Request) (pk : Nat) : App Response := do
  if r.method != "POST" then return .notAllowed ["POST"]
  let task ← App.getOr404 (.task b) (·.pk == some pk)
  if !(← canView b task r.userId?) then
    return forbidden "You don't have permission to comment on this task."
  App.readForm
  let o ← Forms.readAll commentFields (Forms.Submitted.ofPairs r.form) noCheck
  if o.valid then
    let c := (((Obj.fresh (.taskComment b) (← App.now)).set "content" (.text (o.text "content"))).set
      "task" (.int pk)).set "author" (Value.ofOptNat r.userId?)
    discard <| App.save c
    App.message "success" "Comment added successfully!"
  return .redirect (PageName.taskDetail b pk).path

def shareFormJson (o : Option Forms.Outcome) : Json := Forms.summary "TaskShareForm" shareFields o

def shareWith (b : Board) (sharer : Option Nat) (pk : Nat) (task target : Obj) (o : Forms.Outcome) :
    App Unit := do
  let username := o.text "username"
  let permission := o.text "permission"
  let existing ← shareOf b task target.pk
  let created := existing.isNone
  match existing with
  | some s =>
    let s := ((s.set "shared_by" (Value.ofOptNat sharer)).set "permission" (.text permission)).set
      "message" (.text (o.text "message"))
    discard <| App.save s (some ["shared_by", "permission", "message", "shared_at"])
  | none =>
    let s := (((((Obj.fresh (.taskShare b) (← App.now)).set "task" (.int pk)).set "shared_with"
      (Value.ofOptNat target.pk)).set "shared_by" (Value.ofOptNat sharer)).set "permission"
      (.text permission)).set "message" (.text (o.text "message"))
    discard <| App.save s
  let links ← App.all (.userTask b)
  if !links.any (fun a => refersTo a "task" (some pk) && refersTo a "user" target.pk) then
    let role := if ["edit", "assign"].contains permission then "collaborator" else "viewer"
    let link := (((Obj.fresh (.userTask b) (← App.now)).set "user" (Value.ofOptNat target.pk)).set
      "task" (.int pk)).set "role" (.text role)
    discard <| App.save link
  let action := if created then "shared" else "updated sharing for"
  App.message "success" ("Task " ++ action ++ " with " ++ username ++ " successfully!")

def shareTask (b : Board) (r : Request) (pk : Nat) : App Response := do
  let task ← App.getOr404 (.task b) (·.pk == some pk)
  if !(← granted b task r.userId? ["assign"]) then
    return forbidden "You don't have permission to share this task."
  let ref ← App.refJson task
  if r.method == "POST" then
    App.readForm
    let o ← readShare (Forms.Submitted.ofPairs r.form) none
    if o.valid then
      let username := o.text "username"
      let target ← App.getWhere .user (·.getText "username" == username)
      if target.pk == r.userId? then
        App.message "error" "You cannot share a task with yourself."
      else
        shareWith b r.userId? pk task target o
      return .redirect (PageName.taskDetail b pk).path
    App.render (template b "share_task.html") [("form", shareFormJson (some o)), ("task", ref)]
  else
    App.render (template b "share_task.html") [("form", shareFormJson none), ("task", ref)]

def sharedTasks (b : Board) (r : Request) : App Response := do
  let shares := (← App.all (.taskShare b)).filter (refersTo · "shared_with" r.userId?)
  let tasks ← App.all (.task b)
  let pairs := shares.filterMap fun s =>
    (tasks.find? fun t => refersTo s "task" t.pk).map fun t => (t, s.get "shared_at")
  let ordered := pairs.mergeSort fun a b => !(Value.lt a.2 b.2)
  let page := pageLeniently (ordered.map (·.1)) 10 (r.param? "page")
  App.render (template b "shared_tasks.html") [("page_obj", ← pageJson page)]

def listFormJson (o : Option Forms.Outcome) : Json := Forms.summary "TaskListForm" listFields o

def taskLists (b : Board) (r : Request) : App Response := do
  let mut form := listFormJson none
  if r.method == "POST" then
    App.readForm
    let o ← Forms.readAll listFields (Forms.Submitted.ofPairs r.form) noCheck
    if o.valid then
      let l := ((((Obj.fresh (.taskList b) (← App.now)).set "name" (.text (o.text "name"))).set
        "description" (.text (o.text "description"))).set "is_public" (.bool (o.flag "is_public"))).set
        "created_by" (Value.ofOptNat r.userId?)
      discard <| App.save l
      App.message "success" "Task list created successfully!"
      return .redirect (PageName.taskLists b).path
    form := listFormJson (some o)
  let lists := (← App.select (.taskList b) [] true).filter fun l =>
    refersTo l "created_by" r.userId? || l.getBool "is_public"
  App.render (template b "task_lists.html") [("task_lists", ← App.refs lists), ("form", form)]

def listDetail (b : Board) (r : Request) (pk : Nat) : App Response := do
  let l ← App.getOr404 (.taskList b) (·.pk == some pk)
  if !(refersTo l "created_by" r.userId? || l.getBool "is_public") then
    return forbidden "You don't have permission to view this list."
  let members := (← App.db).linked (Catalog.listTasks b) pk
  let tasks := (← App.select (.task b) [] true).filter fun t => members.contains (t.pk.getD 0)
  App.render (template b "task_list_detail.html") [("task_list", ← App.refJson l), ("tasks", ← App.refs tasks)]

def page (b : Board) (r : Request) (p : TaskPage) : App Response :=
  guarded [requireLogin r] <|
  match p with
  | .index => taskList b r
  | .detail pk => taskDetail b r pk
  | .create => taskCreate b r
  | .edit pk => taskEdit b r pk
  | .remove pk => taskDelete b r pk
  | .share pk => shareTask b r pk
  | .comment pk => addComment b r pk
  | .shared => sharedTasks b r
  | .lists => taskLists b r
  | .listDetail pk => listDetail b r pk

end Tasks
end Portal
