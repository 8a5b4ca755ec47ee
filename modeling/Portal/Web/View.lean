import Portal.Web.Http
import Portal.Records.Describe
import Portal.Records.Query
import Portal.Forms.Input
/-! What views share: rendering a template with its context, adding a message, answering
"not found", and the guards that run before a view's own work (a signed-in user, an
accepted method). A context is reported as the template received it, values already in
their reported form: records as references, pages and forms as summaries. -/
namespace Portal
namespace Web

def noMatch (model : String) : String := "No " ++ model ++ " matches the given query."

def quoteKeepSlash (s : String) : String :=
  String.join <| s.toList.map fun c =>
    if isUnreserved c || c == '/' then c.toString
    else String.join (c.toString.toUTF8.toList.map percent)

def loginUrl (r : Request) : String := "/accounts/login/?next=" ++ quoteKeepSlash r.fullPath

end Web

namespace App

def render (template : String) (ctx : List (String × Json)) (status : Nat := 200) : App Web.Response := do
  modify fun w => { w with exchange := { w.exchange with
    templates := w.exchange.templates ++ [template]
    context := w.exchange.context.orElse fun _ => some (.obj ctx) } }
  return { status, body := "ok", rendered := true }

def renderAs (names : List String) (ctx : List (String × Json)) (status : Nat := 200) : App Web.Response := do
  let resp ← render (names.headD "") ctx status
  return { resp with templateNames := names }

def message (level text : String) : App Unit :=
  modify fun w => { w with exchange := { w.exchange with messages := w.exchange.messages ++ [(level, text)] } }

def readSession : App Unit :=
  modify fun w => { w with exchange := { w.exchange with sessionRead := true } }

def readForm : App Unit :=
  modify fun w => { w with exchange := { w.exchange with formRead := true } }

def notFound {α : Type} (reason : String) : App α := raise "Http404" reason

def manyText (e : Entity) (n : Nat) : String :=
  "get() returned more than one " ++ e.model.name ++ " -- it returned " ++ toString n ++ "!"

def getOr404 (e : Entity) (p : Obj → Bool) : App Obj := do
  match (← all e).filter p with
  | [o] => return o
  | [] => notFound (Web.noMatch e.model.name)
  | os => raise "MultipleObjectsReturned" (manyText e os.length)

def getWhere (e : Entity) (p : Obj → Bool) : App Obj := do
  match (← all e).filter p with
  | [o] => return o
  | [] => fail (Fault.doesNotExist e.model.name)
  | os => raise "MultipleObjectsReturned" (manyText e os.length)

def refs (os : List Obj) : App Json := do return .arr (← os.mapM refJson)

def refOpt : Option Obj → App Json
  | some o => refJson o
  | none => pure .null

end App

namespace Web

structure Page where
  number : Nat
  numPages : Nat
  count : Nat
  items : List Obj

def Page.hasNext (p : Page) : Bool := p.number < p.numPages

def Page.hasPrevious (p : Page) : Bool := p.number > 1

def paginate (xs : List Obj) (perPage : Nat) (requested : Option String) : App Page := do
  let count := xs.length
  let numPages := max 1 ((count + perPage - 1) / perPage)
  let asked := match requested with
    | some s => if s.isEmpty then "1" else s
    | none => "1"
  let number ← match Forms.intOf? asked with
    | some n => pure n
    | none =>
      if asked == "last" then pure (numPages : Int)
      else App.notFound "Page is not “last”, nor can it be converted to an int."
  let invalid (why : String) : App Page :=
    App.notFound ("Invalid page (" ++ toString number ++ "): " ++ why)
  if number < 1 then invalid "That page number is less than 1"
  else if number > numPages then invalid "That page contains no results"
  else
    let n := number.toNat
    return { number := n, numPages, count, items := (xs.drop ((n - 1) * perPage)).take perPage }

def pageLeniently (xs : List Obj) (perPage : Nat) (requested : Option String) : Page :=
  let count := xs.length
  let numPages := max 1 ((count + perPage - 1) / perPage)
  let n : Nat := match requested.bind Forms.intOf? with
    | none => 1
    | some k => if k < 1 || k > numPages then numPages else k.toNat
  { number := n, numPages, count, items := (xs.drop ((n - 1) * perPage)).take perPage }

def pageJson (p : Page) : App Json := do
  return .obj [("page", .int p.number), ("num_pages", .int p.numPages), ("count", .int p.count),
    ("has_next", .bool p.hasNext), ("has_previous", .bool p.hasPrevious),
    ("items", ← App.refs p.items)]

def pageContext (p : Page) (name : String) : App (List (String × Json)) := do
  let items ← App.refs p.items
  return [("paginator", .obj [("count", .int p.count), ("num_pages", .int p.numPages)]),
    ("page_obj", ← pageJson p), ("is_paginated", .bool (p.hasNext || p.hasPrevious)),
    ("object_list", items), (name, items)]

def keyArg (s : String) : App (Option Nat) :=
  match Forms.intOf? s with
  | some n => pure (if n < 0 then none else some n.toNat)
  | none => App.raise "ValueError" ("Field 'id' expected a number but got " ++ Text.quoteLiteral s ++ ".")

def requireLogin (r : Request) : Option Response :=
  if r.isAuthenticated then none else some (.redirect (loginUrl r))

def requireMethods (allowed : List String) (r : Request) : Option Response :=
  if allowed.contains r.method then none else some (.notAllowed allowed)

def guarded (guards : List (Option Response)) (view : App Response) : App Response :=
  match guards.findSome? id with
  | some resp => pure resp
  | none => view

end Web
end Portal
