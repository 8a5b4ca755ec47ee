import Portal.Records.Save
/-! How records are named and shown. Every kind has a one-line name (`describe`); an answer
shows a record either as a reference (kind, key and name) or in full, with every stored
field under its column name and every link as the sorted keys it links to. -/
namespace Portal

namespace Obj

def display (o : Obj) (name : String) : String :=
  let v := o.get name
  match o.model.field? name with
  | some f => (f.display v).getD v.toText
  | none => v.toText

end Obj

namespace App

def follow (o : Obj) (name : String) (target : Entity) : App Obj := do
  match (o.get name).asNat? with
  | some k => load target k
  | none => fail ⟨"RelatedObjectDoesNotExist", s!"{o.model.name} has no {name}."⟩

def followText (o : Obj) (name : String) (target : Entity) (field : String) : App String := do
  return ((← follow o name target).get field).toText

def describe (o : Obj) : App String := do
  let t (n : String) : String := (o.get n).toText
  let userName (field : String) : App String := followText o field .user "username"
  match o.entity with
  | .user => return t "username"
  | .site => return t "domain"
  | .category | .tag | .taskList _ => return t "name"
  | .article | .task _ => return t "title"
  | .comment =>
    let author ← userName "author"
    let title ← followText o "article" .article "title"
    return "Comment by " ++ author ++ " on " ++ title
  | .userTask b =>
    let user ← userName "user"
    let title ← followText o "task" (.task b) "title"
    return user ++ " - " ++ title ++ " (" ++ t "role" ++ ")"
  | .taskShare b =>
    let title ← followText o "task" (.task b) "title"
    let user ← userName "shared_with"
    return title ++ " shared with " ++ user
  | .taskComment b =>
    let author ← userName "author"
    let title ← followText o "task" (.task b) "title"
    return "Comment by " ++ author ++ " on " ++ title
  | .plan => return t "name" ++ " (" ++ o.display "interval" ++ ")"
  | .userSettings => return "Settings for " ++ (← followText o "user" .user "email")
  | .stripeCustomer => return (← followText o "user" .user "email") ++ " - " ++ t "subscription_status"
  | .notification => return (← userName "user") ++ " - " ++ t "title"
  | .presence =>
    let user ← userName "user"
    return user ++ " - " ++ (if o.getBool "is_online" then "Online" else "Offline")
  | .systemLog =>
    let msg := match o.get "message" with
      | .text s => String.ofList (s.toList.take 50)
      | v => v.toText
    return t "level" ++ ": " ++ t "category" ++ " - " ++ msg

def refJson (o : Obj) : App Json := do
  return .obj [("model", .str o.entity.label), ("pk", Json.optInt (o.pk.map Int.ofNat)),
    ("str", .str (← describe o))]

def fullJson (o : Obj) : App Json := do
  let head := [("model", Json.str o.entity.label), ("pk", Json.optInt (o.pk.map Int.ofNat)),
    ("str", .str (← describe o))]
  let fields := o.model.fields.filterMap fun f =>
    if f.name == "password" then none
    else if f.name == "api_key" then
      some (f.column, match o.get f.name with
        | .text s => if s.isEmpty then Json.str "" else .obj [("random_len", .int s.length)]
        | v => v.toJson)
    else some (f.column, (o.get f.name).toJson)
  let db ← db
  let links := o.model.links.map fun l =>
    let keys : List Nat := ((o.pk.map (db.linked l)).getD []).mergeSort (· ≤ ·)
    (l.name, Json.arr (keys.map fun (k : Nat) => Json.int (Int.ofNat k)))
  return .obj (head ++ fields ++ links)

end App
end Portal
