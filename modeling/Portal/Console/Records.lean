import Portal.Console.Input
import Portal.Records.Query
import Portal.Accounts.Auth
/-! Steps that act on records directly: creating users, creating, updating, reading,
listing, counting and deleting records, and calling the methods records offer. -/
namespace Portal
namespace Console

def decimalSource (v : Json) : Option String :=
  match v with
  | .int n => some (toString n)
  | .float f => some f.render
  | .str s => some s
  | _ => none

def fieldValue (f : Field) (v : Json) : App Value := do
  match f.kind, v with
  | .ref .user _, .str name =>
    let users ← App.select .user [("username", .str name)]
    match users with
    | u :: _ => pure (.int (u.pk.getD 0))
    | [] => App.fail (Fault.doesNotExist "User")
  | .moment, .str s =>
    match Iso.parse s with
    | some (m, _) => pure (.moment m)
    | none => App.raise "ValueError" s!"Invalid isoformat string: {Text.quoteLiteral s}"
  | .dec _ _, v =>
    match decimalSource v >>= Decimal.parse with
    | some d => pure (.dec d)
    | none => App.raise "InvalidOperation" "[<class 'decimal.ConversionSyntax'>]"
  | _, v => pure (Value.ofJson v)

def assign (o : Obj) (fields : List (String × Json)) : App (Obj × List (LinkSpec × Json)) := do
  let mut o := o
  let mut links : List (LinkSpec × Json) := []
  for (name, v) in fields do
    match o.model.link? name with
    | some l => links := links ++ [(l, v)]
    | none =>
      match o.model.fieldByColumn? name with
      | some f =>
        let v' ← if f.column == name && f.isRef then pure (Value.ofJson v) else fieldValue f v
        o := o.set f.name v'
      | none => pure ()
  return (o, links)

def linkKeys (v : Json) : App (List Nat) :=
  v.items.mapM fun
    | .int n => pure n.toNat
    | .str s => match s.toNat? with
      | some n => pure n
      | none => App.raise "ValueError" s!"Field 'id' expected a number but got {Text.quoteLiteral s}."
    | other => App.raise "TypeError" s!"Field 'id' expected a number but got {other.literal}."

def setAllLinks (o : Obj) (links : List (LinkSpec × Json)) : App Unit := do
  for (l, v) in links do
    App.setLinks o.entity l (o.pk.getD 0) (← linkKeys v)

def entityOf (step : Json) : App Entity := do
  let label ← needStr step "model"
  match Entity.ofLabel? label with
  | some e => pure e
  | none => refuse s!"unknown model: {label}"

def userStep (step : Json) : App Json := do
  let username ← needStr step "username"
  let extra := ["first_name", "last_name", "is_staff", "is_superuser"].filterMap fun k =>
    (step.get? k).map (k, ·)
  let u ← Accounts.createUser username ((step.getStr? "email").getD "") (step.getStr? "password") extra
  App.fullJson u

def createStep (step : Json) : App Json := do
  let e ← entityOf step
  let fields := ((step.get? "fields").map Json.members).getD []
  let (o, links) ← assign (Obj.fresh e (← App.now)) fields
  let o ← App.save o
  setAllLinks o links
  App.fullJson o

def pkOf (step : Json) : App Nat := needNat step "pk"

def updateStep (step : Json) : App Json := do
  let e ← entityOf step
  let pk ← pkOf step
  let o ← App.load e pk
  let fields := ((step.get? "fields").map Json.members).getD []
  let (o, links) ← assign o fields
  let only := (step.getArr? "update_fields").map fun xs => xs.filterMap fun
    | .str s => some s
    | _ => none
  let o ← App.save o only
  setAllLinks o links
  App.fullJson o

def getStep (step : Json) : App Json := do
  let e ← entityOf step
  App.fullJson (← App.load e (← pkOf step))

def listStep (step : Json) : App Json := do
  let e ← entityOf step
  let filter := ((step.get? "filter").map Json.members).getD []
  let ordered := (step.getBool? "default_order").getD false
  let xs ← App.select e filter ordered
  return .arr (← xs.mapM App.fullJson)

def countStep (step : Json) : App Json := do
  let e ← entityOf step
  let filter := ((step.get? "filter").map Json.members).getD []
  return .int (← App.select e filter).length

def deleteStep (step : Json) : App Json := do
  let e ← entityOf step
  let o ← App.load e (← pkOf step)
  let (n, per) ← App.delete o
  let per := per.mergeSort (fun a b => decide (a.1 ≤ b.1))
  return .obj [("deleted", .int n), ("per_model", .obj (per.map fun (k, c) => (k, Json.int c)))]

end Console
end Portal
