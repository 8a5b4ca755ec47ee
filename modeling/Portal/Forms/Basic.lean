import Portal.Forms.Input
import Portal.Records.Describe
/-! Forms: named fields that read submitted text into typed values. A field reads its value
(blanks stripped for text), fails with "This field is required." when it is required and
empty, and checks its kind's rules; a field that fails leaves the cleaned values and
records its message. A form's own checks then run on the fields that passed. -/
namespace Portal
namespace Forms

inductive Kind where
  | text (maxLength : Option Nat)
  | choice (options : List String)
  | flag
  | whole (least : Option Int)
  | moment
  | record (e : Entity)
  | upload

structure FieldSpec where
  name : String
  kind : Kind
  required : Bool := true
  label : Option String := none

abbrev Submitted := List (String × Option String)

def Submitted.ofPairs (pairs : List (String × String)) : Submitted :=
  let keys := pairs.foldl (fun ks (k, _) => if ks.contains k then ks else ks ++ [k]) []
  keys.map fun k => (k, ((pairs.filter (·.1 == k)).getLast?).map (·.2))

structure Outcome where
  cleaned : List (String × Value) := []
  errors : List (String × List String) := []

namespace Outcome

def valid (o : Outcome) : Bool := o.errors.isEmpty

def get? (o : Outcome) (name : String) : Option Value := (o.cleaned.find? (·.1 == name)).map (·.2)

def text (o : Outcome) (name : String) : String := ((o.get? name).map (·.textOr "")).getD ""

def flag (o : Outcome) (name : String) : Bool := ((o.get? name).map Value.asBool).getD false

def addError (o : Outcome) (field msg : String) : Outcome :=
  let errors := if o.errors.any (·.1 == field) then
      o.errors.map fun (k, ms) => if k == field then (k, ms ++ [msg]) else (k, ms)
    else o.errors ++ [(field, [msg])]
  { cleaned := o.cleaned.filter (·.1 != field), errors }

def put (o : Outcome) (field : String) (v : Value) : Outcome :=
  { o with cleaned := (o.cleaned.filter (·.1 != field)) ++ [(field, v)] }

end Outcome

def requiredText : String := "This field is required."

def FieldSpec.read (f : FieldSpec) (raw : Option (Option String)) : App (Except String Value) := do
  let given : Option String := raw.join
  let empty := given.isNone || given == some ""
  let missing : Except String Value := if f.required then .error requiredText else .ok .null
  match f.kind with
  | .text maxLength =>
    let v := Text.strip (given.getD "")
    if v.isEmpty then return (if f.required then .error requiredText else .ok (.text ""))
    match maxLength with
    | some n =>
      if v.length > n then
        return .error ("Ensure this value has at most " ++ toString n ++ " characters (it has " ++
          toString v.length ++ ").")
      else return .ok (.text v)
    | none => return .ok (.text v)
  | .choice options =>
    let v := given.getD ""
    if v.isEmpty then return (if f.required then .error requiredText else .ok (.text ""))
    if options.contains v then return .ok (.text v)
    return .error ("Select a valid choice. " ++ v ++ " is not one of the available choices.")
  | .flag =>
    let b := match raw with
      | none => false
      | some none => false
      | some (some s) => if s.toLower == "false" then false else !s.isEmpty
    return (if f.required && !b then .error requiredText else .ok (.bool b))
  | .whole least =>
    if empty then return missing
    match wholeNumber? (given.getD "") with
    | none => return .error "Enter a whole number."
    | some n =>
      let below : Bool := match least with
        | some m => decide (n < m)
        | none => false
      if below then
        return .error ("Ensure this value is greater than or equal to " ++ toString (least.getD 0) ++ ".")
      return .ok (.int n)
  | .moment =>
    if empty then return missing
    match readMoment (given.getD "") with
    | .ok m => return .ok (.moment m)
    | .error _ => return .error "Enter a valid date/time."
  | .record e =>
    if empty then return missing
    let invalid : Except String Value :=
      .error "Select a valid choice. That choice is not one of the available choices."
    match wholeNumber? (given.getD "") with
    | some n =>
      if n < 0 || (given.getD "").contains '.' then return invalid else
      match ← App.find? e n.toNat with
      | some _ => return .ok (.int n)
      | none => return invalid
    | none => return invalid
  | .upload => return .ok .null

def unchecked (_ : Outcome) (_ : String) (v : Value) : App (Except String Value) := pure (.ok v)

def readAll (fields : List FieldSpec) (data : Submitted)
    (check : Outcome → String → Value → App (Except String Value)) : App Outcome :=
  fields.foldlM (fun o f => do
    match ← f.read ((data.find? (·.1 == f.name)).map (·.2)) with
    | .error msg => return o.addError f.name msg
    | .ok v =>
      let o := o.put f.name v
      match ← check o f.name v with
      | .ok v' => return o.put f.name v'
      | .error msg => return o.addError f.name msg) {}

def summary (name : String) (fields : List FieldSpec) (bound : Option Outcome) : Json :=
  .obj ([("form", .str name), ("bound", .bool bound.isSome), ("fields", Json.strs (fields.map (·.name)))] ++
    match bound with
    | some o => [("errors", .obj (o.errors.map fun (k, ms) => (k, Json.strs ms)))]
    | none => [])

def cleanedJson (fields : List FieldSpec) (o : Outcome) : App Json := do
  let items ← o.cleaned.mapM fun (k, v) => do
    let kind : Option Kind := (fields.find? (·.name == k)).map (·.kind)
    match kind with
    | some (.record e) =>
      match v.asNat? with
      | some pk => return (k, ← App.refJson (← App.load e pk))
      | none => return (k, Json.null)
    | _ => return (k, v.toJson)
  return .obj items

end Forms
end Portal
