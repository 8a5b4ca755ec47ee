import Portal.Json.Literal
import Portal.World
/-! Reading the fields of a step. A step is a JSON object; a required field that is absent
is refused with `missing field: <name>`. -/
namespace Portal
namespace Console

def refuse {α : Type} (message : String) : App α := App.raise "InputError" message

def need (step : Json) (name : String) : App Json :=
  match step.get? name with
  | some v => pure v
  | none => refuse s!"missing field: {name}"

def needStr (step : Json) (name : String) : App String := do
  match ← need step name with
  | .str s => pure s
  | v => pure v.toText

def optStr (step : Json) (name : String) : Option String := step.getStr? name

def needNat (step : Json) (name : String) : App Nat := do
  match ← need step name with
  | .int n => pure n.toNat
  | .str s => match s.toNat? with
    | some n => pure n
    | none => App.raise "ValueError" s!"Field 'id' expected a number but got {(Json.str s).literal}."
  | v => App.raise "TypeError" s!"Field 'id' expected a number but got {v.literal}."

end Console
end Portal
