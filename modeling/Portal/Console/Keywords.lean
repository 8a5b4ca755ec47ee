import Portal.Json.Literal
import Portal.World
/-! Calling an operation with named arguments. An operation declares its parameters in
order, each required or with a default, and may take further named arguments. Binding
checks the names first: a name the operation does not know fails, unless it takes further
ones; then every required parameter must have been given. Both failures name the
operation and the parameters concerned, the first as one quoted name, the second as a
quoted list joined by "and". -/
namespace Portal
namespace Console

structure Param where
  name : String
  dflt : Option Json := none

structure Signature where
  name : String
  params : List Param
  rest : Bool := false

structure Bound where
  values : List (String × Json)
  extra : List (String × Json) := []

namespace Bound

def arg (b : Bound) (name : String) : Json :=
  ((b.values.find? (·.1 == name)).map (·.2)).getD .null

end Bound

def joinNames (names : List String) : String :=
  let q := names.map Text.quoteLiteral
  match q with
  | [] => ""
  | [a] => a
  | [a, b] => a ++ " and " ++ b
  | _ => ", ".intercalate q.dropLast ++ ", and " ++ q.getLast!

namespace Signature

def unexpected (s : Signature) (k : String) : Fault :=
  ⟨"TypeError", s.name ++ "() got an unexpected keyword argument " ++ Text.quoteLiteral k⟩

def missing (s : Signature) (names : List String) : Fault :=
  ⟨"TypeError", s.name ++ "() missing " ++ toString names.length ++ " required positional argument" ++
    (if names.length == 1 then "" else "s") ++ ": " ++ joinNames names⟩

def bind (s : Signature) (args : List (String × Json)) : Except Fault Bound := do
  let args := (Json.ofMembers args).members
  let known (k : String) : Bool := s.params.any (·.name == k)
  if !s.rest then
    if let some (k, _) := args.find? (fun (k, _) => !known k) then throw (s.unexpected k)
  let absent := s.params.filter fun p => p.dflt.isNone && !args.any (·.1 == p.name)
  if !absent.isEmpty then throw (s.missing (absent.map (·.name)))
  let values := s.params.map fun p =>
    (p.name, ((args.find? (·.1 == p.name)).map (·.2)).getD (p.dflt.getD .null))
  return { values, extra := args.filter fun (k, _) => !known k }

end Signature

def namedArgs (fn : String) (args : Json) : App (List (String × Json)) :=
  match args with
  | .obj kvs => pure kvs
  | other => App.raise "TypeError"
      (fn ++ "() argument after ** must be a mapping, not " ++ other.kindName)

def bindArgs (s : Signature) (args : Json) : App Bound := do
  App.ofExcept (s.bind (← namedArgs s.name args))

end Console
end Portal
