import Portal.Records.Describe
/-! Selecting and ordering records. A filter is a list of conditions `field__test: value`,
all of which must hold; the test defaults to equality. Records come back by key, or in their
kind's default order, where a missing value sorts first going up and last going down. -/
namespace Portal

inductive Test where
  | exact | iexact | gt | gte | lt | lte | contains | icontains
  | startswith | istartswith | endswith | iendswith | isin | isnull
  deriving DecidableEq, Repr

namespace Test

def ofName? : String → Option Test
  | "exact" => some .exact | "iexact" => some .iexact | "gt" => some .gt | "gte" => some .gte
  | "lt" => some .lt | "lte" => some .lte | "contains" => some .contains
  | "icontains" => some .icontains | "startswith" => some .startswith
  | "istartswith" => some .istartswith | "endswith" => some .endswith
  | "iendswith" => some .iendswith | "in" => some .isin | "isnull" => some .isnull
  | _ => none

end Test

def foldCase (s : String) : String := s.map Char.toLower

def occursFolded (b a : String) : Bool := occurs (foldCase b).toList (foldCase a).toList
where
  occurs (needle : List Char) : List Char → Bool
    | [] => needle.isEmpty
    | c :: cs => needle.isPrefixOf (c :: cs) || occurs needle cs

namespace Value

def onTexts (v arg : Value) (p : String → String → Bool) : Bool :=
  match v, arg with
  | .text a, .text b => p a b
  | _, _ => false

def passes (t : Test) (v arg : Value) : Bool :=
  match t with
  | .exact => !v.isNull && v == arg
  | .iexact => match v, arg with
    | .text a, .text b => foldCase a == foldCase b
    | _, _ => v == arg
  | .gt => !v.isNull && !arg.isNull && Value.lt arg v
  | .gte => !v.isNull && !arg.isNull && (Value.lt arg v || v == arg)
  | .lt => !v.isNull && !arg.isNull && Value.lt v arg
  | .lte => !v.isNull && !arg.isNull && (Value.lt v arg || v == arg)
  -- the database matches these by `LIKE`, which ignores the case of ASCII letters
  | .contains | .icontains => v.onTexts arg fun a b => occursFolded b a
  | .startswith | .istartswith => v.onTexts arg fun a b => (foldCase a).startsWith (foldCase b)
  | .endswith | .iendswith => v.onTexts arg fun a b => (foldCase a).endsWith (foldCase b)
  | .isin => match arg with
    | .json (.arr xs) => xs.any fun x => v == Value.ofJson x
    | _ => false
  | .isnull => v.isNull == arg.asBool

end Value

def Entity.reverseNames : Entity → List String
  | .user => ["blog_articles", "blog_comments", "created_tasks", "emailaddress", "logentry",
      "notifications", "presence", "received_tasks", "settings", "shared_tasks", "socialaccount",
      "stripecustomer", "task_lists", "taskcomment", "user_tasks"]
  | .site => ["socialapp"]
  | .category => ["article"]
  | .article => ["comments", "tags"]
  | .comment => ["replies"]
  | .task _ => ["comments", "shared_tasks", "task_lists", "user_tasks"]
  | .plan => ["subscribers"]
  | _ => []

def Entity.queryNames (e : Entity) (extra : List String := []) : List String :=
  let m := e.model
  let own := m.fields.map (·.name) ++ m.links.map (·.name) ++ e.reverseNames
  (own ++ extra).eraseDups.mergeSort (fun a b => decide (a ≤ b))

structure Condition where
  field : Field
  test : Test
  arg : Value

def lookupParts (key : String) : List String :=
  (go key.toList).map String.ofList
where
  go : List Char → List (List Char)
    | '_' :: '_' :: rest => [] :: go rest
    | c :: rest => match go rest with
      | p :: ps => (c :: p) :: ps
      | [] => [[c]]
    | [] => [[]]

namespace App

def condition (e : Entity) (key : String) (arg : Json) : App Condition := do
  let parts := lookupParts key
  let (name, test) := match parts.reverse with
    | last :: rest@(_ :: _) => match Test.ofName? last with
      | some t => ("__".intercalate rest.reverse, t)
      | none => (key, Test.exact)
    | _ => (key, Test.exact)
  let name := if name == "pk" then "id" else name
  match e.model.fieldByColumn? name with
  | some f =>
    let v := Value.ofJson arg
    let v := match f.kind, v with
      | .bool, .int n => .bool (n ≠ 0)
      | _, v => v
    return { field := f, test, arg := v }
  | none =>
    fail ⟨"FieldError", s!"Cannot resolve keyword '{name}' into field. Choices are: " ++
      ", ".intercalate e.queryNames⟩

def satisfies (conds : List Condition) (o : Obj) : Bool :=
  conds.all fun c => Value.passes c.test (o.get c.field.name) c.arg

def defaultOrder (e : Entity) (xs : List Obj) : List Obj :=
  e.model.ordering.reverse.foldl (fun xs (name, desc) =>
    xs.mergeSort fun a b =>
      let va := a.get name
      let vb := b.get name
      if desc then !(Value.lt va vb) else !(Value.lt vb va)) xs

def select (e : Entity) (filter : List (String × Json)) (ordered : Bool := false) : App (List Obj) := do
  let conds ← filter.mapM fun (k, v) => condition e k v
  let xs := (← all e).filter (satisfies conds)
  return if ordered then defaultOrder e xs else xs

end App
end Portal
