import Portal.Admin.Registry
import Portal.Forms.Input
/-! The list page of a registration: its records narrowed by the query's lookups and its
search, in the registration's order, a hundred to a page.

A lookup is `field__test=value`, the test defaulting to equality; a reference may be
followed by `__id`. Its value is read the way the field reads text, and a value the field
cannot read, or a field the kind does not have, makes the lookups invalid. The search
splits its text into terms, quoted phrases kept whole, and keeps the records where every
term occurs, ignoring case, in at least one search field. -/
namespace Portal
namespace Admin

def reservedParams : List String := ["all", "o", "q", "_popup", "_to_field", "_facets", "p", "e"]

def lookupValue (f : Field) (raw : String) : Option Value :=
  match f.kind with
  | .serial | .int | .posInt | .ref .. => (Field.intOfText? raw).map Value.int
  | .bool =>
    if ["t", "True", "1"].contains raw then some (.bool true)
    else if ["f", "False", "0"].contains raw then some (.bool false)
    else none
  | .moment => match Forms.readMoment raw with
    | .ok m => some (.moment m)
    | .error _ => none
  | _ => some (.text raw)

def lookupCondition (e : Entity) (key : String) (values : List String) : Option (List Condition) := do
  let parts := lookupParts key
  let (path, test) := match parts.reverse with
    | last :: rest@(_ :: _) => match Test.ofName? last with
      | some t => (rest.reverse, t)
      | none => (parts, Test.exact)
    | _ => (parts, Test.exact)
  let name ← match path with
    | [n] => some n
    | [n, "id"] | [n, "pk"] => some n
    | _ => none
  let name := if name == "pk" then "id" else name
  let f ← e.model.fieldByColumn? name
  if path.length == 2 && !f.isRef then none
  values.mapM fun raw => do
    let arg ← match test with
      | .isnull => some (.bool !(["", "false", "0"].contains raw.toLower))
      | .isin => do
        let items ← (raw.splitOn ",").mapM (lookupValue f)
        some (.json (.arr (items.map Value.toJson)))
      | .contains | .icontains | .startswith | .istartswith | .endswith | .iendswith => some (.text raw)
      | _ => lookupValue f raw
    some { field := f, test, arg }

def applyLookups (e : Entity) (lookups : List (String × List String)) (xs : List Obj) : Option (List Obj) := do
  let groups ← lookups.mapM fun (k, vs) => lookupCondition e k vs
  some (xs.filter fun o => groups.all fun alternatives =>
    alternatives.any fun c => Value.passes c.test (o.get c.field.name) c.arg)

def searchTerms (s : String) : List String :=
  let isBlank (c : Char) : Bool := c == ' ' || c == '\t' || c == '\n' || c == '\r' || c == '\x0c' || c == '\x0b'
  -- The end of a quoted part opened by `q`, or none when it is never closed.
  let rec closing (q : Char) : List Char → List Char → Option (List Char × List Char)
    | [], _ => none
    | '\\' :: c :: rest, acc => closing q rest (c :: '\\' :: acc)
    | c :: rest, acc => if c == q then some ((c :: acc).reverse, rest) else closing q rest (c :: acc)
  let rec word (fuel : Nat) (cs : List Char) (acc : List Char) : Option (List Char × List Char) :=
    match fuel, cs with
    | 0, _ => some (acc.reverse, cs)
    | _, [] => some (acc.reverse, [])
    | fuel + 1, c :: rest =>
      if isBlank c then some (acc.reverse, cs)
      else if c == '"' || c == '\'' then
        match closing c rest [] with
        | some (quoted, after) => word fuel after ((c :: quoted).reverse ++ acc)
        | none => none
      else word fuel rest (c :: acc)
  let unquote (t : List Char) : List Char :=
    match t, t.getLast? with
    | q :: _ :: _, some l =>
      if (q == '"' || q == '\'') && l == q then
        let rec plain : List Char → List Char
          | '\\' :: c :: rest => c :: plain rest
          | c :: rest => c :: plain rest
          | [] => []
        plain ((t.drop 1).dropLast)
      else t
    | _, _ => t
  let rec terms (fuel : Nat) (cs : List Char) : List String :=
    match fuel with
    | 0 => []
    | fuel + 1 =>
      match cs.dropWhile isBlank with
      | [] => []
      | start =>
        match word start.length start [] with
        | some (t, rest) => String.ofList (unquote t) :: terms fuel rest
        | none =>
          let t := start.takeWhile (!isBlank ·)
          String.ofList t :: terms fuel (start.drop t.length)
  terms (s.length + 1) s.toList

def searchText : Value → Option String
  | .null => none
  | .text s => some s
  | .int n => some (toString n)
  | .bool b => some (if b then "1" else "0")
  | .json j => some (j.renderWith .ascii)
  | v => some v.toText

def pathValue (o : Obj) : List String → App (Option Value)
  | [] => pure none
  | [name] => pure (some (o.get name))
  | name :: rest => do
    match (o.model.field? name).bind Field.target?, (o.get name).asNat? with
    | some target, some k =>
      match ← App.find? target k with
      | some next => pathValue next rest
      | none => pure none
    | _, _ => pure none

def matchesSearch (fields : List String) (terms : List String) (o : Obj) : App Bool :=
  terms.allM fun term =>
    fields.anyM fun path => do
      match (← pathValue o (lookupParts path)).bind searchText with
      | some text => return ((foldCase text).splitOn (foldCase term)).length > 1
      | none => return false

def ordered (g : Registration) (e : Entity) (xs : List Obj) : List Obj :=
  let byKey := xs.mergeSort fun a b => (a.pk.getD 0) ≥ (b.pk.getD 0)
  let order := if g.ordering.isEmpty then e.model.ordering else g.ordering
  order.reverse.foldl (fun xs (name, desc) =>
    xs.mergeSort fun a b =>
      let va := a.get name
      let vb := b.get name
      if desc then !(Value.lt va vb) else !(Value.lt vb va)) byKey

structure Listing where
  total : Nat
  count : Nat
  matched : List Obj
  shown : List Obj

def listing (g : Registration) (params : List (String × String)) : App (Option Listing) := do
  let all ← match g.source with
    | some e => App.all e
    | none => pure []
  let lookups := (params.filter fun (k, _) => !reservedParams.contains k).foldl (fun acc (k, v) =>
    if acc.any (·.1 == k) then acc.map fun (k', vs) => if k' == k then (k', vs ++ [v]) else (k', vs)
    else acc ++ [(k, [v])]) []
  let filtered ← match g.source with
    | some e => pure (applyLookups e lookups all)
    | none => pure (if lookups.isEmpty then some [] else none)
  let some filtered := filtered | return none
  let query := ((params.filter (·.1 == "q")).getLast?.map (·.2)).getD ""
  let terms := searchTerms query
  let found ← if g.search.isEmpty || terms.isEmpty then pure filtered
    else filtered.filterM (matchesSearch g.search terms)
  let sorted := match g.source with
    | some e => ordered g e found
    | none => found
  let count := sorted.length
  let showAll := params.any (·.1 == "all") && count ≤ 200
  if showAll || count ≤ 100 then return some { total := all.length, count, matched := sorted, shown := sorted }
  let page : Nat := match (params.filter (·.1 == "p")).getLast?.bind fun (_, v) => Field.intOfText? v with
    | some n => if n ≥ 1 then n.toNat else 0
    | none => 1
  let pages := (count + 99) / 100
  if page == 0 || page > pages then return none
  return some { total := all.length, count, matched := sorted, shown := (sorted.drop ((page - 1) * 100)).take 100 }

end Admin
end Portal
