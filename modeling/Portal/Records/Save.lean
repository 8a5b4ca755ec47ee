import Portal.Audit.Entry
import Portal.Text.Slug
/-! Saving and deleting records, with the audit trail. Saving applies the kind's own rules
(slugs, publication and completion times), notes which fields differ from the stored row,
writes the row and then logs `Created` or, when fields changed, `Updated`. Deleting gathers
every record that depends on the target, clears references that may be empty, removes the
rows and logs `Deleted` for each removed record. Log entries of kinds other than log
entries themselves are written quietly: a log failure never fails the save. -/
namespace Portal

namespace Obj

def prepare (o : Obj) (now : Instant) : Obj :=
  match o.entity with
  | .category | .tag =>
    if (o.get "slug").truthy then o else o.set "slug" (.text (Text.slugify (o.get "name").toText))
  | .article =>
    let o := if (o.get "slug").truthy then o else o.set "slug" (.text (Text.slugify (o.get "title").toText))
    if o.get "status" == .text "published" && !(o.get "published_at").truthy then
      o.set "published_at" (Value.now now)
    else o
  | .task _ =>
    if o.get "status" == .text "completed" then
      if (o.get "completed_at").truthy then o else o.set "completed_at" (Value.now now)
    else o.set "completed_at" .null
  | _ => o

end Obj

inductive Target where
  | entity (e : Entity)
  | link (l : LinkSpec) (owner : Entity)

namespace Target

def key : Target → String
  | .entity e => e.model.table
  | .link l _ => l.table

def label : Target → String
  | .entity e => e.label
  | .link l owner => owner.model.app ++ "." ++ owner.model.name ++ "_" ++ l.name

end Target

inductive Backref where
  | field (source : Entity) (f : Field)
  | link (l : LinkSpec) (owner : Entity) (ownerSide : Bool)

namespace Entity

def backrefs (e : Entity) : List Backref :=
  Entity.all.flatMap fun s =>
    let m := s.model
    let viaLinks := m.links.flatMap fun l =>
      (if s == e then [Backref.link l s true] else []) ++
      (if l.target == e then [Backref.link l s false] else [])
    let viaFields := m.fields.filterMap fun f =>
      if f.target? == some e then some (Backref.field s f) else none
    viaLinks ++ viaFields

end Entity

structure Collection where
  data : List (Target × List Nat) := []
  deps : List (String × String) := []
  clears : List (Entity × String × List Nat) := []

namespace Collection

def keys (c : Collection) (t : Target) : List Nat :=
  ((c.data.find? (·.1.key == t.key)).map (·.2)).getD []

def add (c : Collection) (t : Target) (ks : List Nat) : Collection × List Nat :=
  let old := c.keys t
  let new := ks.filter (!old.contains ·)
  let data := if c.data.any (·.1.key == t.key) then
      c.data.map fun p => if p.1.key == t.key then (p.1, p.2 ++ new) else p
    else c.data ++ [(t, new)]
  ({ c with data }, new)

def depend (c : Collection) (a b : Target) : Collection :=
  if c.deps.contains (a.key, b.key) then c else { c with deps := c.deps ++ [(a.key, b.key)] }

def ordered (c : Collection) : List (Target × List Nat) :=
  let rec go (fuel : Nat) (placed : List String) (acc : List (Target × List Nat)) :
      List (Target × List Nat) :=
    match fuel with
    | 0 => acc
    | fuel + 1 =>
      if acc.length ≥ c.data.length then acc else
      let (placed, acc, found) := c.data.foldl (fun (placed, acc, found) (t, ks) =>
        if placed.contains t.key then (placed, acc, found)
        else
          let waits := (c.deps.filter (·.1 == t.key)).map (·.2)
          if waits.all placed.contains then (placed ++ [t.key], acc ++ [(t, ks)], true)
          else (placed, acc, found)) (placed, acc, false)
      if found then go fuel placed acc else acc ++ c.data.filter (fun p => !placed.contains p.1.key)
  go (c.data.length + 1) [] []

end Collection

namespace App

def auditEntry (message : String) (objectId : Nat) (doc : Except Fault Json) : App LogEntry := do
  let uid ← contextValue "user_id"
  let rid ← contextValue "request_id"
  return { level := .text "INFO", category := .text "audit", message := .text message
           userId := uid, objectId := .int objectId, metadata := doc, requestId := rid }

def noteChanges (o : Obj) : App Obj := do
  match o.pk with
  | none => pure o
  | some k =>
    match (← db).find? o.entity k with
    | none => pure o
    | some row =>
      let old := Obj.ofRow o.entity row
      let diffs := o.model.fields.filterMap fun f =>
        let a := old.get f.name
        let b := o.get f.name
        if a == b then none else some (f.name, a, b)
      if diffs.isEmpty then pure o else pure { o with changes := diffs }

def changesDoc (diffs : List (String × Value × Value)) : Except Fault Json :=
  let enc (v : Value) : Except Fault Json := match v.toDoc? with
    | some j => .ok j
    | none => .error ⟨"TypeError", s!"Object of type {v.typeName} is not JSON serializable"⟩
  let member (p : String × Value × Value) : Except Fault (String × Json) := do
    let ja ← enc p.2.1
    let jb ← enc p.2.2
    pure (p.1, Json.obj [("old", ja), ("new", jb)])
  (diffs.mapM member).map Json.obj

def save (o : Obj) (only : Option (List String) := none) : App Obj := do
  let o := o.prepare (← now)
  let logged := o.entity != .systemLog
  let o ← if logged then noteChanges o else pure o
  let db0 ← db
  let stored := match o.pk with
    | some k => db0.exists? o.entity k
    | none => false
  let o ← write o only
  if logged then
    let name := o.model.name
    let k := o.pk.getD 0
    if !stored then
      quietly do
        let e ← auditEntry s!"Created {name} (ID: {k})" k
          (.ok (.obj [("action", .str "create"), ("model", .str name), ("object_id", .int k)]))
        discard <| logEntry e
    else
      match o.changes with
      | [] => pure ()
      | ch =>
        quietly do
          let doc := (changesDoc ch).map fun c =>
            Json.obj [("action", .str "update"), ("model", .str name), ("object_id", .int k),
              ("changes", c), ("changed_fields", .arr (c.members.map (Json.str ·.1)))]
          let e ← auditEntry s!"Updated {name} (ID: {k})" k doc
          discard <| logEntry e
  return o

def collect (db : Db) (fuel : Nat) (c : Collection) (e : Entity) (keys : List Nat)
    (source : Option Target) (nullable : Bool) : Collection :=
  match fuel with
  | 0 => c
  | fuel + 1 =>
  let (c, new) := c.add (.entity e) keys
  let c := match source with
    | some s => if nullable then c else c.depend s (.entity e)
    | none => c
  if new.isEmpty then c else
  (Entity.backrefs e).foldl (fun c br =>
    match br with
    | .field s f =>
      let sub := ((db.rows s).filter fun r => match (r.get f.name).asNat? with
        | some k => new.contains k
        | none => false).map (·.pk)
      if sub.isEmpty then c else
      match f.kind with
      | .ref _ .setNull => { c with clears := c.clears ++ [(s, f.name, sub)] }
      | _ => collect db fuel c s sub (some (.entity e)) f.null
    | .link l owner ownerSide =>
      let rows := (db.linkTable l.table).rows.filter fun r =>
        new.contains (if ownerSide then r.owner else r.other)
      if rows.isEmpty then c else
      let (c, _) := c.add (.link l owner) (rows.map (·.id))
      c.depend (.entity e) (.link l owner)) c

def delete (o : Obj) : App (Nat × List (String × Nat)) := do
  let db0 ← db
  let k := o.pk.getD 0
  let c := collect db0 (db0.tables.foldl (fun n t => n + t.2.rows.length) 0 + 2) {} o.entity [k] none false
  for (s, name, ks) in c.clears do
    let db ← db
    let t := db.table s
    let rows := t.rows.map fun r => if ks.contains r.pk then r.set name .null else r
    setDb (db.setTable s { t with rows })
  let mut counts : List (String × Nat) := []
  for (t, ks) in c.ordered do
    let ks := (ks.mergeSort (· ≤ ·)).reverse
    match t with
    | .link l _ =>
      let db ← db
      setDb (db.removeLinksWhere l fun r => ks.contains r.id)
      if !ks.isEmpty then counts := counts ++ [(t.label, ks.length)]
    | .entity e =>
      for key in ks do
        setDb ((← db).removeRow e key)
      if !ks.isEmpty then counts := counts ++ [(t.label, ks.length)]
      if e != .systemLog then
        for key in ks do
          let name := e.model.name
          quietly do
            let entry ← auditEntry s!"Deleted {name} (ID: {key})" key
              (.ok (.obj [("action", .str "delete"), ("model", .str name), ("object_id", .int key)]))
            discard <| logEntry entry
  return (counts.foldl (fun n p => n + p.2) 0, counts)

def setLinks (e : Entity) (l : LinkSpec) (owner : Nat) (others : List Nat) : App Unit := do
  let db ← db
  if others.any (fun k => !db.exists? l.target k) then fail (Fault.ofDb .foreignKey)
  let uniq := (others.eraseDups).mergeSort (· ≤ ·)
  let _ := e
  setDb (db.setLinks l owner uniq)

end App
end Portal
