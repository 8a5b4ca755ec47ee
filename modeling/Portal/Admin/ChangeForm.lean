import Portal.Admin.Registry
import Portal.Forms.Basic
/-! The form a registration's add and change pages post. It holds every field of the kind a
person may edit: not the key, not a time stamped on save, and not one the registration shows
read-only. Text, choices, check boxes, numbers and references read as the site's other forms
read them; a date-time is typed as a date under `<name>_0` and a time under `<name>_1`. A value
that another record of the kind already holds in a unique field, or in a group of fields unique
together, fails the form. A valid form's values are written over the record it was posted for
(an uploaded file that is not replaced stays), and an empty text of a column that takes nulls
is stored as a null. -/
namespace Portal
namespace Admin
open Forms

def capFirst (s : String) : String :=
  match s.toList with
  | [] => ""
  | c :: cs => String.ofList (c.toUpper :: cs)

def editable (g : Registration) (f : Field) : Bool :=
  f.kind != .serial && !f.autoNow && !f.autoNowAdd && !g.readonly.contains f.name

def specOf (f : Field) : FieldSpec :=
  let required := !f.blank
  match f.kind with
  | .bool => { name := f.name, kind := .flag, required := false }
  | .moment => { name := f.name, kind := .moment, required }
  | .ref e _ => { name := f.name, kind := .record e, required }
  | .int => { name := f.name, kind := .whole none, required }
  | .posInt => { name := f.name, kind := .whole (some 0), required }
  | .file => { name := f.name, kind := .upload, required := false }
  | _ =>
    if f.choices.isEmpty then { name := f.name, kind := .text f.maxLength, required }
    else { name := f.name, kind := .choice (f.choices.map (·.1)), required }

def formSpecs (g : Registration) (m : Model) : List FieldSpec := (m.fields.filter (editable g)).map specOf

def typedSplit (f : FieldSpec) : Bool :=
  match f.kind with
  | .moment => true
  | _ => false

def dateLayouts : List String :=
  ["%Y-%m-%d", "%m/%d/%Y", "%m/%d/%y", "%b %d %Y", "%b %d, %Y", "%d %b %Y", "%d %b, %Y", "%B %d %Y",
    "%B %d, %Y", "%d %B %Y", "%d %B, %Y"]

def timeLayouts : List String := ["%H:%M:%S", "%H:%M:%S.%f", "%H:%M"]

def readSplit (required : Bool) (date time : String) : Except String Value :=
  let date := Text.strip date
  let time := Text.strip time
  if date.isEmpty && time.isEmpty then
    if required then .error requiredText else .ok .null
  else if required && (date.isEmpty || time.isEmpty) then .error requiredText
  else
    match dateLayouts.findSome? (byLayout · date), timeLayouts.findSome? (byLayout · time) with
    | none, _ => .error "Enter a valid date."
    | some _, none => .error "Enter a valid time."
    | some d, some t =>
      .ok (.moment (Moment.utc (d.instant + (t.instant - Civil.toDays 1900 1 1 * Instant.day))))

def submittedText (data : Submitted) (name : String) : String :=
  ((data.find? (·.1 == name)).bind (·.2)).getD ""

def fieldLabel (name : String) : String := capFirst (name.replace "_" " ")

def taken (e : Entity) (k : Option Nat) (o : Outcome) (names : List String) : App Bool := do
  let rows := ((← App.db).rows e).filter fun r => some r.pk != k
  return rows.any fun r => names.all fun n => (o.get? n).any fun v => (Obj.ofRow e r).get n == v

def uniqueChecked (g : Registration) (e : Entity) (k : Option Nat) (o : Outcome) : App Outcome := do
  let m := e.model
  let names := (formSpecs g m).map (·.name)
  let single := m.fields.filter fun f => f.unique && names.contains f.name
  let o ← single.foldlM (fun o f => do
    if ← taken e k o [f.name] then
      return o.addError f.name (capFirst g.verbose ++ " with this " ++ fieldLabel f.name ++ " already exists.")
    return o) o
  (m.together.filter fun group => group.all names.contains).foldlM (fun o group => do
    if ← taken e k o group then
      return o.addError "__all__" (capFirst g.verbose ++ " with this " ++
        " and ".intercalate (group.map fieldLabel) ++ " already exists.")
    return o) o

def putSplit (data : Submitted) (o : Outcome) (f : FieldSpec) : Outcome :=
  match readSplit f.required (submittedText data (f.name ++ "_0")) (submittedText data (f.name ++ "_1")) with
  | .error msg => o.addError f.name msg
  | .ok v => o.put f.name v

def readChangeForm (g : Registration) (e : Entity) (data : Submitted) (k : Option Nat) : App Outcome := do
  let specs := formSpecs g e.model
  let o ← readAll (specs.filter fun f => !typedSplit f) data unchecked
  uniqueChecked g e k ((specs.filter typedSplit).foldl (putSplit data) o)

def storedValue (m : Model) (name : String) (v : Value) : Value :=
  if (m.field? name).any (·.null) && v == .text "" then .null else v

def applyForm (o : Obj) (out : Outcome) : Obj :=
  let uploads := ((o.model.fields.filter fun f => f.kind == .file).map (·.name))
  (out.cleaned.filter fun p => !uploads.contains p.1).foldl
    (fun o p => o.set p.1 (storedValue o.model p.1 p.2)) o

end Admin
end Portal
