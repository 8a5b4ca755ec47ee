import Mathlib
import Portal.Forms.Basic
/-! The records a context value refers to. A view hands its template references to records
as objects `{"model", "pk", "str"}`; `refKeys label j` collects the keys of every such
reference to a record of kind `label` anywhere inside `j`. -/
namespace Portal.Mentions

def refHere (label : String) : List (String × Json) → List Int
  | [("model", .str l), ("pk", .int k), ("str", .str _)] => if l = label then [k] else []
  | _ => []

mutual
def refKeys (label : String) : Json → List Int
  | .obj kvs => refHere label kvs ++ memberKeys label kvs
  | .arr xs => itemKeys label xs
  | _ => []

def itemKeys (label : String) : List Json → List Int
  | [] => []
  | x :: xs => refKeys label x ++ itemKeys label xs

def memberKeys (label : String) : List (String × Json) → List Int
  | [] => []
  | (_, v) :: kvs => refKeys label v ++ memberKeys label kvs
end

def keyOf (label : String) (o : Obj) : List Int :=
  if o.entity.label = label then (o.pk.map Int.ofNat).toList else []

attribute [simp] itemKeys memberKeys

theorem refKeysObj (label : String) (kvs : List (String × Json)) :
    refKeys label (.obj kvs) = refHere label kvs ++ memberKeys label kvs := rfl

@[simp] theorem refKeysArr (label : String) (xs : List Json) :
    refKeys label (.arr xs) = itemKeys label xs := rfl

@[simp] theorem refKeysStr (label s : String) : refKeys label (.str s) = [] := rfl

@[simp] theorem refKeysInt (label : String) (n : Int) : refKeys label (.int n) = [] := rfl

@[simp] theorem refKeysBool (label : String) (b : Bool) : refKeys label (.bool b) = [] := rfl

@[simp] theorem refKeysNull (label : String) : refKeys label .null = [] := rfl

theorem refKeysRef (label : String) (o : Obj) (d : String) :
    refKeys label (.obj [("model", .str o.entity.label), ("pk", Json.optInt (o.pk.map Int.ofNat)),
      ("str", .str d)]) = keyOf label o := by
  cases h : o.pk <;> simp [refKeysObj, refHere, keyOf, Json.optInt, h]

@[simp] theorem refKeysOptStr (label : String) (s : Option String) :
    refKeys label (Json.optStr s) = [] := by
  cases s <;> simp [Json.optStr]

@[simp] theorem refKeysStrs (label : String) (xs : List String) : refKeys label (Json.strs xs) = [] := by
  induction xs <;> simp_all [Json.strs]

theorem refKeysErrors (label : String) (es : List (String × List String)) :
    refKeys label (.obj (es.map fun e => (e.1, Json.strs e.2))) = [] := by
  have members : memberKeys label (es.map fun e => (e.1, Json.strs e.2)) = [] := by
    induction es <;> simp_all
  have notRef : refHere label (es.map fun e => (e.1, Json.strs e.2)) = [] := by
    rcases es with _ | ⟨⟨_, _⟩, _ | ⟨_, _ | ⟨_, _ | _⟩⟩⟩
    all_goals simp [refHere, Json.strs]
  rw [refKeysObj, members, notRef]
  rfl

theorem refKeysSummary (label name : String) (fields : List Forms.FieldSpec)
    (bound : Option Forms.Outcome) : refKeys label (Forms.summary name fields bound) = [] := by
  cases bound
  · simp [Forms.summary, refKeysObj, refHere]
  · rw [Forms.summary, refKeysObj]
    simp [refHere, refKeysErrors]

end Portal.Mentions
