import Mathlib
import Portal.Web.Site
import Portal.Tasks.Forms
/-! How the site answers a page from the run of its view. A failure is answered 404 when it is
"not found", 403 when it is a refusal and 500 otherwise, so a view whose failures are all
plain is answered 403 only where it returns a 403 response of its own. The store never
fails with a refusal. -/
namespace Portal.Answers
open Std.Do

set_option mvcgen.warning false

def statusOf : EStateM.Result Fault World Web.Response → Nat
  | .ok resp _ => resp.status
  | .error f _ => if f.kind == "Http404" then 404 else if f.kind == "PermissionDenied" then 403 else 500

def Refuses (view : App Web.Response) (w : World) : Prop := statusOf (view w) = 403

theorem failurePageStatus (r : Web.Request) (route : Web.Route) (f : Fault) (w : World) :
    ∃ resp w', Web.failurePage r route f w = .ok resp w' ∧ resp.status = statusOf (.error f w) := by
  unfold Web.failurePage statusOf
  split
  · exact ⟨_, _, rfl, by simp_all [Web.notFoundPage]⟩
  · split
    · exact ⟨_, _, rfl, by simp_all⟩
    · exact ⟨_, _, rfl, by simp_all⟩

def Plain (f : Fault) : Prop := f.kind ≠ "PermissionDenied"

@[simp] theorem plainMk (k m : String) : Plain ⟨k, m⟩ ↔ k ≠ "PermissionDenied" := Iff.rfl

@[simp] theorem plainDoesNotExist (m : String) : Plain (Fault.doesNotExist m) := by
  simp [Fault.doesNotExist]

theorem violationPlain {db : Db} {e : Entity} {k : Nat} {cells : List (String × Value)}
    {err : DbError} (h : db.violation e k cells = some err) : err.kind ≠ "PermissionDenied" := by
  unfold Db.violation at h
  dsimp only at h
  repeat' split at h
  all_goals cases h <;> simp [DbError.kind]

theorem insertPlain {db : Db} {e : Entity} {cells : List (String × Value)} {pk : Option Nat}
    {err : DbError} (h : db.insert e cells pk = .error err) : err.kind ≠ "PermissionDenied" := by
  unfold Db.insert at h
  dsimp only at h
  split at h
  · cases h; simp [DbError.kind]
  · split at h
    · cases h; exact violationPlain ‹_›
    · cases h

theorem updatePlain {db : Db} {e : Entity} {k : Nat} {cells : List (String × Value)}
    {err : DbError} (h : db.update e k cells = .error err) : err.kind ≠ "PermissionDenied" := by
  unfold Db.update at h
  dsimp only at h
  split at h
  · cases h
  · split at h
    · cases h; exact violationPlain ‹_›
    · cases h

theorem prepPlain {f : Field} {v : Value} {err : Fault} (h : f.prep v = .error err) : Plain err := by
  unfold Field.prep at h
  dsimp only at h
  repeat' split at h
  all_goals cases h <;> simp [Field.numberError]

theorem runOfTriple {α : Type} {act : App α} {w : World} {ok : α → World → Prop}
    {err : Fault → World → Prop}
    (h : ⦃fun s => ⌜s = w⌝⦄ act ⦃post⟨fun a s => ⌜ok a s⌝, fun f s => ⌜err f s⌝⟩⦄) :
    match act w with
    | .ok a s => ok a s
    | .error f s => err f s := by
  have := h w rfl
  simp only [wp, PredTrans.apply, EStateM.run] at this
  split at this <;> simp_all

theorem notRefused {view : App Web.Response} (w : World)
    (h : ⦃⌜True⌝⦄ view ⦃post⟨fun (r : Web.Response) _ => ⌜r.status ≠ 403⌝, fun f _ => ⌜Plain f⌝⟩⦄) :
    ¬Refuses view w := by
  have fromW : ⦃fun s => ⌜s = w⌝⦄ view
      ⦃post⟨fun (r : Web.Response) _ => ⌜r.status ≠ 403⌝, fun f _ => ⌜Plain f⌝⟩⦄ :=
    fun s _ => h s trivial
  have run := runOfTriple fromW
  unfold Refuses statusOf
  split <;> simp_all [Plain]
  split <;> simp_all

end Portal.Answers
