import Mathlib
import Portal.Proofs.Answers
import Portal.Proofs.Mentions
import Portal.Proofs.Listing
/-! What each step of a view can do to the world, as triples for mvcgen. A step that only reads
leaves the world as it was and tells what it read; a write changes the store and nothing
else. No step fails with a refusal. Dropping a failure (`quietly`) or a result (`discard`)
passes the step's own outcome on. -/
namespace Portal.Steps
open Std.Do Answers Mentions Listing

set_option mvcgen.warning false

theorem quietlyRun (act : App Unit) (w : World) :
    App.quietly act w = match act w with
      | .ok _ s => .ok () s
      | .error _ s => .ok () s := by
  show EStateM.tryCatch act (fun _ => pure ()) w = _
  simp only [EStateM.tryCatch]
  cases act w <;> rfl

@[spec] theorem quietlySpec (act : App Unit) (Q : PostCond Unit (.except Fault (.arg World .pure))) :
    ⦃wp⟦act⟧ post⟨fun _ => Q.1 (), fun _ => Q.1 ()⟩⦄ App.quietly act ⦃Q⦄ := by
  intro s h
  simp only [wp, PredTrans.apply, EStateM.run] at h ⊢
  rw [quietlyRun]
  split at h <;> simp_all

theorem discardRun {α : Type} (x : App α) (w : World) :
    discard x w = match x w with
      | .ok _ s => .ok () s
      | .error e s => .error e s := by
  show EStateM.map _ x w = _
  simp only [EStateM.map]
  cases x w <;> rfl

@[spec] theorem discardSpec {α : Type} (x : App α) (Q : PostCond Unit (.except Fault (.arg World .pure))) :
    ⦃wp⟦x⟧ (fun _ => Q.1 (), Q.2)⦄ discard x ⦃Q⦄ := by
  intro s h
  simp only [wp, PredTrans.apply, EStateM.run] at h ⊢
  rw [discardRun]
  split at h <;> simp_all

@[spec] theorem loadSpec (e : Entity) (k : Nat) (s₀ : World) :
    ⦃fun s => ⌜s = s₀⌝⦄ App.load e k ⦃post⟨fun _ s => ⌜s = s₀⌝, fun f s => ⌜s = s₀ ∧ Plain f⌝⟩⦄ := by
  mvcgen [App.load, App.find?, App.db, App.fail]
  all_goals simp_all

@[spec] theorem describeSpec (o : Obj) (s₀ : World) :
    ⦃fun s => ⌜s = s₀⌝⦄ App.describe o ⦃post⟨fun _ s => ⌜s = s₀⌝, fun f s => ⌜s = s₀ ∧ Plain f⌝⟩⦄ := by
  mvcgen [App.describe, App.followText, App.follow, App.fail, loadSpec] <;> simp_all

@[spec] theorem refJsonSpec (o : Obj) (s₀ : World) :
    ⦃fun s => ⌜s = s₀⌝⦄ App.refJson o
    ⦃post⟨fun j s => ⌜s = s₀ ∧ ∀ label, refKeys label j = keyOf label o⌝, fun f s => ⌜s = s₀ ∧ Plain f⌝⟩⦄ := by
  mvcgen [App.refJson, describeSpec] <;> simp_all [refKeysRef]

theorem itemKeysRefs {os : List Obj} {js : List Json}
    (h : List.Forall₂ (fun o j => ∀ label, refKeys label j = keyOf label o) os js) (label : String) :
    itemKeys label js = os.flatMap (keyOf label) := by
  induction h with
  | nil => rfl
  | cons head _ ih => simp [head, ih]

theorem mapMKeeps {α β : Type} {f : α → App β} {R : α → β → Prop} (xs : List α) (s₀ : World)
    (h : ∀ x ∈ xs, ⦃fun s => ⌜s = s₀⌝⦄ f x
      ⦃post⟨fun y s => ⌜s = s₀ ∧ R x y⌝, fun e s => ⌜s = s₀ ∧ Plain e⌝⟩⦄) :
    ⦃fun s => ⌜s = s₀⌝⦄ xs.mapM f
      ⦃post⟨fun ys s => ⌜s = s₀ ∧ List.Forall₂ R xs ys⌝, fun e s => ⌜s = s₀ ∧ Plain e⌝⟩⦄ := by
  induction xs with
  | nil =>
    rw [List.mapM_nil]
    mvcgen
    simp_all
  | cons x xs ih =>
    have first := h x (by simp)
    have rest := ih fun y hy => h y (by simp [hy])
    rw [List.mapM_cons]
    mvcgen [first, rest]
    all_goals simp_all

@[spec] theorem refsSpec (os : List Obj) (s₀ : World) :
    ⦃fun s => ⌜s = s₀⌝⦄ App.refs os
    ⦃post⟨fun j s => ⌜s = s₀ ∧ ∀ label, refKeys label j = os.flatMap (keyOf label)⌝,
      fun f s => ⌜s = s₀ ∧ Plain f⌝⟩⦄ := by
  have each := mapMKeeps (R := fun o j => ∀ label, refKeys label j = keyOf label o) os s₀
    fun o _ => refJsonSpec o s₀
  mvcgen [App.refs, each]
  all_goals simp_all
  exact itemKeysRefs ‹_ ∧ _›.2

@[spec] theorem conditionSpec (e : Entity) (key : String) (arg : Json) (s₀ : World) :
    ⦃fun s => ⌜s = s₀⌝⦄ App.condition e key arg
    ⦃post⟨fun _ s => ⌜s = s₀⌝, fun f s => ⌜s = s₀ ∧ Plain f⌝⟩⦄ := by
  mvcgen [App.condition, App.fail]
  all_goals simp_all

theorem singleFilter {xs : List Obj} {p : Obj → Bool} {o : Obj} (h : xs.filter p = [o]) :
    p o ∧ o ∈ xs := by
  have mem := List.mem_filter.mp (h ▸ List.mem_singleton_self o)
  exact ⟨mem.2, mem.1⟩

@[spec] theorem selectSpec (e : Entity) (filter : List (String × Json)) (ordered : Bool) (s₀ : World) :
    ⦃fun s => ⌜s = s₀⌝⦄ App.select e filter ordered
    ⦃post⟨fun xs s => ⌜s = s₀ ∧ ∀ o ∈ xs, ∃ t ∈ s₀.db.rows e, o = Obj.ofRow e t⌝,
      fun f s => ⌜s = s₀ ∧ Plain f⌝⟩⦄ := by
  have conds : ⦃fun s => ⌜s = s₀⌝⦄ filter.mapM (fun kv => App.condition e kv.1 kv.2)
      ⦃post⟨fun _ s => ⌜s = s₀⌝, fun f s => ⌜s = s₀ ∧ Plain f⌝⟩⦄ := by
    have each := mapMKeeps (f := fun kv => App.condition e kv.1 kv.2) (R := fun _ _ => True)
        filter s₀ fun x _ => by
      mvcgen [conditionSpec]
      all_goals simp_all
    mvcgen [each]
    all_goals simp_all
  mvcgen [App.select, conds, App.all, App.db]
  all_goals simp_all
  intro o listed
  rename_i s same xs
  have kept : o ∈ xs := by
    split at listed
    · exact (defaultOrderPerm e _).mem_iff.mp listed
    · exact listed
  obtain ⟨t, mem, rfl⟩ := List.mem_map.mp (List.mem_filter.mp kept).1
  exact ⟨t, same ▸ mem, rfl⟩

@[spec] theorem getOr404Spec (e : Entity) (p : Obj → Bool) (s₀ : World) :
    ⦃fun s => ⌜s = s₀⌝⦄ App.getOr404 e p
    ⦃post⟨fun o s => ⌜s = s₀ ∧ p o ∧ ∃ t ∈ s₀.db.rows e, o = Obj.ofRow e t⌝,
      fun f s => ⌜s = s₀ ∧ Plain f⌝⟩⦄ := by
  mvcgen [App.getOr404, App.all, App.db, App.raise, App.notFound]
  all_goals simp_all
  obtain ⟨holds, mem⟩ := singleFilter ‹_›
  obtain ⟨t, row, rfl⟩ := List.mem_map.mp mem
  exact ⟨holds, t, row, rfl⟩

@[spec] theorem getWhereSpec (e : Entity) (p : Obj → Bool) (s₀ : World) :
    ⦃fun s => ⌜s = s₀⌝⦄ App.getWhere e p
    ⦃post⟨fun o s => ⌜s = s₀ ∧ p o ∧ ∃ t ∈ s₀.db.rows e, o = Obj.ofRow e t⌝,
      fun f s => ⌜s = s₀ ∧ Plain f⌝⟩⦄ := by
  mvcgen [App.getWhere, App.all, App.db, App.raise, App.fail]
  all_goals simp_all
  obtain ⟨holds, mem⟩ := singleFilter ‹_›
  obtain ⟨t, row, rfl⟩ := List.mem_map.mp mem
  exact ⟨holds, t, row, rfl⟩

@[spec] theorem ofExceptPrepSpec (f : Field) (v : Value) (s₀ : World) :
    ⦃fun s => ⌜s = s₀⌝⦄ App.ofExcept (f.prep v)
    ⦃post⟨fun _ s => ⌜s = s₀⌝, fun f s => ⌜s = s₀ ∧ Plain f⌝⟩⦄ := by
  mvcgen [App.ofExcept]
  all_goals simp_all [prepPlain ‹_›]

@[spec] theorem ofDbInsertSpec (db : Db) (e : Entity) (cells : List (String × Value))
    (pk : Option Nat) (s₀ : World) :
    ⦃fun s => ⌜s = s₀⌝⦄ App.ofDb (db.insert e cells pk)
    ⦃post⟨fun _ s => ⌜s = s₀⌝, fun f s => ⌜s = s₀ ∧ Plain f⌝⟩⦄ := by
  mvcgen [App.ofDb]
  all_goals simp_all
  exact insertPlain ‹_›

@[spec] theorem ofDbUpdateSpec (db : Db) (e : Entity) (k : Nat) (cells : List (String × Value))
    (s₀ : World) :
    ⦃fun s => ⌜s = s₀⌝⦄ App.ofDb (db.update e k cells)
    ⦃post⟨fun _ s => ⌜s = s₀⌝, fun f s => ⌜s = s₀ ∧ Plain f⌝⟩⦄ := by
  mvcgen [App.ofDb]
  all_goals simp_all
  exact updatePlain ‹_›

@[spec] theorem readFieldSpec (f : Forms.FieldSpec) (raw : Option (Option String)) (s₀ : World) :
    ⦃fun s => ⌜s = s₀⌝⦄ f.read raw ⦃post⟨fun _ s => ⌜s = s₀⌝, fun _ _ => ⌜False⌝⟩⦄ := by
  rcases f with ⟨name, kind, required, label⟩
  simp only [Forms.FieldSpec.read]
  generalize raw.join = given
  cases kind <;> mvcgen -trivial [App.find?, App.db]
  all_goals assumption

@[spec] theorem readAllSpec (fields : List Forms.FieldSpec) (data : Forms.Submitted)
    (check : Forms.Outcome → String → Value → App (Except String Value)) (s₀ : World)
    (h : ∀ o n v, ⦃fun s => ⌜s = s₀⌝⦄ check o n v
      ⦃post⟨fun _ s => ⌜s = s₀⌝, fun f s => ⌜s = s₀ ∧ Plain f⌝⟩⦄) :
    ⦃fun s => ⌜s = s₀⌝⦄ Forms.readAll fields data check
    ⦃post⟨fun _ s => ⌜s = s₀⌝, fun f s => ⌜s = s₀ ∧ Plain f⌝⟩⦄ := by
  mvcgen [Forms.readAll, h] invariants
    · post⟨fun _ s => ⌜s = s₀⌝, fun f s => ⌜s = s₀ ∧ Plain f⌝⟩
  all_goals simp_all

def StoreOnly (s₀ s : World) : Prop := s = { s₀ with db := s.db }

@[simp, grind .] theorem storeOnlyRefl (s : World) : StoreOnly s s := rfl

@[grind →] theorem storeOnlyTrans {s₀ s₁ s₂ : World} (one : StoreOnly s₀ s₁) (two : StoreOnly s₁ s₂) :
    StoreOnly s₀ s₂ := by
  unfold StoreOnly at *
  rw [two, one]

@[simp, grind =] theorem storeOnlySetDb {s₀ s : World} {db : Db} :
    StoreOnly s₀ { s with db } ↔ StoreOnly s₀ s := by
  unfold StoreOnly
  constructor <;> intro h <;> cases s <;> cases s₀ <;> simp_all

theorem storeOnlyExchange {s₀ s : World} (h : StoreOnly s₀ s) : s.exchange = s₀.exchange := by
  rw [h]

@[spec] theorem writeSpec (o : Obj) (only : Option (List String)) (s₀ : World) :
    ⦃fun s => ⌜s = s₀⌝⦄ App.write o only
    ⦃post⟨fun _ s => ⌜StoreOnly s₀ s⌝, fun f s => ⌜s = s₀ ∧ Plain f⌝⟩⦄ := by
  mvcgen [App.write, App.db, App.setDb, App.now] invariants
    · post⟨fun _ s => ⌜s = s₀⌝, fun f s => ⌜s = s₀ ∧ Plain f⌝⟩
  all_goals simp_all +zetaDelta

@[spec] theorem auditEntrySpec (message : String) (objectId : Nat) (doc : Except Fault Json)
    (s₀ : World) :
    ⦃fun s => ⌜s = s₀⌝⦄ App.auditEntry message objectId doc
    ⦃post⟨fun _ s => ⌜s = s₀⌝, fun _ _ => ⌜False⌝⟩⦄ := by
  mvcgen [App.auditEntry, App.contextValue, App.contextJson]

@[spec] theorem logEntrySpec (e : LogEntry) (s₀ : World) :
    ⦃fun s => ⌜s = s₀⌝⦄ App.logEntry e
    ⦃post⟨fun _ s => ⌜StoreOnly s₀ s⌝, fun _ s => ⌜s = s₀⌝⟩⦄ := by
  mvcgen [App.logEntry, App.contextValue, App.contextJson, App.now, App.fail]
  all_goals grind

@[spec] theorem saveSpec (o : Obj) (only : Option (List String)) (s₀ : World) :
    ⦃fun s => ⌜s = s₀⌝⦄ App.save o only
    ⦃post⟨fun _ s => ⌜StoreOnly s₀ s⌝,
      fun f s => ⌜StoreOnly s₀ s ∧ Plain f⌝⟩⦄ := by
  mvcgen -trivial [App.save, App.noteChanges, App.db, App.now]
  all_goals grind

@[spec] theorem deleteSpec (o : Obj) (s₀ : World) :
    ⦃fun s => ⌜s = s₀⌝⦄ App.delete o
    ⦃post⟨fun _ s => ⌜StoreOnly s₀ s⌝, fun f s => ⌜StoreOnly s₀ s ∧ Plain f⌝⟩⦄ := by
  mvcgen -trivial [App.delete, App.db, App.setDb] invariants
    · post⟨fun _ s => ⌜StoreOnly s₀ s⌝, fun f s => ⌜StoreOnly s₀ s ∧ Plain f⌝⟩
    · post⟨fun _ s => ⌜StoreOnly s₀ s⌝, fun f s => ⌜StoreOnly s₀ s ∧ Plain f⌝⟩
    · post⟨fun _ s => ⌜StoreOnly s₀ s⌝, fun f s => ⌜StoreOnly s₀ s ∧ Plain f⌝⟩
    · post⟨fun _ s => ⌜StoreOnly s₀ s⌝, fun f s => ⌜StoreOnly s₀ s ∧ Plain f⌝⟩
    · post⟨fun _ s => ⌜StoreOnly s₀ s⌝, fun f s => ⌜StoreOnly s₀ s ∧ Plain f⌝⟩
  all_goals grind

end Portal.Steps
