import Mathlib
import Portal.Proofs.TaskCascade
import Portal.Proofs.TaskDisclosure
/-! What one request to share a task does to a board's sharing tables. The tables agree
(`Consistent`) when every share names a task and a user, a task is shared with a user at most
once and never by the user who shared it, and every share's user is assigned to its task. From
agreeing tables, a share request that every check lets through (`Accepts`) writes its grant over
the share of its task and user, or adds one, assigns the user to the task, and leaves the tables
agreeing (`acceptedShare`); a share request that some check stops changes no row
(`refusedShare`). -/
namespace Portal.ShareRequests
open Tasks Listing LogStore StoreUpdate AuditTrail WrittenRows TaskAccess TaskCascade

def RefCell (v : Value) : Prop := v = .null ∨ ∃ k : Int, v = .int k

def KeyCell (v : Value) : Prop := ∃ k : Nat, v = .int k

theorem refCellKey {v : Value} (cell : RefCell v) {n : Nat} (same : v.asNat? = some n) : v = .int n := by
  rcases cell with rfl | ⟨j, rfl⟩
  · cases same
  · simp only [Value.asNat?, Value.asInt?, Option.bind_some] at same
    split at same
    · cases same
      congr 1
      omega
    · cases same

theorem keyCellNat {v : Value} (cell : KeyCell v) {n : Nat} : v.asNat? = some n ↔ v = .int n := by
  obtain ⟨k, rfl⟩ := cell
  simp [Value.asNat?, Value.asInt?]

/-- The assignments of board `b` as sharing needs them: the table is there, its keys are
distinct and at most its counter, and its user and task cells hold keys or nothing. -/
structure Links (b : Board) (db : Db) : Prop where
  table : ∃ t, (.userTask b, t) ∈ db.tables
  linkKeys : Keyed db (.userTask b)
  counted : ∀ a ∈ db.rows (.userTask b), a.pk ≤ (db.table (.userTask b)).seq
  linkCells : ∀ a ∈ db.rows (.userTask b), RefCell (a.get "user") ∧ RefCell (a.get "task")

/-- The shares of board `b`: distinct keys, a task and a user in each, at most one share of a task
with a user, and none with the user who shared it. -/
structure Shares (b : Board) (db : Db) : Prop where
  shareKeys : Keyed db (.taskShare b)
  shareCells : ∀ s ∈ db.rows (.taskShare b), KeyCell (s.get "task") ∧ KeyCell (s.get "shared_with")
  single : ∀ s ∈ db.rows (.taskShare b), ∀ s' ∈ db.rows (.taskShare b),
    s.get "task" = s'.get "task" → s.get "shared_with" = s'.get "shared_with" → s = s'
  apart : ∀ s ∈ db.rows (.taskShare b), s.get "shared_with" ≠ s.get "shared_by"

/-- The sharing tables of board `b` agree: every share's user is assigned to its task. -/
structure Consistent (b : Board) (db : Db) : Prop extends Links b db, Shares b db where
  linked : ∀ s ∈ db.rows (.taskShare b), ∃ a ∈ db.rows (.userTask b),
    a.get "task" = s.get "task" ∧ a.get "user" = s.get "shared_with"

theorem rowsOfTable {db db' : Db} {e : Entity} (same : db'.table e = db.table e) : db'.rows e = db.rows e := by
  unfold Db.rows
  rw [same]

theorem linksOfTable {b : Board} {db db' : Db} (links : Links b db)
    (same : db'.table (.userTask b) = db.table (.userTask b)) (table : ∃ t, (.userTask b, t) ∈ db'.tables) :
    Links b db' := by
  have rows := rowsOfTable same
  obtain ⟨-, linkKeys, counted, linkCells⟩ := links
  exact ⟨table, by rwa [Keyed, rows], by rwa [rows, same], by rwa [rows]⟩

theorem sharesOfTable {b : Board} {db db' : Db} (shares : Shares b db)
    (same : db'.table (.taskShare b) = db.table (.taskShare b)) : Shares b db' := by
  have rows := rowsOfTable same
  obtain ⟨shareKeys, shareCells, single, apart⟩ := shares
  exact ⟨by rwa [Keyed, rows], by rwa [rows], by rwa [rows], by rwa [rows]⟩

theorem consistentOfTables {b : Board} {db db' : Db} (consistent : Consistent b db)
    (links : db'.table (.userTask b) = db.table (.userTask b))
    (shares : db'.table (.taskShare b) = db.table (.taskShare b))
    (table : ∃ t, (.userTask b, t) ∈ db'.tables) : Consistent b db' := by
  refine ⟨linksOfTable consistent.toLinks links table, sharesOfTable consistent.toShares shares, ?_⟩
  rw [rowsOfTable links, rowsOfTable shares]
  exact consistent.linked

theorem linksWritten {b : Board} {w w' : World} {o : Obj} {row : Row} (links : Links b w.db)
    (wrote : Wrote w w' o none row) (entity : o.entity = .userTask b) (isNew : storedIn w.db o = false)
    (cells : RefCell (row.get "user") ∧ RefCell (row.get "task")) :
    Links b w'.db ∧ w.db.rows (.userTask b) ⊆ w'.db.rows (.userTask b) := by
  have replaces := wrote.rows
  obtain ⟨-, fresh, stored⟩ := wrote.fresh isNew
  rw [entity] at replaces fresh stored
  have kept : w.db.rows (.userTask b) ⊆ w'.db.rows (.userTask b) := fun x mem =>
    replaces.kept x mem (fresh x mem)
  -- every row now is the new one or an old one, and the counter is past both
  have counted : ∀ a ∈ w'.db.rows (.userTask b), a.pk ≤ (w'.db.table (.userTask b)).seq := by
    rcases stored with ⟨-, seq⟩ | same
    · intro a mem
      rw [seq]
      rcases replaces.within a mem with rfl | ⟨old, -⟩
      · exact le_max_right _ _
      · exact le_max_of_le_left (links.counted a old)
    · rw [rowsOfTable same, same]
      exact links.counted
  refine ⟨⟨wrote.tables _ links.table, entity ▸ wrote.keyed (entity ▸ links.linkKeys), counted,
    fun a mem => ?_⟩, kept⟩
  rcases replaces.within a mem with rfl | ⟨old, -⟩
  · exact cells
  · exact links.linkCells a old

theorem freshSaveRuns {o : Obj} {w : World} (ne : o.entity ≠ .systemLog) (fresh : o.pk = none)
    (kept : o.prepare w.clock = o) {cells : List (String × Value)}
    (prep : prepared (stamp o none w.clock) o.model.fields none = .ok cells)
    (free : w.db.exists? o.entity ((w.db.table o.entity).seq + 1) = false)
    (passes : w.db.violation o.entity ((w.db.table o.entity).seq + 1) cells = none)
    (table : ∃ t, (o.entity, t) ∈ w.db.tables) :
    ∃ o' w', App.save o none w = .ok o' w' ∧
      (⟨(w.db.table o.entity).seq + 1, cells⟩ : Row) ∈ w'.db.rows o.entity := by
  have noted : noted w.db o = o := by simp [AuditTrail.noted, fresh]
  obtain ⟨entity, key, -⟩ := stampSame o none w.clock
  let inserted : Table :=
    { rows := Db.placeRow { pk := (w.db.table o.entity).seq + 1, cells } (w.db.table o.entity).rows,
      seq := max (w.db.table o.entity).seq ((w.db.table o.entity).seq + 1) }
  have insert : w.db.insert o.entity cells = .ok (w.db.setTable o.entity inserted, (w.db.table o.entity).seq + 1) := by
    simp [Db.insert, free, passes, inserted]
  have written : ∃ o₁, App.write o none w = .ok o₁ { w with db := w.db.setTable o.entity inserted } := by
    rw [writeInSteps]
    unfold writeSteps
    rw [Listing.bindRun (show App.now w = .ok w.clock w from rfl), prep,
      Listing.bindRun (show App.ofExcept (.ok cells) w = .ok cells w from rfl),
      Listing.bindRun (show App.db w = .ok w.db w from rfl), key, fresh]
    dsimp only
    rw [entity, insert]
    exact ⟨_, rfl⟩
  obtain ⟨o₁, wrote⟩ := written
  obtain ⟨w₂, audit, -, sets⟩ := auditStepSets (storedIn w.db o) o₁ { w with db := w.db.setTable o.entity inserted }
  refine ⟨o₁, w₂, ?_, ?_⟩
  · rw [saveRun o none w ne, kept, noted, Listing.bindRun wrote, Listing.bindRun audit]
    rfl
  · -- the audit entry touches only the log
    have same : w₂.db.table o.entity = inserted := by
      rcases sets with same | ⟨t, same⟩ <;> rw [same]
      · exact tableSet inserted table
      · rw [tableSetOther t ne]
        exact tableSet inserted table
    rw [Db.rows, same]
    exact (LogStore.placeRowPerm _ _).symm.subset (List.mem_append_right _ (List.mem_singleton_self _))

def linkObj (b : Board) (now : Instant) (k pk : Nat) (role : String) : Obj :=
  (((Obj.fresh (.userTask b) now).set "user" (Value.ofOptNat (some k))).set "task" (.int pk)).set "role" (.text role)

def linkCells (k pk : Nat) (role : String) (clock : Instant) : List (String × Value) :=
  [("user", .int k), ("task", .int pk), ("role", .text role), ("assigned_at", Value.now clock),
    ("is_active", .bool true)]

theorem linkPrepared (b : Board) (now : Instant) (k pk : Nat) (role : String) (clock : Instant) :
    prepared (stamp (linkObj b now k pk role) none clock) (linkObj b now k pk role).model.fields none =
      .ok (linkCells k pk role clock) := by
  cases b <;> rfl

theorem linkPasses {db : Db} {b : Board} {k pk key : Nat} {role : String} {t : Moment}
    (fits : Db.fitsWord k = true ∧ Db.fitsWord pk = true)
    (cells : ∀ a ∈ db.rows (.userTask b), RefCell (a.get "user") ∧ RefCell (a.get "task"))
    (absent : ∀ a ∈ db.rows (.userTask b), ¬(a.getNat? "user" = some k ∧ a.getNat? "task" = some pk))
    (user : db.exists? .user k = true) (task : db.exists? (.task b) pk = true) :
    db.violation (.userTask b) key [("user", .int k), ("task", .int pk), ("role", .text role),
      ("assigned_at", .moment t), ("is_active", .bool true)] = none := by
  have noClash : ¬∃ a ∈ db.rows (.userTask b), ¬a.pk = key ∧ (a.get "user" == .int k) = true ∧
      (a.get "task" == .int pk) = true := by
    rintro ⟨a, mem, -, sameUser, sameTask⟩
    have asKey : ∀ {v : Value} {n : Nat}, RefCell v → (v == .int n) = true → v.asNat? = some n := by
      rintro v n (rfl | ⟨j, rfl⟩) same
      · cases same
      · have : j = n := by simpa [BEq.beq, Value.beq] using same
        subst this
        simp [Value.asNat?, Value.asInt?]
    exact absent a mem ⟨asKey (cells a mem).1 sameUser, asKey (cells a mem).2 sameTask⟩
  unfold Db.violation
  cases b <;> simp [fits, noClash, user, task, Entity.model, Catalog.userTask, Catalog.idField, Catalog.userRef,
    Catalog.charField, Catalog.flag, Value.isNull]

theorem nextKeyFree {db : Db} {e : Entity} (counted : ∀ a ∈ db.rows e, a.pk ≤ (db.table e).seq) :
    db.exists? e ((db.table e).seq + 1) = false := by
  simp only [Db.exists?, Db.find?, Option.isSome_eq_false_iff, Option.isNone_iff_eq_none, List.find?_eq_none,
    beq_iff_eq]
  intro a mem same
  have := counted a mem
  omega

theorem linkSaveRuns {w : World} {b : Board} {k pk : Nat} (now : Instant) (role : String)
    (links : Links b w.db) (fits : Db.fitsWord k = true ∧ Db.fitsWord pk = true)
    (absent : ∀ a ∈ w.db.rows (.userTask b), ¬(a.getNat? "user" = some k ∧ a.getNat? "task" = some pk))
    (user : w.db.exists? .user k = true) (task : w.db.exists? (.task b) pk = true) :
    ∃ o' w', App.save (linkObj b now k pk role) none w = .ok o' w' ∧
      (⟨(w.db.table (.userTask b)).seq + 1, linkCells k pk role w.clock⟩ : Row) ∈ w'.db.rows (.userTask b) :=
  freshSaveRuns (by rw [show (linkObj b now k pk role).entity = .userTask b from rfl]; exact nofun) rfl
    (by cases b <;> rfl) (linkPrepared b now k pk role w.clock) (nextKeyFree links.counted)
    (linkPasses fits links.linkCells absent user task) links.table

theorem refersToRow (e : Entity) (a : Row) (field : String) (k : Nat) :
    refersTo (Obj.ofRow e a) field (some k) = (a.getNat? field == some k) := by
  simp [refersTo, Row.getNat?]

theorem assignRuns {b : Board} {w : World} {k pk : Nat} (role text : String) (links : Links b w.db)
    (fits : Db.fitsWord k = true ∧ Db.fitsWord pk = true)
    (user : w.db.exists? .user k = true) (task : w.db.exists? (.task b) pk = true) :
    ∃ w', (do
        let links ← App.all (.userTask b)
        if (!links.any fun a => refersTo a "task" (some pk) && refersTo a "user" (some k)) = true then do
          let now ← App.now
          discard (App.save (linkObj b now k pk role))
          App.message "success" text
        else App.message "success" text : App Unit) w = .ok () w' ∧
      Links b w'.db ∧ w.db.rows (.userTask b) ⊆ w'.db.rows (.userTask b) ∧
      (∃ a ∈ w'.db.rows (.userTask b), a.get "task" = .int pk ∧ a.get "user" = .int k) ∧
      w'.db.table (.taskShare b) = w.db.table (.taskShare b) := by
  rw [bindRun (allRun (.userTask b) w)]
  simp only [List.any_map, Function.comp_def, refersToRow]
  by_cases assigned : ∃ a ∈ w.db.rows (.userTask b), a.getNat? "task" = some pk ∧ a.getNat? "user" = some k
  · -- already assigned: the view only says so
    have found : ((w.db.rows (.userTask b)).any fun a =>
        (a.getNat? "task" == some pk) && (a.getNat? "user" == some k)) = true := by
      simpa using assigned
    rw [found]
    obtain ⟨a, mem, assignedTask, assignedUser⟩ := assigned
    refine ⟨_, rfl, links, fun _ => id, ⟨a, mem, ?_, ?_⟩, rfl⟩
    · exact refCellKey (links.linkCells a mem).2 assignedTask
    · exact refCellKey (links.linkCells a mem).1 assignedUser
  · have found : ((w.db.rows (.userTask b)).any fun a =>
        (a.getNat? "task" == some pk) && (a.getNat? "user" == some k)) = false := by
      simpa using assigned
    have absent : ∀ a ∈ w.db.rows (.userTask b), ¬(a.getNat? "user" = some k ∧ a.getNat? "task" = some pk) :=
      fun a mem both => assigned ⟨a, mem, both.2, both.1⟩
    rw [found]
    obtain ⟨o', w₁, saved, added⟩ := linkSaveRuns w.clock role links fits absent user task
    have entity : (linkObj b w.clock k pk role).entity = .userTask b := rfl
    obtain ⟨row, -, wrote⟩ := saveWrites (by rw [entity]; exact nofun) saved
    have isNew : storedIn w.db (linkObj b w.clock k pk role) = false := rfl
    -- the row the save wrote is the one the insert added
    have isRow : row = ⟨(w.db.table (.userTask b)).seq + 1, linkCells k pk role w.clock⟩ := by
      obtain ⟨key, -, -⟩ := wrote.fresh isNew
      rcases wrote.rows.within _ added with same | ⟨-, other⟩
      · exact same.symm
      · exact absurd key.symm other
    have cells : RefCell (row.get "user") ∧ RefCell (row.get "task") := by
      rw [isRow]
      exact ⟨.inr ⟨k, rfl⟩, .inr ⟨pk, rfl⟩⟩
    obtain ⟨after, kept⟩ := linksWritten links wrote entity isNew cells
    let w₂ : World := { w₁ with exchange := { w₁.exchange with messages := w₁.exchange.messages ++ [("success", text)] } }
    refine ⟨w₂, ?_, after, kept, ⟨_, added, rfl, rfl⟩, wrote.others _ (by rw [entity]; simp) (by simp)⟩
    rw [Bool.not_false, if_pos rfl, bindRun (show App.now w = .ok w.clock w from rfl),
      bindRun (show discard (App.save (linkObj b w.clock k pk role)) w = .ok () w₁ by rw [Steps.discardRun, saved])]
    rfl

/-- A share as a request asks it: of task `task` with user `user`, by user `sharer`, granting
`permission`. -/
structure Grant where
  task : Nat
  user : Nat
  sharer : Nat
  permission : String
  deriving DecidableEq, Repr

namespace Grant

def Pair (g : Grant) (s : Row) : Prop := s.get "task" = .int g.task ∧ s.get "shared_with" = .int g.user

def Holds (g : Grant) (s : Row) : Prop :=
  g.Pair s ∧ s.get "shared_by" = .int g.sharer ∧ s.get "permission" = .text g.permission

def Of (g : Grant) (t u : Nat) : Bool := g.task == t && g.user == u

end Grant

theorem sharesWritten {b : Board} {g : Grant} {w w' : World} {o : Obj} {only : Option (List String)} {row : Row}
    (shares : Shares b w.db) (wrote : Wrote w w' o only row) (entity : o.entity = .taskShare b)
    (holds : g.Holds row) (replaced : ∀ s ∈ w.db.rows (.taskShare b), g.Pair s → s.pk = row.pk)
    (apart : g.user ≠ g.sharer) :
    Shares b w'.db ∧ ∀ s ∈ w'.db.rows (.taskShare b), g.Holds s ∨ (s ∈ w.db.rows (.taskShare b) ∧ ¬g.Pair s) := by
  have replaces := wrote.rows
  rw [entity] at replaces
  obtain ⟨⟨task, user⟩, sharer, permission⟩ := holds
  -- an earlier share with the written row's task and user is of `g`'s pair, so it was written over
  have written : ∀ s ∈ w.db.rows (.taskShare b), s.pk ≠ row.pk →
      s.get "task" = row.get "task" → s.get "shared_with" = row.get "shared_with" → False :=
    fun s mem other sameTask sameUser => other (replaced s mem ⟨sameTask.trans task, sameUser.trans user⟩)
  refine ⟨⟨entity ▸ wrote.keyed (entity ▸ shares.shareKeys), fun s mem => ?_, fun s mem s' mem' => ?_,
    fun s mem => ?_⟩, fun s mem => ?_⟩
  · rcases replaces.within s mem with rfl | ⟨old, -⟩
    · exact ⟨⟨g.task, task⟩, ⟨g.user, user⟩⟩
    · exact shares.shareCells s old
  · rcases replaces.within s mem with rfl | ⟨old, other⟩ <;>
      rcases replaces.within s' mem' with rfl | ⟨old', other'⟩
    · exact fun _ _ => rfl
    · exact fun sameTask sameUser => (written s' old' other' sameTask.symm sameUser.symm).elim
    · exact fun sameTask sameUser => (written s old other sameTask sameUser).elim
    · exact shares.single s old s' old'
  · rcases replaces.within s mem with rfl | ⟨old, -⟩
    · rw [user, sharer]
      exact fun same => apart (by exact_mod_cast Value.int.inj same)
    · exact shares.apart s old
  · rcases replaces.within s mem with rfl | ⟨old, other⟩
    · exact .inl ⟨⟨task, user⟩, sharer, permission⟩
    · exact .inr ⟨old, fun pair => other (replaced s old pair)⟩

@[irreducible] def EndsWith {α : Type} (res : EStateM.Result Fault World α) (w : World) (ok : Db → Prop) : Prop :=
  match res with
  | .ok _ w' => ok w'.db
  | .error _ w' => w'.db = w.db

theorem endsWithOk {α : Type} {a : α} {w w' : World} {P : Db → Prop} : EndsWith (.ok a w') w P ↔ P w'.db := by
  unfold EndsWith
  rfl

theorem endsWithError {α : Type} {f : Fault} {w w' : World} {P : Db → Prop} :
    EndsWith (.error f w' : EStateM.Result Fault World α) w P ↔ w'.db = w.db := by
  unfold EndsWith
  rfl

theorem endsOk {α : Type} {act : App α} {w w₁ w₂ : World} {a : α} {P : Db → Prop}
    (ran : act w₁ = .ok a w₂) (holds : P w₂.db) : EndsWith (act w₁) w P := by
  unfold EndsWith
  rw [ran]
  exact holds

theorem saveThen {o : Obj} {only : Option (List String)} {rest : App Unit} {w : World} {P : Db → Prop}
    (next : ∀ o' w₁, App.save o only w = .ok o' w₁ → EndsWith (rest w₁) w P) :
    EndsWith ((discard (App.save o only) >>= fun _ => rest) w) w P := by
  rcases saved : App.save o only w with ⟨o', w₁⟩ | ⟨f, w₁⟩
  · rw [bindRun (show discard (App.save o only) w = .ok () w₁ by rw [Steps.discardRun, saved])]
    exact next o' w₁ saved
  · have kept := Answers.runOfTriple (StoreUpdate.saveFailsSpec o only w)
    rw [saved] at kept
    unfold EndsWith
    rw [CommentForest.bindFails (show discard (App.save o only) w = .error f w₁ by rw [Steps.discardRun, saved])]
    exact congrArg World.db kept

theorem storedPlain {w w' : World} {o : Obj} {only : Option (List String)} {row : Row}
    (wrote : Wrote w w' o only row) {f : Field} (hf : f ∈ o.entity.model.fields) (serial : f.kind ≠ .serial)
    (touched : touches only f = true) (notKey : f.name ≠ "id") (now : f.autoNow = false)
    (nowAdd : f.autoNowAdd = false) :
    f.prep ((o.prepare w.clock).get f.name) = .ok (row.get f.name) := by
  have clockFree : ∀ g ∈ o.entity.model.fields, (g.autoNow || g.autoNowAdd) = true → g.name ≠ f.name := by
    intro g mem clock same
    rw [List.inj_on_of_nodup_map (fieldNamesNodup o.entity) mem hf same, now, nowAdd] at clock
    cases clock
  exact storedValue wrote hf serial touched notKey clockFree

def permissionColumn : Field := { Catalog.charField "permission" 10 "view" with choices := Catalog.permissionChoices }

theorem shareColumns (b : Board) :
    taskRef b ∈ (Entity.taskShare b).model.fields ∧ Catalog.userRef "shared_with" ∈ (Entity.taskShare b).model.fields ∧
      Catalog.userRef "shared_by" ∈ (Entity.taskShare b).model.fields ∧
      permissionColumn ∈ (Entity.taskShare b).model.fields := by
  simp [taskRef, permissionColumn, Entity.model, Catalog.taskShare]

theorem prepareSharing {o : Obj} {b : Board} (entity : o.entity = .userTask b ∨ o.entity = .taskShare b)
    (now : Instant) : o.prepare now = o := by
  unfold Obj.prepare
  rcases entity with entity | entity <;> rw [entity]

def newShare (b : Board) (now : Instant) (pk k u : Nat) (permission message : String) : Obj :=
  (((((Obj.fresh (.taskShare b) now).set "task" (.int pk)).set "shared_with" (Value.ofOptNat (some k))).set
    "shared_by" (Value.ofOptNat (some u))).set "permission" (.text permission)).set "message" (.text message)

def updatedShare (b : Board) (s : Row) (u : Nat) (permission message : String) : Obj :=
  (((Obj.ofRow (.taskShare b) s).set "shared_by" (Value.ofOptNat (some u))).set "permission"
    (.text permission)).set "message" (.text message)

theorem newShareHolds {b : Board} {now : Instant} {pk k u : Nat} {permission message : String} {w w' : World}
    {row : Row} (wrote : Wrote w w' (newShare b now pk k u permission message) none row) :
    (⟨pk, k, u, permission⟩ : Grant).Holds row := by
  have entity : (newShare b now pk k u permission message).entity = .taskShare b := rfl
  obtain ⟨task, user, sharer, perm⟩ := shareColumns b
  rw [← entity] at task user sharer perm
  have prepared := prepareSharing (.inr entity) w.clock
  have storedTask := storedPlain wrote task (by simp [taskRef]) rfl (by simp [taskRef]) rfl rfl
  have storedUser := storedPlain wrote user (by decide) rfl (by decide) rfl rfl
  have storedSharer := storedPlain wrote sharer (by decide) rfl (by decide) rfl rfl
  have storedPerm := storedPlain wrote perm (by decide) rfl (by decide) rfl rfl
  rw [prepared] at storedTask storedUser storedSharer storedPerm
  simp only [newShare, taskRef, permissionColumn, Catalog.userRef, Catalog.charField, objGetSet, ne_eq,
    objGetSetOther, String.reduceEq, not_false_eq_true] at storedTask storedUser storedSharer storedPerm
  exact ⟨⟨(Except.ok.inj storedTask).symm, (Except.ok.inj storedUser).symm⟩, (Except.ok.inj storedSharer).symm,
    (Except.ok.inj storedPerm).symm⟩

def rewritten : List String := ["shared_by", "permission", "message", "shared_at"]

theorem updatedShareHolds {b : Board} {s : Row} {u : Nat} {permission message : String} {w w' : World}
    {row : Row} (keys : Keyed w.db (.taskShare b)) (mem : s ∈ w.db.rows (.taskShare b))
    (wrote : Wrote w w' (updatedShare b s u permission message) (some rewritten) row) :
    row.pk = s.pk ∧ row.get "task" = s.get "task" ∧ row.get "shared_with" = s.get "shared_with" ∧
      row.get "shared_by" = .int u ∧ row.get "permission" = .text permission := by
  have entity : (updatedShare b s u permission message).entity = .taskShare b := rfl
  have isStored : storedIn w.db (updatedShare b s u permission message) = true :=
    List.find?_isSome.mpr ⟨s, mem, by simp⟩
  obtain ⟨key, -, -, old, oldMem, oldKey, untouched⟩ := wrote.stored isStored
  have samePk : row.pk = s.pk := (Option.some.inj key).symm
  -- the stored row of the share's key is the share itself
  have isOld : old = s := List.inj_on_of_nodup_map keys oldMem mem (oldKey.trans samePk)
  subst isOld
  have kept : ∀ n, n ∉ rewritten → row.get n = old.get n := fun n outside => untouched n fun f _ _ touched same =>
    outside (by simpa [touches, same] using touched)
  obtain ⟨-, -, sharer, perm⟩ := shareColumns b
  rw [← entity] at sharer perm
  have prepared := prepareSharing (.inr entity) w.clock
  have storedSharer := storedPlain wrote sharer (by decide) rfl (by decide) rfl rfl
  have storedPerm := storedPlain wrote perm (by decide) rfl (by decide) rfl rfl
  rw [prepared] at storedSharer storedPerm
  simp only [updatedShare, permissionColumn, Catalog.userRef, Catalog.charField, objGetSet, ne_eq,
    objGetSetOther, String.reduceEq, not_false_eq_true] at storedSharer storedPerm
  exact ⟨samePk, kept "task" (by decide), kept "shared_with" (by decide), (Except.ok.inj storedSharer).symm,
    (Except.ok.inj storedPerm).symm⟩

theorem existsOfMem {db : Db} {e : Entity} {r : Row} (mem : r ∈ db.rows e) : db.exists? e r.pk = true :=
  List.find?_isSome.mpr ⟨r, mem, by simp⟩

theorem existsOfTable {db db' : Db} {e : Entity} {k : Nat} (same : db'.table e = db.table e)
    (present : db.exists? e k = true) : db'.exists? e k = true := by
  unfold Db.exists? Db.find?
  rw [rowsOfTable same]
  exact present

theorem fitsOfGet {db : Db} {e : Entity} {row : Row} (checked : db.violation e row.pk row.cells = none)
    {n : String} {k : Int} (got : row.get n = .int k) (hn : n ≠ "id") : Db.fitsWord k = true := by
  obtain ⟨fits, -⟩ := violationNoneChecks checked
  unfold Row.get at got
  rw [if_neg hn] at got
  rcases found : row.cells.find? (·.1 == n) with _ | c
  · simp [found] at got
  · simp only [found, Option.map_some, Option.getD_some] at got
    exact fits c (List.mem_of_find?_eq_some found) k got

theorem pairKeys {g : Grant} {s : Row} (pair : g.Pair s) :
    s.getNat? "task" = some g.task ∧ s.getNat? "shared_with" = some g.user := by
  simp [Row.getNat?, pair.1, pair.2, Value.asNat?, Value.asInt?]

/-- What sharing for grant `g` leaves of the sharing tables: they are consistent, and every share
is `g`'s pair's, holding `g`, or an earlier share of another pair. -/
structure Granted (b : Board) (g : Grant) (db db' : Db) : Prop where
  consistent : Consistent b db'
  shares : ∀ s ∈ db'.rows (.taskShare b), g.Holds s ∨ (s ∈ db.rows (.taskShare b) ∧ ¬g.Pair s)

theorem writtenThenAssigned {b : Board} {g : Grant} {w w₁ : World} {o : Obj} {only : Option (List String)}
    {row : Row} (consistent : Consistent b w.db) (wrote : Wrote w w₁ o only row) (entity : o.entity = .taskShare b)
    (holds : g.Holds row) (replaced : ∀ s ∈ w.db.rows (.taskShare b), g.Pair s → s.pk = row.pk)
    (apart : g.user ≠ g.sharer) (user : w.db.exists? .user g.user = true)
    (task : w.db.exists? (.task b) g.task = true) (role text : String) :
    EndsWith ((do
        let links ← App.all (.userTask b)
        if (!links.any fun a => refersTo a "task" (some g.task) && refersTo a "user" (some g.user)) = true then do
          let now ← App.now
          discard (App.save (linkObj b now g.user g.task role))
          App.message "success" text
        else App.message "success" text : App Unit) w₁) w (Granted b g w.db) := by
  obtain ⟨shares₁, ledger⟩ := sharesWritten consistent.toShares wrote entity holds replaced apart
  have other : ∀ e, e ≠ .taskShare b → e ≠ .systemLog → w₁.db.table e = w.db.table e :=
    fun e ne log => wrote.others e (by rw [entity]; exact ne) log
  have sameLinks := other (.userTask b) (by simp) (by simp)
  have links₁ := linksOfTable consistent.toLinks sameLinks (wrote.tables _ consistent.table)
  -- the share's row was checked, so both keys fit the store's integers
  have fits : Db.fitsWord g.user = true ∧ Db.fitsWord g.task = true :=
    ⟨fitsOfGet wrote.checked holds.1.2 (by decide), fitsOfGet wrote.checked holds.1.1 (by decide)⟩
  obtain ⟨w₂, ran, links₂, kept, ⟨a, assigned, assignedTask, assignedUser⟩, sameShares⟩ :=
    assignRuns role text links₁ fits (existsOfTable (other .user (by simp) (by simp)) user)
      (existsOfTable (other (.task b) (by simp) (by simp)) task)
  refine endsOk ran ⟨⟨links₂, sharesOfTable shares₁ sameShares, fun s mem => ?_⟩, fun s mem => ?_⟩
  · rw [rowsOfTable sameShares] at mem
    rcases ledger s mem with ⟨⟨sTask, sUser⟩, -⟩ | ⟨old, -⟩
    · exact ⟨a, assigned, assignedTask.trans sTask.symm, assignedUser.trans sUser.symm⟩
    · obtain ⟨a', mem', same⟩ := consistent.linked s old
      exact ⟨a', kept (by rwa [rowsOfTable sameLinks]), same⟩
  · rw [rowsOfTable sameShares] at mem
    exact ledger s mem

theorem shareWithEnds {b : Board} {u : Nat} {t v : Row} {o : Forms.Outcome} {w : World}
    (consistent : Consistent b w.db) (task : t ∈ w.db.rows (.task b)) (user : v ∈ w.db.rows .user)
    (other : v.pk ≠ u) :
    EndsWith (shareWith b (some u) t.pk (Obj.ofRow (.task b) t) (Obj.ofRow .user v) o w) w
      (Granted b ⟨t.pk, v.pk, u, o.text "permission"⟩ w.db) := by
  unfold shareWith
  rw [show (Obj.ofRow .user v).pk = some v.pk from rfl, bindRun (shareOfRun b t v.pk w)]
  rcases found : (w.db.rows (.taskShare b)).find? (fun s =>
      s.getNat? "task" == some t.pk && s.getNat? "shared_with" == some v.pk) with _ | s
  · -- no share of the pair yet: a new one
    rw [found, Option.map_none]
    dsimp only
    rw [bindRun (show App.now w = .ok w.clock w from rfl)]
    apply saveThen
    intro o₁ w₁ saved
    obtain ⟨row, -, wrote⟩ := saveWrites (by exact nofun) saved
    refine writtenThenAssigned consistent wrote rfl (newShareHolds wrote) (fun s mem pair => ?_) other
      (existsOfMem user) (existsOfMem task) _ _
    have keys := pairKeys pair
    have missed := List.find?_eq_none.mp found s mem
    simp [keys] at missed
  · -- the pair's share, given the new sharer and permission
    have mem := List.mem_of_find?_eq_some found
    have keys : s.getNat? "task" = some t.pk ∧ s.getNat? "shared_with" = some v.pk := by
      simpa using List.find?_some found
    obtain ⟨taskCell, userCell⟩ := consistent.shareCells s mem
    have sTask := (keyCellNat taskCell).mp keys.1
    have sUser := (keyCellNat userCell).mp keys.2
    rw [found, Option.map_some]
    dsimp only
    refine saveThen fun o₁ w₁ saved => ?_
    obtain ⟨row, -, wrote⟩ := saveWrites (by exact nofun) saved
    obtain ⟨samePk, sameTask, sameUser, sharer, perm⟩ := updatedShareHolds consistent.shareKeys mem wrote
    -- the only share of the pair is the one written over
    refine writtenThenAssigned (g := ⟨t.pk, v.pk, u, o.text "permission"⟩) consistent wrote rfl
      ⟨⟨sameTask.trans sTask, sameUser.trans sUser⟩, sharer, perm⟩
      (fun s' mem' pair => ?_) other (existsOfMem user) (existsOfMem task) _ _
    rw [consistent.single s' mem' s mem (pair.1.trans sTask.symm) (pair.2.trans sUser.symm), samePk]

theorem endsThen {α β : Type} {act : App α} {x : β} {w w₁ : World} {P : Db → Prop}
    (ends : EndsWith (act w₁) w P) : EndsWith ((act >>= fun _ => pure x) w₁) w P := by
  unfold EndsWith at *
  rcases h : act w₁ with ⟨a, w₂⟩ | ⟨f, w₂⟩ <;> rw [h] at ends
  · rw [bindRun h]
    exact ends
  · rw [CommentForest.bindFails h]
    exact ends

theorem endsFrom {α : Type} {res : EStateM.Result Fault World α} {w w₁ : World} {P : Db → Prop}
    (same : w₁.db = w.db) (ends : EndsWith res w₁ P) : EndsWith res w P := by
  unfold EndsWith at *
  split at ends
  · exact ends
  · exact ends.trans same

def formRead (w : World) : World := { w with exchange := { w.exchange with formRead := true } }

/-- A share request of task `pk` that every check lets through, for grant `g`: its user is
signed in and is `g`'s sharer, it posts, the task of key `pk` is there and its creator or a share
lets that user assign it, and the form is valid, asks `g`'s permission and names exactly one
user, `g`'s, who is not the sharer. -/
structure Accepts (b : Board) (r : Web.Request) (pk : Nat) (w : World) (g : Grant) : Prop where
  signedIn : r.userId? = some g.sharer
  posted : r.method = "POST"
  task : g.task = pk
  found : ∃ t, (w.db.rows (.task b)).filter (·.pk == pk) = [t] ∧ grants w.db b t g.sharer ["assign"] = true
  form : ∃ o, readShare (Forms.Submitted.ofPairs r.form) none (formRead w) = .ok o (formRead w) ∧
    o.valid = true ∧ o.text "permission" = g.permission ∧
    ∃ v, (w.db.rows .user).filter (·.getText "username" == o.text "username") = [v] ∧ v.pk = g.user
  other : g.user ≠ g.sharer

theorem filterSingle {α : Type} {l : List α} {p : α → Bool} {x : α} (h : l.filter p = [x]) : x ∈ l ∧ p x = true :=
  List.mem_filter.mp (h ▸ List.mem_singleton_self x)

theorem filterObjs {e : Entity} {rows : List Row} {p : Obj → Bool} {q : Row → Bool}
    (same : ∀ r, p (Obj.ofRow e r) = q r) {t : Row} (single : rows.filter q = [t]) :
    (rows.map (Obj.ofRow e)).filter p = [Obj.ofRow e t] := by
  rw [List.filter_map, show p ∘ Obj.ofRow e = q from funext same, single]
  rfl

theorem getOr404Single {w : World} {e : Entity} {p : Obj → Bool} {o : Obj}
    (single : ((w.db.rows e).map (Obj.ofRow e)).filter p = [o]) : App.getOr404 e p w = .ok o w := by
  unfold App.getOr404
  rw [bindRun (allRun e w), single]
  rfl

theorem getWhereSingle {w : World} {e : Entity} {p : Obj → Bool} {o : Obj}
    (single : ((w.db.rows e).map (Obj.ofRow e)).filter p = [o]) : App.getWhere e p w = .ok o w := by
  unfold App.getWhere
  rw [bindRun (allRun e w), single]
  rfl

theorem acceptedShare {b : Board} {r : Web.Request} {pk : Nat} {w : World} {g : Grant}
    (consistent : Consistent b w.db) (accepts : Accepts b r pk w g) :
    EndsWith (page b r (.share pk) w) w (Granted b g w.db) := by
  obtain ⟨task, user, sharer, permission⟩ := g
  obtain ⟨signedIn, posted, rfl, ⟨t, taskRow, allowed⟩, ⟨o, read, valid, rfl, v, userRow, rfl⟩, other⟩ := accepts
  dsimp only at *
  obtain ⟨taskMem, taskKey⟩ := filterSingle taskRow
  obtain rfl : t.pk = task := beq_iff_eq.mp taskKey
  obtain ⟨userMem, -⟩ := filterSingle userRow
  rw [show page b r (.share t.pk) = Web.guarded [Web.requireLogin r] (shareTask b r t.pk) from rfl,
    guardedSignedIn signedIn]
  unfold shareTask
  rw [bindRun (getOr404Single (filterObjs (fun r => by simp) taskRow)), signedIn,
    bindRun (grantedRun b t sharer _ w), allowed]
  obtain ⟨j, described⟩ : ∃ j, App.refJson (Obj.ofRow (.task b) t) w = .ok j w := ⟨_, rfl⟩
  rw [if_neg (by decide), bindRun described, if_pos (by simp [posted]),
    bindRun (show App.readForm w = .ok () (formRead w) from rfl), bindRun read, if_pos valid]
  dsimp only
  rw [bindRun (getWhereSingle (w := formRead w) (filterObjs (fun r => by simp [Obj.getText, Row.getText]) userRow)),
    if_neg (by simpa using other)]
  exact endsFrom (show (formRead w).db = w.db from rfl) (endsThen (shareWithEnds consistent taskMem userMem other))

section Refusal
open Std.Do

set_option mvcgen.warning false

theorem keepsRunSpec {α : Type} (act : App α) (s₀ : World)
    (keeps : ⦃fun s => ⌜s = s₀⌝⦄ act ⦃post⟨fun _ s => ⌜s = s₀⌝, fun _ s => ⌜s = s₀⌝⟩⦄) :
    ⦃fun s => ⌜s = s₀⌝⦄ act ⦃post⟨fun x s => ⌜s = s₀ ∧ act s₀ = .ok x s₀⌝, fun _ s => ⌜s = s₀⌝⟩⦄ := by
  intro s h
  have kept := Answers.runOfTriple keeps
  simp only [wp, PredTrans.apply, EStateM.run] at h kept ⊢
  subst h
  split <;> simp_all

theorem grantedRuns (b : Board) (task : Obj) (user : Option Nat) (perms : List String) (s₀ : World) :
    ⦃fun s => ⌜s = s₀⌝⦄ granted b task user perms
    ⦃post⟨fun x s => ⌜s = s₀ ∧ granted b task user perms s₀ = .ok x s₀⌝, fun _ s => ⌜s = s₀⌝⟩⦄ := by
  refine keepsRunSpec _ s₀ ?_
  mvcgen [granted, shareOf, App.all, App.db, -TaskDisclosure.grantedSpec]

theorem readShareRuns (data : Forms.Submitted) (sharer : Option Nat) (s₀ : World) :
    ⦃fun s => ⌜s = s₀⌝⦄ readShare data sharer
    ⦃post⟨fun o s => ⌜s = s₀ ∧ readShare data sharer s₀ = .ok o s₀⌝, fun _ s => ⌜s = s₀⌝⟩⦄ := by
  refine keepsRunSpec _ s₀ ?_
  mvcgen [readShare, App.all, App.db]
  all_goals simp_all

theorem getOr404Found (e : Entity) (p : Obj → Bool) (s₀ : World) :
    ⦃fun s => ⌜s = s₀⌝⦄ App.getOr404 e p
    ⦃post⟨fun o s => ⌜s = s₀ ∧ ((s₀.db.rows e).map (Obj.ofRow e)).filter p = [o]⌝, fun _ s => ⌜s = s₀⌝⟩⦄ := by
  mvcgen [App.getOr404, App.all, App.db, App.raise, App.notFound, -Steps.getOr404Spec]
  all_goals simp_all

theorem getWhereFound (e : Entity) (p : Obj → Bool) (s₀ : World) :
    ⦃fun s => ⌜s = s₀⌝⦄ App.getWhere e p
    ⦃post⟨fun o s => ⌜s = s₀ ∧ ((s₀.db.rows e).map (Obj.ofRow e)).filter p = [o]⌝, fun _ s => ⌜s = s₀⌝⟩⦄ := by
  mvcgen [App.getWhere, App.all, App.db, App.raise, App.fail, -Steps.getWhereSpec]
  all_goals simp_all

theorem shareWithAny (b : Board) (sharer : Option Nat) (pk : Nat) (task target : Obj) (o : Forms.Outcome)
    (s₀ : World) :
    ⦃fun s => ⌜s = s₀⌝⦄ shareWith b sharer pk task target o ⦃post⟨fun _ _ => ⌜True⌝, fun _ _ => ⌜True⌝⟩⦄ := by
  intro s _
  simp only [wp, PredTrans.apply, EStateM.run]
  split <;> trivial

theorem rowsOfObjs {e : Entity} {rows : List Row} {p : Obj → Bool} {q : Row → Bool}
    (same : ∀ r, p (Obj.ofRow e r) = q r) {o : Obj} (single : (rows.map (Obj.ofRow e)).filter p = [o]) :
    ∃ t, rows.filter q = [t] ∧ o = Obj.ofRow e t := by
  rw [List.filter_map, show p ∘ Obj.ofRow e = q from funext same, List.map_eq_singleton_iff] at single
  obtain ⟨t, rows, rfl⟩ := single
  exact ⟨t, rows, rfl⟩

theorem grantedAnonymous (b : Board) (task : Obj) (perms : List String) (w : World) :
    granted b task none perms w = .ok false w := by
  have found : shareOf b task none w = .ok none w := by
    unfold shareOf
    rw [bindRun (allRun _ w)]
    simp only [refersTo, Option.isSome_none, Bool.false_and, Bool.and_false]
    rw [List.find?_eq_none.mpr fun _ _ => Bool.false_ne_true]
    rfl
  unfold granted
  rw [if_neg (by simp [isCreator, refersTo]), bindRun found]
  rfl

theorem acceptsOfPath {b : Board} {r : Web.Request} {pk : Nat} {w : World} {task target : Obj}
    {o : Forms.Outcome}
    (taskFound : ((w.db.rows (.task b)).map (Obj.ofRow (.task b))).filter (·.pk == some pk) = [task])
    (allowed : granted b task r.userId? ["assign"] w = .ok true w) (posted : r.method = "POST")
    (read : readShare (Forms.Submitted.ofPairs r.form) none (formRead w) = .ok o (formRead w))
    (valid : o.valid = true)
    (targetFound : ((w.db.rows .user).map (Obj.ofRow .user)).filter
      (·.getText "username" == o.text "username") = [target])
    (other : ¬target.pk = r.userId?) : ∃ g, Accepts b r pk w g := by
  obtain ⟨t, taskRows, rfl⟩ := rowsOfObjs (q := fun x => x.pk == pk) (fun x => by simp) taskFound
  obtain ⟨v, userRows, rfl⟩ := rowsOfObjs (q := fun x => x.getText "username" == o.text "username")
    (fun x => by simp [Obj.getText, Row.getText]) targetFound
  cases signedIn : r.userId? with
  | none =>
    rw [signedIn, grantedAnonymous] at allowed
    cases allowed
  | some u =>
    rw [signedIn, grantedRun] at allowed
    have sharer : v.pk ≠ u := fun same => other (by rw [signedIn, ← same]; rfl)
    exact ⟨⟨pk, v.pk, u, o.text "permission"⟩, signedIn, posted, rfl, ⟨t, taskRows, by injection allowed⟩,
      ⟨o, read, valid, rfl, v, userRows, rfl⟩, sharer⟩

theorem refusedKeeps (b : Board) (r : Web.Request) (pk : Nat) (s₀ : World) (refused : ¬∃ g, Accepts b r pk s₀ g) :
    ⦃fun s => ⌜s = s₀⌝⦄ shareTask b r pk ⦃post⟨fun _ s => ⌜s.db = s₀.db⌝, fun _ s => ⌜s.db = s₀.db⌝⟩⦄ := by
  mvcgen [shareTask, App.readForm, App.message, App.render, getOr404Found, getWhereFound, grantedRuns,
    readShareRuns, shareWithAny, -Steps.getOr404Spec, -Steps.getWhereSpec, -TaskDisclosure.grantedSpec]
  all_goals simp_all +zetaDelta
  all_goals
    rename_i taskFound _ allowed posted _ valid read other targetFound
    obtain ⟨g, accepts⟩ := acceptsOfPath (w := s₀) taskFound.2 allowed.2 posted read.2 valid targetFound.2 other
    exact (refused g accepts).elim

end Refusal

theorem refusedShare {b : Board} {r : Web.Request} {pk : Nat} {w : World}
    (refused : ¬∃ g, Accepts b r pk w g) : (RequestLog.after (page b r (.share pk) w)).db = w.db := by
  rw [show page b r (.share pk) = Web.guarded [Web.requireLogin r] (shareTask b r pk) from rfl]
  unfold Web.guarded
  rcases List.findSome? id [Web.requireLogin r] with _ | resp
  · exact CommentForest.afterOfTriple (Q := fun s => s.db = w.db) (refusedKeeps b r pk w refused)
  · rfl

end Portal.ShareRequests
