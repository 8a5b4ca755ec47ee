import Mathlib
import Portal.Proofs.WrittenRows
import Portal.Proofs.RequestLog
import Portal.Tasks.Views
import Portal.Proofs.CommentForest
import Portal.Proofs.TaskDisclosure
import Portal.Proofs.FormValues
/-! When a task was completed. A task save sets `completed_at` to the clock when the task becomes
completed, keeps it while the task stays completed, and clears it otherwise (`completionStep`).
Neither the site's task form nor the administration's holds a completion time, so over every run
of the boards' create and edit requests and the administration's task saves, with the clock moved
anywhere in between, a task holds a completion time exactly when it is completed, and that time is
the clock of the request that last completed it.

Main statement: `completionTracked`. -/
namespace Portal.CompletionTimes
open Tasks Forms FormValues Std.Do

set_option mvcgen.warning false

def momentCell : Option Instant → Value
  | none => .null
  | some t => .moment (Moment.utc t)

def completedAt (r : Row) : Option Instant :=
  match r.get "completed_at" with
  | .moment m => some m.instant
  | _ => none

def isCompleted (r : Row) : Bool := r.get "status" == .text "completed"

def completionStep (c : Option Instant) (done : Bool) (now : Instant) : Option Instant :=
  if done then c.or (some now) else none

/-! ### The save -/

theorem truthyCell (c : Option Instant) : (momentCell c).truthy = c.isSome := by
  cases c <;> rfl

theorem prepareCompletion {o : Obj} {b : Board} (task : o.entity = .task b) {c : Option Instant}
    (carried : o.get "completed_at" = momentCell c) (now : Instant) :
    (o.prepare now).get "completed_at" = momentCell (completionStep c (o.get "status" == .text "completed") now) ∧
      (o.prepare now).get "status" = o.get "status" := by
  unfold Obj.prepare
  rw [task]
  dsimp only
  by_cases done : (o.get "status" == .text "completed") = true
  · rw [if_pos done, carried, truthyCell, done]
    cases c with
    | none =>
      simp only [Option.isSome_none, Bool.false_eq_true, if_false]
      exact ⟨WrittenRows.objGetSet _ _ (by decide), WrittenRows.objGetSetOther _ _ (by decide)⟩
    | some t => exact ⟨carried, rfl⟩
  · rw [if_neg done, Bool.eq_false_iff.mpr done]
    exact ⟨WrittenRows.objGetSet _ _ (by decide), WrittenRows.objGetSetOther _ _ (by decide)⟩

def statusColumn : Field := { Catalog.charField "status" 15 "pending" with choices := Catalog.statusChoices }

theorem taskColumns (b : Board) :
    statusColumn ∈ (Entity.task b).model.fields ∧ Catalog.optMoment "completed_at" ∈ (Entity.task b).model.fields := by
  simp [statusColumn, Entity.model, Catalog.task]

theorem prepMomentCell {f : Field} (kind : f.kind = .moment) (c : Option Instant) :
    f.prep (momentCell c) = .ok (momentCell c) := by
  cases c with
  | none => rfl
  | some t =>
    unfold Field.prep
    rw [kind]
    rfl

theorem writtenCompletion {w w' : World} {o : Obj} {row : Row} {b : Board} (task : o.entity = .task b)
    (wrote : WrittenRows.Wrote w w' o none row) {c : Option Instant} (carried : o.get "completed_at" = momentCell c)
    {s : String} (status : o.get "status" = .text s) :
    row.get "completed_at" = momentCell (completionStep c (s == "completed") w.clock) ∧ row.get "status" = .text s := by
  obtain ⟨atPrep, statusPrep⟩ := prepareCompletion task carried w.clock
  obtain ⟨statusIn, completedIn⟩ := taskColumns b
  rw [← task] at statusIn completedIn
  have storedStatus := WrittenRows.storedUnstamped wrote statusIn (by decide) (by decide) rfl rfl
  have storedAt := WrittenRows.storedUnstamped wrote completedIn (by decide) (by decide) rfl rfl
  have done : (o.get "status" == .text "completed") = (s == "completed") := by
    rw [status]
    rfl
  rw [show statusColumn.name = "status" from rfl, statusPrep, status] at storedStatus
  rw [show (Catalog.optMoment "completed_at").name = "completed_at" from rfl, atPrep, done,
    prepMomentCell rfl] at storedAt
  exact ⟨(Except.ok.inj storedAt).symm, (Except.ok.inj storedStatus).symm⟩

theorem completedAtCell {r : Row} {c : Option Instant} (h : r.get "completed_at" = momentCell c) :
    completedAt r = c := by
  unfold completedAt
  rw [h]
  cases c <;> rfl

theorem stepDone (c : Option Instant) (done : Bool) (now : Instant) :
    (completionStep c done now).isSome = done := by
  cases done <;> cases c <;> rfl

theorem stepKeeps {c : Option Instant} {done : Bool} (tracked : c.isSome = done) (now : Instant) :
    completionStep c done now = c := by
  cases done <;> cases c <;> simp_all [completionStep]

section Board
variable (b : Board)

/-- The task table's rows keep their keys apart, hold their status as text, and hold a completion
time, as a moment, exactly when they are completed. -/
structure Tracked (db : Db) : Prop where
  keys : ((db.rows (.task b)).map Row.pk).Nodup
  statuses : ∀ r ∈ db.rows (.task b), ∃ s, r.get "status" = .text s
  cells : ∀ r ∈ db.rows (.task b), r.get "completed_at" = momentCell (completedAt r)
  done : ∀ r ∈ db.rows (.task b), (completedAt r).isSome = isCompleted r

def completionOf (db : Db) (k : Nat) : Option Instant := (db.find? (.task b) k).bind completedAt

def doneOf (db : Db) (k : Nat) : Bool := (db.find? (.task b) k).any isCompleted

def Follows (db : Db) (now : Instant) (db' : Db) : Prop :=
  ∀ k, completionOf b db' k = completionStep (completionOf b db k) (doneOf b db' k) now

end Board

theorem findKey {l : List Row} (keys : (l.map Row.pk).Nodup) {x : Row} (mem : x ∈ l) :
    l.find? (·.pk == x.pk) = some x := by
  induction l with
  | nil => cases mem
  | cons y ys ih =>
    rw [List.map_cons, List.nodup_cons] at keys
    rw [List.find?_cons]
    rcases List.mem_cons.mp mem with rfl | later
    · simp
    · have other : y.pk ≠ x.pk := fun same => keys.1 (same ▸ List.mem_map_of_mem later)
      have skip : (y.pk == x.pk) = false := by simpa using other
      rw [skip, ih keys.2 later]

theorem findSome {l : List Row} {k : Nat} {r : Row} (h : l.find? (·.pk == k) = some r) : r ∈ l ∧ r.pk = k :=
  ⟨List.mem_of_find?_eq_some h, by simpa using List.find?_some h⟩

theorem findNone {l : List Row} {k : Nat} (h : ∀ x ∈ l, x.pk ≠ k) : l.find? (·.pk == k) = none :=
  List.find?_eq_none.mpr fun x mem => by simpa using h x mem

theorem trackedKey {b : Board} {db : Db} (tracked : Tracked b db) (k : Nat) :
    (completionOf b db k).isSome = doneOf b db k := by
  unfold completionOf doneOf
  rcases found : db.find? (.task b) k with _ | r
  · rfl
  · exact tracked.done r (findSome found).1

theorem followsSame {b : Board} {db : Db} (tracked : Tracked b db) (now : Instant) : Follows b db now db :=
  fun k => (stepKeeps (trackedKey tracked k) now).symm

theorem findReplaced {rows rows' : List Row} {row : Row} (h : WrittenRows.Replaces rows rows' row)
    (keys' : (rows'.map Row.pk).Nodup) {k : Nat} (other : k ≠ row.pk) :
    rows'.find? (·.pk == k) = rows.find? (·.pk == k) := by
  rcases found : rows.find? (·.pk == k) with _ | x
  · rw [found]
    apply findNone
    intro x mem same
    rcases h.within x mem with rfl | ⟨old, -⟩
    · exact other same.symm
    · exact List.find?_eq_none.mp found x old (by simp [same])
  · rw [found]
    obtain ⟨mem, rfl⟩ := findSome found
    exact findKey keys' (h.kept x mem other)

theorem findUnwritten {rows rows' : List Row} {row : Row} (h : WrittenRows.Replaces rows rows' row)
    (absent : row ∉ rows') : rows'.find? (·.pk == row.pk) = none := by
  apply findNone
  intro x mem same
  rcases h.within x mem with rfl | ⟨-, other⟩
  · exact absent mem
  · exact other same

/-- What a task save is handed: a status as text, and the completion time of the stored task it
rewrites, or none for a new task. -/
structure Carries (b : Board) (w : World) (o : Obj) : Prop where
  status : ∃ s, o.get "status" = .text s
  completion : (AuditTrail.storedIn w.db o = false ∧ o.get "completed_at" = .null) ∨
    ∃ r ∈ w.db.rows (.task b), o.pk = some r.pk ∧ o.get "completed_at" = r.get "completed_at"

theorem saveFollows {b : Board} {o o' : Obj} {w w' : World} (task : o.entity = .task b)
    (carries : Carries b w o) (tracked : Tracked b w.db) (saved : App.save o none w = .ok o' w') :
    Tracked b w'.db ∧ Follows b w.db w.clock w'.db := by
  obtain ⟨row, -, wrote⟩ := WrittenRows.saveWrites (by rw [task]; exact nofun) saved
  have rows := wrote.rows
  have keyed := wrote.keyed
  rw [task] at rows keyed
  have keys' := keyed tracked.keys
  obtain ⟨s, status⟩ := carries.status
  -- the completion time the record carries is the stored task's, or none for a new one
  obtain ⟨c, carried, before⟩ : ∃ c, o.get "completed_at" = momentCell c ∧ completionOf b w.db row.pk = c := by
    rcases carries.completion with ⟨fresh, empty⟩ | ⟨r, mem, key, same⟩
    · refine ⟨none, empty, ?_⟩
      have absent := (wrote.fresh fresh).2.1
      rw [task] at absent
      unfold completionOf Db.find?
      rw [findNone absent]
      rfl
    · refine ⟨completedAt r, same.trans (tracked.cells r mem), ?_⟩
      have stored : AuditTrail.storedIn w.db o = true := by
        simp only [AuditTrail.storedIn, key, task, Db.exists?, Db.find?, findKey tracked.keys mem,
          Option.isSome_some]
      have sameKey : r.pk = row.pk := Option.some.inj ((key.symm.trans (wrote.stored stored).1))
      unfold completionOf Db.find?
      rw [← sameKey, findKey tracked.keys mem]
      rfl
  obtain ⟨cell, rowStatus⟩ := writtenCompletion task wrote carried status
  have rowAt := completedAtCell cell
  have rowDone : isCompleted row = (s == "completed") := by
    unfold isCompleted
    rw [rowStatus]
    rfl
  refine ⟨⟨keys', fun x mem => ?_, fun x mem => ?_, fun x mem => ?_⟩, fun k => ?_⟩
  · rcases rows.within x mem with rfl | ⟨old, -⟩
    · exact ⟨s, rowStatus⟩
    · exact tracked.statuses x old
  · rcases rows.within x mem with rfl | ⟨old, -⟩
    · rw [cell, rowAt]
    · exact tracked.cells x old
  · rcases rows.within x mem with rfl | ⟨old, -⟩
    · rw [rowAt, rowDone, stepDone]
    · exact tracked.done x old
  · by_cases written : k = row.pk
    · subst written
      rw [before]
      unfold completionOf doneOf
      rw [Db.find?]
      by_cases present : row ∈ w'.db.rows (.task b)
      · rw [findKey keys' present]
        simp only [Option.bind_some, Option.any_some, rowAt, rowDone]
      · rw [findUnwritten rows present]
        rfl
    · have same : w'.db.find? (.task b) k = w.db.find? (.task b) k :=
        findReplaced rows keys' written
      unfold completionOf doneOf
      rw [same]
      exact followsSame tracked w.clock k

/-! ### The task form -/

theorem taskStatusText {o : Outcome} (good : Good taskFields o) {v : Value} (h : o.get? "status" = some v) :
    ∃ s, v = .text s := by
  unfold Outcome.get? at h
  obtain ⟨p, found, rfl⟩ := Option.map_eq_some_iff.mp h
  have named : p.1 = "status" := by simpa using List.find?_some found
  obtain ⟨f, mem, name, reads⟩ := good p (List.mem_of_find?_eq_some found)
  simp only [taskFields, List.mem_cons, List.not_mem_nil, or_false] at mem
  rcases mem with rfl | rfl | rfl | rfl | rfl
  all_goals first | exact reads _ rfl | exact absurd (name.trans named) (by decide)

/-! ### The task views -/

def copyGiven (o : Outcome) (t : Obj) (k : String) : Obj :=
  match o.get? k with
  | some v => t.set k v
  | none => t

theorem applyTaskSteps (t : Obj) (o : Outcome) :
    applyTask t o = ["title", "description", "priority", "status", "due_date"].foldl (copyGiven o) t := rfl

theorem copyGivenOther (o : Outcome) (t : Obj) {k n : String} (h : k ≠ n) : (copyGiven o t k).get n = t.get n := by
  unfold copyGiven
  split
  · exact WrittenRows.objGetSetOther _ _ h
  · rfl

theorem copyGivenSame (o : Outcome) (t : Obj) {k : String} (hk : k ≠ "id") :
    (copyGiven o t k).get k = (o.get? k).getD (t.get k) := by
  unfold copyGiven
  split
  · rename_i v given
    rw [given, WrittenRows.objGetSet _ _ hk]
    rfl
  · rename_i absent
    rw [absent]
    rfl

theorem copyGivenPk (o : Outcome) (t : Obj) {k : String} (hk : k ≠ "id") : (copyGiven o t k).pk = t.pk := by
  unfold copyGiven
  split
  · exact WrittenRows.setPk _ _ hk
  · rfl

theorem copyGivenEntity (o : Outcome) (t : Obj) (k : String) : (copyGiven o t k).entity = t.entity := by
  unfold copyGiven
  split
  · exact WrittenRows.setEntity _ _ _
  · rfl

theorem applyTaskGet (t : Obj) (o : Outcome) :
    (applyTask t o).get "status" = (o.get? "status").getD (t.get "status") ∧
      (applyTask t o).get "completed_at" = t.get "completed_at" ∧ (applyTask t o).pk = t.pk ∧
      (applyTask t o).entity = t.entity := by
  simp only [applyTaskSteps, List.foldl_cons, List.foldl_nil]
  refine ⟨?_, ?_, ?_, ?_⟩
  · rw [copyGivenOther _ _ (by decide), copyGivenSame _ _ (by decide), copyGivenOther _ _ (by decide),
      copyGivenOther _ _ (by decide), copyGivenOther _ _ (by decide)]
  · simp only [copyGivenOther _ _ (show ("due_date" : String) ≠ "completed_at" by decide),
      copyGivenOther _ _ (show ("status" : String) ≠ "completed_at" by decide),
      copyGivenOther _ _ (show ("priority" : String) ≠ "completed_at" by decide),
      copyGivenOther _ _ (show ("description" : String) ≠ "completed_at" by decide),
      copyGivenOther _ _ (show ("title" : String) ≠ "completed_at" by decide)]
  · simp only [copyGivenPk _ _ (show ("due_date" : String) ≠ "id" by decide),
      copyGivenPk _ _ (show ("status" : String) ≠ "id" by decide),
      copyGivenPk _ _ (show ("priority" : String) ≠ "id" by decide),
      copyGivenPk _ _ (show ("description" : String) ≠ "id" by decide),
      copyGivenPk _ _ (show ("title" : String) ≠ "id" by decide)]
  · simp only [copyGivenEntity]

def Moved (b : Board) (w₀ w : World) : Prop :=
  Tracked b w.db ∧ Follows b w₀.db w₀.clock w.db ∧ w.clock = w₀.clock

theorem movedOfTable {b : Board} {w₀ w w' : World} (moved : Moved b w₀ w)
    (table : w'.db.table (.task b) = w.db.table (.task b)) (clock : w'.clock = w.clock) : Moved b w₀ w' := by
  have rows : w'.db.rows (.task b) = w.db.rows (.task b) := by
    unfold Db.rows
    rw [table]
  have found : ∀ k, w'.db.find? (.task b) k = w.db.find? (.task b) k := fun k => by
    unfold Db.find?
    rw [rows]
  obtain ⟨⟨keys, statuses, cells, done⟩, follows, clock₀⟩ := moved
  refine ⟨⟨rows ▸ keys, rows ▸ statuses, rows ▸ cells, rows ▸ done⟩, fun k => ?_, clock.trans clock₀⟩
  unfold completionOf doneOf
  rw [found k]
  exact follows k

theorem movedQuiet {b : Board} {w₀ w : World} (tracked : Tracked b w₀.db) (db : w.db = w₀.db)
    (clock : w.clock = w₀.clock) : Moved b w₀ w := by
  refine movedOfTable ⟨tracked, followsSame tracked _, rfl⟩ ?_ clock
  rw [db]

theorem carriedSaveMoves {b : Board} {w₀ w₁ w : World} {o o' : Obj} (task : o.entity = .task b)
    (carries : Carries b w₁ o) (tracked : Tracked b w₀.db) (saved : App.save o none w₁ = .ok o' w)
    (db : w₁.db = w₀.db) (clock : w₁.clock = w₀.clock) : Moved b w₀ w := by
  obtain ⟨after, follows⟩ := saveFollows task carries (db ▸ tracked) saved
  have keeps := Answers.runOfTriple (Steps.saveSpec o none w₁)
  rw [saved] at keeps
  refine ⟨after, ?_, ?_⟩
  · rw [← db, ← clock]
    exact follows
  · rw [keeps, ← clock]

theorem editSaveMoves {b : Board} {w₀ w₁ w : World} {t : Row} (mem : t ∈ w₀.db.rows (.task b))
    {o : Outcome} (good : Good taskFields o) (tracked : Tracked b w₀.db) {o' : Obj}
    (saved : App.save (applyTask (Obj.ofRow (.task b) t) o) none w₁ = .ok o' w)
    (db : w₁.db = w₀.db) (clock : w₁.clock = w₀.clock) : Moved b w₀ w := by
  obtain ⟨status, completed, key, entity⟩ := applyTaskGet (Obj.ofRow (.task b) t) o
  have carries : Carries b w₁ (applyTask (Obj.ofRow (.task b) t) o) := by
    refine ⟨?_, .inr ⟨t, db ▸ mem, key, by rw [completed]; exact Listing.ofRowGet _ _ _⟩⟩
    rw [status]
    rcases given : o.get? "status" with _ | v
    · rw [Option.getD_none, Listing.ofRowGet]
      exact tracked.statuses t mem
    · exact taskStatusText good given
  exact carriedSaveMoves entity carries tracked saved db clock

theorem taskEditMoves (b : Board) (r : Web.Request) (pk : Nat) (s₀ : World) (tracked : Tracked b s₀.db) :
    ⦃fun s => ⌜s = s₀⌝⦄ taskEdit b r pk ⦃post⟨fun _ s => ⌜Moved b s₀ s⌝, fun _ s => ⌜Moved b s₀ s⌝⟩⦄ := by
  mvcgen [taskEdit, App.readForm, App.message, App.render, readAllGood, WrittenRows.saveRunsSpec,
    -Steps.saveSpec, -Steps.readAllSpec]
  all_goals simp_all +zetaDelta
  case vc2 =>
    obtain ⟨-, -, t, mem, rfl⟩ := ‹_ ∧ _ ∧ ∃ t ∈ s₀.db.rows (.task b), _›
    rename_i saved
    exact movedOfTable (editSaveMoves mem (‹_ ∧ Good taskFields _›).2 tracked saved rfl rfl) rfl rfl
  all_goals first
    | exact movedQuiet tracked rfl rfl
    | exact fun _ => movedQuiet tracked rfl rfl
    | exact fun _ _ => movedQuiet tracked rfl rfl

theorem freshTask (b : Board) (now : Instant) :
    (Obj.fresh (.task b) now).get "status" = .text "pending" ∧
      (Obj.fresh (.task b) now).get "completed_at" = .null ∧ (Obj.fresh (.task b) now).pk = none := by
  cases b <;> exact ⟨rfl, rfl, rfl⟩

theorem createSaveMoves {b : Board} {w₀ w₁ w : World} {o : Outcome} (good : Good taskFields o)
    (tracked : Tracked b w₀.db) {now : Instant} {v : Value} {o' : Obj}
    (saved : App.save ((applyTask (Obj.fresh (.task b) now) o).set "created_by" v) none w₁ = .ok o' w)
    (db : w₁.db = w₀.db) (clock : w₁.clock = w₀.clock) : Moved b w₀ w := by
  obtain ⟨status, completed, key, entity⟩ := applyTaskGet (Obj.fresh (.task b) now) o
  obtain ⟨pending, empty, fresh⟩ := freshTask b now
  have carries : Carries b w₁ ((applyTask (Obj.fresh (.task b) now) o).set "created_by" v) := by
    refine ⟨?_, .inl ⟨?_, ?_⟩⟩
    · rw [WrittenRows.objGetSetOther _ _ (by decide), status]
      rcases given : o.get? "status" with _ | v
      · exact ⟨"pending", pending⟩
      · exact taskStatusText good given
    · simp [AuditTrail.storedIn, key, fresh]
    · rw [WrittenRows.objGetSetOther _ _ (by decide), completed, empty]
  exact carriedSaveMoves (by rw [WrittenRows.setEntity, entity]; rfl) carries tracked saved db clock

theorem otherSaveMoves {b : Board} {w₀ w w' : World} (moved : Moved b w₀ w) {o o' : Obj}
    (saved : App.save o none w = .ok o' w') (task : o.entity ≠ .task b) (log : o.entity ≠ .systemLog) :
    Moved b w₀ w' := by
  obtain ⟨row, -, wrote⟩ := WrittenRows.saveWrites log saved
  have keeps := Answers.runOfTriple (Steps.saveSpec o none w)
  rw [saved] at keeps
  exact movedOfTable moved (wrote.others _ (Ne.symm task) (by simp)) (by rw [keeps])

theorem taskCreateMoves (b : Board) (r : Web.Request) (s₀ : World) (tracked : Tracked b s₀.db) :
    ⦃fun s => ⌜s = s₀⌝⦄ taskCreate b r ⦃post⟨fun _ s => ⌜Moved b s₀ s⌝, fun _ s => ⌜Moved b s₀ s⌝⟩⦄ := by
  mvcgen [taskCreate, App.readForm, App.message, App.render, App.now, readAllGood, WrittenRows.saveRunsSpec,
    -Steps.saveSpec, -Steps.readAllSpec]
  all_goals simp_all +zetaDelta
  case vc1 =>
    rename_i form savedTask savedLink
    have first := createSaveMoves form.2 tracked savedTask rfl rfl
    exact movedOfTable (otherSaveMoves first savedLink (by simp [Obj.fresh]) (by simp [Obj.fresh])) rfl rfl
  case vc2 =>
    rename_i form savedTask
    exact fun _ => createSaveMoves form.2 tracked savedTask rfl rfl
  all_goals first
    | exact movedQuiet tracked rfl rfl
    | exact fun _ => movedQuiet tracked rfl rfl

/-! ### The administration's task form -/

section AdminForm
open Admin

theorem adminTaskSpecs (b : Board) : formSpecs (taskAdmin b) (Entity.task b).model =
    [Catalog.charField "title" 200, { Catalog.textField "description" with blank := true },
      { Catalog.charField "priority" 10 "medium" with choices := Catalog.priorityChoices }, statusColumn,
      Catalog.optMoment "due_date", Catalog.userRef "created_by"].map specOf := by
  cases b <;> rfl

theorem adminTaskNames (b : Board) : (formSpecs (taskAdmin b) (Entity.task b).model).map (·.name) =
    ["title", "description", "priority", "status", "due_date", "created_by"] := by
  rw [adminTaskSpecs]
  rfl

theorem adminTaskStatus (b : Board) :
    (formSpecs (taskAdmin b) (Entity.task b).model).filter (·.name == "status") = [specOf statusColumn] := by
  rw [adminTaskSpecs]
  rfl

theorem adminTaskField {b : Board} {out : Outcome} (good : Good (formSpecs (taskAdmin b) (Entity.task b).model) out)
    {p : String × Value} (mem : p ∈ out.cleaned) :
    p.1 ≠ "id" ∧ p.1 ≠ "completed_at" ∧ (p.1 = "status" → ∃ s, p.2 = .text s) := by
  obtain ⟨f, listed, named, reads⟩ := good p mem
  have onForm := List.mem_map_of_mem (f := (·.name)) listed
  rw [adminTaskNames, named] at onForm
  refine ⟨fun key => by simp [key] at onForm, fun late => by simp [late] at onForm, fun status => ?_⟩
  have chosen : f ∈ [specOf statusColumn] := by
    rw [← adminTaskStatus b]
    exact List.mem_filter.mpr ⟨listed, by simp [named, status]⟩
  rw [List.mem_singleton.mp chosen] at reads
  exact reads _ rfl

theorem adminStatusText {b : Board} {out : Outcome} (good : Good (formSpecs (taskAdmin b) (Entity.task b).model) out)
    {o : Obj} (task : o.entity = .task b) (text : ∃ s, o.get "status" = .text s) :
    ∃ s, (applyForm o out).get "status" = .text s := by
  rcases applyFormGet o out (show "status" ≠ "id" by decide) with same | ⟨p, mem, named, stored⟩
  · rwa [same]
  · obtain ⟨s, given⟩ := (adminTaskField good mem).2.2 named
    have notNull : (o.model.field? "status").any (·.null) = false := by
      unfold Obj.model
      rw [task]
      cases b <;> rfl
    exact ⟨s, by rw [stored, storedKept notNull, given]⟩

theorem adminCompletionKept {b : Board} {out : Outcome} (good : Good (formSpecs (taskAdmin b) (Entity.task b).model) out)
    (o : Obj) : (applyForm o out).get "completed_at" = o.get "completed_at" := by
  rcases applyFormGet o out (show "completed_at" ≠ "id" by decide) with same | ⟨p, mem, named, -⟩
  · exact same
  · exact absurd named (adminTaskField good mem).2.1

theorem adminFormKey {b : Board} {out : Outcome} (good : Good (formSpecs (taskAdmin b) (Entity.task b).model) out)
    (o : Obj) : (applyForm o out).pk = o.pk ∧ (applyForm o out).entity = o.entity :=
  applyFormKey o out fun _ mem => (adminTaskField good mem).1

theorem adminCarries {b : Board} {w : World} {out : Outcome}
    (good : Good (formSpecs (taskAdmin b) (Entity.task b).model) out) (tracked : Tracked b w.db) {o : Obj}
    (base : (∃ now, o = Obj.fresh (.task b) now) ∨ ∃ t ∈ w.db.rows (.task b), o = Obj.ofRow (.task b) t) :
    Carries b w (applyForm o out) := by
  obtain ⟨key, entity⟩ := adminFormKey good o
  have completed := adminCompletionKept good o
  rcases base with ⟨now, rfl⟩ | ⟨t, mem, rfl⟩
  · obtain ⟨pending, empty, fresh⟩ := freshTask b now
    refine ⟨adminStatusText good (by cases b <;> rfl) ⟨_, pending⟩, .inl ⟨?_, by rw [completed, empty]⟩⟩
    simp [AuditTrail.storedIn, key, fresh]
  · refine ⟨adminStatusText good rfl ?_, .inr ⟨t, mem, key, by rw [completed]; exact Listing.ofRowGet _ _ _⟩⟩
    rw [Listing.ofRowGet]
    exact tracked.statuses t mem

theorem adminSavedMoves {b : Board} {w₀ w₁ w₂ w : World} {out : Outcome} {base o' : Obj}
    (good : Good (formSpecs (taskAdmin b) (Entity.task b).model) out) (tracked : Tracked b w₀.db)
    (baseOf : (∃ now, base = Obj.fresh (.task b) now) ∨ ∃ t ∈ w₀.db.rows (.task b), base = Obj.ofRow (.task b) t)
    (saved : App.save (applyForm base out) none w₁ = .ok o' w₂) (db : w₁.db = w₀.db) (clock : w₁.clock = w₀.clock)
    (after : w.db = w₂.db ∧ w.clock = w₂.clock) : Moved b w₀ w := by
  have entity : base.entity = .task b := by
    rcases baseOf with ⟨now, rfl⟩ | ⟨t, -, rfl⟩ <;> rfl
  have carries : Carries b w₁ (applyForm base out) :=
    adminCarries good (by rw [db]; exact tracked) (by rw [db]; exact baseOf)
  have moved := carriedSaveMoves ((adminFormKey good base).2.trans entity) carries tracked saved db clock
  exact movedOfTable moved (by rw [after.1]) after.2

theorem adminSaveMoves (b : Board) (u : Obj) (r : Web.Request) (stored : Option Obj) (s₀ : World)
    (tracked : Tracked b s₀.db) (found : ∀ o ∈ stored, ∃ t ∈ s₀.db.rows (.task b), o = Obj.ofRow (.task b) t) :
    ⦃fun s => ⌜s = s₀⌝⦄ saveForm (taskAdmin b) u r stored
    ⦃post⟨fun _ s => ⌜Moved b s₀ s⌝, fun _ s => ⌜Moved b s₀ s⌝⟩⦄ := by
  have source : (taskAdmin b).source = some (.task b) := rfl
  have plain : (taskAdmin b).plainForm = true := rfl
  have owner : (taskAdmin b).ownerOnAdd = none := rfl
  unfold saveForm
  simp only [source, plain, owner, Bool.not_true]
  mvcgen [App.readForm, App.now, readChangeFormGood, WrittenRows.saveRunsSpec, afterSaveQuiet, -Steps.saveSpec]
  all_goals simp_all +zetaDelta
  -- a valid form is saved over the stored task or a new one, and only messages follow
  case vc3 =>
    rename_i form saved after
    exact adminSavedMoves form.2 tracked (.inr found) saved rfl rfl after
  case vc4 =>
    rename_i form saved
    exact fun db clock => adminSavedMoves form.2 tracked (.inr found) saved rfl rfl ⟨db, clock⟩
  case vc6 =>
    rename_i form saved after
    exact adminSavedMoves form.2 tracked (.inl ⟨_, rfl⟩) saved rfl rfl after
  case vc7 =>
    rename_i form saved
    exact fun db clock => adminSavedMoves form.2 tracked (.inl ⟨_, rfl⟩) saved rfl rfl ⟨db, clock⟩
  all_goals first
    | exact movedQuiet tracked rfl rfl
    | exact fun _ => movedQuiet tracked rfl rfl

theorem lookupStored (b : Board) (key : String) (s₀ : World) :
    ⦃fun s => ⌜s = s₀⌝⦄ lookupObject (taskAdmin b) key
    ⦃post⟨fun obj s => ⌜s = s₀ ∧ ∀ o ∈ obj, ∃ t ∈ s₀.db.rows (.task b), o = Obj.ofRow (.task b) t⌝,
      fun _ _ => ⌜False⌝⟩⦄ := by
  have source : (taskAdmin b).source = some (.task b) := rfl
  unfold lookupObject
  simp only [source]
  mvcgen -trivial [App.find?, App.db]
  all_goals simp_all
  intro t found
  exact ⟨t, (findSome found).1, rfl⟩

theorem adminFormMoves (b : Board) (u : Obj) (r : Web.Request) (id : Option String) (s₀ : World)
    (tracked : Tracked b s₀.db) :
    ⦃fun s => ⌜s = s₀⌝⦄ formPage (taskAdmin b) u r id ⦃post⟨fun _ s => ⌜Moved b s₀ s⌝, fun _ s => ⌜Moved b s₀ s⌝⟩⦄ := by
  mvcgen -trivial [formPage, denied, missing, App.raise, App.message, App.render, lookupStored, adminSaveMoves]
  all_goals simp_all +zetaDelta
  all_goals first
    | exact movedQuiet tracked rfl rfl
    | exact movedOfTable ‹Moved b s₀ _› rfl rfl

end AdminForm

/-! ### Runs -/

/-- One step of a run of the task boards: a request to create a task, a request to edit one, a
request to the administration's add or change form of the board's tasks, by any user, or the
clock moving to any time, forward or back. -/
inductive TaskStep (b : Board) : World → World → Prop
  | create (r : Web.Request) (w : World) : TaskStep b w (RequestLog.after (taskCreate b r w))
  | edit (r : Web.Request) (pk : Nat) (w : World) : TaskStep b w (RequestLog.after (taskEdit b r pk w))
  | admin (u : Obj) (r : Web.Request) (id : Option String) (w : World) :
      TaskStep b w (RequestLog.after (Admin.formPage (Admin.taskAdmin b) u r id w))
  | tick (w : World) (t : Instant) : TaskStep b w { w with clock := t }

theorem stepFollows {b : Board} {w w' : World} (step : TaskStep b w w') (tracked : Tracked b w.db) :
    Tracked b w'.db ∧ Follows b w.db w.clock w'.db := by
  cases step with
  | create r =>
    obtain ⟨after, follows, -⟩ := CommentForest.afterOfTriple (taskCreateMoves b r w tracked)
    exact ⟨after, follows⟩
  | edit r pk =>
    obtain ⟨after, follows, -⟩ := CommentForest.afterOfTriple (taskEditMoves b r pk w tracked)
    exact ⟨after, follows⟩
  | admin u r id =>
    obtain ⟨after, follows, -⟩ := CommentForest.afterOfTriple (adminFormMoves b u r id w tracked)
    exact ⟨after, follows⟩
  | tick t => exact ⟨tracked, followsSame tracked _⟩

theorem stepSome {c : Option Instant} {done : Bool} {now t : Instant} (h : completionStep c done now = some t) :
    done = true ∧ (c = some t ∨ (c = none ∧ t = now)) := by
  cases done with
  | false => cases h
  | true =>
    cases c with
    | none =>
      cases h
      exact ⟨rfl, .inr ⟨rfl, rfl⟩⟩
    | some t' =>
      cases h
      exact ⟨rfl, .inl rfl⟩

def StaysDone (b : Board) (k : Nat) : World → World → Prop :=
  Relation.ReflTransGen fun x y => TaskStep b x y ∧ doneOf b y.db k = true

def EnteredAt (b : Board) (w₀ w : World) (k : Nat) (t : Instant) : Prop :=
  (StaysDone b k w₀ w ∧ completionOf b w₀.db k = some t) ∨
    ∃ w₁ w₂, Relation.ReflTransGen (TaskStep b) w₀ w₁ ∧ TaskStep b w₁ w₂ ∧ doneOf b w₁.db k = false ∧
      w₁.clock = t ∧ doneOf b w₂.db k = true ∧ StaysDone b k w₂ w

theorem enteredStep {b : Board} {w₀ w w' : World} {k : Nat} {t : Instant} (entered : EnteredAt b w₀ w k t)
    (step : TaskStep b w w') (done : doneOf b w'.db k = true) : EnteredAt b w₀ w' k t := by
  rcases entered with ⟨stays, start⟩ | ⟨w₁, w₂, reach, enter, before, clock, after, stays⟩
  · exact .inl ⟨stays.tail ⟨step, done⟩, start⟩
  · exact .inr ⟨w₁, w₂, reach, enter, before, clock, after, stays.tail ⟨step, done⟩⟩

theorem runsEnter {b : Board} {w₀ w : World} (tracked : Tracked b w₀.db)
    (run : Relation.ReflTransGen (TaskStep b) w₀ w) :
    Tracked b w.db ∧ ∀ k t, completionOf b w.db k = some t → EnteredAt b w₀ w k t := by
  induction run with
  | refl => exact ⟨tracked, fun k t start => .inl ⟨.refl, start⟩⟩
  | @tail w w' reach step ih =>
    obtain ⟨before, entered⟩ := ih
    obtain ⟨after, follows⟩ := stepFollows step before
    refine ⟨after, fun k t now => ?_⟩
    rw [follows k] at now
    obtain ⟨done, kept | ⟨unset, rfl⟩⟩ := stepSome now
    · exact enteredStep (entered k t kept) step done
    · -- the task was not completed before this step, which completed it at its clock
      have notDone : doneOf b w.db k = false := by
        rw [← trackedKey before k, unset]
        rfl
      exact .inr ⟨_, _, reach, step, notDone, rfl, done, .refl⟩

/-- What holds at the end `w` of a run of the task boards from `w₀`: the table is tracked, every
completion time was set by the request that last completed its task, and a request after which a
completed task is still completed leaves its time. -/
structure CompletionRun (b : Board) (w₀ w : World) : Prop where
  tracked : Tracked b w.db
  entered : ∀ k t, completionOf b w.db k = some t → EnteredAt b w₀ w k t
  kept : ∀ w', TaskStep b w w' → ∀ k, doneOf b w.db k = true → doneOf b w'.db k = true →
    completionOf b w'.db k = completionOf b w.db k

theorem completionTracked {b : Board} {w₀ w : World} (tracked : Tracked b w₀.db)
    (run : Relation.ReflTransGen (TaskStep b) w₀ w) : CompletionRun b w₀ w := by
  obtain ⟨now, entered⟩ := runsEnter tracked run
  refine ⟨now, entered, fun w' step k before after => ?_⟩
  rw [(stepFollows step now).2 k, after]
  exact stepKeeps ((trackedKey now k).trans before) w.clock

theorem trackedEmpty {b : Board} {db : Db} (empty : db.rows (.task b) = []) : Tracked b db := by
  refine ⟨?_, ?_, ?_, ?_⟩ <;> simp [empty]

def rootRow : Row :=
  ⟨1, [("username", .text "root"), ("is_active", .bool true), ("is_staff", .bool true), ("is_superuser", .bool true)]⟩

def boardDb : Db :=
  { tables := [(.user, { rows := [rootRow], seq := 1 }), (.task .todo, {}), (.userTask .todo, {})], links := [] }

def boardStart : World := { clock := 60, db := boardDb }

def completedPost : Web.Request :=
  { method := "POST", path := "/todo/create/", form := [("title", "t"), ("priority", "low"), ("status", "completed")],
    user := some (Obj.ofRow .user rootRow) }

def renamePost : Web.Request :=
  { method := "POST", path := "/todo/1/edit/", form := [("title", "u"), ("priority", "high"), ("status", "completed")],
    user := some (Obj.ofRow .user rootRow) }

def completedRun : World := RequestLog.after (taskCreate .todo completedPost boardStart)

def renamedRun : World := RequestLog.after (taskEdit .todo renamePost 1 { completedRun with clock := 120 })

theorem completionTrackedFromStart : Tracked .todo boardStart.db ∧
    Relation.ReflTransGen (TaskStep .todo) boardStart renamedRun ∧ CompletionRun .todo boardStart renamedRun ∧
    completionOf .todo completedRun.db 1 = some 60 ∧ completionOf .todo renamedRun.db 1 = some 60 := by
  have tracked : Tracked .todo boardStart.db := trackedEmpty rfl
  have run : Relation.ReflTransGen (TaskStep .todo) boardStart renamedRun :=
    .tail (.tail (.single (.create _ _)) (.tick _ 120)) (.edit _ _ _)
  exact ⟨tracked, run, completionTracked tracked run, by decide +kernel⟩

end Portal.CompletionTimes
