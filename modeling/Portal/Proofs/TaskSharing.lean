import Mathlib
import Portal.Proofs.ShareRequests
import Portal.Proofs.CompletionTimes
/-! Sharing along runs of a task board's pages. A request to any page but a share that answers
keeps the sharing tables agreeing and adds no share (`Keeps`); a share that answers leaves them as
its grant asks. So along every run of requests to a board's pages, by any users and in any order,
the tables keep agreeing, every share holds the last grant the run gave its task and user, and a
share request that some check stops changes no row. Main statement: `boardRunsKeepSharing`. -/
namespace Portal.TaskSharing
open Tasks Listing LogStore StoreUpdate AuditTrail WrittenRows TaskAccess TaskCascade ShareRequests

/-- A request that shares nothing leaves the sharing tables consistent and adds no share. -/
structure Keeps (b : Board) (db db' : Db) : Prop where
  consistent : Consistent b db'
  shares : db'.rows (.taskShare b) ⊆ db.rows (.taskShare b)

theorem Keeps.refl {b : Board} {db : Db} (consistent : Consistent b db) : Keeps b db db :=
  ⟨consistent, fun _ => id⟩

theorem Keeps.ofDb {b : Board} {db db' db'' : Db} (keeps : Keeps b db db') (same : db'' = db') : Keeps b db db'' :=
  same ▸ keeps

theorem keepsOther {b : Board} {db : Db} {w w' : World} {o o' : Obj} {only : Option (List String)}
    (saved : App.save o only w = .ok o' w') (keeps : Keeps b db w.db)
    (kind : o.entity ≠ .userTask b ∧ o.entity ≠ .taskShare b ∧ o.entity ≠ .systemLog) : Keeps b db w'.db := by
  obtain ⟨link, share, log⟩ := kind
  obtain ⟨row, -, wrote⟩ := saveWrites log saved
  have sameShares := wrote.others _ (Ne.symm share) (by simp)
  refine ⟨consistentOfTables keeps.consistent (wrote.others _ (Ne.symm link) (by simp)) sameShares
    (wrote.tables _ keeps.consistent.table), ?_⟩
  rw [rowsOfTable sameShares]
  exact keeps.shares

theorem refCellOpt (k : Option Nat) : RefCell (Value.ofOptNat k) := by
  cases k with
  | none => exact .inl rfl
  | some k => exact .inr ⟨k, rfl⟩

theorem linkColumns (b : Board) :
    Catalog.userRef "user" ∈ (Entity.userTask b).model.fields ∧ taskRef b ∈ (Entity.userTask b).model.fields := by
  simp [taskRef, Entity.model, Catalog.userTask]

theorem prepRefCell {f : Field} {t : Entity} {d : OnDelete} (kind : f.kind = .ref t d) {v : Value}
    (cell : RefCell v) : f.prep v = .ok v := by
  rcases cell with rfl | ⟨k, rfl⟩
  · rfl
  · unfold Field.prep
    rw [kind]

theorem keepsLink {b : Board} {db : Db} {w w' : World} {o o' : Obj}
    (saved : App.save o none w = .ok o' w') (keeps : Keeps b db w.db) (entity : o.entity = .userTask b)
    (fresh : o.pk = none) (user : RefCell (o.get "user")) (task : RefCell (o.get "task")) :
    Keeps b db w'.db := by
  obtain ⟨row, -, wrote⟩ := saveWrites (by rw [entity]; exact nofun) saved
  obtain ⟨userIn, taskIn⟩ := linkColumns b
  rw [← entity] at userIn taskIn
  have storedUser := storedPlain wrote userIn (by decide) rfl (by decide) rfl rfl
  have storedTask := storedPlain wrote taskIn (by simp [taskRef]) rfl (by simp [taskRef]) rfl rfl
  rw [prepareSharing (.inl entity), show (Catalog.userRef "user").name = "user" from rfl, prepRefCell rfl user] at storedUser
  rw [prepareSharing (.inl entity), show (taskRef b).name = "task" from rfl, prepRefCell rfl task] at storedTask
  have cells : RefCell (row.get "user") ∧ RefCell (row.get "task") := by
    rw [← Except.ok.inj storedUser, ← Except.ok.inj storedTask]
    exact ⟨user, task⟩
  obtain ⟨links, kept⟩ := linksWritten keeps.consistent.toLinks wrote entity (by simp [storedIn, fresh]) cells
  have sameShares := wrote.others (.taskShare b) (by rw [entity]; simp) (by simp)
  refine ⟨⟨links, sharesOfTable keeps.consistent.toShares sameShares, fun s mem => ?_⟩, ?_⟩
  · rw [rowsOfTable sameShares] at mem
    obtain ⟨a, assigned, same⟩ := keeps.consistent.linked s mem
    exact ⟨a, kept assigned, same⟩
  · rw [rowsOfTable sameShares]
    exact keeps.shares

theorem keepsNarrowed {b : Board} {db : Db} {w w' : World} {k : Nat} (keeps : Keeps b db w.db)
    (links : Narrows (.userTask b) (fun a => a.getNat? "task" != some k) w w')
    (shares : Narrows (.taskShare b) (fun s => s.getNat? "task" != some k) w w') : Keeps b db w'.db := by
  have linkRows : w'.db.rows (.userTask b) = (w.db.rows (.userTask b)).filter
      (fun a => a.getNat? "task" != some k) := by
    unfold Db.rows
    rw [links.table]
    rfl
  have shareRows : w'.db.rows (.taskShare b) = (w.db.rows (.taskShare b)).filter
      (fun s => s.getNat? "task" != some k) := by
    unfold Db.rows
    rw [shares.table]
    rfl
  obtain ⟨⟨table, linkKeys, counted, linkCells⟩, ⟨shareKeys, shareCells, single, apart⟩, linked⟩ := keeps.consistent
  have linkSeq : (w'.db.table (.userTask b)).seq = (w.db.table (.userTask b)).seq := by rw [links.table]
  refine ⟨⟨⟨links.tables _ table, ?_, ?_, ?_⟩, ⟨?_, ?_, ?_, ?_⟩, ?_⟩, ?_⟩
  all_goals simp only [Keyed, linkRows, shareRows, linkSeq, List.mem_filter]
  · exact linkKeys.sublist (List.filter_sublist.map _)
  · exact fun a mem => counted a mem.1
  · exact fun a mem => linkCells a mem.1
  · exact shareKeys.sublist (List.filter_sublist.map _)
  · exact fun s mem => shareCells s mem.1
  · exact fun s mem s' mem' => single s mem.1 s' mem'.1
  · exact fun s mem => apart s mem.1
  · -- the assignment of a share that stays refers to the same task, so it stays too
    intro s mem
    obtain ⟨a, assigned, sameTask, sameUser⟩ := linked s mem.1
    refine ⟨a, ⟨assigned, ?_⟩, sameTask, sameUser⟩
    rw [Row.getNat?, sameTask]
    exact mem.2
  · exact fun s mem => keeps.shares (List.mem_filter.mp mem).1

section Views
open Std.Do

set_option mvcgen.warning false

@[irreducible] def Saved (o : Obj) (only : Option (List String)) (w : World) (o' : Obj) (w' : World) : Prop :=
  App.save o only w = .ok o' w'

theorem Saved.run {o o' : Obj} {only : Option (List String)} {w w' : World} (saved : Saved o only w o' w') :
    App.save o only w = .ok o' w' := by
  unfold Saved at saved
  exact saved

theorem savedSpec (o : Obj) (only : Option (List String)) (w₀ : World) :
    ⦃fun s => ⌜s = w₀⌝⦄ App.save o only ⦃post⟨fun o' s => ⌜Saved o only w₀ o' s⌝, fun _ s => ⌜s = w₀⌝⟩⦄ := by
  unfold Saved
  exact WrittenRows.saveRunsSpec o only w₀

theorem createdTask (b : Board) (now : Instant) (o : Forms.Outcome) :
    (applyTask (Obj.fresh (.task b) now) o).entity = .task b := by
  rw [(CompletionTimes.applyTaskGet _ o).2.2.2]
  rfl

theorem taskCreateKeeps (b : Board) (r : Web.Request) (s₀ : World) (consistent : Consistent b s₀.db) :
    ⦃fun s => ⌜s = s₀⌝⦄ taskCreate b r ⦃post⟨fun _ s => ⌜Keeps b s₀.db s.db⌝, fun _ s => ⌜Keeps b s₀.db s.db⌝⟩⦄ := by
  have kept := Keeps.refl consistent
  mvcgen [taskCreate, App.readForm, App.message, App.render, App.now, savedSpec, -Steps.saveSpec]
  all_goals simp_all +zetaDelta
  case vc2 =>
    rename_i savedTask savedLink
    refine keepsLink savedLink.run (keepsOther savedTask.run kept ?_) rfl rfl ?_ ?_ <;>
      simp [createdTask, objGetSet, objGetSetOther, refCellOpt]
  case vc3 =>
    rename_i savedTask
    exact fun _ => keepsOther savedTask.run kept (by simp [createdTask])

theorem taskEditKeeps (b : Board) (r : Web.Request) (pk : Nat) (s₀ : World) (consistent : Consistent b s₀.db) :
    ⦃fun s => ⌜s = s₀⌝⦄ taskEdit b r pk ⦃post⟨fun _ s => ⌜Keeps b s₀.db s.db⌝, fun _ s => ⌜Keeps b s₀.db s.db⌝⟩⦄ := by
  have kept := Keeps.refl consistent
  mvcgen [taskEdit, App.readForm, App.message, App.render, savedSpec, -Steps.saveSpec]
  all_goals simp_all +zetaDelta
  case vc3 =>
    obtain ⟨-, -, t, -, rfl⟩ := ‹_ ∧ _ ∧ ∃ t ∈ s₀.db.rows (.task b), _›
    rename_i saved
    have entity : ∀ o, (applyTask (Obj.ofRow (.task b) t) o).entity = .task b := fun o =>
      (CompletionTimes.applyTaskGet _ o).2.2.2
    exact keepsOther saved.run kept (by simp [entity])

theorem addCommentKeeps (b : Board) (r : Web.Request) (pk : Nat) (s₀ : World) (consistent : Consistent b s₀.db) :
    ⦃fun s => ⌜s = s₀⌝⦄ addComment b r pk ⦃post⟨fun _ s => ⌜Keeps b s₀.db s.db⌝, fun _ s => ⌜Keeps b s₀.db s.db⌝⟩⦄ := by
  have kept := Keeps.refl consistent
  mvcgen [addComment, App.readForm, App.message, App.now, savedSpec, -Steps.saveSpec]
  all_goals simp_all +zetaDelta
  case vc4 =>
    rename_i saved
    exact keepsOther saved.run kept (by simp [Obj.fresh])

theorem taskListsKeeps (b : Board) (r : Web.Request) (s₀ : World) (consistent : Consistent b s₀.db) :
    ⦃fun s => ⌜s = s₀⌝⦄ taskLists b r ⦃post⟨fun _ s => ⌜Keeps b s₀.db s.db⌝, fun _ s => ⌜Keeps b s₀.db s.db⌝⟩⦄ := by
  have kept := Keeps.refl consistent
  mvcgen [taskLists, App.readForm, App.message, App.render, App.now, savedSpec, -Steps.saveSpec]
  all_goals simp_all +zetaDelta
  case vc2 =>
    rename_i saved
    exact keepsOther saved.run kept (by simp [Obj.fresh])

theorem taskListKeeps (b : Board) (r : Web.Request) (s₀ : World) (consistent : Consistent b s₀.db) :
    ⦃fun s => ⌜s = s₀⌝⦄ taskList b r ⦃post⟨fun _ s => ⌜Keeps b s₀.db s.db⌝, fun _ s => ⌜Keeps b s₀.db s.db⌝⟩⦄ := by
  have kept := Keeps.refl consistent
  mvcgen [taskList, App.render, Web.pageJson]
  all_goals simp_all +zetaDelta

theorem taskDetailKeeps (b : Board) (r : Web.Request) (pk : Nat) (s₀ : World) (consistent : Consistent b s₀.db) :
    ⦃fun s => ⌜s = s₀⌝⦄ taskDetail b r pk ⦃post⟨fun _ s => ⌜Keeps b s₀.db s.db⌝, fun _ s => ⌜Keeps b s₀.db s.db⌝⟩⦄ := by
  have kept := Keeps.refl consistent
  mvcgen [taskDetail, App.render]
  all_goals simp_all +zetaDelta

theorem sharedTasksKeeps (b : Board) (r : Web.Request) (s₀ : World) (consistent : Consistent b s₀.db) :
    ⦃fun s => ⌜s = s₀⌝⦄ sharedTasks b r ⦃post⟨fun _ s => ⌜Keeps b s₀.db s.db⌝, fun _ s => ⌜Keeps b s₀.db s.db⌝⟩⦄ := by
  have kept := Keeps.refl consistent
  mvcgen [sharedTasks, App.render, Web.pageJson, App.all, App.db]
  all_goals simp_all +zetaDelta

theorem listDetailKeeps (b : Board) (r : Web.Request) (pk : Nat) (s₀ : World) (consistent : Consistent b s₀.db) :
    ⦃fun s => ⌜s = s₀⌝⦄ listDetail b r pk ⦃post⟨fun _ s => ⌜Keeps b s₀.db s.db⌝, fun _ s => ⌜Keeps b s₀.db s.db⌝⟩⦄ := by
  have kept := Keeps.refl consistent
  mvcgen [listDetail, App.render, App.db]
  all_goals simp_all +zetaDelta

theorem outcomeSpec {α : Type} (act : App α) (w₀ : World) :
    ⦃fun s => ⌜s = w₀⌝⦄ act ⦃post⟨fun a s => ⌜act w₀ = .ok a s⌝, fun f s => ⌜act w₀ = .error f s⌝⟩⦄ := by
  intro s h
  simp only [wp, PredTrans.apply, EStateM.run] at h ⊢
  subst h
  split <;> simp_all

theorem deleteTaskKeeps {b : Board} (t : Row) {w : World} (consistent : Consistent b w.db) :
    ∃ a w', App.delete (Obj.ofRow (.task b) t) w = .ok a w' ∧ Keeps b w.db w'.db := by
  obtain ⟨a, w', run, links, shares⟩ := taskDeleteNarrows b t w consistent.linkKeys consistent.shareKeys
  exact ⟨a, w', run, keepsNarrowed (Keeps.refl consistent) links shares⟩

theorem taskDeleteKeeps (b : Board) (r : Web.Request) (pk : Nat) (s₀ : World) (consistent : Consistent b s₀.db) :
    ⦃fun s => ⌜s = s₀⌝⦄ taskDelete b r pk ⦃post⟨fun _ s => ⌜Keeps b s₀.db s.db⌝, fun _ s => ⌜Keeps b s₀.db s.db⌝⟩⦄ := by
  have kept := Keeps.refl consistent
  have deleted := fun o w => outcomeSpec (App.delete o) w
  mvcgen [taskDelete, App.render, App.message, deleted, -Steps.deleteSpec]
  all_goals simp_all +zetaDelta
  -- the deletion, which always answers
  case vc2 =>
    obtain ⟨-, -, t, -, rfl⟩ := ‹_ ∧ _ ∧ ∃ t ∈ s₀.db.rows (.task b), _›
    obtain ⟨a, w', run, keeps⟩ := deleteTaskKeeps t consistent
    rename_i ran
    obtain ⟨-, rfl⟩ := EStateM.Result.ok.inj (run.symm.trans ran)
    exact keeps
  case vc3 =>
    obtain ⟨-, -, t, -, rfl⟩ := ‹_ ∧ _ ∧ ∃ t ∈ s₀.db.rows (.task b), _›
    obtain ⟨a, w', run, -⟩ := deleteTaskKeeps t consistent
    intro failed
    rw [run] at failed
    cases failed

end Views

theorem pageKeeps (b : Board) (r : Web.Request) {p : Web.TaskPage} (unshared : ∀ pk, p ≠ .share pk) (w : World)
    (consistent : Consistent b w.db) : Keeps b w.db (RequestLog.after (page b r p w)).db := by
  unfold page Web.guarded
  rcases List.findSome? id [Web.requireLogin r] with _ | resp
  · cases p with
    | index => exact CommentForest.afterOfTriple (taskListKeeps b r w consistent)
    | detail pk => exact CommentForest.afterOfTriple (taskDetailKeeps b r pk w consistent)
    | create => exact CommentForest.afterOfTriple (taskCreateKeeps b r w consistent)
    | edit pk => exact CommentForest.afterOfTriple (taskEditKeeps b r pk w consistent)
    | remove pk => exact CommentForest.afterOfTriple (taskDeleteKeeps b r pk w consistent)
    | share pk => exact absurd rfl (unshared pk)
    | comment pk => exact CommentForest.afterOfTriple (addCommentKeeps b r pk w consistent)
    | shared => exact CommentForest.afterOfTriple (sharedTasksKeeps b r w consistent)
    | lists => exact CommentForest.afterOfTriple (taskListsKeeps b r w consistent)
    | listDetail pk => exact CommentForest.afterOfTriple (listDetailKeeps b r pk w consistent)
  · exact Keeps.refl consistent

/-- One request to a page of board `b`, with the grants it made: a share request that every check
lets through and that answers makes its grant, and every other request makes none. -/
inductive BoardStep (b : Board) : World → List Grant → World → Prop
  | shared {w w' : World} {r : Web.Request} {pk : Nat} {g : Grant} {resp : Web.Response}
      (accepts : Accepts b r pk w g) (answered : page b r (.share pk) w = .ok resp w') : BoardStep b w [g] w'
  | other {w : World} (r : Web.Request) (p : Web.TaskPage)
      (unshared : ∀ pk g resp w', p = .share pk → Accepts b r pk w g → page b r p w ≠ .ok resp w') :
      BoardStep b w [] (RequestLog.after (page b r p w))

theorem stepOf (b : Board) (r : Web.Request) (p : Web.TaskPage) (w : World) :
    ∃ gs, BoardStep b w gs (RequestLog.after (page b r p w)) := by
  by_cases made : ∃ pk g resp w', p = .share pk ∧ Accepts b r pk w g ∧ page b r p w = .ok resp w'
  · obtain ⟨pk, g, resp, w', rfl, accepts, answered⟩ := made
    refine ⟨[g], ?_⟩
    rw [answered]
    exact .shared accepts answered
  · exact ⟨[], .other r p fun pk g resp w' isShare accepts answered =>
      made ⟨pk, g, resp, w', isShare, accepts, answered⟩⟩

theorem stepKeeps {b : Board} {w w' : World} {gs : List Grant} (step : BoardStep b w gs w')
    (consistent : Consistent b w.db) :
    (gs = [] ∧ Keeps b w.db w'.db) ∨ ∃ g, gs = [g] ∧ Granted b g w.db w'.db := by
  cases step with
  | shared accepts answered =>
    have ends := acceptedShare consistent accepts
    rw [answered, endsWithOk] at ends
    exact .inr ⟨_, rfl, ends⟩
  | other r p unshared =>
    refine .inl ⟨rfl, ?_⟩
    by_cases isShare : ∃ pk, p = .share pk
    · obtain ⟨pk, rfl⟩ := isShare
      by_cases accepted : ∃ g, Accepts b r pk w g
      · -- a share that every check lets through and that did not answer failed, and left the store
        obtain ⟨g, accepts⟩ := accepted
        have ends := acceptedShare consistent accepts
        rcases ran : page b r (.share pk) w with ⟨resp, w'⟩ | ⟨f, w'⟩
        · exact absurd ran (unshared pk g resp w' rfl accepts)
        · rw [ran, endsWithError] at ends
          exact Keeps.ofDb (Keeps.refl consistent) ends
      · exact Keeps.ofDb (Keeps.refl consistent) (refusedShare accepted)
    · exact pageKeeps b r (fun pk same => isShare ⟨pk, same⟩) w consistent

/-! ### Runs -/

def latest (gs : List Grant) (t u : Nat) : Option Grant := (gs.filter (·.Of t u)).getLast?

theorem latestAppend (gs : List Grant) (g : Grant) (t u : Nat) :
    latest (gs ++ [g]) t u = if g.Of t u then some g else latest gs t u := by
  unfold latest
  by_cases mine : g.Of t u <;> simp [List.filter_append, mine]

def Recorded (b : Board) (db₀ : Db) (gs : List Grant) (s : Row) : Prop :=
  ∃ t u : Nat, s.get "task" = .int t ∧ s.get "shared_with" = .int u ∧
    match latest gs t u with
    | some g => g.Holds s
    | none => s ∈ db₀.rows (.taskShare b)

theorem recordedHolds {b : Board} {db₀ : Db} (gs : List Grant) {g : Grant} {s : Row} (holds : g.Holds s) :
    Recorded b db₀ (gs ++ [g]) s := by
  refine ⟨g.task, g.user, holds.1.1, holds.1.2, ?_⟩
  rw [latestAppend, if_pos (by simp [Grant.Of])]
  exact holds

theorem recordedOther {b : Board} {db₀ : Db} {gs : List Grant} {g : Grant} {s : Row}
    (recorded : Recorded b db₀ gs s) (other : ¬g.Pair s) : Recorded b db₀ (gs ++ [g]) s := by
  obtain ⟨t, u, task, user, holds⟩ := recorded
  have notOf : g.Of t u = false := by
    cases mine : g.Of t u
    · rfl
    · simp only [Grant.Of, Bool.and_eq_true, beq_iff_eq] at mine
      exact absurd ⟨by rw [task, mine.1], by rw [user, mine.2]⟩ other
  refine ⟨t, u, task, user, ?_⟩
  rw [latestAppend, notOf]
  exact holds

/-- What a run of a board's pages from a store `db₀` keeps: the sharing tables agree, and every
share holds the last grant the run gave its task and user, or is one the run started with. -/
structure Ledger (b : Board) (db₀ : Db) (gs : List Grant) (db : Db) : Prop where
  consistent : Consistent b db
  recorded : ∀ s ∈ db.rows (.taskShare b), Recorded b db₀ gs s

theorem Ledger.start {b : Board} {db : Db} (consistent : Consistent b db) : Ledger b db [] db := by
  refine ⟨consistent, fun s mem => ?_⟩
  obtain ⟨⟨t, task⟩, ⟨u, user⟩⟩ := consistent.shareCells s mem
  exact ⟨t, u, task, user, mem⟩

theorem Ledger.step {b : Board} {db₀ db db' : Db} {gs gs' : List Grant} (ledger : Ledger b db₀ gs db)
    (step : (gs' = [] ∧ Keeps b db db') ∨ ∃ g, gs' = [g] ∧ Granted b g db db') : Ledger b db₀ (gs ++ gs') db' := by
  rcases step with ⟨rfl, keeps⟩ | ⟨g, rfl, granted⟩
  · rw [List.append_nil]
    exact ⟨keeps.consistent, fun s mem => ledger.recorded s (keeps.shares mem)⟩
  · refine ⟨granted.consistent, fun s mem => ?_⟩
    rcases granted.shares s mem with holds | ⟨old, other⟩
    · exact recordedHolds gs holds
    · exact recordedOther (ledger.recorded s old) other

/-- A run of board `b`'s pages from `w₀`: requests in order, each answered in the world the one
before left, with the grants made so far, oldest first. -/
inductive BoardRun (b : Board) (w₀ : World) : List Grant → World → Prop
  | start : BoardRun b w₀ [] w₀
  | step {gs gs' : List Grant} {w w' : World} (run : BoardRun b w₀ gs w) (step : BoardStep b w gs' w') :
      BoardRun b w₀ (gs ++ gs') w'

theorem runLedger {b : Board} {w₀ w : World} {gs : List Grant} (start : Consistent b w₀.db)
    (run : BoardRun b w₀ gs w) : Ledger b w₀.db gs w.db := by
  induction run with
  | start => exact Ledger.start start
  | step _ step ledger => exact ledger.step (stepKeeps step ledger.consistent)

/-- What a run of board `b`'s pages from `w₀` that gave grants `gs` leaves in `w`: the sharing
tables agree (a task is shared with a user at most once, never by that user, and only with a user
assigned to it), every share holds the last grant the run gave its task and user or is one the
run started with, and a share request that some check stops changes no row. -/
structure SharingKept (b : Board) (w₀ : World) (gs : List Grant) (w : World) : Prop
    extends Ledger b w₀.db gs w.db where
  refused : ∀ r pk, (¬∃ g, Accepts b r pk w g) → (RequestLog.after (page b r (.share pk) w)).db = w.db

theorem boardRunsKeepSharing {b : Board} {w₀ w : World} {gs : List Grant} (start : Consistent b w₀.db)
    (run : BoardRun b w₀ gs w) : SharingKept b w₀ gs w :=
  ⟨runLedger start run, fun _ _ refused => refusedShare refused⟩

theorem consistentUnshared (b : Board) {db : Db} (table : ∃ t, (.userTask b, t) ∈ db.tables)
    (links : db.rows (.userTask b) = []) (shares : db.rows (.taskShare b) = []) : Consistent b db := by
  refine ⟨⟨table, ?_, ?_, ?_⟩, ⟨?_, ?_, ?_, ?_⟩, ?_⟩ <;> simp [Keyed, links, shares]

def anonymousShare : Web.Request := { method := "POST", path := "/tasks/1/share/" }

def sharingRun : World :=
  RequestLog.after (page .todo anonymousShare (.share 1)
    (RequestLog.after (page .todo CompletionTimes.completedPost .create CompletionTimes.boardStart)))

theorem anonymousShareKept :
    Consistent .todo CompletionTimes.boardStart.db ∧ BoardRun .todo CompletionTimes.boardStart [] sharingRun ∧
      SharingKept .todo CompletionTimes.boardStart [] sharingRun ∧
      (sharingRun.db.rows (.task .todo)).length = 1 := by
  have consistent : Consistent .todo CompletionTimes.boardStart.db :=
    consistentUnshared .todo ⟨{}, by simp [CompletionTimes.boardStart, CompletionTimes.boardDb]⟩ rfl rfl
  have run : BoardRun .todo CompletionTimes.boardStart [] sharingRun :=
    .step (.step .start (.other _ .create fun _ _ _ _ isShare => nomatch isShare))
      (.other anonymousShare (.share 1) fun _ _ _ _ _ accepts => nomatch accepts.signedIn)
  exact ⟨consistent, run, boardRunsKeepSharing consistent run, by decide +kernel⟩

end Portal.TaskSharing
