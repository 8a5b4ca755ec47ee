import Mathlib
import Portal.Command.Database
import Portal.Proofs.LogCleanup
import Portal.Proofs.RequestLog
/-! What the database command's query does to the database. The command runs the statement
through the cursor, which always asks for rows. A statement runs on its own and commits at
once, so when it is not a query it has already changed the database by the time the cursor
finds that it answered no rows; the command then reports the query as failed, with the changes
kept. Only a statement that fails by itself leaves the database as it was.

Main statement: `queryReportKeepsChanges`. -/
namespace Portal.QueryReport
open Database

/-! ### Statements -/

def readsRows : Sql.Stmt → Bool
  | .query _ => true
  | _ => false

theorem bindOk {ε α β : Type} {x : Except ε α} {f : α → Except ε β} {b : β}
    (h : (x >>= f) = .ok b) : ∃ a, x = .ok a ∧ f a = .ok b := by
  cases x with
  | error e => cases h
  | ok a => exact ⟨a, rfl, h⟩

theorem applyOutcome {env : Sql.Env} {db db' : Db} {s : Sql.Stmt} {out : Sql.Outcome}
    (h : Sql.applyStmt env db s = .ok (db', out)) :
    out.result.isSome = readsRows s ∧ (readsRows s = true → db' = db) := by
  cases s with
  | query q =>
    obtain ⟨rel, -, done⟩ := bindOk h
    cases done
    exact ⟨rfl, fun _ => rfl⟩
  | other =>
    cases h
    exact ⟨rfl, by simp [readsRows]⟩
  | _ =>
    obtain ⟨_, -, done⟩ := bindOk h
    cases done
    exact ⟨rfl, by simp [readsRows]⟩

theorem executeOutcome {db db' : Db} {clock : Moment} {text : String} {ps : List (Sql.Run Sql.Datum)}
    {out : Sql.Outcome} (h : Sql.execute db clock text ps = .ok (db', out)) :
    ∃ p, Sql.parse text = .ok p ∧ out.result.isSome = readsRows p.stmt ∧
      (readsRows p.stmt = true → db' = db) := by
  unfold Sql.execute at h
  cases hp : Sql.parse text with
  | error msg =>
    simp only [hp] at h
    cases h
  | ok p =>
    simp only [hp, pure_bind] at h
    obtain ⟨_, -, h⟩ := bindOk h
    -- the text holds one statement and every parameter is given, or nothing runs
    split at h
    · cases h
    split at h
    · cases h
    obtain ⟨values, -, ran⟩ := bindOk h
    exact ⟨p, rfl, applyOutcome ran⟩

/-! ### The cursor -/

def statementOf (vs : Command.Values) : String := qmarkText (vs.find "query").toText

theorem runFailed {db : Db} {clock : Moment} {query : String} {e : Sql.Error}
    (h : Sql.execute db clock (qmarkText query) [] = .error e) :
    run db clock query .null true = (db, .error (faultOf e)) := by
  simp [run, paramList, Json.truthy, pure, Except.pure, h]

theorem runRows {db db' : Db} {clock : Moment} {query : String} {out : Sql.Outcome} {rel : Sql.Rel}
    (h : Sql.execute db clock (qmarkText query) [] = .ok (db', out)) (rows : out.result = some rel) :
    run db clock query .null true = (db', .ok (.rows (rel.rows.map (rowCells rel.cols)))) := by
  simp [run, paramList, Json.truthy, pure, Except.pure, h, rows]

theorem runNoRows {db db' : Db} {clock : Moment} {query : String} {out : Sql.Outcome}
    (h : Sql.execute db clock (qmarkText query) [] = .ok (db', out)) (none : out.result = none) :
    run db clock query .null true = (db', .error ⟨"TypeError", "'NoneType' object is not iterable"⟩) := by
  simp [run, paramList, Json.truthy, pure, Except.pure, h, none]

theorem executeRun (query : String) (w : World) {db' : Db} {reply : Except Fault Reply}
    (h : run w.db (Moment.utc w.clock) query .null true = (db', reply)) :
    Database.execute query .null true w = App.ofExcept reply { w with db := db' } := by
  simp only [Database.execute, bind, EStateM.bind, get, getThe, MonadStateOf.get, EStateM.get, h]
  rfl

theorem attemptExecute (query : String) (w : World) {db' : Db} {reply : Except Fault Reply}
    (h : run w.db (Moment.utc w.clock) query .null true = (db', reply)) :
    App.attempt (Database.execute query .null true) w = .ok reply { w with db := db' } := by
  rw [RequestLog.attemptRun, executeRun query w h]
  cases reply <;> rfl

/-! ### Output -/

def Adds (head : String) (w w' : World) : Prop :=
  w'.db = w.db ∧ ∃ rest, w'.terminal.out = w.terminal.out ++ head ++ rest

theorem Adds.trans {head : String} {w₁ w₂ w₃ : World} (a : Adds head w₁ w₂) (b : Adds "" w₂ w₃) :
    Adds head w₁ w₃ := by
  obtain ⟨db₁, r₁, out₁⟩ := a
  obtain ⟨db₂, r₂, out₂⟩ := b
  exact ⟨db₂.trans db₁, r₁ ++ r₂, by simp [out₂, out₁, String.append_assoc]⟩

def Appends {α : Type} (head : String) (m : App α) : Prop :=
  ∀ w, ∃ a w', m w = .ok a w' ∧ Adds head w w'

theorem Appends.prefix {α : Type} {a b : String} {m : App α} (h : Appends (a ++ b) m) : Appends a m := by
  intro w
  obtain ⟨x, w', ran, db, rest, out⟩ := h w
  exact ⟨x, w', ran, db, b ++ rest, by simp only [out, String.append_assoc]⟩

theorem Appends.quiet {α : Type} {head : String} {m : App α} (h : Appends head m) : Appends "" m :=
  Appends.prefix (by simpa using h)

theorem sayAppends (s : String) : Appends s (App.say s) := by
  intro w
  refine ⟨(), _, LogCleanup.sayRun s w, rfl, if s.endsWith "\n" then "" else "\n", ?_⟩
  by_cases ends : s.endsWith "\n" = true <;> simp [ends, String.append_assoc]

theorem pureAppends {α : Type} (a : α) : Appends "" (pure a : App α) :=
  fun w => ⟨a, w, rfl, rfl, "", by simp⟩

theorem bindAppends {α β : Type} {head : String} {x : App α} {f : α → App β} (first : Appends head x)
    (rest : ∀ a, Appends "" (f a)) : Appends head (x >>= f) := by
  intro w
  obtain ⟨a, w₁, ran, grew⟩ := first w
  obtain ⟨b, w₂, ran', grew'⟩ := rest a w₁
  exact ⟨b, w₂, by rw [Listing.bindRun ran, ran'], grew.trans grew'⟩

theorem forInAppends {α β : Type} (xs : List α) (init : β) {body : α → β → App (ForInStep β)}
    (each : ∀ x b, Appends "" (body x b)) : Appends "" (forIn xs init body) := by
  induction xs generalizing init with
  | nil => exact pureAppends init
  | cons x xs ih =>
    rw [List.forIn_cons]
    refine bindAppends (each x init) fun step => ?_
    cases step with
    | done b => exact pureAppends b
    | yield b => exact ih b

theorem showRowsAppends (rows : List (List (String × Cell))) :
    Appends "  Rows returned: " (Command.showRows rows) := by
  unfold Command.showRows
  refine Appends.prefix (bindAppends (sayAppends _) fun _ => ?_)
  cases rows with
  | nil => exact pureAppends ()
  | cons first more =>
    simp only [List.head?_cons]
    refine bindAppends (sayAppends _).quiet fun _ => bindAppends (sayAppends _).quiet fun _ => ?_
    refine bindAppends (forInAppends _ _ fun row _ => bindAppends (sayAppends _).quiet fun _ => pureAppends _)
      fun _ => ?_
    split
    · exact (sayAppends _).quiet
    · exact pureAppends ()

/-! ### The query command -/

def Reported (head : String) (w w' : World) : Prop :=
  ∃ rest, w'.terminal.out = w.terminal.out ++ "Executing query...\n" ++ head ++ rest

theorem dbOpsQuery (vs : Command.Values) (w : World) (query : vs.find "operation" = .str "query")
    (sqlite : w.settings.serverDatabase = false) : Command.dbOps vs w = Command.runQuery .sqlite vs w := by
  unfold Command.dbOps
  rw [Listing.bindRun (rfl : (get : App World) w = .ok w w)]
  simp [query, sqlite]

theorem runQueryReported (vs : Command.Values) (w : World) {db' : Db} {reply : Except Fault Reply}
    (h : run w.db (Moment.utc w.clock) (vs.find "query").toText .null true = (db', reply)) :
    ∃ w', Command.runQuery .sqlite vs w = .ok () w' ∧ w'.db = db' ∧
      (∀ f, reply = .error f → Reported ("Query failed: " ++ f.message) w w') ∧
      (∀ rows, reply = .ok (.rows rows) → Reported "  Rows returned: " w w') := by
  unfold Command.runQuery
  simp only [show (Backend.sqlite == Backend.postgres) = false from rfl, Bool.and_false, Bool.false_eq_true,
    if_false]
  have announced : "Executing query...".endsWith "\n" = false := by decide +kernel
  rw [Listing.bindRun (LogCleanup.sayRun _ w), announced, if_neg Bool.false_ne_true,
    Listing.bindRun (attemptExecute _ _ (by exact h))]
  -- the report is one more piece of output after the announcement, on the cursor's database
  let said : World := { w with terminal := { w.terminal with out := w.terminal.out ++ ("Executing query..." ++ "\n") } }
  have report : ∀ (head : String) (m : App Unit), Appends head m →
      ∃ w', m { said with db := db' } = .ok () w' ∧ w'.db = db' ∧ Reported head w w' := by
    intro head m appends
    obtain ⟨⟨⟩, w', ran, sameDb, rest, grown⟩ := appends _
    exact ⟨w', ran, sameDb, rest, by rw [grown]; simp [said, String.append_assoc]⟩
  cases reply with
  | error f =>
    obtain ⟨w', ran, db, reported⟩ := report _ _ (sayAppends ("Query failed: " ++ f.message))
    refine ⟨w', ran, db, ?_, by simp⟩
    rintro _ ⟨⟩
    exact reported
  | ok r =>
    cases r with
    | rows rows =>
      obtain ⟨w', ran, db, reported⟩ := report _ _ (showRowsAppends rows)
      refine ⟨w', ran, db, by simp, ?_⟩
      rintro _ ⟨⟩
      exact reported
    | count n =>
      obtain ⟨w', ran, db, -⟩ := report _ _ (sayAppends ("  Rows affected: " ++ toString n))
      exact ⟨w', ran, db, by simp, by simp⟩

theorem queryReportKeepsChanges (vs : Command.Values) (w : World) (query : vs.find "operation" = .str "query")
    (sqlite : w.settings.serverDatabase = false) :
    ∃ w', Command.dbOps vs w = .ok () w' ∧
      (∀ e, Sql.execute w.db (Moment.utc w.clock) (statementOf vs) [] = .error e →
        w'.db = w.db ∧ Reported ("Query failed: " ++ (faultOf e).message) w w') ∧
      (∀ db' out, Sql.execute w.db (Moment.utc w.clock) (statementOf vs) [] = .ok (db', out) →
        ∃ p, Sql.parse (statementOf vs) = .ok p ∧
          (readsRows p.stmt = true → w'.db = w.db ∧ Reported "  Rows returned: " w w') ∧
          (readsRows p.stmt = false →
            w'.db = db' ∧ Reported "Query failed: 'NoneType' object is not iterable" w w')) := by
  rw [dbOpsQuery vs w query sqlite]
  cases ran : Sql.execute w.db (Moment.utc w.clock) (statementOf vs) [] with
  | error e =>
    obtain ⟨w', done, db, failed, -⟩ := runQueryReported vs w (runFailed ran)
    refine ⟨w', done, ?_, by simp⟩
    rintro _ ⟨⟩
    exact ⟨db, failed _ rfl⟩
  | ok result =>
    obtain ⟨db', out⟩ := result
    obtain ⟨p, parsed, answers, keeps⟩ := executeOutcome ran
    -- whether the cursor sees rows is decided by the kind of statement alone
    cases reads : readsRows p.stmt with
    | true =>
      obtain ⟨rel, rows⟩ := Option.isSome_iff_exists.mp (answers.trans reads)
      obtain ⟨w', done, db, -, shown⟩ := runQueryReported vs w (runRows ran rows)
      refine ⟨w', done, by simp, ?_⟩
      rintro _ _ ⟨⟩
      exact ⟨p, parsed, fun _ => ⟨db.trans (keeps reads), shown _ rfl⟩, by simp [reads]⟩
    | false =>
      have none : out.result = none := Option.not_isSome_iff_eq_none.mp (by rw [answers, reads]; decide)
      obtain ⟨w', done, db, failed, -⟩ := runQueryReported vs w (runNoRows ran none)
      refine ⟨w', done, by simp, ?_⟩
      rintro _ _ ⟨⟩
      exact ⟨p, parsed, by simp [reads], fun _ => ⟨db, failed _ rfl⟩⟩

def countsTable : RawTable := { name := "t", schema := "CREATE TABLE t (a integer)", rows := [(1, [.int 1])] }

def countsDb : Db := { tables := [], links := [], raw := [countsTable] }

def countsWorld : World := { db := countsDb }

def bumpAll : Command.Values := [("operation", .str "query"), ("query", .str "UPDATE t SET a = 2")]

theorem updateQueryReport :
    bumpAll.find "operation" = .str "query" ∧ countsWorld.settings.serverDatabase = false ∧
    ∃ w', Command.dbOps bumpAll countsWorld = .ok () w' ∧
      (∀ e, Sql.execute countsDb (Moment.utc countsWorld.clock) (statementOf bumpAll) [] = .error e →
        w'.db = countsDb ∧ Reported ("Query failed: " ++ (faultOf e).message) countsWorld w') ∧
      (∀ db' out, Sql.execute countsDb (Moment.utc countsWorld.clock) (statementOf bumpAll) [] = .ok (db', out) →
        ∃ p, Sql.parse (statementOf bumpAll) = .ok p ∧
          (readsRows p.stmt = true → w'.db = countsDb ∧ Reported "  Rows returned: " countsWorld w') ∧
          (readsRows p.stmt = false →
            w'.db = db' ∧ Reported "Query failed: 'NoneType' object is not iterable" countsWorld w')) :=
  ⟨rfl, rfl, queryReportKeepsChanges _ countsWorld rfl rfl⟩

end Portal.QueryReport
