import Mathlib
import Portal.Database.Maintenance
import Portal.Proofs.QueryReport
/-! What the table statistics of the in-memory database report. A statement written with
`SELECT` first is read as a query, so the cursor answers it with rows or a fault and never
changes the database. The statistics list the schema with such a statement and count each
table with another one, made by splicing the table's name after `FROM` as it is written. So
they give one entry per listed table, in the listing's order, each with the count that the
spliced statement answers on the database as it was. For a name that needs quoting the
spliced statement does not name the table: for a table `t x` it counts the rows of `t`.

Main statement: `tableSizesListed`. -/
namespace Portal.TableSizes
open Database QueryReport

/-! ### Statements that begin with `SELECT` -/

def SelectText (text : String) : Prop :=
  ∃ cs, text.toList = 'S' :: 'E' :: 'L' :: 'E' :: 'C' :: 'T' :: ' ' :: cs

theorem SelectText.append {a : String} (sel : SelectText a) (b : String) : SelectText (a ++ b) := by
  obtain ⟨cs, chars⟩ := sel
  exact ⟨cs ++ b.toList, by simp [chars]⟩

theorem qmarkSelect {text : String} (sel : SelectText text) : SelectText (qmarkText text) := by
  obtain ⟨cs, chars⟩ := sel
  simp [SelectText, qmarkText, chars, qmarkText.marks, qmarkText.unescape]

theorem lexSelect {text : String} (sel : SelectText text) :
    ∃ rest, Sql.lex text = ⟨.word "SELECT", 0, 6⟩ :: rest := by
  obtain ⟨cs, chars⟩ := sel
  have word : List.takeWhile Sql.isNameChar ('S' :: 'E' :: 'L' :: 'E' :: 'C' :: 'T' :: ' ' :: cs) =
      "SELECT".toList := by
    simp [List.takeWhile_cons, show Sql.isNameChar ' ' = false by decide]
    decide
  rw [← String.ofList_toList (s := text), chars]
  simp [Sql.lex, Sql.lexFrom, show Sql.isSpace 'S' = false by decide,
    show Sql.isNameStart 'S' = true by decide, word]

theorem readerBindRun {α β : Type} {x : Sql.P α} {f : α → Sql.P β} {r r' : Sql.Reader} {a : α}
    (h : x r = .ok (a, r')) : (x >>= f) r = f a r' := by
  simp [bind, StateT.bind, Except.bind, h]

theorem readerBindOk {α β : Type} {x : Sql.P α} {f : α → Sql.P β} {r r' : Sql.Reader} {b : β}
    (h : (x >>= f) r = .ok (b, r')) : ∃ a r₁, x r = .ok (a, r₁) ∧ f a r₁ = .ok (b, r') := by
  simp only [bind, StateT.bind] at h
  cases ran : x r with
  | error e =>
    simp [ran] at h
    cases h
  | ok p => exact ⟨p.1, p.2, rfl, by simpa [ran, Except.bind] using h⟩

section
variable {r : Sql.Reader} {rest : List Sql.Token} (first : r.toks = ⟨.word "SELECT", 0, 6⟩ :: rest)
include first

theorem hereSelect : Sql.P.here r = .ok (0, r) := by
  simp [Sql.P.here, Sql.P.peekToken, bind, StateT.bind, get, getThe, MonadStateOf.get, StateT.get, pure,
    StateT.pure, Except.bind, Except.pure, first]

theorem startsQuerySelect : Sql.P.startsQuery r = .ok (true, r) := by
  simp [Sql.P.startsQuery, Sql.P.isWord, Sql.P.peek, bind, StateT.bind, get, getThe, MonadStateOf.get,
    StateT.get, pure, StateT.pure, Except.bind, Except.pure, first]
  decide +kernel

theorem statementQuery {fuel : Nat} {r' : Sql.Reader} {s : Sql.Stmt} (h : Sql.statement fuel r = .ok (s, r')) :
    readsRows s = true := by
  unfold Sql.statement at h
  rw [readerBindRun (hereSelect first), readerBindRun (startsQuerySelect first)] at h
  obtain ⟨q, _, -, done⟩ := readerBindOk h
  cases done
  rfl

end

theorem parseSelect {text : String} {p : Sql.Parsed} {rest : List Sql.Token}
    (lexed : Sql.lex text = ⟨.word "SELECT", 0, 6⟩ :: rest) (h : Sql.parse text = .ok p) :
    readsRows p.stmt = true := by
  unfold Sql.parse at h
  simp only [lexed] at h
  rw [if_neg (by decide)] at h
  obtain ⟨⟨s, r'⟩, ran, h⟩ := bindOk h
  -- whatever follows the statement, the parsed statement is the one read
  have same : p.stmt = s := by
    dsimp only at h
    split at h
    · cases h
      rfl
    · split at h
      · cases h
        rfl
      · obtain ⟨_, -, done⟩ := bindOk h
        cases done
        rfl
  rw [same]
  exact statementQuery rfl ran

theorem runSelect (db : Db) (clock : Moment) {text : String} (sel : SelectText text) :
    ∃ reply, run db clock text .null true = (db, reply) ∧ ∀ n, reply ≠ .ok (.count n) := by
  cases ran : Sql.execute db clock (qmarkText text) [] with
  | error e => exact ⟨_, runFailed ran, by simp⟩
  | ok result =>
    obtain ⟨db', out⟩ := result
    obtain ⟨p, parsed, answers, keeps⟩ := executeOutcome ran
    obtain ⟨rest, lexed⟩ := lexSelect (qmarkSelect sel)
    have reads : readsRows p.stmt = true := parseSelect lexed parsed
    obtain ⟨rel, rows⟩ := Option.isSome_iff_exists.mp (answers.trans reads)
    obtain rfl := keeps reads
    exact ⟨_, runRows ran rows, by simp⟩

def rowsOf : Reply → List (List (String × Cell))
  | .rows rs => rs
  | .count _ => []

def answer (w : World) (text : String) : Except Fault (List (List (String × Cell))) :=
  (run w.db (Moment.utc w.clock) text .null true).2.map rowsOf

theorem attemptSelect (w : World) {text : String} (sel : SelectText text) :
    App.attempt (fetchRows text) w = .ok (answer w text) w := by
  obtain ⟨reply, ran, noCount⟩ := runSelect w.db (Moment.utc w.clock) sel
  rw [RequestLog.attemptRun]
  simp only [answer, ran]
  cases reply with
  | error f =>
    simp only [fetchRows, bind, EStateM.bind, executeRun text w ran]
    rfl
  | ok r =>
    cases r with
    | rows rs =>
      simp only [fetchRows, bind, EStateM.bind, executeRun text w ran]
      rfl
    | count n => exact absurd rfl (noCount n)

/-! ### The statistics -/

theorem countSelect (name : String) : SelectText (countStatement name) :=
  ((show SelectText "SELECT COUNT(*) FROM " from ⟨"COUNT(*) FROM ".toList, by simp⟩).append name).append ";"

theorem schemaSelect : SelectText schemaStatement :=
  ⟨"name FROM sqlite_master WHERE type='table';".toList, by simp [schemaStatement]⟩

theorem tableSizeRun (name : String) (w : World) :
    tableSize name w = .ok (sizeEntry name (countCell (answer w (countStatement name)))) w := by
  unfold tableSize
  rw [Listing.bindRun (attemptSelect w (countSelect name))]
  rfl

theorem mapMRun {α β : Type} (g : α → β) {f : α → App β} (w : World) (each : ∀ x, f x w = .ok (g x) w) :
    ∀ xs : List α, xs.mapM f w = .ok (xs.map g) w
  | [] => rfl
  | x :: xs => by
    rw [List.mapM_cons, Listing.bindRun (each x), Listing.bindRun (mapMRun g w each xs)]
    rfl

def tableNames (w : World) : List String :=
  match answer w schemaStatement with
  | .ok rows => rows.map listedName
  | .error _ => []

theorem tableSizesListed (w : World) :
    tableSizes .sqlite w =
      .ok ((tableNames w).map fun n => sizeEntry n (countCell (answer w (countStatement n)))) w := by
  unfold tableSizes tableNames
  dsimp only
  rw [Listing.bindRun (attemptSelect w schemaSelect)]
  cases answer w schemaStatement with
  | error f => rfl
  | ok rows =>
    dsimp only
    rw [mapMRun _ w (fun row => tableSizeRun (listedName row) w) rows, List.map_map]
    rfl

def spacedDb : Db :=
  { tables := [], links := [],
    raw := [{ name := "t", schema := "CREATE TABLE t (a integer)", rows := [(1, [.int 1])] },
      { name := "t x", schema := "CREATE TABLE \"t x\" (a integer)" }] }

def spacedWorld : World := { db := spacedDb }

theorem spacedNameCountsT :
    "t x" ∈ tableNames spacedWorld ∧
    tableSize "t x" spacedWorld =
      .ok (sizeEntry "t x" (countCell (answer spacedWorld (countStatement "t x")))) spacedWorld ∧
    (countCell (answer spacedWorld (countStatement "t x"))).map Cell.toText = some "1" ∧
    (countCell (answer spacedWorld "SELECT COUNT(*) FROM \"t x\";")).map Cell.toText = some "0" :=
  ⟨by decide +kernel, tableSizeRun "t x" spacedWorld, by decide +kernel, by decide +kernel⟩

end Portal.TableSizes
