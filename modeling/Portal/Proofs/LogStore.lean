import Mathlib
import Portal.Proofs.Steps
/-! The log as a store. Writing an entry either appends exactly one row, under the log's next
key and with the entry's cells as the columns prepare them, or fails and leaves the world as it
was. The store refuses an entry only for its user or object (a value that is no count, or a
negative or oversized one), or when the next key is taken. -/
namespace Portal.LogStore
open Web

def settle {α : Type} (r : Except Fault α) (w : World) : EStateM.Result Fault World α :=
  match r with
  | .ok a => .ok a w
  | .error e => .error e w

theorem settleOk {α : Type} {r : Except Fault α} {w s : World} {a : α} :
    settle r w = .ok a s ↔ r = .ok a ∧ s = w := by
  cases r <;> simp [settle, eq_comm]

theorem settleError {α : Type} {r : Except Fault α} {w s : World} {e : Fault} :
    settle r w = .error e s ↔ r = .error e ∧ s = w := by
  cases r <;> simp [settle, eq_comm]

theorem forInRun {β γ : Type} (xs : List γ) (init : β) (body : γ → β → App (ForInStep β))
    (step : β → γ → Except Fault β)
    (hbody : ∀ x b w, body x b w = settle ((step b x).map .yield) w) (w : World) :
    forIn xs init body w = settle (xs.foldlM step init) w := by
  induction xs generalizing init with
  | nil => rfl
  | cons x xs ih =>
    rw [List.forIn_cons]
    show EStateM.bind (body x init) _ w = _
    simp only [EStateM.bind, hbody, List.foldlM_cons]
    cases step init x with
    | error e => rfl
    | ok c => exact ih c

def touches (only : Option (List String)) (f : Field) : Bool :=
  match only with
  | some names => names.contains f.name
  | none => true

def stamp (o : Obj) (only : Option (List String)) (now : Instant) : Obj :=
  o.model.fields.foldl (fun o f =>
    if (touches only f && (f.autoNow || f.autoNowAdd && o.adding)) = true then o.set f.name (Value.now now)
    else o) o

def prepStep (o : Obj) (touched : Field → Bool) (cells : List (String × Value)) (f : Field) :
    Except Fault (List (String × Value)) :=
  if (f.kind != .serial && touched f) = true then
    (f.prep (o.get f.name)).map fun v => cells ++ [(f.name, v)]
  else .ok cells

theorem ofExceptRun {α : Type} (r : Except Fault α) (w : World) : App.ofExcept r w = settle r w := by
  cases r <;> rfl

theorem prepareLoop (o : Obj) (touched : Field → Bool) (fs : List Field) (acc : List (String × Value)) :
    (forIn fs acc (fun f (cells : List (String × Value)) =>
      if (f.kind != Kind.serial && touched f) = true then do
        let v ← App.ofExcept (f.prep (o.get f.name))
        pure (ForInStep.yield (cells ++ [(f.name, v)]))
      else pure (ForInStep.yield cells)) : App (List (String × Value))) =
    App.ofExcept (fs.foldlM (prepStep o touched) acc) := by
  funext w
  rw [ofExceptRun]
  apply forInRun
  intro f cells w
  unfold prepStep
  split
  · cases f.prep (o.get f.name) <;> rfl
  · rfl

def prepared (o : Obj) (fs : List Field) (only : Option (List String)) :
    Except Fault (List (String × Value)) :=
  fs.foldlM (prepStep o (touches only)) []

def writeSteps (o : Obj) (only : Option (List String)) : App Obj := do
  let o' := stamp o only (← App.now)
  let cells ← App.ofExcept (prepared o' o.model.fields only)
  let db ← App.db
  match o'.pk with
  | some k =>
    if db.exists? o'.entity k then
      let (db', _) ← App.ofDb (db.update o'.entity k cells)
      App.setDb db'
      return { o' with adding := false }
    else
      let (db', key) ← App.ofDb (db.insert o'.entity cells (some k))
      App.setDb db'
      return { o' with pk := some key, adding := false }
  | none =>
    let (db', key) ← App.ofDb (db.insert o'.entity cells)
    App.setDb db'
    return { o' with pk := some key, adding := false }

theorem writeInSteps (o : Obj) (only : Option (List String)) : App.write o only = writeSteps o only := by
  unfold App.write writeSteps
  simp only [prepareLoop]
  rfl

def ctxValue (w : World) (k : String) : Value :=
  Value.ofJson (((w.context.find? (·.1 == k)).map (·.2)).getD .null)

def resolved (e : LogEntry) (w : World) : LogEntry :=
  let named := e.requestId.truthy || e.ip.truthy || e.userAgent.truthy
  { e with
    requestId := if named then e.requestId else ctxValue w "request_id"
    ip := if named then e.ip else ctxValue w "ip_address"
    userAgent := if named then e.userAgent else ctxValue w "user_agent"
    userId := if named || !e.userId.isNull then e.userId else ctxValue w "user_id" }

def metaDoc (m : Json) : Json :=
  match m with
  | .obj _ => m
  | .null => .obj []
  | other => .obj [("data", other)]

def logObj (e : LogEntry) (now : Instant) (stored : Value) : Obj :=
  { entity := .systemLog, cells := [
      ("level", e.level), ("category", e.category), ("message", e.message),
      ("timestamp", Value.now now), ("user_id", e.userId), ("object_id", e.objectId),
      ("metadata", stored), ("request_id", e.requestId), ("ip_address", e.ip),
      ("user_agent", e.userAgent)] }

def logResult (e : LogEntry) (w : World) : EStateM.Result Fault World Obj :=
  match e.metadata with
  | .error f => .error f w
  | .ok m => App.write (logObj e w.clock (.json (metaDoc m))) none w

theorem logEntryRun (e : LogEntry) (w : World) : App.logEntry e w = logResult (resolved e w) w := by
  rcases e with ⟨level, category, message, userId, objectId, metadata, requestId, ip, userAgent⟩
  unfold App.logEntry resolved logResult
  split
  · rename_i named
    simp only [named, Bool.true_or, if_true]
    cases metadata with
    | error f => rfl
    | ok m => cases m <;> rfl
  · rename_i named
    simp only [Bool.or_eq_true, not_or, Bool.not_eq_true] at named
    obtain ⟨⟨rid, ip⟩, agent⟩ := named
    by_cases user : userId.isNull = true <;>
      simp only [user, rid, ip, agent, Bool.false_or, Bool.not_true, Bool.not_false, if_true] <;>
      cases metadata with
      | error f => rfl
      | ok m => cases m <;> rfl

def textCell (v : Value) : Value := if v.isNull then .null else .text v.toText

def CountCell (u : Value) : Prop := u = .null ∨ ∃ n, u = .int n ∧ 0 ≤ n ∧ Db.fitsWord n = true

def logCells (level category message : String) (t : Moment) (user object : Value) (doc : Json)
    (requestId ip agent : Value) : List (String × Value) :=
  [("level", .text level), ("category", .text category), ("message", .text message),
    ("timestamp", .moment t), ("user_id", user), ("object_id", object), ("metadata", .json doc),
    ("request_id", textCell requestId), ("ip_address", textCell ip), ("user_agent", textCell agent)]

theorem textCellCases (v : Value) : textCell v = .null ∨ ∃ s, textCell v = .text s := by
  unfold textCell
  split
  · exact .inl rfl
  · exact .inr ⟨_, rfl⟩

theorem logViolation (db : Db) (k : Nat) (level category message : String) (t : Moment)
    (user object : Value) (doc : Json) (requestId ip agent : Value)
    (hu : CountCell user) (ho : CountCell object) :
    db.violation .systemLog k (logCells level category message t user object doc requestId ip agent) = none := by
  unfold Db.violation
  rw [if_neg ?fits]
  case fits =>
    simp only [List.any_eq_true, not_exists, not_and]
    intro c hc
    simp only [logCells, List.mem_cons, List.not_mem_nil, or_false] at hc
    rcases hc with rfl | rfl | rfl | rfl | rfl | rfl | rfl | rfl | rfl | rfl
    all_goals try simp
    · rcases hu with rfl | ⟨n, rfl, -, fits⟩ <;> simp [*]
    · rcases ho with rfl | ⟨n, rfl, -, fits⟩ <;> simp [*]
    · rcases textCellCases requestId with h | ⟨s, h⟩ <;> simp [h]
    · rcases textCellCases ip with h | ⟨s, h⟩ <;> simp [h]
    · rcases textCellCases agent with h | ⟨s, h⟩ <;> simp [h]
  -- only the two counts can break a check: a missing value or a number, never negative
  have small : ∀ n : Int, 0 ≤ n → decide (n < 0) = false := fun n h => decide_eq_false (not_lt.mpr h)
  rcases hu with rfl | ⟨n, rfl, n0, -⟩ <;> rcases ho with rfl | ⟨n', rfl, n0', -⟩ <;>
    simp +decide [Entity.model, Catalog.systemLog, logCells, Catalog.idField, Catalog.charField,
      Catalog.textField, List.find?_cons, Value.isNull, *]

def userColumn : Field := { name := "user_id", kind := .posInt, null := true, indexed := true }

def objectColumn : Field := { name := "object_id", kind := .posInt, null := true, indexed := true }

theorem prepTextCell (f : Field) (kind : f.kind = .text ∨ f.kind = .ip) (v : Value) :
    f.prep v = .ok (textCell v) := by
  unfold Field.prep
  rcases kind with kind | kind <;> cases v <;> simp [textCell, Value.isNull, kind]

theorem prepCountShape {f : Field} (kind : f.kind = .posInt) {v u : Value} (h : f.prep v = .ok u) :
    u = .null ∨ ∃ n, u = .int n := by
  unfold Field.prep at h
  rw [kind] at h
  cases v with
  | null => cases h; exact .inl rfl
  | text s =>
    simp only at h
    split at h
    · cases h; exact .inr ⟨_, rfl⟩
    · cases h
  | int n => cases h; exact .inr ⟨n, rfl⟩
  | bool b => cases h; exact .inr ⟨_, rfl⟩
  | real x => cases h; exact .inr ⟨_, rfl⟩
  | _ => cases h

theorem prepMoment (f : Field) (kind : f.kind = .moment) (m : Moment) :
    f.prep (.moment m) = .ok (.moment m.toUtc) := by
  unfold Field.prep
  rw [kind]

theorem prepJson (f : Field) (kind : f.kind = .json) (j : Json) : f.prep (.json j) = .ok (.json j) := by
  unfold Field.prep
  rw [kind]

@[simp] theorem textCellText (s : String) : textCell (.text s) = .text s := rfl

theorem preparedLog (e : LogEntry) (now : Instant) (doc : Json) {level category message : String}
    (hl : e.level = .text level) (hc : textCell e.category = .text category) (hm : e.message = .text message) :
    prepared (logObj e now (.json doc)) Catalog.systemLog.fields none =
      (userColumn.prep e.userId).bind fun u => (objectColumn.prep e.objectId).map fun u' =>
        logCells level category message (Moment.utc now).toUtc u u' doc e.requestId e.ip e.userAgent := by
  rcases hu : userColumn.prep e.userId with f | u <;> rcases ho : objectColumn.prep e.objectId with f' | u' <;>
    simp only [userColumn, objectColumn] at hu ho <;>
    simp [prepared, prepStep, logObj, Catalog.systemLog, Catalog.idField, Catalog.charField,
      Catalog.textField, touches, Obj.get, prepTextCell, prepMoment, prepJson, hl, hc, hm, Value.now, hu, ho,
      logCells, bind, Except.bind, Except.map, pure, Except.pure]

theorem stampLog (e : LogEntry) (now t : Instant) (stored : Value) (only : Option (List String)) :
    stamp (logObj e now stored) only t = logObj e now stored := by
  simp [stamp, logObj, Obj.model, Entity.model, Catalog.systemLog, Catalog.idField, Catalog.charField,
    Catalog.textField]

def FreshKey (db : Db) : Prop := db.exists? .systemLog ((db.table .systemLog).seq + 1) = false

theorem placeRowPerm (r : Row) : ∀ rows : List Row, (Db.placeRow r rows).Perm (rows ++ [r])
  | [] => .refl _
  | x :: xs => by
    unfold Db.placeRow
    split
    · exact (List.perm_append_singleton r (x :: xs)).symm
    · exact (placeRowPerm r xs).cons x

def withLogRow (db : Db) (cells : List (String × Value)) : Db :=
  let t := db.table .systemLog
  db.setTable .systemLog
    { rows := Db.placeRow { pk := t.seq + 1, cells } t.rows, seq := t.seq + 1 }

theorem insertLog (db : Db) (level category message : String) (t : Moment) (user object : Value)
    (doc : Json) (requestId ip agent : Value) (hu : CountCell user) (ho : CountCell object)
    (fresh : FreshKey db) :
    db.insert .systemLog (logCells level category message t user object doc requestId ip agent) =
      .ok (withLogRow db (logCells level category message t user object doc requestId ip agent),
        (db.table .systemLog).seq + 1) := by
  unfold Db.insert withLogRow
  simp only [Option.getD_none]
  rw [FreshKey] at fresh
  simp [fresh, logViolation db _ _ _ _ _ _ _ _ _ _ _ hu ho]

theorem writeLogAppends (e : LogEntry) (w : World) (doc : Json) {t : Instant} {level category message : String}
    (hl : e.level = .text level) (hc : textCell e.category = .text category) (hm : e.message = .text message)
    {u u' : Value} (hu : userColumn.prep e.userId = .ok u) (ho : objectColumn.prep e.objectId = .ok u')
    (cu : CountCell u) (co : CountCell u') (fresh : FreshKey w.db) :
    App.write (logObj e t (.json doc)) none w =
      .ok { logObj e t (.json doc) with pk := some ((w.db.table .systemLog).seq + 1), adding := false }
        { w with db := withLogRow w.db (logCells level category message (Moment.utc t).toUtc u u' doc
            e.requestId e.ip e.userAgent) } := by
  rw [writeInSteps]
  unfold writeSteps
  rw [Listing.bindRun (show App.now w = .ok w.clock w from rfl)]
  simp only [stampLog]
  have cells : prepared (logObj e t (.json doc)) (logObj e t (.json doc)).model.fields none =
      .ok (logCells level category message (Moment.utc t).toUtc u u' doc e.requestId e.ip e.userAgent) := by
    rw [show (logObj e t (.json doc)).model.fields = Catalog.systemLog.fields from rfl,
      preparedLog e t doc hl hc hm, hu, ho]
    rfl
  rw [Listing.bindRun (show App.ofExcept _ w = _ from congrArg (App.ofExcept · w) cells),
    Listing.bindRun (show App.db w = .ok w.db w from rfl)]
  show (App.ofDb (w.db.insert .systemLog _) >>= _) w = _
  rw [insertLog w.db level category message _ u u' doc e.requestId e.ip e.userAgent cu co fresh]
  rfl

theorem violationNoneChecks {db : Db} {e : Entity} {k : Nat} {cells : List (String × Value)}
    (h : db.violation e k cells = none) :
    (∀ c ∈ cells, ∀ n, c.2 = .int n → Db.fitsWord n = true) ∧
    ∀ f ∈ e.model.fields, f.kind = .posInt → ∀ n,
      ((cells.find? (·.1 == f.name)).map (·.2)).getD .null = .int n → ¬ n < 0 := by
  unfold Db.violation at h
  split_ifs at h with overflow
  dsimp only at h
  refine ⟨?_, ?_⟩
  · rintro ⟨name, v⟩ hc n rfl
    simp only [Bool.not_eq_true, List.any_eq_false] at overflow
    simpa using overflow _ hc
  · split at h
    · cases h
    · split at h
      · cases h
      · rename_i checkNone
        intro f hf kind n hn
        have := List.find?_eq_none.mp checkNone f hf
        simp_all

theorem violationCounts (db : Db) (k : Nat) (level category message : String) (t : Moment)
    (user object : Value) (doc : Json) (requestId ip agent : Value)
    (su : user = .null ∨ ∃ n, user = .int n) (so : object = .null ∨ ∃ n, object = .int n)
    (h : db.violation .systemLog k (logCells level category message t user object doc requestId ip agent) = none) :
    CountCell user ∧ CountCell object := by
  obtain ⟨fits, signs⟩ := violationNoneChecks h
  -- a count column's cell passes both the word check and the sign check
  have count : ∀ f ∈ Entity.systemLog.model.fields, f.kind = .posInt → ∀ v : Value,
      (f.name, v) ∈ logCells level category message t user object doc requestId ip agent →
      (((logCells level category message t user object doc requestId ip agent).find?
        (·.1 == f.name)).map (·.2)).getD .null = v →
      (v = .null ∨ ∃ n, v = .int n) → CountCell v := by
    rintro f hf kind v mem find (rfl | ⟨n, rfl⟩)
    · exact .inl rfl
    · exact .inr ⟨n, rfl, not_lt.mp (signs f hf kind n find), fits _ mem n rfl⟩
  have fields : userColumn ∈ Entity.systemLog.model.fields ∧ objectColumn ∈ Entity.systemLog.model.fields := by
    simp [Entity.model, Catalog.systemLog, userColumn, objectColumn]
  exact ⟨count userColumn fields.1 rfl user (by simp [logCells, userColumn])
      (by simp [logCells, userColumn]) su,
    count objectColumn fields.2 rfl object (by simp [logCells, objectColumn])
      (by simp [logCells, objectColumn]) so⟩

theorem insertOkChecks {db : Db} {e : Entity} {cells : List (String × Value)} {r : Db × Nat}
    (h : db.insert e cells = .ok r) :
    db.exists? e ((db.table e).seq + 1) = false ∧ db.violation e ((db.table e).seq + 1) cells = none := by
  unfold Db.insert at h
  simp only [Option.getD_none] at h
  split_ifs at h with taken
  refine ⟨by simpa using taken, ?_⟩
  split at h
  · cases h
  · assumption

theorem writeLogTakes (e : LogEntry) (w : World) (doc : Json) {t : Instant} {level category message : String}
    (hl : e.level = .text level) (hc : textCell e.category = .text category) (hm : e.message = .text message)
    {o : Obj} {w' : World} (h : App.write (logObj e t (.json doc)) none w = .ok o w') :
    ∃ u u', userColumn.prep e.userId = .ok u ∧ objectColumn.prep e.objectId = .ok u' ∧
      CountCell u ∧ CountCell u' ∧ FreshKey w.db := by
  rw [writeInSteps] at h
  unfold writeSteps at h
  rw [Listing.bindRun (show App.now w = .ok w.clock w from rfl)] at h
  simp only [stampLog] at h
  rw [show (logObj e t (.json doc)).model.fields = Catalog.systemLog.fields from rfl,
    preparedLog e t doc hl hc hm] at h
  rcases hu : userColumn.prep e.userId with f | u
  · rw [hu] at h
    cases h
  rcases ho : objectColumn.prep e.objectId with f | u'
  · rw [hu, ho] at h
    cases h
  rw [hu, ho] at h
  set cells := logCells level category message (Moment.utc t).toUtc u u' doc e.requestId e.ip e.userAgent
  rw [Listing.bindRun (show App.ofExcept _ w = .ok cells w from rfl),
    Listing.bindRun (show App.db w = .ok w.db w from rfl)] at h
  change (App.ofDb (w.db.insert .systemLog cells) >>= _) w = _ at h
  rcases hi : w.db.insert .systemLog cells with f | r
  · rw [hi] at h
    cases h
  obtain ⟨fresh, passes⟩ := insertOkChecks hi
  obtain ⟨cu, co⟩ := violationCounts _ _ _ _ _ _ _ _ _ _ _ _ (prepCountShape rfl hu) (prepCountShape rfl ho) passes
  exact ⟨u, u', rfl, rfl, cu, co, fresh⟩

def Takes (e : LogEntry) (w : World) : Prop :=
  (∃ doc, e.metadata = .ok doc) ∧
  ∃ u u', userColumn.prep (resolved e w).userId = .ok u ∧ objectColumn.prep e.objectId = .ok u' ∧
    CountCell u ∧ CountCell u' ∧ FreshKey w.db

theorem logEntryAppends (e : LogEntry) (w : World) {level category message : String}
    (hl : e.level = .text level) (hc : textCell e.category = .text category) (hm : e.message = .text message)
    {doc : Json} (hd : e.metadata = .ok doc) {u u' : Value}
    (hu : userColumn.prep (resolved e w).userId = .ok u) (ho : objectColumn.prep e.objectId = .ok u')
    (cu : CountCell u) (co : CountCell u') (fresh : FreshKey w.db) :
    ∃ o, App.logEntry e w = .ok o { w with db := withLogRow w.db (logCells level category message
      (Moment.utc w.clock).toUtc u u' (metaDoc doc) (resolved e w).requestId (resolved e w).ip
      (resolved e w).userAgent) } := by
  rw [logEntryRun]
  unfold logResult
  rw [show (resolved e w).metadata = .ok doc from hd]
  exact ⟨_, writeLogAppends (resolved e w) w (metaDoc doc) hl hc hm hu ho cu co fresh⟩

theorem logEntryFails (e : LogEntry) (w : World) {level category message : String}
    (hl : e.level = .text level) (hc : textCell e.category = .text category) (hm : e.message = .text message)
    (h : ¬Takes e w) : ∃ f, App.logEntry e w = .error f w := by
  rw [logEntryRun]
  unfold logResult
  rcases hd : e.metadata with f | doc
  · rw [show (resolved e w).metadata = .error f from hd]
    exact ⟨f, rfl⟩
  rw [show (resolved e w).metadata = .ok doc from hd]
  have kept := Answers.runOfTriple (Steps.writeSpec (logObj (resolved e w) w.clock (.json (metaDoc doc))) none w)
  rcases hw : App.write (logObj (resolved e w) w.clock (.json (metaDoc doc))) none w with ⟨o, w'⟩ | ⟨f, w'⟩
  · exact absurd ⟨⟨doc, hd⟩, writeLogTakes (resolved e w) w (metaDoc doc) hl hc hm hw⟩ h
  · rw [hw] at kept
    refine ⟨f, ?_⟩
    show App.write _ none w = _
    rw [hw, kept.1]

/-- The store is ready for log rows: it has the log's table, and no row's key is above the
log's counter. -/
structure LogReady (db : Db) : Prop where
  table : ∃ t, (Entity.systemLog, t) ∈ db.tables
  keys : ∀ row ∈ db.rows .systemLog, row.pk ≤ (db.table .systemLog).seq

theorem findSet (e : Entity) (t : Table) (ps : List (Entity × Table)) (h : ∃ t₀, (e, t₀) ∈ ps) :
    ((ps.map fun p => if (p.1 == e) = true then (e, t) else p).find? (·.1 == e)).map (·.2) = some t := by
  obtain ⟨t₀, mem⟩ := h
  induction ps with
  | nil => cases mem
  | cons p ps ih =>
    by_cases hp : p.1 = e
    · simp [hp]
    · have rest : (e, t₀) ∈ ps := by
        rcases List.mem_cons.mp mem with rfl | h
        · exact absurd rfl hp
        · exact h
      simpa [hp] using ih rest

theorem tableSet {db : Db} {e : Entity} (t : Table) (h : ∃ t₀, (e, t₀) ∈ db.tables) :
    (db.setTable e t).table e = t := by
  unfold Db.table Db.setTable
  rw [findSet e t db.tables h]
  rfl

theorem setTableHas {db : Db} {e : Entity} (t : Table) (h : ∃ t₀, (e, t₀) ∈ db.tables) :
    ∃ t', (e, t') ∈ (db.setTable e t).tables := by
  obtain ⟨t₀, mem⟩ := h
  exact ⟨t, List.mem_map.mpr ⟨_, mem, by simp⟩⟩

theorem readyFresh {db : Db} (ready : LogReady db) : FreshKey db := by
  unfold FreshKey Db.exists? Db.find?
  rw [Option.isSome_eq_false_iff, Option.isNone_iff_eq_none, List.find?_eq_none]
  intro row mem
  have := ready.keys row mem
  simp only [beq_iff_eq]
  omega

theorem logRowsAppend {db : Db} (ready : LogReady db) (cells : List (String × Value)) :
    ((withLogRow db cells).rows .systemLog).Perm
      (db.rows .systemLog ++ [{ pk := (db.table .systemLog).seq + 1, cells }]) := by
  unfold withLogRow Db.rows
  rw [tableSet _ ready.table]
  exact placeRowPerm _ _

theorem logRowsReady {db : Db} (ready : LogReady db) (cells : List (String × Value)) :
    LogReady (withLogRow db cells) := by
  refine ⟨setTableHas _ ready.table, fun row mem => ?_⟩
  have seq : ((withLogRow db cells).table .systemLog).seq = (db.table .systemLog).seq + 1 := by
    unfold withLogRow
    rw [tableSet _ ready.table]
  rw [seq]
  rcases List.mem_append.mp ((logRowsAppend ready cells).subset mem) with old | new
  · exact Nat.le_succ_of_le (ready.keys row old)
  · rw [List.mem_singleton.mp new]

theorem emptyReady : LogReady Db.empty := by
  refine ⟨⟨{}, List.mem_map.mpr ⟨.systemLog, by simp [Entity.all], rfl⟩⟩, fun row mem => ?_⟩
  have empty : Db.empty.rows .systemLog = [] := rfl
  rw [empty] at mem
  cases mem

end Portal.LogStore
