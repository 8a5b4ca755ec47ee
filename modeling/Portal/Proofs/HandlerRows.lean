import Mathlib
import Portal.Proofs.RequestLog
import Portal.Proofs.WrittenRows
import Portal.Audit.Handler
import Portal.Proofs.Delivery
/-! What the database log handler does with one record: it appends exactly the row the record
describes when the log's columns take it, and otherwise drops the record and leaves the world as it
was; it never fails. The metadata it stores keeps the record's extra attributes over the members
that say where the record was logged from. -/
namespace Portal.HandlerRows
open Audit LogStore Listing RequestLog

def recordEntry (dflt : Json) (r : LogRecord) (message : String) (w : World) : LogEntry :=
  { level := .text r.levelName, category := Value.ofJson (r.attr "category" dflt),
    message := .text message, userId := ctxValue w "user_id",
    objectId := Value.ofJson (r.attr "object_id" .null), requestId := ctxValue w "request_id",
    ip := ctxValue w "ip_address", userAgent := ctxValue w "user_agent" }

theorem contextRun (k : String) (w : World) : App.contextValue k w = .ok (ctxValue w k) w := rfl

theorem emitRun (dflt : Json) (traced : Bool) (r : LogRecord) (w : World) :
    emit dflt traced r w = .ok () (match r.message with
      | .error _ => w
      | .ok m => after (App.write (logObj (recordEntry dflt r m w) r.created (.json (r.metadata traced))) none w)) := by
  unfold emit
  rw [Steps.quietlyRun]
  rcases r.message with f | m
  · rfl
  · rw [bindRun (show App.ofExcept (.ok m) w = .ok m w from rfl), bindRun (contextRun "user_id" w),
      bindRun (contextRun "request_id" w), bindRun (contextRun "ip_address" w),
      bindRun (contextRun "user_agent" w), Steps.discardRun]
    dsimp only [logObj, recordEntry]
    generalize App.write _ none w = res
    cases res <;> rfl

theorem writeFailKeeps {o : Obj} {only : Option (List String)} {w w' : World} {f : Fault}
    (h : App.write o only w = .error f w') : w' = w := by
  have kept := Answers.runOfTriple (Steps.writeSpec o only w)
  rw [h] at kept
  exact kept.1

def categoryColumn : Field := { Catalog.charField "category" 50 with choices := Catalog.categoryChoices, indexed := true }

theorem categoryRequired : categoryColumn ∈ Catalog.systemLog.fields ∧ categoryColumn.null = false ∧
    categoryColumn.kind ≠ .serial := by
  simp [categoryColumn, Catalog.systemLog, Catalog.charField]

theorem withMembersGet (doc more : List (String × Json)) (k : String) :
    (withMembers doc more).get? k =
      ((more.reverse.find? (·.1 == k)).map (·.2)).or ((doc.find? (·.1 == k)).map (·.2)) := by
  induction more generalizing doc with
  | nil => simp [withMembers, Json.get?]
  | cons m rest ih =>
    obtain ⟨k', v⟩ := m
    have step : withMembers doc ((k', v) :: rest) = withMembers (Json.setKey doc k' v) rest := rfl
    rw [step, ih, List.reverse_cons, List.find?_append]
    by_cases same : k' = k
    · subst same
      have found := Delivery.findUpsertSame doc k' v
      simp only [Json.setKey] at *
      rw [found]
      cases rest.reverse.find? (·.1 == k') <;> simp
    · have other := Delivery.findUpsertOther doc v (Ne.symm same)
      simp only [Json.setKey] at *
      rw [other]
      simp [same]

def placeMembers (r : LogRecord) (traced : Bool) : List (String × Json) :=
  [("module", r.attr "module" r.module), ("function", r.attr "funcName" r.func),
    ("line", r.attr "lineno" r.lineno), ("thread", .int r.thread), ("process", .int r.process)] ++
  match r.exc with
  | some f => [("exception", .obj [("type", .str f.kind), ("message", .str f.message),
      ("traceback", if traced then .str (LogRecord.excText f) else .null)])]
  | none => []

def keptExtras (r : LogRecord) : List (String × Json) :=
  r.extra.filter fun kv => !recordAttributes.contains kv.1 && !r.unwritable.contains kv.1

theorem metadataSplit (r : LogRecord) (traced : Bool) :
    r.metadata traced = withMembers (placeMembers r traced) (keptExtras r) := rfl

theorem metadataGet (r : LogRecord) (traced : Bool) (k : String) :
    (r.metadata traced).get? k = (((keptExtras r).reverse.find? (·.1 == k)).map (·.2)).or
      (((placeMembers r traced).find? (·.1 == k)).map (·.2)) := by
  rw [metadataSplit, withMembersGet]

/-- The log takes a record's row in `w`: the record names a category, and its object and the
request context's user are counts the log's columns store, as `u` and `u'`. -/
structure Storable (dflt : Json) (r : LogRecord) (w : World) (u u' : Value) : Prop where
  category : Value.ofJson (r.attr "category" dflt) ≠ .null
  user : userColumn.prep (ctxValue w "user_id") = .ok u
  object : objectColumn.prep (Value.ofJson (r.attr "object_id" .null)) = .ok u'
  userCount : CountCell u
  objectCount : CountCell u'

theorem textCellPresent {v : Value} (h : v ≠ .null) : textCell v = .text v.toText := by
  cases v <;> simp_all [textCell, Value.isNull]

def recordCells (dflt : Json) (traced : Bool) (r : LogRecord) (message : String) (w : World)
    (u u' : Value) : List (String × Value) :=
  logCells r.levelName (Value.ofJson (r.attr "category" dflt)).toText message (Moment.utc r.created).toUtc u u'
    (r.metadata traced) (ctxValue w "request_id") (ctxValue w "ip_address") (ctxValue w "user_agent")

theorem emitAppends {dflt : Json} {traced : Bool} {r : LogRecord} {w : World} {m : String} {u u' : Value}
    (formats : r.message = .ok m) (fits : Storable dflt r w u u') (fresh : FreshKey w.db) :
    emit dflt traced r w = .ok () { w with db := withLogRow w.db (recordCells dflt traced r m w u u') } := by
  rw [emitRun, formats]
  dsimp only
  rw [writeLogAppends (recordEntry dflt r m w) w (r.metadata traced) rfl (textCellPresent fits.category) rfl
    fits.user fits.object fits.userCount fits.objectCount fresh]
  rfl

theorem nullCategoryRefused (e : LogEntry) (t : Instant) (doc : Json) (w : World) (absent : e.category = .null) :
    ∃ f w', App.write (logObj e t (.json doc)) none w = .error f w' := by
  rcases hw : App.write (logObj e t (.json doc)) none w with ⟨o, w'⟩ | ⟨f, w'⟩
  · exfalso
    obtain ⟨cells, prep, store⟩ := StoreUpdate.writeRun hw
    rw [stampLog] at prep
    have all := StoreUpdate.preparedCells prep
    unfold StoreUpdate.storeCells at store
    rw [Listing.bindRun (show App.db w = .ok w.db w from rfl)] at store
    change (App.ofDb (w.db.insert .systemLog cells) >>= _) w = _ at store
    rcases hi : w.db.insert .systemLog cells with g | ⟨db', key⟩
    · rw [hi] at store
      cases store
    obtain ⟨-, passes⟩ := insertOkChecks hi
    obtain ⟨inLog, required, notSerial⟩ := categoryRequired
    have chosen : categoryColumn ∈ (logObj e t (.json doc)).model.fields.filter
        fun f => f.kind != .serial && touches none f := by
      simp [inLog, notSerial, touches, Obj.model, Entity.model, logObj]
    obtain ⟨v, hv, got⟩ := WrittenRows.preparedRowGet all (WrittenRows.storedNamesNodup .systemLog none)
      ((w.db.table .systemLog).seq + 1) chosen (by simp [categoryColumn, Catalog.charField])
    have empty : v = .null := by
      have : (logObj e t (.json doc)).get "category" = .null := by simp [logObj, Obj.get, absent]
      simp only [categoryColumn, Catalog.charField] at hv
      rw [this] at hv
      cases hv
      rfl
    exact WrittenRows.violationNotNull passes inLog notSerial required (by simp [categoryColumn, Catalog.charField])
      (got.trans empty)
  · exact ⟨f, w', rfl⟩

theorem emitKeeps {dflt : Json} {traced : Bool} {r : LogRecord} {w : World} {m : String}
    (formats : r.message = .ok m) (refused : ¬∃ u u', Storable dflt r w u u') :
    emit dflt traced r w = .ok () w := by
  rw [emitRun, formats]
  dsimp only
  rcases hw : App.write (logObj (recordEntry dflt r m w) r.created (.json (r.metadata traced))) none w with
    ⟨o, w'⟩ | ⟨f, w'⟩
  · -- a write that goes through shows the row was storable: without a category the store refuses
    -- it, and with one the log's own write lemma gives the converted user and object cells
    exfalso
    by_cases absent : Value.ofJson (r.attr "category" dflt) = .null
    · obtain ⟨f, w'', fails⟩ := nullCategoryRefused (recordEntry dflt r m w) r.created (r.metadata traced) w absent
      rw [hw] at fails
      cases fails
    · obtain ⟨u, u', hu, ho, cu, co, -⟩ :=
        writeLogTakes (recordEntry dflt r m w) w (r.metadata traced) rfl (textCellPresent absent) rfl hw
      exact refused ⟨u, u', absent, hu, ho, cu, co⟩
  · rw [writeFailKeeps hw]
    rfl

/-- What the handler does with record `r` in world `w`. -/
structure Records (dflt : Json) (traced : Bool) (r : LogRecord) (w : World) : Prop where
  unformatted : ∀ f, r.message = .error f → emit dflt traced r w = .ok () w
  stored : ∀ m u u', r.message = .ok m → Storable dflt r w u u' →
    emit dflt traced r w = .ok () { w with db := withLogRow w.db (recordCells dflt traced r m w u u') }
  refused : ∀ m, r.message = .ok m → (¬∃ u u', Storable dflt r w u u') → emit dflt traced r w = .ok () w
  members : ∀ k, (r.metadata traced).get? k = (((keptExtras r).reverse.find? (·.1 == k)).map (·.2)).or
    (((placeMembers r traced).find? (·.1 == k)).map (·.2))

def plainRecord : LogRecord :=
  { msg := .str "m", module := .str "app", created := Instant.start, thread := 0, process := 0 }

end Portal.HandlerRows
