import Mathlib
import Portal.Proofs.RequestLog
import Portal.Channels.Consumers
/-! The audit trail of record writes. A save of a record of any kind but the log notes the
fields that differ from the stored row, writes the row, and then adds one log row: `Created` for
a record that was not stored before, `Updated` when its noted changes are not empty, none
otherwise. The changes are taken before the clock fields are stamped, so the update time a save
stamps never shows among them, and a record keeps the changes of its last save when nothing differs,
so saving it again logs them again. Marking a user's notifications read updates their rows in
the store directly and logs nothing.

The log row of an entry holds the context's user, the record's key as its object and the
entry's document; an entry whose document cannot be encoded, or whose key does not fit the
log's column, is dropped. -/
namespace Portal.AuditTrail
open LogStore RequestLog

def diffs (old o : Obj) : List (String × Value × Value) :=
  o.model.fields.filterMap fun f =>
    let a := old.get f.name
    let b := o.get f.name
    if a == b then none else some (f.name, a, b)

def noted (db : Db) (o : Obj) : Obj :=
  match o.pk with
  | none => o
  | some k =>
    match db.find? o.entity k with
    | none => o
    | some row =>
      let ch := diffs (Obj.ofRow o.entity row) o
      if ch.isEmpty then o else { o with changes := ch }

theorem noteChangesRun (o : Obj) (w : World) : App.noteChanges o w = .ok (noted w.db o) w := by
  unfold App.noteChanges noted
  rcases hk : o.pk with _ | k
  · rfl
  · simp only
    rcases hr : w.db.find? o.entity k with _ | row
    · show (App.db >>= _) w = _
      rw [Listing.bindRun (show App.db w = .ok w.db w from rfl)]
      simp only [hr]
      rfl
    · show (App.db >>= _) w = _
      rw [Listing.bindRun (show App.db w = .ok w.db w from rfl)]
      simp only [hr]
      split <;> rename_i same <;> simp only [diffs, same, if_true, Bool.false_eq_true, if_false] <;> rfl

theorem clockFieldNotKey (e : Entity) : ∀ f ∈ e.model.fields, (f.autoNow || f.autoNowAdd) = true → f.name ≠ "id" := by
  cases e <;> (try rename_i b; cases b) <;> decide

def SameRecord (a b : Obj) : Prop := a.entity = b.entity ∧ a.pk = b.pk ∧ a.changes = b.changes

theorem sameRecordRefl (a : Obj) : SameRecord a a := ⟨rfl, rfl, rfl⟩

theorem SameRecord.trans {a b c : Obj} (ab : SameRecord a b) (bc : SameRecord b c) : SameRecord a c :=
  ⟨ab.1.trans bc.1, ab.2.1.trans bc.2.1, ab.2.2.trans bc.2.2⟩

theorem setSame (o : Obj) {name : String} (v : Value) (h : name ≠ "id") : SameRecord (o.set name v) o := by
  unfold Obj.set
  simp only [h, if_false]
  exact ⟨rfl, rfl, rfl⟩

theorem stampSame (o : Obj) (only : Option (List String)) (now : Instant) : SameRecord (stamp o only now) o := by
  unfold stamp
  have clock := clockFieldNotKey o.entity
  -- the fold runs over the record's own fields, none of which is a clock field named as the key
  suffices ∀ (fs : List Field) (x : Obj), (∀ f ∈ fs, (f.autoNow || f.autoNowAdd) = true → f.name ≠ "id") →
      SameRecord (fs.foldl (fun o f =>
        if (touches only f && (f.autoNow || f.autoNowAdd && o.adding)) = true then o.set f.name (Value.now now)
        else o) x) x from this _ o clock
  intro fs
  induction fs with
  | nil => exact fun x _ => sameRecordRefl x
  | cons f fs ih =>
    intro x named
    rw [List.foldl_cons]
    refine (ih _ fun g mem => named g (List.mem_cons_of_mem f mem)).trans ?_
    split
    · rename_i stamped
      apply setSame
      apply named f List.mem_cons_self
      simp only [Bool.and_eq_true, Bool.or_eq_true] at stamped ⊢
      tauto
    · exact sameRecordRefl x

theorem prepareSame (o : Obj) (now : Instant) : SameRecord (o.prepare now) o := by
  unfold Obj.prepare
  split <;> (try dsimp only) <;> (repeat' split) <;> exact sameRecordRefl o

theorem notedEntity (db : Db) (o : Obj) : (noted db o).entity = o.entity ∧ (noted db o).pk = o.pk := by
  unfold noted
  split
  · exact ⟨rfl, rfl⟩
  · split
    · exact ⟨rfl, rfl⟩
    · dsimp only
      split <;> exact ⟨rfl, rfl⟩

theorem insertSets {db db' : Db} {e : Entity} {cells : List (String × Value)} {pk : Option Nat} {key : Nat}
    (h : db.insert e cells pk = .ok (db', key)) : ∃ t, db' = db.setTable e t := by
  unfold Db.insert at h
  dsimp only at h
  split_ifs at h
  split at h
  · cases h
  · cases h
    exact ⟨_, rfl⟩

theorem updateSets {db db' : Db} {e : Entity} {k : Nat} {cells : List (String × Value)} {b : Bool}
    (h : db.update e k cells = .ok (db', b)) : db' = db ∨ ∃ t, db' = db.setTable e t := by
  unfold Db.update at h
  split at h
  · cases h
    exact .inl rfl
  · dsimp only at h
    split at h
    · cases h
    · cases h
      exact .inr ⟨_, rfl⟩

theorem tableSetOther {db : Db} {e e' : Entity} (t : Table) (ne : e' ≠ e) :
    (db.setTable e t).table e' = db.table e' := by
  unfold Db.table Db.setTable
  rw [List.find?_map]
  have same : ((fun p : Entity × Table => p.1 == e') ∘ fun p => if p.1 == e then (e, t) else p) =
      fun p => p.1 == e' := by
    funext p
    by_cases hp : p.1 = e <;> simp [hp]
  rw [same, Option.map_map]
  congr 1
  apply Option.map_congr
  intro p found
  have : p.1 = e' := by simpa using List.find?_some found
  simp [this, ne]

theorem hasSetTable {db : Db} {e e' : Entity} (t : Table) (h : ∃ t₀, (e', t₀) ∈ db.tables) :
    ∃ t', (e', t') ∈ (db.setTable e t).tables := by
  obtain ⟨t₀, mem⟩ := h
  by_cases same : e' = e
  · subst same
    exact setTableHas t ⟨t₀, mem⟩
  · exact ⟨t₀, List.mem_map.mpr ⟨_, mem, by simp [same]⟩⟩

theorem readySetOther {db : Db} {e : Entity} (t : Table) (ne : e ≠ .systemLog) (ready : LogReady db) :
    LogReady (db.setTable e t) ∧ (db.setTable e t).table .systemLog = db.table .systemLog := by
  have log : (db.setTable e t).table .systemLog = db.table .systemLog := tableSetOther t (Ne.symm ne)
  refine ⟨⟨hasSetTable t ready.table, fun row mem => ?_⟩, log⟩
  unfold Db.rows at mem
  rw [log] at mem ⊢
  exact ready.keys row mem

theorem storeStep {α : Type} {r : Except DbError (Db × α)} (g : α → Obj) {w w₁ : World} {o₁ : Obj}
    (h : (App.ofDb r >>= fun x => do App.setDb x.1; pure (g x.2)) w = .ok o₁ w₁) :
    ∃ db' a, r = .ok (db', a) ∧ o₁ = g a ∧ w₁ = { w with db := db' } := by
  rcases hr : r with f | ⟨db', a⟩
  · rw [hr] at h
    cases h
  · rw [hr] at h
    cases h
    exact ⟨db', a, rfl, rfl, rfl⟩

theorem readyAfterStore {db db' : Db} {e : Entity} (ne : e ≠ .systemLog) (ready : LogReady db)
    (sets : db' = db ∨ ∃ t, db' = db.setTable e t) :
    LogReady db' ∧ db'.table .systemLog = db.table .systemLog := by
  rcases sets with rfl | ⟨t, rfl⟩
  · exact ⟨ready, rfl⟩
  · exact readySetOther t ne ready

theorem writeFrame {o o₁ : Obj} {only : Option (List String)} {w w₁ : World}
    (h : App.write o only w = .ok o₁ w₁) (ne : o.entity ≠ .systemLog) (ready : LogReady w.db) :
    o₁.entity = o.entity ∧ o₁.changes = o.changes ∧ w₁ = { w with db := w₁.db } ∧ LogReady w₁.db ∧
      w₁.db.table .systemLog = w.db.table .systemLog := by
  rw [writeInSteps] at h
  unfold writeSteps at h
  rw [Listing.bindRun (show App.now w = .ok w.clock w from rfl)] at h
  dsimp only at h
  obtain ⟨same, -, kept⟩ := stampSame o only w.clock
  generalize stamp o only w.clock = o' at h same kept
  rcases hc : prepared o' o.model.fields only with f | cells
  · rw [hc] at h
    cases h
  rw [hc, Listing.bindRun (show App.ofExcept (.ok cells) w = .ok cells w from rfl),
    Listing.bindRun (show App.db w = .ok w.db w from rfl)] at h
  -- an update of the stored row, or an insert with or without a key
  have stored : ∃ db', (db' = w.db ∨ ∃ t, db' = w.db.setTable o'.entity t) ∧ w₁ = { w with db := db' } ∧
      o₁.entity = o'.entity ∧ o₁.changes = o'.changes := by
    rcases hk : o'.pk with _ | k
    · simp only [hk] at h
      obtain ⟨db', a, hi, rfl, rfl⟩ := storeStep (fun key => { o' with pk := some key, adding := false }) h
      exact ⟨db', .inr (insertSets hi), rfl, rfl, rfl⟩
    · simp only [hk] at h
      by_cases present : w.db.exists? o'.entity k = true
      · rw [if_pos present] at h
        obtain ⟨db', a, hu, rfl, rfl⟩ := storeStep (fun _ => { o' with pk := some k, adding := false }) h
        exact ⟨db', updateSets hu, rfl, rfl, rfl⟩
      · rw [if_neg present] at h
        obtain ⟨db', a, hi, rfl, rfl⟩ := storeStep (fun key => { o' with pk := some key, adding := false }) h
        exact ⟨db', .inr (insertSets hi), rfl, rfl, rfl⟩
  obtain ⟨db', sets, rfl, entity, changes⟩ := stored
  rw [same] at sets
  obtain ⟨ready', log⟩ := readyAfterStore ne ready sets
  exact ⟨entity.trans same, changes.trans kept, rfl, ready', log⟩

def auditLog (w : World) (message : String) (k : Nat) (doc : Except Fault Json) : LogEntry :=
  { level := .text "INFO", category := .text "audit", message := .text message,
    userId := ctxValue w "user_id", objectId := .int k, metadata := doc,
    requestId := ctxValue w "request_id" }

theorem auditEntryRun (message : String) (k : Nat) (doc : Except Fault Json) (w : World) :
    App.auditEntry message k doc w = .ok (auditLog w message k doc) w := rfl

theorem resolvedAuditUser (w : World) (message : String) (k : Nat) (doc : Except Fault Json) :
    (resolved (auditLog w message k doc) w).userId = ctxValue w "user_id" := by
  unfold resolved auditLog
  dsimp only
  split <;> rfl

def auditRows (w : World) (u : Value) (k : Nat) : Option (String × Except Fault Json) → List Row
  | some (message, .ok doc) =>
    if Db.fitsWord k then
      [{ pk := (w.db.table .systemLog).seq + 1,
         cells := logCells "INFO" "audit" message (Moment.utc w.clock).toUtc u (.int k) (metaDoc doc)
          (resolved (auditLog w message k (.ok doc)) w).requestId (resolved (auditLog w message k (.ok doc)) w).ip
          (resolved (auditLog w message k (.ok doc)) w).userAgent }]
    else []
  | _ => []

theorem objectKey (k : Nat) : objectColumn.prep (.int k) = .ok (.int k) := rfl

theorem countKey (k : Nat) : CountCell (.int k) ↔ Db.fitsWord k = true := by
  unfold CountCell
  constructor
  · rintro (h | ⟨n, h, -, fits⟩)
    · cases h
    · cases h
      exact fits
  · intro fits
    exact .inr ⟨k, rfl, Int.natCast_nonneg k, fits⟩

theorem auditEntryStep (w : World) (ready : LogReady w.db) {u : Value}
    (hu : userColumn.prep (ctxValue w "user_id") = .ok u) (cu : CountCell u) (message : String) (k : Nat)
    (doc : Except Fault Json) :
    ∃ w', App.quietly (do let e ← App.auditEntry message k doc; discard (App.logEntry e)) w = .ok () w' ∧
      Steps.StoreOnly w w' ∧ LogReady w'.db ∧ (logRows w').Perm (logRows w ++ auditRows w u k (some (message, doc))) := by
  have user : userColumn.prep (resolved (auditLog w message k doc) w).userId = .ok u := by
    rw [resolvedAuditUser]
    exact hu
  by_cases takes : (∃ d, doc = .ok d) ∧ Db.fitsWord k = true
  · obtain ⟨⟨d, rfl⟩, fits⟩ := takes
    obtain ⟨o, run⟩ := logEntryAppends (auditLog w message k (.ok d)) w rfl rfl rfl rfl user (objectKey k) cu
      ((countKey k).mpr fits) (readyFresh ready)
    exact ⟨_, by rw [Steps.quietlyRun, Listing.bindRun (auditEntryRun message k _ w), Steps.discardRun, run],
      by simp, by exact logRowsReady ready _,
      by simp only [auditRows, fits, if_true]; exact logRowsAppend ready _⟩
  · obtain ⟨f, run⟩ := logEntryFails (auditLog w message k doc) w rfl rfl rfl (fun ⟨⟨d, hd⟩, u₁, u₂, h₁, h₂, _, c₂, _⟩ => by
      rw [show (auditLog w message k doc).objectId = .int k from rfl, objectKey] at h₂
      cases h₂
      exact takes ⟨⟨d, hd⟩, (countKey k).mp c₂⟩)
    refine ⟨w, ?_, rfl, ready, ?_⟩
    · rw [Steps.quietlyRun, Listing.bindRun (auditEntryRun message k _ w), Steps.discardRun, run]
    · -- the entry is refused: its document failed, or its key does not fit
      have none : auditRows w u k (some (message, doc)) = [] := by
        rcases doc with f' | d
        · rfl
        · simp only [auditRows]
          rw [if_neg fun fits => takes ⟨⟨d, rfl⟩, fits⟩]
      rw [none, List.append_nil]

def storedIn (db : Db) (o : Obj) : Bool :=
  match o.pk with
  | some k => db.exists? o.entity k
  | none => false

def saveEntry (stored : Bool) (o : Obj) : Option (String × Except Fault Json) :=
  let name := o.model.name
  let k := o.pk.getD 0
  if !stored then
    some (s!"Created {name} (ID: {k})", .ok (.obj [("action", .str "create"), ("model", .str name), ("object_id", .int k)]))
  else
    match o.changes with
    | [] => none
    | ch => some (s!"Updated {name} (ID: {k})", (App.changesDoc ch).map fun c =>
        Json.obj [("action", .str "update"), ("model", .str name), ("object_id", .int k),
          ("changes", c), ("changed_fields", .arr (c.members.map (Json.str ·.1)))])

theorem saveEntryOf {a b : Obj} (entity : a.entity = b.entity) (key : a.pk = b.pk) (changes : a.changes = b.changes)
    (stored : Bool) : saveEntry stored a = saveEntry stored b := by
  unfold saveEntry Obj.model
  rw [entity, key, changes]

def auditStep (stored : Bool) (o : Obj) : App Unit :=
  match saveEntry stored o with
  | none => pure ()
  | some (message, doc) => App.quietly do
    let e ← App.auditEntry message (o.pk.getD 0) doc
    discard (App.logEntry e)

theorem saveRun (o : Obj) (only : Option (List String)) (w : World) (ne : o.entity ≠ .systemLog) :
    App.save o only w = (do
      let o₁ ← App.write (noted w.db (o.prepare w.clock)) only
      auditStep (storedIn w.db (noted w.db (o.prepare w.clock))) o₁
      pure o₁) w := by
  unfold App.save
  rw [Listing.bindRun (show App.now w = .ok w.clock w from rfl)]
  have logged : ((o.prepare w.clock).entity != .systemLog) = true := by
    rw [(prepareSame o w.clock).1]
    simpa using ne
  simp only [logged, if_true]
  rw [Listing.bindRun (noteChangesRun _ w), Listing.bindRun (show App.db w = .ok w.db w from rfl)]
  refine congrArg (fun k : Obj → App Obj => (App.write (noted w.db (o.prepare w.clock)) only >>= k) w)
    (funext fun o₁ => ?_)
  -- the code's branches are the entries `saveEntry` names, each followed by the answer
  unfold auditStep saveEntry
  change (if (!storedIn w.db (noted w.db (o.prepare w.clock))) = true then _ else _) = _
  cases storedIn w.db (noted w.db (o.prepare w.clock))
  · rfl
  · cases o₁.changes <;> rfl

theorem auditRowsStore {w : World} {db : Db} (log : db.table .systemLog = w.db.table .systemLog) (u : Value)
    (k : Nat) (entry : Option (String × Except Fault Json)) :
    auditRows { w with db } u k entry = auditRows w u k entry := by
  unfold auditRows
  rw [log]
  rfl

theorem auditStepRows (w : World) (ready : LogReady w.db) {u : Value}
    (hu : userColumn.prep (ctxValue w "user_id") = .ok u) (cu : CountCell u) (stored : Bool) (o : Obj) :
    ∃ w', auditStep stored o w = .ok () w' ∧ Steps.StoreOnly w w' ∧
      (logRows w').Perm (logRows w ++ auditRows w u (o.pk.getD 0) (saveEntry stored o)) := by
  unfold auditStep
  rcases saveEntry stored o with _ | ⟨message, doc⟩
  · exact ⟨w, rfl, rfl, by simp [auditRows]⟩
  · obtain ⟨w', run, only, -, rows⟩ := auditEntryStep w ready hu cu message (o.pk.getD 0) doc
    exact ⟨w', run, only, rows⟩

theorem saveAuditTrail (o : Obj) (only : Option (List String)) {w w' : World} {o' : Obj}
    (h : App.save o only w = .ok o' w') (ne : o.entity ≠ .systemLog) (ready : LogReady w.db) {u : Value}
    (hu : userColumn.prep (ctxValue w "user_id") = .ok u) (cu : CountCell u) :
    o'.entity = o.entity ∧ o'.changes = (noted w.db (o.prepare w.clock)).changes ∧ Steps.StoreOnly w w' ∧
      (logRows w').Perm (logRows w ++
        auditRows w u (o'.pk.getD 0) (saveEntry (storedIn w.db (noted w.db (o.prepare w.clock))) o')) := by
  rw [saveRun o only w ne] at h
  have kind : (noted w.db (o.prepare w.clock)).entity = o.entity :=
    (notedEntity _ _).1.trans (prepareSame o w.clock).1
  rcases hw : App.write (noted w.db (o.prepare w.clock)) only w with ⟨o₁, w₁⟩ | ⟨f, w₁⟩
  · rw [Listing.bindRun hw] at h
    obtain ⟨entity, changes, only₁, ready₁, log⟩ := writeFrame hw (kind ▸ ne) ready
    have hu₁ : userColumn.prep (ctxValue w₁ "user_id") = .ok u := by
      rw [only₁]
      exact hu
    obtain ⟨w₂, run, only₂, rows⟩ := auditStepRows w₁ ready₁ hu₁ cu
      (storedIn w.db (noted w.db (o.prepare w.clock))) o₁
    rw [Listing.bindRun run] at h
    cases h
    refine ⟨entity.trans kind, changes, Steps.storeOnlyTrans only₁ only₂, ?_⟩
    -- the write leaves the log as it was, so the audit row is the one the first store would get
    have same : logRows w₁ = logRows w := by
      unfold logRows Db.rows
      rw [log]
    rw [same, only₁, auditRowsStore log] at rows
    exact rows
  · have fails : (App.write (noted w.db (o.prepare w.clock)) only >>= fun o₁ => do
        auditStep (storedIn w.db (noted w.db (o.prepare w.clock))) o₁
        pure o₁) w = .error f w₁ := by
      show EStateM.bind _ _ w = _
      simp only [EStateM.bind, hw]
    rw [fails] at h
    cases h

theorem foldKeepsLog {β : Type} (f : Db → β → Db) (keeps : ∀ db x, (f db x).table .systemLog = db.table .systemLog)
    (xs : List β) (db : Db) : (xs.foldl f db).table .systemLog = db.table .systemLog := by
  induction xs generalizing db with
  | nil => rfl
  | cons x xs ih => rw [List.foldl_cons, ih, keeps]

theorem markAllReadLog (u : Row) (w : World) :
    ∃ w', Channels.markAllRead u w = .ok () w' ∧ Steps.StoreOnly w w' ∧ logRows w' = logRows w := by
  refine ⟨_, rfl, rfl, ?_⟩
  unfold logRows Db.rows
  apply congrArg Table.rows
  apply foldKeepsLog
  intro db r
  split
  · rename_i db' b hu
    rcases updateSets hu with rfl | ⟨t, rfl⟩
    · rfl
    · exact tableSetOther t (by decide)
  · rfl

theorem recordWritesAudited (w : World) (ready : LogReady w.db) {u : Value}
    (hu : userColumn.prep (ctxValue w "user_id") = .ok u) (cu : CountCell u) :
    (∀ (o : Obj) (only : Option (List String)) (o' : Obj) (w' : World), o.entity ≠ .systemLog →
      App.save o only w = .ok o' w' →
      o'.changes = (noted w.db (o.prepare w.clock)).changes ∧
        (logRows w').Perm (logRows w ++
          auditRows w u (o'.pk.getD 0) (saveEntry (storedIn w.db (noted w.db (o.prepare w.clock))) o'))) ∧
    ∀ r : Row, ∃ w', Channels.markAllRead r w = .ok () w' ∧ Steps.StoreOnly w w' ∧ logRows w' = logRows w := by
  refine ⟨fun o only o' w' ne h => ?_, fun r => markAllReadLog r w⟩
  obtain ⟨-, changes, -, rows⟩ := saveAuditTrail o only h ne ready hu cu
  exact ⟨changes, rows⟩

def newSite : Obj := { entity := .site, cells := [("domain", .text "example.com"), ("name", .text "example")] }

theorem newSiteAudited :
    LogReady ({} : World).db ∧ ∃ o' w', App.save newSite none {} = .ok o' w' ∧
      o'.changes = (noted ({} : World).db (newSite.prepare ({} : World).clock)).changes ∧
      (logRows w').Perm (logRows {} ++ auditRows {} .null (o'.pk.getD 0)
        (saveEntry (storedIn ({} : World).db (noted ({} : World).db (newSite.prepare ({} : World).clock))) o')) :=
  ⟨emptyReady, _, _, rfl, (recordWritesAudited {} emptyReady rfl (.inl rfl)).1 newSite none _ _ (by decide) rfl⟩

def aliceRow : Row := ⟨1, [("username", .text "alice")]⟩

def inboxDb : Db :=
  { tables := [(.user, { rows := [aliceRow], seq := 1 }),
      (.notification, { rows := [⟨1, [("user", .int 1), ("title", .text "t"), ("message", .text "m"),
        ("level", .text "info"), ("is_read", .bool false), ("created_at", Value.now Instant.start),
        ("updated_at", Value.now Instant.start), ("data", .json (.obj []))]⟩], seq := 1 }),
      (.systemLog, {})],
    links := [] }

theorem markAllReadUnaudited :
    ∃ w', Channels.markAllRead aliceRow { db := inboxDb } = .ok () w' ∧
      (inboxDb.rows .notification).map (·.getBool "is_read") = [false] ∧
      (w'.db.rows .notification).map (·.getBool "is_read") = [true] ∧ logRows w' = [] := by
  refine ⟨_, rfl, rfl, ?_, rfl⟩
  decide

end Portal.AuditTrail
