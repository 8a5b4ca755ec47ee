import Mathlib
import Portal.Proofs.AuditTrail
/-! What saving a stored record does to the store. The save notes the record's changes, stamps its
clock fields, prepares each stored field's value for its column and sets the prepared cells on
the row of the record's key, leaving the row's other cells; the audit step after it replaces at
most the log's table, and a save that fails leaves the world as it was. -/
namespace Portal.StoreUpdate
open LogStore RequestLog AuditTrail Std.Do
set_option mvcgen.warning false

theorem findReplaced (cells : List (String × Value)) (m n : String) (v : Value) :
    (cells.map fun p => if p.1 == m then (m, v) else p).find? (·.1 == n) =
      (cells.find? (·.1 == n)).map fun p => if p.1 == m then (m, v) else p := by
  rw [List.find?_map]
  congr 2
  funext p
  by_cases h : p.1 = m <;> simp [h]

theorem rowSetSame (r : Row) {n : String} (v : Value) (hn : n ≠ "id") : (r.set n v).get n = v := by
  unfold Row.set Row.get
  simp only [hn, if_false]
  split
  · rename_i present
    rw [findReplaced]
    obtain ⟨q, hq⟩ : ∃ q, r.cells.find? (·.1 == n) = some q := by
      obtain ⟨p, mem, key⟩ := List.any_eq_true.mp present
      exact Option.isSome_iff_exists.mp (List.find?_isSome.mpr ⟨p, mem, key⟩)
    have key : q.1 = n := by simpa using List.find?_some hq
    simp [hq, key]
  · rename_i absent
    have none : r.cells.find? (·.1 == n) = none := by
      rw [List.find?_eq_none]
      intro p mem key
      exact absent (List.any_eq_true.mpr ⟨p, mem, key⟩)
    simp [List.find?_append, none]

theorem rowSetOther (r : Row) {m n : String} (v : Value) (h : m ≠ n) : (r.set m v).get n = r.get n := by
  unfold Row.set Row.get
  split
  · rfl
  · split
    · rw [findReplaced]
      rcases hq : r.cells.find? (·.1 == n) with _ | q
      · rw [hq]
        rfl
      · have key : q.1 = n := by simpa using List.find?_some hq
        simp [hq, key, Ne.symm h]
    · simp [List.find?_append, h]

@[simp] theorem rowGetKey (r : Row) : r.get "id" = .int r.pk := rfl

@[simp] theorem rowSetPk (r : Row) (n : String) (v : Value) : (r.set n v).pk = r.pk := rfl

def setCells (row : Row) (cells : List (String × Value)) : Row := cells.foldl (fun r p => r.set p.1 p.2) row

@[simp] theorem setCellsPk (row : Row) (cells : List (String × Value)) : (setCells row cells).pk = row.pk := by
  induction cells generalizing row with
  | nil => rfl
  | cons c cs ih => exact ih (row.set c.1 c.2)

theorem setCellsOther (row : Row) (cells : List (String × Value)) {n : String} (h : n ∉ cells.map (·.1)) :
    (setCells row cells).get n = row.get n := by
  induction cells generalizing row with
  | nil => rfl
  | cons c cs ih =>
    simp only [List.map_cons, List.mem_cons, not_or] at h
    show (setCells (row.set c.1 c.2) cs).get n = _
    rw [ih _ h.2, rowSetOther _ _ (Ne.symm h.1)]

def PreparedCell (o : Obj) (f : Field) (c : String × Value) : Prop :=
  c.1 = f.name ∧ f.prep (o.get f.name) = .ok c.2

theorem preparedSteps {o : Obj} {touched : Field → Bool} (fs : List Field) {acc cells : List (String × Value)}
    (h : fs.foldlM (prepStep o touched) acc = .ok cells) :
    ∃ rest, cells = acc ++ rest ∧
      List.Forall₂ (PreparedCell o) (fs.filter fun f => f.kind != .serial && touched f) rest := by
  induction fs generalizing acc with
  | nil =>
    cases h
    exact ⟨[], by simp, .nil⟩
  | cons f fs ih =>
    rw [List.foldlM_cons] at h
    unfold prepStep at h
    by_cases keep : (f.kind != .serial && touched f) = true
    · rw [if_pos keep] at h
      rcases hp : f.prep (o.get f.name) with e | v
      · rw [hp] at h
        cases h
      · rw [hp] at h
        obtain ⟨rest, rfl, all⟩ := @ih (acc ++ [(f.name, v)]) h
        refine ⟨(f.name, v) :: rest, by simp, ?_⟩
        rw [List.filter_cons, if_pos keep]
        exact .cons ⟨rfl, hp⟩ all
    · rw [if_neg keep] at h
      obtain ⟨rest, rfl, all⟩ := @ih acc h
      refine ⟨rest, rfl, ?_⟩
      rw [List.filter_cons, if_neg keep]
      exact all

theorem preparedCells {o : Obj} {fs : List Field} {only : Option (List String)} {cells : List (String × Value)}
    (h : prepared o fs only = .ok cells) :
    List.Forall₂ (PreparedCell o) (fs.filter fun f => f.kind != .serial && touches only f) cells := by
  obtain ⟨rest, rfl, all⟩ := preparedSteps fs h
  simpa using all

theorem preparedNames {o : Obj} {fs : List Field} {cells : List (String × Value)}
    (h : List.Forall₂ (PreparedCell o) fs cells) : cells.map (·.1) = fs.map Field.name := by
  induction h with
  | nil => rfl
  | cons hc _ ih => simp [hc.1, ih]

theorem setPreparedGet {o : Obj} {fs : List Field} {cells : List (String × Value)}
    (h : List.Forall₂ (PreparedCell o) fs cells) (names : (fs.map Field.name).Nodup) (row : Row)
    {f : Field} (hf : f ∈ fs) (notKey : f.name ≠ "id") :
    ∃ v, f.prep (o.get f.name) = .ok v ∧ (setCells row cells).get f.name = v := by
  induction h generalizing row with
  | nil => cases hf
  | @cons g c gs cs hc rest ih =>
    rw [List.map_cons, List.nodup_cons] at names
    show ∃ v, _ ∧ (setCells (row.set c.1 c.2) cs).get f.name = v
    rcases List.mem_cons.mp hf with rfl | inner
    · -- the field's own cell is the last to set its name
      have later : f.name ∉ cs.map (·.1) := by
        rw [preparedNames rest]
        exact names.1
      refine ⟨c.2, hc.2, ?_⟩
      rw [setCellsOther _ _ later, hc.1, rowSetSame _ _ notKey]
    · exact ih names.2 _ inner

theorem updateRows {db db' : Db} {e : Entity} {k : Nat} {cells : List (String × Value)} {b : Bool} {old : Row}
    (found : db.find? e k = some old) (h : db.update e k cells = .ok (db', b)) :
    db' = db.setTable e { db.table e with
      rows := (db.table e).rows.map fun x => if x.pk == k then setCells old cells else x } := by
  unfold Db.update at h
  rw [found] at h
  dsimp only at h
  split at h
  · cases h
  · cases h
    rfl

theorem tableOfRow {db : Db} {e : Entity} {row : Row} (h : row ∈ db.rows e) : ∃ t, (e, t) ∈ db.tables := by
  unfold Db.rows Db.table at h
  rcases hf : db.tables.find? (·.1 == e) with _ | p
  · rw [hf] at h
    cases h
  · have key : p.1 = e := by simpa using List.find?_some hf
    exact ⟨p.2, key ▸ List.mem_of_find?_eq_some hf⟩

theorem foundOfRow {db : Db} {e : Entity} {row : Row} (h : row ∈ db.rows e) :
    ∃ old, db.find? e row.pk = some old ∧ old.pk = row.pk := by
  unfold Db.find?
  have present : ((db.rows e).find? (·.pk == row.pk)).isSome :=
    List.find?_isSome.mpr ⟨row, h, beq_self_eq_true row.pk⟩
  obtain ⟨old, hold⟩ := Option.isSome_iff_exists.mp present
  exact ⟨old, hold, by simpa using List.find?_some hold⟩

def storeCells (o : Obj) (cells : List (String × Value)) : App Obj := do
  let db ← App.db
  match o.pk with
  | some k =>
    if db.exists? o.entity k then
      let (db', _) ← App.ofDb (db.update o.entity k cells)
      App.setDb db'
      return { o with adding := false }
    else
      let (db', key) ← App.ofDb (db.insert o.entity cells (some k))
      App.setDb db'
      return { o with pk := some key, adding := false }
  | none =>
    let (db', key) ← App.ofDb (db.insert o.entity cells)
    App.setDb db'
    return { o with pk := some key, adding := false }

theorem writeRun {o o₁ : Obj} {only : Option (List String)} {w w₁ : World}
    (h : App.write o only w = .ok o₁ w₁) :
    ∃ cells, prepared (stamp o only w.clock) o.model.fields only = .ok cells ∧
      storeCells (stamp o only w.clock) cells w = .ok o₁ w₁ := by
  rw [writeInSteps] at h
  unfold writeSteps at h
  rw [Listing.bindRun (show App.now w = .ok w.clock w from rfl)] at h
  dsimp only at h
  rcases hc : prepared (stamp o only w.clock) o.model.fields only with f | cells
  · rw [hc] at h
    cases h
  rw [hc, Listing.bindRun (show App.ofExcept (.ok cells) w = .ok cells w from rfl)] at h
  exact ⟨cells, rfl, h⟩

theorem writeStored {o o₁ : Obj} {w w₁ : World} {k : Nat} (hk : o.pk = some k)
    (stored : w.db.exists? o.entity k = true) (h : App.write o none w = .ok o₁ w₁) :
    ∃ cells, prepared (stamp o none w.clock) o.model.fields none = .ok cells ∧
      ∃ b, w.db.update o.entity k cells = .ok (w₁.db, b) ∧ w₁ = { w with db := w₁.db } ∧ o₁.pk = some k := by
  obtain ⟨cells, prep, h⟩ := writeRun h
  obtain ⟨same, key, -⟩ := stampSame o none w.clock
  unfold storeCells at h
  rw [Listing.bindRun (show App.db w = .ok w.db w from rfl), key, hk, same] at h
  simp only [stored, if_true] at h
  obtain ⟨db', b, hu, rfl, rfl⟩ := storeStep (fun _ : Bool =>
    Obj.mk o.entity (some k) (stamp o none w.clock).cells false (stamp o none w.clock).changes) h
  exact ⟨cells, prep, b, hu, rfl, rfl⟩

theorem writeSets {o o₁ : Obj} {only : Option (List String)} {w w₁ : World}
    (h : App.write o only w = .ok o₁ w₁) :
    w₁ = { w with db := w₁.db } ∧ (w₁.db = w.db ∨ ∃ t, w₁.db = w.db.setTable o.entity t) := by
  obtain ⟨cells, -, h⟩ := writeRun h
  obtain ⟨same, -, -⟩ := stampSame o only w.clock
  generalize stamp o only w.clock = o' at h same
  unfold storeCells at h
  rw [Listing.bindRun (show App.db w = .ok w.db w from rfl)] at h
  rw [← same]
  -- an update of the stored row, or an insert with or without a key
  rcases hk : o'.pk with _ | k
  · simp only [hk] at h
    obtain ⟨db', a, hi, -, rfl⟩ := storeStep (fun key => { o' with pk := some key, adding := false }) h
    exact ⟨rfl, .inr (insertSets hi)⟩
  · simp only [hk] at h
    by_cases present : w.db.exists? o'.entity k = true
    · rw [if_pos present] at h
      obtain ⟨db', a, hu, -, rfl⟩ := storeStep (fun _ => { o' with pk := some k, adding := false }) h
      exact ⟨rfl, updateSets hu⟩
    · rw [if_neg present] at h
      obtain ⟨db', a, hi, -, rfl⟩ := storeStep (fun key => { o' with pk := some key, adding := false }) h
      exact ⟨rfl, .inr (insertSets hi)⟩

theorem logEntrySets (e : LogEntry) (w : World) :
    match App.logEntry e w with
    | .ok _ w' => w' = { w with db := w'.db } ∧ (w'.db = w.db ∨ ∃ t, w'.db = w.db.setTable .systemLog t)
    | .error _ w' => w' = w := by
  rw [logEntryRun]
  unfold logResult
  rcases (resolved e w).metadata with f | m
  · exact rfl
  · dsimp only
    have kept := Answers.runOfTriple (Steps.writeSpec (logObj (resolved e w) w.clock (.json (metaDoc m))) none w)
    rcases hw : App.write (logObj (resolved e w) w.clock (.json (metaDoc m))) none w with ⟨o₁, w₁⟩ | ⟨f, w₁⟩
    · exact writeSets hw
    · rw [hw] at kept
      exact kept.1

theorem auditStepSets (stored : Bool) (o : Obj) (w : World) :
    ∃ w', auditStep stored o w = .ok () w' ∧ w' = { w with db := w'.db } ∧
      (w'.db = w.db ∨ ∃ t, w'.db = w.db.setTable .systemLog t) := by
  unfold auditStep
  rcases saveEntry stored o with _ | ⟨message, doc⟩
  · exact ⟨w, rfl, rfl, .inl rfl⟩
  dsimp only
  rw [Steps.quietlyRun, Listing.bindRun (auditEntryRun message _ doc w), Steps.discardRun]
  have sets := logEntrySets (auditLog w message (o.pk.getD 0) doc) w
  rcases hl : App.logEntry (auditLog w message (o.pk.getD 0) doc) w with ⟨o₁, w₁⟩ | ⟨f, w₁⟩
  · rw [hl] at sets
    exact ⟨w₁, rfl, sets⟩
  · rw [hl] at sets
    subst sets
    exact ⟨_, rfl, rfl, .inl rfl⟩

theorem saveStored {o o' : Obj} {w w' : World} {k : Nat} (ne : o.entity ≠ .systemLog) (hk : o.pk = some k)
    (stored : w.db.exists? o.entity k = true) (h : App.save o none w = .ok o' w') :
    ∃ cells, prepared (stamp (noted w.db (o.prepare w.clock)) none w.clock) o.model.fields none = .ok cells ∧
      ∃ db₁ b, w.db.update o.entity k cells = .ok (db₁, b) ∧ w' = { w with db := w'.db } ∧
        (w'.db = db₁ ∨ ∃ t, w'.db = db₁.setTable .systemLog t) ∧ o'.pk = some k := by
  rw [saveRun o none w ne] at h
  have entity : (noted w.db (o.prepare w.clock)).entity = o.entity :=
    (notedEntity _ _).1.trans (prepareSame o w.clock).1
  have key : (noted w.db (o.prepare w.clock)).pk = o.pk :=
    (notedEntity _ _).2.trans (prepareSame o w.clock).2.1
  have fields : (noted w.db (o.prepare w.clock)).model.fields = o.model.fields := by
    show (noted w.db (o.prepare w.clock)).entity.model.fields = o.entity.model.fields
    rw [entity]
  rcases hw : App.write (noted w.db (o.prepare w.clock)) none w with ⟨o₁, w₁⟩ | ⟨f, w₁⟩
  · rw [Listing.bindRun hw] at h
    obtain ⟨cells, prep, b, upd, only₁, answered⟩ := writeStored (key.trans hk) (entity ▸ stored) hw
    obtain ⟨w₂, run, only₂, sets⟩ := auditStepSets (storedIn w.db (noted w.db (o.prepare w.clock))) o₁ w₁
    rw [Listing.bindRun run] at h
    cases h
    refine ⟨cells, fields ▸ prep, w₁.db, b, entity ▸ upd, ?_, sets, answered⟩
    rw [only₂, only₁]
  · have fails : (App.write (noted w.db (o.prepare w.clock)) none >>= fun o₁ => do
        auditStep (storedIn w.db (noted w.db (o.prepare w.clock))) o₁
        pure o₁) w = .error f w₁ := by
      show EStateM.bind _ _ w = _
      simp only [EStateM.bind, hw]
    rw [fails] at h
    cases h

theorem ofRowSet (e : Entity) (r : Row) {n : String} (v : Value) (hn : n ≠ "id") :
    (Obj.ofRow e r).set n v = Obj.ofRow e (r.set n v) := by
  unfold Obj.set Obj.ofRow Row.set
  simp [hn]

theorem notedChanges (db : Db) (o : Obj) : ∃ ch, noted db o = { o with changes := ch } := by
  unfold noted
  split
  · exact ⟨o.changes, rfl⟩
  · split
    · exact ⟨o.changes, rfl⟩
    · dsimp only
      split
      · exact ⟨o.changes, rfl⟩
      · exact ⟨_, rfl⟩

@[simp] theorem setAdding (o : Obj) (n : String) (v : Value) : (o.set n v).adding = o.adding := by
  unfold Obj.set
  split <;> rfl

theorem saveFailsSpec (o : Obj) (only : Option (List String)) (w₀ : World) :
    ⦃fun s => ⌜s = w₀⌝⦄ App.save o only ⦃post⟨fun _ _ => ⌜True⌝, fun _ s => ⌜s = w₀⌝⟩⦄ := by
  unfold App.save
  mvcgen [App.noteChanges, App.db, App.now]
  all_goals grind

theorem saveRunSpec (o : Obj) (w₀ : World) :
    ⦃fun s => ⌜s = w₀⌝⦄ App.save o none
    ⦃post⟨fun o' s => ⌜App.save o none w₀ = .ok o' s⌝,
      fun f s => ⌜App.save o none w₀ = .error f s ∧ s = w₀⌝⟩⦄ := by
  intro s h
  have fails := Answers.runOfTriple (saveFailsSpec o none w₀)
  simp only [wp, PredTrans.apply, EStateM.run] at h fails ⊢
  subst h
  split <;> simp_all

end Portal.StoreUpdate
