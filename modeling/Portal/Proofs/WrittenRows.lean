import Mathlib
import Portal.Proofs.StoreUpdate
/-! What a save writes into its record's table. A save that succeeds stores one row, `row`, in the
table of the record's kind: over the stored row of the record's key, whose fields outside a
limited write stay as they were, or under a fresh key, the counter's next one when the record has
none. Every field it stores holds the record's value as the column prepares it, after the kind's
own rules and the clock stamps; every other row of the table stays, and no other table but the log
changes. A save that fails leaves the world as it was. Main statement: `saveWrites`. -/
namespace Portal.WrittenRows
open LogStore AuditTrail StoreUpdate Std.Do

theorem objGetRow (o : Obj) {n : String} (hn : n ≠ "id") : o.get n = (⟨0, o.cells⟩ : Row).get n := by
  unfold Obj.get Row.get
  simp [hn]

theorem textBeq (v : Value) (s : String) : (v == .text s) = true ↔ v = .text s := by
  cases v <;> simp [BEq.beq, Value.beq]

@[simp] theorem objGetSet (o : Obj) {n : String} (v : Value) (hn : n ≠ "id") : (o.set n v).get n = v := by
  have cells : (o.set n v).cells = ((⟨0, o.cells⟩ : Row).set n v).cells := by
    unfold Obj.set Row.set
    simp [hn]
  rw [objGetRow _ hn, show (⟨0, (o.set n v).cells⟩ : Row) = (⟨0, o.cells⟩ : Row).set n v by
    rw [cells]; rfl]
  exact rowSetSame _ _ hn

theorem objGetSetOther (o : Obj) {m n : String} (v : Value) (h : m ≠ n) : (o.set m v).get n = o.get n := by
  by_cases key : m = "id"
  · -- setting the key leaves every cell
    subst key
    unfold Obj.set Obj.get
    simp [Ne.symm h]
  · have cells : (o.set m v).cells = ((⟨0, o.cells⟩ : Row).set m v).cells := by
      unfold Obj.set Row.set
      simp [key]
    by_cases hn : n = "id"
    · subst hn
      unfold Obj.get
      simp [setSame o v key |>.2.1]
    · rw [objGetRow _ hn, objGetRow _ hn, show (⟨0, (o.set m v).cells⟩ : Row) = (⟨0, o.cells⟩ : Row).set m v by
        rw [cells]; rfl]
      exact rowSetOther _ _ h

@[simp] theorem setEntity (o : Obj) (n : String) (v : Value) : (o.set n v).entity = o.entity := by
  unfold Obj.set
  split <;> rfl

@[simp] theorem setPk (o : Obj) {n : String} (v : Value) (hn : n ≠ "id") : (o.set n v).pk = o.pk :=
  (setSame o v hn).2.1

theorem stampGet (o : Obj) (only : Option (List String)) (now : Instant) {n : String}
    (h : ∀ f ∈ o.model.fields, (f.autoNow || f.autoNowAdd) = true → f.name ≠ n) :
    (stamp o only now).get n = o.get n := by
  unfold stamp
  suffices ∀ (fs : List Field) (x : Obj), (∀ f ∈ fs, (f.autoNow || f.autoNowAdd) = true → f.name ≠ n) →
      (fs.foldl (fun o f =>
        if (touches only f && (f.autoNow || f.autoNowAdd && o.adding)) = true then o.set f.name (Value.now now)
        else o) x).get n = x.get n from this _ o h
  intro fs
  induction fs with
  | nil => exact fun x _ => rfl
  | cons f fs ih =>
    intro x named
    rw [List.foldl_cons, ih _ fun g mem => named g (List.mem_cons_of_mem f mem)]
    split
    · rename_i stamped
      apply objGetSetOther
      apply named f List.mem_cons_self
      simp only [Bool.and_eq_true, Bool.or_eq_true] at stamped ⊢
      tauto
    · rfl

theorem notedGet (db : Db) (o : Obj) (n : String) : (noted db o).get n = o.get n := by
  obtain ⟨ch, same⟩ := notedChanges db o
  rw [same]
  rfl

@[simp] theorem notedAdding (db : Db) (o : Obj) : (noted db o).adding = o.adding := by
  obtain ⟨ch, same⟩ := notedChanges db o
  rw [same]

theorem fieldNamesNodup (e : Entity) : (e.model.fields.map Field.name).Nodup := by
  cases e <;> (try rename_i b; cases b) <;> decide

theorem storedNamesNodup (e : Entity) (only : Option (List String)) :
    ((e.model.fields.filter fun f => f.kind != .serial && touches only f).map Field.name).Nodup :=
  (fieldNamesNodup e).sublist (List.Sublist.map _ List.filter_sublist)


/-- Rows `rows'` are `rows` with `row` written: the rows of its key give way to it, and every
other row stays. -/
structure Replaces (rows rows' : List Row) (row : Row) : Prop where
  within : ∀ x ∈ rows', x = row ∨ (x ∈ rows ∧ x.pk ≠ row.pk)
  kept : ∀ x ∈ rows, x.pk ≠ row.pk → x ∈ rows'

theorem replacesMap (rows : List Row) (row : Row) :
    Replaces rows (rows.map fun x => if x.pk == row.pk then row else x) row := by
  constructor
  · intro x mem
    obtain ⟨y, old, rfl⟩ := List.mem_map.mp mem
    by_cases same : y.pk = row.pk
    · simp [same]
    · simp only [beq_iff_eq, same, if_false]
      exact .inr ⟨old, same⟩
  · intro x old other
    exact List.mem_map.mpr ⟨x, old, by simp [other]⟩

theorem replacesInsert (rows : List Row) (row : Row) (fresh : ∀ x ∈ rows, x.pk ≠ row.pk) :
    Replaces rows (Db.placeRow row rows) row := by
  constructor
  · intro x mem
    rcases List.mem_append.mp ((LogStore.placeRowPerm _ _).subset mem) with old | new
    · exact .inr ⟨old, fresh x old⟩
    · exact .inl (List.mem_singleton.mp new)
  · intro x old _
    exact (LogStore.placeRowPerm _ _).symm.subset (List.mem_append_left _ old)

theorem setTableAbsent {db : Db} {e : Entity} (t : Table) (h : ¬∃ t₀, (e, t₀) ∈ db.tables) :
    db.setTable e t = db := by
  unfold Db.setTable
  congr 1
  conv => rhs; rw [← List.map_id db.tables]
  apply List.map_congr_left
  intro p mem
  have other : p.1 ≠ e := fun same => h ⟨p.2, same ▸ mem⟩
  simp [other]

theorem tableAbsent {db : Db} {e : Entity} (h : ¬∃ t₀, (e, t₀) ∈ db.tables) : db.rows e = [] := by
  unfold Db.rows Db.table
  rcases found : db.tables.find? (·.1 == e) with _ | p
  · rw [found]
    rfl
  · have key : p.1 = e := by simpa using List.find?_some found
    exact absurd ⟨p.2, key ▸ List.mem_of_find?_eq_some found⟩ h

theorem setTableRows {db : Db} {e : Entity} {t : Table} {row : Row} (h : Replaces (db.rows e) t.rows row) :
    Replaces (db.rows e) ((db.setTable e t).rows e) row := by
  by_cases present : ∃ t₀, (e, t₀) ∈ db.tables
  · unfold Db.rows
    rw [tableSet t present]
    exact h
  · rw [setTableAbsent t present, tableAbsent present]
    constructor <;> simp

theorem preparedRowGet {o : Obj} {fs : List Field} {cells : List (String × Value)}
    (h : List.Forall₂ (PreparedCell o) fs cells) (names : (fs.map Field.name).Nodup) (k : Nat)
    {f : Field} (hf : f ∈ fs) (notKey : f.name ≠ "id") :
    ∃ v, f.prep (o.get f.name) = .ok v ∧ (⟨k, cells⟩ : Row).get f.name = v := by
  induction h with
  | nil => cases hf
  | @cons g c gs cs hc rest ih =>
    rw [List.map_cons, List.nodup_cons] at names
    rcases List.mem_cons.mp hf with rfl | inner
    · refine ⟨c.2, hc.2, ?_⟩
      simp [Row.get, notKey, hc.1]
    · obtain ⟨v, hv, got⟩ := ih names.2 inner
      refine ⟨v, hv, ?_⟩
      have other : c.1 ≠ f.name := by
        rw [hc.1]
        exact fun same => names.1 (same ▸ List.mem_map_of_mem inner)
      simpa [Row.get, notKey, other] using got


theorem insertWrites {db db' : Db} {e : Entity} {cells : List (String × Value)} {pk : Option Nat} {key : Nat}
    (h : db.insert e cells pk = .ok (db', key)) :
    key = pk.getD ((db.table e).seq + 1) ∧ (∀ x ∈ db.rows e, x.pk ≠ key) ∧ db.violation e key cells = none ∧
      db' = db.setTable e { rows := Db.placeRow ⟨key, cells⟩ (db.rows e)
                            seq := max (db.table e).seq key } := by
  unfold Db.insert at h
  dsimp only at h
  split_ifs at h with taken
  split at h
  · cases h
  · rename_i checked
    cases h
    refine ⟨rfl, fun x mem same => ?_, checked, rfl⟩
    have found : ((db.rows e).find? (·.pk == pk.getD ((db.table e).seq + 1))).isSome :=
      List.find?_isSome.mpr ⟨x, mem, by simp [same]⟩
    exact taken found

theorem setTableFrame (db : Db) (e : Entity) (t : Table) :
    (db.setTable e t).links = db.links ∧ (db.setTable e t).raw = db.raw ∧
      (∀ e', e' ≠ e → (db.setTable e t).table e' = db.table e') ∧
      ∀ e', (∃ t₀, (e', t₀) ∈ db.tables) → ∃ t', (e', t') ∈ (db.setTable e t).tables :=
  ⟨rfl, rfl, fun _ ne => tableSetOther t ne, fun _ has => hasSetTable t has⟩

/-- Cells `cells` stored into table `e` of `db` under the key `pk` names, as `db'`, leaving `row`: over
the stored row of that key, or as a new row under the key or the counter's next one. -/
structure CellsStored (db db' : Db) (e : Entity) (pk : Option Nat) (cells : List (String × Value))
    (row : Row) : Prop where
  rows : Replaces (db.rows e) (db'.rows e) row
  keyed : ((db.rows e).map Row.pk).Nodup → ((db'.rows e).map Row.pk).Nodup
  checked : db.violation e row.pk row.cells = none
  others : ∀ e', e' ≠ e → db'.table e' = db.table e'
  links : db'.links = db.links ∧ db'.raw = db.raw
  tables : ∀ e', (∃ t, (e', t) ∈ db.tables) → ∃ t, (e', t) ∈ db'.tables
  stored : ∀ k, pk = some k → db.exists? e k = true → ∃ old ∈ db.rows e, old.pk = k ∧
    row = setCells old cells ∧ row ∈ db'.rows e ∧ (db'.table e).seq = (db.table e).seq
  fresh : (∀ k, pk = some k → db.exists? e k = false) → row = ⟨pk.getD ((db.table e).seq + 1), cells⟩ ∧
    (∀ x ∈ db.rows e, x.pk ≠ row.pk) ∧
    ((row ∈ db'.rows e ∧ (db'.table e).seq = max (db.table e).seq row.pk) ∨ db'.table e = db.table e)

theorem insertStored {db db' : Db} {e : Entity} {cells : List (String × Value)} {pk : Option Nat} {key : Nat}
    (h : db.insert e cells pk = .ok (db', key)) (absent : ∀ k, pk = some k → db.exists? e k = false) :
    CellsStored db db' e pk cells ⟨key, cells⟩ := by
  obtain ⟨rfl, fresh, checked, rfl⟩ := insertWrites h
  obtain ⟨links, raw, others, tables⟩ := setTableFrame db e
    { rows := Db.placeRow ⟨pk.getD ((db.table e).seq + 1), cells⟩ (db.rows e)
      seq := max (db.table e).seq (pk.getD ((db.table e).seq + 1)) }
  refine ⟨setTableRows (replacesInsert _ _ fresh), fun keyed => ?_, checked, others, ⟨links, raw⟩, tables, ?_, ?_⟩
  · by_cases present : ∃ t₀, (e, t₀) ∈ db.tables
    · unfold Db.rows
      rw [tableSet _ present, ((LogStore.placeRowPerm _ _).map Row.pk).nodup_iff, List.map_append,
        List.nodup_append]
      refine ⟨keyed, List.nodup_singleton _, ?_⟩
      simp only [List.map_cons, List.map_nil, List.mem_singleton]
      rintro _ named _ rfl
      obtain ⟨x, mem, rfl⟩ := List.mem_map.mp named
      exact fresh x mem
    · rw [setTableAbsent _ present, tableAbsent present]
      exact List.nodup_nil
  · intro k hk stored
    rw [absent k hk] at stored
    cases stored
  · intro _
    refine ⟨rfl, fresh, ?_⟩
    -- a store without the table keeps no row of it
    by_cases present : ∃ t₀, (e, t₀) ∈ db.tables
    · left
      unfold Db.rows
      rw [tableSet _ present]
      exact ⟨(LogStore.placeRowPerm _ _).symm.subset (List.mem_append_right _ (List.mem_singleton_self _)), rfl⟩
    · right
      rw [setTableAbsent _ present]

theorem updateStored {db db' : Db} {e : Entity} {cells : List (String × Value)} {k : Nat} {b : Bool}
    (stored : db.exists? e k = true) (h : db.update e k cells = .ok (db', b)) :
    ∃ row, CellsStored db db' e (some k) cells row := by
  obtain ⟨old, found⟩ := Option.isSome_iff_exists.mp stored
  have mem : old ∈ db.rows e := List.mem_of_find?_eq_some found
  have key : old.pk = k := by simpa using List.find?_some found
  have db'Is := updateRows found h
  have checked : db.violation e (setCells old cells).pk (setCells old cells).cells = none := by
    unfold Db.update at h
    rw [found] at h
    dsimp only at h
    split at h
    · cases h
    · rename_i none
      rw [setCellsPk, key]
      exact none
  have present := tableOfRow mem
  obtain ⟨links, raw, others, tables⟩ := setTableFrame db e
    { db.table e with rows := (db.table e).rows.map fun x => if x.pk == k then setCells old cells else x }
  rw [← db'Is] at links raw others tables
  have rows : db'.rows e = (db.rows e).map fun x => if x.pk == (setCells old cells).pk then setCells old cells else x := by
    rw [setCellsPk, key, db'Is]
    unfold Db.rows
    rw [tableSet _ present]
  refine ⟨setCells old cells, ⟨?_, fun keyed => ?_, checked, others, ⟨links, raw⟩, tables, ?_, ?_⟩⟩
  · rw [rows]
    exact replacesMap _ _
  · -- the written row keeps the key of the rows it replaces
    rw [rows, List.map_map]
    convert keyed using 2
    funext x
    by_cases same : x.pk = (setCells old cells).pk
    · simp [same]
    · rw [setCellsPk] at same
      simp [same]
  · intro k' hk' _
    cases hk'
    refine ⟨old, mem, key, rfl, ?_, ?_⟩
    · rw [rows]
      exact List.mem_map.mpr ⟨old, mem, by simp [setCellsPk]⟩
    · rw [db'Is, tableSet _ present]
  · intro absent
    rw [absent k rfl] at stored
    cases stored

theorem storeCellsStored {o o₁ : Obj} {cells : List (String × Value)} {w w₁ : World}
    (h : storeCells o cells w = .ok o₁ w₁) :
    ∃ row, o₁.pk = some row.pk ∧ w₁ = { w with db := w₁.db } ∧ CellsStored w.db w₁.db o.entity o.pk cells row := by
  unfold storeCells at h
  rw [Listing.bindRun (show App.db w = .ok w.db w from rfl)] at h
  rcases hk : o.pk with _ | k
  · simp only [hk] at h
    obtain ⟨db', key, hi, rfl, rfl⟩ := storeStep (fun key => { o with pk := some key, adding := false }) h
    exact ⟨⟨key, cells⟩, rfl, rfl, insertStored hi (fun _ none => by cases none)⟩
  · simp only [hk] at h
    by_cases present : w.db.exists? o.entity k = true
    · rw [if_pos present] at h
      obtain ⟨db', b, hu, rfl, rfl⟩ := storeStep (fun _ => { o with pk := some k, adding := false }) h
      obtain ⟨row, stored⟩ := updateStored present hu
      obtain ⟨old, -, key, rfl, -⟩ := stored.stored k rfl present
      exact ⟨setCells old cells, by simp [setCellsPk, key], rfl, stored⟩
    · rw [if_neg present] at h
      obtain ⟨db', key, hi, rfl, rfl⟩ := storeStep (fun key => { o with pk := some key, adding := false }) h
      exact ⟨⟨key, cells⟩, rfl, rfl, insertStored hi fun k' same => by
        cases same; simpa using present⟩


def written (w : World) (o : Obj) (only : Option (List String)) : Obj :=
  stamp (noted w.db (o.prepare w.clock)) only w.clock

theorem writtenSame (w : World) (o : Obj) (only : Option (List String)) :
    (written w o only).entity = o.entity ∧ (written w o only).pk = o.pk := by
  have stamped := stampSame (noted w.db (o.prepare w.clock)) only w.clock
  have notes := notedEntity w.db (o.prepare w.clock)
  have rules := prepareSame o w.clock
  exact ⟨stamped.1.trans (notes.1.trans rules.1), stamped.2.1.trans (notes.2.trans rules.2.1)⟩

/-- What a save of `o` from `w` that ended in `w'` wrote: the row `row` holding the written record,
over the stored row of its key or under a fresh key, with the log as the only other table touched. -/
structure Wrote (w w' : World) (o : Obj) (only : Option (List String)) (row : Row) : Prop where
  world : w' = { w with db := w'.db }
  links : w'.db.links = w.db.links ∧ w'.db.raw = w.db.raw
  rows : Replaces (w.db.rows o.entity) (w'.db.rows o.entity) row
  keyed : ((w.db.rows o.entity).map Row.pk).Nodup → ((w'.db.rows o.entity).map Row.pk).Nodup
  checked : w.db.violation o.entity row.pk row.cells = none
  others : ∀ e, e ≠ o.entity → e ≠ .systemLog → w'.db.table e = w.db.table e
  tables : ∀ e, (∃ t, (e, t) ∈ w.db.tables) → ∃ t, (e, t) ∈ w'.db.tables
  cells : ∀ f ∈ o.entity.model.fields, f.kind ≠ .serial → touches only f = true → f.name ≠ "id" →
    ∃ v, f.prep ((written w o only).get f.name) = .ok v ∧ row.get f.name = v
  stored : storedIn w.db o = true → o.pk = some row.pk ∧ row ∈ w'.db.rows o.entity ∧
    (w'.db.table o.entity).seq = (w.db.table o.entity).seq ∧ ∃ old ∈ w.db.rows o.entity, old.pk = row.pk ∧
      ∀ n, (∀ f ∈ o.entity.model.fields, f.kind ≠ .serial → touches only f = true → f.name ≠ n) →
        row.get n = old.get n
  fresh : storedIn w.db o = false → row.pk = o.pk.getD ((w.db.table o.entity).seq + 1) ∧
    (∀ x ∈ w.db.rows o.entity, x.pk ≠ row.pk) ∧
    ((row ∈ w'.db.rows o.entity ∧ (w'.db.table o.entity).seq = max (w.db.table o.entity).seq row.pk) ∨
      w'.db.table o.entity = w.db.table o.entity)

theorem logStepFrame {db db' : Db} (sets : db' = db ∨ ∃ t, db' = db.setTable .systemLog t) :
    db'.links = db.links ∧ db'.raw = db.raw ∧ (∀ e, e ≠ .systemLog → db'.table e = db.table e) ∧
      ∀ e, (∃ t, (e, t) ∈ db.tables) → ∃ t, (e, t) ∈ db'.tables := by
  rcases sets with rfl | ⟨t, rfl⟩
  · exact ⟨rfl, rfl, fun _ _ => rfl, fun _ has => has⟩
  · exact setTableFrame db .systemLog t

theorem untouchedKept {o : Obj} {fs : List Field} {only : Option (List String)} {cells : List (String × Value)}
    (h : List.Forall₂ (PreparedCell o) (fs.filter fun f => f.kind != .serial && touches only f) cells)
    (old : Row) {n : String} (free : ∀ f ∈ fs, f.kind ≠ .serial → touches only f = true → f.name ≠ n) :
    (setCells old cells).get n = old.get n := by
  apply setCellsOther
  rw [preparedNames h]
  intro named
  obtain ⟨f, mem, rfl⟩ := List.mem_map.mp named
  have kept := List.mem_filter.mp mem
  simp only [Bool.and_eq_true, bne_iff_ne, ne_eq] at kept
  exact free f kept.1 kept.2.1 kept.2.2 rfl

theorem saveWrites {o o' : Obj} {only : Option (List String)} {w w' : World} (ne : o.entity ≠ .systemLog)
    (h : App.save o only w = .ok o' w') : ∃ row, o'.pk = some row.pk ∧ Wrote w w' o only row := by
  rw [saveRun o only w ne] at h
  obtain ⟨entity, key⟩ := writtenSame w o only
  rcases hw : App.write (noted w.db (o.prepare w.clock)) only w with ⟨o₁, w₁⟩ | ⟨f, w₁⟩
  · rw [Listing.bindRun hw] at h
    obtain ⟨w₂, run, only₂, sets⟩ := auditStepSets (storedIn w.db (noted w.db (o.prepare w.clock))) o₁ w₁
    rw [Listing.bindRun run] at h
    cases h
    obtain ⟨cells, prep, store⟩ := writeRun hw
    have fields : (noted w.db (o.prepare w.clock)).model.fields = o.entity.model.fields := by
      show (noted w.db (o.prepare w.clock)).entity.model.fields = _
      rw [(notedEntity _ _).1, (prepareSame o w.clock).1]
    rw [fields] at prep
    have all := preparedCells prep
    obtain ⟨row, rowKey, only₁, stored⟩ := storeCellsStored store
    change CellsStored w.db w₁.db (written w o only).entity (written w o only).pk cells row at stored
    rw [entity, key] at stored
    obtain ⟨links, raw, logOthers, logTables⟩ := logStepFrame sets
    have sameRows : w'.db.rows o.entity = w₁.db.rows o.entity := by
      unfold Db.rows
      rw [logOthers _ ne]
    refine ⟨row, rowKey, ⟨?_, ⟨links.trans stored.links.1, raw.trans stored.links.2⟩, sameRows ▸ stored.rows,
      fun keyed => sameRows ▸ stored.keyed keyed, stored.checked, fun e other notLog => (logOthers e notLog).trans (stored.others e other),
      fun e has => logTables e (stored.tables e has), ?_, fun isStored => ?_, fun isNew => ?_⟩⟩
    · rw [only₂, only₁]
    · intro f mem notSerial touched notKey
      have chosen : f ∈ o.entity.model.fields.filter fun f => f.kind != .serial && touches only f := by
        simp [mem, notSerial, touched]
      by_cases present : storedIn w.db o = true
      · obtain ⟨k, hk⟩ : ∃ k, o.pk = some k := by
          unfold storedIn at present
          split at present
          · exact ⟨_, ‹_›⟩
          · cases present
        have exists' : w.db.exists? o.entity k = true := by simpa [storedIn, hk] using present
        obtain ⟨old, -, -, rfl, -⟩ := stored.stored k hk exists'
        exact setPreparedGet all (storedNamesNodup o.entity only) old chosen notKey
      · obtain ⟨rfl, -⟩ := stored.fresh fun k hk => by simpa [storedIn, hk] using present
        exact preparedRowGet all (storedNamesNodup o.entity only) _ chosen notKey
    · obtain ⟨k, hk⟩ : ∃ k, o.pk = some k := by
        unfold storedIn at isStored
        split at isStored
        · exact ⟨_, ‹_›⟩
        · cases isStored
      have exists' : w.db.exists? o.entity k = true := by simpa [storedIn, hk] using isStored
      obtain ⟨old, mem, oldKey, rfl, present, seq⟩ := stored.stored k hk exists'
      refine ⟨by rw [hk, setCellsPk, oldKey], sameRows ▸ present, ?_, old, mem, setCellsPk old cells ▸ rfl,
        fun n free => ?_⟩
      · rw [logOthers _ ne, seq]
      · by_cases isKey : n = "id"
        · subst isKey
          rw [rowGetKey, rowGetKey, setCellsPk]
        · exact untouchedKept all old free
    · obtain ⟨rfl, fresh, present⟩ := stored.fresh fun k hk => by simpa [storedIn, hk] using isNew
      refine ⟨rfl, fresh, ?_⟩
      rcases present with ⟨mem, seq⟩ | same
      · exact .inl ⟨sameRows ▸ mem, by rw [logOthers _ ne, seq]⟩
      · exact .inr (by rw [logOthers _ ne, same])
  · have fails : (App.write (noted w.db (o.prepare w.clock)) only >>= fun o₁ => do
        auditStep (storedIn w.db (noted w.db (o.prepare w.clock))) o₁
        pure o₁) w = .error f w₁ := by
      show EStateM.bind _ _ w = _
      simp only [EStateM.bind, hw]
    rw [fails] at h
    cases h


theorem violationNotNull {db : Db} {e : Entity} {row : Row} (h : db.violation e row.pk row.cells = none)
    {f : Field} (hf : f ∈ e.model.fields) (serial : f.kind ≠ .serial) (notNull : f.null = false)
    (notKey : f.name ≠ "id") : row.get f.name ≠ .null := by
  unfold Db.violation at h
  split_ifs at h
  dsimp only at h
  split at h
  · cases h
  · rename_i none
    have passes := List.find?_eq_none.mp none f hf
    simp only [Row.get, notKey, if_false]
    intro empty
    simp [serial, notNull, empty, Value.isNull] at passes

theorem savedKey {o o' : Obj} {only : Option (List String)} {w w' : World} (ne : o.entity ≠ .systemLog)
    (h : App.save o only w = .ok o' w') {k : Nat} (hk : o.pk = some k) : o'.pk = some k := by
  obtain ⟨row, key, wrote⟩ := saveWrites ne h
  rw [key]
  cases stored : storedIn w.db o
  · rw [(wrote.fresh stored).1, hk]
    rfl
  · rw [← (wrote.stored stored).1, hk]

theorem storedValue {w w' : World} {o : Obj} {only : Option (List String)} {row : Row}
    (wrote : Wrote w w' o only row) {f : Field} (hf : f ∈ o.entity.model.fields) (serial : f.kind ≠ .serial)
    (touched : touches only f = true) (notKey : f.name ≠ "id")
    (clockFree : ∀ g ∈ o.entity.model.fields, (g.autoNow || g.autoNowAdd) = true → g.name ≠ f.name) :
    f.prep ((o.prepare w.clock).get f.name) = .ok (row.get f.name) := by
  obtain ⟨v, prep, got⟩ := wrote.cells f hf serial touched notKey
  have fields : (noted w.db (o.prepare w.clock)).model.fields = o.entity.model.fields := by
    show (noted w.db (o.prepare w.clock)).entity.model.fields = _
    rw [(notedEntity _ _).1, (prepareSame o w.clock).1]
  unfold written at prep
  rw [stampGet _ _ _ (fields ▸ clockFree), notedGet] at prep
  rw [got, prep]

theorem storedUnstamped {w w' : World} {o : Obj} {row : Row} (wrote : Wrote w w' o none row)
    {f : Field} (hf : f ∈ o.entity.model.fields) (serial : f.kind ≠ .serial) (notKey : f.name ≠ "id")
    (now : f.autoNow = false) (nowAdd : f.autoNowAdd = false) :
    f.prep ((o.prepare w.clock).get f.name) = .ok (row.get f.name) := by
  have clockFree : ∀ g ∈ o.entity.model.fields, (g.autoNow || g.autoNowAdd) = true → g.name ≠ f.name := by
    intro g mem clock same
    rw [List.inj_on_of_nodup_map (fieldNamesNodup o.entity) mem hf same, now, nowAdd] at clock
    cases clock
  exact storedValue wrote hf serial rfl notKey clockFree

theorem prepOptNat {f : Field} {t : Entity} {d : OnDelete} (kind : f.kind = .ref t d) (k : Option Nat) :
    f.prep (Value.ofOptNat k) = .ok (Value.ofOptNat k) := by
  unfold Field.prep
  cases k with
  | none => rfl
  | some k => rw [kind]; rfl

theorem saveRunsSpec (o : Obj) (only : Option (List String)) (w₀ : World) :
    ⦃fun s => ⌜s = w₀⌝⦄ App.save o only
    ⦃post⟨fun o' s => ⌜App.save o only w₀ = .ok o' s⌝, fun _ s => ⌜s = w₀⌝⟩⦄ := by
  intro s h
  have fails := Answers.runOfTriple (saveFailsSpec o only w₀)
  simp only [wp, PredTrans.apply, EStateM.run] at h fails ⊢
  subst h
  split <;> simp_all

end Portal.WrittenRows
