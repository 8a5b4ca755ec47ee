import Mathlib
import Portal.Proofs.LogStats
import Portal.Proofs.WrittenRows
import Portal.Proofs.CommentForest
import Portal.Command.Logs
/-! Clearing out old log entries. The clean-up keeps a number of days: the clock moved back by
that many days is the cutoff, and a row stamped before it, of the level and the category asked
for when those are given, is old. Clean-up removes exactly the old rows, keeps every other row of
the log, its counter and every other table, and answers how many went and how many are left,
which together are the rows there were. Days whose cutoff no date-time holds (more than a machine
integer of days, more than 999999999, or a date before the first year) make it fail with that
error before it reads anything.

The clean-up command never changes the store: it only writes to its terminal and reads one
answer. A dry run, a refused confirmation and every failure so leave the log as it was, and a run
that is confirmed with rows to delete fails, as the store refuses a delete over a slice. -/
namespace Portal.LogCleanup
open Audit Command Std.Do

set_option mvcgen.warning false

/-! ### Removing rows -/

/-- `db'` is `db` with the rows of table `e` narrowed to those `keep` holds of: the table's
counter, every other table, the link tables and the raw tables are as they were. -/
structure Pruned (e : Entity) (keep : Row → Bool) (db db' : Db) : Prop where
  table : db'.table e = { db.table e with rows := (db.rows e).filter keep }
  others : ∀ e', e' ≠ e → db'.table e' = db.table e'
  links : db'.links = db.links
  raw : db'.raw = db.raw

theorem Pruned.rows {e : Entity} {keep : Row → Bool} {db db' : Db} (h : Pruned e keep db db') :
    db'.rows e = (db.rows e).filter keep := by
  unfold Db.rows
  rw [h.table]
  rfl

theorem Pruned.refl (e : Entity) (db : Db) : Pruned e (fun _ => true) db db :=
  ⟨by simp [Db.rows], fun _ _ => rfl, rfl, rfl⟩

theorem Pruned.trans {e : Entity} {p q : Row → Bool} {db db' db'' : Db} (h₁ : Pruned e p db db')
    (h₂ : Pruned e q db' db'') : Pruned e (fun r => p r && q r) db db'' := by
  refine ⟨?_, fun e' ne => (h₂.others e' ne).trans (h₁.others e' ne), h₂.links.trans h₁.links,
    h₂.raw.trans h₁.raw⟩
  rw [h₂.table, h₁.rows, h₁.table, List.filter_filter]
  simp only [Bool.and_comm]

theorem Pruned.congr {e : Entity} {p q : Row → Bool} {db db' : Db} (h : Pruned e p db db')
    (same : ∀ r ∈ db.rows e, p r = q r) : Pruned e q db db' := by
  refine ⟨?_, h.others, h.links, h.raw⟩
  rw [h.table, List.filter_congr same]

theorem removeRowPruned (db : Db) (e : Entity) (k : Nat) :
    Pruned e (·.pk != k) db (db.removeRow e k) := by
  obtain ⟨links, raw, others, -⟩ := WrittenRows.setTableFrame db e
    { db.table e with rows := (db.rows e).filter (·.pk != k) }
  refine ⟨?_, others, links, raw⟩
  unfold Db.removeRow
  by_cases present : ∃ t, (e, t) ∈ db.tables
  · exact LogStore.tableSet _ present
  · -- with no table of its own the kind reads as empty, and setting it changes nothing
    have empty : db.rows e = [] := WrittenRows.tableAbsent present
    rw [WrittenRows.setTableAbsent _ present, empty, List.filter_nil, ← empty]
    rfl

theorem removeRowsPruned (e : Entity) (ks : List Nat) (db : Db) :
    Pruned e (fun r => !ks.contains r.pk) db (ks.foldl (fun db k => db.removeRow e k) db) := by
  induction ks generalizing db with
  | nil => simpa using Pruned.refl e db
  | cons k ks ih =>
    have keep : (fun r : Row => (r.pk != k) && !ks.contains r.pk) =
        fun r => !(k :: ks).contains r.pk := by
      funext r
      by_cases same : r.pk = k <;> simp [same]
    simpa only [List.foldl_cons, keep] using (removeRowPruned db e k).trans (ih (db.removeRow e k))

theorem keyPicked {rows : List Row} (keys : (rows.map Row.pk).Nodup) (p : Row → Bool) {r : Row}
    (mem : r ∈ rows) : ((rows.filter p).map Row.pk).contains r.pk = p r := by
  rcases picked : p r
  · refine Bool.eq_false_iff.mpr fun found => ?_
    obtain ⟨r', kept, same⟩ := List.mem_map.mp (List.contains_iff_mem.mp found)
    obtain ⟨inside, holds⟩ := List.mem_filter.mp kept
    have : r' = r := List.inj_on_of_nodup_map keys inside mem same
    simp_all
  · exact List.contains_iff_mem.mpr (List.mem_map_of_mem (List.mem_filter.mpr ⟨mem, picked⟩))

theorem removePickedPruned {db : Db} {e : Entity} (keyed : Listing.Keyed db e) (p : Row → Bool) :
    Pruned e (fun r => !p r) db
      ((((db.rows e).filter p).map Row.pk).foldl (fun db k => db.removeRow e k) db) :=
  (removeRowsPruned e _ db).congr fun r mem => by rw [keyPicked keyed p mem]

/-! ### Clean-up -/

def Old (cutoff : Instant) (level category : Json) (r : Row) : Bool :=
  stampedBefore cutoff (Obj.ofRow .systemLog r) && ofKind level category (Obj.ofRow .systemLog r)

theorem cleanupRun {w : World} {days level category : Json} {span cutoff : Instant}
    (spanOk : daysSpan days = .ok span) (cutoffOk : before w.clock span = .ok cutoff) :
    let old := (w.db.rows .systemLog).filter (Old cutoff level category)
    let db' := (old.map Row.pk).foldl (fun db k => db.removeRow .systemLog k) w.db
    cleanupOldLogs days level category w =
      .ok (old.length, (db'.rows .systemLog).length) { w with db := db' } := by
  intro old db'
  unfold cleanupOldLogs
  have picked : ((w.db.rows .systemLog).map (Obj.ofRow .systemLog)).filter
      (fun o => stampedBefore cutoff o && ofKind level category o) = old.map (Obj.ofRow .systemLog) := by
    rw [List.filter_map]
    rfl
  simp only [bind, EStateM.bind, App.ofExcept, spanOk, cutoffOk, pure, EStateM.pure, App.now,
    App.all, App.db, App.setDb, get, getThe, MonadStateOf.get, EStateM.get, modify, modifyGet,
    MonadStateOf.modifyGet, EStateM.modifyGet, picked, List.foldl_map, List.length_map,
    Listing.ofRowPk, Option.getD_some, db']

theorem cleanupRefused {w : World} {days level category : Json} {f : Fault}
    (refused : (daysSpan days >>= before w.clock) = .error f) :
    cleanupOldLogs days level category w = .error f w := by
  unfold cleanupOldLogs
  rcases spanOk : daysSpan days with g | span
  · -- the days give no span
    rw [spanOk] at refused
    cases refused
    rfl
  · rw [spanOk] at refused
    change before w.clock span = .error f at refused
    simp only [bind, EStateM.bind, App.ofExcept, refused, pure, EStateM.pure, App.now,
      get, getThe, MonadStateOf.get, EStateM.get]
    rfl

/-- What clean-up at `cutoff` leaves: the log holds exactly the rows that are not old, with its
counter, and nothing else in the world changes; the answer counts the rows removed and the rows
left, together the rows there were. -/
structure Cleaned (cutoff : Instant) (level category : Json) (w : World) (answer : Nat × Nat)
    (w' : World) : Prop where
  pruned : Pruned .systemLog (fun r => !Old cutoff level category r) w.db w'.db
  world : w' = { w with db := w'.db }
  gone : answer.1 = ((w.db.rows .systemLog).filter (Old cutoff level category)).length
  left : answer.2 = (w'.db.rows .systemLog).length
  total : answer.1 + answer.2 = (w.db.rows .systemLog).length

theorem cleanupCleans {w : World} {days level category : Json} {cutoff : Instant}
    (keyed : Listing.Keyed w.db .systemLog) (cutoffOk : (daysSpan days >>= before w.clock) = .ok cutoff) :
    ∃ answer w', cleanupOldLogs days level category w = .ok answer w' ∧
      Cleaned cutoff level category w answer w' := by
  rcases spanOk : daysSpan days with g | span
  · rw [spanOk] at cutoffOk
    cases cutoffOk
  · rw [spanOk] at cutoffOk
    have pruned := removePickedPruned keyed (Old cutoff level category)
    refine ⟨_, _, cleanupRun spanOk cutoffOk, pruned, rfl, rfl, rfl, ?_⟩
    rw [pruned.rows]
    exact (List.length_eq_length_filter_add (Old cutoff level category)).symm

/-! ### The clean-up command -/

def Heard (w₀ w : World) : Prop :=
  w.db = w₀.db ∧ w.clock = w₀.clock ∧ w.terminal.answers = w₀.terminal.answers

theorem sayRun (s : String) (w : World) :
    App.say s w = .ok () { w with terminal := { w.terminal with
      out := w.terminal.out ++ (if s.endsWith "\n" then s else s ++ "\n") } } := rfl

@[spec] theorem saySpec (s : String) (w₀ : World) :
    ⦃fun w => ⌜Heard w₀ w⌝⦄ App.say s ⦃⇓ _ w => ⌜Heard w₀ w⌝⦄ := by
  intro w heard
  simp only [wp, PredTrans.apply, EStateM.run, sayRun]
  exact heard

theorem askRun (prompt : String) (w : World) :
    ∃ w', App.ask prompt w = .ok (w.terminal.answers.headD "n") w' ∧ w'.db = w.db ∧
      w'.clock = w.clock := by
  unfold App.ask
  rcases answers : w.terminal.answers with _ | ⟨a, rest⟩ <;>
    simp [bind, EStateM.bind, App.terminal, App.setTerminal, get, getThe, MonadStateOf.get,
      EStateM.get, modify, modifyGet, MonadStateOf.modifyGet, EStateM.modifyGet, pure, EStateM.pure,
      answers]

@[spec] theorem askSpec (prompt : String) (w₀ : World) :
    ⦃fun w => ⌜Heard w₀ w⌝⦄ App.ask prompt
    ⦃⇓ reply w => ⌜w.db = w₀.db ∧ w.clock = w₀.clock ∧ reply = w₀.terminal.answers.headD "n"⌝⦄ := by
  intro w heard
  obtain ⟨w', run, db, clock⟩ := askRun prompt w
  simp only [wp, PredTrans.apply, EStateM.run, run]
  obtain ⟨sameDb, sameClock, sameAnswers⟩ := heard
  exact ⟨db.trans sameDb, clock.trans sameClock, by rw [sameAnswers]⟩

@[spec] theorem statsSpec (w₀ : World) :
    ⦃fun w => ⌜Heard w₀ w⌝⦄ logStats ⦃⇓ _ w => ⌜Heard w₀ w⌝⦄ := by
  intro w heard
  obtain ⟨j, run, -⟩ := LogStats.statsRun w
  simp only [wp, PredTrans.apply, EStateM.run, run]
  exact heard

@[spec] theorem currentStatsSpec (w₀ : World) :
    ⦃fun w => ⌜Heard w₀ w⌝⦄ showCurrentStats ⦃⇓ _ w => ⌜Heard w₀ w⌝⦄ := by
  mvcgen [showCurrentStats]
  all_goals simp_all [Heard]

@[spec] theorem breakdownSpec (logs : List Obj) (w₀ : World) :
    ⦃fun w => ⌜Heard w₀ w⌝⦄ showBreakdown logs ⦃⇓ _ w => ⌜Heard w₀ w⌝⦄ := by
  mvcgen [showBreakdown] invariants
  · ⇓ _ w => ⌜Heard w₀ w⌝
  · ⇓ _ w => ⌜Heard w₀ w⌝
  · ⇓ _ w => ⌜Heard w₀ w⌝
  all_goals simp_all [Heard]

/-- A run of the clean-up command that gets as far as deleting: positive days and batch size,
not a dry run, confirmed by an option or by the first answer, and some log row old enough and
of the level and the category asked for. -/
structure Deleting (vs : Values) (w : World) : Prop where
  days : 1 ≤ vs.intOr "days" 30
  batch : 1 ≤ vs.intOr "batch_size" 1000
  live : (vs.find "dry_run").truthy = false
  confirmed : ((vs.find "force").truthy || (vs.find "yes").truthy ||
    ["y", "yes"].contains (w.terminal.answers.headD "n").toLower) = true
  doomed : ∃ cutoff, (daysSpan (.int (vs.intOr "days" 30)) >>= before w.clock) = .ok cutoff ∧
    ∃ r ∈ w.db.rows .systemLog, Old cutoff (vs.find "level") (vs.find "category") r

theorem oldPicked {rows : List Row} {cutoff : Instant} {level category : Json} {r : Row}
    (mem : r ∈ rows) (old : Old cutoff level category r = true) :
    (rows.map (Obj.ofRow .systemLog)).filter (fun o => stampedBefore cutoff o && ofKind level category o) ≠ [] :=
  List.ne_nil_of_mem (List.mem_filter.mpr ⟨List.mem_map_of_mem mem, old⟩)

theorem commandKeepsStore (vs : Values) (w₀ : World) :
    ⦃fun w => ⌜w = w₀⌝⦄ cleanupLogs vs
    ⦃post⟨fun _ w => ⌜w.db = w₀.db⌝, fun _ w => ⌜w.db = w₀.db⌝⟩⦄ := by
  mvcgen [cleanupLogs, App.raise, App.ofExcept, App.now, App.all, App.db]
  all_goals simp_all [Heard]

theorem deletionFails (vs : Values) (w₀ : World) (deleting : Deleting vs w₀) :
    ⦃fun w => ⌜w = w₀⌝⦄ cleanupLogs vs
    ⦃post⟨fun _ _ => ⌜False⌝, fun f _ =>
      ⌜f = ⟨"CommandError", "Error during deletion: Cannot use 'limit' or 'offset' with delete()."⟩⌝⟩⦄ := by
  obtain ⟨days, batch, live, confirmed, cutoff, cutoffOk, r, mem, old⟩ := deleting
  have picked := oldPicked mem old
  mvcgen [cleanupLogs, App.raise, App.ofExcept, App.now, App.all, App.db]
  all_goals simp_all +zetaDelta [Heard]
  · omega
  · omega
  · rename_i none _
    obtain ⟨x, inside, stamped, kind⟩ := picked
    simp [none x inside stamped] at kind

/-! ### Main statement -/

/-- What clean-up promises from `w`, for the days, level and category it is given, and what the
clean-up command does there with options `vs`. -/
structure CleansExactly (w : World) (days level category : Json) (vs : Values) : Prop where
  cleaned : ∀ cutoff, (daysSpan days >>= before w.clock) = .ok cutoff →
    ∃ answer w', cleanupOldLogs days level category w = .ok answer w' ∧
      Cleaned cutoff level category w answer w'
  refused : ∀ f, (daysSpan days >>= before w.clock) = .error f →
    cleanupOldLogs days level category w = .error f w
  store : (RequestLog.after (cleanupLogs vs w)).db = w.db
  deletion : Deleting vs w → ∃ w', cleanupLogs vs w =
    .error ⟨"CommandError", "Error during deletion: Cannot use 'limit' or 'offset' with delete()."⟩ w'

theorem logCleanupExact (w : World) (days level category : Json) (vs : Values)
    (keyed : Listing.Keyed w.db .systemLog) : CleansExactly w days level category vs := by
  refine ⟨fun _ ok => cleanupCleans keyed ok, fun _ refused => cleanupRefused refused,
    CommentForest.afterOfTriple (commandKeepsStore vs w), fun deleting => ?_⟩
  have run := Answers.runOfTriple (deletionFails vs w deleting)
  revert run
  cases cleanupLogs vs w with
  | ok _ _ => exact False.elim
  | error f w' => exact fun same => ⟨w', by rw [same]⟩

def twoLogs : World :=
  { db := { tables := [(.systemLog, { rows := [⟨1, []⟩, ⟨2, []⟩], seq := 2 })], links := [] } }

theorem twoLogsCleanExactly :
    Listing.Keyed twoLogs.db .systemLog ∧ CleansExactly twoLogs (.int 30) .null .null [] :=
  ⟨by decide, logCleanupExact twoLogs (.int 30) .null .null [] (by decide)⟩

def staleLog : World :=
  { clock := Instant.start + 35 * Instant.day
    db := { tables := [(.systemLog, { rows := [⟨1, [("timestamp", Value.now Instant.start)]⟩], seq := 1 })],
            links := [] } }

def forcedMonth : Values := [("days", .int 30), ("force", .bool true)]

theorem staleLogKept :
    (∃ w', cleanupLogs forcedMonth staleLog =
        .error ⟨"CommandError", "Error during deletion: Cannot use 'limit' or 'offset' with delete()."⟩ w' ∧
      w'.db = staleLog.db) ∧
    cleanupOldLogs (.int 1000000) .null .null twoLogs =
      .error ⟨"OverflowError", "date value out of range"⟩ twoLogs := by
  have deleting : Deleting forcedMonth staleLog :=
    ⟨by decide, by decide, by decide, by decide, ⟨_, rfl, _, List.mem_singleton_self _, by decide⟩⟩
  have fails := Answers.runOfTriple (deletionFails forcedMonth staleLog deleting)
  have kept := Answers.runOfTriple (commandKeepsStore forcedMonth staleLog)
  refine ⟨?_, cleanupRefused rfl⟩
  revert fails kept
  cases cleanupLogs forcedMonth staleLog with
  | ok _ _ => exact fun no => no.elim
  | error f w' => exact fun same kept => ⟨w', by rw [same], kept⟩

end Portal.LogCleanup
