import Mathlib
import Portal.Proofs.LogStore
import Portal.Audit.Events
import Portal.Proofs.Listing
import Portal.Proofs.HandlerRows
/-! The log statistics: each breakdown adds up to the number of entries whose field holds one of
the declared choices, so it reaches the total exactly when every entry is declared; the recent
counts are nested inside the total. A record the handler logs at Python's own warning level is
stored under a level outside the declared ones, and the level breakdown does not count it. -/
namespace Portal.LogStats
open Audit LogStore

def tally : List (String × Json) → Int
  | [] => 0
  | (_, .int n) :: rest => n + tally rest
  | _ :: rest => tally rest

def declaredCount (logs : List Obj) (field : String) (choices : List (String × String)) : Nat :=
  logs.countP fun o => (choices.map (·.1)).contains (o.getText field)

theorem countChoiceCons (logs : List Obj) (field c : String) (ks : List String) (fresh : c ∉ ks) :
    logs.countP (fun o => (c :: ks).contains (o.getText field)) =
      logs.countP (·.getText field == c) + logs.countP fun o => ks.contains (o.getText field) := by
  induction logs with
  | nil => rfl
  | cons o rest ih =>
    rw [List.countP_cons, List.countP_cons, List.countP_cons, ih, List.contains_cons]
    by_cases hc : o.getText field = c
    · have later : ks.contains c = false := by simpa using fresh
      simp only [hc, beq_self_eq_true, Bool.true_or, later, if_true, Bool.false_eq_true, if_false]
      omega
    · have first : (o.getText field == c) = false := by simpa using hc
      simp only [first, Bool.false_or, Bool.false_eq_true, if_false]
      omega

theorem tallyCounts (logs : List Obj) (field : String) (choices : List (String × String))
    (keys : (choices.map (·.1)).Nodup) :
    tally (countsBy logs field choices).members = declaredCount logs field choices := by
  induction choices with
  | nil => simp [countsBy, declaredCount, tally, Json.members]
  | cons c cs ih =>
    obtain ⟨c, label⟩ := c
    rw [List.map_cons, List.nodup_cons] at keys
    unfold declaredCount at ih ⊢
    rw [List.map_cons, countChoiceCons logs field c _ keys.1, Nat.cast_add, ← ih keys.2]
    simp only [countsBy, Json.members, List.filterMap_cons, ← List.countP_eq_length_filter]
    by_cases some : 0 < logs.countP (·.getText field == c)
    · simp [some, tally]
    · simp [Nat.eq_zero_of_not_pos some]

theorem sinceLater (logs : List Obj) {t t' : Instant} (h : t ≤ t') : since logs t' ≤ since logs t := by
  unfold since
  rw [← List.countP_eq_length_filter, ← List.countP_eq_length_filter]
  apply List.countP_mono_left
  intro o _
  split
  · simp only [decide_eq_true_eq]
    exact le_trans h
  · exact id

theorem sinceTotal (logs : List Obj) (t : Instant) : since logs t ≤ logs.length := by
  unfold since
  exact List.length_filter_le _ _

def logsOf (w : World) : List Obj := (w.db.rows .systemLog).map (Obj.ofRow .systemLog)

/-- Statistics `j` over the entries `logs`, as they add up: the total, a breakdown by level and
one by category that each count the entries with a declared value, and nested recent counts. -/
structure AddsUp (logs : List Obj) (j : Json) : Prop where
  total : j.get? "total" = some (.int logs.length)
  levels : ∃ kvs, j.get? "by_level" = some (.obj kvs) ∧
    tally kvs = declaredCount logs "level" Catalog.levelChoices
  categories : ∃ kvs, j.get? "by_category" = some (.obj kvs) ∧
    tally kvs = declaredCount logs "category" Catalog.categoryChoices
  recent : ∃ day week : Nat, j.get? "recent_24h" = some (.int day) ∧
    j.get? "recent_7d" = some (.int week) ∧ day ≤ week ∧ week ≤ logs.length

theorem statsRun (w : World) : ∃ j, logStats w = .ok j w ∧ AddsUp (logsOf w) j := by
  unfold logStats
  rw [Listing.bindRun (Listing.allRun .systemLog w)]
  by_cases empty : (logsOf w).isEmpty = true
  · have none : logsOf w = [] := List.isEmpty_iff.mp empty
    unfold logsOf at none empty
    simp only [empty, if_true]
    refine ⟨_, rfl, ⟨?_, ⟨[], ?_, ?_⟩, ⟨[], ?_, ?_⟩, ⟨0, 0, ?_, ?_, le_refl 0, Nat.zero_le _⟩⟩⟩ <;>
      simp [Json.get?, tally, declaredCount, logsOf, none]
  · unfold logsOf at empty
    simp only [empty, Bool.false_eq_true, if_false]
    refine ⟨_, rfl, ⟨by simp [Json.get?, logsOf],
      ⟨(countsBy (logsOf w) "level" Catalog.levelChoices).members, by simp [Json.get?, countsBy, Json.members, logsOf], ?_⟩,
      ⟨(countsBy (logsOf w) "category" Catalog.categoryChoices).members, by simp [Json.get?, countsBy, Json.members, logsOf], ?_⟩,
      ⟨since (logsOf w) (w.clock - Instant.day), since (logsOf w) (w.clock - 7 * Instant.day),
        by simp [Json.get?, logsOf], by simp [Json.get?, logsOf], ?_, ?_⟩⟩⟩
    · exact tallyCounts _ _ _ (by decide)
    · exact tallyCounts _ _ _ (by decide)
    · -- the clock is an integer count of microseconds, and a day a positive one
      have week : ∀ c : Int, c - 7 * Instant.day ≤ c - Instant.day := fun c => by
        have : (0 : Int) ≤ Instant.day := by decide
        omega
      exact sinceLater _ (week w.clock)
    · exact sinceTotal _ _

theorem statsCountDeclared (w : World) : ∃ j, logStats w = .ok j w ∧ AddsUp (logsOf w) j ∧
    (declaredCount (logsOf w) "level" Catalog.levelChoices = (logsOf w).length ↔
      ∀ o ∈ logsOf w, (Catalog.levelChoices.map (·.1)).contains (o.getText "level")) ∧
    (declaredCount (logsOf w) "category" Catalog.categoryChoices = (logsOf w).length ↔
      ∀ o ∈ logsOf w, (Catalog.categoryChoices.map (·.1)).contains (o.getText "category")) := by
  obtain ⟨j, run, adds⟩ := statsRun w
  exact ⟨j, run, adds, List.countP_eq_length, List.countP_eq_length⟩

def warningRecord : LogRecord :=
  { levelName := "WARNING", msg := .str "careful", module := .str "app", created := Instant.start, thread := 0,
    process := 0 }

theorem warningRowUncounted :
    ∃ w' j kvs, emit (.str "system") false warningRecord {} = .ok () w' ∧ logStats w' = .ok j w' ∧
      j.get? "total" = some (.int 1) ∧ j.get? "by_level" = some (.obj kvs) ∧ tally kvs = 0 := by
  have fits : HandlerRows.Storable (.str "system") warningRecord {} .null .null :=
    ⟨nofun, rfl, rfl, .inl rfl, .inl rfl⟩
  let w' : World := { ({} : World) with
    db := withLogRow ({} : World).db
      (HandlerRows.recordCells (.str "system") false warningRecord "careful" {} .null .null) }
  have emitted : emit (.str "system") false warningRecord {} = .ok () w' :=
    HandlerRows.emitAppends rfl fits (readyFresh emptyReady)
  obtain ⟨j, run, adds⟩ := statsRun w'
  obtain ⟨kvs, levels, sums⟩ := adds.levels
  -- the one stored row, up to the order the table keeps
  have one : (w'.db.rows .systemLog).Perm
      [{ pk := 1, cells := HandlerRows.recordCells (.str "system") false warningRecord "careful" {} .null .null }] :=
    logRowsAppend emptyReady _
  refine ⟨w', j, kvs, emitted, run, ?_, levels, ?_⟩
  · rw [adds.total, logsOf, List.length_map, one.length_eq]
    rfl
  · rw [sums, declaredCount, logsOf, List.countP_map, one.countP_eq]
    decide

end Portal.LogStats
