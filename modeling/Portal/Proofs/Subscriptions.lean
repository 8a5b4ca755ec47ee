import Mathlib
import Portal.Proofs.WrittenRows
import Portal.Proofs.CommentForest
import Portal.Dashboard.Views
/-! The dashboard's subscription states. A settings record is consistent (`Held`) when an
active subscription names a plan of the store and runs that plan's days from its start, and a
trial has an end. Subscribing, cancelling and starting a trial each check the record at the
request's clock first; the other pages write only notification flags, the API key or the user.
So over every run of the dashboard's pages, by any users and with the clock set anywhere
between requests, every settings record stays consistent, and a request changes the settings
only when it passes the page's guards and its own check.

Main statement: `subscriptionsKept`. -/
namespace Portal.Subscriptions
open Dashboard Web Std.Do

set_option mvcgen.warning false

def planDays (plan : Obj) : Int := if plan.getText "interval" == "monthly" then 30 else 365

/-- A settings record whose subscription is consistent: its status is a text, an active
subscription names a plan of the store and runs the plan's days from its start, and a trial has
an end. -/
structure Held (db : Db) (s : Obj) : Prop where
  status : ∃ t, s.get "subscription_status" = .text t
  active : s.get "subscription_status" = .text "active" → ∃ plan ∈ db.rows .plan, ∃ start : Instant,
    s.get "subscription_plan" = .int plan.pk ∧ s.get "subscription_start_date" = Value.now start ∧
    s.get "subscription_end_date" = Value.now (start + planDays (Obj.ofRow .plan plan) * Instant.day)
  trial : s.get "subscription_status" = .text "trial" → ∃ t : Instant, s.get "trial_end_date" = Value.now t

def AllHeld (db : Db) : Prop := ∀ r ∈ db.rows .userSettings, Held db (Obj.ofRow .userSettings r)

def subscriptionFields : List String :=
  ["subscription_status", "subscription_plan", "subscription_start_date", "subscription_end_date", "trial_end_date"]

theorem heldOfPlans {db db' : Db} {s : Obj} (held : Held db s) (plans : db'.rows .plan = db.rows .plan) :
    Held db' s :=
  ⟨held.status, by rw [plans]; exact held.active, held.trial⟩

theorem heldOfGets {db : Db} {s s' : Obj} (held : Held db s) (same : ∀ n ∈ subscriptionFields, s'.get n = s.get n) :
    Held db s' := by
  simp only [subscriptionFields, List.mem_cons, List.not_mem_nil, or_false, forall_eq_or_imp, forall_eq] at same
  obtain ⟨status, plan, start, stop, trial⟩ := same
  exact ⟨status ▸ held.status, by rw [status, plan, start, stop]; exact held.active,
    by rw [status, trial]; exact held.trial⟩

theorem heldSetOther {db : Db} {s : Obj} (held : Held db s) {n : String} (other : n ∉ subscriptionFields) (v : Value) :
    Held db (s.set n v) :=
  heldOfGets held fun _ mem => WrittenRows.objGetSetOther s v (fun same => other (same ▸ mem))

theorem heldResting {db : Db} {s : Obj} {t : String} (status : s.get "subscription_status" = .text t)
    (notActive : t ≠ "active") (notTrial : t ≠ "trial") : Held db s := by
  refine ⟨⟨t, status⟩, fun active => ?_, fun trial => ?_⟩
  · rw [status] at active
    exact absurd (Value.text.inj active) notActive
  · rw [status] at trial
    exact absurd (Value.text.inj trial) notTrial


/-! ### Saving a settings record -/

theorem prepareSettings {o : Obj} (settings : o.entity = .userSettings) (now : Instant) : o.prepare now = o := by
  unfold Obj.prepare
  rw [settings]

def statusColumn : Field :=
  { Catalog.charField "subscription_status" 20 "inactive" with
    choices := [("active", "Active"), ("inactive", "Inactive"), ("cancelled", "Cancelled"), ("trial", "Trial")] }

def planColumn : Field := { name := "subscription_plan", kind := .ref .plan .setNull, null := true, blank := true }

theorem settingsColumns :
    statusColumn ∈ (Entity.userSettings).model.fields ∧ planColumn ∈ (Entity.userSettings).model.fields ∧
      ∀ n ∈ ["subscription_start_date", "subscription_end_date", "trial_end_date"],
        Catalog.optMoment n ∈ (Entity.userSettings).model.fields := by
  simp [statusColumn, planColumn, Entity.model, Catalog.userSettings]

theorem storedCell {w w' : World} {o : Obj} {row : Row} (wrote : WrittenRows.Wrote w w' o none row)
    (settings : o.entity = .userSettings) {f : Field} (hf : f ∈ (Entity.userSettings).model.fields)
    (serial : f.kind ≠ .serial) (notKey : f.name ≠ "id") (now : f.autoNow = false) (nowAdd : f.autoNowAdd = false)
    {v : Value} (given : o.get f.name = v) (kept : f.prep v = .ok v) : row.get f.name = v := by
  have stored := WrittenRows.storedUnstamped wrote (settings ▸ hf) serial notKey now nowAdd
  rw [prepareSettings settings, given, kept] at stored
  exact (Except.ok.inj stored).symm

theorem storedStatus {w w' : World} {o : Obj} {row : Row} (wrote : WrittenRows.Wrote w w' o none row)
    (settings : o.entity = .userSettings) {t : String} (given : o.get "subscription_status" = .text t) :
    row.get "subscription_status" = .text t :=
  storedCell wrote settings settingsColumns.1 (by decide) (by decide) rfl rfl given rfl

theorem storedPlan {w w' : World} {o : Obj} {row : Row} (wrote : WrittenRows.Wrote w w' o none row)
    (settings : o.entity = .userSettings) {k : Int} (given : o.get "subscription_plan" = .int k) :
    row.get "subscription_plan" = .int k :=
  storedCell wrote settings settingsColumns.2.1 (by decide) (by decide) rfl rfl given rfl

theorem storedMoment {w w' : World} {o : Obj} {row : Row} (wrote : WrittenRows.Wrote w w' o none row)
    (settings : o.entity = .userSettings) {n : String}
    (named : n ∈ ["subscription_start_date", "subscription_end_date", "trial_end_date"]) {t : Instant}
    (given : o.get n = Value.now t) : row.get n = Value.now t := by
  have column := settingsColumns.2.2 n named
  have notKey : n ≠ "id" := by
    simp only [List.mem_cons, List.not_mem_nil, or_false] at named
    rcases named with rfl | rfl | rfl <;> decide
  exact storedCell wrote settings column (by simp [Catalog.optMoment]) notKey rfl rfl given rfl

theorem heldSaved {w w' : World} {o : Obj} {row : Row} (wrote : WrittenRows.Wrote w w' o none row)
    (settings : o.entity = .userSettings) (held : Held w.db o) : Held w'.db (Obj.ofRow .userSettings row) := by
  have plans : w'.db.rows .plan = w.db.rows .plan := by
    unfold Db.rows
    rw [wrote.others .plan (by rw [settings]; decide) (by decide)]
  obtain ⟨t, status⟩ := held.status
  have rowStatus := storedStatus wrote settings status
  refine ⟨⟨t, by rw [Listing.ofRowGet, rowStatus]⟩, fun active => ?_, fun trial => ?_⟩
  · rw [Listing.ofRowGet, rowStatus, ← status] at active
    obtain ⟨plan, mem, start, planKey, startDate, endDate⟩ := held.active active
    refine ⟨plan, plans ▸ mem, start, ?_, ?_, ?_⟩
    · rw [Listing.ofRowGet, storedPlan wrote settings planKey]
    · rw [Listing.ofRowGet, storedMoment wrote settings (by simp) startDate]
    · rw [Listing.ofRowGet, storedMoment wrote settings (by simp) endDate]
  · rw [Listing.ofRowGet, rowStatus, ← status] at trial
    obtain ⟨ends, trialEnd⟩ := held.trial trial
    exact ⟨ends, by rw [Listing.ofRowGet, storedMoment wrote settings (by simp) trialEnd]⟩


theorem plansKept {w w' : World} {o : Obj} {only : Option (List String)} {row : Row}
    (wrote : WrittenRows.Wrote w w' o only row) (notPlan : o.entity ≠ .plan) : w'.db.rows .plan = w.db.rows .plan := by
  unfold Db.rows
  rw [wrote.others .plan (Ne.symm notPlan) (by decide)]

theorem allHeldSaved {w w' : World} {o o' : Obj} (saved : App.save o none w = .ok o' w') (all : AllHeld w.db)
    (settings : o.entity = .userSettings) (held : Held w.db o) : AllHeld w'.db := by
  obtain ⟨row, -, wrote⟩ := WrittenRows.saveWrites (by rw [settings]; decide) saved
  have plans := plansKept wrote (by rw [settings]; decide)
  intro x mem
  rcases wrote.rows.within x (settings ▸ mem) with rfl | ⟨old, -⟩
  · exact heldSaved wrote settings held
  · exact heldOfPlans (all x (settings ▸ old)) plans

theorem otherSaveKeeps {w w' : World} {o o' : Obj} (saved : App.save o none w = .ok o' w')
    (notSettings : o.entity ≠ .userSettings) (notPlan : o.entity ≠ .plan) (notLog : o.entity ≠ .systemLog) :
    w'.db.table .userSettings = w.db.table .userSettings ∧ w'.db.table .plan = w.db.table .plan := by
  obtain ⟨row, -, wrote⟩ := WrittenRows.saveWrites notLog saved
  exact ⟨wrote.others _ (Ne.symm notSettings) (by decide), wrote.others _ (Ne.symm notPlan) (by decide)⟩

theorem allHeldOfTables {db db' : Db} (all : AllHeld db) (settings : db'.table .userSettings = db.table .userSettings)
    (plans : db'.table .plan = db.table .plan) : AllHeld db' := by
  have plansRows : db'.rows .plan = db.rows .plan := by
    unfold Db.rows
    rw [plans]
  intro x mem
  unfold Db.rows at mem
  rw [settings] at mem
  exact heldOfPlans (all x mem) plansRows

theorem getOfCells {o o₁ : Obj} (cells : o₁.cells = o.cells) {n : String} (hn : n ≠ "id") : o₁.get n = o.get n := by
  unfold Obj.get
  rw [if_neg hn, if_neg hn, cells]

theorem storedCellsSame {o o₁ : Obj} {cells : List (String × Value)} {w w₁ : World}
    (h : StoreUpdate.storeCells o cells w = .ok o₁ w₁) : o₁.entity = o.entity ∧ o₁.cells = o.cells := by
  unfold StoreUpdate.storeCells at h
  rw [Listing.bindRun (show App.db w = .ok w.db w from rfl)] at h
  rcases hk : o.pk with _ | k
  · simp only [hk] at h
    obtain ⟨-, -, -, rfl, -⟩ := AuditTrail.storeStep (fun key => { o with pk := some key, adding := false }) h
    exact ⟨rfl, rfl⟩
  · simp only [hk] at h
    split at h
    · obtain ⟨-, -, -, rfl, -⟩ := AuditTrail.storeStep (fun _ => { o with pk := some k, adding := false }) h
      exact ⟨rfl, rfl⟩
    · obtain ⟨-, -, -, rfl, -⟩ := AuditTrail.storeStep (fun key => { o with pk := some key, adding := false }) h
      exact ⟨rfl, rfl⟩

theorem savedStamped {o o' : Obj} {only : Option (List String)} {w w' : World} (ne : o.entity ≠ .systemLog)
    (h : App.save o only w = .ok o' w') :
    o'.entity = o.entity ∧ o'.cells = (LogStore.stamp (AuditTrail.noted w.db (o.prepare w.clock)) only w.clock).cells := by
  rw [AuditTrail.saveRun o only w ne] at h
  rcases hw : App.write (AuditTrail.noted w.db (o.prepare w.clock)) only w with ⟨o₁, w₁⟩ | ⟨f, w₁⟩
  · rw [Listing.bindRun hw] at h
    obtain ⟨w₂, run, -, -⟩ := StoreUpdate.auditStepSets (AuditTrail.storedIn w.db (AuditTrail.noted w.db (o.prepare w.clock))) o₁ w₁
    rw [Listing.bindRun run] at h
    cases h
    obtain ⟨cells, -, store⟩ := StoreUpdate.writeRun hw
    obtain ⟨entity, same⟩ := storedCellsSame store
    refine ⟨?_, same⟩
    rw [entity, (AuditTrail.stampSame _ only w.clock).1, (AuditTrail.notedEntity _ _).1, (AuditTrail.prepareSame o w.clock).1]
  · have fails : (App.write (AuditTrail.noted w.db (o.prepare w.clock)) only >>= fun o₁ => do
        AuditTrail.auditStep (AuditTrail.storedIn w.db (AuditTrail.noted w.db (o.prepare w.clock))) o₁
        pure o₁) w = .error f w₁ := by
      show EStateM.bind _ _ w = _
      simp only [EStateM.bind, hw]
    rw [fails] at h
    cases h

theorem savedGet {o o' : Obj} {only : Option (List String)} {w w' : World} (ne : o.entity ≠ .systemLog)
    (h : App.save o only w = .ok o' w') {n : String} (hn : n ≠ "id")
    (clockFree : ∀ f ∈ o.model.fields, (f.autoNow || f.autoNowAdd) = true → f.name ≠ n) :
    o'.get n = (o.prepare w.clock).get n := by
  have fields : (AuditTrail.noted w.db (o.prepare w.clock)).model.fields = o.model.fields := by
    show (AuditTrail.noted w.db (o.prepare w.clock)).entity.model.fields = o.entity.model.fields
    rw [(AuditTrail.notedEntity _ _).1, (AuditTrail.prepareSame o w.clock).1]
  calc o'.get n = (LogStore.stamp (AuditTrail.noted w.db (o.prepare w.clock)) only w.clock).get n :=
        getOfCells (savedStamped ne h).2 hn
    _ = (AuditTrail.noted w.db (o.prepare w.clock)).get n := WrittenRows.stampGet _ _ _ (fields ▸ clockFree)
    _ = (o.prepare w.clock).get n := WrittenRows.notedGet _ _ _

theorem settingsClockFree : ∀ n ∈ subscriptionFields, ∀ f ∈ (Entity.userSettings).model.fields,
    (f.autoNow || f.autoNowAdd) = true → f.name ≠ n := by
  decide

theorem freshSettings (now : Instant) (v : Value) :
    ((Obj.fresh .userSettings now).set "user" v).get "subscription_status" = .text "inactive" ∧
      ((Obj.fresh .userSettings now).set "user" v).entity = .userSettings := by
  exact ⟨rfl, rfl⟩

/-! ### The views -/

theorem settingsOfHeld (user : Option Nat) (s₀ : World) (all : AllHeld s₀.db) :
    ⦃fun s => ⌜s = s₀⌝⦄ settingsOf user
    ⦃post⟨fun o s => ⌜AllHeld s.db ∧ Held s.db o ∧ o.entity = .userSettings⌝, fun _ s => ⌜AllHeld s.db⌝⟩⦄ := by
  mvcgen [settingsOf, App.all, App.db, App.now, WrittenRows.saveRunsSpec, -Steps.saveSpec]
  case vc1.h_1 =>
    rename_i w start s found
    subst start
    obtain ⟨x, mem, rfl⟩ := List.mem_map.mp (List.mem_of_find?_eq_some found)
    exact ⟨all, all x mem, rfl⟩
  case vc2.h_2.post.success =>
    rename_i w start _ o' w'
    subst start
    intro saved
    obtain ⟨inactive, settings⟩ := freshSettings w.clock (Value.ofOptNat user)
    have held : Held w.db ((Obj.fresh .userSettings w.clock).set "user" (Value.ofOptNat user)) :=
      heldResting inactive (by decide) (by decide)
    have status : o'.get "subscription_status" = .text "inactive" := by
      rw [savedGet (by rw [settings]; decide) saved (by decide) (settings ▸ settingsClockFree _ (by decide)),
        prepareSettings settings, inactive]
    refine ⟨allHeldSaved saved all settings held, heldResting status (by decide) (by decide), ?_⟩
    rw [(savedStamped (by rw [settings]; decide) saved).1, settings]
  case vc3.h_2.post.except.handle =>
    rename_i w start _ _ _
    intro same
    rw [same, start]
    exact all


def Owns (user : Option Nat) (x : Row) : Prop := (x.get "user").asNat? = user ∧ user.isSome

def Granted (user : Option Nat) (w : World) : DashboardPage → Prop
  | .subscribe _ => ∃ x ∈ w.db.rows .userSettings, Owns user x ∧
      subscriptionActive (Obj.ofRow .userSettings x) w.clock = false
  | .cancel => ∃ x ∈ w.db.rows .userSettings, Owns user x ∧
      subscriptionActive (Obj.ofRow .userSettings x) w.clock = true
  | .trial => ∃ x ∈ w.db.rows .userSettings, Owns user x ∧
      subscriptionActive (Obj.ofRow .userSettings x) w.clock = false ∧
      trialActive (Obj.ofRow .userSettings x) w.clock = false
  | _ => True

/-- A request from `w₀` ended in `w`: every settings row is still consistent, and the settings
changed only if `allowed`. -/
structure Kept (allowed : Prop) (w₀ w : World) : Prop where
  held : AllHeld w.db
  settled : w.db.table .userSettings = w₀.db.table .userSettings ∨ allowed

theorem keptQuiet {allowed : Prop} {w₀ w : World} (all : AllHeld w₀.db) (db : w.db = w₀.db) : Kept allowed w₀ w :=
  ⟨db ▸ all, .inl (by rw [db])⟩

theorem keptAllowed {allowed : Prop} {w₀ w₁ w : World} (all : AllHeld w₁.db) (db : w.db = w₁.db)
    (granted : allowed) : Kept allowed w₀ w :=
  ⟨db ▸ all, .inr granted⟩

theorem ownsOf {user : Option Nat} {x : Row} (found : ((Obj.ofRow .userSettings x).get "user").asNat? = user)
    (signed : user.isSome = true) : Owns user x := by
  rw [Listing.ofRowGet] at found
  exact ⟨found, signed⟩

theorem heldSubscribed {db : Db} (s : Obj) {plan : Row} (mem : plan ∈ db.rows .plan) (start : Instant) {stop : Instant}
    (length : stop = start + planDays (Obj.ofRow .plan plan) * Instant.day) :
    Held db ((((s.set "subscription_plan" (Value.ofOptNat (Obj.ofRow .plan plan).pk)).set "subscription_status"
      (.text "active")).set "subscription_start_date" (Value.now start)).set "subscription_end_date" (Value.now stop)) := by
  have status : ((((s.set "subscription_plan" (Value.ofOptNat (Obj.ofRow .plan plan).pk)).set "subscription_status"
      (.text "active")).set "subscription_start_date" (Value.now start)).set "subscription_end_date"
        (Value.now stop)).get "subscription_status" = .text "active" := by
    rw [WrittenRows.objGetSetOther _ _ (by decide), WrittenRows.objGetSetOther _ _ (by decide),
      WrittenRows.objGetSet _ _ (by decide)]
  refine ⟨⟨"active", status⟩, fun _ => ⟨plan, mem, start, ?_, ?_, ?_⟩, fun trial => ?_⟩
  · rw [WrittenRows.objGetSetOther _ _ (by decide), WrittenRows.objGetSetOther _ _ (by decide),
      WrittenRows.objGetSetOther _ _ (by decide), WrittenRows.objGetSet _ _ (by decide)]
    rfl
  · rw [WrittenRows.objGetSetOther _ _ (by decide), WrittenRows.objGetSet _ _ (by decide)]
  · rw [WrittenRows.objGetSet _ _ (by decide), length]
  · rw [status] at trial
    exact absurd (Value.text.inj trial) (by decide)

theorem beforeValue {t u : Instant} {span : Int} (h : Audit.before t span = .ok u) : u = t - span := by
  unfold Audit.before at h
  split at h
  · cases h
  · exact (Except.ok.inj h).symm

theorem subscribeKept (r : Web.Request) (slug : String) (s₀ : World) (all : AllHeld s₀.db) :
    ⦃fun s => ⌜s = s₀⌝⦄ subscribePage r slug
    ⦃post⟨fun _ s => ⌜Kept (Granted r.userId? s₀ (.subscribe slug)) s₀ s⌝,
      fun _ s => ⌜Kept (Granted r.userId? s₀ (.subscribe slug)) s₀ s⌝⟩⦄ := by
  mvcgen [subscribePage, existingSettings, App.message, App.now, App.ofExcept, WrittenRows.saveRunsSpec,
    -Steps.saveSpec]
  all_goals simp_all +zetaDelta
  -- the one save subscribes the user's own settings, found without a current subscription
  case vc2.post.success.post.success.isFalse.h_1.post.success =>
    obtain ⟨-, -, plan, planMem, rfl⟩ := ‹_ = s₀ ∧ (_ ∧ _) ∧ ∃ t ∈ s₀.db.rows Entity.plan, _›
    obtain ⟨-, ⟨owner, signed⟩, x, mem, rfl⟩ := ‹_ = s₀ ∧ (_ ∧ _) ∧ ∃ t ∈ s₀.db.rows Entity.userSettings, _›
    have saved := ‹App.save _ none s₀ = .ok _ _›
    refine keptAllowed (allHeldSaved saved all ?_ (heldSubscribed _ planMem s₀.clock ?_)) rfl
      ⟨x, mem, ownsOf owner signed, ‹_›⟩
    · simp [Obj.ofRow]
    · have ends := beforeValue ‹Audit.before _ _ = .ok _›
      rw [ends, planDays]
      split <;> simp_all
  all_goals first
    | exact keptQuiet all rfl
    | exact fun _ => keptQuiet all rfl
    | exact fun _ _ => keptQuiet all rfl


theorem heldCancelled {db : Db} (s : Obj) : Held db (s.set "subscription_status" (.text "cancelled")) :=
  heldResting (WrittenRows.objGetSet _ _ (by decide)) (by decide) (by decide)

theorem heldTrial {db : Db} (s : Obj) (ends : Instant) :
    Held db ((s.set "subscription_status" (.text "trial")).set "trial_end_date" (Value.now ends)) := by
  have status : ((s.set "subscription_status" (.text "trial")).set "trial_end_date" (Value.now ends)).get
      "subscription_status" = .text "trial" := by
    rw [WrittenRows.objGetSetOther _ _ (by decide), WrittenRows.objGetSet _ _ (by decide)]
  refine ⟨⟨"trial", status⟩, fun active => ?_, fun _ => ⟨ends, WrittenRows.objGetSet _ _ (by decide)⟩⟩
  rw [status] at active
  exact absurd (Value.text.inj active) (by decide)

theorem cancelKept (r : Web.Request) (s₀ : World) (all : AllHeld s₀.db) :
    ⦃fun s => ⌜s = s₀⌝⦄ cancelPage r
    ⦃post⟨fun _ s => ⌜Kept (Granted r.userId? s₀ .cancel) s₀ s⌝, fun _ s => ⌜Kept (Granted r.userId? s₀ .cancel) s₀ s⌝⟩⦄ := by
  mvcgen [cancelPage, existingSettings, App.message, App.now, WrittenRows.saveRunsSpec, -Steps.saveSpec]
  all_goals simp_all +zetaDelta
  case vc2.post.success.isFalse.post.success =>
    obtain ⟨-, ⟨owner, signed⟩, x, mem, rfl⟩ := ‹_ = s₀ ∧ (_ ∧ _) ∧ ∃ t ∈ s₀.db.rows Entity.userSettings, _›
    have saved := ‹App.save _ none s₀ = .ok _ _›
    exact keptAllowed (allHeldSaved saved all (by simp [Obj.ofRow]) (heldCancelled _)) rfl
      ⟨x, mem, ownsOf owner signed, ‹_›⟩
  all_goals first
    | exact keptQuiet all rfl
    | exact fun _ => keptQuiet all rfl
    | exact fun _ _ => keptQuiet all rfl

theorem trialKept (r : Web.Request) (s₀ : World) (all : AllHeld s₀.db) :
    ⦃fun s => ⌜s = s₀⌝⦄ trialPage r
    ⦃post⟨fun _ s => ⌜Kept (Granted r.userId? s₀ .trial) s₀ s⌝, fun _ s => ⌜Kept (Granted r.userId? s₀ .trial) s₀ s⌝⟩⦄ := by
  mvcgen [trialPage, existingSettings, App.message, App.now, App.ofExcept, WrittenRows.saveRunsSpec,
    -Steps.saveSpec]
  all_goals simp_all +zetaDelta
  case vc2.post.success.isFalse.h_1.post.success =>
    obtain ⟨-, ⟨owner, signed⟩, x, mem, rfl⟩ := ‹_ = s₀ ∧ (_ ∧ _) ∧ ∃ t ∈ s₀.db.rows Entity.userSettings, _›
    have saved := ‹App.save _ none s₀ = .ok _ _›
    exact keptAllowed (allHeldSaved saved all (by simp [Obj.ofRow]) (heldTrial _ _)) rfl
      ⟨x, mem, ownsOf owner signed, ‹_›⟩
  all_goals first
    | exact keptQuiet all rfl
    | exact fun _ => keptQuiet all rfl
    | exact fun _ _ => keptQuiet all rfl


theorem settingsPageHeld (r : Web.Request) (s₀ : World) (all : AllHeld s₀.db) :
    ⦃fun s => ⌜s = s₀⌝⦄ settingsPage r ⦃post⟨fun _ s => ⌜AllHeld s.db⌝, fun _ s => ⌜AllHeld s.db⌝⟩⦄ := by
  mvcgen [settingsPage, settingsOfHeld, App.readForm, App.message, App.render, App.now, App.find?, App.db,
    App.refOpt, WrittenRows.saveRunsSpec, -Steps.saveSpec]
  all_goals simp_all +zetaDelta
  obtain ⟨now, held, settings⟩ := ‹AllHeld _ ∧ Held _ _ ∧ _›
  have saved := ‹App.save _ none _ = .ok _ _›
  refine allHeldSaved saved now ?_ (heldSetOther (heldSetOther (heldSetOther held ?_ _) ?_ _) ?_ _)
  · simp [settings]
  all_goals decide


theorem apiKeyHeld (r : Web.Request) (s₀ : World) (all : AllHeld s₀.db) :
    ⦃fun s => ⌜s = s₀⌝⦄ apiKeyPage r ⦃post⟨fun _ s => ⌜AllHeld s.db⌝, fun _ s => ⌜AllHeld s.db⌝⟩⦄ := by
  mvcgen [apiKeyPage, settingsOfHeld, App.message, App.now, WrittenRows.saveRunsSpec, -Steps.saveSpec]
  all_goals simp_all +zetaDelta
  obtain ⟨now, held, settings⟩ := ‹AllHeld _ ∧ Held _ _ ∧ _›
  have saved := ‹App.save _ none _ = .ok _ _›
  refine allHeldSaved saved now ?_ (heldSetOther (heldSetOther held ?_ _) ?_ _)
  · simp [settings]
  all_goals decide

theorem plansHeld (r : Web.Request) (s₀ : World) (all : AllHeld s₀.db) :
    ⦃fun s => ⌜s = s₀⌝⦄ plansPage r ⦃post⟨fun _ s => ⌜AllHeld s.db⌝, fun _ s => ⌜AllHeld s.db⌝⟩⦄ := by
  mvcgen [plansPage, existingSettings, App.render, App.now, App.find?, App.db, App.refOpt]
  all_goals simp_all +zetaDelta

def SignedAs (r : Web.Request) : Prop := ∀ u ∈ r.user, u.entity = .user

theorem profileHeld (r : Web.Request) (signed : SignedAs r) (s₀ : World) (all : AllHeld s₀.db) :
    ⦃fun s => ⌜s = s₀⌝⦄ profilePage r ⦃post⟨fun _ s => ⌜AllHeld s.db⌝, fun _ s => ⌜AllHeld s.db⌝⟩⦄ := by
  mvcgen [profilePage, App.readForm, App.message, App.render, WrittenRows.saveRunsSpec, -Steps.saveSpec]
  all_goals simp_all +zetaDelta
  have user : _ = Entity.user := signed _ ‹r.user = some _›
  have saved := ‹App.save _ none _ = .ok _ _›
  obtain ⟨settingsSame, plansSame⟩ := otherSaveKeeps saved (by simp [user]) (by simp [user]) (by simp [user])
  exact allHeldOfTables all settingsSame plansSame


/-! ### The pages -/

def Passes (r : Web.Request) (p : DashboardPage) : Prop :=
  r.isAuthenticated = true ∧ (pageMethods p).contains r.method = true

def Allowed (r : Web.Request) (w : World) (p : DashboardPage) : Prop := Passes r p ∧ Granted r.userId? w p

theorem guardsPass {r : Web.Request} {ms : List String} (pass : [requireLogin r, requireMethods ms r].findSome? id = none) :
    r.isAuthenticated = true ∧ ms.contains r.method = true := by
  simp only [List.findSome?_cons, id, requireLogin, requireMethods, List.findSome?_nil] at pass
  by_cases signed : r.isAuthenticated = true <;> by_cases listed : r.method ∈ ms <;> simp_all

theorem pageKept (r : Web.Request) (signed : SignedAs r) (p : DashboardPage) (s₀ : World) (all : AllHeld s₀.db) :
    Kept (Allowed r s₀ p) s₀ (RequestLog.after (page r p s₀)) := by
  unfold page guarded
  rcases pass : [requireLogin r, requireMethods (pageMethods p) r].findSome? id with _ | resp
  · have passes : Passes r p := guardsPass pass
    -- each page's own facts, with its guards passed
    have granted : ∀ {w : World}, Kept (Granted r.userId? s₀ p) s₀ w → Kept (Allowed r s₀ p) s₀ w :=
      fun kept => ⟨kept.held, kept.settled.imp id fun g => ⟨passes, g⟩⟩
    have unguarded : ∀ {w : World}, AllHeld w.db → Granted r.userId? s₀ p → Kept (Allowed r s₀ p) s₀ w :=
      fun held g => keptAllowed held rfl ⟨passes, g⟩
    cases p with
    | home => exact keptQuiet all rfl
    | profile => exact unguarded (CommentForest.afterOfTriple (profileHeld r signed s₀ all)) trivial
    | settings => exact unguarded (CommentForest.afterOfTriple (settingsPageHeld r s₀ all)) trivial
    | apiKey => exact unguarded (CommentForest.afterOfTriple (apiKeyHeld r s₀ all)) trivial
    | plans => exact unguarded (CommentForest.afterOfTriple (plansHeld r s₀ all)) trivial
    | subscribe slug => exact granted (CommentForest.afterOfTriple (subscribeKept r slug s₀ all))
    | cancel => exact granted (CommentForest.afterOfTriple (cancelKept r s₀ all))
    | trial => exact granted (CommentForest.afterOfTriple (trialKept r s₀ all))
  · exact keptQuiet all rfl


/-! ### Runs -/

theorem activeExclusive (s : Obj) (now : Instant) :
    subscriptionActive s now = false ∨ trialActive s now = false := by
  by_cases active : s.getText "subscription_status" = "active"
  · right
    simp [trialActive, current, active]
  · left
    simp [subscriptionActive, current, active]

/-- One step of the dashboard: a request to one of its pages, by a signed-in user or by no one,
or the clock set anywhere, forward or back. -/
inductive DashStep : World → World → Prop
  | request (r : Web.Request) (signed : SignedAs r) (p : DashboardPage) (w : World) :
      DashStep w (RequestLog.after (page r p w))
  | tick (w : World) (t : Instant) : DashStep w { w with clock := t }

/-- What holds at a state the dashboard reached: every settings row is consistent, no record has
a current subscription and a current trial at once, and the next request keeps the rows
consistent and changes the settings only when it is allowed. -/
structure SubscriptionRun (w : World) : Prop where
  held : AllHeld w.db
  exclusive : ∀ x ∈ w.db.rows .userSettings, ∀ now : Instant,
    subscriptionActive (Obj.ofRow .userSettings x) now = false ∨ trialActive (Obj.ofRow .userSettings x) now = false
  next : ∀ r, SignedAs r → ∀ p, Kept (Allowed r w p) w (RequestLog.after (page r p w))

theorem stepHeld {w w' : World} (step : DashStep w w') (all : AllHeld w.db) : AllHeld w'.db := by
  cases step with
  | request r signed p => exact (pageKept r signed p w all).held
  | tick t => exact all

theorem subscriptionsKept {w₀ w : World} (start : AllHeld w₀.db) (run : Relation.ReflTransGen DashStep w₀ w) :
    SubscriptionRun w := by
  have held : AllHeld w.db := by
    induction run with
    | refl => exact start
    | tail _ step ih => exact stepHeld step ih
  exact ⟨held, fun x _ now => activeExclusive _ now, fun r signed p => pageKept r signed p w held⟩

def annRow : Row := ⟨1, [("username", .text "ann"), ("is_active", .bool true)]⟩

def proPlan : Row :=
  ⟨1, [("name", .text "Pro"), ("slug", .text "pro"), ("interval", .text "monthly"), ("is_active", .bool true)]⟩

def annStart : World :=
  RequestLog.after (App.save ((Obj.fresh .userSettings Instant.start).set "user" (.int 1)) none
    { db := (Db.empty.setTable .user { rows := [annRow], seq := 1 }).setTable .plan { rows := [proPlan], seq := 1 } })

def annSubscribe : Web.Request :=
  { method := "POST", path := "/dashboard/subscribe/pro/", user := some (Obj.ofRow .user annRow) }

def subscribedRun : World := RequestLog.after (page annSubscribe (.subscribe "pro") { annStart with clock := 120 })

theorem subscriptionsKeptFromStart : AllHeld annStart.db ∧
    Relation.ReflTransGen DashStep annStart subscribedRun ∧ SubscriptionRun subscribedRun ∧
    ((subscribedRun.db.rows .userSettings).map fun r => r.get "subscription_status" == .text "active") = [true] := by
  have resting : (annStart.db.rows .userSettings).all
      (fun r => r.get "subscription_status" == .text "inactive") = true := by
    decide +kernel
  have start : AllHeld annStart.db := fun x mem => by
    refine heldResting (t := "inactive") ?_ (by decide) (by decide)
    rw [Listing.ofRowGet]
    exact (WrittenRows.textBeq _ _).mp (List.all_eq_true.mp resting x mem)
  have signed : SignedAs annSubscribe := fun u mem => by
    simp only [annSubscribe, Option.mem_def, Option.some.injEq] at mem
    rw [← mem]
    rfl
  have run : Relation.ReflTransGen DashStep annStart subscribedRun :=
    .tail (.single (.tick annStart 120)) (.request annSubscribe signed (.subscribe "pro") _)
  exact ⟨start, run, subscriptionsKept start run, by decide +kernel⟩

end Portal.Subscriptions
