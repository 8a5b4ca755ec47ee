import Mathlib
import Portal.Proofs.Subscriptions
/-! Dashboard pages and a user who has no settings record yet. The settings and API key pages
make the record when it is missing; the plans, cancel and trial pages, and subscribing to an
active plan, only look it up. So a signed-in user's first request to one of those, with a method
it answers, fails with `DoesNotExist` and leaves the world as it was.

Main statement: `unsetSettingsFail`. -/
namespace Portal.MissingSettings
open Dashboard Web Listing

def Unset (db : Db) (user : Option Nat) : Prop :=
  ∀ x ∈ db.rows .userSettings, ¬Subscriptions.Owns user x

/-- The dashboard pages that read the user's settings record without making it: the plans, the
cancel and the trial pages, and subscribing to a slug that exactly one active plan has. -/
inductive ReadsSettings (db : Db) : DashboardPage → Prop
  | plans : ReadsSettings db .plans
  | cancel : ReadsSettings db .cancel
  | trial : ReadsSettings db .trial
  | subscribe {slug : String} {plan : Row}
      (one : (db.rows .plan).filter (fun t => t.getText "slug" == slug && t.getBool "is_active") = [plan]) :
      ReadsSettings db (.subscribe slug)

theorem existingUnset {w : World} {user : Option Nat} (unset : Unset w.db user) :
    existingSettings user w = .error (Fault.doesNotExist "UserSettings") w := by
  have none : ((w.db.rows .userSettings).map (Obj.ofRow .userSettings)).filter
      (fun s => (s.get "user").asNat? == user && user.isSome) = [] := by
    refine List.filter_eq_nil_iff.mpr fun o mem owned => ?_
    obtain ⟨x, inside, rfl⟩ := List.mem_map.mp mem
    exact unset x inside (by simpa [Subscriptions.Owns] using owned)
  unfold existingSettings App.getWhere
  rw [bindRun (allRun .userSettings w), none]
  rfl

theorem activePlansRun (w : World) :
    ∃ plans, App.select .plan [("is_active", .bool true)] false w = .ok plans w :=
  ⟨_, rfl⟩

theorem getOr404One {w : World} {e : Entity} {p : Obj → Bool} {o : Obj}
    (one : ((w.db.rows e).map (Obj.ofRow e)).filter p = [o]) : App.getOr404 e p w = .ok o w := by
  unfold App.getOr404
  rw [bindRun (allRun e w), one]
  rfl

theorem guardsOpen {r : Request} {ms : List String} (signed : r.isAuthenticated = true)
    (allowed : ms.contains r.method = true) : [requireLogin r, requireMethods ms r].findSome? id = none := by
  have listed : r.method ∈ ms := List.contains_iff_mem.mp allowed
  simp [requireLogin, requireMethods, signed, listed]

section Pages
variable {r : Request} {w : World} (unset : Unset w.db r.userId?)
include unset

theorem plansUnset : plansPage r w = .error (Fault.doesNotExist "UserSettings") w := by
  obtain ⟨plans, selected⟩ := activePlansRun w
  unfold plansPage
  rw [bindRun selected, CommentForest.bindFails (existingUnset unset)]

theorem cancelUnset : cancelPage r w = .error (Fault.doesNotExist "UserSettings") w := by
  unfold cancelPage
  rw [CommentForest.bindFails (existingUnset unset)]

theorem trialUnset : trialPage r w = .error (Fault.doesNotExist "UserSettings") w := by
  unfold trialPage
  rw [CommentForest.bindFails (existingUnset unset)]

theorem subscribeUnset {slug : String} {plan : Row}
    (one : (w.db.rows .plan).filter (fun t => t.getText "slug" == slug && t.getBool "is_active") = [plan]) :
    subscribePage r slug w = .error (Fault.doesNotExist "UserSettings") w := by
  have found : ((w.db.rows .plan).map (Obj.ofRow .plan)).filter
      (fun p => p.getText "slug" == slug && p.getBool "is_active") = [Obj.ofRow .plan plan] := by
    have same : ((fun p : Obj => p.getText "slug" == slug && p.getBool "is_active") ∘ Obj.ofRow .plan) =
        fun t => t.getText "slug" == slug && t.getBool "is_active" := by
      funext t
      simp
    rw [List.filter_map, same, one]
    rfl
  unfold subscribePage
  rw [bindRun (getOr404One found), CommentForest.bindFails (existingUnset unset)]

end Pages

theorem unsetSettingsFail (r : Request) (w : World) (p : DashboardPage) (signed : r.isAuthenticated = true)
    (allowed : (pageMethods p).contains r.method = true) (reads : ReadsSettings w.db p)
    (unset : Unset w.db r.userId?) :
    page r p w = .error (Fault.doesNotExist "UserSettings") w := by
  unfold page guarded
  rw [guardsOpen signed allowed]
  cases reads with
  | plans => exact plansUnset unset
  | cancel => exact cancelUnset unset
  | trial => exact trialUnset unset
  | subscribe one => exact subscribeUnset unset one

def firstUserAsksPlans : Request :=
  { path := "/dashboard/subscription/plans/", user := some (Obj.ofRow .user ⟨1, []⟩) }

theorem emptyUnset (user : Option Nat) : Unset ({} : World).db user := by
  intro x mem
  cases (show x ∈ ([] : List Row) from mem)

theorem firstPlansVisitFails :
    firstUserAsksPlans.isAuthenticated = true ∧ (pageMethods .plans).contains firstUserAsksPlans.method = true ∧
      ReadsSettings ({} : World).db .plans ∧ Unset ({} : World).db firstUserAsksPlans.userId? ∧
      page firstUserAsksPlans .plans {} = .error (Fault.doesNotExist "UserSettings") {} :=
  ⟨rfl, rfl, .plans, emptyUnset _, unsetSettingsFail _ _ _ rfl rfl .plans (emptyUnset _)⟩

end Portal.MissingSettings
