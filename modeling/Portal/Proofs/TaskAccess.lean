import Mathlib
import Portal.Proofs.Listing
import Portal.Proofs.Steps
import Portal.Tasks.Views
namespace Portal.TaskAccess
open Std.Do Listing Answers Steps Tasks

set_option mvcgen.warning false

def Sees (db : Db) (b : Board) (t : Row) (u : Nat) : Prop :=
  t.getNat? "created_by" = some u ∨
  (∃ a ∈ db.rows (.userTask b), a.getNat? "task" = some t.pk ∧ a.getNat? "user" = some u ∧
    a.getBool "is_active" = true) ∨
  (∃ s ∈ db.rows (.taskShare b), s.getNat? "task" = some t.pk ∧ s.getNat? "shared_with" = some u)

instance (db : Db) (b : Board) (t : Row) (u : Nat) : Decidable (Sees db b t u) :=
  inferInstanceAs (Decidable (_ ∨ _ ∨ _))

theorem canViewRun (b : Board) (t : Row) (u : Nat) (w : World) :
    canView b (Obj.ofRow (.task b) t) (some u) w = .ok (decide (Sees w.db b t u)) w := by
  have same : (isCreator (Obj.ofRow (.task b) t) (some u) ||
      ((w.db.rows (.userTask b)).map (Obj.ofRow (.userTask b))).any (fun a =>
        refersTo a "task" (Obj.ofRow (.task b) t).pk && refersTo a "user" (some u) && a.getBool "is_active") ||
      (((w.db.rows (.taskShare b)).map (Obj.ofRow (.taskShare b))).find? (fun s =>
        refersTo s "task" (Obj.ofRow (.task b) t).pk && refersTo s "shared_with" (some u))).isSome) =
      decide (Sees w.db b t u) := by
    rw [Bool.eq_iff_iff, decide_eq_true_iff]
    simp [Sees, isCreator, refersTo, Row.getNat?, Row.getBool, List.any_eq_true, List.find?_isSome, or_assoc, and_assoc]
  rw [← same]
  rfl

theorem detailRefuses {b : Board} {r : Web.Request} {u : Nat} {w : World} {t : Row}
    (keyed : Keyed w.db (.task b)) (mem : t ∈ w.db.rows (.task b)) (user : r.userId? = some u) :
    Refuses (taskDetail b r t.pk) w ↔ ¬Sees w.db b t u := by
  unfold Refuses taskDetail
  rw [user, bindRun (getOr404Run keyed mem), bindRun (canViewRun b t u w)]
  by_cases sees : Sees w.db b t u
  · simp only [sees, decide_true, Bool.not_true, Bool.false_eq_true, if_false, not_true_eq_false,
      iff_false]
    apply notRefused
    mvcgen [App.render]
    all_goals simp_all
  · simp [sees, statusOf, forbidden, pure, EStateM.pure]


def grants (db : Db) (b : Board) (t : Row) (u : Nat) (perms : List String) : Bool :=
  t.getNat? "created_by" == some u ||
    match (db.rows (.taskShare b)).find? (fun s =>
        s.getNat? "task" == some t.pk && s.getNat? "shared_with" == some u) with
    | some s => perms.contains (s.getText "permission")
    | none => false

theorem shareOfRun (b : Board) (t : Row) (u : Nat) (w : World) :
    shareOf b (Obj.ofRow (.task b) t) (some u) w =
      .ok (((w.db.rows (.taskShare b)).find? (fun s =>
        s.getNat? "task" == some t.pk && s.getNat? "shared_with" == some u)).map
          (Obj.ofRow (.taskShare b))) w := by
  have same : ((w.db.rows (.taskShare b)).map (Obj.ofRow (.taskShare b))).find? (fun s =>
      refersTo s "task" (Obj.ofRow (.task b) t).pk && refersTo s "shared_with" (some u)) =
      ((w.db.rows (.taskShare b)).find? (fun s =>
        s.getNat? "task" == some t.pk && s.getNat? "shared_with" == some u)).map
          (Obj.ofRow (.taskShare b)) := by
    rw [List.find?_map]
    congr 2
  rw [← same]
  rfl

theorem grantedRun (b : Board) (t : Row) (u : Nat) (perms : List String) (w : World) :
    granted b (Obj.ofRow (.task b) t) (some u) perms w = .ok (grants w.db b t u perms) w := by
  unfold granted grants
  by_cases creator : t.getNat? "created_by" = some u
  · have : isCreator (Obj.ofRow (.task b) t) (some u) = true := by
      simpa [isCreator, refersTo, Row.getNat?] using creator
    simp [this, creator]
    rfl
  · have other : isCreator (Obj.ofRow (.task b) t) (some u) = false := by
      simpa [isCreator, refersTo, Row.getNat?] using creator
    have notFirst : (t.getNat? "created_by" == some u) = false := by simpa using creator
    simp only [other, Bool.false_eq_true, if_false, notFirst, Bool.false_or]
    rw [bindRun (shareOfRun b t u w)]
    cases (w.db.rows (.taskShare b)).find? (fun s =>
        s.getNat? "task" == some t.pk && s.getNat? "shared_with" == some u) <;> rfl


theorem grantsWiden {db : Db} {b : Board} {t : Row} {u : Nat} {perms more : List String}
    (sub : perms ⊆ more) (h : grants db b t u perms = true) : grants db b t u more = true := by
  unfold grants at h ⊢
  split <;> simp_all
  exact h.imp_right fun p => sub p

theorem seesOfGrants {db : Db} {b : Board} {t : Row} {u : Nat} {perms : List String}
    (h : grants db b t u perms = true) : Sees db b t u := by
  unfold grants at h
  split at h
  · rename_i s found
    have share := List.mem_of_find?_eq_some found
    have names := List.find?_some found
    simp only [Bool.and_eq_true, beq_iff_eq] at names
    exact .inr (.inr ⟨s, share, names⟩)
  · simp only [Bool.or_false, beq_iff_eq] at h
    exact .inl h

theorem editRefuses {b : Board} {r : Web.Request} {u : Nat} {w : World} {t : Row}
    (keyed : Keyed w.db (.task b)) (mem : t ∈ w.db.rows (.task b)) (user : r.userId? = some u) :
    Refuses (taskEdit b r t.pk) w ↔ grants w.db b t u ["edit", "delete"] = false := by
  unfold Refuses taskEdit
  rw [user, bindRun (getOr404Run keyed mem), bindRun (grantedRun b t u _ w)]
  cases allowed : grants w.db b t u ["edit", "delete"]
  · simp [statusOf, forbidden, pure, EStateM.pure]
  · simp only [Bool.not_true, Bool.false_eq_true, if_false, Bool.true_eq_false, iff_false]
    apply notRefused
    mvcgen [noCheck, App.readForm, App.message, App.render]
    all_goals simp +contextual [Web.Response.redirect]
theorem removeRefuses {b : Board} {r : Web.Request} {u : Nat} {w : World} {t : Row}
    (keyed : Keyed w.db (.task b)) (mem : t ∈ w.db.rows (.task b)) (user : r.userId? = some u) :
    Refuses (taskDelete b r t.pk) w ↔ grants w.db b t u ["delete"] = false := by
  unfold Refuses taskDelete
  rw [user, bindRun (getOr404Run keyed mem), bindRun (grantedRun b t u _ w)]
  cases allowed : grants w.db b t u ["delete"]
  · simp [statusOf, forbidden, pure, EStateM.pure]
  · simp only [Bool.not_true, Bool.false_eq_true, if_false, Bool.true_eq_false, iff_false]
    apply notRefused
    mvcgen [App.message, App.render]
    all_goals simp +contextual [Web.Response.redirect]

theorem shareRefuses {b : Board} {r : Web.Request} {u : Nat} {w : World} {t : Row}
    (keyed : Keyed w.db (.task b)) (mem : t ∈ w.db.rows (.task b)) (user : r.userId? = some u) :
    Refuses (shareTask b r t.pk) w ↔ grants w.db b t u ["assign"] = false := by
  unfold Refuses shareTask
  rw [user, bindRun (getOr404Run keyed mem), bindRun (grantedRun b t u _ w)]
  cases allowed : grants w.db b t u ["assign"]
  · simp [statusOf, forbidden, pure, EStateM.pure]
  · simp only [Bool.not_true, Bool.false_eq_true, if_false, Bool.true_eq_false, iff_false]
    apply notRefused
    mvcgen [shareWith, readShare, shareOf, App.all, App.db, App.now, App.readForm, App.message, App.render]
    all_goals simp +contextual [Web.Response.redirect]

theorem commentRefuses {b : Board} {r : Web.Request} {u : Nat} {w : World} {t : Row}
    (keyed : Keyed w.db (.task b)) (mem : t ∈ w.db.rows (.task b)) (user : r.userId? = some u)
    (post : r.method = "POST") :
    Refuses (addComment b r t.pk) w ↔ ¬Sees w.db b t u := by
  unfold Refuses addComment
  simp only [post, bne_self_eq_false, Bool.false_eq_true, if_false]
  rw [user, bindRun (getOr404Run keyed mem), bindRun (canViewRun b t u w)]
  by_cases sees : Sees w.db b t u
  · simp only [sees, decide_true, Bool.not_true, Bool.false_eq_true, if_false, not_true_eq_false,
      iff_false]
    apply notRefused
    mvcgen [noCheck, App.readForm, App.message, App.now, App.render]
    all_goals simp +contextual [Web.Response.redirect]
  · simp [sees, statusOf, forbidden, pure, EStateM.pure]


theorem visibleDecides (b : Board) (t : Row) (u : Nat) (w : World) :
    (isCreator (Obj.ofRow (.task b) t) (some u) ||
      ((w.db.rows (.userTask b)).map (Obj.ofRow (.userTask b))).any (fun a =>
        refersTo a "task" (Obj.ofRow (.task b) t).pk && refersTo a "user" (some u) && a.getBool "is_active") ||
      ((w.db.rows (.taskShare b)).map (Obj.ofRow (.taskShare b))).any (fun s =>
        refersTo s "task" (Obj.ofRow (.task b) t).pk && refersTo s "shared_with" (some u))) =
      decide (Sees w.db b t u) := by
  rw [Bool.eq_iff_iff, decide_eq_true_iff]
  simp [Sees, isCreator, refersTo, Row.getNat?, Row.getBool, List.any_eq_true, or_assoc, and_assoc]

theorem visibleTasksPerm (b : Board) (u : Nat) (w : World) :
    ∃ xs, visibleTasks b (some u) w = .ok xs w ∧
      xs.Perm (((w.db.rows (.task b)).filter fun t => decide (Sees w.db b t u)).map (Obj.ofRow (.task b))) := by
  unfold visibleTasks
  rw [bindRun (selectAllRun _ w), bindRun (allRun _ w), bindRun (allRun _ w)]
  refine ⟨_, rfl, ?_⟩
  refine ((defaultOrderPerm _ _).filter _).trans (List.Perm.of_eq ?_)
  rw [List.filter_map]
  congr 1
  exact List.filter_congr fun t _ => visibleDecides b t u w

theorem seenOnce {rows : List Row} {t : Row} {p : Row → Bool} (keys : (rows.map Row.pk).Nodup)
    (mem : t ∈ rows) : ((rows.filter p).map (Obj.ofRow e)).countP (·.pk == some t.pk) =
      if p t then 1 else 0 := by
  rw [List.countP_map, List.countP_eq_length_filter, List.filter_comm]
  have same : ((·.pk == some t.pk) ∘ Obj.ofRow e) = fun r : Row => r.pk == t.pk := by
    funext r; simp
  rw [same, keyedFilter keys mem]
  cases h : p t <;> simp [h]

theorem visibleListing {b : Board} {u : Nat} {w : World} {t : Row} (keyed : Keyed w.db (.task b))
    (mem : t ∈ w.db.rows (.task b)) :
    ∃ xs, visibleTasks b (some u) w = .ok xs w ∧
      xs.countP (·.pk == some t.pk) = (if Sees w.db b t u then 1 else 0) ∧
      (Obj.ofRow (.task b) t ∈ xs ↔ Sees w.db b t u) := by
  obtain ⟨xs, run, perm⟩ := visibleTasksPerm b u w
  have count : xs.countP (·.pk == some t.pk) = (if Sees w.db b t u then 1 else 0) := by
    rw [perm.countP_eq, seenOnce keyed mem]
    simp
  refine ⟨xs, run, count, fun listed => ?_, fun sees => ?_⟩
  · have pos : 0 < xs.countP (·.pk == some t.pk) := List.countP_pos_iff.mpr ⟨_, listed, by simp⟩
    rw [count] at pos
    split at pos
    · assumption
    · omega
  · exact perm.mem_iff.mpr (List.mem_map_of_mem (List.mem_filter.mpr ⟨mem, by simpa using sees⟩))

def Unfiltered (r : Web.Request) : Prop :=
  ∀ k ∈ ["status", "priority", "search"], (r.param? k).getD "" = ""

instance (r : Web.Request) : Decidable (Unfiltered r) :=
  inferInstanceAs (Decidable (∀ k ∈ _, _))

theorem listedUnfiltered {b : Board} {r : Web.Request} (h : Unfiltered r) :
    listedTasks b r = visibleTasks b r.userId? := by
  have status := h "status" (by simp)
  have priority := h "priority" (by simp)
  have search := h "search" (by simp)
  cases hs : r.param? "status" <;> cases hp : r.param? "priority" <;>
    cases hq : r.param? "search" <;> simp_all [listedTasks]

theorem guardedSignedIn {r : Web.Request} {u : Nat} (user : r.userId? = some u)
    (view : App Web.Response) : Web.guarded [Web.requireLogin r] view = view := by
  have signedIn : r.isAuthenticated = true := by
    cases h : r.user <;> simp_all [Web.Request.isAuthenticated, Web.Request.userId?]
  simp [Web.guarded, Web.requireLogin, signedIn]

theorem taskAccessAgrees {b : Board} {w : World} {u : Nat} {t : Row} {r : Web.Request}
    (keyed : Keyed w.db (.task b)) (mem : t ∈ w.db.rows (.task b))
    (user : r.userId? = some u) (unfiltered : Unfiltered r) :
    (∃ xs, listedTasks b r w = .ok xs w ∧
      xs.countP (·.pk == some t.pk) = (if Sees w.db b t u then 1 else 0) ∧
      ((∃ n : Nat, Obj.ofRow (.task b) t ∈ (Web.pageLeniently xs 10 (some (toString n))).items) ↔
        Sees w.db b t u)) ∧
    (∀ r' : Web.Request, r'.userId? = some u →
      (¬Refuses (page b r' (.detail t.pk)) w ↔ Sees w.db b t u) ∧
      (r'.method = "POST" → (¬Refuses (page b r' (.comment t.pk)) w ↔ Sees w.db b t u))) ∧
    (∀ r₁ r₂ : Web.Request, r₁.userId? = some u → r₂.userId? = some u →
      (¬Refuses (page b r₁ (.remove t.pk)) w → ¬Refuses (page b r₂ (.edit t.pk)) w) ∧
      (¬Refuses (page b r₁ (.edit t.pk)) w → ¬Refuses (page b r₂ (.detail t.pk)) w) ∧
      (¬Refuses (page b r₁ (.share t.pk)) w → ¬Refuses (page b r₂ (.detail t.pk)) w)) := by
  refine ⟨?list, fun r' user' => ⟨?detail, fun post => ?comment⟩, fun r₁ r₂ one two => ⟨?edit, ?view, ?share⟩⟩
  case list =>
    obtain ⟨xs, run, count, listed⟩ := visibleListing (u := u) keyed mem
    rw [listedUnfiltered unfiltered, user]
    refine ⟨xs, run, count, ⟨fun ⟨_, onPage⟩ => listed.mp (onPageMem onPage), fun sees => ?_⟩⟩
    exact onSomePage (by decide) (listed.mpr sees)
  case detail =>
    simp only [page, guardedSignedIn user', detailRefuses keyed mem user', not_not]
  case comment =>
    simp only [page, guardedSignedIn user', commentRefuses keyed mem user' post, not_not]
  case edit =>
    simp only [page, guardedSignedIn one, guardedSignedIn two, removeRefuses keyed mem one,
      editRefuses keyed mem two, Bool.not_eq_false]
    exact grantsWiden (by simp)
  case view =>
    simp only [page, guardedSignedIn one, guardedSignedIn two, editRefuses keyed mem one,
      detailRefuses keyed mem two, Bool.not_eq_false, not_not]
    exact seesOfGrants
  case share =>
    simp only [page, guardedSignedIn one, guardedSignedIn two, shareRefuses keyed mem one,
      detailRefuses keyed mem two, Bool.not_eq_false, not_not]
    exact seesOfGrants

def sharedOnce : World :=
  { db := { tables := [(.task .todo, { rows := [⟨1, [("created_by", .int 7)]⟩] }),
      (.taskShare .todo, { rows := [⟨1, [("task", .int 1), ("shared_with", .int 8),
        ("permission", .text "view")]⟩] })], links := [] } }

def asUser (u : Nat) (path : String) : Web.Request :=
  { path, user := some { entity := .user, pk := some u, cells := [] } }

theorem sharedTaskOpens : ¬Refuses (page .todo (asUser 8 "/tasks/task/1/") (.detail 1)) sharedOnce :=
  ((taskAccessAgrees (t := ⟨1, [("created_by", .int 7)]⟩) (r := asUser 8 "/tasks/") (by decide)
    (by simp [sharedOnce, Db.rows, Db.table]) rfl (by decide)).2.1 _ rfl).1.mpr (by decide)

end Portal.TaskAccess
