import Mathlib
import Portal.Proofs.TaskAccess
/-! Which tasks a todo page shows. A page shows a task by placing a reference to it in the
context it renders. Every page a signed-in user opens shows only tasks the user may view,
with one exception: a list's page shows every task the list holds once the user may open the
list, which a public list lets anyone do. -/
namespace Portal.TaskDisclosure
open Std.Do Listing Answers Steps Mentions TaskAccess Tasks

set_option mvcgen.warning false

def after {α : Type} : EStateM.Result Fault World α → World
  | .ok _ s => s
  | .error _ s => s

def shownTasks (b : Board) (s : World) : List Int :=
  match s.exchange.context with
  | some c => refKeys (Entity.task b).label c
  | none => []

def SeenKey (db : Db) (b : Board) (u : Nat) (k : Int) : Prop :=
  ∃ t ∈ db.rows (.task b), (t.pk : Int) = k ∧ Sees db b t u

@[simp] theorem keyOfRow (label : String) (e : Entity) (t : Row) :
    keyOf label (Obj.ofRow e t) = if e.label = label then [(t.pk : Int)] else [] := by
  by_cases same : e.label = label <;> simp [keyOf, Obj.ofRow, same]

@[spec] theorem canViewSpec (b : Board) (task : Obj) (user : Option Nat) (s₀ : World) :
    ⦃fun s => ⌜s = s₀⌝⦄ canView b task user
    ⦃post⟨fun v s => ⌜s = s₀ ∧ (v = true → ∀ t u, task = Obj.ofRow (.task b) t → user = some u →
      Sees s₀.db b t u)⌝, fun _ _ => ⌜False⌝⟩⦄ := by
  mvcgen [canView, assigned, shareOf, App.all, App.db]
  subst_vars
  refine ⟨rfl, ?_⟩
  rintro allowed t u rfl rfl
  simpa [Sees, isCreator, refersTo, Row.getNat?, Row.getBool, List.any_eq_true, List.find?_isSome,
    or_assoc, and_assoc] using allowed

@[spec] theorem grantedSpec (b : Board) (task : Obj) (user : Option Nat) (perms : List String)
    (s₀ : World) :
    ⦃fun s => ⌜s = s₀⌝⦄ granted b task user perms
    ⦃post⟨fun v s => ⌜s = s₀ ∧ (v = true → ∀ t u, task = Obj.ofRow (.task b) t → user = some u →
      Sees s₀.db b t u)⌝, fun _ _ => ⌜False⌝⟩⦄ := by
  mvcgen [granted, shareOf, App.all, App.db]
  all_goals subst_vars; refine ⟨rfl, ?_⟩
  · rintro t u rfl rfl
    rename_i creator
    left
    simpa [isCreator, refersTo, Row.getNat?] using creator
  · rintro - t u rfl rfl
    rename_i share found
    obtain ⟨row, mem, rfl⟩ := List.mem_map.mp (List.mem_of_find?_eq_some found)
    have names := List.find?_some found
    simp only [refersTo, Bool.and_eq_true, ofRowGet, ofRowPk] at names
    right; right
    exact ⟨row, mem, by simpa [Row.getNat?] using names⟩
  · simp

theorem storeOnlyIff {s₀ s : World} : StoreOnly s₀ s ↔
    s.clock = s₀.clock ∧ s.context = s₀.context ∧ s.uuids = s₀.uuids ∧ s.layer = s₀.layer ∧
      s.settings = s₀.settings ∧ s.exchange = s₀.exchange ∧ s.login = s₀.login ∧
      s.probes = s₀.probes ∧ s.probeCount = s₀.probeCount ∧ s.sockets = s₀.sockets ∧
      s.outbox = s₀.outbox ∧ s.terminal = s₀.terminal ∧ s.plugins = s₀.plugins ∧ s.host = s₀.host := by
  cases s; cases s₀
  simp [StoreOnly]

theorem labelsDiffer (b : Board) :
    (Entity.taskComment b).label ≠ (Entity.task b).label ∧
      (Entity.taskList b).label ≠ (Entity.task b).label := by
  cases b <;> decide

theorem taskKeySeen {db : Db} {b : Board} {u : Nat} {task : Obj} {A B C : Prop}
    (found : A ∧ B ∧ ∃ t ∈ db.rows (.task b), task = Obj.ofRow (.task b) t)
    (seen : C ∧ ∀ t, task = Obj.ofRow (.task b) t → Sees db b t u) :
    ∀ k ∈ keyOf (Entity.task b).label task, SeenKey db b u k := by
  obtain ⟨-, -, t, mem, rfl⟩ := found
  replace seen := seen.2
  intro k here
  simp only [keyOfRow, if_true, List.mem_singleton] at here
  exact ⟨t, mem, here.symm, seen t rfl⟩

theorem seenKeys {db : Db} {b : Board} {u : Nat} {os : List Obj} {A : Prop}
    (listed : A ∧ ∀ o ∈ os, ∃ t ∈ db.rows (.task b), o = Obj.ofRow (.task b) t ∧ Sees db b t u)
    {xs : List Obj} (sub : ∀ x ∈ xs, x ∈ os) :
    ∀ k, ∀ x ∈ xs, k ∈ keyOf (Entity.task b).label x → SeenKey db b u k := by
  intro k x picked here
  obtain ⟨t, mem, rfl, sees⟩ := listed.2 x (sub x picked)
  simp only [keyOfRow, if_true, List.mem_singleton] at here
  exact ⟨t, mem, here.symm, sees⟩

theorem noTaskKeys {db : Db} {e : Entity} {b : Board} {os : List Obj} {A : Prop} {R : Obj → Prop}
    {P : Int → Prop} (ne : e.label ≠ (Entity.task b).label)
    (rows : A ∧ ∀ o ∈ os, ∃ t ∈ db.rows e, o = Obj.ofRow e t) :
    ∀ k, ∀ x ∈ os, R x → k ∈ keyOf (Entity.task b).label x → P k := by
  intro k x listed _ here
  obtain ⟨t, -, rfl⟩ := rows.2 x listed
  simp [keyOfRow, ne] at here

@[simp] theorem refKeysChoices (label : String) (cs : List (String × String)) :
    refKeys label (choicesJson cs) = [] := by
  induction cs <;> simp_all [choicesJson]

@[spec] theorem visibleTasksSpec (b : Board) (user : Option Nat) (s₀ : World) :
    ⦃fun s => ⌜s = s₀⌝⦄ visibleTasks b user
    ⦃post⟨fun xs s => ⌜s = s₀ ∧ ∀ o ∈ xs, ∃ t ∈ s₀.db.rows (.task b), o = Obj.ofRow (.task b) t ∧
      ∀ u, user = some u → Sees s₀.db b t u⌝, fun f s => ⌜s = s₀ ∧ Plain f⌝⟩⦄ := by
  mvcgen [visibleTasks, App.all, App.db]
  all_goals simp_all
  intro o listed passes
  rename_i selected
  obtain ⟨t, mem, rfl⟩ := selected.2 o listed
  refine ⟨t, mem, rfl, fun u same => ?_⟩
  subst same
  simpa [Sees, isCreator, refersTo, Row.getNat?, Row.getBool, or_assoc, and_assoc] using passes

@[spec] theorem listedTasksSpec (b : Board) (r : Web.Request) (s₀ : World) :
    ⦃fun s => ⌜s = s₀⌝⦄ listedTasks b r
    ⦃post⟨fun xs s => ⌜s = s₀ ∧ ∀ o ∈ xs, ∃ t ∈ s₀.db.rows (.task b), o = Obj.ofRow (.task b) t ∧
      ∀ u, r.userId? = some u → Sees s₀.db b t u⌝, fun f s => ⌜s = s₀ ∧ Plain f⌝⟩⦄ := by
  mvcgen [listedTasks]
  all_goals simp_all +zetaDelta

def Shows (b : Board) (ok : Int → Prop) (s : World) : Prop := ∀ k ∈ shownTasks b s, ok k

theorem showsAfter {view : App Web.Response} {w : World} {b : Board} {ok : Int → Prop}
    (h : ⦃fun s => ⌜s = w⌝⦄ view ⦃post⟨fun _ s => ⌜Shows b ok s⌝, fun _ s => ⌜Shows b ok s⌝⟩⦄) :
    Shows b ok (after (view w)) := by
  have run := runOfTriple h
  unfold after
  split <;> simp_all

theorem detailShows {b : Board} {r : Web.Request} {u : Nat} {w : World}
    (user : r.userId? = some u) (fresh : w.exchange.context = none) (pk : Nat) :
    ⦃fun s => ⌜s = w⌝⦄ taskDetail b r pk
    ⦃post⟨fun _ s => ⌜Shows b (SeenKey w.db b u) s⌝, fun _ s => ⌜Shows b (SeenKey w.db b u) s⌝⟩⦄ := by
  mvcgen [taskDetail, App.render]
  all_goals simp_all +zetaDelta [Shows, shownTasks, refKeysObj, refHere, refKeysSummary]
  rename_i found _ seen comments _ _
  obtain ⟨-, -, t, mem, rfl⟩ := found
  rintro k (here | ⟨c, listed, there⟩)
  · simp only [keyOfRow, if_true, List.mem_singleton] at here
    exact ⟨t, mem, here.symm, seen.2 t rfl⟩
  · obtain ⟨row, -, rfl⟩ := comments.2 c listed
    simp [keyOfRow, labelsDiffer] at there

theorem editShows {b : Board} {r : Web.Request} {u : Nat} {w : World}
    (user : r.userId? = some u) (fresh : w.exchange.context = none) (pk : Nat) :
    ⦃fun s => ⌜s = w⌝⦄ taskEdit b r pk
    ⦃post⟨fun _ s => ⌜Shows b (SeenKey w.db b u) s⌝, fun _ s => ⌜Shows b (SeenKey w.db b u) s⌝⟩⦄ := by
  mvcgen [taskEdit, App.render, App.readForm, App.message, noCheck]
  all_goals simp_all +zetaDelta [Shows, shownTasks, refKeysObj, refHere, refKeysSummary, storeOnlyIff,
    taskFormJson]
  all_goals exact taskKeySeen ‹_› ‹_›

theorem removeShows {b : Board} {r : Web.Request} {u : Nat} {w : World}
    (user : r.userId? = some u) (fresh : w.exchange.context = none) (pk : Nat) :
    ⦃fun s => ⌜s = w⌝⦄ taskDelete b r pk
    ⦃post⟨fun _ s => ⌜Shows b (SeenKey w.db b u) s⌝, fun _ s => ⌜Shows b (SeenKey w.db b u) s⌝⟩⦄ := by
  mvcgen [taskDelete, App.render, App.message]
  all_goals simp_all +zetaDelta [Shows, shownTasks, refKeysObj, refHere, storeOnlyIff]
  all_goals exact taskKeySeen ‹_› ‹_›

theorem shareShows {b : Board} {r : Web.Request} {u : Nat} {w : World}
    (user : r.userId? = some u) (fresh : w.exchange.context = none) (pk : Nat) :
    ⦃fun s => ⌜s = w⌝⦄ shareTask b r pk
    ⦃post⟨fun _ s => ⌜Shows b (SeenKey w.db b u) s⌝, fun _ s => ⌜Shows b (SeenKey w.db b u) s⌝⟩⦄ := by
  mvcgen [shareTask, shareWith, App.render, App.readForm, App.message, App.now, readShare, shareOf, App.all,
    App.db]
  all_goals simp_all +zetaDelta [Shows, shownTasks, refKeysObj, refHere, refKeysSummary, storeOnlyIff,
    shareFormJson]
  all_goals exact taskKeySeen ‹_› ‹_›

theorem commentShows {b : Board} {r : Web.Request} {u : Nat} {w : World}
    (user : r.userId? = some u) (fresh : w.exchange.context = none) (pk : Nat) :
    ⦃fun s => ⌜s = w⌝⦄ addComment b r pk
    ⦃post⟨fun _ s => ⌜Shows b (SeenKey w.db b u) s⌝, fun _ s => ⌜Shows b (SeenKey w.db b u) s⌝⟩⦄ := by
  mvcgen [addComment, App.readForm, App.message, App.now, noCheck]
  all_goals simp_all +zetaDelta [Shows, shownTasks, storeOnlyIff]

theorem createShows {b : Board} {r : Web.Request} {u : Nat} {w : World}
    (fresh : w.exchange.context = none) :
    ⦃fun s => ⌜s = w⌝⦄ taskCreate b r
    ⦃post⟨fun _ s => ⌜Shows b (SeenKey w.db b u) s⌝, fun _ s => ⌜Shows b (SeenKey w.db b u) s⌝⟩⦄ := by
  mvcgen [taskCreate, App.render, App.readForm, App.message, App.now, noCheck]
  all_goals simp_all +zetaDelta [Shows, shownTasks, refKeysObj, refHere, refKeysSummary, storeOnlyIff,
    taskFormJson]

theorem listShows {b : Board} {r : Web.Request} {u : Nat} {w : World}
    (user : r.userId? = some u) (fresh : w.exchange.context = none) :
    ⦃fun s => ⌜s = w⌝⦄ taskList b r
    ⦃post⟨fun _ s => ⌜Shows b (SeenKey w.db b u) s⌝, fun _ s => ⌜Shows b (SeenKey w.db b u) s⌝⟩⦄ := by
  mvcgen [taskList, App.render, Web.pageJson]
  all_goals simp_all +zetaDelta [Shows, shownTasks, refKeysObj, refHere]
  exact seenKeys ‹_› fun _ onPage => onPageMem onPage

theorem sharedShows {b : Board} {r : Web.Request} {u : Nat} {w : World}
    (user : r.userId? = some u) (fresh : w.exchange.context = none) :
    ⦃fun s => ⌜s = w⌝⦄ sharedTasks b r
    ⦃post⟨fun _ s => ⌜Shows b (SeenKey w.db b u) s⌝, fun _ s => ⌜Shows b (SeenKey w.db b u) s⌝⟩⦄ := by
  mvcgen [sharedTasks, App.render, Web.pageJson, App.all, App.db]
  all_goals simp_all +zetaDelta [Shows, shownTasks, refKeysObj, refHere]
  intro k x onPage here
  obtain ⟨⟨y, _⟩, paired, rfl⟩ := List.mem_map.mp (onPageMem onPage)
  obtain ⟨share, named, found⟩ := List.mem_filterMap.mp ((List.mergeSort_perm _ _).mem_iff.mp paired)
  obtain ⟨t, lookup, same⟩ := Option.map_eq_some_iff.mp found
  cases same
  obtain ⟨row, shareRow, rfl⟩ := List.mem_map.mp (List.mem_filter.mp named).1
  have toUser := (List.mem_filter.mp named).2
  have toTask := List.find?_some lookup
  simp only [keyOfRow, if_true, List.mem_singleton] at here
  refine ⟨t, List.mem_of_find?_eq_some lookup, here.symm, .inr (.inr ⟨row, shareRow, ?_⟩)⟩
  simp_all [refersTo, Row.getNat?]

theorem listsShows {b : Board} {r : Web.Request} {u : Nat} {w : World}
    (user : r.userId? = some u) (fresh : w.exchange.context = none) :
    ⦃fun s => ⌜s = w⌝⦄ taskLists b r
    ⦃post⟨fun _ s => ⌜Shows b (SeenKey w.db b u) s⌝, fun _ s => ⌜Shows b (SeenKey w.db b u) s⌝⟩⦄ := by
  mvcgen [taskLists, App.render, App.readForm, App.message, App.now, noCheck]
  all_goals simp_all +zetaDelta [Shows, shownTasks, refKeysObj, refHere, refKeysSummary, storeOnlyIff,
    listFormJson]
  all_goals exact noTaskKeys (labelsDiffer b).2 ‹_›

def OpensList (db : Db) (b : Board) (l u : Nat) : Prop :=
  ∃ lr ∈ db.rows (.taskList b), lr.pk = l ∧
    (lr.getNat? "created_by" = some u ∨ lr.getBool "is_public" = true)

def ListedKey (db : Db) (b : Board) (u l : Nat) (k : Int) : Prop :=
  ∃ t ∈ db.rows (.task b), (t.pk : Int) = k ∧ t.pk ∈ db.linked (Catalog.listTasks b) l ∧
    OpensList db b l u

theorem listDetailShows {b : Board} {r : Web.Request} {u : Nat} {w : World}
    (user : r.userId? = some u) (fresh : w.exchange.context = none) (pk : Nat) :
    ⦃fun s => ⌜s = w⌝⦄ listDetail b r pk
    ⦃post⟨fun _ s => ⌜Shows b (ListedKey w.db b u pk) s⌝,
      fun _ s => ⌜Shows b (ListedKey w.db b u pk) s⌝⟩⦄ := by
  mvcgen [listDetail, App.render, App.db]
  all_goals simp_all +zetaDelta [Shows, shownTasks, refKeysObj, refHere]
  rename_i opens found tasks _ _
  obtain ⟨-, key, l, lmem, rfl⟩ := found
  have lists : OpensList w.db b pk u := by
    refine ⟨l, lmem, by simpa using key, ?_⟩
    exact or_iff_not_imp_left.mpr (by simpa [refersTo, Row.getNat?] using opens)
  rintro k (here | ⟨o, ⟨listed, member⟩, here⟩)
  · -- the list itself is a record of another kind
    simp [keyOfRow, (labelsDiffer b).2] at here
  · obtain ⟨t, mem, rfl⟩ := tasks.2 o listed
    simp only [keyOfRow, if_true, List.mem_singleton] at here
    exact ⟨t, mem, here.symm, by simpa using member, lists⟩

theorem taskPagesShowSeen {b : Board} {r : Web.Request} {u : Nat} {w : World}
    (user : r.userId? = some u) (fresh : w.exchange.context = none) (p : Web.TaskPage) :
    ∀ k ∈ shownTasks b (after (page b r p w)), ∃ t ∈ w.db.rows (.task b), (t.pk : Int) = k ∧
      (Sees w.db b t u ∨ ∃ l, p = .listDetail l ∧ t.pk ∈ w.db.linked (Catalog.listTasks b) l ∧
        OpensList w.db b l u) := by
  have seen {s : World} (h : Shows b (SeenKey w.db b u) s) : ∀ k ∈ shownTasks b s,
      ∃ t ∈ w.db.rows (.task b), (t.pk : Int) = k ∧ (Sees w.db b t u ∨ ∃ l, p = .listDetail l ∧
        t.pk ∈ w.db.linked (Catalog.listTasks b) l ∧ OpensList w.db b l u) := fun k shown =>
    let ⟨t, mem, key, sees⟩ := h k shown
    ⟨t, mem, key, .inl sees⟩
  unfold page
  rw [guardedSignedIn user]
  cases p with
  | index => exact seen (showsAfter (listShows user fresh))
  | detail pk => exact seen (showsAfter (detailShows user fresh pk))
  | create => exact seen (showsAfter (createShows fresh))
  | edit pk => exact seen (showsAfter (editShows user fresh pk))
  | remove pk => exact seen (showsAfter (removeShows user fresh pk))
  | share pk => exact seen (showsAfter (shareShows user fresh pk))
  | comment pk => exact seen (showsAfter (commentShows user fresh pk))
  | shared => exact seen (showsAfter (sharedShows user fresh))
  | lists => exact seen (showsAfter (listsShows user fresh))
  | listDetail l =>
    intro k shown
    obtain ⟨t, mem, key, listed, opens⟩ := showsAfter (listDetailShows user fresh l) k shown
    exact ⟨t, mem, key, .inr ⟨l, rfl, listed, opens⟩⟩

def publicList : World :=
  { db :=
    { tables := [(.task .todo, { rows := [⟨1, [("created_by", .int 7)]⟩] }),
        (.taskList .todo, { rows := [⟨1, [("created_by", .int 7), ("is_public", .bool true)]⟩] })]
      links := [((Catalog.listTasks .todo).table, { rows := [⟨1, 1, 1⟩] })] } }

theorem publicListShowsTask :
    shownTasks .todo (after (page .todo (asUser 8 "/tasks/lists/1/") (.listDetail 1) publicList)) = [1] ∧
      ¬Sees publicList.db .todo ⟨1, [("created_by", .int 7)]⟩ 8 ∧
      ∀ k ∈ shownTasks .todo (after (page .todo (asUser 8 "/tasks/lists/1/") (.listDetail 1) publicList)),
        ∃ t ∈ publicList.db.rows (.task .todo), (t.pk : Int) = k ∧
          (Sees publicList.db .todo t 8 ∨ ∃ l, Web.TaskPage.listDetail 1 = .listDetail l ∧
            t.pk ∈ publicList.db.linked (Catalog.listTasks .todo) l ∧ OpensList publicList.db .todo l 8) :=
  ⟨by decide +kernel, by decide, taskPagesShowSeen rfl rfl _⟩

end Portal.TaskDisclosure
