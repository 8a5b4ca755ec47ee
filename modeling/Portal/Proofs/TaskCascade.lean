import Mathlib
import Portal.Proofs.LogCleanup
import Portal.Tasks.Views
/-! Deleting a task. The deletion gathers the task and what depends on it: the assignments,
shares and comments that refer to it and the list links that hold it, each kind under its own
table, and orders them so that dependents go first. Ordering entries under distinct tables keeps
exactly those entries, and the removal loop narrows each table by the keys gathered for it while
its audit entries touch only the log. So deleting a task leaves, of the assignments and of the
shares, exactly the rows that do not refer to it, and changes nothing but the store. -/
namespace Portal.TaskCascade
open App

def taskRef (b : Board) : Field := { name := "task", kind := .ref (.task b) .cascade }

theorem taskBackrefs (b : Board) :
    Entity.backrefs (.task b) = [.field (.userTask b) (taskRef b), .field (.taskShare b) (taskRef b),
      .field (.taskComment b) (taskRef b), .link (Catalog.listTasks b) (.taskList b) false] := by
  cases b <;> rfl

theorem userTaskBackrefs (b : Board) : Entity.backrefs (.userTask b) = [] := by cases b <;> rfl
theorem taskShareBackrefs (b : Board) : Entity.backrefs (.taskShare b) = [] := by cases b <;> rfl
theorem taskCommentBackrefs (b : Board) : Entity.backrefs (.taskComment b) = [] := by cases b <;> rfl

def referring (db : Db) (s : Entity) (name : String) (keys : List Nat) : List Nat :=
  ((db.rows s).filter fun r => match (r.get name).asNat? with
    | some k => keys.contains k
    | none => false).map (·.pk)

def joined (root t : Target) (ks : List Nat) (c : Collection) : Collection :=
  if ks.isEmpty then c else (c.add t ks).1.depend root t

theorem collectLeaf (db : Db) (n : Nat) (c : Collection) {s : Entity} (leaf : Entity.backrefs s = [])
    (ks : List Nat) (src : Target) :
    collect db (n + 1) c s ks (some src) false = (c.add (.entity s) ks).1.depend src (.entity s) := by
  rw [collect]
  simp only [Bool.false_eq_true, if_false, leaf, List.foldl_nil, ite_self]

def cascade (db : Db) (n : Nat) (root : Target) (s : Entity) (ks : List Nat) (c : Collection) : Collection :=
  if ks.isEmpty then c else collect db (n + 1) c s ks (some root) false

def cascadeLinks (db : Db) (root : Target) (l : LinkSpec) (owner : Entity) (keys : List Nat)
    (c : Collection) : Collection :=
  let rows := (db.linkTable l.table).rows.filter fun r => keys.contains r.other
  if rows.isEmpty then c else ((c.add (.link l owner) (rows.map (·.id))).1.depend root (.link l owner))

theorem collectTask (db : Db) (n : Nat) (b : Board) (k : Nat) :
    collect db (n + 2) {} (.task b) [k] none false =
      cascadeLinks db (.entity (.task b)) (Catalog.listTasks b) (.taskList b) [k]
      (cascade db n (.entity (.task b)) (.taskComment b) (referring db (.taskComment b) "task" [k])
      (cascade db n (.entity (.task b)) (.taskShare b) (referring db (.taskShare b) "task" [k])
      (cascade db n (.entity (.task b)) (.userTask b) (referring db (.userTask b) "task" [k])
        (({} : Collection).add (.entity (.task b)) [k]).1))) := by
  cases b <;> rfl

/-! ### The collection a task's deletion gathers -/

def entry (t : Target) (ks : List Nat) : List (Target × List Nat) := if ks.isEmpty then [] else [(t, ks)]

theorem addFresh (c : Collection) (t : Target) (ks : List Nat) (fresh : c.data.all (·.1.key != t.key)) :
    c.add t ks = ({ c with data := c.data ++ [(t, ks)] }, ks) := by
  have none : c.data.find? (·.1.key == t.key) = none := by
    rw [List.find?_eq_none]
    intro p mem
    simpa using List.all_eq_true.mp fresh p mem
  have anyNot : c.data.any (·.1.key == t.key) = false := by
    rw [List.any_eq_false]
    intro p mem
    simpa using List.all_eq_true.mp fresh p mem
  simp [Collection.add, Collection.keys, none, anyNot]

theorem joinedParts (root t : Target) (ks : List Nat) (c : Collection) (fresh : c.data.all (·.1.key != t.key)) :
    (joined root t ks c).data = c.data ++ entry t ks ∧ (joined root t ks c).clears = c.clears := by
  unfold joined entry Collection.depend
  split
  · simp
  · rw [addFresh c t ks fresh]
    split <;> simp

theorem cascadeJoined (db : Db) (n : Nat) (root : Target) {s : Entity} (leaf : Entity.backrefs s = [])
    (ks : List Nat) (c : Collection) : cascade db n root s ks c = joined root (.entity s) ks c := by
  unfold cascade joined
  split
  · rfl
  · rw [collectLeaf db n c leaf]

theorem cascadeLinksJoined (db : Db) (root : Target) (l : LinkSpec) (owner : Entity) (keys : List Nat)
    (c : Collection) :
    cascadeLinks db root l owner keys c =
      joined root (.link l owner) (((db.linkTable l.table).rows.filter fun r => keys.contains r.other).map (·.id)) c := by
  unfold cascadeLinks joined
  simp only [List.isEmpty_map]

def reached (b : Board) : List Target :=
  [.entity (.task b), .entity (.userTask b), .entity (.taskShare b), .entity (.taskComment b),
    .link (Catalog.listTasks b) (.taskList b)]

theorem reachedApart (b : Board) : ((reached b).map Target.key).Nodup := by
  cases b <;> decide

theorem entryAll {t t' : Target} (ks : List Nat) (apart : t.key ≠ t'.key) :
    (entry t ks).all (·.1.key != t'.key) = true := by
  unfold entry
  split <;> simp [apart]

def listedIds (db : Db) (b : Board) (k : Nat) : List Nat :=
  ((db.linkTable (Catalog.listTasks b).table).rows.filter fun r => [k].contains r.other).map (·.id)

theorem taskCollection (db : Db) (n : Nat) (b : Board) (k : Nat) :
    (collect db (n + 2) {} (.task b) [k] none false).clears = [] ∧
    (collect db (n + 2) {} (.task b) [k] none false).data =
      (.entity (.task b), [k]) :: (entry (.entity (.userTask b)) (referring db (.userTask b) "task" [k]) ++
        entry (.entity (.taskShare b)) (referring db (.taskShare b) "task" [k]) ++
        entry (.entity (.taskComment b)) (referring db (.taskComment b) "task" [k]) ++
        entry (.link (Catalog.listTasks b) (.taskList b)) (listedIds db b k)) := by
  have apart := reachedApart b
  simp only [reached, List.map_cons, List.map_nil, List.nodup_cons, List.mem_cons, List.not_mem_nil,
    or_false, not_or] at apart
  obtain ⟨⟨tU, tS, tC, tL⟩, ⟨uS, uC, uL⟩, ⟨sC, sL⟩, cL, -⟩ := apart
  rw [collectTask, cascadeJoined db n _ (userTaskBackrefs b), cascadeJoined db n _ (taskShareBackrefs b),
    cascadeJoined db n _ (taskCommentBackrefs b), cascadeLinksJoined]
  have first := addFresh ({} : Collection) (.entity (.task b)) [k] (by simp)
  rw [first]
  -- each kind joins under a key the ones before it do not have
  obtain ⟨dU, cU⟩ := joinedParts (.entity (.task b)) (.entity (.userTask b)) (referring db (.userTask b) "task" [k])
    { ({} : Collection) with data := [] ++ [(.entity (.task b), [k])] } (by simp [tU])
  obtain ⟨dS, cS⟩ := joinedParts (.entity (.task b)) (.entity (.taskShare b)) (referring db (.taskShare b) "task" [k])
    _ (by rw [dU]; simp [tS, entryAll _ uS])
  obtain ⟨dC, cC⟩ := joinedParts (.entity (.task b)) (.entity (.taskComment b))
    (referring db (.taskComment b) "task" [k]) _ (by rw [dS, dU]; simp [tC, entryAll _ uC, entryAll _ sC])
  obtain ⟨dL, cL'⟩ := joinedParts (.entity (.task b)) (.link (Catalog.listTasks b) (.taskList b))
    (listedIds db b k) _ (by rw [dC, dS, dU]; simp [tL, entryAll _ uL, entryAll _ sL, entryAll _ cL])
  unfold listedIds at dL cL'
  refine ⟨by rw [cL', cC, cS, cU], by rw [dL, dC, dS, dU]; simp [listedIds]⟩

/-! ### The order targets are removed in -/

section Ordered
variable (c : Collection)

def Placed (placed : List String) (acc : List (Target × List Nat)) : Prop :=
  placed = acc.map (·.1.key) ∧ (∀ q ∈ acc, q ∈ c.data) ∧ (acc.map (·.1.key)).Nodup

def pass (s : List String × List (Target × List Nat) × Bool) (p : Target × List Nat) :
    List String × List (Target × List Nat) × Bool :=
  if s.1.contains p.1.key then s
  else if ((c.deps.filter (·.1 == p.1.key)).map (·.2)).all s.1.contains then
    (s.1 ++ [p.1.key], s.2.1 ++ [p], true)
  else s

theorem passPlaced (l : List (Target × List Nat)) (inside : ∀ p ∈ l, p ∈ c.data)
    (s : List String × List (Target × List Nat) × Bool) (placed : Placed c s.1 s.2.1) :
    Placed c (l.foldl (pass c) s).1 (l.foldl (pass c) s).2.1 ∧
      s.2.1.length ≤ (l.foldl (pass c) s).2.1.length ∧
      ((l.foldl (pass c) s).2.2 = true → s.2.2 = true ∨ s.2.1.length < (l.foldl (pass c) s).2.1.length) := by
  induction l generalizing s with
  | nil => exact ⟨placed, le_rfl, .inl⟩
  | cons p l ih =>
    rw [List.foldl_cons]
    have step : Placed c (pass c s p).1 (pass c s p).2.1 ∧ s.2.1.length ≤ (pass c s p).2.1.length ∧
        ((pass c s p).2.2 = true → s.2.2 = true ∨ s.2.1.length < (pass c s p).2.1.length) := by
      obtain ⟨keys, within, nodup⟩ := placed
      unfold pass
      split
      · exact ⟨⟨keys, within, nodup⟩, le_rfl, .inl⟩
      · split
        · -- a newly placed entry: its key was not placed before
          rename_i fresh _
          refine ⟨⟨by rw [keys]; simp, ?_, ?_⟩, by simp, fun _ => .inr (by simp)⟩
          · intro q mem
            rcases List.mem_append.mp mem with old | new
            · exact within q old
            · rw [List.mem_singleton.mp new]
              exact inside p List.mem_cons_self
          · rw [List.map_append, List.nodup_append]
            refine ⟨nodup, by simp, ?_⟩
            simp only [List.map_cons, List.map_nil, List.mem_singleton]
            rintro x hx y rfl rfl
            exact fresh (by rw [keys]; exact List.contains_iff_mem.mpr hx)
        · exact ⟨⟨keys, within, nodup⟩, le_rfl, .inl⟩
    obtain ⟨placed₁, longer₁, found₁⟩ := step
    obtain ⟨placed₂, longer₂, found₂⟩ := ih (fun q mem => inside q (List.mem_cons_of_mem _ mem)) _ placed₁
    refine ⟨placed₂, longer₁.trans longer₂, fun found => ?_⟩
    rcases found₂ found with earlier | grew
    · rcases found₁ earlier with first | grew₁
      · exact .inl first
      · exact .inr (lt_of_lt_of_le grew₁ longer₂)
    · exact .inr (lt_of_le_of_lt longer₁ grew)

theorem goStep (fuel : Nat) (placed : List String) (acc : List (Target × List Nat)) :
    Collection.ordered.go c (fuel + 1) placed acc =
      if acc.length ≥ c.data.length then acc else
      if (c.data.foldl (pass c) (placed, acc, false)).2.2 then
        Collection.ordered.go c fuel (c.data.foldl (pass c) (placed, acc, false)).1
          (c.data.foldl (pass c) (placed, acc, false)).2.1
      else (c.data.foldl (pass c) (placed, acc, false)).2.1 ++
        c.data.filter (fun p => !(c.data.foldl (pass c) (placed, acc, false)).1.contains p.1.key) := by
  rw [Collection.ordered.go]
  rfl

theorem placedShort {placed : List String} {acc : List (Target × List Nat)} (p : Placed c placed acc) :
    acc.length ≤ c.data.length :=
  ((List.Nodup.of_map _ p.2.2).subperm p.2.1).length_le

theorem placedAll {placed : List String} {acc : List (Target × List Nat)} (p : Placed c placed acc)
    (full : c.data.length ≤ acc.length) : ∀ q ∈ c.data, q ∈ acc :=
  (((List.Nodup.of_map _ p.2.2).subperm p.2.1).perm_of_length_le full).symm.subset

theorem goAll (keys : (c.data.map (·.1.key)).Nodup) (fuel : Nat) (placed : List String)
    (acc : List (Target × List Nat)) (p : Placed c placed acc) (enough : c.data.length + 1 ≤ fuel + acc.length) :
    ∀ q ∈ c.data, q ∈ Collection.ordered.go c fuel placed acc := by
  induction fuel generalizing placed acc with
  | zero => exact absurd (placedShort c p) (by omega)
  | succ fuel ih =>
    intro q mem
    rw [goStep]
    split
    · exact placedAll c p ‹_› q mem
    · obtain ⟨after, -, found⟩ := passPlaced c c.data (fun _ h => h) (placed, acc, false) p
      split
      · rename_i more
        have grew := (found more).resolve_left Bool.false_ne_true
        dsimp only at grew
        exact ih _ _ after (by omega) q mem
      · by_cases done : (c.data.foldl (pass c) (placed, acc, false)).1.contains q.1.key
        · -- an entry under a placed key is the placed one, the keys being distinct
          apply List.mem_append_left
          obtain ⟨names, within, -⟩ := after
          rw [names] at done
          obtain ⟨q', mem', same⟩ := List.mem_map.mp (List.contains_iff_mem.mp done)
          rw [← List.inj_on_of_nodup_map keys (within q' mem') mem same]
          exact mem'
        · exact List.mem_append_right _ (List.mem_filter.mpr ⟨mem, by simpa using done⟩)

theorem goWithin (fuel : Nat) (placed : List String) (acc : List (Target × List Nat)) (p : Placed c placed acc) :
    ∀ q ∈ Collection.ordered.go c fuel placed acc, q ∈ c.data := by
  induction fuel generalizing placed acc with
  | zero => exact p.2.1
  | succ fuel ih =>
    rw [goStep]
    obtain ⟨after, -, -⟩ := passPlaced c c.data (fun _ h => h) (placed, acc, false) p
    split
    · exact p.2.1
    · split
      · exact ih _ _ after
      · intro q mem
        rcases List.mem_append.mp mem with old | rest
        · exact after.2.1 q old
        · exact (List.mem_filter.mp rest).1

theorem orderedMem (keys : (c.data.map (·.1.key)).Nodup) (q : Target × List Nat) :
    q ∈ c.ordered ↔ q ∈ c.data := by
  have start : Placed c [] [] := ⟨rfl, by simp, List.nodup_nil⟩
  exact ⟨goWithin c _ [] [] start q, goAll c keys _ [] [] start (by simp) q⟩

end Ordered

/-! ### Removing what was gathered -/

def Ends {α : Type} (act : App α) (w : World) (Q : α → World → Prop) : Prop :=
  ∃ a w', act w = .ok a w' ∧ Q a w'

theorem Ends.bind {α β : Type} {x : App α} {f : α → App β} {w : World} {P : α → World → Prop}
    {Q : β → World → Prop} (first : Ends x w P) (next : ∀ a w', P a w' → Ends (f a) w' Q) :
    Ends (x >>= f) w Q := by
  obtain ⟨a, w₁, run, holds⟩ := first
  obtain ⟨b, w₂, run₂, holds₂⟩ := next a w₁ holds
  exact ⟨b, w₂, by rw [Listing.bindRun run, run₂], holds₂⟩

theorem Ends.bindOk {α β : Type} {x : App α} {f : α → App β} {w w₁ : World} {a : α}
    {Q : β → World → Prop} (run : x w = .ok a w₁) (next : Ends (f a) w₁ Q) : Ends (x >>= f) w Q := by
  obtain ⟨b, w₂, run₂, holds⟩ := next
  exact ⟨b, w₂, by rw [Listing.bindRun run, run₂], holds⟩

theorem Ends.pure {α : Type} {a : α} {w : World} {Q : α → World → Prop} (holds : Q a w) :
    Ends (Pure.pure a) w Q :=
  ⟨a, w, rfl, holds⟩

section Removal
variable (e : Entity)

/-- `w'` is `w` with only its store changed, and in it the rows of table `e` narrowed to those
`keep` holds of; the store keeps every table it had. -/
structure Narrows (keep : Row → Bool) (w w' : World) : Prop where
  world : Steps.StoreOnly w w'
  table : w'.db.table e = { w.db.table e with rows := (w.db.rows e).filter keep }
  tables : ∀ e', (∃ t, (e', t) ∈ w.db.tables) → ∃ t, (e', t) ∈ w'.db.tables

theorem Narrows.refl (w : World) : Narrows e (fun _ => true) w w :=
  ⟨rfl, by simp [Db.rows], fun _ has => has⟩

theorem Narrows.trans {p q : Row → Bool} {w₁ w₂ w₃ : World} (one : Narrows e p w₁ w₂)
    (two : Narrows e q w₂ w₃) : Narrows e (fun r => p r && q r) w₁ w₃ := by
  have rows : w₂.db.rows e = (w₁.db.rows e).filter p := by
    unfold Db.rows
    rw [one.table]
    rfl
  refine ⟨Steps.storeOnlyTrans one.world two.world, ?_, fun e' has => two.tables e' (one.tables e' has)⟩
  rw [two.table, rows, one.table, List.filter_filter]
  simp only [Bool.and_comm]

theorem forInNarrows {β γ : Type} (keep : γ → Row → Bool) (xs : List γ) (init : β)
    (body : γ → β → App (ForInStep β)) (w : World)
    (round : ∀ x ∈ xs, ∀ b w, Ends (body x b) w fun r w' => (∃ b', r = .yield b') ∧ Narrows e (keep x) w w') :
    Ends (forIn xs init body) w fun _ w' => Narrows e (fun r => xs.all (keep · r)) w w' := by
  induction xs generalizing init w with
  | nil => exact ⟨init, w, rfl, by simpa using Narrows.refl e w⟩
  | cons x xs ih =>
    obtain ⟨r, w₁, run₁, ⟨b₁, rfl⟩, narrow₁⟩ := round x List.mem_cons_self init w
    obtain ⟨b₂, w₂, run₂, narrow₂⟩ := ih b₁ w₁ fun y mem => round y (List.mem_cons_of_mem _ mem)
    refine ⟨b₂, w₂, ?_, by simpa using narrow₁.trans e narrow₂⟩
    rw [List.forIn_cons]
    show EStateM.bind (body x init) _ w = _
    simp only [EStateM.bind, run₁]
    exact run₂

theorem Narrows.congr {p q : Row → Bool} {w w' : World} (h : Narrows e p w w') (same : ∀ r, p r = q r) :
    Narrows e q w w' := by
  rw [show q = p from funext fun r => (same r).symm]
  exact h

theorem Narrows.congrOn {p q : Row → Bool} {w w' : World} (h : Narrows e p w w')
    (same : ∀ r ∈ w.db.rows e, p r = q r) : Narrows e q w w' := by
  refine ⟨h.world, ?_, h.tables⟩
  rw [h.table, List.filter_congr same]

theorem Narrows.setDb {w : World} {db : Db} {p : Row → Bool}
    (table : db.table e = { w.db.table e with rows := (w.db.rows e).filter p })
    (tables : ∀ e', (∃ t, (e', t) ∈ w.db.tables) → ∃ t, (e', t) ∈ db.tables) :
    Narrows e p w { w with db } :=
  ⟨Steps.storeOnlySetDb.mpr rfl, table, tables⟩

theorem tableUnchanged {db db' : Db} (same : db'.table e = db.table e) :
    db'.table e = { db.table e with rows := (db.rows e).filter fun _ => true } := by
  rw [same, List.filter_true]
  rfl

theorem removeRowNarrows (db : Db) (e' : Entity) (key : Nat) :
    (db.removeRow e' key).table e =
      { db.table e with rows := (db.rows e).filter fun r => !(decide (e' = e) && r.pk == key) } := by
  by_cases same : e' = e
  · subst same
    rw [(LogCleanup.removeRowPruned db e' key).table]
    simp only [decide_true, Bool.true_and]
    rfl
  · rw [show (fun r : Row => !(decide (e' = e) && r.pk == key)) = fun _ => true by simp [same]]
    exact tableUnchanged e (AuditTrail.tableSetOther _ (Ne.symm same))

theorem quietAuditNarrows (notLog : e ≠ .systemLog) (message : String) (key : Nat)
    (doc : Except Fault Json) (w : World) :
    Ends (App.quietly (do let entry ← App.auditEntry message key doc; discard (App.logEntry entry))) w
      fun _ w' => Narrows e (fun _ => true) w w' := by
  have sets := StoreUpdate.logEntrySets (AuditTrail.auditLog w message key doc) w
  refine ⟨(), ?_⟩
  rw [Steps.quietlyRun, Listing.bindRun (AuditTrail.auditEntryRun message key doc w), Steps.discardRun]
  rcases h : App.logEntry (AuditTrail.auditLog w message key doc) w with ⟨o, w'⟩ | ⟨f, w'⟩ <;>
    rw [h] at sets
  · obtain ⟨world, db⟩ := sets
    obtain ⟨-, -, others, tables⟩ := WrittenRows.logStepFrame db
    exact ⟨w', rfl, world, tableUnchanged e (others e notLog), tables⟩
  · subst sets
    exact ⟨_, rfl, Narrows.refl e _⟩

def keepOne (p : Target × List Nat) (r : Row) : Bool :=
  match p.1 with
  | .entity e' => !(decide (e' = e) && p.2.contains r.pk)
  | .link _ _ => true

theorem sortedContains (ks : List Nat) (k : Nat) :
    ((ks.mergeSort fun a b => decide (a ≤ b)).reverse).contains k = ks.contains k := by
  rw [Bool.eq_iff_iff]
  simp only [List.contains_iff_mem, List.mem_reverse, (List.mergeSort_perm _ _).mem_iff]

theorem removedKeep (e' : Entity) (ks : List Nat) (r : Row) :
    (((ks.mergeSort fun a b => decide (a ≤ b)).reverse).all fun key => !(decide (e' = e) && r.pk == key)) =
      keepOne e (.entity e', ks) r := by
  unfold keepOne
  dsimp only
  rw [← sortedContains ks r.pk]
  by_cases same : e' = e
  · simp only [same, decide_true, Bool.true_and]
    rw [Bool.eq_iff_iff]
    simp [List.all_eq_true, List.forall_mem_ne]
  · simp [same]

theorem logKeep (notLog : e ≠ .systemLog) {e' : Entity} (isLog : ¬(e' != Entity.systemLog) = true)
    (l ks : List Nat) (r : Row) :
    (l.all fun key => !(decide (e' = e) && r.pk == key)) = keepOne e (.entity e', ks) r := by
  have log : e' = .systemLog := by simpa using isLog
  subst log
  simp [keepOne, Ne.symm notLog]

theorem allTrue {α : Type} (l : List α) : (l.all fun _ => true) = true :=
  List.all_eq_true.mpr fun _ _ => rfl

theorem deleteNarrows (notLog : e ≠ .systemLog) (o : Obj) (w : World)
    (noClears : (collect w.db (w.db.tables.foldl (fun n t => n + t.2.rows.length) 0 + 2) {} o.entity
      [o.pk.getD 0] none false).clears = []) :
    Ends (App.delete o) w fun _ w' => Narrows e (fun r =>
      (collect w.db (w.db.tables.foldl (fun n t => n + t.2.rows.length) 0 + 2) {} o.entity
        [o.pk.getD 0] none false).ordered.all (keepOne e · r)) w w' := by
  unfold App.delete
  refine Ends.bindOk (show App.db w = .ok w.db w from rfl) ?_
  dsimp only
  rw [noClears, List.forIn_nil, pure_bind]
  refine Ends.bind (forInNarrows e (keepOne e) _ _ _ w ?round) fun counts w' narrowed => Ends.pure narrowed
  intro x _ counts w
  rcases x with ⟨t, ks⟩
  dsimp only
  cases t with
  | link l owner =>
    refine Ends.bindOk (show App.db w = .ok w.db w from rfl) ?_
    refine Ends.bindOk (show App.setDb _ w = .ok () _ from rfl) ?_
    have narrowed : Narrows e (keepOne e (.link l owner, ks)) w
        { w with db := w.db.removeLinksWhere l fun r => ((ks.mergeSort fun a b => decide (a ≤ b)).reverse).contains r.id } :=
      Narrows.setDb e (tableUnchanged e rfl) fun _ has => has
    split
    · exact Ends.pure ⟨⟨_, rfl⟩, narrowed⟩
    · exact Ends.pure ⟨⟨_, rfl⟩, narrowed⟩
  | entity e' =>
    refine Ends.bind (forInNarrows e (fun key r => !(decide (e' = e) && r.pk == key)) _ PUnit.unit _ w ?removal)
      fun _ w₁ removed => ?_
    case removal =>
      intro key _ _ w
      refine Ends.bindOk (show App.db w = .ok w.db w from rfl) ?_
      refine Ends.bindOk (show App.setDb _ w = .ok () _ from rfl) ?_
      exact Ends.pure ⟨⟨_, rfl⟩, Narrows.setDb e (removeRowNarrows e w.db e' key) fun _ has =>
        AuditTrail.hasSetTable _ has⟩
    -- whether or not the entry counts, its keys are audited unless it is the log's
    split <;> split
    all_goals first
      | exact Ends.pure ⟨⟨_, rfl⟩, removed.congr e (logKeep e notLog ‹_› _ ks)⟩
      | refine Ends.bind (forInNarrows e (fun _ _ => true) _ PUnit.unit _ w₁ ?_) fun _ w₂ kept =>
          Ends.pure ⟨⟨_, rfl⟩, (removed.trans e kept).congr e fun r => by rw [allTrue, Bool.and_true, removedKeep]⟩
        intro key _ _ w
        exact Ends.bind (quietAuditNarrows e notLog _ key _ w) fun _ w' kept => Ends.pure ⟨⟨_, rfl⟩, kept⟩

theorem entryKeep (t : Target) (ks : List Nat) (r : Row) :
    (entry t ks).all (keepOne e · r) = keepOne e (t, ks) r := by
  unfold entry
  split
  · rename_i empty
    rw [List.isEmpty_iff.mp empty]
    cases t <;> simp [keepOne]
  · simp

end Removal

theorem Ends.and {α : Type} {act : App α} {w : World} {P Q : α → World → Prop} (p : Ends act w P)
    (q : Ends act w Q) : Ends act w fun a w' => P a w' ∧ Q a w' := by
  obtain ⟨a, w₁, run, holds⟩ := p
  obtain ⟨a', w₂, run', holds'⟩ := q
  rw [run] at run'
  cases run'
  exact ⟨a, w₁, run, holds, holds'⟩

theorem orderedAll (c : Collection) (keys : (c.data.map (·.1.key)).Nodup) (p : Target × List Nat → Bool) :
    c.ordered.all p = c.data.all p := by
  rw [Bool.eq_iff_iff]
  simp only [List.all_eq_true, orderedMem c keys]

theorem entryKeys (t : Target) (ks : List Nat) : ((entry t ks).map (·.1.key)).Sublist [t.key] := by
  unfold entry
  split <;> simp

theorem referringKey (db : Db) (s : Entity) (name : String) (k : Nat) (keyed : Listing.Keyed db s) {r : Row}
    (mem : r ∈ db.rows s) : (referring db s name [k]).contains r.pk = (r.getNat? name == some k) := by
  unfold referring
  rw [LogCleanup.keyPicked keyed _ mem]
  unfold Row.getNat?
  split
  next _ k' found =>
    rw [found]
    simp only [List.contains_cons, List.contains_nil, Bool.or_false]
    rfl
  next _ found => simp_all

theorem taskDeleteNarrows (b : Board) (t : Row) (w : World) (keyedLinks : Listing.Keyed w.db (.userTask b))
    (keyedShares : Listing.Keyed w.db (.taskShare b)) :
    Ends (App.delete (Obj.ofRow (.task b) t)) w fun _ w' =>
      Narrows (.userTask b) (fun r => r.getNat? "task" != some t.pk) w w' ∧
      Narrows (.taskShare b) (fun r => r.getNat? "task" != some t.pk) w w' := by
  obtain ⟨clears, data⟩ := taskCollection w.db (w.db.tables.foldl (fun n t => n + t.2.rows.length) 0) b t.pk
  have keys : ((collect w.db (w.db.tables.foldl (fun n t => n + t.2.rows.length) 0 + 2) {} (.task b) [t.pk]
      none false).data.map (·.1.key)).Nodup := by
    rw [data]
    refine (reachedApart b).sublist ?_
    simp only [List.map_cons, List.map_append, reached]
    exact ((((entryKeys _ _).append (entryKeys _ _)).append (entryKeys _ _)).append (entryKeys _ _)).cons_cons _
  -- both kinds go the same way: only their own entry removes any of their rows
  have narrowed : ∀ e, e = .userTask b ∨ e = .taskShare b → Listing.Keyed w.db e →
      Ends (App.delete (Obj.ofRow (.task b) t)) w fun _ w' =>
        Narrows e (fun r => r.getNat? "task" != some t.pk) w w' := by
    intro e kind keyed
    have notLog : e ≠ .systemLog := by rcases kind with rfl | rfl <;> simp
    obtain ⟨a, w', run, narrows⟩ := deleteNarrows e notLog (Obj.ofRow (.task b) t) w clears
    refine ⟨a, w', run, narrows.congrOn e fun r mem => ?_⟩
    show (collect w.db _ {} (.task b) [t.pk] none false).ordered.all (keepOne e · r) = _
    rw [orderedAll _ keys, data]
    simp only [List.all_cons, List.all_append, entryKeep]
    rcases kind with rfl | rfl <;>
      simp only [keepOne, reduceCtorEq, decide_false, decide_true, Bool.false_and,
        Bool.true_and, Bool.not_false, Bool.and_true, referringKey w.db _ "task" t.pk keyed mem] <;> rfl
  exact (narrowed _ (.inl rfl) keyedLinks).and (narrowed _ (.inr rfl) keyedShares)

end Portal.TaskCascade
