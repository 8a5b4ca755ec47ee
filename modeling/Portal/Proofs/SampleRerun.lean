import Mathlib
import Portal.Proofs.Slugs
import Portal.Proofs.CommentForest
import Portal.Proofs.Subscriptions
import Portal.Scripts.SampleData
/-! The sample content cannot be created twice. Every successful run of the script, and of each
of its steps, grows the store: every user and every article stays, every article added is
published, and every table stays. A successful run from an empty store leaves a published
article and the first commenter behind. A run from such a store gets as far as the comments and
fails there: the commenters are created anew under fixed names, and the first name is taken.
From the empty store the first run does succeed: its published articles all carry the run's one
time, so the listing the comments start from keeps them in key order. -/
namespace Portal.SampleRerun
open Sample

/-- What the sample's steps keep: every user and every article stays, an article added is
published, and every table the store has stays. -/
structure Grows (w w' : World) : Prop where
  users : ∀ x ∈ w.db.rows .user, x ∈ w'.db.rows .user
  articles : ∀ x ∈ w.db.rows .article, x ∈ w'.db.rows .article
  published : ∀ x ∈ w'.db.rows .article, x ∈ w.db.rows .article ∨ x.get "status" = .text "published"
  tables : ∀ e, (∃ t, (e, t) ∈ w.db.tables) → ∃ t, (e, t) ∈ w'.db.tables

namespace Grows

theorem refl (w : World) : Grows w w :=
  ⟨fun _ mem => mem, fun _ mem => mem, fun _ mem => .inl mem, fun _ has => has⟩

theorem trans {w₁ w₂ w₃ : World} (one : Grows w₁ w₂) (two : Grows w₂ w₃) : Grows w₁ w₃ where
  users x mem := two.users x (one.users x mem)
  articles x mem := two.articles x (one.articles x mem)
  published x mem := (two.published x mem).elim (one.published x) .inr
  tables e has := two.tables e (one.tables e has)

theorem ofTables {w w' : World} (same : w'.db.tables = w.db.tables) : Grows w w' := by
  constructor <;> simp only [Db.rows, Db.table, same]
  · exact fun _ mem => mem
  · exact fun _ mem => mem
  · exact fun _ mem => .inl mem
  · exact fun _ has => has

end Grows

section Saves
variable {o o' : Obj} {w w' : World}

theorem savedKept (ne : o.entity ≠ .systemLog) (saved : App.save o none w = .ok o' w') :
    ∀ x ∈ w.db.rows o.entity, o.pk ≠ some x.pk → x ∈ w'.db.rows o.entity := by
  obtain ⟨row, -, wrote⟩ := WrittenRows.saveWrites ne saved
  intro x mem other
  apply wrote.rows.kept x mem
  cases stored : AuditTrail.storedIn w.db o
  · exact (wrote.fresh stored).2.1 x mem
  · intro same
    apply other
    rw [(wrote.stored stored).1, same]

theorem savedOthers (ne : o.entity ≠ .systemLog) (saved : App.save o none w = .ok o' w') {e : Entity}
    (other : e ≠ o.entity) (notLog : e ≠ .systemLog) : w'.db.rows e = w.db.rows e := by
  obtain ⟨row, -, wrote⟩ := WrittenRows.saveWrites ne saved
  unfold Db.rows
  rw [wrote.others e other notLog]

def statusColumn : Field :=
  { Catalog.charField "status" 10 "draft" with
    choices := [("draft", "Draft"), ("published", "Published"), ("archived", "Archived")] }

theorem statusOfArticle : statusColumn ∈ Entity.article.model.fields := by
  simp [statusColumn, Entity.model, Catalog.article]

theorem preparedStatus (article : o.entity = .article) (now : Instant) :
    (o.prepare now).get "status" = o.get "status" := by
  unfold Obj.prepare
  rw [article]
  dsimp only
  split_ifs <;> simp [WrittenRows.objGetSetOther]

theorem savedStatus (article : o.entity = .article) (status : o.get "status" = .text "published")
    {row : Row} (wrote : WrittenRows.Wrote w w' o none row) : row.get "status" = .text "published" := by
  have stored := WrittenRows.storedUnstamped wrote (article ▸ statusOfArticle) (by decide) (by decide)
    rfl rfl
  rw [show statusColumn.name = "status" from rfl, preparedStatus article, status] at stored
  exact (Except.ok.inj stored).symm

theorem growsSave (ne : o.entity ≠ .systemLog) (saved : App.save o none w = .ok o' w')
    (users : o.entity = .user → ∀ x ∈ w.db.rows .user, o.pk ≠ some x.pk)
    (articles : o.entity = .article → o.pk = none ∧ o.get "status" = .text "published") : Grows w w' := by
  obtain ⟨row, -, wrote⟩ := WrittenRows.saveWrites ne saved
  constructor
  · intro x mem
    by_cases user : o.entity = .user
    · rw [← user] at mem ⊢
      exact savedKept ne saved x mem (users user x (user ▸ mem))
    · rw [savedOthers ne saved (Ne.symm user) (by decide)]
      exact mem
  · intro x mem
    by_cases article : o.entity = .article
    · rw [← article] at mem ⊢
      exact savedKept ne saved x mem (by simp [(articles article).1])
    · rw [savedOthers ne saved (Ne.symm article) (by decide)]
      exact mem
  · intro x mem
    by_cases article : o.entity = .article
    · rw [← article] at mem ⊢
      rcases wrote.rows.within x mem with rfl | ⟨old, -⟩
      · exact .inr (savedStatus article (articles article).2 wrote)
      · exact .inl old
    · rw [savedOthers ne saved (Ne.symm article) (by decide)] at mem
      exact .inl mem
  · exact wrote.tables

theorem storeCellsAdds {cells : List (String × Value)} {o₁ : Obj} {w₁ : World} (fresh : o.pk = none)
    (present : ∃ t, (o.entity, t) ∈ w.db.tables) (h : StoreUpdate.storeCells o cells w = .ok o₁ w₁) :
    (w₁.db.rows o.entity).length = (w.db.rows o.entity).length + 1 := by
  unfold StoreUpdate.storeCells at h
  rw [Listing.bindRun (show App.db w = .ok w.db w from rfl)] at h
  simp only [fresh] at h
  obtain ⟨db', key, hi, -, rfl⟩ := AuditTrail.storeStep (fun key => { o with pk := some key, adding := false }) h
  obtain ⟨-, -, -, rfl⟩ := WrittenRows.insertWrites hi
  unfold Db.rows
  rw [LogStore.tableSet _ present, (LogStore.placeRowPerm _ _).length_eq]
  simp

theorem freshSaveHolds (ne : o.entity ≠ .systemLog) (fresh : o.pk = none)
    (present : ∃ t, (o.entity, t) ∈ w.db.tables) (saved : App.save o none w = .ok o' w') :
    ∃ row ∈ w'.db.rows o.entity, WrittenRows.Wrote w w' o none row := by
  obtain ⟨row, -, wrote⟩ := WrittenRows.saveWrites ne saved
  refine ⟨row, ?_, wrote⟩
  rcases (wrote.fresh (by simp [AuditTrail.storedIn, fresh])).2.2 with ⟨mem, -⟩ | same
  · exact mem
  -- the table cannot have stayed as it was: the insert added a row to it
  exfalso
  rw [AuditTrail.saveRun o none w ne] at saved
  rcases hw : App.write (AuditTrail.noted w.db (o.prepare w.clock)) none w with ⟨o₁, w₁⟩ | ⟨f, w₁⟩
  · rw [Listing.bindRun hw] at saved
    obtain ⟨w₂, run, -, sets⟩ := StoreUpdate.auditStepSets
      (AuditTrail.storedIn w.db (AuditTrail.noted w.db (o.prepare w.clock))) o₁ w₁
    rw [Listing.bindRun run] at saved
    cases saved
    obtain ⟨cells, -, store⟩ := StoreUpdate.writeRun hw
    obtain ⟨entity, key⟩ := WrittenRows.writtenSame w o none
    have added := storeCellsAdds (key.trans fresh) (entity ▸ present) store
    obtain ⟨-, -, logOthers, -⟩ := WrittenRows.logStepFrame sets
    rw [entity] at added
    have kept : w'.db.rows o.entity = w₁.db.rows o.entity := by
      unfold Db.rows
      rw [logOthers _ ne]
    unfold Db.rows at kept added
    rw [← kept, same] at added
    omega
  · rw [CommentForest.bindFails hw] at saved
    cases saved

theorem resaveGrows {a o₁ o₂ : Obj} {s s₁ s₂ : World} (user : a.entity = .user) (fresh : a.pk = none)
    (first : App.save a none s = .ok o₁ s₁) {n : String} {v : Value} (hn : n ≠ "id")
    (second : App.save (o₁.set n v) none s₁ = .ok o₂ s₂) : Grows s s₂ := by
  have ne : a.entity ≠ .systemLog := by rw [user]; decide
  obtain ⟨row₁, key₁, wrote₁⟩ := WrittenRows.saveWrites ne first
  have apart₁ := (wrote₁.fresh (by simp [AuditTrail.storedIn, fresh])).2.1
  have grown₁ := growsSave ne first (fun _ _ _ => by simp [fresh])
    (fun article => absurd (user.symm.trans article) (by decide))
  have entity₂ : (o₁.set n v).entity = .user := by
    rw [WrittenRows.setEntity, (Subscriptions.savedStamped ne first).1, user]
  have ne₂ : (o₁.set n v).entity ≠ .systemLog := by rw [entity₂]; decide
  have key₂ : (o₁.set n v).pk = some row₁.pk := by rw [WrittenRows.setPk _ _ hn, key₁]
  obtain ⟨row₂, -, wrote₂⟩ := WrittenRows.saveWrites ne₂ second
  constructor
  · intro x mem
    have overwritten : (o₁.set n v).pk ≠ some x.pk := by
      rw [key₂]
      intro same
      exact apart₁ x (user ▸ mem) (Option.some.inj same).symm
    have kept := savedKept ne₂ second x (entity₂ ▸ grown₁.users x mem) overwritten
    rwa [entity₂] at kept
  · intro x mem
    rw [savedOthers ne₂ second (by rw [entity₂]; decide) (by decide)]
    exact grown₁.articles x mem
  · intro x mem
    rw [savedOthers ne₂ second (by rw [entity₂]; decide) (by decide)] at mem
    exact grown₁.published x mem
  · exact fun e has => wrote₂.tables e (grown₁.tables e has)

end Saves

section Users

theorem setAllKeeps (f : Obj → String × Json → Obj) (sets : ∀ o kv, f o kv = o.set kv.1 (Value.ofJson kv.2))
    (extra : List (String × Json)) (o : Obj) (noKey : ∀ kv ∈ extra, kv.1 ≠ "id") :
    (extra.foldl f o).entity = o.entity ∧ (extra.foldl f o).pk = o.pk ∧
    ∀ n, (∀ kv ∈ extra, kv.1 ≠ n) → (extra.foldl f o).get n = o.get n := by
  induction extra generalizing o with
  | nil => exact ⟨rfl, rfl, fun _ _ => rfl⟩
  | cons kv rest ih =>
    rw [List.foldl_cons, sets]
    obtain ⟨entity, key, other⟩ := ih (o.set kv.1 (Value.ofJson kv.2))
      fun p mem => noKey p (List.mem_cons_of_mem _ mem)
    refine ⟨by rw [entity, WrittenRows.setEntity], by rw [key, WrittenRows.setPk _ _ (noKey kv List.mem_cons_self)],
      fun n apart => ?_⟩
    rw [other n fun p mem => apart p (List.mem_cons_of_mem _ mem)]
    exact WrittenRows.objGetSetOther o _ (apart kv List.mem_cons_self)

theorem createUserSaves (username email : String) (password : Option String) (extra : List (String × Json))
    (named : username.isEmpty = false) (noKey : ∀ kv ∈ extra, kv.1 ≠ "id")
    (apart : ∀ kv ∈ extra, kv.1 ≠ "username") (w : World) :
    ∃ o, o.entity = .user ∧ o.pk = none ∧ o.get "username" = .text username ∧
      Accounts.createUser username email password extra w = App.save o none w := by
  unfold Accounts.createUser
  simp only [named, bind, App.now, get, getThe, MonadStateOf.get, pure]
  obtain ⟨entity, key, other⟩ := setAllKeeps _ (fun _ _ => rfl) extra _ noKey
  refine ⟨_, ?_, ?_, ?_, rfl⟩
  · rw [entity]
    simp [Obj.fresh]
  · rw [key]
    simp [Obj.fresh]
  · rw [other "username" apart, WrittenRows.objGetSetOther _ _ (by decide),
      WrittenRows.objGetSetOther _ _ (by decide), WrittenRows.objGetSet _ _ (by decide)]

def HasUser (w : World) (name : String) : Prop := ∃ x ∈ w.db.rows .user, x.get "username" = .text name

def usernameColumn : Field := { Catalog.charField "username" 150 with unique := true }

theorem usernameOfUser : usernameColumn ∈ Entity.user.model.fields := by
  simp [usernameColumn, Entity.model, Catalog.user]

section Saved
variable {o o' : Obj} {w w' : World} {name : String}

theorem savedUsername (user : o.entity = .user) (named : o.get "username" = .text name) {row : Row}
    (wrote : WrittenRows.Wrote w w' o none row) : row.get "username" = .text name := by
  have stored := WrittenRows.storedUnstamped wrote (user ▸ usernameOfUser) (by decide) (by decide) rfl rfl
  have prepared : o.prepare w.clock = o := by
    unfold Obj.prepare
    rw [user]
  rw [show usernameColumn.name = "username" from rfl, prepared, named] at stored
  exact (Except.ok.inj stored).symm

theorem takenNameRefused (user : o.entity = .user) (fresh : o.pk = none) (named : o.get "username" = .text name)
    (taken : HasUser w name) : ∃ f, App.save o none w = .error f w := by
  rcases saved : App.save o none w with ⟨o', w'⟩ | ⟨f, w'⟩
  · -- a save that went through wrote the name under a fresh key, apart from every stored name
    exfalso
    obtain ⟨row, -, wrote⟩ := WrittenRows.saveWrites (by rw [user]; decide) saved
    obtain ⟨x, mem, same⟩ := taken
    rw [← user] at mem
    have apart := (wrote.fresh (by simp [AuditTrail.storedIn, fresh])).2.1 x mem
    have clash := Slugs.violationUnique wrote.checked (user ▸ usernameOfUser) rfl (by decide)
      (by rw [show usernameColumn.name = "username" from rfl, savedUsername user named wrote]; exact
        Value.noConfusion) x mem apart
    rw [show usernameColumn.name = "username" from rfl, same, savedUsername user named wrote,
      (WrittenRows.textBeq _ _).mpr rfl] at clash
    cases clash
  · have kept := Answers.runOfTriple (StoreUpdate.saveFailsSpec o none w)
    rw [saved] at kept
    exact ⟨f, by rw [kept]⟩

theorem savedNameHeld (user : o.entity = .user) (fresh : o.pk = none) (named : o.get "username" = .text name)
    (present : ∃ t, (Entity.user, t) ∈ w.db.tables) (saved : App.save o none w = .ok o' w') :
    HasUser w' name := by
  obtain ⟨row, mem, wrote⟩ := freshSaveHolds (by rw [user]; decide) fresh (user ▸ present) saved
  exact ⟨row, user ▸ mem, savedUsername user named wrote⟩

end Saved

end Users

/-! ### Steps that grow the store -/

theorem okThrough {α β : Type} {x : App α} {f : α → App β} {s s' : World} {b : β}
    (ran : (x >>= f) s = .ok b s') : ∃ a s₁, x s = .ok a s₁ ∧ f a s₁ = .ok b s' := by
  rcases hx : x s with ⟨a, s₁⟩ | ⟨e, s₁⟩
  · rw [Listing.bindRun hx] at ran
    exact ⟨a, s₁, rfl, ran⟩
  · rw [CommentForest.bindFails hx] at ran
    cases ran

def Growing {α : Type} (act : App α) : Prop := ∀ s a s', act s = .ok a s' → Grows s s'

namespace Growing

theorem pure {α : Type} (a : α) : Growing (Pure.pure a : App α) := by
  intro s b s' ran
  cases ran
  exact .refl s

theorem bind {α β : Type} {x : App α} {f : α → App β} (first : Growing x) (rest : ∀ a, Growing (f a)) :
    Growing (x >>= f) := by
  intro s b s' ran
  obtain ⟨a, s₁, ranx, ranf⟩ := okThrough ran
  exact (first s a s₁ ranx).trans (rest a s₁ b s' ranf)

theorem loop {β γ : Type} (xs : List γ) (init : β) {body : γ → β → App (ForInStep β)}
    (each : ∀ x b, Growing (body x b)) : Growing (forIn xs init body) := by
  induction xs generalizing init with
  | nil => exact pure init
  | cons x xs ih =>
    rw [List.forIn_cons]
    refine bind (each x init) fun step => ?_
    cases step with
    | done b => exact pure b
    | yield b => exact ih b

theorem firstRound {β γ : Type} {x : γ} {xs : List γ} {init : β} {body : γ → β → App (ForInStep β)}
    {s s' : World} {r : β} (ran : forIn (x :: xs) init body s = .ok r s') (each : ∀ x b, Growing (body x b)) :
    ∃ step s₁, body x init s = .ok step s₁ ∧ Grows s₁ s' := by
  rw [List.forIn_cons] at ran
  obtain ⟨step, s₁, first, rest⟩ := okThrough ran
  refine ⟨step, s₁, first, ?_⟩
  cases step with
  | done b => exact pure b s₁ r s' rest
  | yield b => exact loop xs b each s₁ r s' rest

theorem ofTables {α : Type} {act : App α} (same : ∀ s a s', act s = .ok a s' → s'.db.tables = s.db.tables) :
    Growing act :=
  fun s a s' ran => Grows.ofTables (same s a s' ran)

theorem fail {α : Type} (f : Fault) : Growing (App.fail f : App α) := by
  intro s a s' ran
  cases ran

theorem raising {α β : Type} (kind message : String) (f : α → App β) :
    Growing (App.raise kind message >>= f) := by
  intro s a s' ran
  cases ran

theorem discard {α : Type} {x : App α} (grows : Growing x) : Growing (Functor.discard x) := by
  intro s a s' ran
  rw [Steps.discardRun] at ran
  split at ran
  · cases ran
    rename_i ranx
    exact grows _ _ _ ranx
  · cases ran

end Growing

@[simp] theorem freshEntity (e : Entity) (now : Instant) : (Obj.fresh e now).entity = e := rfl

@[simp] theorem freshPk (e : Entity) (now : Instant) : (Obj.fresh e now).pk = none := rfl

theorem findByRun (e : Entity) (field value : String) (s : World) :
    findBy e field value s = .ok (((s.db.rows e).map (Obj.ofRow e)).find? fun o => o.get field == .text value) s :=
  rfl

theorem findByGrowing (e : Entity) (field value : String) : Growing (findBy e field value) :=
  Growing.ofTables fun _ _ _ ran => by cases ran; rfl

theorem nowGrowing : Growing App.now := Growing.ofTables fun _ _ _ ran => by cases ran; rfl

theorem printGrowing (line : String) : Growing (App.print line) :=
  Growing.ofTables fun _ _ _ ran => by cases ran; rfl

theorem saveGrowing {o : Obj} (ne : o.entity ≠ .systemLog) (fresh : o.pk = none)
    (published : o.entity = .article → o.get "status" = .text "published") : Growing (App.save o none) :=
  fun _ _ _ saved => growsSave ne saved (fun _ _ _ => by simp [fresh]) fun article => ⟨fresh, published article⟩

theorem createUserGrowing (username email : String) (password : Option String) (extra : List (String × Json))
    (noKey : ∀ kv ∈ extra, kv.1 ≠ "id") : Growing (Accounts.createUser username email password extra) := by
  unfold Accounts.createUser
  dsimp only
  split
  · exact Growing.raising _ _ _
  refine Growing.bind nowGrowing fun now => ?_
  · obtain ⟨entity, key, -⟩ := setAllKeeps _ (fun _ _ => rfl) extra _ noKey
    refine saveGrowing (by rw [entity]; simp [Obj.fresh]) (by rw [key]; simp [Obj.fresh]) fun article => ?_
    rw [entity] at article
    simp [Obj.fresh] at article

theorem adminGrowing : Growing ensureAdmin := by
  unfold ensureAdmin
  refine Growing.bind (findByGrowing _ _ _) fun found => ?_
  split
  · exact Growing.bind (Growing.discard (createUserGrowing _ _ _ _ (by decide))) fun _ => printGrowing _
  · exact Growing.pure ()

theorem writerGrowing : Growing ensureWriter := by
  unfold ensureWriter
  refine Growing.bind (findByGrowing _ _ _) fun found => ?_
  split
  · exact Growing.pure _
  · refine Growing.bind nowGrowing fun now => ?_
    intro s a s' ran
    obtain ⟨o₁, s₁, first, ran⟩ := okThrough ran
    obtain ⟨o₂, s₂, second, ran⟩ := okThrough ran
    obtain ⟨_, s₃, printed, ran⟩ := okThrough ran
    cases ran
    exact (resaveGrows (by simp [Obj.fresh]) (by simp [Obj.fresh]) first (by decide) second).trans
      (printGrowing _ _ _ _ printed)

theorem termsGrowing : Growing ensureTerms := by
  unfold ensureTerms
  refine Growing.bind (Growing.loop _ _ fun term _ => ?_) fun _ =>
    Growing.bind (Growing.loop _ _ fun name _ => ?_) fun _ => Growing.pure ()
  · obtain ⟨name, description⟩ := term
    refine Growing.bind (findByGrowing _ _ _) fun found => ?_
    split
    · refine Growing.bind nowGrowing fun now => Growing.bind (saveGrowing (by simp) (by simp) ?_) fun o =>
        Growing.bind (printGrowing _) fun _ => Growing.pure _
      simp
    · exact Growing.pure _
  · refine Growing.bind (findByGrowing _ _ _) fun found => ?_
    split
    · refine Growing.bind nowGrowing fun now => Growing.bind (saveGrowing (by simp) (by simp) ?_) fun o =>
        Growing.bind (printGrowing _) fun _ => Growing.pure _
      simp
    · exact Growing.pure _

theorem linkTagsGrowing (o : Obj) (names : List String) : Growing (linkTags o names) := by
  unfold linkTags
  refine Growing.bind (Growing.loop _ _ fun t _ => Growing.bind (findByGrowing _ _ _) fun tag => ?_) fun _ =>
    Growing.pure ()
  rcases tag with _ | tag
  · exact Growing.bind (Growing.fail _) fun _ => Growing.pure _
  dsimp only
  split
  · intro s b s' ran
    obtain ⟨db, s₁, read, ran⟩ := okThrough ran
    cases read
    split at ran
    · obtain ⟨_, s₂, linked, ran⟩ := okThrough ran
      cases linked
      cases ran
      exact Grows.ofTables rfl
    · cases ran
      exact .refl _
  · exact Growing.pure _

theorem articleGrowing (writer : Obj) (a : Article) : Growing (ensureArticle writer a) := by
  unfold ensureArticle
  refine Growing.bind (findByGrowing _ _ _) fun category => ?_
  rcases category with _ | category
  · exact Growing.fail _
  refine Growing.bind (findByGrowing _ _ _) fun found => ?_
  split
  · refine Growing.bind nowGrowing fun now => ?_
    dsimp only
    refine Growing.bind (saveGrowing (by simp) (by simp) fun _ => ?_) fun o =>
      Growing.bind (linkTagsGrowing o a.tags) fun _ => printGrowing _
    simp [WrittenRows.objGetSetOther]
  · exact Growing.pure ()

theorem selectGrowing (e : Entity) (filter : List (String × Json)) (ordered : Bool) :
    Growing (App.select e filter ordered) := by
  intro s xs s' ran
  have kept := Answers.runOfTriple (Steps.selectSpec e filter ordered s)
  rw [ran] at kept
  exact Grows.ofTables (by rw [kept.1])

theorem allGrowing (e : Entity) : Growing (App.all e) := Growing.ofTables fun _ _ _ ran => by cases ran; rfl

theorem commentOpens {article : Obj} {i j : Nat} {text : String} {s s' : World} {u : Unit}
    (ran : addComment article i text j s = .ok u s') :
    ∃ c s₁, Accounts.createUser ("commenter_" ++ toString i ++ "_" ++ toString j)
      ("commenter" ++ toString i ++ toString j ++ "@example.com") (some "password123") [] s = .ok c s₁ ∧
      Grows s₁ s' := by
  unfold addComment at ran
  obtain ⟨c, s₁, created, ran⟩ := okThrough ran
  refine ⟨c, s₁, created, Growing.bind (allGrowing _) (fun comments => ?_) s₁ u s' ran⟩
  dsimp only
  split
  · exact Growing.bind nowGrowing fun now =>
      Growing.discard (saveGrowing (by simp) (by simp) (by simp))
  · exact Growing.pure ()

theorem commentGrowing (article : Obj) (i : Nat) (text : String) (j : Nat) :
    Growing (addComment article i text j) := by
  intro s u s' ran
  obtain ⟨c, s₁, created, grown⟩ := commentOpens ran
  exact (createUserGrowing _ _ _ _ (by simp) s c s₁ created).trans grown

theorem commentOnGrowing (article : Obj) (i : Nat) : Growing (commentOn article i) := by
  unfold commentOn
  refine Growing.bind (Growing.loop _ _ fun pair _ => ?_) fun _ => printGrowing _
  obtain ⟨text, j⟩ := pair
  exact Growing.bind (commentGrowing article i text j) fun _ => Growing.pure _

theorem commentOnEachGrowing (published : List Obj) : Growing (commentOnEach published) := by
  unfold commentOnEach
  refine Growing.bind (Growing.loop _ _ fun pair _ => ?_) fun _ => Growing.pure ()
  obtain ⟨article, i⟩ := pair
  exact Growing.bind (commentOnGrowing article i) fun _ => Growing.pure _

theorem commentsGrowing : Growing addComments := by
  unfold addComments
  exact Growing.bind (selectGrowing _ _ _) fun xs => commentOnEachGrowing _

theorem closingGrowing : Growing closing := by
  unfold closing
  exact Growing.bind (printGrowing _) fun _ => Growing.bind (printGrowing _) fun _ =>
    Growing.bind (printGrowing _) fun _ => Growing.bind (printGrowing _) fun _ =>
    Growing.bind (printGrowing _) fun _ => printGrowing _

theorem articlesGrowing (writer : Obj) : Growing (ensureArticles writer) := by
  unfold ensureArticles
  exact Growing.bind (Growing.loop _ _ fun a _ => Growing.bind (articleGrowing writer a) fun _ => Growing.pure _)
    fun _ => Growing.pure ()

theorem createGrowing : Growing create := by
  have content : Growing ensureContent := by
    unfold ensureContent
    exact Growing.bind adminGrowing fun _ => Growing.bind writerGrowing fun writer =>
      Growing.bind termsGrowing fun _ => articlesGrowing writer
  unfold create
  exact Growing.bind content fun _ => Growing.bind commentsGrowing fun _ => closingGrowing

/-! ### A run from an empty store, and the run after it -/

def HasPublished (w : World) : Prop := ∃ x ∈ w.db.rows .article, x.get "status" = .text "published"

theorem Grows.hasPublished {w w' : World} (grown : Grows w w') (pub : HasPublished w) : HasPublished w' := by
  obtain ⟨x, mem, status⟩ := pub
  exact ⟨x, grown.articles x mem, status⟩

theorem Grows.hasUser {w w' : World} {name : String} (grown : Grows w w') (held : HasUser w name) :
    HasUser w' name := by
  obtain ⟨x, mem, named⟩ := held
  exact ⟨x, grown.users x mem, named⟩

theorem zipRangeCons {α : Type} (x : α) (xs : List α) :
    (x :: xs).zip (List.range (x :: xs).length) = (x, 0) :: xs.zip ((List.range xs.length).map Nat.succ) := by
  rw [List.length_cons, List.range_succ_eq_map, List.zip_cons_cons]

theorem publishedSelect (s : World) : ∃ c : Condition,
    App.select .article [("status", .str "published")] true s =
      .ok (App.defaultOrder .article (((s.db.rows .article).map (Obj.ofRow .article)).filter
        (App.satisfies [c]))) s ∧
    c.field.name = "status" ∧ c.test = .exact ∧ c.arg = .text "published" :=
  ⟨_, rfl, rfl, rfl, rfl⟩

theorem defaultOrderTied (e : Entity) {xs : List Obj}
    (tied : ∀ p ∈ e.model.ordering, ∀ a ∈ xs, ∀ b ∈ xs, Value.lt (a.get p.1) (b.get p.1) = false) :
    App.defaultOrder e xs = xs := by
  unfold App.defaultOrder
  replace tied : ∀ p ∈ e.model.ordering.reverse, ∀ a ∈ xs, ∀ b ∈ xs, Value.lt (a.get p.1) (b.get p.1) = false := by
    simpa using tied
  generalize e.model.ordering.reverse = keys at tied
  induction keys with
  | nil => rfl
  | cons key keys ih =>
    obtain ⟨name, desc⟩ := key
    -- every two members pass the sort's test, so the sort keeps the list as it is
    rw [List.foldl_cons]
    dsimp only
    rw [List.mergeSort_of_pairwise]
    · exact ih fun p mem => tied p (.tail _ mem)
    · refine List.pairwise_of_forall_mem_list fun a ma b mb => ?_
      have ab := tied _ List.mem_cons_self a ma b mb
      have ba := tied _ List.mem_cons_self b mb a ma
      cases desc <;> simp_all

theorem publishedSelected {s : World} (pub : HasPublished s) :
    ∃ x xs, App.select .article [("status", .str "published")] true s = .ok (x :: xs) s := by
  obtain ⟨c, run, name, test, arg⟩ := publishedSelect s
  obtain ⟨t, mem, status⟩ := pub
  have passes : Obj.ofRow .article t ∈
      ((s.db.rows .article).map (Obj.ofRow .article)).filter (App.satisfies [c]) := by
    refine List.mem_filter.mpr ⟨List.mem_map_of_mem mem, ?_⟩
    simp only [App.satisfies, List.all_cons, List.all_nil, Value.passes, name, test, arg, Listing.ofRowGet, status]
    simp [Value.isNull, (WrittenRows.textBeq _ _).mpr rfl]
  obtain ⟨x, xs, listed⟩ := List.exists_cons_of_ne_nil
    (List.ne_nil_of_mem ((Listing.defaultOrderPerm _ _).mem_iff.mpr passes))
  exact ⟨x, xs, by rw [run, listed]⟩

theorem commentsOpen {s s' : World} {u : Unit} (pub : HasPublished s) (ran : addComments s = .ok u s') :
    ∃ c s₁, Accounts.createUser "commenter_0_0" "commenter00@example.com" (some "password123") [] s =
      .ok c s₁ ∧ Grows s₁ s' := by
  obtain ⟨x, xs, selected⟩ := publishedSelected pub
  unfold addComments at ran
  rw [Listing.bindRun selected] at ran
  unfold commentOnEach at ran
  dsimp only at ran
  rw [List.take_succ_cons, zipRangeCons] at ran
  obtain ⟨_, s₇, ran, finished⟩ := okThrough ran
  cases finished
  -- the first published article is the first commented on, under the number 0
  obtain ⟨_, s₂, first, after⟩ := Growing.firstRound ran fun pair _ =>
    Growing.bind (commentOnGrowing pair.1 pair.2) fun _ => Growing.pure _
  obtain ⟨_, s₃, onFirst, yielded⟩ := okThrough first
  cases yielded
  unfold commentOn at onFirst
  obtain ⟨_, s₄, comments, printed⟩ := okThrough onFirst
  obtain ⟨text, texts, listed⟩ : ∃ text texts, commentTexts = text :: texts := ⟨_, _, rfl⟩
  rw [listed, zipRangeCons] at comments
  obtain ⟨_, s₅, commented, rest⟩ := Growing.firstRound comments fun pair _ =>
    Growing.bind (commentGrowing _ _ pair.1 pair.2) fun _ => Growing.pure _
  obtain ⟨_, s₆, opened, yielded⟩ := okThrough commented
  cases yielded
  obtain ⟨c, s₁, created, grown⟩ := commentOpens opened
  have name : "commenter_" ++ toString 0 ++ "_" ++ toString 0 = "commenter_0_0" := by decide
  have email : "commenter" ++ toString 0 ++ toString 0 ++ "@example.com" = "commenter00@example.com" := by
    decide
  rw [name, email] at created
  exact ⟨c, s₁, created, grown.trans (rest.trans ((printGrowing _ _ _ _ printed).trans after))⟩

theorem createPhases {w s : World} {u : Unit} (ran : create w = .ok u s) :
    ∃ writer s₁ s₂ s₃, Grows w s₁ ∧ ensureArticles writer s₁ = .ok () s₂ ∧ addComments s₂ = .ok () s₃ ∧
      Grows s₃ s := by
  unfold create at ran
  obtain ⟨⟨⟩, s₂, content, ran⟩ := okThrough ran
  obtain ⟨⟨⟩, s₃, commented, closed⟩ := okThrough ran
  unfold ensureContent at content
  obtain ⟨⟨⟩, s₄, admin, content⟩ := okThrough content
  obtain ⟨writer, s₅, wrote, content⟩ := okThrough content
  obtain ⟨⟨⟩, s₁, terms, posted⟩ := okThrough content
  exact ⟨writer, s₁, s₂, s₃, (adminGrowing _ _ _ admin).trans ((writerGrowing _ _ _ wrote).trans
    (termsGrowing _ _ _ terms)), posted, commented, closingGrowing _ _ _ closed⟩

theorem articleHeld {writer : Obj} {a : Article} {s s' : World} {u : Unit}
    (present : ∃ t, (Entity.article, t) ∈ s.db.tables) (ran : ensureArticle writer a s = .ok u s') :
    ∃ x, x ∈ s'.db.rows .article := by
  unfold ensureArticle at ran
  obtain ⟨category, s₁, found, ran⟩ := okThrough ran
  rw [findByRun] at found
  obtain ⟨-, rfl⟩ := EStateM.Result.ok.inj found
  rcases category with _ | category
  · cases ran
  obtain ⟨titled, s₂, found, ran⟩ := okThrough ran
  rw [findByRun] at found
  obtain ⟨listed, rfl⟩ := EStateM.Result.ok.inj found
  rcases titled with _ | o
  · obtain ⟨now, s₃, clock, ran⟩ := okThrough ran
    cases clock
    obtain ⟨o, s₄, saved, rest⟩ := okThrough ran
    obtain ⟨row, mem, -⟩ := freshSaveHolds (by simp) (by simp) (by simpa using present) saved
    exact ⟨row, (Growing.bind (linkTagsGrowing o a.tags) (fun _ => printGrowing _) s₄ u s' rest).articles
      row (by simpa using mem)⟩
  · -- an article of the title is there already, and nothing changes
    cases ran
    obtain ⟨t, mem, -⟩ := List.mem_map.mp (List.mem_of_find?_eq_some listed)
    exact ⟨t, mem⟩

theorem firstRunLeaves {w s : World} {u : Unit} (empty : w.db = Db.empty) (ran : create w = .ok u s) :
    HasPublished s ∧ HasUser s "commenter_0_0" := by
  have tables (e : Entity) (listed : e ∈ Entity.all) : ∃ t, (e, t) ∈ w.db.tables :=
    ⟨{}, by rw [empty]; exact List.mem_map.mpr ⟨e, listed, rfl⟩⟩
  obtain ⟨writer, s₁, s₂, s₃, early, posted, commented, closed⟩ := createPhases ran
  -- the first article is found or saved, so the store holds an article after the loop
  unfold ensureArticles at posted
  obtain ⟨⟨⟩, s₇, posted, finished⟩ := okThrough posted
  cases finished
  obtain ⟨a, more, listed⟩ : ∃ a more, articles = a :: more := ⟨_, _, rfl⟩
  rw [listed] at posted
  obtain ⟨_, s₄, first, after⟩ := Growing.firstRound posted fun a _ =>
    Growing.bind (articleGrowing writer a) fun _ => Growing.pure _
  obtain ⟨⟨⟩, s₅, made, yielded⟩ := okThrough first
  cases yielded
  obtain ⟨x, mem⟩ := articleHeld (early.tables .article (tables .article (by simp [Entity.all]))) made
  have grown : Grows w s₂ := early.trans ((articleGrowing writer a _ _ _ made).trans after)
  have published : HasPublished s₂ := by
    have held := after.articles x mem
    refine ⟨x, held, (grown.published x held).resolve_left ?_⟩
    rw [empty]
    exact List.not_mem_nil
  obtain ⟨c, s₆, created, later⟩ := commentsOpen published commented
  obtain ⟨o, user, fresh, named, run⟩ := createUserSaves "commenter_0_0" "commenter00@example.com"
    (some "password123") [] (by decide) (by simp) (by simp) s₂
  rw [run] at created
  have taken := savedNameHeld user fresh named (grown.tables .user (tables .user (by simp [Entity.all]))) created
  exact ⟨((commentsGrowing _ _ _ commented).trans closed).hasPublished published,
    (later.trans closed).hasUser taken⟩

theorem rerunRefused {s : World} (pub : HasPublished s) (taken : HasUser s "commenter_0_0") :
    ∃ f s', create s = .error f s' := by
  rcases ran : create s with ⟨u, s'⟩ | ⟨f, s'⟩
  · exfalso
    obtain ⟨writer, s₁, s₂, s₃, early, posted, commented, -⟩ := createPhases ran
    have grown : Grows s s₂ := early.trans (articlesGrowing writer _ _ _ posted)
    obtain ⟨c, s₄, created, -⟩ := commentsOpen (grown.hasPublished pub) commented
    obtain ⟨o, user, fresh, named, run⟩ := createUserSaves "commenter_0_0" "commenter00@example.com"
      (some "password123") [] (by decide) (by simp) (by simp) s₂
    obtain ⟨f, refused⟩ := takenNameRefused user fresh named (grown.hasUser taken)
    rw [run, refused] at created
    cases created
  · exact ⟨f, s', rfl⟩

theorem sampleRerunFails (w : World) (empty : w.db = Db.empty) (s : World) (ran : create w = .ok () s) :
    ∃ f s', create s = .error f s' := by
  obtain ⟨pub, taken⟩ := firstRunLeaves empty ran
  exact rerunRefused pub taken

def answered {α : Type} : EStateM.Result Fault World α → Bool
  | .ok _ _ => true
  | .error _ _ => false

theorem answeredRun {α : Type} {r : EStateM.Result Fault World α} (h : answered r = true) :
    ∃ a, r = .ok a (RequestLog.after r) := by
  cases r with
  | ok a s => exact ⟨a, rfl⟩
  | error f s => cases h

def contentStore : World := RequestLog.after (ensureContent {})

def publishedOf (w : World) : List Obj :=
  ((w.db.rows .article).map (Obj.ofRow .article)).filter fun o => Value.passes .exact (o.get "status") (.text "published")

set_option maxRecDepth 100000 in
theorem freshSampleRuns : ∃ s, create {} = .ok () s := by
  -- the listing the comments start from is the one thing the kernel cannot run: it sorts
  have checked : answered (ensureContent {}) = true ∧
      (∀ p ∈ Entity.article.model.ordering, ∀ a ∈ publishedOf contentStore, ∀ b ∈ publishedOf contentStore,
        Value.lt (a.get p.1) (b.get p.1) = false) ∧
      answered ((commentOnEach ((publishedOf contentStore).take 2) >>= fun _ => closing) contentStore) = true := by
    decide +kernel
  obtain ⟨content, tied, rest⟩ := checked
  obtain ⟨⟨⟩, contentRun⟩ := answeredRun content
  obtain ⟨⟨⟩, restRun⟩ := answeredRun rest
  obtain ⟨c, selected, name, test, arg⟩ := publishedSelect contentStore
  have passes : App.satisfies [c] = fun o => Value.passes .exact (o.get "status") (.text "published") := by
    funext o
    simp [App.satisfies, name, test, arg]
  rw [passes, show ((contentStore.db.rows .article).map (Obj.ofRow .article)).filter _ = publishedOf contentStore from rfl,
    defaultOrderTied .article tied] at selected
  have run : create {} = (commentOnEach ((publishedOf contentStore).take 2) >>= fun _ => closing) contentStore := by
    unfold create addComments
    rw [Listing.bindRun (show ensureContent {} = .ok () contentStore from contentRun), bind_assoc,
      Listing.bindRun selected]
  exact ⟨_, run.trans restRun⟩

theorem freshSiteRerunFails : ∃ s, create {} = .ok () s ∧ ∃ f s', create s = .error f s' := by
  obtain ⟨s, ran⟩ := freshSampleRuns
  exact ⟨s, ran, sampleRerunFails {} rfl s ran⟩

end Portal.SampleRerun
