import Mathlib
import Portal.Proofs.WrittenRows
import Portal.Blog.Views
/-! The blog's threaded comments stay a forest within each article. A request to an article's page
adds at most one comment, and keeps every comment it finds: only a POST by a signed-in reader with a
non-empty comment, on a published article, adds one, carrying the URL's article, the reader as its
author and, for a reply, a parent that is an earlier comment of the same article. So in every state
a run of such requests reaches, following parents never comes back to a comment and never leaves
its article. Main statement: `commentsFormForest`. -/
namespace Portal.CommentForest
open Std.Do Listing WrittenRows Blog

set_option mvcgen.warning false

def RepliesTo (db : Db) (c p : Row) : Prop :=
  c ∈ db.rows .comment ∧ p ∈ db.rows .comment ∧ c.get "parent" = .int p.pk

def articleOf (c : Row) : Option Nat := (c.get "article").asNat?

/-- The comments of `db` form a forest within articles: keys are distinct and no higher than the
counter, and a reply names an earlier comment of its own article. -/
structure Forest (db : Db) : Prop where
  keyed : Keyed db .comment
  keys : ∀ c ∈ db.rows .comment, c.pk ≤ (db.table .comment).seq
  parents : ∀ c ∈ db.rows .comment, c.get "parent" = .null ∨
    ∃ p ∈ db.rows .comment, c.get "parent" = .int p.pk ∧ articleOf p = articleOf c ∧ p.pk < c.pk

theorem parentEarlier {db : Db} (forest : Forest db) {c p : Row} (h : RepliesTo db c p) :
    p.pk < c.pk ∧ articleOf p = articleOf c := by
  obtain ⟨child, parent, named⟩ := h
  rcases forest.parents c child with empty | ⟨q, mem, same, article, earlier⟩
  · rw [named] at empty
    cases empty
  · -- the parent a reply names is the one comment of that key
    have key : p.pk = q.pk := by
      rw [named] at same
      exact_mod_cast Value.int.inj same
    obtain rfl := List.inj_on_of_nodup_map forest.keyed parent mem key
    exact ⟨earlier, article⟩

theorem ancestorEarlier {db : Db} (forest : Forest db) {c p : Row} (h : Relation.TransGen (RepliesTo db) c p) :
    p.pk < c.pk ∧ articleOf p = articleOf c := by
  induction h with
  | single reply => exact parentEarlier forest reply
  | tail _ last ih =>
    obtain ⟨earlier, article⟩ := parentEarlier forest last
    exact ⟨earlier.trans ih.1, article.trans ih.2⟩

theorem noCycle {db : Db} (forest : Forest db) (c : Row) : ¬Relation.TransGen (RepliesTo db) c c :=
  fun loop => lt_irrefl c.pk (ancestorEarlier forest loop).1

theorem forestOfTable {db db' : Db} (same : db'.table .comment = db.table .comment) (forest : Forest db) :
    Forest db' := by
  have rows : db'.rows .comment = db.rows .comment := by
    unfold Db.rows
    rw [same]
  refine ⟨?_, ?_, ?_⟩
  · unfold Keyed
    rw [rows]
    exact forest.keyed
  · rw [rows, same]
    exact forest.keys
  · rw [rows]
    exact forest.parents

/-- How a request may change the comments of `db` into those of `db'`: they stay a forest, none is
lost, and every one added is one that `fits`. -/
structure Grows (fits : Row → Prop) (db db' : Db) : Prop where
  forest : Forest db'
  kept : ∀ c ∈ db.rows .comment, c ∈ db'.rows .comment
  added : ∀ c ∈ db'.rows .comment, c ∉ db.rows .comment → fits c

theorem growsSame {fits : Row → Prop} {db db' : Db} (forest : Forest db)
    (same : db'.table .comment = db.table .comment) : Grows fits db db' := by
  have rows : db'.rows .comment = db.rows .comment := by
    unfold Db.rows
    rw [same]
  refine ⟨forestOfTable same forest, fun c mem => rows ▸ mem, fun c mem old => ?_⟩
  rw [rows] at mem
  exact absurd mem old

theorem growsRefl {fits : Row → Prop} {db : Db} (forest : Forest db) : Grows fits db db :=
  growsSame forest rfl

theorem Grows.mono {fits fits' : Row → Prop} {db db' : Db} (g : Grows fits db db') (h : ∀ c, fits c → fits' c) :
    Grows fits' db db' :=
  ⟨g.forest, g.kept, fun c mem old => h c (g.added c mem old)⟩

theorem Grows.from {fits : Row → Prop} {db db₁ db' : Db} (same : db₁.table .comment = db.table .comment)
    (g : Grows fits db₁ db') : Grows fits db db' := by
  have rows : db₁.rows .comment = db.rows .comment := by
    unfold Db.rows
    rw [same]
  exact ⟨g.forest, fun c mem => g.kept c (by rwa [rows]), fun c mem old => g.added c mem (by rwa [rows])⟩

@[irreducible] def contentOf (data : Forms.Submitted) : String :=
  Text.strip ((((data.find? (·.1 == "content")).map (·.2)).join).getD "")

@[irreducible] def commentOutcome (data : Forms.Submitted) : Forms.Outcome :=
  if (contentOf data).isEmpty then { errors := [("content", [Forms.requiredText])] }
  else { cleaned := [("content", .text (contentOf data))] }

theorem contentFieldRun (raw : Option (Option String)) (w : World) :
    ({ name := "content", kind := .text none, label := some "Comment" } : Forms.FieldSpec).read raw w =
      .ok (if (Text.strip ((raw.join).getD "")).isEmpty then .error Forms.requiredText
        else .ok (.text (Text.strip ((raw.join).getD "")))) w := by
  unfold Forms.FieldSpec.read
  dsimp only
  split <;> rfl

theorem readCommentRun (data : Forms.Submitted) (w : World) :
    readComment data w = .ok (commentOutcome data) w := by
  unfold readComment Forms.readAll
  rw [show commentFields = [{ name := "content", kind := .text none, label := some "Comment" }] from rfl,
    List.foldlM_cons]
  simp only [List.foldlM_nil, bind_pure]
  show EStateM.bind (Forms.FieldSpec.read _ _) _ w = _
  simp only [EStateM.bind, contentFieldRun]
  unfold commentOutcome contentOf
  split <;> rfl

@[spec] theorem readCommentSpec (data : Forms.Submitted) (s₀ : World) :
    ⦃fun s => ⌜s = s₀⌝⦄ readComment data
    ⦃post⟨fun o s => ⌜s = s₀ ∧ o = commentOutcome data⌝, fun _ _ => ⌜False⌝⟩⦄ := by
  intro s h
  simp only [wp, PredTrans.apply, EStateM.run] at h ⊢
  rw [readCommentRun, h]
  simp

theorem validContent {data : Forms.Submitted} (valid : (commentOutcome data).valid = true) :
    contentOf data ≠ "" ∧ (commentOutcome data).text "content" = contentOf data := by
  unfold commentOutcome at valid ⊢
  by_cases empty : (contentOf data).isEmpty
  · simp [empty, Forms.Outcome.valid] at valid
  · refine ⟨fun none => empty (by simp [none]), ?_⟩
    rw [if_neg empty]
    simp [Forms.Outcome.text, Forms.Outcome.get?, Value.textOr, Value.asText?]

def NamesParent (r : Web.Request) (comments : List Row) (article : Option Nat) : Option Obj → Prop
  | none => r.field? "parent_id" = none ∨ r.field? "parent_id" = some ""
  | some p => ∃ t ∈ comments, p = Obj.ofRow .comment t ∧ articleOf t = article ∧
      ∃ pid, r.field? "parent_id" = some pid ∧ Forms.intOf? pid = some t.pk

@[spec] theorem replyToSpec (r : Web.Request) (a : Obj) (s₀ : World) :
    ⦃fun s => ⌜s = s₀⌝⦄ replyTo r a
    ⦃post⟨fun p s => ⌜s = s₀ ∧ NamesParent r (s₀.db.rows .comment) a.pk p⌝, fun _ s => ⌜s = s₀⌝⟩⦄ := by
  mvcgen [replyTo, Web.keyArg, App.raise]
  all_goals simp_all [NamesParent]
  rename_i holds
  obtain ⟨-, ⟨⟨nonneg, key⟩, article⟩, t, mem, rfl⟩ := holds
  refine ⟨t, mem, rfl, article, ?_⟩
  simp only [ofRowPk, Option.getD_some] at key
  omega

theorem commentOnCells (a u : Obj) (content : String) (parent : Option Obj) (now : Instant) :
    (commentOn a u content parent now).entity = .comment ∧ (commentOn a u content parent now).pk = none ∧
      (commentOn a u content parent now).get "article" = Value.ofOptNat a.pk ∧
      (commentOn a u content parent now).get "author" = Value.ofOptNat u.pk ∧
      (commentOn a u content parent now).get "content" = .text content ∧
      (commentOn a u content parent now).get "parent" = Value.ofOptNat (parent.bind Obj.pk) := by
  have fresh : (Obj.fresh .comment now).entity = .comment ∧ (Obj.fresh .comment now).pk = none ∧
      (Obj.fresh .comment now).get "parent" = .null :=
    ⟨rfl, rfl, rfl⟩
  unfold commentOn
  cases parent with
  | none =>
    simp [objGetSetOther, fresh, Value.ofOptNat]
  | some p =>
    simp [objGetSetOther, fresh]

theorem commentRef {n : String} (ref : n = "article" ∨ n = "author" ∨ n = "parent") :
    ∃ f ∈ Entity.comment.model.fields, f.name = n ∧ (∃ t d, f.kind = .ref t d) ∧ (f.null = false ↔ n ≠ "parent") := by
  rcases ref with rfl | rfl | rfl <;> simp [Entity.model, Catalog.comment, Catalog.userRef]

theorem commentOwn : ∀ n ∈ ["article", "author", "parent", "content"],
    n ≠ "id" ∧ ∀ g ∈ Entity.comment.model.fields, (g.autoNow || g.autoNowAdd) = true → g.name ≠ n := by
  decide

section Saved
variable {w w' : World} {c : Obj} {row : Row}

theorem commentPrepared (entity : c.entity = .comment) (now : Instant) : c.prepare now = c := by
  unfold Obj.prepare
  rw [entity]

theorem storedRef (wrote : Wrote w w' c none row) (entity : c.entity = .comment) {n : String}
    (ref : n = "article" ∨ n = "author" ∨ n = "parent") {k : Option Nat} (hk : c.get n = Value.ofOptNat k) :
    row.get n = Value.ofOptNat k := by
  obtain ⟨f, mem, rfl, ⟨t, d, kind⟩, -⟩ := commentRef ref
  have own := commentOwn f.name (by rcases ref with h | h | h <;> simp [h])
  have stored := storedValue wrote (entity ▸ mem) (by simp [kind]) rfl own.1 (entity ▸ own.2)
  rw [commentPrepared entity, hk, prepOptNat kind] at stored
  exact (Except.ok.inj stored).symm

theorem storedKey (wrote : Wrote w w' c none row) (entity : c.entity = .comment) {n : String}
    (ref : n = "article" ∨ n = "author") {k : Option Nat} (hk : c.get n = Value.ofOptNat k) :
    ∃ j, k = some j ∧ row.get n = .int j := by
  have ref' : n = "article" ∨ n = "author" ∨ n = "parent" := ref.elim .inl (.inr ∘ .inl)
  have stored := storedRef wrote entity ref' hk
  cases k with
  | some j => exact ⟨j, rfl, stored⟩
  | none =>
    obtain ⟨f, mem, rfl, ⟨t, d, kind⟩, notNull⟩ := commentRef ref'
    have filled := violationNotNull wrote.checked (entity ▸ mem) (by simp [kind])
      (notNull.mpr (by rcases ref with h | h <;> simp [h])) (commentOwn f.name (by rcases ref with h | h <;> simp [h])).1
    exact absurd stored filled

theorem storedContent (wrote : Wrote w w' c none row) (entity : c.entity = .comment) {s : String}
    (hs : c.get "content" = .text s) : row.get "content" = .text s := by
  have mem : Catalog.textField "content" ∈ Entity.comment.model.fields := by
    simp [Entity.model, Catalog.comment]
  have own := commentOwn "content" (by simp)
  have stored := storedValue wrote (entity ▸ mem) (by simp [Catalog.textField]) rfl own.1 (entity ▸ own.2)
  rw [commentPrepared entity, show (Catalog.textField "content").name = "content" from rfl, hs,
    LogStore.prepTextCell _ (.inl rfl), LogStore.textCellText] at stored
  exact (Except.ok.inj stored).symm

end Saved

/-- Row `c` is a comment that request `r` adds to `db`: on the article of key `article`, by the user of
key `author`, with text `content`, under the parent the request names, and newer than every
comment of `db`. -/
structure Fits (r : Web.Request) (article author : Option Nat) (content : String) (comments : List Row) (c : Row) :
    Prop where
  onArticle : ∃ k, article = some k ∧ c.get "article" = .int k
  byAuthor : ∃ k, author = some k ∧ c.get "author" = .int k
  text : c.get "content" = .text content
  named : ∃ p, NamesParent r comments article p ∧ c.get "parent" = Value.ofOptNat (p.bind Obj.pk)
  newer : ∀ x ∈ comments, x.pk < c.pk

theorem Fits.reply {r : Web.Request} {article author : Option Nat} {content : String} {comments : List Row}
    {c : Row} (fits : Fits r article author content comments c) :
    c.get "parent" = .null ∨ ∃ p ∈ comments, c.get "parent" = .int p.pk ∧ articleOf p = articleOf c := by
  obtain ⟨k, rfl, onArticle⟩ := fits.onArticle
  obtain ⟨p, names, cell⟩ := fits.named
  cases p with
  | none => exact .inl cell
  | some p =>
    obtain ⟨t, mem, rfl, sameArticle, -⟩ := names
    refine .inr ⟨t, mem, cell, ?_⟩
    rw [sameArticle]
    simp [articleOf, onArticle, Value.asNat?, Value.asInt?]

theorem growsByOne {fits : Row → Prop} {db db' : Db} {row : Row} (forest : Forest db)
    (rows : Replaces (db.rows .comment) (db'.rows .comment) row)
    (keyed : Keyed db .comment → Keyed db' .comment) (mem : row ∈ db'.rows .comment)
    (seq : (db'.table .comment).seq = max (db.table .comment).seq row.pk)
    (newer : ∀ x ∈ db.rows .comment, x.pk < row.pk)
    (reply : row.get "parent" = .null ∨
      ∃ p ∈ db.rows .comment, row.get "parent" = .int p.pk ∧ articleOf p = articleOf row)
    (fitting : fits row) : Grows fits db db' := by
  have kept : ∀ c ∈ db.rows .comment, c ∈ db'.rows .comment :=
    fun c old => rows.kept c old (newer c old).ne
  refine ⟨⟨keyed forest.keyed, fun c listed => ?_, fun c listed => ?_⟩, kept, fun c listed old => ?_⟩
  · rw [seq]
    rcases rows.within c listed with rfl | ⟨old, -⟩
    · exact le_max_right _ _
    · exact (forest.keys c old).trans (le_max_left _ _)
  · rcases rows.within c listed with rfl | ⟨old, -⟩
    · rcases reply with empty | ⟨p, parent, named, article⟩
      · exact .inl empty
      · exact .inr ⟨p, kept p parent, named, article, newer p parent⟩
    · rcases forest.parents c old with empty | ⟨p, parent, named, article, earlier⟩
      · exact .inl empty
      · exact .inr ⟨p, kept p parent, named, article, earlier⟩
  · rcases rows.within c listed with rfl | ⟨was, -⟩
    · exact fitting
    · exact absurd was old

theorem commentSaved {r : Web.Request} {a u : Obj} {content : String} {parent : Option Obj} {now : Instant}
    {w w' : World} {o' : Obj} (forest : Forest w.db)
    (names : NamesParent r (w.db.rows .comment) a.pk parent)
    (h : App.save (commentOn a u content parent now) none w = .ok o' w') :
    Grows (Fits r a.pk u.pk content (w.db.rows .comment)) w.db w'.db := by
  obtain ⟨entity, pk, article, author, text, parentCell⟩ := commentOnCells a u content parent now
  obtain ⟨row, -, wrote⟩ := saveWrites (by rw [entity]; decide) h
  obtain ⟨key, fresh, added⟩ := wrote.fresh (by simp [AuditTrail.storedIn, pk])
  rw [entity] at key fresh added
  rw [pk, Option.getD_none] at key
  -- the row the save wrote is the comment the request asked for
  have newer : ∀ x ∈ w.db.rows .comment, x.pk < row.pk := by
    intro x old
    rw [key]
    exact Nat.lt_succ_of_le (forest.keys x old)
  have fits : Fits r a.pk u.pk content (w.db.rows .comment) row := by
    refine ⟨storedKey wrote entity (.inl rfl) article, storedKey wrote entity (.inr rfl) author,
      storedContent wrote entity text, ⟨parent, names, storedRef wrote entity (.inr (.inr rfl)) parentCell⟩, newer⟩
  rcases added with ⟨mem, seq⟩ | same
  · exact growsByOne forest (entity ▸ wrote.rows) (entity ▸ wrote.keyed) mem seq newer fits.reply fits
  · exact growsSame forest same

@[spec] theorem postCommentSpec (r : Web.Request) (a u : Obj) (o : Forms.Outcome) (s₀ : World) :
    ⦃fun s => ⌜s = s₀⌝⦄ postComment r a u o
    ⦃post⟨fun _ s => ⌜Forest s₀.db → Grows (Fits r a.pk u.pk (o.text "content") (s₀.db.rows .comment)) s₀.db s.db⌝,
      fun _ s => ⌜Forest s₀.db → Grows (Fits r a.pk u.pk (o.text "content") (s₀.db.rows .comment)) s₀.db s.db⌝⟩⦄ := by
  mvcgen [postComment, App.now, App.message, saveRunsSpec, -Steps.saveSpec, App.ofExcept]
  all_goals simp_all +zetaDelta
  all_goals first
    | exact fun forest => commentSaved forest (‹_ ∧ NamesParent _ _ _ _›).2 ‹_›
    | exact fun _ forest => growsSame forest rfl

def PublishedAs (db : Db) (slug : String) (pk : Option Nat) (t : Row) : Prop :=
  t ∈ db.rows .article ∧ t.getText "slug" = slug ∧ t.getText "status" = "published" ∧ pk = some t.pk

@[spec] theorem shownArticleSpec (slug : String) (s₀ : World) :
    ⦃fun s => ⌜s = s₀⌝⦄ shownArticle slug
    ⦃post⟨fun a s => ⌜s.db.table .comment = s₀.db.table .comment ∧ ∃ t, PublishedAs s₀.db slug a.pk t⌝,
      fun _ s => ⌜s.db.table .comment = s₀.db.table .comment⌝⟩⦄ := by
  mvcgen [shownArticle, saveRunsSpec, -Steps.saveSpec]
  all_goals simp_all
  rename_i found
  obtain ⟨-, ⟨slugged, published⟩, t, mem, rfl⟩ := found
  intro saved
  have ne : ∀ v, ((Obj.ofRow .article t).set "views_count" v).entity ≠ .systemLog := by
    simp [Obj.ofRow]
  obtain ⟨row, -, wrote⟩ := saveWrites (ne _) saved
  exact ⟨wrote.others .comment (by simp [Obj.ofRow]) (by decide), t, mem, by simpa using slugged,
    by simpa using published, savedKey (ne _) saved (by simp)⟩

@[spec] theorem detailContextSpec (a : Obj) (form : Json) (s₀ : World) :
    ⦃fun s => ⌜s = s₀⌝⦄ detailContext a form ⦃post⟨fun _ s => ⌜s = s₀⌝, fun _ s => ⌜s = s₀⌝⟩⦄ := by
  mvcgen [detailContext, published]
  all_goals simp_all

/-- Row `c` is a comment that request `r` posts with the comment form on the article of key
`article`: a non-empty comment by the request's signed-in user, and the row fits the request. -/
structure FormPosted (r : Web.Request) (article : Option Nat) (comments : List Row) (c : Row) : Prop where
  filled : contentOf (Forms.Submitted.ofPairs r.form) ≠ ""
  byUser : ∃ u, r.user = some u ∧ Fits r article u.pk (contentOf (Forms.Submitted.ofPairs r.form)) comments c

theorem formPosted {r : Web.Request} {article : Option Nat} {u : Obj} {db db' : Db}
    (user : r.user = some u) (valid : (commentOutcome (Forms.Submitted.ofPairs r.form)).valid = true)
    (grows : Forest db → Grows (Fits r article u.pk ((commentOutcome (Forms.Submitted.ofPairs r.form)).text "content")
      (db.rows .comment)) db db') (forest : Forest db) :
    Grows (FormPosted r article (db.rows .comment)) db db' := by
  obtain ⟨filled, text⟩ := validContent valid
  rw [text] at grows
  exact (grows forest).mono fun c fits => ⟨filled, u, user, fits⟩

@[spec] theorem commentFormSpec (r : Web.Request) (a : Obj) (s₀ : World) :
    ⦃fun s => ⌜s = s₀⌝⦄ commentForm r a
    ⦃post⟨fun _ s => ⌜Forest s₀.db → Grows (FormPosted r a.pk (s₀.db.rows .comment)) s₀.db s.db⌝,
      fun _ s => ⌜Forest s₀.db → Grows (FormPosted r a.pk (s₀.db.rows .comment)) s₀.db s.db⌝⟩⦄ := by
  mvcgen [commentForm, App.readForm, App.readSession, App.renderAs, App.render]
  all_goals simp_all +zetaDelta
  all_goals try exact growsRefl
  all_goals try exact fun _ => growsRefl
  all_goals
    intro grows forest
    exact formPosted ‹r.user = some _› ‹_ = true› grows forest

/-- Row `c` is a comment that request `r` posts on the page of the article of slug `slug` in `db`:
by a POST of the comment form, on a published article of that slug. -/
structure Posted (r : Web.Request) (slug : String) (db : Db) (c : Row) : Prop where
  post : r.method = "POST"
  onPage : ∃ t ∈ db.rows .article, t.getText "slug" = slug ∧ t.getText "status" = "published" ∧
    FormPosted r (some t.pk) (db.rows .comment) c

theorem postedOnPage {r : Web.Request} {slug : String} {w s₁ s : World} {a : Obj} {t : Row}
    (method : r.method = "POST") (same : s₁.db.table .comment = w.db.table .comment)
    (shown : PublishedAs w.db slug a.pk t)
    (grows : Forest s₁.db → Grows (FormPosted r a.pk (s₁.db.rows .comment)) s₁.db s.db) (forest : Forest w.db) :
    Grows (Posted r slug w.db) w.db s.db := by
  have rows : s₁.db.rows .comment = w.db.rows .comment := by
    unfold Db.rows
    rw [same]
  obtain ⟨mem, slugged, published, key⟩ := shown
  rw [rows, key] at grows
  exact (Grows.from same (grows (forestOfTable same forest))).mono fun c posted =>
    ⟨method, t, mem, slugged, published, posted⟩

theorem afterOfTriple {α : Type} {x : App α} {w : World} {Q : World → Prop}
    (h : ⦃fun s => ⌜s = w⌝⦄ x ⦃post⟨fun _ s => ⌜Q s⌝, fun _ s => ⌜Q s⌝⟩⦄) : Q (RequestLog.after (x w)) := by
  have run := Answers.runOfTriple h
  revert run
  cases x w <;> exact id

theorem bindFails {α β : Type} {x : App α} {f : α → App β} {w w' : World} {e : Fault}
    (h : x w = .error e w') : (x >>= f) w = .error e w' := by
  show EStateM.bind x f w = _
  simp [EStateM.bind, h]

theorem articlePageGrows (r : Web.Request) (slug : String) (w : World) (forest : Forest w.db) :
    Grows (Posted r slug w.db) w.db (RequestLog.after (articlePage r slug w)).db := by
  have shown := Answers.runOfTriple (shownArticleSpec slug w)
  unfold articlePage
  split
  · -- a comment form, answered on the article the slug names
    rename_i method
    rcases run : shownArticle slug w with ⟨a, s₁⟩ | ⟨f, s₁⟩ <;> rw [run] at shown
    · obtain ⟨same, t, published⟩ := shown
      rw [bindRun run]
      exact postedOnPage (by simpa using method) same published (afterOfTriple (commentFormSpec r a s₁)) forest
    · rw [bindFails run]
      exact growsSame forest shown
  · split
    · -- the page itself: only the article's views change
      refine afterOfTriple (Q := fun s => Grows (Posted r slug w.db) w.db s.db) ?_
      mvcgen [App.renderAs, App.render]
      all_goals
        intros
        subst_vars
        first
          | exact growsSame forest ‹_›
          | exact growsSame forest ‹_ ∧ _›.1
    · split <;> exact growsRefl forest

def pagesRun : List (Web.Request × String) → World → World
  | [], w => w
  | (r, slug) :: rest, w => pagesRun rest (RequestLog.after (articlePage r slug w))

theorem pagesRunGrows (rs : List (Web.Request × String)) {w : World} (forest : Forest w.db) :
    Grows (fun c => ∃ pre r slug post, rs = pre ++ (r, slug) :: post ∧ Posted r slug (pagesRun pre w).db c)
      w.db (pagesRun rs w).db := by
  induction rs generalizing w with
  | nil => exact growsRefl forest
  | cons req rest ih =>
    obtain ⟨r, slug⟩ := req
    have step := articlePageGrows r slug w forest
    have tail := ih step.forest
    refine ⟨tail.forest, fun c old => tail.kept c (step.kept c old), fun c mem fresh => ?_⟩
    by_cases first : c ∈ (RequestLog.after (articlePage r slug w)).db.rows .comment
    · exact ⟨[], r, slug, rest, rfl, step.added c first fresh⟩
    · obtain ⟨pre, r', slug', post, split, posted⟩ := tail.added c mem first
      exact ⟨(r, slug) :: pre, r', slug', post, by rw [split]; rfl, posted⟩

theorem commentsFormForest (rs : List (Web.Request × String)) (w : World) (forest : Forest w.db) :
    (∀ c ∈ w.db.rows .comment, c ∈ (pagesRun rs w).db.rows .comment) ∧
    (∀ c ∈ (pagesRun rs w).db.rows .comment, c ∉ w.db.rows .comment →
      ∃ pre r slug post, rs = pre ++ (r, slug) :: post ∧ Posted r slug (pagesRun pre w).db c) ∧
    ∀ c p, Relation.TransGen (RepliesTo (pagesRun rs w).db) c p →
      p.pk < c.pk ∧ articleOf p = articleOf c := by
  have run := pagesRunGrows rs forest
  exact ⟨run.kept, run.added, fun _ _ => ancestorEarlier run.forest⟩

theorem forestOfNone {db : Db} (none : db.rows .comment = []) : Forest db := by
  refine ⟨?_, ?_, ?_⟩
  · unfold Keyed
    rw [none]
    exact List.nodup_nil
  all_goals
    intro c mem
    rw [none] at mem
    cases mem

def writer : Row := ⟨1, [("username", .text "alice"), ("is_active", .bool true)]⟩

def newsArticle : Obj :=
  ((((Obj.fresh .article Instant.start).set "title" (.text "News")).set "content" (.text "c")).set "status"
    (.text "published")).set "author" (.int 1)

def newsWorld : World :=
  RequestLog.after (App.save newsArticle none { db := Db.empty.setTable .user { rows := [writer], seq := 1 } })

def firstComment : Web.Request :=
  { method := "POST", path := "/blog/article/news/", form := [("content", "hi")], user := some (Obj.ofRow .user writer) }

def replyComment : Web.Request :=
  { firstComment with form := [("content", "yes"), ("parent_id", "1")] }

def commentThread : List (Web.Request × String) := [(firstComment, "news"), (replyComment, "news")]

theorem repliesEarlierFromEmpty :
    Forest newsWorld.db ∧
      ((pagesRun commentThread newsWorld).db.rows .comment).map (fun c => (c.get "parent").asNat?) = [none, some 1] ∧
      ∀ c p, Relation.TransGen (RepliesTo (pagesRun commentThread newsWorld).db) c p →
        p.pk < c.pk ∧ articleOf p = articleOf c := by
  have forest : Forest newsWorld.db := forestOfNone (List.isEmpty_iff.mp (by decide +kernel))
  exact ⟨forest, by decide +kernel, (commentsFormForest commentThread newsWorld forest).2.2⟩

end Portal.CommentForest
