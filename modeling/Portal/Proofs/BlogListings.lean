import Mathlib
import Portal.Blog.Views
import Portal.Proofs.Listing
/-! The blog's listings. The article list (at the blog's root and at `featured/`), the search,
a category's page and a tag's page each list exactly the published articles their filter keeps,
each once, newest first: by publication time with the unpublished last, then by creation time.
The store's default order sorts by creation time and then, stably, by publication time, and a
stable sort keeps the members that tie in the order they came in. The list's pages, in order,
make up the list. A search lists nothing for an empty or missing text, where the article list
shows every published article; for a non-empty text the two list the same articles in the same
order. Main statement: `blogListings`. -/
namespace Portal.BlogListings
open Blog Listing Web

/-! ### Newest first -/

def timeRank : Value → WithBot Int
  | .moment m => m.instant
  | _ => ⊥

def timed : Value → Bool
  | .null | .moment _ => true
  | _ => false

theorem ltRanks {v v' : Value} (hv : timed v = true) (hv' : timed v' = true) :
    Value.lt v v' = decide (timeRank v < timeRank v') := by
  cases v <;> cases v' <;> simp_all [timed, timeRank, Value.lt]

theorem laterFirst {v v' : Value} (hv : timed v = true) (hv' : timed v' = true) :
    (!Value.lt v v') = decide (timeRank v' ≤ timeRank v) := by
  rw [ltRanks hv hv', ← decide_not]
  exact decide_eq_decide.mpr not_lt

theorem mergeSortCongr {α : Type} {le le' : α → α → Bool} {xs : List α}
    (same : ∀ a ∈ xs, ∀ b ∈ xs, le a b = le' a b) : xs.mergeSort le = xs.mergeSort le' := by
  simpa using List.map_mergeSort (f := id) same

section Stable
variable {α β γ : Type} [LinearOrder β] [LinearOrder γ] (f : α → β) (g : α → γ)

theorem keyTrans : ∀ a b c : α, decide (f b ≤ f a) → decide (f c ≤ f b) → decide (f c ≤ f a) := by
  intro a b c hab hbc
  simp only [decide_eq_true_eq] at *
  exact hbc.trans hab

theorem keyTotal : ∀ a b : α, (decide (f b ≤ f a) || decide (f a ≤ f b)) := by
  intro a b
  simpa using le_total (f b) (f a)

theorem tiesKeepOrder (xs : List α) (v : β) :
    ((xs.mergeSort fun a b => decide (g b ≤ g a)).mergeSort fun a b => decide (f b ≤ f a)).filter
      (fun a => f a = v) = (xs.mergeSort fun a b => decide (g b ≤ g a)).filter (fun a => f a = v) := by
  set ys := xs.mergeSort fun a b => decide (g b ≤ g a)
  -- the members tied at `v` already stand in sorted order, so the stable sort keeps them
  have tied : (ys.filter fun a => f a = v).Pairwise fun a b => decide (f b ≤ f a) := by
    refine List.Pairwise.imp_of_mem (fun {a b} ma mb _ => ?_) (List.pairwise_of_forall fun _ _ => trivial)
    have ha := (List.mem_filter.mp ma).2
    have hb := (List.mem_filter.mp mb).2
    simp only [decide_eq_true_eq] at ha hb ⊢
    rw [ha, hb]
  have kept := List.sublist_mergeSort (keyTrans f) (keyTotal f) tied List.filter_sublist
  have inFilter := kept.filter (fun a => f a = v)
  rw [List.filter_filter] at inFilter
  simp only [Bool.and_self] at inFilter
  symm
  refine inFilter.eq_of_length ?_
  rw [← List.countP_eq_length_filter, ← List.countP_eq_length_filter]
  exact ((List.mergeSort_perm ys _).countP_eq _).symm

theorem sortedTwice (xs : List α) :
    ((xs.mergeSort fun a b => decide (g b ≤ g a)).mergeSort fun a b => decide (f b ≤ f a)).Pairwise
      fun a b => f b < f a ∨ f b = f a ∧ g b ≤ g a := by
  rw [List.pairwise_iff_forall_sublist]
  intro a b pair
  have byF := List.pairwise_iff_forall_sublist.mp (List.pairwise_mergeSort (keyTrans f) (keyTotal f) _) pair
  simp only [decide_eq_true_eq] at byF
  rcases byF.lt_or_eq with later | same
  · exact .inl later
  · -- a tie on `f`: the pair stands among the tied members, in the order the sort by `g` gave
    refine .inr ⟨same, ?_⟩
    have inTies := pair.filter (fun c => f c = f a)
    rw [tiesKeepOrder, List.filter_cons_of_pos (by simp), List.filter_cons_of_pos (by simp [same]),
      List.filter_nil] at inTies
    have byG := List.pairwise_iff_forall_sublist.mp (List.pairwise_mergeSort (keyTrans g) (keyTotal g) _)
      (inTies.trans List.filter_sublist)
    simpa using byG

end Stable

def NewestFirst (xs : List Obj) : Prop :=
  xs.Pairwise fun a b =>
    timeRank (b.get "published_at") < timeRank (a.get "published_at") ∨
      timeRank (b.get "published_at") = timeRank (a.get "published_at") ∧
        timeRank (b.get "created_at") ≤ timeRank (a.get "created_at")

theorem articleOrder (xs : List Obj) : App.defaultOrder .article xs =
    (xs.mergeSort fun a b => !Value.lt (a.get "created_at") (b.get "created_at")).mergeSort
      fun a b => !Value.lt (a.get "published_at") (b.get "published_at") := rfl

theorem defaultOrderNewest {xs : List Obj}
    (dated : ∀ o ∈ xs, timed (o.get "published_at") = true ∧ timed (o.get "created_at") = true) :
    NewestFirst (App.defaultOrder .article xs) := by
  have byCreated : (xs.mergeSort fun a b => !Value.lt (a.get "created_at") (b.get "created_at")) =
      xs.mergeSort fun a b => decide (timeRank (b.get "created_at") ≤ timeRank (a.get "created_at")) :=
    mergeSortCongr fun a ma b mb => laterFirst (dated a ma).2 (dated b mb).2
  have byPublished : ((xs.mergeSort fun a b => decide (timeRank (b.get "created_at") ≤ timeRank (a.get "created_at"))).mergeSort
      fun a b => !Value.lt (a.get "published_at") (b.get "published_at")) =
      (xs.mergeSort fun a b => decide (timeRank (b.get "created_at") ≤ timeRank (a.get "created_at"))).mergeSort
        fun a b => decide (timeRank (b.get "published_at") ≤ timeRank (a.get "published_at")) :=
    mergeSortCongr fun a ma b mb => laterFirst (dated a (List.mem_mergeSort.mp ma)).1 (dated b (List.mem_mergeSort.mp mb)).1
  rw [articleOrder, byCreated, byPublished]
  exact sortedTwice (fun a => timeRank (a.get "published_at")) (fun a => timeRank (a.get "created_at")) xs

/-! ### Reading the store -/

theorem filterMRun {xs : List Obj} {p : Obj → App Bool} {b : Obj → Bool} {w : World}
    (tests : ∀ x ∈ xs, p x w = .ok (b x) w) : filterM xs p w = .ok (xs.filter b) w := by
  suffices run : ∀ acc, List.foldlM (m := App) (fun acc x => do return if ← p x then acc ++ [x] else acc)
      acc xs w = .ok (acc ++ xs.filter b) w by
    have all := run []
    rw [List.nil_append] at all
    exact all
  induction xs with
  | nil => intro acc; simp; rfl
  | cons x xs ih =>
    intro acc
    have step : (do return if ← p x then acc ++ [x] else acc : App (List Obj)) w =
        .ok (if b x then acc ++ [x] else acc) w := by
      simp [bind, EStateM.bind, tests x (by simp)]; rfl
    rw [List.foldlM_cons, bindRun step, ih fun y my => tests y (by simp [my])]
    cases kept : b x <;> simp [kept]

def isPublished (a : Row) : Bool := a.get "status" == .text "published"

def Published (a : Row) : Prop := a.get "status" = .text "published"

theorem isPublishedIff (a : Row) : isPublished a = true ↔ Published a := by
  unfold isPublished Published
  cases a.get "status" <;> simp [BEq.beq, Value.beq]

theorem exactText (v : Value) (s : String) : Value.passes .exact v (.text s) = (v == .text s) := by
  cases v <;> rfl

theorem selectPublishedRun (ordered : Bool) (w : World) :
    App.select .article [("status", .str "published")] ordered w =
      .ok (let xs := ((w.db.rows .article).filter isPublished).map (Obj.ofRow .article)
        if ordered then App.defaultOrder .article xs else xs) w := by
  -- the filter reads as one exact test of the status field
  obtain ⟨f, conds, named⟩ : ∃ f : Field, ([("status", Json.str "published")].mapM
      fun p => App.condition .article p.1 p.2) w = .ok [⟨f, .exact, .text "published"⟩] w ∧
      f.name = "status" := ⟨_, rfl, rfl⟩
  have kept : ((w.db.rows .article).map (Obj.ofRow .article)).filter
      (App.satisfies [⟨f, .exact, .text "published"⟩]) =
      ((w.db.rows .article).filter isPublished).map (Obj.ofRow .article) := by
    rw [List.filter_map]
    congr 2
    funext a
    simp [App.satisfies, named, exactText, isPublished]
  unfold App.select
  refine (bindRun conds).trans ?_
  rw [bindRun (allRun .article w), kept]
  rfl

def publishedIn (db : Db) : List Obj :=
  App.defaultOrder .article (((db.rows .article).filter isPublished).map (Obj.ofRow .article))

theorem publishedRun (w : World) : published w = .ok (publishedIn w.db) w :=
  selectPublishedRun true w

def tagNamesIn (db : Db) (a : Obj) : List String :=
  ((db.rows .tag).filter fun t => (db.linkedFrom Catalog.tagArticles (a.pk.getD 0)).contains t.pk).map
    (·.getText "name")

theorem tagNamesRun (a : Obj) (w : World) : tagNames a w = .ok (tagNamesIn w.db a) w := by
  unfold tagNames tagNamesIn
  rw [bindRun (x := App.db) rfl, bindRun (allRun .tag w), List.filter_map, List.map_map]
  rfl

def searchHit (db : Db) (q : String) (a : Obj) : Bool :=
  ["title", "content", "excerpt"].any (fun f => containsFolded (a.getText f) q) ||
    (tagNamesIn db a).any (containsFolded · q)

theorem matchesSearchRun (q : String) (a : Obj) (w : World) :
    matchesSearch q a w = .ok (searchHit w.db q a) w := by
  unfold matchesSearch searchHit
  cases ["title", "content", "excerpt"].any (fun f => containsFolded (a.getText f) q)
  · exact bindRun (tagNamesRun a w)
  · rfl

def Matches (db : Db) (q : String) (a : Row) : Prop :=
  (∃ f ∈ ["title", "content", "excerpt"], occursFolded q (a.getText f) = true) ∨
    ∃ t ∈ db.rows .tag, t.pk ∈ db.linkedFrom Catalog.tagArticles a.pk ∧ occursFolded q (t.getText "name") = true

theorem searchHitMatches (db : Db) (q : String) (a : Row) :
    searchHit db q (Obj.ofRow .article a) = true ↔ Matches db q a := by
  simp [searchHit, Matches, tagNamesIn, containsFolded, Value.passes, Value.onTexts]

/-! ### Listings -/

def Dated (db : Db) : Prop :=
  ∀ a ∈ db.rows .article, timed (a.get "published_at") = true ∧ timed (a.get "created_at") = true

instance (db : Db) : Decidable (Dated db) :=
  inferInstanceAs (Decidable (∀ a ∈ db.rows .article, _))

/-- `xs` lists the articles of `db` that satisfy `p`: each of them once and no other, newest
first. -/
structure Lists (db : Db) (p : Row → Prop) (xs : List Obj) : Prop where
  exactly : ∀ o, o ∈ xs ↔ ∃ a ∈ db.rows .article, p a ∧ o = Obj.ofRow .article a
  once : (xs.map Obj.pk).Nodup
  newest : NewestFirst xs

section
variable {db : Db}

theorem sortedLists {keep : Row → Bool} {p : Row → Prop} (keyed : Keyed db .article) (dated : Dated db)
    (agree : ∀ a ∈ db.rows .article, keep a = true ↔ p a) :
    Lists db p (App.defaultOrder .article (((db.rows .article).filter keep).map (Obj.ofRow .article))) where
  exactly o := by
    rw [(defaultOrderPerm _ _).mem_iff, List.mem_map]
    constructor
    · rintro ⟨a, ma, rfl⟩
      obtain ⟨inRows, kept⟩ := List.mem_filter.mp ma
      exact ⟨a, inRows, (agree a inRows).mp kept, rfl⟩
    · rintro ⟨a, inRows, pa, rfl⟩
      exact ⟨a, List.mem_filter.mpr ⟨inRows, (agree a inRows).mpr pa⟩, rfl⟩
  once := by
    refine ((defaultOrderPerm _ _).map Obj.pk).nodup_iff.mpr ?_
    -- the records carry their rows' keys, which the table keeps apart
    have keys : (((db.rows .article).filter keep).map Row.pk).Nodup :=
      keyed.sublist (List.filter_sublist.map _)
    have wrapped : Obj.pk ∘ Obj.ofRow .article = some ∘ Row.pk := rfl
    rw [List.map_map, wrapped, ← List.map_map]
    exact keys.map (Option.some_injective _)
  newest := defaultOrderNewest fun o mo => by
    obtain ⟨a, ma, rfl⟩ := List.mem_map.mp mo
    simpa using dated a (List.mem_filter.mp ma).1

theorem Lists.narrow {p : Row → Prop} {xs : List Obj} {keep : Obj → Bool} {q : Row → Prop}
    (l : Lists db p xs) (agree : ∀ a ∈ db.rows .article, keep (Obj.ofRow .article a) = true ↔ q a) :
    Lists db (fun a => p a ∧ q a) (xs.filter keep) where
  exactly o := by
    rw [List.mem_filter, l.exactly]
    constructor
    · rintro ⟨⟨a, ma, pa, rfl⟩, kept⟩
      exact ⟨a, ma, ⟨pa, (agree a ma).mp kept⟩, rfl⟩
    · rintro ⟨a, ma, ⟨pa, qa⟩, rfl⟩
      exact ⟨⟨a, ma, pa, rfl⟩, (agree a ma).mpr qa⟩
  once := l.once.sublist (List.filter_sublist.map _)
  newest := l.newest.sublist List.filter_sublist

theorem Lists.congr {p q : Row → Prop} {xs : List Obj} (l : Lists db p xs)
    (same : ∀ a ∈ db.rows .article, p a ↔ q a) : Lists db q xs where
  exactly o := by
    rw [l.exactly]
    exact exists_congr fun a => and_congr_right fun ma => by rw [same a ma]
  once := l.once
  newest := l.newest

theorem publishedLists (keyed : Keyed db .article) (dated : Dated db) : Lists db Published (publishedIn db) :=
  sortedLists keyed dated fun a _ => isPublishedIff a

end

/-! ### Pages -/

def pageCount (n per : Nat) : Nat := max 1 ((n + per - 1) / per)

theorem paginateNumbered {xs : List Obj} {per n : Nat} (w : World) (pos : 1 ≤ n)
    (within : n ≤ pageCount xs.length per) :
    paginate xs per (some (toString n)) w =
      .ok ⟨n, pageCount xs.length per, xs.length, (xs.drop ((n - 1) * per)).take per⟩ w := by
  have asked : Forms.intOf? (toString n) = some (n : Int) := readIntegerRepr n
  have written : (toString n).isEmpty = false := by
    simp [Nat.toString_eq_repr, ← String.toList_inj, Nat.toList_repr, Nat.toDigits_ne_nil]
  have inRange : ¬((n : Int) < 1) ∧ ¬((n : Int) > (max 1 ((xs.length + per - 1) / per) : Nat)) := by
    unfold pageCount at within
    omega
  unfold paginate
  simp only [written, Bool.false_eq_true, if_false, asked]
  simp only [pure, bind, EStateM.bind, EStateM.pure, inRange, if_false, Int.toNat_natCast]
  rfl

theorem pagesJoin {xs : List Obj} {per k : Nat} (fits : xs.length ≤ k * per) :
    ((List.range k).map fun i => (xs.drop (i * per)).take per).flatten = xs := by
  induction k generalizing xs with
  | zero =>
    have empty : xs = [] := List.eq_nil_of_length_eq_zero (by simpa using fits)
    simp [empty]
  | succ k ih =>
    have rest := @ih (xs.drop per) (by rw [List.length_drop]; rw [Nat.succ_mul] at fits; omega)
    have shift : (List.range k).map (fun i => (xs.drop ((i + 1) * per)).take per) =
        (List.range k).map fun i => ((xs.drop per).drop (i * per)).take per := by
      refine List.map_congr_left fun i _ => ?_
      rw [List.drop_drop, Nat.succ_mul, Nat.add_comm]
    rw [List.range_succ_eq_map, List.map_cons, List.map_map, List.flatten_cons]
    simp only [Function.comp_def, Nat.succ_eq_add_one, shift, rest, Nat.zero_mul, List.drop_zero,
      List.take_append_drop]

def Paged (xs : List Obj) (per : Nat) (w : World) : Prop :=
  ∃ pages : List (List Obj), pages.length = pageCount xs.length per ∧ pages.flatten = xs ∧
    ∀ i (h : i < pages.length), paginate xs per (some (toString (i + 1))) w =
      .ok ⟨i + 1, pages.length, xs.length, pages[i]⟩ w

theorem paged (xs : List Obj) {per : Nat} (per0 : 0 < per) (w : World) : Paged xs per w := by
  refine ⟨(List.range (pageCount xs.length per)).map fun i => (xs.drop (i * per)).take per, by simp,
    pagesJoin ?_, fun i h => ?_⟩
  · -- the last page ends at or after the list's end
    have past := Nat.lt_div_mul_add (a := xs.length + per - 1) per0
    have atLeast : (xs.length + per - 1) / per * per ≤ pageCount xs.length per * per :=
      Nat.mul_le_mul_right per (le_max_right _ _)
    omega
  · rw [List.length_map, List.length_range] at h
    rw [paginateNumbered w (by omega) (by omega)]
    simp

/-! ### The blog's listings -/

def ListAsks (db : Db) (r : Request) (a : Row) : Prop :=
  (∀ q, r.param? "q" = some q → q ≠ "" → Matches db q a) ∧
    (r.param? "featured" = some "true" → a.getBool "is_featured" = true)

theorem articleListingRun (r : Request) (w : World) :
    articleListing r [] w = .ok (((publishedIn w.db).filter fun o =>
        (r.param? "q").all fun q => q.isEmpty || searchHit w.db q o).filter fun o =>
        r.param? "featured" != some "true" || o.getBool "is_featured") w := by
  unfold articleListing
  rw [bindRun (publishedRun w)]
  simp only [List.find?_nil, Option.map_none, publishedIn]
  -- the search text's case, then the featured flag's
  cases hq : r.param? "q" with
  | none =>
    cases hf : (r.param? "featured" == some "true") <;>
      simp only [hf, bne, Option.all_none, List.filter_true, Bool.not_false, Bool.not_true, Bool.true_or,
        Bool.false_or, Bool.false_eq_true, if_true, if_false] <;> rfl
  | some q =>
    cases empty : q.isEmpty
    · simp only [empty, Bool.not_false, if_true]
      rw [bindRun (filterMRun fun o _ => matchesSearchRun q o w)]
      cases hf : (r.param? "featured" == some "true") <;>
        simp only [hf, bne, Option.all_some, empty, Bool.false_or, Bool.not_false, Bool.not_true, Bool.true_or,
          List.filter_true, Bool.false_eq_true, if_true, if_false] <;> rfl
    · cases hf : (r.param? "featured" == some "true") <;>
        simp only [hf, bne, Option.all_some, empty, Bool.true_or, Bool.not_false, Bool.not_true, Bool.false_or,
          List.filter_true, Bool.false_eq_true, if_true, if_false] <;> rfl

theorem articleListingLists (r : Request) {db : Db} (keyed : Keyed db .article) (dated : Dated db) :
    Lists db (fun a => Published a ∧ ListAsks db r a) (((publishedIn db).filter fun o =>
        (r.param? "q").all fun q => q.isEmpty || searchHit db q o).filter fun o =>
        r.param? "featured" != some "true" || o.getBool "is_featured") := by
  have searched : Lists db (fun a => Published a ∧ ∀ q, r.param? "q" = some q → q ≠ "" → Matches db q a)
      ((publishedIn db).filter fun o => (r.param? "q").all fun q => q.isEmpty || searchHit db q o) :=
    (publishedLists keyed dated).narrow fun a _ => by
      cases asked : r.param? "q" with
      | none => simp
      | some q => by_cases blank : q = "" <;> simp [blank, searchHitMatches]
  refine (searched.narrow
    (q := fun a => r.param? "featured" = some "true" → a.getBool "is_featured" = true) fun a _ => ?_).congr
    fun a _ => and_assoc
  by_cases asked : r.param? "featured" = some "true" <;> simp [asked]

theorem searchListingText {q : String} (w : World) (named : q ≠ "") :
    searchListing (some q) w = .ok ((publishedIn w.db).filter (searchHit w.db q)) w := by
  have written : q.isEmpty = false := by simpa using named
  simp only [searchListing, written, Bool.false_eq_true, if_false]
  rw [bindRun (publishedRun w), filterMRun fun o _ => matchesSearchRun q o w]

theorem categoryArticlesRun (c : Obj) (w : World) :
    categoryArticles c w = .ok ((publishedIn w.db).filter fun a => (a.get "category").asNat? == c.pk) w :=
  bindRun (publishedRun w)

theorem taggedArticlesRun (t : Row) (w : World) :
    taggedArticles (Obj.ofRow .tag t) w = .ok (App.defaultOrder .article
      (((w.db.rows .article).filter fun a => (w.db.linked Catalog.tagArticles t.pk).contains a.pk && isPublished a).map
        (Obj.ofRow .article))) w := by
  have tagged : taggedPublished t.pk w = .ok ((((w.db.rows .article).filter isPublished).map (Obj.ofRow .article)).filter
      fun a => (w.db.linked Catalog.tagArticles t.pk).contains (a.pk.getD 0)) w := by
    unfold taggedPublished
    rw [bindRun (x := App.db) rfl, bindRun (selectPublishedRun false w)]
    rfl
  show (taggedPublished t.pk >>= fun xs => pure (App.defaultOrder .article xs)) w = _
  rw [bindRun tagged, List.filter_map, List.filter_filter]
  rfl

/-- What the blog's listings show on a store. The article list, which serves both the blog's root
and `featured/`, lists the published articles its request asks for; a search lists the published
articles that match its text, and nothing for an empty or missing one; a category's page and a
tag's page list their published articles. Each lists them once, newest first, and the pages of
the paginated ones make them up. For a non-empty text the article list not asked for featured
articles lists what the search does. -/
structure ListingsAgree (w : World) : Prop where
  list : ∀ r : Request, ∃ xs, articleListing r [] w = .ok xs w ∧ Paged xs 6 w ∧
    Lists w.db (fun a => Published a ∧ ListAsks w.db r a) xs
  search : ∀ q : String, q ≠ "" → ∃ xs, searchListing (some q) w = .ok xs w ∧
    Lists w.db (fun a => Published a ∧ Matches w.db q a) xs
  blank : searchListing none w = .ok [] w ∧ searchListing (some "") w = .ok [] w
  category : ∀ c ∈ w.db.rows .category, ∃ xs, categoryArticles (Obj.ofRow .category c) w = .ok xs w ∧
    Paged xs 6 w ∧ Lists w.db (fun a => Published a ∧ a.getNat? "category" = some c.pk) xs
  tag : ∀ t ∈ w.db.rows .tag, ∃ xs, taggedArticles (Obj.ofRow .tag t) w = .ok xs w ∧
    Paged xs 6 w ∧ Lists w.db (fun a => Published a ∧ a.pk ∈ w.db.linked Catalog.tagArticles t.pk) xs
  sameAsSearch : ∀ (r : Request) (q : String), r.param? "q" = some q → q ≠ "" →
    r.param? "featured" ≠ some "true" → articleListing r [] w = searchListing (some q) w

theorem blogListings (w : World) (keyed : Keyed w.db .article) (dated : Dated w.db) : ListingsAgree w where
  list r := ⟨_, articleListingRun r w, paged _ (by decide) w, articleListingLists r keyed dated⟩
  search q named := ⟨_, searchListingText w named,
    (publishedLists keyed dated).narrow fun a _ => searchHitMatches w.db q a⟩
  blank := ⟨rfl, rfl⟩
  category c _ := ⟨_, categoryArticlesRun _ w, paged _ (by decide) w,
    (publishedLists keyed dated).narrow fun a _ => by simp [Row.getNat?]⟩
  tag t _ := ⟨_, taggedArticlesRun t w, paged _ (by decide) w,
    sortedLists keyed dated fun a _ => by simp [isPublishedIff, and_comm]⟩
  sameAsSearch r q asked named plain := by
    have written : q.isEmpty = false := by simpa using named
    have unasked : (r.param? "featured" != some "true") = true := by simpa [bne] using plain
    rw [articleListingRun, searchListingText w named]
    simp only [asked, Option.all_some, written, Bool.false_or, unasked, Bool.true_or, List.filter_true]

def startArticle : Row :=
  ⟨1, [("status", .text "published"), ("published_at", .moment ⟨Instant.start, 0⟩),
    ("created_at", .moment ⟨Instant.start, 0⟩)]⟩

def onePublished : World := { db := Db.empty.setTable .article { rows := [startArticle], seq := 1 } }

theorem onePublishedListings :
    Keyed onePublished.db .article ∧ Dated onePublished.db ∧ ListingsAgree onePublished :=
  ⟨by decide, by decide, blogListings onePublished (by decide) (by decide)⟩

def starArticle : Row :=
  ⟨1, [("status", .text "published"), ("is_featured", .bool true), ("published_at", .moment ⟨Instant.start, 0⟩),
    ("created_at", .moment ⟨Instant.start, 0⟩)]⟩

def plainArticle : Row :=
  ⟨2, [("status", .text "published"), ("is_featured", .bool false), ("published_at", .moment ⟨Instant.start, 0⟩),
    ("created_at", .moment ⟨Instant.start, 0⟩)]⟩

def featuredPair : World :=
  { db := Db.empty.setTable .article { rows := [starArticle, plainArticle], seq := 2 } }

theorem featuredRouteUnfiltered :
    (blogPage ["featured", ""] = some .featured ∧
      ∀ r : Request, r.method = "GET" → Blog.page r .featured = listPage r []) ∧
    (∃ xs, articleListing { path := "/blog/featured/" } [] featuredPair = .ok xs featuredPair ∧
      Obj.ofRow .article plainArticle ∈ xs ∧ (Obj.ofRow .article plainArticle).getBool "is_featured" = false) ∧
    let r : Request := { path := "/blog/search/", params := [("q", "")] }
    articleListing r [] onePublished = .ok [Obj.ofRow .article startArticle] onePublished ∧
      searchListing (r.param? "q") onePublished = .ok [] onePublished := by
  refine ⟨⟨rfl, fun r get => by simp [Blog.page, get]⟩, ⟨_, articleListingRun _ _, ?_, rfl⟩, ?_⟩
  · -- the listing holds every published article, in the store's order
    have stored : plainArticle ∈ (featuredPair.db.rows .article).filter isPublished :=
      List.mem_filter.mpr ⟨List.mem_cons_of_mem _ (List.mem_singleton_self _), rfl⟩
    have published : Obj.ofRow .article plainArticle ∈ publishedIn featuredPair.db := by
      rw [publishedIn, articleOrder]
      exact List.mem_mergeSort.mpr (List.mem_mergeSort.mpr (List.mem_map_of_mem stored))
    exact List.mem_filter.mpr ⟨List.mem_filter.mpr ⟨published, rfl⟩, rfl⟩
  · intro r
    have only : publishedIn onePublished.db = [Obj.ofRow .article startArticle] := by
      unfold publishedIn
      rw [show ((onePublished.db.rows .article).filter isPublished).map (Obj.ofRow .article) =
        [Obj.ofRow .article startArticle] from rfl, articleOrder]
      simp only [List.mergeSort_singleton]
    refine ⟨?_, rfl⟩
    rw [articleListingRun, only]
    rfl

end Portal.BlogListings
