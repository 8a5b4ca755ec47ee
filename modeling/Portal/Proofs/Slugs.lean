import Mathlib
import Portal.Proofs.Addresses
import Portal.Proofs.WrittenRows
/-! Slugs made from titles and names. `slugify` writes only ASCII letters, digits, hyphens and
underscores, and its slug is empty exactly when the folded text has no ASCII letter or digit; the
URL patterns take the slug exactly when it is not empty. A save of a new article, category or tag
with an empty slug fills it from the title or the name and makes no attempt to tell it apart: the
save stores the slug when no row of the kind holds it, and otherwise fails and leaves the world as
it was. Over every run of saves the slugs of a kind stay apart. -/
namespace Portal.Slugs
open Text

theorem collapseOut {inRun : Bool} {l : List Char} {c : Char} (h : c ∈ collapseDashes inRun l) :
    c = '-' ∨ (c ∈ l ∧ c ≠ '-' ∧ isAsciiBlank c = false) := by
  induction l generalizing inRun with
  | nil => cases h
  | cons d rest ih =>
    unfold collapseDashes at h
    split at h
    · split at h
      · exact (ih h).imp_right fun kept => ⟨List.mem_cons_of_mem d kept.1, kept.2⟩
      · rcases List.mem_cons.mp h with rfl | later
        · exact .inl rfl
        · exact (ih later).imp_right fun kept => ⟨List.mem_cons_of_mem d kept.1, kept.2⟩
    · rename_i kept
      rcases List.mem_cons.mp h with rfl | later
      · simp only [Bool.or_eq_true, decide_eq_true_eq, not_or, Bool.not_eq_true] at kept
        exact .inr ⟨List.mem_cons_self, kept.1, kept.2⟩
      · exact (ih later).imp_right fun kept => ⟨List.mem_cons_of_mem d kept.1, kept.2⟩

theorem collapseKeeps {inRun : Bool} {l : List Char} {c : Char} (mem : c ∈ l) (dash : c ≠ '-')
    (blank : isAsciiBlank c = false) : c ∈ collapseDashes inRun l := by
  induction l generalizing inRun with
  | nil => cases mem
  | cons d rest ih =>
    unfold collapseDashes
    rcases List.mem_cons.mp mem with rfl | later
    · simp [dash, blank]
    · split
      · split
        · exact ih later
        · exact List.mem_cons_of_mem _ (ih later)
      · exact List.mem_cons_of_mem _ (ih later)

theorem trimEndsSub {cs : List Char} {c : Char} (h : c ∈ trimEnds cs) : c ∈ cs := by
  unfold trimEnds at h
  rw [List.mem_reverse] at h
  have inner := List.mem_reverse.mp ((List.dropWhile_suffix _).subset h)
  exact (List.dropWhile_suffix _).subset inner

theorem restAllDropped {α : Type} (p : α → Bool) (l : List α) :
    (∀ x ∈ l.dropWhile p, p x) ↔ ∀ x ∈ l, p x := by
  constructor
  · intro all
    rw [← List.dropWhile_eq_nil_iff]
    by_contra left
    have first := List.head_dropWhile_not p left
    rw [all _ (List.head_mem left)] at first
    cases first
  · exact fun all x mem => all x ((List.dropWhile_suffix p).subset mem)

theorem trimEndsNil {cs : List Char} : trimEnds cs = [] ↔ ∀ c ∈ cs, c = '-' ∨ c = '_' := by
  unfold trimEnds
  rw [List.reverse_eq_nil_iff, List.dropWhile_eq_nil_iff]
  simp only [List.mem_reverse]
  rw [restAllDropped]
  simp

theorem upperRange (c : Char) : c.isUpper = (decide (65 ≤ c.toNat) && decide (c.toNat ≤ 90)) := by
  simp only [Char.isUpper, ge_iff_le, UInt32.le_iff_toNat_le, Bool.decide_and]
  rfl

theorem lowerRange (c : Char) : c.isLower = (decide (97 ≤ c.toNat) && decide (c.toNat ≤ 122)) := by
  simp only [Char.isLower, ge_iff_le, UInt32.le_iff_toNat_le]
  rfl

theorem digitRange (c : Char) : c.isDigit = (decide (48 ≤ c.toNat) && decide (c.toNat ≤ 57)) := by
  simp only [Char.isDigit, ge_iff_le, UInt32.le_iff_toNat_le]
  rfl

theorem lowerNat (c : Char) : c.toLower.toNat = if 65 ≤ c.toNat ∧ c.toNat ≤ 90 then c.toNat + 32 else c.toNat := by
  have A : 'A'.val.toNat = 65 := rfl
  have Z : 'Z'.val.toNat = 90 := rfl
  have code : c.toNat = c.val.toNat := rfl
  unfold Char.toLower
  split
  · rename_i upper
    simp only [ge_iff_le, UInt32.le_iff_toNat_le, A, Z] at upper
    have shift : ('a'.val - 'A'.val).toNat = 32 := rfl
    simp only [Char.toNat, UInt32.toNat_add, shift] at code ⊢
    rw [if_pos (by omega)]
    omega
  · rename_i lower
    simp only [ge_iff_le, UInt32.le_iff_toNat_le, A, Z] at lower
    rw [if_neg (by omega)]

theorem lowerAlphanum (c : Char) : c.toLower.isAlphanum = c.isAlphanum := by
  simp only [Char.isAlphanum, Char.isAlpha, upperRange, lowerRange, digitRange, lowerNat]
  rw [Bool.eq_iff_iff]
  split
  · simp
    omega
  · simp

theorem alphanumAscii {c : Char} (h : c.isAlphanum) : c.toNat < 128 := by
  simp only [Char.isAlphanum, Char.isAlpha, upperRange, lowerRange, digitRange, Bool.or_eq_true,
    Bool.and_eq_true, decide_eq_true_eq] at h
  omega

theorem alphanumNotBlank {c : Char} (h : c.isAlphanum) : isAsciiBlank c = false ∧ c ≠ '-' ∧ c ≠ '_' := by
  have code := alphanumAscii h
  simp only [Char.isAlphanum, Char.isAlpha, upperRange, lowerRange, digitRange, Bool.or_eq_true,
    Bool.and_eq_true, decide_eq_true_eq] at h
  refine ⟨?_, fun dash => ?_, fun under => ?_⟩
  · simp only [isAsciiBlank, Bool.or_eq_false_iff, decide_eq_false_iff_not, Bool.and_eq_false_iff]
    refine ⟨⟨fun space => ?_, by omega⟩, by omega⟩
    subst space
    simp at h
  · subst dash; simp at h
  · subst under; simp at h

theorem slugifyChars (s : String) : ∀ c ∈ (slugify s).toList, c.isAlphanum ∨ c = '-' ∨ c = '_' := by
  intro c mem
  unfold slugify at mem
  rw [String.toList_ofList] at mem
  rcases collapseOut (trimEndsSub mem) with dash | ⟨kept, -, blank⟩
  · exact .inr (.inl dash)
  · have word := (List.mem_filter.mp kept).2
    simp only [isWordChar, blank, Bool.or_false, Bool.or_eq_true, decide_eq_true_eq] at word
    rcases word with (alnum | under) | dash
    · exact .inl alnum
    · exact .inr (.inr under)
    · exact .inr (.inl dash)

theorem slugifyEmpty (s : String) : slugify s = "" ↔ ∀ c ∈ (asciiFold s).toList, c.isAlphanum = false := by
  unfold slugify
  rw [String.ofList_eq_empty_iff, trimEndsNil]
  constructor
  · intro edges c mem
    by_contra alnum
    rw [Bool.not_eq_false, ← lowerAlphanum] at alnum
    obtain ⟨blank, dash, under⟩ := alphanumNotBlank alnum
    have kept : c.toLower ∈ ((asciiFold s).toList.map Char.toLower).filter
        fun c => isWordChar c || isAsciiBlank c || c = '-' := by
      simp only [List.mem_filter, List.mem_map, isWordChar, alnum, Bool.true_or, and_true]
      exact ⟨c, mem, rfl⟩
    rcases edges _ (collapseKeeps kept dash blank) with edge | edge
    · exact dash edge
    · exact under edge
  · intro none c mem
    rcases collapseOut mem with dash | ⟨kept, -, blank⟩
    · exact .inl dash
    · obtain ⟨inFold, word⟩ := List.mem_filter.mp kept
      obtain ⟨d, dmem, rfl⟩ := List.mem_map.mp inFold
      have plain := none d dmem
      rw [← lowerAlphanum] at plain
      simp only [isWordChar, plain, blank, Bool.false_or, Bool.or_false, Bool.or_eq_true, decide_eq_true_eq] at word
      exact word.symm.imp id id

theorem slugifyIsSlug (s : String) :
    Web.isSlug (slugify s) = true ↔ ∃ c ∈ (asciiFold s).toList, c.isAlphanum = true := by
  have chars : (slugify s).toList.all (fun c => (c.isAlphanum && c.toNat < 128) || c == '-' || c == '_') := by
    rw [List.all_eq_true]
    intro c mem
    rcases slugifyChars s c mem with alnum | dash | under
    · simp [alnum, alphanumAscii alnum]
    · simp [dash]
    · simp [under]
  have empty := slugifyEmpty s
  unfold Web.isSlug
  rw [chars, Bool.and_true]
  constructor
  · intro filled
    by_contra none
    simp only [not_exists, not_and, Bool.not_eq_true] at none
    simp [empty.mpr none] at filled
  · rintro ⟨c, mem, alnum⟩
    simp only [Bool.not_eq_true', String.isEmpty_eq_false_iff]
    intro blank
    rw [empty.mp blank c mem] at alnum
    cases alnum

def slugSource : Entity → Option String
  | .article => some "title"
  | .category | .tag => some "name"
  | _ => none

theorem prepareSlug {o : Obj} {n : String} (source : slugSource o.entity = some n)
    (blank : (o.get "slug").truthy = false) (now : Instant) :
    (o.prepare now).get "slug" = .text (slugify (o.get n).toText) := by
  unfold Obj.prepare
  cases e : o.entity <;> simp only [slugSource, e, reduceCtorEq, Option.some.injEq] at source
  case category | tag =>
    subst source
    simp only [blank, Bool.false_eq_true, if_false]
    exact WrittenRows.objGetSet _ _ (by decide)
  case article =>
    subst source
    simp only [blank, Bool.false_eq_true, if_false]
    split
    · rw [WrittenRows.objGetSetOther _ _ (by decide), WrittenRows.objGetSet _ _ (by decide)]
    · exact WrittenRows.objGetSet _ _ (by decide)

theorem slugColumn {e : Entity} {n : String} (source : slugSource e = some n) :
    ∃ f ∈ e.model.fields, f.name = "slug" ∧ f.unique = true ∧ f.kind = .text ∧ f.null = false ∧
      f.autoNow = false ∧ f.autoNowAdd = false := by
  cases e <;> simp only [slugSource, reduceCtorEq] at source
  case category =>
    exact ⟨{ Catalog.slugField 100 with blank := true }, by simp [Entity.model, Catalog.category],
      rfl, rfl, rfl, rfl, rfl, rfl⟩
  case article =>
    exact ⟨{ Catalog.slugField 200 with blank := true }, by simp [Entity.model, Catalog.article],
      rfl, rfl, rfl, rfl, rfl, rfl⟩
  case tag =>
    exact ⟨{ Catalog.slugField 50 with blank := true }, by simp [Entity.model, Catalog.tag],
      rfl, rfl, rfl, rfl, rfl, rfl⟩

theorem presentNotNull {v : Value} (h : v ≠ .null) : v.isNull = false := by
  cases v <;> simp_all [Value.isNull]

theorem violationUnique {db : Db} {e : Entity} {pk : Nat} {cells : List (String × Value)}
    (h : db.violation e pk cells = none) {f : Field} (hf : f ∈ e.model.fields) (unique : f.unique = true)
    (notKey : f.name ≠ "id") (filled : (⟨pk, cells⟩ : Row).get f.name ≠ .null) :
    ∀ r ∈ db.rows e, r.pk ≠ pk → (r.get f.name == (⟨pk, cells⟩ : Row).get f.name) = false := by
  unfold Db.violation at h
  split_ifs at h
  dsimp only at h
  split at h
  · cases h
  split at h
  · cases h
  split at h
  · cases h
  rename_i none
  have passes := List.find?_eq_none.mp none f hf
  have cell : (⟨pk, cells⟩ : Row).get f.name = ((cells.find? (·.1 == f.name)).map (·.2)).getD .null := by
    simp [Row.get, notKey]
  rw [cell] at filled ⊢
  intro r mem other
  rw [Bool.eq_false_iff]
  intro same
  apply passes
  simp only [unique, Bool.true_and, List.all_cons, List.all_nil, Bool.and_true, Bool.and_eq_true,
    Bool.not_eq_true', List.any_eq_true, List.mem_filter, bne_iff_ne, ne_eq]
  exact ⟨presentNotNull filled, r, ⟨mem, other⟩, same⟩

theorem slugKindNotLog {e : Entity} {n : String} (source : slugSource e = some n) : e ≠ .systemLog := by
  rintro rfl
  cases source

theorem writtenSlug {o : Obj} {n : String} {w w' : World} {row : Row} (source : slugSource o.entity = some n)
    (wrote : WrittenRows.Wrote w w' o none row) :
    row.get "slug" = .text ((o.prepare w.clock).get "slug").toText := by
  obtain ⟨f, hf, name, -, kind, required, now, nowAdd⟩ := slugColumn source
  have notKey : f.name ≠ "id" := by rw [name]; decide
  have stored := WrittenRows.storedUnstamped wrote hf (by rw [kind]; decide) notKey now nowAdd
  have present := WrittenRows.violationNotNull wrote.checked hf (by rw [kind]; decide) required notKey
  rw [name] at stored present
  unfold Field.prep at stored
  split at stored
  · exact absurd (Except.ok.inj stored).symm present
  · rw [kind] at stored
    exact (Except.ok.inj stored).symm

theorem writtenSlugApart {o : Obj} {n : String} {w w' : World} {row : Row} (source : slugSource o.entity = some n)
    (wrote : WrittenRows.Wrote w w' o none row) :
    ∀ x ∈ w.db.rows o.entity, x.pk ≠ row.pk → x.get "slug" ≠ row.get "slug" := by
  obtain ⟨f, hf, name, unique, -, -, -, -⟩ := slugColumn source
  have slug := writtenSlug source wrote
  intro x mem other same
  have clash := violationUnique wrote.checked hf unique (by rw [name]; decide)
    (by rw [name]; exact slug ▸ Value.noConfusion) x mem other
  rw [name, same, slug, (WrittenRows.textBeq _ _).mpr rfl] at clash
  cases clash

def SlugsApart (db : Db) (e : Entity) : Prop :=
  ∀ x ∈ db.rows e, ∀ y ∈ db.rows e, x.get "slug" = y.get "slug" → x.pk = y.pk

theorem saveKeepsApart {o o' : Obj} {w w' : World} (ne : o.entity ≠ .systemLog)
    (saved : App.save o none w = .ok o' w') {e : Entity} {n : String} (source : slugSource e = some n)
    (apart : SlugsApart w.db e) : SlugsApart w'.db e := by
  obtain ⟨row, -, wrote⟩ := WrittenRows.saveWrites ne saved
  by_cases same : o.entity = e
  · subst same
    have fresh := writtenSlugApart source wrote
    intro x xm y ym slugs
    rcases wrote.rows.within x xm with rfl | ⟨xOld, xKey⟩ <;> rcases wrote.rows.within y ym with rfl | ⟨yOld, yKey⟩
    · rfl
    · exact absurd slugs.symm (fresh y yOld yKey)
    · exact absurd slugs (fresh x xOld xKey)
    · exact apart x xOld y yOld slugs
  · have table := wrote.others e (Ne.symm same) (slugKindNotLog source)
    unfold SlugsApart Db.rows
    rw [table]
    exact apart

/-- The worlds a run of whole-record saves reaches from `w`; a save that fails leaves the world as it
was, so only the ones that succeed are steps. -/
inductive SavedFrom (w : World) : World → Prop
  | start : SavedFrom w w
  | save {w₁ w₂ : World} {o o' : Obj} : SavedFrom w w₁ → o.entity ≠ .systemLog →
      App.save o none w₁ = .ok o' w₂ → SavedFrom w w₂

theorem savesKeepApart {w w' : World} {e : Entity} {n : String} (source : slugSource e = some n)
    (apart : SlugsApart w.db e) (run : SavedFrom w w') : SlugsApart w'.db e := by
  induction run with
  | start => exact apart
  | save _ ne saved ih => exact saveKeepsApart ne saved source ih

section Creation
variable {o : Obj} {n : String} {w : World}

theorem createdSlug (source : slugSource o.entity = some n) (blank : (o.get "slug").truthy = false)
    {o' : Obj} {w' : World} (saved : App.save o none w = .ok o' w') :
    ∃ row, o'.pk = some row.pk ∧ row.get "slug" = .text (slugify (o.get n).toText) ∧
      ∀ x ∈ w'.db.rows o.entity, x.get "slug" = row.get "slug" → x = row := by
  obtain ⟨row, key, wrote⟩ := WrittenRows.saveWrites (slugKindNotLog source) saved
  refine ⟨row, key, by rw [writtenSlug source wrote, prepareSlug source blank]; rfl, fun x mem same => ?_⟩
  rcases wrote.rows.within x mem with rfl | ⟨old, other⟩
  · rfl
  · exact absurd same (writtenSlugApart source wrote x old other)

theorem takenSlugRefused (source : slugSource o.entity = some n) (blank : (o.get "slug").truthy = false)
    (fresh : AuditTrail.storedIn w.db o = false)
    (taken : ∃ x ∈ w.db.rows o.entity, x.get "slug" = .text (slugify (o.get n).toText)) :
    ∃ f, App.save o none w = .error f w := by
  rcases saved : App.save o none w with ⟨o', w'⟩ | ⟨f, w'⟩
  · -- a save that went through wrote the slug under a fresh key, apart from every stored slug
    exfalso
    obtain ⟨row, -, wrote⟩ := WrittenRows.saveWrites (slugKindNotLog source) saved
    obtain ⟨x, mem, same⟩ := taken
    apply writtenSlugApart source wrote x mem ((wrote.fresh fresh).2.1 x mem)
    rw [same, writtenSlug source wrote, prepareSlug source blank]
    rfl
  · have kept := Answers.runOfTriple (StoreUpdate.saveFailsSpec o none w)
    rw [saved] at kept
    exact ⟨f, by rw [kept]⟩

end Creation

/-- The new record `o`, of a kind that makes an empty slug from its field `n`, saved from `w`. -/
structure SlugCreation (o : Obj) (n : String) (w : World) : Prop where
  written : ∀ o' w', App.save o none w = .ok o' w' → ∃ row, o'.pk = some row.pk ∧
    row.get "slug" = .text (slugify (o.get n).toText) ∧
    ∀ x ∈ w'.db.rows o.entity, x.get "slug" = row.get "slug" → x = row
  taken : (∃ x ∈ w.db.rows o.entity, x.get "slug" = .text (slugify (o.get n).toText)) →
    ∃ f, App.save o none w = .error f w
  chars : ∀ c ∈ (slugify (o.get n).toText).toList, c.isAlphanum ∨ c = '-' ∨ c = '_'
  empty : slugify (o.get n).toText = "" ↔ ∀ c ∈ (asciiFold (o.get n).toText).toList, c.isAlphanum = false
  address : ∀ row : Row, row.get "slug" = .text (slugify (o.get n).toText) →
    ∃ m, Console.absoluteName? .article (Obj.ofRow .article row) = some m ∧
      ((∃ p, Web.reverse m = .ok p ∧ Web.resolve p = some (.blog (.article (slugify (o.get n).toText)))) ↔
        ∃ c ∈ (asciiFold (o.get n).toText).toList, c.isAlphanum = true)
  runs : ∀ w', SlugsApart w.db o.entity → SavedFrom w w' → SlugsApart w'.db o.entity

theorem storedAddress {row : Row} {title : String} (slug : row.get "slug" = .text (slugify title)) :
    ∃ m, Console.absoluteName? .article (Obj.ofRow .article row) = some m ∧
      ((∃ p, Web.reverse m = .ok p ∧ Web.resolve p = some (.blog (.article (slugify title)))) ↔
        ∃ c ∈ (asciiFold title).toList, c.isAlphanum = true) := by
  obtain ⟨m, named, reverses⟩ := Addresses.articleAddress (Obj.ofRow .article row)
  have text : (Obj.ofRow .article row).getText "slug" = slugify title := by
    rw [Listing.ofRowGetText, Row.getText, slug]
    rfl
  rw [text, slugifyIsSlug] at reverses
  exact ⟨m, named, reverses⟩

theorem slugCreations {o : Obj} {n : String} {w : World} (source : slugSource o.entity = some n)
    (blank : (o.get "slug").truthy = false) (fresh : AuditTrail.storedIn w.db o = false) :
    SlugCreation o n w where
  written _ _ saved := createdSlug source blank saved
  taken := takenSlugRefused source blank fresh
  chars := slugifyChars _
  empty := slugifyEmpty _
  address _ slug := storedAddress slug
  runs _ apart run := savesKeepApart source apart run

def helloArticle : Obj := ((Obj.fresh .article Instant.start).set "title" (.text "Hello")).set "author" (.int 1)

def authorWorld : World :=
  { db := Db.empty.setTable .user { rows := [⟨1, [("username", .text "alice")]⟩], seq := 1 } }

theorem slugCreationsAtStart : slugSource helloArticle.entity = some "title" ∧
    (helloArticle.get "slug").truthy = false ∧ AuditTrail.storedIn authorWorld.db helloArticle = false ∧
    SlugCreation helloArticle "title" authorWorld :=
  ⟨rfl, rfl, rfl, slugCreations rfl rfl rfl⟩

theorem repeatedTitleRefused : ∃ o' w', App.save helloArticle none authorWorld = .ok o' w' ∧
    ∃ f, App.save helloArticle none w' = .error f w' := by
  have twice : ((App.save helloArticle none).run' authorWorld).isSome &&
      ((App.save helloArticle none).run' (RequestLog.after (App.save helloArticle none authorWorld))).isNone := by
    decide +kernel
  rcases first : App.save helloArticle none authorWorld with ⟨o', w'⟩ | ⟨f, w'⟩ <;>
    simp only [EStateM.run', EStateM.run, first, RequestLog.after] at twice
  · refine ⟨o', w', rfl, ?_⟩
    rcases second : App.save helloArticle none w' with ⟨o'', w''⟩ | ⟨f, w''⟩ <;> simp only [second] at twice
    · cases twice
    · have kept := Answers.runOfTriple (StoreUpdate.saveFailsSpec helloArticle none w')
      rw [second] at kept
      exact ⟨f, by rw [kept]⟩
  · cases twice

end Portal.Slugs
