import Mathlib
import Portal.Console.Methods
/-! Reversing a URL name and resolving the address it writes. For every name the site's code
reverses, the address is read back as the page registered under that name, with the same
arguments, with two exceptions. The article creation page's address is taken by the article
pattern listed before it, as the slug `create`. The bare subscription page name has no
pattern, so it does not reverse. A slug pattern reverses only slugs, and the address a task
gives for itself names the task page of the second board, whichever board holds the task. -/
namespace Portal.Addresses
open Web Console

def writable : PageName → Bool
  | .articleDetail s => isSlug s
  | .categoryDetail s => isSlug s
  | .subscriptionPage => false
  | _ => true

theorem reverseOk {n : PageName} {p : String} :
    reverse n = .ok p ↔ writable n = true ∧ n.path = p := by
  cases n
  case articleDetail s | categoryDetail s =>
    by_cases slug : isSlug s <;> simp [reverse, writable, slug]
  all_goals simp [reverse, writable]

theorem digitBounds {c : Char} (h : c.isDigit) : '0' ≤ c ∧ c ≤ '9' := by
  simp only [Char.isDigit, Bool.and_eq_true, decide_eq_true_eq] at h
  exact ⟨h.1, h.2⟩

theorem reprDigits (n : Nat) : ∀ c ∈ n.repr.toList, '0' ≤ c ∧ c ≤ '9' := by
  intro c mem
  rw [Nat.toList_repr] at mem
  exact digitBounds (Nat.isDigit_of_mem_toDigits (by decide) (by decide) mem)

theorem numberRepr (n : Nat) : number? n.repr = some n := by
  have digits := reprDigits n
  have ne : n.repr.toList ≠ [] := by
    rw [Nat.toList_repr]
    exact Nat.toDigits_ne_nil
  simp only [number?]
  rw [if_pos (by simp_all)]
  simp [Nat.toList_repr]

theorem reprNoSlash (n : Nat) : '/' ∉ Nat.toDigits 10 n := fun mem => by
  have := reprDigits n '/' (by rwa [Nat.toList_repr])
  simp [Char.le_def] at this

theorem reprNotCreate (n : Nat) : n.repr ≠ "create" := fun same => by
  have := reprDigits n 'c' (by simp [same])
  simp [Char.le_def] at this

theorem slugNoSlash {s : String} (h : isSlug s) : '/' ∉ s.toList := fun mem => by
  simp only [isSlug, Bool.and_eq_true, List.all_eq_true] at h
  simpa using h.2 '/' mem

theorem segmentsIntercalate {segs : List String} (ne : segs ≠ [])
    (noSlash : ∀ s ∈ segs, '/' ∉ s.toList) : segments ("/".intercalate segs).toList = segs := by
  have slash : "/".toList = ['/'] := rfl
  unfold segments
  rw [String.toList_intercalate, slash, List.splitOn_intercalate]
  · simp
  · simpa using noSlash
  · simpa using ne

theorem resolvePath {n : PageName} (noSlash : ∀ s ∈ n.segments, '/' ∉ s.toList) :
    resolve n.path = resolveSegments n.segments := by
  have ne : n.segments ≠ [] := by cases n <;> simp [PageName.segments]
  have written : n.path.toList = '/' :: ("/".intercalate n.segments).toList := by
    simp [PageName.path]
  simp only [resolve, written]
  rw [segmentsIntercalate ne noSlash]

theorem writableNoSlash {n : PageName} (h : writable n) : ∀ s ∈ n.segments, '/' ∉ s.toList := by
  cases n
  case taskList b | taskLists b | taskDetail b _ =>
    cases b <;> simp [PageName.segments, PageName.boardRoot, reprNoSlash]
  all_goals simp_all [PageName.segments, writable, slugNoSlash, reprNoSlash]

theorem taskPageDetail (pk : Nat) : taskPage ["task", pk.repr, ""] = some (.detail pk) := by
  have other := reprNotCreate pk
  unfold taskPage
  split
  case h_3 _ n _ same =>
    obtain rfl : pk.repr = n := by simpa using same
    simp [numberRepr]
  all_goals simp_all

theorem resolveNamed {n : PageName} (h : writable n) (ne : n ≠ .articleCreate) :
    resolveSegments n.segments = some n.page := by
  cases n
  case taskDetail b _ =>
    cases b <;> simp [resolveSegments, PageName.segments, PageName.boardRoot, PageName.page,
      landingPage, taskPageDetail]
  case taskList b | taskLists b =>
    cases b <;> simp [resolveSegments, PageName.segments, PageName.boardRoot, PageName.page,
      landingPage, taskPage]
  all_goals simp_all [resolveSegments, PageName.segments, PageName.page, writable, landingPage,
    blogPage, dashboardPage]

theorem articleCreateShadowed : resolve PageName.articleCreate.path = some (.blog (.article "create")) := by
  rw [resolvePath (writableNoSlash rfl)]
  simp [resolveSegments, PageName.segments, landingPage, blogPage, isSlug]

theorem reverseResolves (n : PageName) :
    (∃ p, reverse n = .ok p ∧ resolve p = some n.page) ↔ writable n = true ∧ n ≠ .articleCreate := by
  constructor
  · rintro ⟨p, rev, res⟩
    obtain ⟨w, rfl⟩ := reverseOk.mp rev
    refine ⟨w, ?_⟩
    rintro rfl
    simp [articleCreateShadowed, PageName.page] at res
  · rintro ⟨w, ne⟩
    exact ⟨n.path, reverseOk.mpr ⟨w, rfl⟩, (resolvePath (writableNoSlash w)).trans (resolveNamed w ne)⟩

theorem articleAddress (o : Obj) : ∃ n, absoluteName? .article o = some n ∧
    ((∃ p, reverse n = .ok p ∧ resolve p = some (.blog (.article (o.getText "slug")))) ↔
      isSlug (o.getText "slug") = true) :=
  ⟨_, rfl, by simpa [PageName.page, writable] using reverseResolves (.articleDetail (o.getText "slug"))⟩

theorem taskAddress (b : Board) (o : Obj) : ∃ n, absoluteName? (.task b) o = some n ∧
    ((∃ p, reverse n = .ok p ∧ resolve p = some (.tasks b (.detail (o.pk.getD 0)))) ↔ b = .todoTasks) := by
  refine ⟨_, rfl, ⟨?_, ?_⟩⟩
  · rintro ⟨p, rev, res⟩
    obtain ⟨w, rfl⟩ := reverseOk.mp rev
    rw [resolvePath (writableNoSlash w), resolveNamed w (by simp)] at res
    simp only [PageName.page, Option.some.injEq, Route.tasks.injEq] at res
    exact res.1.symm
  · rintro rfl
    exact (reverseResolves _).mpr ⟨rfl, by simp⟩

theorem reversedAddressesResolve (n : PageName) (article : Obj) (b : Board) (task : Obj) :
    ((∃ p, reverse n = .ok p ∧ resolve p = some n.page) ↔
      writable n = true ∧ n ≠ .articleCreate) ∧
    (∃ m, absoluteName? .article article = some m ∧
      ((∃ p, reverse m = .ok p ∧ resolve p = some (.blog (.article (article.getText "slug")))) ↔
        isSlug (article.getText "slug") = true)) ∧
    (∃ m, absoluteName? (.task b) task = some m ∧
      ((∃ p, reverse m = .ok p ∧ resolve p = some (.tasks b (.detail (task.pk.getD 0)))) ↔
        b = .todoTasks)) :=
  ⟨reverseResolves n, articleAddress article, taskAddress b task⟩

end Portal.Addresses
