import Mathlib
import Portal.Scripts.Crawl
/-!
# Where the crawler writes

A page is saved at `outDir/host/path.md`, and the file system resolves the `.` and `..`
segments of that whole name. The file stays in the host's directory under the output
directory when the host is a plain name and the page's path has no `..` segment: the
segments before the host are the output directory's own, and every later one enters a
directory. An address whose path climbs, given as a starting address or as a link written
in full, leads out of the output directory.

Main statements: `savedWithin` for one address and `crawlWritesWithin` for a whole run.
-/
namespace Portal.CrawlPaths
open Scripts

/-! ### Segments -/

/-- A segment that names a directory or a file: not empty, not `.` or `..`, without a slash. -/
structure Plain (s : String) : Prop where
  nonempty : s ≠ ""
  notHere : s ≠ "."
  notUp : s ≠ ".."
  noSlash : '/' ∉ s.toList

def resolved (path : String) : List String := (pathSegments path).foldl enterSegment []

theorem normalizeResolved (path : String) : normalizePath path = "/".intercalate (resolved path) := rfl

theorem splitNoSep {xs : List Char} : ∀ l ∈ xs.splitOn '/', '/' ∉ l := by
  induction xs with
  | nil => simp
  | cons x xs ih =>
    rw [List.splitOn_cons_eq_if_modifyHead]
    obtain ⟨hd, tl, split⟩ := List.exists_cons_of_ne_nil (List.splitOn_ne_nil '/' xs)
    rw [split] at ih ⊢
    split
    · simpa using ih
    · rename_i notSep
      simp only [List.modifyHead_cons, List.mem_cons] at ih ⊢
      rintro l (rfl | mem)
      · simp only [List.mem_cons, not_or]
        exact ⟨fun same => notSep (by simp [← same]), ih hd (.inl rfl)⟩
      · exact ih l (.inr mem)

theorem segmentNoSlash {p s : String} (mem : s ∈ pathSegments p) : '/' ∉ s.toList := by
  obtain ⟨l, inSplit, rfl⟩ := List.mem_map.mp mem
  simpa using splitNoSep l inSplit

theorem segmentsAppend (a b : String) : pathSegments (a ++ "/" ++ b) = pathSegments a ++ pathSegments b := by
  simp [pathSegments, List.splitOn_append_cons_self]

theorem segmentsSingle {s : String} (h : '/' ∉ s.toList) : pathSegments s = [s] := by
  simp [pathSegments, List.splitOn_eq_singleton h]

theorem segmentsJoined {l : List String} (h : ∀ s ∈ l, '/' ∉ s.toList) (nonempty : l ≠ []) :
    pathSegments ("/".intercalate l) = l := by
  have split : (['/'].intercalate (l.map String.toList)).splitOn '/' = l.map String.toList :=
    List.splitOn_intercalate '/' (by simpa using h) (by simpa using nonempty)
  have slash : "/".toList = ['/'] := rfl
  rw [pathSegments, String.toList_intercalate, slash, split, List.map_map]
  simp

/-! ### Resolving a path -/

def skipped (s : String) : Bool := s.isEmpty || s == "."

theorem enterSkipped (dirs : List String) (s : String) :
    enterSegment dirs s = if skipped s then dirs else if s == ".." then dirs.dropLast else dirs ++ [s] := rfl

theorem plainKept {s : String} (plain : Plain s) : skipped s = false := by
  simp [skipped, plain.nonempty, plain.notHere]

theorem enterPlain {s : String} (plain : Plain s) (dirs : List String) : enterSegment dirs s = dirs ++ [s] := by
  simp [enterSkipped, plainKept plain, plain.notUp]

theorem enterNoUp (dirs : List String) {segs : List String} (noUp : ".." ∉ segs) :
    segs.foldl enterSegment dirs = dirs ++ segs.filter (fun s => !skipped s) := by
  induction segs generalizing dirs with
  | nil => simp
  | cons s segs ih =>
    simp only [List.mem_cons, not_or] at noUp
    rw [List.foldl_cons, ih _ noUp.2, List.filter_cons, enterSkipped]
    by_cases skip : skipped s = true
    · simp [skip]
    · simp [skip, Ne.symm noUp.1]

/-! ### The page's segments -/

theorem splitSlashesBefore {t m : List Char} (slashes : ∀ c ∈ t, c = '/') :
    ∀ l ∈ m.splitOn '/', l ∈ (t ++ m).splitOn '/' := by
  induction t with
  | nil => simp
  | cons c t ih =>
    intro l mem
    rw [slashes c List.mem_cons_self, List.cons_append, List.splitOn_cons_eq_if_modifyHead, if_pos (by simp)]
    exact List.mem_cons_of_mem _ (ih (fun c inT => slashes c (.tail _ inT)) l mem)

theorem splitSlashesAfter {m t : List Char} (slashes : ∀ c ∈ t, c = '/') :
    ∀ l ∈ m.splitOn '/', l ∈ (m ++ t).splitOn '/' := by
  cases t with
  | nil => simp
  | cons c t =>
    rw [slashes c List.mem_cons_self, List.splitOn_append_cons_self]
    exact fun l mem => List.mem_append_left _ mem

theorem slashesTaken {l : List Char} : ∀ c ∈ l.takeWhile (· == '/'), c = '/' :=
  fun _ mem => beq_iff_eq.mp (List.mem_takeWhile_imp (p := (· == '/')) mem)

theorem trimmedSegments (l : List Char) :
    ∀ s ∈ pathSegments (String.ofList (((l.dropWhile (· == '/')).reverse.dropWhile (· == '/')).reverse)),
      s ∈ pathSegments (String.ofList l) := by
  have front := List.takeWhile_append_dropWhile (p := (· == '/')) (l := l)
  have back := List.takeWhile_append_dropWhile (p := (· == '/')) (l := (l.dropWhile (· == '/')).reverse)
  rw [← List.reverse_inj, List.reverse_append, List.reverse_reverse] at back
  intro s mem
  simp only [pathSegments, String.toList_ofList, List.mem_map] at mem ⊢
  obtain ⟨seg, inSplit, rfl⟩ := mem
  refine ⟨seg, ?_, rfl⟩
  rw [← front, ← back]
  apply splitSlashesBefore slashesTaken
  exact splitSlashesAfter (by simpa using slashesTaken) seg inSplit

theorem dropExtensionNoSlash {x : String} (noSlash : '/' ∉ x.toList) : '/' ∉ (dropExtension x).toList := by
  dsimp only [dropExtension]
  split
  · exact noSlash
  · split
    · exact noSlash
    · simpa using fun mem => noSlash (List.mem_of_mem_take mem)

theorem markdownPlain {name : String} (noSlash : '/' ∉ name.toList) : Plain (name ++ ".md") := by
  have long : 3 ≤ (name ++ ".md").length := by
    rw [String.length_append]
    exact Nat.le_add_left 3 _
  refine ⟨?_, ?_, ?_, by simpa using noSlash⟩ <;> intro same <;> rw [same] at long <;> exact absurd long (by decide)

theorem keptPlain {segs : List String} {s : String} (kept : s ∈ segs.filter (fun s => !skipped s))
    (noUp : ".." ∉ segs) (noSlash : ∀ s ∈ segs, '/' ∉ s.toList) : Plain s := by
  obtain ⟨mem, notSkipped⟩ := List.mem_filter.mp kept
  simp only [skipped, Bool.not_or, Bool.and_eq_true, Bool.not_eq_true', String.isEmpty_eq_false_iff,
    beq_eq_false_iff_ne] at notSkipped
  exact ⟨notSkipped.1, notSkipped.2, fun same => noUp (same ▸ mem), noSlash s mem⟩

theorem savedResolved (outDir host dir name : String) (plainHost : Plain host)
    (noUp : ".." ∉ pathSegments dir) (noSlash : '/' ∉ name.toList) :
    resolved (outDir ++ "/" ++ host ++ "/" ++ dir ++ "/" ++ name ++ ".md") =
      resolved outDir ++ host :: ((pathSegments dir).filter (fun s => !skipped s) ++ [name ++ ".md"]) := by
  have md := markdownPlain noSlash
  have last : outDir ++ "/" ++ host ++ "/" ++ dir ++ "/" ++ name ++ ".md" =
      outDir ++ "/" ++ host ++ "/" ++ dir ++ "/" ++ (name ++ ".md") := String.append_assoc ..
  rw [resolved, last, segmentsAppend, segmentsAppend, segmentsAppend, segmentsSingle plainHost.noSlash,
    segmentsSingle md.noSlash]
  simp only [List.foldl_append, List.foldl_cons, List.foldl_nil]
  rw [enterPlain md, enterNoUp _ noUp, enterPlain plainHost, ← resolved]
  simp

def Within (base : List String) (path : String) : Prop :=
  ∃ rest, rest ≠ [] ∧ (∀ s ∈ rest, Plain s) ∧ path = "/".intercalate (base ++ rest)

theorem pageSegmentsOf (url : String) :
    ∀ s ∈ pageSegments url, s = "index.html" ∨ s ∈ pathSegments (Web.Address.parse url).path := by
  dsimp only [pageSegments]
  split
  · rw [segmentsSingle (by decide)]
    simp
  · intro s mem
    right
    simpa using trimmedSegments (Web.Address.parse url).path.toList s mem

theorem pageSegmentsNoSlash {url s : String} (mem : s ∈ pageSegments url) : '/' ∉ s.toList := by
  unfold pageSegments at mem
  exact segmentNoSlash mem

theorem savedWithin (outDir url : String) (plainHost : Plain (hostOf url))
    (noUp : ".." ∉ pathSegments (Web.Address.parse url).path) :
    Within (resolved outDir ++ [hostOf url]) (savedPath outDir url) := by
  have page : ".." ∉ pageSegments url := fun mem => by
    rcases pageSegmentsOf url _ mem with index | inPath
    · exact absurd index (by decide)
    · exact noUp inPath
  -- the directories of the path are page segments, or one empty segment at the root
  have dirs : ∀ s ∈ pathSegments ("/".intercalate (pageSegments url).dropLast), s ≠ ".." ∧ '/' ∉ s.toList := by
    by_cases root : (pageSegments url).dropLast = []
    · rw [root]
      simp [pathSegments]
    · rw [segmentsJoined (fun s mem => pageSegmentsNoSlash (List.mem_of_mem_dropLast mem)) root]
      intro s mem
      have inPage := List.mem_of_mem_dropLast mem
      exact ⟨fun same => page (same ▸ inPage), pageSegmentsNoSlash inPage⟩
  have name : '/' ∉ (dropExtension ((pageSegments url).getLastD "")).toList := by
    apply dropExtensionNoSlash
    rw [List.getLastD_eq_getLast?]
    cases last : (pageSegments url).getLast? with
    | none => simp
    | some s => exact pageSegmentsNoSlash (List.mem_of_getLast? last)
  refine ⟨(pathSegments ("/".intercalate (pageSegments url).dropLast)).filter (fun s => !skipped s) ++
    [dropExtension ((pageSegments url).getLastD "") ++ ".md"], by simp, ?_, ?_⟩
  · intro s mem
    rcases List.mem_append.mp mem with kept | md
    · exact keptPlain kept (fun m => (dirs _ m).1 rfl) (fun s m => (dirs s m).2)
    · rw [List.mem_singleton.mp md]
      exact markdownPlain name
  · dsimp only [savedPath]
    rw [normalizeResolved, savedResolved _ _ _ _ plainHost (fun m => (dirs _ m).1 rfl) name]
    simp

/-! ### Runs -/

section Runs
open Std.Do
set_option mvcgen.warning false

variable (net : Network) (reader : Reader) (outDir : String) (hosts : List String)

def SavedPage (p : String) : Prop :=
  ∃ url html, hostOf url ∈ hosts ∧ net.get url = .ok html ∧ p = savedPath outDir url

def SavedSince (d₀ d : Desk) : Prop :=
  ∀ p ∈ d.written.map Prod.fst, p ∈ d₀.written.map Prod.fst ∨ SavedPage net outDir hosts p

theorem writtenPaths (files : List (String × String)) (path text : String) {p : String}
    (mem : p ∈ (if files.any (·.1 == path) then files.map (fun q => if q.1 == path then (path, text) else q)
      else files ++ [(path, text)]).map Prod.fst) : p ∈ files.map Prod.fst ∨ p = path := by
  split at mem
  · -- the file was there: its text is replaced in place
    simp only [List.map_map, List.mem_map, Function.comp_apply] at mem
    obtain ⟨q, inFiles, rfl⟩ := mem
    split
    · exact .inr rfl
    · exact .inl (List.mem_map_of_mem inFiles)
  · -- a new file goes last
    simpa using mem

theorem joinLinkRun (base link : String) (d : Desk) :
    joinLink base link d = .ok (Web.resolveReference base link) d ∨
      joinLink base link d = .error (.raise ⟨"ValueError", "Invalid IPv6 URL"⟩) d := by
  unfold joinLink
  by_cases first : (!base.isEmpty && !link.isEmpty &&
      (Web.Address.unmatchedBracket base || Web.Address.unmatchedBracket link)) = true
  · exact .inr (by simp only [first, if_true]; rfl)
  · by_cases after : Web.Address.unmatchedBracket (Web.resolveReference base link) = true
    · exact .inr (by simp only [first, after, Bool.false_eq_true, if_false, if_true]; rfl)
    · exact .inl (by simp only [first, after, Bool.false_eq_true, if_false]; rfl)

@[spec] theorem joinLinkSpec (base link : String) (d₀ : Desk) :
    ⦃fun d => ⌜d = d₀⌝⦄ joinLink base link ⦃post⟨fun _ d => ⌜d = d₀⌝, fun _ d => ⌜d = d₀⌝⟩⦄ := by
  intro d same
  simp only [wp, PredTrans.apply, EStateM.run]
  rcases joinLinkRun base link d with ran | ran <;> simpa [ran] using same

attribute [local irreducible] hostOf Web.Address.unmatchedBracket

theorem crawlFromSaves {host : String} (hostIn : host ∈ hosts) (d₀ : Desk) (fuel : Nat) :
    ∀ seen url, hostOf url = host →
    ⦃fun d => ⌜SavedSince net outDir hosts d₀ d⌝⦄ crawlFrom net reader outDir host fuel seen url
    ⦃post⟨fun _ d => ⌜SavedSince net outDir hosts d₀ d⌝, fun _ d => ⌜SavedSince net outDir hosts d₀ d⌝⟩⦄ := by
  induction fuel with
  | zero =>
    intro seen url _
    mvcgen -trivial [crawlFrom]
    assumption
  | succ fuel ih =>
    intro seen url onHost
    simp only [crawlFrom]
    mvcgen -trivial [say, writeFile, joinLinkSpec] invariants
    · post⟨fun _ d => ⌜SavedSince net outDir hosts d₀ d⌝, fun _ d => ⌜SavedSince net outDir hosts d₀ d⌝⟩
    case vc2.succ.isFalse.h_1 => exact ‹SavedSince net outDir hosts d₀ _›
    case vc3.step.post.success.isTrue =>
      rename_i saved _ onHost'
      rintro _ rfl
      exact ih _ _ (beq_iff_eq.mp onHost') _ saved
    case vc4.step.post.success.isFalse =>
      rename_i saved _ _ _ same
      exact same ▸ saved
    case vc5.step.post.except.handle =>
      rintro _ rfl
      assumption
    case vc6.succ.isFalse.h_2.pre =>
      rename_i d saved _ html fetched _ _
      intro p mem
      dsimp +zetaDelta only at mem
      rcases writtenPaths _ _ _ mem with old | new
      · exact saved p old
      · exact .inr ⟨url, html, onHost ▸ hostIn, fetched, new⟩
    -- a seen address leaves the desk as it was
    all_goals first | assumption | exact id

theorem saveSitesSaves (urls : List String) (d₀ : Desk) :
    ⦃fun d => ⌜d = d₀⌝⦄ saveSites net reader urls outDir
    ⦃post⟨fun _ d => ⌜SavedSince net outDir (urls.map hostOf) d₀ d⌝,
      fun _ d => ⌜SavedSince net outDir (urls.map hostOf) d₀ d⌝⟩⦄ := by
  mvcgen [saveSites, crawlSeeds, invalidHost, raise] invariants
  · post⟨fun _ d => ⌜SavedSince net outDir (urls.map hostOf) d₀ d⌝,
      fun _ d => ⌜SavedSince net outDir (urls.map hostOf) d₀ d⌝⟩
  case vc2.step.isFalse =>
    rename_i split _ _ _
    have listed : hostOf _ ∈ urls.map hostOf := List.mem_map_of_mem (split ▸ List.mem_append_right _ List.mem_cons_self)
    exact crawlFromSaves net reader outDir (urls.map hostOf) listed d₀ _ _ _ rfl
  case vc3.pre =>
    rename_i start
    exact fun p mem => .inl (start ▸ mem)

theorem deskOfTriple {α : Type} {x : Script α} {d : Desk} {Q : Desk → Prop}
    (h : ⦃fun s => ⌜s = d⌝⦄ x ⦃post⟨fun _ s => ⌜Q s⌝, fun _ s => ⌜Q s⌝⟩⦄) : Q (finish (x d)).2 := by
  have := h d rfl
  simp only [wp, PredTrans.apply, EStateM.run] at this
  cases r : x d <;> simp_all [finish]

end Runs

theorem crawlWritesWithin (net : Network) (reader : Reader) (urls : List String) (outDir : String) (d : Desk) :
    ∀ p ∈ (finish (saveSites net reader urls outDir d)).2.written.map Prod.fst,
      p ∈ d.written.map Prod.fst ∨
      ∃ url html, hostOf url ∈ urls.map hostOf ∧ net.get url = .ok html ∧ p = savedPath outDir url ∧
        (Plain (hostOf url) → ".." ∉ pathSegments (Web.Address.parse url).path →
          Within (resolved outDir ++ [hostOf url]) p) := by
  intro p mem
  rcases deskOfTriple (saveSitesSaves net reader outDir urls d) p mem with old | ⟨url, html, listed, fetched, rfl⟩
  · exact .inl old
  · exact .inr ⟨url, html, listed, fetched, rfl, savedWithin outDir url⟩

def aboveRootSite : Network := Network.ofPages (fun url => "no route to " ++ url) [("http://e.test/../../x", { body := "hi" })]

theorem aboveRootPageServed :
    "x.md" ∈ (finish (saveSites aboveRootSite .markup ["http://e.test/../../x"] "out" {})).2.written.map Prod.fst ∧
      ("x.md" ∈ ({} : Desk).written.map Prod.fst ∨
        ∃ url html, hostOf url ∈ ["http://e.test/../../x"].map hostOf ∧ aboveRootSite.get url = .ok html ∧
          "x.md" = savedPath "out" url ∧
          (Plain (hostOf url) → ".." ∉ pathSegments (Web.Address.parse url).path →
            Within (resolved "out" ++ [hostOf url]) "x.md")) :=
  have saved : "x.md" ∈ (finish (saveSites aboveRootSite .markup ["http://e.test/../../x"] "out" {})).2.written.map
      Prod.fst := by decide +kernel
  ⟨saved, crawlWritesWithin aboveRootSite .markup ["http://e.test/../../x"] "out" {} "x.md" saved⟩

theorem aboveRootEscapes :
    (finish (saveSites aboveRootSite .markup ["http://e.test/../../x"] "out" {})).2.written.map Prod.fst = ["x.md"] ∧
      ¬ Within (resolved "out" ++ ["e.test"]) "x.md" := by
  refine ⟨by decide +kernel, ?_⟩
  rintro ⟨rest, nonempty, -, same⟩
  have outDir : resolved "out" = ["out"] := by decide +kernel
  simp only [outDir, List.cons_append, List.nil_append] at same
  rw [String.intercalate_cons_of_ne_nil (List.cons_ne_nil _ _), String.intercalate_cons_of_ne_nil nonempty] at same
  have long := congrArg String.length same
  have lengths : "x.md".length = 4 ∧ "out".length = 3 ∧ "/".length = 1 ∧ "e.test".length = 6 := by decide
  simp only [String.length_append] at long
  omega

end Portal.CrawlPaths
