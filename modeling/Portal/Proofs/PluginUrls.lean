import Mathlib
import Portal.Command.Plugins
import Portal.Proofs.Listing
/-! Where plugin URL patterns come from. The URL loader takes the last component of a
plugin's module path and mounts `<last>/` when `<last>.urls` declares URL patterns; the URL
check of the plugin validation command imports `<module>.urls`, the whole path. The two read
the same module only for a plugin of a top-level package. For the task plugin of
`plugins.todo` the check finds the patterns of `plugins.todo.urls` while the loader looks for
a `todo.urls` that does not exist, so nothing is mounted under `todo/`.

Main statement: `pluginUrlsByLastPart`; the task plugin: `todoUrlsUnmounted`. -/
namespace Portal.PluginUrls
open Plugins

def hasUrls (path : String) : Bool := ((moduleNamed? path).map (·.patterns)).getD false

def lastPart (path : String) : String := ((dotParts path).getLast?).getD ""

def moduleText? (p : Plugin) : Option String :=
  match p.attr? "name" with
  | some (.str m) => some m
  | _ => none

def mountOf (m : String) : Option String :=
  if hasUrls (lastPart m ++ ".urls") then some (lastPart m ++ "/") else none

def patternsLine : String := "  ✅ URLs module with patterns found"

theorem urlsImportable : ∀ m ∈ knownModules, m.patterns = true → importFailure m.path = none := by
  decide +kernel

theorem hasUrlsImportable {path : String} (h : hasUrls path = true) :
    importFailure path = none ∧ ¬ path.startsWith "." := by
  unfold hasUrls moduleNamed? at h
  cases found : knownModules.find? (·.path == path) with
  | none => simp [found] at h
  | some m =>
    have same : m.path = path := by simpa using List.find?_some found
    have patterns : m.patterns = true := by simpa [found] using h
    have known := List.mem_of_find?_eq_some found
    subst same
    refine ⟨urlsImportable m known patterns, ?_⟩
    have dotless : ∀ m ∈ knownModules, ¬ m.path.startsWith "." := by decide +kernel
    exact dotless m known

theorem lastPartDotless {m : String} (h : '.' ∉ m.toList) : lastPart m = m := by
  simp [lastPart, dotParts, List.splitOn_eq_singleton h]

theorem moduleOfText {p : Plugin} {m : String} (h : moduleText? p = some m) (w : World) :
    moduleOf p w = .ok (.str m) w := by
  unfold moduleText? at h
  unfold moduleOf
  split at h
  · rename_i named
    cases h
    simp only [named]
    rfl
  · cases h

theorem urlPrefixText {p : Plugin} {m : String} (h : moduleText? p = some m) (last : lastPart m ≠ "")
    (w : World) : urlPrefix p w = .ok (mountOf m) w := by
  have nonempty : (lastPart m).isEmpty = false := by simpa using last
  unfold urlPrefix
  rw [Listing.bindRun (moduleOfText h w)]
  simp only [show ((dotParts m).getLast?).getD "" = lastPart m from rfl, nonempty, Bool.false_eq_true,
    if_false, mountOf, hasUrls]
  obtain missing | ⟨mi, found⟩ : moduleNamed? (lastPart m ++ ".urls") = none ∨
      ∃ mi, moduleNamed? (lastPart m ++ ".urls") = some mi := Option.eq_none_or_eq_some _
  · simp only [missing]
    rfl
  · simp only [found]
    rfl

theorem filterMapRun {α β : Type} (g : α → Option β) (f : α → App (Option β)) (xs : List α)
    (reads : ∀ x ∈ xs, ∀ w, f x w = .ok (g x) w) (acc : List β) (w : World) :
    List.filterMapM.loop f xs acc w = .ok (acc.reverse ++ xs.filterMap g) w := by
  induction xs generalizing acc with
  | nil => simp only [List.filterMap_nil, List.append_nil]; rfl
  | cons x xs ih =>
    show EStateM.bind (f x) _ w = _
    simp only [EStateM.bind, reads x List.mem_cons_self]
    have rest := ih fun y mem => reads y (List.mem_cons_of_mem x mem)
    cases gx : g x with
    | none => simp [rest, gx]
    | some b => simp [rest, gx]

theorem urlPrefixesRun (w : World)
    (named : ∀ e ∈ w.plugins, ∃ m, moduleText? e.2 = some m ∧ lastPart m ≠ "") :
    urlPrefixes w = .ok (w.plugins.filterMap fun e => (moduleText? e.2).bind mountOf) w := by
  unfold urlPrefixes
  rw [Listing.bindRun (rfl : registry w = .ok w.plugins w)]
  refine filterMapRun _ _ w.plugins (fun ⟨k, p⟩ mem w' => ?_) [] w
  obtain ⟨m, text, last⟩ := named (k, p) mem
  simp only [text, Option.bind_some]
  exact urlPrefixText text last w'

/-! ### The URL check -/

theorem okLine {a b : String} {w : World} (differ : a ≠ b) :
    (EStateM.Result.ok a w : EStateM.Result Fault World String) ≠ .ok b w :=
  fun same => differ (EStateM.Result.ok.inj same).1

theorem urlsReportFound (m : String) (w : World) :
    Command.urlsReport (.str m) w = .ok patternsLine w ↔ hasUrls (m ++ ".urls") = true := by
  have filled : (m ++ ".urls").isEmpty = false := by simp
  unfold Command.urlsReport Command.importModule
  dsimp only [Json.toText]
  simp only [filled, Bool.false_eq_true, if_false]
  by_cases dot : (m ++ ".urls").startsWith "." = true
  · -- a relative path is refused before any import
    have none : hasUrls (m ++ ".urls") = false := by
      by_contra found
      exact (hasUrlsImportable (by simpa using found)).2 dot
    simp only [dot, if_true, none, Bool.false_eq_true, iff_false]
    intro h
    cases h
  · simp only [dot, Bool.false_eq_true, if_false]
    rw [Listing.bindRun (rfl : (pure (importFailure (m ++ ".urls")) : App (Option String)) w = .ok _ w)]
    obtain missing | ⟨e, failed⟩ := Option.eq_none_or_eq_some (importFailure (m ++ ".urls"))
    · simp only [missing]
      show (if hasUrls (m ++ ".urls") = true then (pure patternsLine : App String)
        else pure "  ⚠️  URLs module exists but no patterns found") w = _ ↔ _
      by_cases found : hasUrls (m ++ ".urls") = true
      · rw [if_pos found]
        exact iff_of_true rfl found
      · rw [if_neg found]
        exact iff_of_false (okLine (by decide)) found
    · -- a module with patterns would have been imported
      have none : hasUrls (m ++ ".urls") = false := by
        by_contra found
        simp [(hasUrlsImportable (by simpa using found)).1] at failed
      simp only [failed, none, Bool.false_eq_true, iff_false]
      exact okLine (by decide)

/-! ### Loader and check together -/

theorem pluginUrlsByLastPart (w : World)
    (named : ∀ e ∈ w.plugins, ∃ m, moduleText? e.2 = some m ∧ lastPart m ≠ "") :
    urlPrefixes w = .ok (w.plugins.filterMap fun e => (moduleText? e.2).bind mountOf) w ∧
    (∀ m, Command.urlsReport (.str m) w = .ok patternsLine w ↔ hasUrls (m ++ ".urls") = true) ∧
    ∀ m, '.' ∉ m.toList → ((mountOf m).isSome ↔ Command.urlsReport (.str m) w = .ok patternsLine w) := by
  refine ⟨urlPrefixesRun w named, fun m => urlsReportFound m w, fun m dotless => ?_⟩
  rw [urlsReportFound, mountOf, lastPartDotless dotless]
  cases hasUrls (m ++ ".urls") <;> simp

theorem startupNamed : ∀ e ∈ ({} : World).plugins, ∃ m, moduleText? e.2 = some m ∧ lastPart m ≠ "" := by
  intro e mem
  obtain rfl : e = (.str "todo", Plugin.tasks) := List.mem_singleton.mp mem
  exact ⟨"plugins.todo", rfl, by decide⟩

theorem startupUrlsByLastPart :
    (∀ e ∈ ({} : World).plugins, ∃ m, moduleText? e.2 = some m ∧ lastPart m ≠ "") ∧
    urlPrefixes {} = .ok ((({} : World).plugins.filterMap fun e => (moduleText? e.2).bind mountOf)) {} ∧
    (∀ m, Command.urlsReport (.str m) {} = .ok patternsLine {} ↔ hasUrls (m ++ ".urls") = true) ∧
    ∀ m, '.' ∉ m.toList → ((mountOf m).isSome ↔ Command.urlsReport (.str m) {} = .ok patternsLine {}) :=
  ⟨startupNamed, pluginUrlsByLastPart {} startupNamed⟩

theorem todoUrlsUnmounted :
    urlPrefixes {} = .ok [] {} ∧ Command.urlsReport (.str "plugins.todo") {} = .ok patternsLine {} := by
  refine ⟨?_, (urlsReportFound "plugins.todo" {}).mpr (by decide)⟩
  have nothing : (({} : World).plugins.filterMap fun e => (moduleText? e.2).bind mountOf) = [] := by decide
  rw [urlPrefixesRun {} startupNamed, nothing]

end Portal.PluginUrls
