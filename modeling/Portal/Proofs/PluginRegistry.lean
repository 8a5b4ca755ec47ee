import Mathlib
import Portal.Plugins.Registry
import Portal.Proofs.Listing
/-! The plugin registry over runs of registrations of plugins made from the base plugin class.
Such a plugin always carries a plugin name, the base class's empty one unless its own class
gives another, so it is registered under that name and never under its module's. After any run
the registry holds each name once, the names it held and those registered; under each name the
plugin registered last; the plugins providing a capability are those that list it; and the
missing dependencies are reported one message per listed dependency that is no registered name.

Main statement: `registeredPlugins`. Two plugins without names of their own, from different
modules, end up as one entry under the empty name (`unnamedPluginsCollide`). -/
namespace Portal.PluginRegistry
open Plugins

def entry (c : PluginConfig) : Json × Plugin := (.str c.pluginName, c.toPlugin)

def put (cs : List PluginConfig) (c : PluginConfig) : List PluginConfig :=
  if cs.any (·.pluginName == c.pluginName) then cs.map fun d => if d.pluginName = c.pluginName then c else d
  else cs ++ [c]

def names (cs : List PluginConfig) : List String := cs.map (·.pluginName)

@[simp] theorem attrName (c : PluginConfig) : c.toPlugin.attr? "name" = some (.str c.name) := rfl

@[simp] theorem attrPluginName (c : PluginConfig) :
    c.toPlugin.attr? "plugin_name" = some (.str c.pluginName) := rfl

@[simp] theorem attrProvides (c : PluginConfig) : c.toPlugin.attr? "provides" = some (Json.strs c.provides) := rfl

@[simp] theorem attrDependencies (c : PluginConfig) :
    c.toPlugin.attr? "plugin_dependencies" = some (Json.strs c.dependencies) := rfl

@[simp] theorem strBeq (a b : String) : (Json.str a == Json.str b) = (a == b) := by
  simp [BEq.beq, Json.beq]

theorem registryRun (w : World) : registry w = .ok w.plugins w := rfl


/-! ### Registering -/

theorem registerPlain (p : Plugin) {m key : Json} (module : p.attr? "name" = some m)
    (named : (p.attr? "plugin_name").getD m = key) (plain : hashable key = true) (w : World) :
    register p w = .ok () { w with plugins :=
      (if w.plugins.any (·.1 == key) then w.plugins.map (fun e => if e.1 == key then (e.1, p) else e)
      else w.plugins ++ [(key, p)]) } := by
  subst named
  simp only [register, moduleOf, module, checkKey, registry, setRegistry]
  simp only [bind, pure, EStateM.bind, EStateM.pure, get, getThe, MonadStateOf.get, EStateM.get, modify, modifyGet,
    MonadStateOf.modifyGet, plain, if_true]
  split <;> rfl

theorem anyKey (cs : List PluginConfig) (k : String) :
    ((cs.map entry).any fun x => x.1 == Json.str k) = cs.any (·.pluginName == k) := by
  simp [List.any_map, Function.comp_def, entry]

theorem replaceKey (cs : List PluginConfig) (c : PluginConfig) :
    (cs.map entry).map (fun x => if (x.1 == Json.str c.pluginName) = true then (x.1, c.toPlugin) else x) =
      (cs.map fun d => if d.pluginName = c.pluginName then c else d).map entry := by
  simp only [List.map_map]
  apply List.map_congr_left
  intro d _
  by_cases same : d.pluginName = c.pluginName <;> simp [entry, same]

theorem registerRun (c : PluginConfig) (cs : List PluginConfig) (w : World) (h : w.plugins = cs.map entry) :
    register c.toPlugin w = .ok () { w with plugins := (put cs c).map entry } := by
  rw [@registerPlain c.toPlugin (.str c.name) (.str c.pluginName) (attrName c) (by simp) rfl, h, anyKey, put]
  by_cases taken : cs.any (·.pluginName == c.pluginName) = true
  · simp only [taken, if_true, replaceKey]
  · simp only [taken, Bool.false_eq_true, if_false, List.map_append, List.map_cons, List.map_nil]
    rfl

theorem registerAllRun (cs start : List PluginConfig) (w : World) (h : w.plugins = start.map entry) :
    (cs.forM fun c => register c.toPlugin) w = .ok () { w with plugins := (cs.foldl put start).map entry } := by
  induction cs generalizing start w with
  | nil =>
    show EStateM.pure () w = _
    rw [List.foldl_nil, ← h]
    rfl
  | cons c cs ih =>
    show EStateM.bind (register c.toPlugin) _ w = _
    simp only [EStateM.bind, registerRun c start w h, List.foldl_cons]
    exact ih (put start c) _ rfl

theorem putNames (cs : List PluginConfig) (c : PluginConfig) :
    names (put cs c) = if c.pluginName ∈ names cs then names cs else names cs ++ [c.pluginName] := by
  unfold put names
  by_cases taken : c.pluginName ∈ cs.map (·.pluginName)
  · have any : cs.any (·.pluginName == c.pluginName) = true := by simpa using taken
    simp only [any, if_true, taken, List.map_map]
    apply List.map_congr_left
    intro d _
    by_cases same : d.pluginName = c.pluginName <;> simp [same]
  · have any : cs.any (·.pluginName == c.pluginName) = false := by simpa using taken
    simp [any, taken]

theorem putFind (cs : List PluginConfig) (c : PluginConfig) (k : String) :
    (put cs c).find? (·.pluginName == k) = if c.pluginName = k then some c else cs.find? (·.pluginName == k) := by
  unfold put
  by_cases taken : cs.any (·.pluginName == c.pluginName) = true
  · simp only [taken, if_true, List.find?_map]
    -- replacing the entries under the new name changes no entry's name
    have same : ((·.pluginName == k) ∘ fun d : PluginConfig => if d.pluginName = c.pluginName then c else d) =
        (·.pluginName == k) := by
      funext d
      by_cases named : d.pluginName = c.pluginName <;> simp [named]
    rw [same]
    by_cases new : c.pluginName = k
    · subst new
      obtain ⟨d, mem, named⟩ := List.any_eq_true.mp taken
      have some : (cs.find? (·.pluginName == c.pluginName)).isSome := List.find?_isSome.mpr ⟨d, mem, named⟩
      obtain ⟨e, found⟩ := Option.isSome_iff_exists.mp some
      have key : e.pluginName = c.pluginName := by simpa using List.find?_some found
      simp [found, key]
    · cases found : cs.find? (·.pluginName == k) with
      | none => simp [new]
      | some e =>
        have key : e.pluginName = k := by simpa using List.find?_some found
        simp [new, key, Ne.symm new]
  · simp only [taken, Bool.false_eq_true, if_false, List.find?_append, List.find?_singleton]
    by_cases new : c.pluginName = k
    · subst new
      have none : cs.find? (·.pluginName == c.pluginName) = none := by
        simpa [List.find?_eq_none] using taken
      simp [none]
    · simp [new]

theorem namesRegistered (cs start : List PluginConfig) (distinct : (names start).Nodup) :
    (names (cs.foldl put start)).Nodup ∧
      ∀ k, k ∈ names (cs.foldl put start) ↔ k ∈ names start ∨ ∃ c ∈ cs, c.pluginName = k := by
  induction cs generalizing start with
  | nil => simp [distinct]
  | cons c cs ih =>
    have step : (names (put start c)).Nodup ∧ ∀ k, k ∈ names (put start c) ↔ k ∈ names start ∨ c.pluginName = k := by
      rw [putNames]
      by_cases taken : c.pluginName ∈ names start
      · simp only [taken, if_true]
        exact ⟨distinct, fun k => ⟨.inl, fun h => h.elim id fun same => same ▸ taken⟩⟩
      · simp only [taken, if_false]
        refine ⟨List.nodup_append.mpr ⟨distinct, List.nodup_singleton _, ?_⟩, fun k => ?_⟩
        · simp only [List.mem_singleton]
          rintro a mem b rfl rfl
          exact taken mem
        · simp [eq_comm]
    obtain ⟨nodup, mem⟩ := ih (put start c) step.1
    refine ⟨nodup, fun k => ?_⟩
    rw [List.foldl_cons, mem, step.2]
    simp only [List.mem_cons]
    constructor
    · rintro ((h | h) | ⟨d, hd, named⟩)
      · exact .inl h
      · exact .inr ⟨c, .inl rfl, h⟩
      · exact .inr ⟨d, .inr hd, named⟩
    · rintro (h | ⟨d, rfl | hd, named⟩)
      · exact .inl (.inl h)
      · exact .inl (.inr named)
      · exact .inr ⟨d, hd, named⟩

theorem findRegistered (cs start : List PluginConfig) (k : String) :
    (cs.foldl put start).find? (·.pluginName == k) =
      ((cs.filter (·.pluginName == k)).getLast?).or (start.find? (·.pluginName == k)) := by
  rw [List.getLast?_filter]
  induction cs generalizing start with
  | nil => simp
  | cons c cs ih =>
    rw [List.foldl_cons, ih, putFind, List.reverse_cons, List.find?_append, Option.or_assoc, List.find?_singleton]
    by_cases new : c.pluginName = k <;> simp [new]


/-! ### Reading the registry -/

theorem filterAuxRun {α β : Type} (f : α → β) (q : α → Bool) (test : β → App Bool)
    (reads : ∀ x w, test (f x) w = .ok (q x) w) (xs : List α) (acc : List β) (w : World) :
    List.filterAuxM test (xs.map f) acc w = .ok (((xs.filter q).map f).reverse ++ acc) w := by
  induction xs generalizing acc with
  | nil => rfl
  | cons x xs ih =>
    show EStateM.bind (test (f x)) _ w = _
    simp only [EStateM.bind, reads, ih]
    cases hq : q x <;> simp [hq]

theorem filterRun {α β : Type} (f : α → β) (q : α → Bool) (test : β → App Bool)
    (reads : ∀ x w, test (f x) w = .ok (q x) w) (xs : List α) (w : World) :
    (xs.map f).filterM test w = .ok ((xs.filter q).map f) w := by
  show EStateM.bind (List.filterAuxM test (xs.map f) []) _ w = _
  simp only [EStateM.bind, filterAuxRun f q test reads, List.append_nil, List.reverse_reverse]
  rfl

theorem forInRun {α β γ : Type} (g : α → γ) (f : α → β → β) (xs : List α) (init : β)
    (body : γ → β → App (ForInStep β)) (steps : ∀ x b w, body (g x) b w = .ok (.yield (f x b)) w) (w : World) :
    forIn (xs.map g) init body w = .ok (xs.foldl (fun b x => f x b) init) w := by
  induction xs generalizing init with
  | nil => rfl
  | cons x xs ih =>
    rw [List.map_cons, List.forIn_cons, Listing.bindRun (steps x init w)]
    exact ih (f x init)

theorem findRun (final : List PluginConfig) (k : String) (w : World) (h : w.plugins = final.map entry) :
    find? (.str k) w = .ok ((final.find? (·.pluginName == k)).map PluginConfig.toPlugin) w := by
  unfold find?
  simp only [checkKey, hashable, if_true]
  rw [Listing.bindRun (rfl : (pure () : App Unit) w = .ok () w), Listing.bindRun (registryRun w), h]
  simp [List.find?_map, Function.comp_def, entry]
  rfl

theorem providesCapability (c : PluginConfig) (cap : String) :
    provides (.str cap) c.toPlugin = .ok (decide (cap ∈ c.provides)) := by
  simp [provides, memberOf, Json.strs, List.any_map, Function.comp_def, List.any_beq']

theorem capableRun (final : List PluginConfig) (cap : String) (w : World) (h : w.plugins = final.map entry) :
    withCapability (.str cap) w = .ok ((final.filter fun c => cap ∈ c.provides).map entry) w := by
  unfold withCapability
  rw [Listing.bindRun (registryRun w), h]
  exact filterRun entry _ _ (fun c w => by simp only [entry, providesCapability]; rfl) final w

def missingText (name dep : String) : String :=
  "Plugin '" ++ name ++ "' requires '" ++ dep ++ "' but it's not available"

theorem missingFold (known : List String) (name : String) (ds errs : List String) :
    ds.foldl (fun b d => if d ∈ known then b else b ++ [missingText name d]) errs =
      errs ++ (ds.filter fun d => d ∉ known).map (missingText name) := by
  induction ds generalizing errs with
  | nil => simp
  | cons d ds ih =>
    rw [List.foldl_cons, ih]
    by_cases named : d ∈ known <;> simp [named]

theorem appendFold {α : Type} (g : α → List String) (xs : List α) (init : List String) :
    xs.foldl (fun b x => b ++ g x) init = init ++ xs.flatMap g := by
  induction xs generalizing init with
  | nil => simp
  | cons x xs ih => simp [ih]

theorem dependencyRun (final : List PluginConfig) (w : World) (h : w.plugins = final.map entry) :
    dependencyErrors w = .ok (final.flatMap fun c =>
      (c.dependencies.filter fun d => d ∉ names final).map (missingText c.pluginName)) w := by
  have known : ∀ d : String,
      ((final.map entry).any fun x => x.1 == Json.str d) = decide (d ∈ names final) := by
    intro d
    rw [Bool.eq_iff_iff]
    simp [List.any_map, Function.comp_def, entry, names]
  unfold dependencyErrors
  rw [Listing.bindRun (registryRun w), h]
  -- the outer loop, plugin by plugin, then for each plugin the loop over its dependencies
  rw [Listing.bindRun (forInRun entry (fun c errs => errs ++
    (c.dependencies.filter fun d => d ∉ names final).map (missingText c.pluginName)) final [] _ ?outer w)]
  · rw [appendFold]
    rfl
  · intro c errs w
    simp only [entry, attrDependencies, Option.getD_some, itemsOf, Json.strs, App.ofExcept]
    rw [Listing.bindRun (rfl : (pure (c.dependencies.map Json.str) : App (List Json)) w = .ok _ w)]
    rw [Listing.bindRun (forInRun Json.str
      (fun d b => if d ∈ names final then b else b ++ [missingText c.pluginName d])
      c.dependencies errs _ ?inner w), missingFold]
    · rfl
    · intro d b w
      simp only [checkKey, hashable, if_true, known]
      by_cases named : d ∈ names final
      · simp only [named]
        rfl
      · simp only [named]
        rfl

/-- What the registry answers when it holds the configurations `final`: all of them, each under
its plugin name; the plugin under a name; those providing a capability; and one message per
listed dependency that is no registered name. -/
structure Answers (final : List PluginConfig) (w : World) : Prop where
  all : registry w = .ok (final.map entry) w
  named : ∀ k, find? (.str k) w = .ok ((final.find? (·.pluginName == k)).map PluginConfig.toPlugin) w
  capable : ∀ cap, withCapability (.str cap) w = .ok ((final.filter fun c => cap ∈ c.provides).map entry) w
  missing : dependencyErrors w = .ok (final.flatMap fun c =>
    (c.dependencies.filter fun d => d ∉ names final).map (missingText c.pluginName)) w

theorem answersOf (final : List PluginConfig) (w : World) (h : w.plugins = final.map entry) : Answers final w :=
  ⟨h ▸ registryRun w, fun k => findRun final k w h, fun cap => capableRun final cap w h, dependencyRun final w h⟩

/-- A run of registrations from a registry holding `start`, ending with the registry holding
`final`: each name once, the names held before and those registered, and under each name the
plugin registered last under it. -/
structure Registered (start cs : List PluginConfig) (w : World) (final : List PluginConfig) : Prop where
  run : (cs.forM fun c => register c.toPlugin) w = .ok () { w with plugins := final.map entry }
  distinct : (names final).Nodup
  held : ∀ k, k ∈ names final ↔ k ∈ names start ∨ ∃ c ∈ cs, c.pluginName = k
  last : ∀ k, final.find? (·.pluginName == k) =
    ((cs.filter (·.pluginName == k)).getLast?).or (start.find? (·.pluginName == k))
  answers : Answers final { w with plugins := final.map entry }

theorem registeredPlugins (start cs : List PluginConfig) (w : World) (holds : w.plugins = start.map entry)
    (distinct : (names start).Nodup) : ∃ final, Registered start cs w final := by
  obtain ⟨nodup, mem⟩ := namesRegistered cs start distinct
  exact ⟨cs.foldl put start, registerAllRun cs start w holds, nodup, mem, findRegistered cs start,
    answersOf _ _ rfl⟩

def unnamedAlpha : PluginConfig := { name := "plugins.alpha" }

def unnamedBeta : PluginConfig := { name := "plugins.beta" }

def clearedWorld : World := { ({} : World) with plugins := [] }

theorem clearedRegistryRegisters : clearedWorld.plugins = ([] : List PluginConfig).map entry ∧
    (names []).Nodup ∧ ∃ final, Registered [] [unnamedAlpha, unnamedBeta] clearedWorld final :=
  ⟨rfl, List.nodup_nil, registeredPlugins [] [unnamedAlpha, unnamedBeta] clearedWorld rfl List.nodup_nil⟩

theorem unnamedPluginsCollide :
    ([unnamedAlpha, unnamedBeta].forM fun c => register c.toPlugin) clearedWorld =
      .ok () { clearedWorld with plugins := [(.str "", unnamedBeta.toPlugin)] } := by
  rw [registerAllRun [unnamedAlpha, unnamedBeta] [] clearedWorld rfl]
  rfl

end Portal.PluginRegistry
