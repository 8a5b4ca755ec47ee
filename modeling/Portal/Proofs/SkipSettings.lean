import Mathlib
import Portal.Proofs.ConfigLoad
/-! The request log's skip check, over every run of checks. Each check answers under the
settings of the moment and then extends a configured list of path prefixes, in place, by the
fixed prefixes, so the list grows by them on every check; a default list or a value of another
kind is left as it is. Prefixes scanned twice answer nothing new, so every check of a run
answers as the first would have: under settings whose three lists are unset or lists of texts,
a request is skipped exactly when its path starts with a configured or a fixed prefix, its
method is listed, or a listed marker is a part of its agent. A value of another kind is read
as it is (a text by its characters, an object by its keys) or makes the check raise: a number
of methods cannot be searched. -/
namespace Portal.SkipSettings
open Web Audit

def fixedItems : List Json := fixedSkipPaths.map Json.str

theorem scanTexts (path : String) (ps : List String) (rest : List Json) :
    pathSkipped.scan path (ps.map .str ++ rest) =
      if ps.any (path.startsWith ·) then .ok true else pathSkipped.scan path rest := by
  induction ps with
  | nil => simp
  | cons p ps ih => by_cases h : path.startsWith p <;> simp [pathSkipped.scan, h, ih]

theorem scanGrown (path : String) (xs : List Json) :
    pathSkipped.scan path (xs ++ fixedItems ++ fixedItems) = pathSkipped.scan path (xs ++ fixedItems) := by
  induction xs with
  | nil =>
    have once := scanTexts path fixedSkipPaths []
    rw [List.append_nil] at once
    rw [List.nil_append, fixedItems, scanTexts, once]
    split <;> rfl
  | cons x xs ih =>
    cases x with
    | str p => by_cases h : path.startsWith p <;> simp_all [pathSkipped.scan]
    | _ => rfl

@[simp] theorem afterSkipMethods (o : Overrides) : (afterSkip o).skipMethods = o.skipMethods := by
  unfold afterSkip; split <;> rfl

@[simp] theorem afterSkipAgents (o : Overrides) : (afterSkip o).skipUserAgents = o.skipUserAgents := by
  unfold afterSkip; split <;> rfl

theorem pathAfterSkip (o : Overrides) (path : String) : pathSkipped (afterSkip o) path = pathSkipped o path := by
  unfold afterSkip
  split
  next xs grown =>
    simp only [pathSkipped, grown]
    exact scanGrown path xs
  next => rfl

theorem shouldSkipAfter (o : Overrides) : shouldSkip (afterSkip o) = shouldSkip o := by
  funext r
  have methods : methodSkipped (afterSkip o) = methodSkipped o := by
    unfold methodSkipped; rw [afterSkipMethods]
  have agents : agentSkipped (afterSkip o) = agentSkipped o := by
    unfold agentSkipped; rw [afterSkipAgents]
  simp only [shouldSkip, pathAfterSkip, methods, agents]

theorem skipDecisionRun (r : Request) (w : World) :
    skipDecision r w = .ok (shouldSkip w.settings r) { w with settings := afterSkip w.settings } := rfl

theorem skipRun (rs : List Request) (w : World) :
    rs.mapM skipDecision w =
      .ok (rs.map (shouldSkip w.settings)) { w with settings := afterSkip^[rs.length] w.settings } := by
  induction rs generalizing w with
  | nil => rfl
  | cons r rs ih =>
    simp only [List.mapM_cons, bind, EStateM.bind, skipDecisionRun, ih, pure, EStateM.pure,
      shouldSkipAfter, List.map_cons, List.length_cons, Function.iterate_succ_apply]

def Listed (v : Option Json) (dflt xs : List String) : Prop :=
  (v = none ∧ xs = dflt) ∨ v = some (.arr (xs.map .str))

def Skipped (ps ms as : List String) (r : Request) : Prop :=
  (∃ p ∈ ps ++ fixedSkipPaths, r.path.startsWith p = true) ∨ r.method ∈ ms ∨
    ∃ k ∈ as, k.toList <:+: ((r.header? "HTTP_USER_AGENT").getD "").toList

theorem pathSpec (o : Overrides) {ps : List String} (listed : Listed o.skipPaths defaultSkipPaths ps)
    (path : String) : pathSkipped o path = .ok ((ps ++ fixedSkipPaths).any (path.startsWith ·)) := by
  have scanned : pathSkipped.scan path (ps.map .str ++ fixedSkipPaths.map .str) =
      .ok ((ps ++ fixedSkipPaths).any (path.startsWith ·)) := by
    rw [scanTexts, ← List.append_nil (fixedSkipPaths.map Json.str), scanTexts]
    by_cases a : ps.any (path.startsWith ·) <;> by_cases b : fixedSkipPaths.any (path.startsWith ·) <;>
      simp [a, b, pathSkipped.scan]
  rcases listed with ⟨unset, rfl⟩ | set
  · simpa [pathSkipped, unset] using scanned
  · simpa [pathSkipped, set] using scanned

theorem anyText (ms : List String) (m : String) : (ms.map Json.str).any (· == .str m) = decide (m ∈ ms) := by
  rw [Bool.eq_iff_iff]
  simp

theorem methodSpec (o : Overrides) {ms : List String} (listed : Listed o.skipMethods defaultSkipMethods ms)
    (method : String) : methodSkipped o method = .ok (decide (method ∈ ms)) := by
  rcases listed with ⟨unset, rfl⟩ | set
  · simp only [methodSkipped, unset, Option.getD_none, Json.occursIn, anyText]
  · simp only [methodSkipped, set, Option.getD_some, Json.occursIn, anyText]

theorem scanMarkers (agent : String) (as : List String) :
    agentSkipped.scan agent (as.map .str) = .ok (as.any fun k => decide (k.toList <:+: agent.toList)) := by
  induction as with
  | nil => rfl
  | cons k as ih =>
    by_cases part : k.toList <:+: agent.toList <;>
      simp [agentSkipped.scan, ConfigLoad.occursInText, part, ih, bind, Except.bind, pure, Except.pure]

theorem agentSpec (o : Overrides) {as : List String} (listed : Listed o.skipUserAgents defaultSkipAgents as)
    (agent : String) : agentSkipped o agent = .ok (as.any fun k => decide (k.toList <:+: agent.toList)) := by
  rcases listed with ⟨unset, rfl⟩ | set
  · simpa [agentSkipped, unset] using scanMarkers agent defaultSkipAgents
  · simpa [agentSkipped, set] using scanMarkers agent as

instance (ps ms as : List String) (r : Request) : Decidable (Skipped ps ms as r) := by
  unfold Skipped; infer_instance

theorem skippedDecide (ps ms as : List String) (r : Request) :
    decide (Skipped ps ms as r) = ((ps ++ fixedSkipPaths).any (r.path.startsWith ·) ||
      decide (r.method ∈ ms) ||
      as.any fun k => decide (k.toList <:+: ((r.header? "HTTP_USER_AGENT").getD "").toList)) := by
  rw [Bool.eq_iff_iff, decide_eq_true_iff]
  simp [Skipped, or_assoc, or_and_right, exists_or]

theorem shouldSkipSpec (o : Overrides) {ps ms as : List String}
    (paths : Listed o.skipPaths defaultSkipPaths ps) (methods : Listed o.skipMethods defaultSkipMethods ms)
    (agents : Listed o.skipUserAgents defaultSkipAgents as) (r : Request) :
    shouldSkip o r = .ok (decide (Skipped ps ms as r)) := by
  rw [skippedDecide]
  simp only [shouldSkip, pathSpec o paths, methodSpec o methods, agentSpec o agents]
  cases (ps ++ fixedSkipPaths).any (r.path.startsWith ·) <;> cases decide (r.method ∈ ms) <;> rfl

def grownPaths (v : Option Json) (n : Nat) : Option Json :=
  match v with
  | some (.arr xs) => some (.arr (xs ++ (List.replicate n fixedItems).flatten))
  | other => other

theorem grownNone (v : Option Json) : grownPaths v 0 = v := by
  unfold grownPaths
  split <;> simp

theorem afterSkipGrown (o : Overrides) (n : Nat) :
    afterSkip { o with skipPaths := grownPaths o.skipPaths n } =
      { o with skipPaths := grownPaths o.skipPaths (n + 1) } := by
  cases h : o.skipPaths with
  | none => rfl
  | some j => cases j <;> simp [afterSkip, grownPaths, List.replicate_succ', fixedItems]

theorem iterateAfterSkip (o : Overrides) (n : Nat) :
    afterSkip^[n] o = { o with skipPaths := grownPaths o.skipPaths n } := by
  induction n with
  | zero => rw [Function.iterate_zero_apply, grownNone]
  | succ n ih => rw [Function.iterate_succ_apply', ih, afterSkipGrown]

end Portal.SkipSettings
