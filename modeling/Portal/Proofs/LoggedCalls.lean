import Mathlib
import Portal.Proofs.HandlerRows
import Portal.Audit.Operations
/-! The logging wrappers around a unit of work, over every body and every answer of the log.
After a body that returns, an entry reporting success is written, and the wrapper returns the
body's value when the log takes it. The entry is written under the same guard as the body, so
when the log refuses it the refusal is treated as a failure of the work: an entry reporting
failure is written and the log's fault is raised in place of the value. After a body that
raises, the failure entry is written and the body's fault raised again. Either way, a refused
failure entry makes the wrapper raise the log's fault instead. An operation's start entry is
written outside the guard: when the log refuses it, the body never runs. -/
namespace Portal.LoggedCalls
open Audit

def Reports (ok : Bool) (message : String) (e : LogEntry) : Prop :=
  e.message = .text message ∧ ∃ doc, e.metadata = .ok doc ∧ doc.get? "success" = some (.bool ok)

def FailureLogged {α : Type} (message : String) (g : Fault) (w : World)
    (res : EStateM.Result Fault World α) : Prop :=
  ∃ e, Reports false message e ∧
    ((∃ o w', App.logEntry e w = .ok o w' ∧ res = .error g w') ∨
      (∃ h, App.logEntry e w = .error h w ∧ res = .error h w))

def Wraps {α : Type} (completed failed : String) (inner outer : EStateM.Result Fault World α) : Prop :=
  (∀ r w₁, inner = .ok r w₁ → ∃ e, Reports true completed e ∧
    ((∃ o w₂, App.logEntry e w₁ = .ok o w₂ ∧ outer = .ok r w₂) ∨
      (∃ g, App.logEntry e w₁ = .error g w₁ ∧ FailureLogged failed g w₁ outer))) ∧
  (∀ f w₁, inner = .error f w₁ → FailureLogged failed f w₁ outer)

theorem orContextRun (v : Json) (k : String) (w : World) : ∃ j, orContext v k w = .ok j w := by
  unfold orContext
  split
  · exact ⟨v, rfl⟩
  · exact ⟨_, rfl⟩

theorem logErrorEntry (message : String) (f : Fault) (userId : Json) (kvs : List (String × Json))
    (w : World) :
    ∃ e : LogEntry, e.message = .text message ∧
      e.metadata = .ok (.obj (Json.setKey kvs "exception" (faultDoc f))) ∧
      logError (.str message) (some f) userId .null (.obj kvs) w = App.logEntry e w := by
  obtain ⟨u, hu⟩ := orContextRun userId "user_id" w
  obtain ⟨r, hr⟩ := orContextRun .null "request_id" w
  refine ⟨
    { level := .text "ERROR", category := .text "error", message := Value.ofJson (.str message),
      userId := Value.ofJson u, metadata := .ok (.obj (Json.setKey kvs "exception" (faultDoc f))),
      requestId := Value.ofJson r }, rfl, rfl, ?_⟩
  simp [logError, bind, EStateM.bind, hu, hr, assignKey, App.ofExcept, pure, EStateM.pure, Json.isNull]

theorem exceptionKeeps (kvs : List (String × Json)) (v : Json) {k : String} (ne : k ≠ "exception") :
    (Json.obj (Json.setKey kvs "exception" v)).get? k = (Json.obj kvs).get? k := by
  simp only [Json.get?, Json.setKey, Delivery.findUpsertOther kvs v ne]

theorem refusedKeeps {e : LogEntry} {w w' : World} {g : Fault} (h : App.logEntry e w = .error g w') :
    w' = w := by
  have kept := StoreUpdate.logEntrySets e w
  rw [h] at kept
  exact kept

theorem loggedThenRaised {α : Type} (message : String) (g : Fault) (userId : Json)
    (kvs : List (String × Json)) (w : World) (failed : (Json.obj kvs).get? "success" = some (.bool false)) :
    FailureLogged message g w
      ((do discard <| logError (.str message) (some g) userId .null (.obj kvs); App.fail g : App α) w) := by
  obtain ⟨e, hm, hd, run⟩ := logErrorEntry message g userId kvs w
  refine ⟨e, ⟨hm, _, hd, by rw [exceptionKeeps kvs _ (by decide)]; exact failed⟩, ?_⟩
  simp only [bind, EStateM.bind, Steps.discardRun, run]
  cases h : App.logEntry e w with
  | ok o w' => exact .inl ⟨o, w', rfl, rfl⟩
  | error f w' =>
    obtain rfl := refusedKeeps h
    exact .inr ⟨f, rfl, rfl⟩

theorem failedCallReports (doc : List (String × Json)) (d t m : Json) :
    (withMembers doc [("duration_seconds", d), ("success", .bool false), ("exception_type", t),
      ("exception_message", m)]).get? "success" = some (.bool false) := by
  rw [HandlerRows.withMembersGet]
  simp

theorem functionCallWraps (opts : CallLogging) (function module : String) (args : List Json)
    (kwargs : List (String × Json)) (body : App Json) (w : World) :
    Wraps ("Function call completed: " ++ function) ("Function call failed: " ++ function) (body w)
      (logFunctionCall opts function module args kwargs body w) := by
  constructor
  · intro r w₁ ran
    simp only [logFunctionCall, bind, EStateM.bind, App.now, RequestLog.attemptRun, get, getThe,
      MonadStateOf.get, EStateM.get, pure, EStateM.pure, ran]
    -- the guard around the completion entry turns the write's outcome into a value, split here
    split
    next attempted =>
      split at attempted
      next _ o w₂ took =>
        cases attempted
        refine ⟨_, ⟨rfl, _, rfl, ?_⟩, .inl ⟨o, _, took, rfl⟩⟩
        cases opts.includeArgs <;> cases opts.includeResult <;> simp [Json.get?]
      next _ g w₂ refused =>
        cases attempted
        obtain rfl := refusedKeeps refused
        refine ⟨_, ⟨rfl, _, rfl, ?_⟩, .inr ⟨g, refused, ?_⟩⟩
        · cases opts.includeArgs <;> cases opts.includeResult <;> simp [Json.get?]
        · simp only [EStateM.bind, EStateM.get, EStateM.pure]
          exact loggedThenRaised _ g .null _ _ (failedCallReports _ _ _ _)
    next attempted =>
      split at attempted <;> cases attempted
  · intro f w₁ failed
    simp only [logFunctionCall, bind, EStateM.bind, App.now, RequestLog.attemptRun, get, getThe,
      MonadStateOf.get, EStateM.get, pure, EStateM.pure, failed]
    exact loggedThenRaised _ f .null _ w₁ (failedCallReports _ _ _ _)

theorem operationWraps {α : Type} (name level category userId : Json) (body : String → App α)
    (w : World) :
    (∀ g w', App.logEntry (startEntry name level category userId (operationId name w.clock) w.clock) w =
        .error g w' → logOperation name level category userId body w = .error g w) ∧
    (∀ o w₁, App.logEntry (startEntry name level category userId (operationId name w.clock) w.clock) w =
        .ok o w₁ →
      Wraps ("Operation completed: " ++ name.toText) ("Operation failed: " ++ name.toText)
        (body (operationId name w.clock) w₁) (logOperation name level category userId body w)) := by
  constructor
  · intro g w' refused
    obtain rfl := refusedKeeps refused
    simp only [logOperation, bind, EStateM.bind, App.now, get, getThe, MonadStateOf.get, EStateM.get,
      pure, EStateM.pure, Steps.discardRun, refused]
  · intro o w₁ took
    simp only [logOperation, bind, EStateM.bind, App.now, RequestLog.attemptRun, get, getThe,
      MonadStateOf.get, EStateM.get, pure, EStateM.pure, Steps.discardRun, took]
    constructor
    · intro r w₂ ran
      refine ⟨completeEntry name level category userId (operationId name w.clock) w.clock w₂.clock,
        ⟨rfl, _, rfl, by simp [Json.get?]⟩, ?_⟩
      cases hlog : App.logEntry (completeEntry name level category userId (operationId name w.clock) w.clock
          w₂.clock) w₂ with
      | ok o w₃ =>
        simp only [ran, hlog]
        exact .inl ⟨o, w₃, rfl, rfl⟩
      | error g w₃ =>
        obtain rfl := refusedKeeps hlog
        simp only [ran, hlog]
        refine .inr ⟨g, rfl, ?_⟩
        simp only [EStateM.bind, EStateM.get, EStateM.pure]
        exact loggedThenRaised _ g userId _ _ (by simp [Json.get?])
    · intro f w₂ failed
      simp only [failed, EStateM.bind, EStateM.get, EStateM.pure]
      exact loggedThenRaised _ f userId _ _ (by simp [Json.get?])

theorem loggedWorkOutcomes (w : World) :
    (∀ (opts : CallLogging) (function module : String) (args : List Json) (kwargs : List (String × Json))
        (body : App Json),
      Wraps ("Function call completed: " ++ function) ("Function call failed: " ++ function) (body w)
        (logFunctionCall opts function module args kwargs body w)) ∧
    (∀ (α : Type) (name level category userId : Json) (body : String → App α),
      (∀ g w', App.logEntry (startEntry name level category userId (operationId name w.clock) w.clock) w =
          .error g w' → logOperation name level category userId body w = .error g w) ∧
      (∀ o w₁, App.logEntry (startEntry name level category userId (operationId name w.clock) w.clock) w =
          .ok o w₁ →
        Wraps ("Operation completed: " ++ name.toText) ("Operation failed: " ++ name.toText)
          (body (operationId name w.clock) w₁) (logOperation name level category userId body w))) :=
  ⟨fun opts function module args kwargs body => functionCallWraps opts function module args kwargs body w,
    fun _ name level category userId body => operationWraps name level category userId body w⟩

theorem levellessCallRaises :
    ∃ w', logFunctionCall { level := .null } "reports.export" "reports" [] []
        (pure (.obj [("args", .arr []), ("kwargs", .obj [])])) default =
      .error ⟨"IntegrityError", "NOT NULL constraint failed: system_logs.level"⟩ w' :=
  ⟨_, rfl⟩

end Portal.LoggedCalls
