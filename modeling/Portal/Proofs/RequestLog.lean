import Mathlib
import Portal.Proofs.LogStore
/-! The log's layers around a request. The request log adds one `api` row for a request it
does not skip, with the request's method, full path and status and the status's level, unless
measuring the body raises (a multipart body whose fields were read) or the store refuses the
context's user; either failure is dropped and the world stays as the handler left it.

The error layer is transparent: whatever the handler it wraps does, the layer does the same
from the same world, so it passes an answer on, raises a failure again as it was, and writes no
entry of its own. The call meant to write the entry names `log_error`, which the layer's own
fallback clause makes a local of the whole call, so the call raises and the fallback swallows
it.

The `api` row's user is the request context's, never the request's: the layer reads no user off
the request and sets no context, so a signed-in user's request is logged with whatever user
earlier code left in the context. -/
namespace Portal.RequestLog
open Web Audit LogStore

def after {α : Type} : EStateM.Result Fault World α → World
  | .ok _ s => s
  | .error _ s => s

def logRows (w : World) : List Row := w.db.rows .systemLog

theorem layerLogErrorRaises (message : Json) (e : Fault) (userId requestId metadata : Json)
    (w : World) : layerLogError message e userId requestId metadata w =
      .error ⟨"UnboundLocalError",
        "cannot access local variable 'log_error' where it is not associated with a value"⟩ w :=
  rfl

theorem attemptRun {α : Type} (act : App α) (w : World) :
    App.attempt act w = match act w with
      | .ok a s => .ok (.ok a) s
      | .error e s => .ok (.error e) s := by
  show EStateM.tryCatch (EStateM.bind act fun a => EStateM.pure (Except.ok a))
    (fun e => EStateM.pure (Except.error e)) w = _
  simp only [EStateM.tryCatch, EStateM.bind]
  cases act w <;> rfl

theorem errorLoggingRun {α : Type} (r : Request) (inner : App α) (w : World) :
    errorLogging r inner w = inner w := by
  show EStateM.bind (App.attempt inner) _ w = _
  simp only [EStateM.bind, attemptRun]
  cases inner w with
  | ok a s => rfl
  | error e s =>
    show EStateM.bind (App.quietly _) _ s = _
    simp only [EStateM.bind, Steps.quietlyRun, layerLogErrorRaises]
    rfl

theorem errorLayerPassesThrough {α : Type} (r : Request) (inner : App α) :
    errorLogging r inner = inner :=
  funext (errorLoggingRun r inner)

theorem failedPostLeavesNoEntry :
    errorLogging { method := "POST", path := "/notes/", form := [("title", "hello")] }
        (App.fail ⟨"RuntimeError", "boom"⟩ : App Unit) default =
      .error ⟨"RuntimeError", "boom"⟩ default ∧
    logRows (after (errorLogging { method := "POST", path := "/notes/", form := [("title", "hello")] }
        (App.fail ⟨"RuntimeError", "boom"⟩ : App Unit) default)) = [] :=
  ⟨rfl, rfl⟩

def apiLog (r : Request) (resp : Response) (w : World) : LogEntry :=
  { level := .text (levelOf resp.status), category := .text "api",
    message := .text (r.method ++ " " ++ r.fullPath ++ " - " ++ toString resp.status),
    userId := ctxValue w "user_id", metadata := .ok (apiMetadata r resp),
    requestId := ctxValue w "request_id", ip := ctxValue w "ip_address",
    userAgent := ctxValue w "user_agent" }

def apiCells (r : Request) (resp : Response) (w : World) (user : Value) : List (String × Value) :=
  logCells (levelOf resp.status) "api" (r.method ++ " " ++ r.fullPath ++ " - " ++ toString resp.status)
    (Moment.utc w.clock).toUtc user .null (apiMetadata r resp) (ctxValue w "request_id")
    (ctxValue w "ip_address") (ctxValue w "user_agent")

def UserStorable (w : World) : Prop :=
  ∃ u, userColumn.prep (ctxValue w "user_id") = .ok u ∧ CountCell u

def bodyRead : Fault :=
  ⟨"RawPostDataException", "You cannot access body after reading from request's data stream"⟩

theorem apiEntryRun (r : Request) (resp : Response) (w : World) :
    apiEntry r resp w = if (r.multipart && w.exchange.formRead) = true then .error bodyRead w
      else App.logEntry (apiLog r resp w) w := by
  unfold apiEntry
  rw [Listing.bindRun (show bodyConsumed r w = .ok (r.multipart && w.exchange.formRead) w from rfl)]
  by_cases consumed : (r.multipart && w.exchange.formRead) = true
  · simp only [consumed, if_true]
    rfl
  · simp only [consumed]
    rfl

theorem resolvedApi (r : Request) (resp : Response) (w : World) :
    resolved (apiLog r resp w) w = apiLog r resp w := by
  unfold resolved apiLog
  simp only [ite_self]

theorem apiEntryAppends (r : Request) (resp : Response) (w : World) (ready : LogReady w.db)
    (intact : (r.multipart && w.exchange.formRead) = false) {u : Value}
    (hu : userColumn.prep (ctxValue w "user_id") = .ok u) (cu : CountCell u) :
    ∃ o, apiEntry r resp w = .ok o { w with db := withLogRow w.db (apiCells r resp w u) } := by
  rw [apiEntryRun, if_neg (by simp [intact])]
  have user : userColumn.prep (resolved (apiLog r resp w) w).userId = .ok u := by
    rw [resolvedApi]
    exact hu
  obtain ⟨o, run⟩ := logEntryAppends (apiLog r resp w) w rfl rfl rfl rfl user rfl cu (.inl rfl)
    (readyFresh ready)
  rw [resolvedApi] at run
  exact ⟨o, run⟩

theorem apiEntryFails (r : Request) (resp : Response) (w : World)
    (h : (r.multipart && w.exchange.formRead) = true ∨ ¬UserStorable w) :
    ∃ f, apiEntry r resp w = .error f w := by
  rw [apiEntryRun]
  by_cases consumed : (r.multipart && w.exchange.formRead) = true
  · rw [if_pos consumed]
    exact ⟨_, rfl⟩
  rw [if_neg consumed]
  have refused : ¬UserStorable w := h.resolve_left consumed
  apply logEntryFails (apiLog r resp w) w rfl rfl rfl
  rintro ⟨-, u, u', hu, -, cu, -, -⟩
  rw [resolvedApi] at hu
  exact refused ⟨u, hu, cu⟩

theorem apiEntryStep (r : Request) (resp : Response) (w : World) (ready : LogReady w.db) :
    ∃ w', App.quietly (discard (apiEntry r resp)) w = .ok () w' ∧
      (∀ u, (r.multipart && w.exchange.formRead) = false →
        userColumn.prep (ctxValue w "user_id") = .ok u → CountCell u →
        w' = { w with db := withLogRow w.db (apiCells r resp w u) }) ∧
      ((r.multipart && w.exchange.formRead) = true ∨ ¬UserStorable w → w' = w) := by
  by_cases logged : (r.multipart && w.exchange.formRead) = false ∧ UserStorable w
  · obtain ⟨intact, u, hu, cu⟩ := logged
    obtain ⟨o, run⟩ := apiEntryAppends r resp w ready intact hu cu
    refine ⟨_, by rw [Steps.quietlyRun, Steps.discardRun, run], fun u' _ hu' _ => ?_, ?_⟩
    · rw [hu] at hu'
      cases hu'
      rfl
    · rintro (consumed | refused)
      · simp [intact] at consumed
      · exact absurd ⟨u, hu, cu⟩ refused
  · have dropped : (r.multipart && w.exchange.formRead) = true ∨ ¬UserStorable w := by
      rw [not_and_or, Bool.not_eq_false] at logged
      exact logged
    obtain ⟨f, run⟩ := apiEntryFails r resp w dropped
    refine ⟨w, by rw [Steps.quietlyRun, Steps.discardRun, run], fun u intact hu cu => ?_, fun _ => rfl⟩
    exact absurd ⟨intact, u, hu, cu⟩ logged

theorem requestLogEntry (settings : Overrides) (r : Request) (inner : App Response) (w w₁ : World)
    (resp : Response) (skip : Bool) (hs : shouldSkip settings r = .ok skip)
    (hi : inner w = .ok resp w₁) (ready : LogReady w₁.db) :
    ∃ w₂, requestLogging settings r inner w = .ok resp w₂ ∧
      (∀ u, skip = false → (r.multipart && w₁.exchange.formRead) = false →
        userColumn.prep (ctxValue w₁ "user_id") = .ok u → CountCell u →
        Steps.StoreOnly w₁ w₂ ∧ (logRows w₂).Perm
          (logRows w₁ ++ [{ pk := (w₁.db.table .systemLog).seq + 1, cells := apiCells r resp w₁ u }])) ∧
      (skip = true ∨ (r.multipart && w₁.exchange.formRead) = true ∨ ¬UserStorable w₁ → w₂ = w₁) := by
  obtain ⟨w', entry, logged, dropped⟩ := apiEntryStep r resp w₁ ready
  cases skip with
  | false =>
    refine ⟨w', ?_, fun u _ intact hu cu => ?_, ?_⟩
    · unfold requestLogging
      rw [hs]
      show (inner >>= _) w = _
      rw [Listing.bindRun hi]
      show (App.quietly _ >>= _) w₁ = _
      rw [Listing.bindRun entry]
      rfl
    · rw [logged u intact hu cu]
      exact ⟨by simp, logRowsAppend ready _⟩
    · rintro (skipped | rest)
      · cases skipped
      · exact dropped rest
  | true =>
    refine ⟨w₁, ?_, fun _ skipped => (nomatch skipped), fun _ => rfl⟩
    unfold requestLogging
    rw [hs]
    show (inner >>= _) w = _
    rw [Listing.bindRun hi]
    rfl

theorem noAgentKept : agentSkipped {} "" = .ok false := rfl

theorem taskListLoggedOnce : shouldSkip {} { path := "/tasks/" } = .ok false ∧ LogReady ({} : World).db ∧
    ∃ w₂, requestLogging {} { path := "/tasks/" } (pure { status := 200 }) {} = .ok { status := 200 } w₂ ∧
      (logRows w₂).length = 1 := by
  have kept : shouldSkip {} { path := "/tasks/" } = .ok false := by
    simp [shouldSkip, pathSkipped, pathSkipped.scan, methodSkipped, defaultSkipPaths, fixedSkipPaths,
      defaultSkipMethods, Json.occursIn, BEq.beq, Json.beq, Request.header?, noAgentKept]
    rfl
  obtain ⟨w₂, run, logged, -⟩ := requestLogEntry {} { path := "/tasks/" } (pure { status := 200 }) {} {}
    { status := 200 } false kept rfl emptyReady
  obtain ⟨-, perm⟩ := logged .null rfl rfl rfl (.inl rfl)
  exact ⟨kept, emptyReady, w₂, run, by rw [perm.length_eq]; rfl⟩

theorem readFormLeavesNoEntry :
    shouldSkip {} { method := "POST", path := "/tasks/task/create/", multipart := true,
                    form := [("title", "x")] } = .ok false ∧
    LogReady ({} : World).db ∧
    requestLogging {} { method := "POST", path := "/tasks/task/create/", multipart := true,
                        form := [("title", "x")] } (do App.readForm; pure { status := 302 }) {} =
      .ok { status := 302 } { exchange := { formRead := true } } := by
  have kept : shouldSkip {} { method := "POST", path := "/tasks/task/create/", multipart := true,
                                form := [("title", "x")] } = .ok false := by
    simp [shouldSkip, pathSkipped, pathSkipped.scan, methodSkipped, defaultSkipPaths, fixedSkipPaths,
      defaultSkipMethods, Json.occursIn, BEq.beq, Json.beq, Request.header?, noAgentKept]
    rfl
  refine ⟨kept, emptyReady, ?_⟩
  unfold requestLogging
  rw [kept]
  rfl

/-! The request log reads the user of its row from the request context, which no layer of a
request sets, and never from the request itself. -/

theorem requestLoggingUser (settings : Overrides) (r : Request) (inner : App Response) (user : Option Obj) :
    requestLogging settings { r with user } inner = requestLogging settings r inner := rfl

theorem requestLoggingRun (settings : Overrides) (r : Request) (inner : App Response) {w w₁ : World}
    {resp : Response} (hs : shouldSkip settings r = .ok false) (hi : inner w = .ok resp w₁) :
    requestLogging settings r inner w = (App.quietly (discard (apiEntry r resp)) >>= fun _ => pure resp) w₁ := by
  unfold requestLogging
  rw [hs]
  show (inner >>= _) w = _
  rw [Listing.bindRun hi]
  rfl

theorem requestLogAppends (settings : Overrides) (r : Request) (inner : App Response) {w w₁ : World}
    {resp : Response} (hs : shouldSkip settings r = .ok false) (hi : inner w = .ok resp w₁)
    (ready : LogReady w₁.db) (intact : (r.multipart && w₁.exchange.formRead) = false) {u : Value}
    (hu : userColumn.prep (ctxValue w₁ "user_id") = .ok u) (cu : CountCell u) :
    requestLogging settings r inner w = .ok resp { w₁ with db := withLogRow w₁.db (apiCells r resp w₁ u) } := by
  obtain ⟨w', entry, logged, -⟩ := apiEntryStep r resp w₁ ready
  rw [requestLoggingRun settings r inner hs hi, Listing.bindRun entry, logged u intact hu cu]
  rfl

theorem apiCellsUser (r : Request) (resp : Response) (w : World) (u : Value) (k : Nat) :
    ({ pk := k, cells := apiCells r resp w u } : Row).get "user_id" = u := by
  simp [Row.get, apiCells, logCells]

theorem apiRowAttributedToContext (settings : Overrides) (r : Request) (inner : App Response)
    (w w₁ : World) (resp : Response) (hs : shouldSkip settings r = .ok false)
    (hi : inner w = .ok resp w₁) (ready : LogReady w₁.db)
    (intact : (r.multipart && w₁.exchange.formRead) = false) {u : Value}
    (hu : userColumn.prep (ctxValue w₁ "user_id") = .ok u) (cu : CountCell u) (user : Option Obj) :
    ∃ w₂ row, requestLogging settings { r with user } inner w = .ok resp w₂ ∧
      w₂.context = w₁.context ∧ (logRows w₂).Perm (logRows w₁ ++ [row]) ∧ row.get "user_id" = u := by
  refine ⟨{ w₁ with db := withLogRow w₁.db (apiCells r resp w₁ u) },
    { pk := (w₁.db.table .systemLog).seq + 1, cells := apiCells r resp w₁ u }, ?_, rfl,
    logRowsAppend ready _, apiCellsUser r resp w₁ u _⟩
  rw [requestLoggingUser]
  exact requestLogAppends settings r inner hs hi ready intact hu cu

def alice : Obj := { entity := .user, pk := some 1, cells := [("username", .text "alice")], adding := false }

theorem aliceListAttributed : shouldSkip {} { path := "/tasks/" } = .ok false ∧ LogReady ({} : World).db ∧
    ∃ w₂ row, requestLogging {} { path := "/tasks/", user := some alice } (pure { status := 200 }) {} =
        .ok { status := 200 } w₂ ∧
      w₂.context = ({} : World).context ∧ (logRows w₂).Perm (logRows {} ++ [row]) ∧ row.get "user_id" = .null := by
  have kept : shouldSkip {} { path := "/tasks/" } = .ok false := by
    simp [shouldSkip, pathSkipped, pathSkipped.scan, methodSkipped, defaultSkipPaths, fixedSkipPaths,
      defaultSkipMethods, Json.occursIn, BEq.beq, Json.beq, Request.header?, noAgentKept]
    rfl
  exact ⟨kept, emptyReady, apiRowAttributedToContext {} { path := "/tasks/" } (pure { status := 200 }) {} {}
    { status := 200 } kept rfl emptyReady rfl rfl (.inl rfl) (some alice)⟩

theorem signedInRequestLoggedAnonymous :
    ({ path := "/tasks/", user := some alice } : Request).userId? = some 1 ∧
    ∃ w₂, requestLogging {} { path := "/tasks/", user := some alice } (pure { status := 200 }) {} =
        .ok { status := 200 } w₂ ∧ (logRows w₂).map (·.get "user_id") = [.null] := by
  have kept : shouldSkip {} { path := "/tasks/" } = .ok false := by
    simp [shouldSkip, pathSkipped, pathSkipped.scan, methodSkipped, defaultSkipPaths, fixedSkipPaths,
      defaultSkipMethods, Json.occursIn, BEq.beq, Json.beq, Request.header?, noAgentKept]
    rfl
  refine ⟨rfl, _, (congrFun (requestLoggingUser {} { path := "/tasks/" } (pure { status := 200 }) (some alice)) {}).trans
    (requestLogAppends {} _ _ kept rfl emptyReady rfl rfl (.inl rfl)), ?_⟩
  have single := logRowsAppend emptyReady
    (apiCells { path := "/tasks/" } { status := 200 } ({} : World) .null)
  rw [show (({} : World).db.rows .systemLog) = [] from rfl, List.nil_append, List.perm_singleton] at single
  simp only [logRows, single, List.map_cons, List.map_nil, apiCellsUser]

end Portal.RequestLog
