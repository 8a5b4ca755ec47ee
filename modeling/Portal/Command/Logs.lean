import Portal.Command.Output
import Portal.Audit.Events
import Portal.Text.Double
/-! The two commands over the log: one shows entries, newest first, or statistics about
them; the other removes entries older than a number of days after showing what would go.
Entries with the same time stand in the reverse of the order they were written. The removal
deletes in batches from a limited query, which the store refuses, so a confirmed removal
always ends in an error and leaves the log as it was. -/
namespace Portal
namespace Command

def levelNames : List Json := Catalog.levelChoices.map fun (c, _) => .str c

def categoryNames : List Json := Catalog.categoryChoices.map fun (c, _) => .str c

def viewLogsSpec : Spec :=
  { name := "viewlogs", help := "View system log entries from the logging database",
    arguments := [
      Argument.option ["--level"] "level" "Filter by log level" .text .null levelNames,
      Argument.option ["--category"] "category" "Filter by log category" .text .null categoryNames,
      Argument.option ["--limit"] "limit" "Maximum number of log entries to display (default: 50)" .int (.int 50),
      Argument.option ["--hours"] "hours" "Show logs from the last N hours" .int,
      Argument.option ["--days"] "days" "Show logs from the last N days" .int,
      Argument.option ["--user-id"] "user_id" "Filter by user ID" .int,
      Argument.option ["--search"] "search" "Search in message content",
      Argument.flag ["--count"] "count" "Only show the count of matching log entries",
      Argument.flag ["--verbose"] "verbose" "Show detailed information including metadata",
      Argument.flag ["--stats"] "stats" "Show log statistics instead of entries"] }

def cleanupLogsSpec : Spec :=
  { name := "cleanuplogs", help := "Clean up old system log entries from the logging database",
    arguments := [
      Argument.option ["--days"] "days" "Delete logs older than this many days (default: 30)" .int (.int 30),
      Argument.option ["--level"] "level" "Only delete logs of this level" .text .null levelNames,
      Argument.option ["--category"] "category" "Only delete logs of this category" .text .null categoryNames,
      Argument.flag ["--dry-run"] "dry_run" "Show what would be deleted without actually deleting",
      Argument.flag ["--force"] "force" "Skip confirmation prompt",
      Argument.option ["--batch-size"] "batch_size" "Number of logs to delete in each batch (default: 1000)" .int (.int 1000),
      Argument.flag ["--yes"] "yes" "Answer yes to all prompts (same as --force)"] }

def stampKey (o : Obj) : Int := ((Audit.stamp o).map fun (t : Instant) => (t : Int)).getD 0

def newestFirst (logs : List Obj) : List Obj :=
  logs.mergeSort fun a b =>
    stampKey a > stampKey b || (stampKey a == stampKey b && a.pk.getD 0 ≥ b.pk.getD 0)

def oldestFirst (logs : List Obj) : List Obj :=
  logs.mergeSort fun a b =>
    stampKey a < stampKey b || (stampKey a == stampKey b && a.pk.getD 0 ≤ b.pk.getD 0)

def writtenSince (t : Instant) (o : Obj) : Bool :=
  match Audit.stamp o with
  | some s => decide (t ≤ s)
  | none => false

def clip (n : Nat) (s : String) : String :=
  if s.length > n then String.ofList (s.toList.take n) ++ "..." else s

def asciiLower (s : String) : String := String.ofList (s.toList.map fun c => if c.isUpper then c.toLower else c)

def containsFolded (haystack needle : String) : Bool :=
  ((asciiLower haystack).splitOn (asciiLower needle)).length > 1

def shareLine (indent label : String) (count total : Nat) : String :=
  indent ++ Text.alignLeft 8 label ++ ": " ++ Text.alignRight 6 (toString count) ++ " (" ++
    Text.alignRight 5 ((Double.percent count total).fixed 1) ++ "%)"

def timeOf (o : Obj) : String := ((Audit.stamp o).map fun t => (Moment.utc t).secondsText).getD ""

def clockOf (o : Obj) : String := ((Audit.stamp o).map fun t => (Moment.utc t).clockText).getD ""

def showEntry (verbose : Bool) (o : Obj) : App Unit := do
  let uid := (o.get "user_id").toJson
  let ip := (o.get "ip_address").toJson
  let parts := ["[" ++ timeOf o ++ "]", Text.alignLeft 8 (o.get "level").toJson.toText,
    Text.alignLeft 8 (o.get "category").toJson.toText, (o.get "message").toJson.toText] ++
    (if uid.truthy then ["(User: " ++ uid.toText ++ ")"] else []) ++
    (if ip.truthy then ["IP: " ++ ip.toText] else [])
  App.say (" ".intercalate parts)
  if verbose then
    let rid := (o.get "request_id").toJson
    let oid := (o.get "object_id").toJson
    let ua := (o.get "user_agent").toJson
    let doc := (o.get "metadata").toJson
    if rid.truthy then App.say ("    Request ID: " ++ rid.toText)
    if oid.truthy then App.say ("    Object ID: " ++ oid.toText)
    if ua.truthy then App.say ("    User Agent: " ++ clip 100 ua.toText)
    if doc.truthy then
      App.say "    Metadata:"
      for (k, v) in doc.members do
        App.say ("      " ++ k ++ ": " ++ clip 100 v.toText)
  App.say ""

def userCounts (logs : List Obj) : List (Json × Nat) :=
  let ids := (logs.filterMap fun o => (o.get "user_id").asInt?).mergeSort (· ≤ ·) |>.eraseDups
  let counts := ids.map fun i => (Json.int i, (logs.filter fun o => (o.get "user_id").asInt? == some i).length)
  counts.mergeSort fun a b => a.2 ≥ b.2

def showStatistics : App Unit := do
  App.say "📊 Log Statistics"
  App.say ""
  let logs ← App.all .systemLog
  let total := logs.length
  App.say ("Total log entries: " ++ toString total)
  if total == 0 then return
  App.say ""
  App.say "By Level:"
  for (level, _) in Catalog.levelChoices do
    let n := (logs.filter (·.getText "level" == level)).length
    if n > 0 then App.say (shareLine "  " level n total)
  App.say ""
  App.say "By Category:"
  for (category, _) in Catalog.categoryChoices do
    let n := (logs.filter (·.getText "category" == category)).length
    if n > 0 then App.say (shareLine "  " category n total)
  App.say ""
  let now ← App.now
  let count (span : Int) := (logs.filter (writtenSince (now - span))).length
  App.say "Recent Activity:"
  App.say ("  Last 24 hours: " ++ toString (count Instant.day))
  App.say ("  Last 7 days:   " ++ toString (count (7 * Instant.day)))
  App.say ("  Last 30 days:  " ++ toString (count (30 * Instant.day)))
  App.say ""
  App.say "Top Users (by log count):"
  for (uid, n) in (userCounts logs).take 5 do
    App.say ("  User " ++ uid.toText ++ ": " ++ toString n ++ " entries")
  App.say ""
  App.say "Recent Errors (last 24 hours):"
  let errors := newestFirst (logs.filter fun o =>
    o.getText "level" == "ERROR" && writtenSince (now - Instant.day) o)
  if errors.isEmpty then App.say "  No errors in the last 24 hours 🎉"
  else
    for e in errors.take 10 do
      App.say ("  [" ++ clockOf e ++ "] " ++ clip 80 (e.get "message").toJson.toText)

def hour : Int := 3600 * Instant.second

def sinceOf (now : Instant) (hours days : Json) : Except Fault (Option Instant) :=
  let back (span : Int) : Except Fault (Option Instant) := do
    return some (← Audit.before now (← Audit.checkSpan span))
  let byDays : Except Fault (Option Instant) := match days with
    | .int d => if d != 0 then back (d * Instant.day) else .ok none
    | _ => .ok none
  match hours with
  | .int h => if h != 0 then back (h * hour) else byDays
  | _ => byDays

def viewLogs (vs : Values) : App Unit := do
  let level := vs.find "level"
  let category := vs.find "category"
  let limit := vs.intOr "limit" 50
  let hours := vs.find "hours"
  let days := vs.find "days"
  let userId := vs.find "user_id"
  let search := vs.find "search"
  let since ← App.ofExcept (sinceOf (← App.now) hours days)
  let logs := (← App.all .systemLog).filter fun o =>
    (!level.truthy || o.getText "level" == level.toText) &&
    (!category.truthy || o.getText "category" == category.toText) &&
    (!userId.truthy || (o.get "user_id").toJson == userId) &&
    (!search.truthy || containsFolded (o.getText "message") search.toText) &&
    (since.map (writtenSince · o)).getD true
  let logs := newestFirst logs
  let total := logs.length
  if (vs.find "stats").truthy then showStatistics; return
  if (vs.find "count").truthy then
    App.say ("Total matching log entries: " ++ toString total); return
  if total == 0 then App.say "No log entries found matching the criteria."; return
  App.say ("Found " ++ toString total ++ " log entries (showing latest " ++ toString (min limit total) ++ "):")
  App.say ""
  if limit < 0 then App.raise "ValueError" "Negative indexing is not supported."
  for o in logs.take limit.toNat do showEntry (vs.find "verbose").truthy o
  if (total : Int) > limit then
    App.say ""
    App.say ("... and " ++ toString ((total : Int) - limit) ++ " more entries (use --limit to see more)")

def showCurrentStats : App Unit := do
  App.say "📊 Current Database Statistics"
  let stats ← Audit.logStats
  let member (k : String) : String := ((stats.get? k).getD .null).toText
  App.say ("Total logs: " ++ member "total")
  App.say ("Recent 24h: " ++ member "recent_24h")
  App.say ("Recent 7d: " ++ member "recent_7d")

def breakdown (logs : List Obj) (field : String) (choices : List (String × String)) : List (String × Nat) :=
  choices.filterMap fun (c, _) =>
    let n := (logs.filter (·.getText field == c)).length
    if n > 0 then some (c, n) else none

def showBreakdown (logs : List Obj) : App Unit := do
  App.say ""
  App.say "Deletion breakdown:"
  let byLevel := breakdown logs "level" Catalog.levelChoices
  if !byLevel.isEmpty then
    App.say "  By level:"
    let total := sumNat (byLevel.map (·.2))
    for (l, n) in byLevel do App.say (shareLine "    " l n total)
  let byCategory := breakdown logs "category" Catalog.categoryChoices
  if !byCategory.isEmpty then
    App.say "  By category:"
    let total := sumNat (byCategory.map (·.2))
    for (c, n) in byCategory do App.say (shareLine "    " c n total)
  match (oldestFirst logs).head?, (newestFirst logs).head? with
  | some oldest, some newest =>
    App.say ""
    App.say "  Date range:"
    App.say ("    Oldest: " ++ timeOf oldest)
    App.say ("    Newest: " ++ timeOf newest)
  | _, _ => pure ()

def cleanupLogs (vs : Values) : App Unit := do
  let days := vs.intOr "days" 30
  let batch := vs.intOr "batch_size" 1000
  let level := vs.find "level"
  let category := vs.find "category"
  let force := (vs.find "force").truthy || (vs.find "yes").truthy
  if days < 1 then App.raise "CommandError" "Days must be a positive integer"
  if batch < 1 then App.raise "CommandError" "Batch size must be a positive integer"
  showCurrentStats
  let cutoff ← App.ofExcept (Audit.daysSpan (.int days) >>= Audit.before (← App.now))
  let doomed := (← App.all .systemLog).filter fun o => Audit.stampedBefore cutoff o && Audit.ofKind level category o
  if doomed.isEmpty then
    App.say "No log entries match the criteria for deletion."; return
  App.say ""
  App.say ("Logs to delete: " ++ toString doomed.length)
  App.say ("Deletion criteria: older than " ++ toString days ++ " days")
  if level.truthy then App.say ("Level filter: " ++ level.toText)
  if category.truthy then App.say ("Category filter: " ++ category.toText)
  App.say ("Cutoff date: " ++ (Moment.utc cutoff).secondsText)
  showBreakdown doomed
  if (vs.find "dry_run").truthy then
    App.say ""
    App.say "DRY RUN - No logs were actually deleted."
    return
  if !force then
    App.say ""
    let reply ← App.ask "Are you sure you want to delete these logs? [y/N]: "
    if ! ["y", "yes"].contains (reply.toLower) then
      App.say "Operation cancelled."; return
  App.say ""
  App.say "Deleting logs..."
  App.raise "CommandError" "Error during deletion: Cannot use 'limit' or 'offset' with delete()."

end Command
end Portal
