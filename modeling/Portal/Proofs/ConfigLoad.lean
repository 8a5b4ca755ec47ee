import Mathlib
import Portal.Proofs.Webhook
import Portal.Scripts.Agent
/-! Loading a task configuration from a file. The loader reads the file and parses it, then
searches the value for `tasks` and indexes it by that name, whatever kind of value it is.
Main statement: `configLoadEnds`. A load returns an object whose `tasks` is a non-empty list,
or exits with code 1 after printing an error line, or raises a type error; it raises exactly
when the file holds a value the search or the index breaks on (`Unsearchable`). -/
namespace Portal.ConfigLoad
open Scripts

/-- A value the configuration check breaks on: one that cannot be searched for a name, or a list
or a text in which `tasks` is found but which cannot then be indexed by a name. -/
inductive Unsearchable : Json → Prop
  | null : Unsearchable .null
  | bool (b : Bool) : Unsearchable (.bool b)
  | int (n : Int) : Unsearchable (.int n)
  | float (f : Sci) : Unsearchable (.float f)
  | listed (xs : List Json) (mem : .str "tasks" ∈ xs) : Unsearchable (.arr xs)
  | quoted (s : String) (part : "tasks".toList <:+: s.toList) : Unsearchable (.str s)

def Accepted (v : Json) : Prop := ∃ kvs t ts, v = .obj kvs ∧ v.get? "tasks" = some (.arr (t :: ts))

def fileText (files : List (String × String)) (path : String) : Option String :=
  (files.find? (·.1 == path)).map (·.2)

def BreaksCheck (files : List (String × String)) (path : String) : Prop :=
  ∃ text v, fileText files path = some text ∧ Json.parse text = .ok v ∧ Unsearchable v

@[simp] theorem sayRun (s : String) (d : Desk) : say s d = .ok () { d with out := d.out ++ s ++ "\n" } := rfl

@[simp] theorem exitRun {α : Type} (code : Int) (d : Desk) : (exit code : Script α) d = .error (.exit code) d :=
  rfl

@[simp] theorem ofExceptRun {α : Type} (r : Except Fault α) (d : Desk) :
    ofExcept r d = match r with | .ok a => .ok a d | .error f => .error (.raise f) d := by
  cases r <;> rfl

theorem occursInText (n s : String) :
    Json.occursIn n (.str s) = .ok (decide (n.toList <:+: s.toList)) := by
  simp only [Json.occursIn, Except.ok.injEq]
  rw [Bool.eq_iff_iff, decide_eq_true_iff]
  simp only [List.any_eq_true, List.mem_range, List.isPrefixOf_iff_prefix]
  constructor
  · rintro ⟨i, -, pre⟩
    exact pre.isInfix.trans (List.drop_suffix i s.toList).isInfix
  · rintro ⟨before, after, whole⟩
    refine ⟨before.length, ?_, ?_⟩
    · have total := congrArg List.length whole
      simp only [List.length_append, String.length_toList] at total
      omega
    · simp [← whole]

theorem anyStr (n : String) (xs : List Json) : xs.any (· == .str n) = true ↔ .str n ∈ xs := by
  simp [Webhook.beqStr]

theorem checkOutcome (shown : String) (v : Json) (d : Desk) :
    (checkConfig shown v d = .ok v d ∧ Accepted v) ∨
    (∃ rest, checkConfig shown v d = .error (.exit 1) { d with out := d.out ++ "❌ Error: " ++ rest } ∧
      ¬Unsearchable v) ∨
    (∃ f, checkConfig shown v d = .error (.raise f) d ∧ f.kind = "TypeError" ∧ Unsearchable v) := by
  cases v with
  | null => exact .inr (.inr ⟨_, rfl, rfl, .null⟩)
  | bool b => exact .inr (.inr ⟨_, rfl, rfl, .bool b⟩)
  | int n => exact .inr (.inr ⟨_, rfl, rfl, .int n⟩)
  | float f => exact .inr (.inr ⟨_, rfl, rfl, .float f⟩)
  | str s =>
    by_cases part : "tasks".toList <:+: s.toList
    · have found : Json.occursIn "tasks" (.str s) = .ok true := by rw [occursInText, decide_eq_true part]
      exact .inr (.inr ⟨⟨"TypeError", "string indices must be integers, not 'str'"⟩,
        by simp [checkConfig, found, Json.index, bind, EStateM.bind], rfl, .quoted s part⟩)
    · have missed : Json.occursIn "tasks" (.str s) = .ok false := by rw [occursInText, decide_eq_false part]
      refine .inr (.inl ⟨"Missing 'tasks' array in " ++ shown ++ "\nExpected format:\n" ++ configExample ++ "\n",
        ?_, fun h => by cases h; exact part ‹_›⟩)
      simp [checkConfig, missed, bind, EStateM.bind, String.append_assoc]
      rw [← String.append_assoc]
      rfl
  | arr xs =>
    by_cases mem : .str "tasks" ∈ xs
    · have found : Json.occursIn "tasks" (.arr xs) = .ok true := by
        simp [Json.occursIn, (anyStr "tasks" xs).mpr mem]
      exact .inr (.inr ⟨⟨"TypeError", "list indices must be integers or slices, not str"⟩,
        by simp [checkConfig, found, Json.index, bind, EStateM.bind], rfl, .listed xs mem⟩)
    · have missed : Json.occursIn "tasks" (.arr xs) = .ok false := by
        simp only [Json.occursIn, Except.ok.injEq, List.any_eq_false]
        intro x hx same
        exact mem ((Webhook.beqStr x "tasks").mp same ▸ hx)
      refine .inr (.inl ⟨"Missing 'tasks' array in " ++ shown ++ "\nExpected format:\n" ++ configExample ++ "\n",
        ?_, fun h => by cases h; exact mem ‹_›⟩)
      simp [checkConfig, missed, bind, EStateM.bind, String.append_assoc]
      rw [← String.append_assoc]
      rfl
  | obj kvs =>
    -- an object is searched by its keys, and only a `tasks` member that is a non-empty list passes
    cases named : kvs.find? (·.1 == "tasks") with
    | none =>
      have missed : Json.occursIn "tasks" (.obj kvs) = .ok false := by
        simpa [Json.occursIn] using List.find?_eq_none.mp named
      refine .inr (.inl ⟨"Missing 'tasks' array in " ++ shown ++ "\nExpected format:\n" ++ configExample ++ "\n",
        ?_, fun h => by cases h⟩)
      simp [checkConfig, missed, bind, EStateM.bind, String.append_assoc]
      rw [← String.append_assoc]
      rfl
    | some entry =>
      obtain ⟨key, t⟩ := entry
      have same : key = "tasks" := by simpa using List.find?_some named
      have found : Json.occursIn "tasks" (.obj kvs) = .ok true := by
        simp only [Json.occursIn, Except.ok.injEq, List.any_eq_true]
        exact ⟨(key, t), List.mem_of_find?_eq_some named, by simp [same]⟩
      have indexed : Json.index (.obj kvs) "tasks" = .ok t := by simp [Json.index, named]
      by_cases listed : ∃ x xs, t = .arr (x :: xs)
      · obtain ⟨x, xs, rfl⟩ := listed
        exact .inl ⟨by simp [checkConfig, found, indexed, bind, EStateM.bind, pure, EStateM.pure],
          kvs, x, xs, rfl, by simp [Json.get?, named]⟩
      · refine .inr (.inl ⟨"'tasks' must be a non-empty list\n", ?_, fun h => by cases h⟩)
        cases t with
        | arr ys =>
          cases ys with
          | nil => simp [checkConfig, found, indexed, bind, EStateM.bind, String.append_assoc]
          | cons y ys => exact absurd ⟨y, ys, rfl⟩ listed
        | _ => simp [checkConfig, found, indexed, bind, EStateM.bind, String.append_assoc]

theorem readGiven (files : List (String × String)) (path : String) :
    readFile? path { given := files } = .ok (fileText files path) { given := files } := by
  simp [readFile?, fileText, get, getThe, MonadStateOf.get, EStateM.get, bind, EStateM.bind, pure,
    EStateM.pure]

theorem loadMissing {files : List (String × String)} {path : String} (missing : fileText files path = none) :
    loadJsonConfig path { given := files } = .error (.exit 1)
      { given := files, out := "❌ Error: " ++ ("Configuration file not found: " ++ scratch ++ "/" ++ path ++ "\n") } := by
  simp [loadJsonConfig, readGiven, missing, bind, EStateM.bind, String.append_assoc]
  rw [← String.append_assoc]
  rfl

theorem loadInvalid {files : List (String × String)} {path text : String} {e : JsonError}
    (found : fileText files path = some text) (invalid : Json.parse text = .error e) :
    loadJsonConfig path { given := files } = .error (.exit 1)
      { given := files, out := "❌ Error: " ++ ("Invalid JSON format in " ++ scratch ++ "/" ++ path ++ ": " ++
          e.render text ++ "\n") } := by
  simp [loadJsonConfig, loadJson, readGiven, found, invalid, bind, EStateM.bind, pure, String.append_assoc]
  rw [← String.append_assoc]
  rfl

theorem loadParsed {files : List (String × String)} {path text : String} {v : Json}
    (found : fileText files path = some text) (parsed : Json.parse text = .ok v) :
    loadJsonConfig path { given := files } = checkConfig (scratch ++ "/" ++ path) v { given := files } := by
  simp [loadJsonConfig, loadJson, readGiven, found, parsed, bind, EStateM.bind, pure, EStateM.pure]

theorem configLoadEnds (files : List (String × String)) (path : String) :
    (∃ v d, loadJsonConfig path { given := files } = .ok v d ∧ Accepted v ∧ ¬BreaksCheck files path) ∨
    (∃ d rest, loadJsonConfig path { given := files } = .error (.exit 1) d ∧
      d.out = "❌ Error: " ++ rest ∧ ¬BreaksCheck files path) ∨
    (∃ f d, loadJsonConfig path { given := files } = .error (.raise f) d ∧ f.kind = "TypeError" ∧
      BreaksCheck files path) := by
  cases found : fileText files path with
  | none =>
    refine .inr (.inl ⟨_, _, loadMissing found, rfl, ?_⟩)
    rintro ⟨text, v, there, -⟩
    simp [found] at there
  | some text =>
    cases parsed : Json.parse text with
    | error e =>
      refine .inr (.inl ⟨_, _, loadInvalid found parsed, rfl, ?_⟩)
      rintro ⟨text', v, there, reads, -⟩
      cases found.symm.trans there
      simp [parsed] at reads
    | ok v =>
      -- the file read as `v`: what the check does with `v` is what the load does
      have fine : ¬Unsearchable v → ¬BreaksCheck files path := by
        rintro clean ⟨text', v', there, reads, breaks⟩
        cases found.symm.trans there
        cases parsed.symm.trans reads
        exact clean breaks
      rw [loadParsed found parsed]
      rcases checkOutcome (scratch ++ "/" ++ path) v { given := files } with
        ⟨ran, accepted⟩ | ⟨rest, ran, clean⟩ | ⟨f, ran, kind, breaks⟩
      · refine .inl ⟨v, _, ran, accepted, fine ?_⟩
        obtain ⟨kvs, -, -, rfl, -⟩ := accepted
        intro breaks
        cases breaks
      · exact .inr (.inl ⟨_, rest, ran, by simp, fine clean⟩)
      · exact .inr (.inr ⟨f, _, ran, kind, text, v, found, parsed, breaks⟩)

example : BreaksCheck [("config.json", "5")] "config.json" := ⟨"5", .int 5, rfl, rfl, .int 5⟩

end Portal.ConfigLoad
