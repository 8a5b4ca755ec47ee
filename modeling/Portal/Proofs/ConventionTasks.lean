import Mathlib
import Portal.Proofs.ConfigLoad
/-! Loading tasks from the files named after a task. Given an array file that holds a JSON
array and an instructions file whose chosen member is a text or a list of texts, the loader
returns one task per text or object item, in order, and skips the other items with a warning.
Every task has the task's kind, the instructions as one text, and the rules file exactly when
there is one. Its identifier depends on the kind of item (`Identifies`): only an object with no
`identifier` member has its separators replaced, and a text item, or an `identifier` member,
is kept as it is, separators included. Main statement: `conventionTasksLoaded`. -/
namespace Portal.ConventionTasks
open Scripts ConfigLoad

def isTaskItem : Json → Bool
  | .str _ => true
  | .obj _ => true
  | _ => false

/-- The identifier of an item's task, by the kind of item: a text names itself, an object with an
`identifier` member that member, and any other object a text without separators. -/
inductive Identifies : Json → Json → Prop
  | text (s : String) : Identifies (.str s) (.str s)
  | member {kvs : List (String × Json)} {v : Json} (named : (Json.obj kvs).get? "identifier" = some v) :
      Identifies (.obj kvs) v
  | cleaned {kvs : List (String × Json)} {s : String} (unnamed : (Json.obj kvs).get? "identifier" = none)
      (slash : '/' ∉ s.toList) (backslash : '\\' ∉ s.toList) : Identifies (.obj kvs) (.str s)

/-- A loaded task of an item: of the task's kind, with the instructions as text, with a rules file
exactly when there is one, and with the identifier `Identifies` gives the item. -/
structure LoadedTask (task text : String) (rules : Bool) (item t : Json) : Prop where
  kind : t.get? "task_type" = some (.str task)
  instructions : t.get? "instructions" = some (.str text)
  rulesFile : (t.get? "rules_file").isSome = rules
  identifier : ∃ ident, t.get? "task_identifier" = some ident ∧ Identifies item ident

/-- What an instructions file's value gives a task as text: its own member, else the default
one, when that member is a text or a list of texts, joined by line breaks. -/
inductive GivesInstructions (task : String) : Json → String → Prop
  | text {kvs : List (String × Json)} {s : String}
      (chosen : ((Json.obj kvs).get? (task ++ "_instructions") <|> (Json.obj kvs).get? "default_instructions") =
        some (.str s)) : GivesInstructions task (.obj kvs) s
  | lines {kvs : List (String × Json)} {xs : List String}
      (chosen : ((Json.obj kvs).get? (task ++ "_instructions") <|> (Json.obj kvs).get? "default_instructions") =
        some (.arr (xs.map .str))) : GivesInstructions task (.obj kvs) ("\n".intercalate xs)

/-! ### Identifiers -/

theorem withoutSeparatorsClean (s : String) :
    '/' ∉ (withoutSeparators s).toList ∧ '\\' ∉ (withoutSeparators s).toList := by
  simp only [withoutSeparators, String.toList_ofList, List.mem_map, not_exists, not_and]
  constructor <;> intro c _ <;> split <;> simp_all

theorem itemTaskIdentifies (task : String) (item : Json) :
    (isTaskItem item = true → ∃ data ident, itemTask? task item = some (data, ident) ∧ Identifies item ident) ∧
    (isTaskItem item = false → itemTask? task item = none) := by
  cases item with
  | str s => exact ⟨fun _ => ⟨_, _, rfl, .text s⟩, fun h => by cases h⟩
  | obj kvs =>
    refine ⟨fun _ => ?_, fun h => by cases h⟩
    cases named : (Json.obj kvs).get? "identifier" with
    | some v => exact ⟨.obj kvs, v, by simp [itemTask?, named], .member named⟩
    | none =>
      obtain ⟨slash, backslash⟩ := withoutSeparatorsClean
        (match kvs.head? with
          | some kv => kv.2.toText
          | none => task)
      refine ⟨.obj kvs, _, ?_, .cleaned named slash backslash⟩
      simp only [itemTask?, named]
      cases kvs.head? <;> rfl
  | null => exact ⟨fun h => (by cases h), fun _ => rfl⟩
  | bool b => exact ⟨fun h => (by cases h), fun _ => rfl⟩
  | int n => exact ⟨fun h => (by cases h), fun _ => rfl⟩
  | float f => exact ⟨fun h => (by cases h), fun _ => rfl⟩
  | arr xs => exact ⟨fun h => (by cases h), fun _ => rfl⟩

theorem taskEntryLoaded (task text : String) (rules : Option String) {item data ident : Json}
    (identifies : Identifies item ident) :
    LoadedTask task text rules.isSome item (taskEntry task (.str text) rules data ident) := by
  cases rules <;> exact ⟨by simp [taskEntry, Json.get?], by simp [taskEntry, Json.get?],
    by simp [taskEntry, Json.get?], ⟨ident, by simp [taskEntry, Json.get?], identifies⟩⟩

theorem loadedTasks (task text : String) (rules : Option String) (items : List Json) :
    List.Forall₂ (LoadedTask task text rules.isSome) (items.filter isTaskItem)
      (items.filterMap fun item => (itemTask? task item).map fun p => taskEntry task (.str text) rules p.1 p.2) := by
  induction items with
  | nil => exact .nil
  | cons item items ih =>
    obtain ⟨given, skipped⟩ := itemTaskIdentifies task item
    cases kind : isTaskItem item with
    | true =>
      obtain ⟨data, ident, found, identifies⟩ := given kind
      simpa only [List.filter_cons, kind, if_true, List.filterMap_cons, found, Option.map_some] using
        List.Forall₂.cons (taskEntryLoaded task text rules identifies) ih
    | false =>
      simpa only [List.filter_cons, kind, Bool.false_eq_true, if_false, List.filterMap_cons, skipped kind,
        Option.map_none] using ih

/-! ### The run -/

theorem isSomeIf (c : Bool) (x : String) : (if c then some x else none).isSome = c := by
  cases c <;> rfl

theorem scriptBindRun {α β : Type} {x : Script α} {f : α → Script β} {d d' : Desk} {a : α}
    (h : x d = .ok a d') : (x >>= f) d = f a d' := by
  show EStateM.bind x f d = _
  simp [EStateM.bind, h]

theorem itemTasksRun (task : String) (instructions : Json) (rules : Option String) (items : List Json)
    (d : Desk) : ∃ d', itemTasks task instructions rules items d =
      .ok (items.filterMap fun item => (itemTask? task item).map fun p => taskEntry task instructions rules p.1 p.2) d' := by
  induction items generalizing d with
  | nil => exact ⟨d, rfl⟩
  | cons item items ih =>
    rw [itemTasks]
    cases found : itemTask? task item with
    | none =>
      -- the item is skipped after its warning
      obtain ⟨d', run⟩ := ih { d with out := d.out ++ ("⚠️  Warning: Skipping invalid item in array (must be string or object): " ++ item.toText) ++ "\n" }
      refine ⟨d', ?_⟩
      simp only [List.filterMap_cons, found, Option.map_none]
      rw [scriptBindRun (sayRun _ d), run]
    | some p =>
      obtain ⟨d', run⟩ := ih d
      refine ⟨d', ?_⟩
      simp only [List.filterMap_cons, found, Option.map_some]
      rw [scriptBindRun run]
      rfl

theorem lineTextsRun (xs : List String) (i : Nat) (d : Desk) : lineTexts (xs.map .str) i d = .ok xs d := by
  induction xs generalizing i with
  | nil => rfl
  | cons x xs ih =>
    rw [List.map_cons, lineTexts, scriptBindRun (ih (i + 1))]
    rfl

theorem memberOfFound {kvs : List (String × Json)} {key : String} {v : Json}
    (found : (Json.obj kvs).get? key = some v) :
    Json.occursIn key (.obj kvs) = .ok true ∧ Json.index (.obj kvs) key = .ok v := by
  obtain ⟨kv, hit, rfl⟩ := Option.map_eq_some_iff.mp found
  have matched := List.find?_some hit
  refine ⟨?_, by simp [Json.index, hit]⟩
  simp only [Json.occursIn, Except.ok.injEq, List.any_eq_true]
  exact ⟨kv, List.mem_of_find?_eq_some hit, matched⟩

theorem absentOfMissing {kvs : List (String × Json)} {key : String} (missing : (Json.obj kvs).get? key = none) :
    Json.occursIn key (.obj kvs) = .ok false := by
  have none : kvs.find? (·.1 == key) = none := Option.map_eq_none_iff.mp missing
  simp only [Json.occursIn, Except.ok.injEq, List.any_eq_false]
  exact fun kv mem same => by simp at same; exact absurd same (by simpa using List.find?_eq_none.mp none kv mem)

theorem instructionsRun {task text : String} {data : Json} (gives : GivesInstructions task data text)
    (shown : String) (d : Desk) :
    ∃ v, instructionsMember task shown data d = .ok v d ∧ joinedInstructions v d = .ok (.str text) d := by
  -- the member chosen: the task's own when the object has it, else the default one
  have chosenRun : ∀ {kvs : List (String × Json)} {v : Json},
      ((Json.obj kvs).get? (task ++ "_instructions") <|> (Json.obj kvs).get? "default_instructions") = some v →
      instructionsMember task shown (.obj kvs) d = .ok v d := by
    intro kvs v chosen
    cases own : (Json.obj kvs).get? (task ++ "_instructions") with
    | some w =>
      simp only [own] at chosen
      cases chosen
      obtain ⟨occurs, indexed⟩ := memberOfFound own
      simp [instructionsMember, occurs, indexed, bind, EStateM.bind]
    | none =>
      simp only [own] at chosen
      obtain ⟨occurs, indexed⟩ := memberOfFound chosen
      simp [instructionsMember, absentOfMissing own, occurs, indexed, bind, EStateM.bind]
  cases gives with
  | text chosen => exact ⟨_, chosenRun chosen, rfl⟩
  | lines chosen =>
    refine ⟨_, chosenRun chosen, ?_⟩
    simp [joinedInstructions, joinLines, lineTextsRun, bind, EStateM.bind, pure, EStateM.pure]

theorem loadJsonRun {files : List (String × String)} {path text problem : String} {v : Json}
    (found : fileText files path = some text) (parsed : Json.parse text = .ok v) :
    loadJson path problem { given := files } = .ok v { given := files } := by
  simp [loadJson, readGiven, found, parsed, bind, EStateM.bind, pure, EStateM.pure]

theorem conventionTasksLoaded (task : String) (files : List (String × String)) {arrayText instrText text : String}
    {items : List Json} {data : Json}
    (array : fileText files (task ++ "_array.json") = some arrayText)
    (parsedArray : Json.parse arrayText = .ok (.arr items))
    (instr : fileText files (task ++ "_instructions.json") = some instrText)
    (parsedInstr : Json.parse instrText = .ok data) (gives : GivesInstructions task data text) :
    ∃ tasks d, loadTaskFromConvention task { given := files } =
        .ok (.obj [("database_name", .str "targetdbname"), ("tasks", .arr tasks)]) d ∧
      List.Forall₂ (LoadedTask task text (fileText files (task ++ "_rules.md")).isSome) (items.filter isTaskItem) tasks := by
  obtain ⟨d, run⟩ := itemTasksRun task (.str text)
    (if (fileText files (task ++ "_rules.md")).isSome then some (scratch ++ "/" ++ (task ++ "_rules.md")) else none)
    items { given := files }
  have loaded := loadedTasks task text
    (if (fileText files (task ++ "_rules.md")).isSome then some (scratch ++ "/" ++ (task ++ "_rules.md")) else none) items
  rw [isSomeIf] at loaded
  obtain ⟨v, chosen, joined⟩ := instructionsRun gives (scratch ++ "/" ++ (task ++ "_instructions.json")) { given := files }
  -- the files are there and read, the instructions found, and the items looped over; what is
  -- left is the closing report, which prints the rules line only when there is a rules file
  obtain ⟨d', ran⟩ : ∃ d', loadTaskFromConvention task { given := files } = .ok (.obj [("database_name", .str "targetdbname"),
      ("tasks", .arr (items.filterMap fun item => (itemTask? task item).map fun p => taskEntry task (.str text)
        (if (fileText files (task ++ "_rules.md")).isSome then some (scratch ++ "/" ++ (task ++ "_rules.md")) else none)
        p.1 p.2))]) d' := by
    simp [loadTaskFromConvention, bind, EStateM.bind, readGiven, array, instr, loadJsonRun array parsedArray,
      loadJsonRun instr parsedInstr, chosen, joined, run, pure]
    split <;> exact ⟨_, rfl⟩
  exact ⟨_, d', ran, loaded⟩

theorem threeItemsLoaded :
    let files := [("t_array.json", "[\"a/b\", \x7b\"path\": \"x/y\"\x7d, 3]"),
      ("t_instructions.json", "\x7b\"t_instructions\": [\"one\", \"two\"]\x7d")]
    let items := [Json.str "a/b", .obj [("path", .str "x/y")], .int 3]
    let data := Json.obj [("t_instructions", .arr [.str "one", .str "two"])]
    fileText files ("t" ++ "_array.json") = some "[\"a/b\", \x7b\"path\": \"x/y\"\x7d, 3]" ∧
    Json.parse "[\"a/b\", \x7b\"path\": \"x/y\"\x7d, 3]" = .ok (.arr items) ∧
    fileText files ("t" ++ "_instructions.json") = some "\x7b\"t_instructions\": [\"one\", \"two\"]\x7d" ∧
    Json.parse "\x7b\"t_instructions\": [\"one\", \"two\"]\x7d" = .ok data ∧
    GivesInstructions "t" data ("\n".intercalate ["one", "two"]) ∧
    ∃ tasks d, loadTaskFromConvention "t" { given := files } =
        .ok (.obj [("database_name", .str "targetdbname"), ("tasks", .arr tasks)]) d ∧
      List.Forall₂ (LoadedTask "t" ("\n".intercalate ["one", "two"]) (fileText files ("t" ++ "_rules.md")).isSome)
        (items.filter isTaskItem) tasks :=
  ⟨rfl, rfl, rfl, rfl, .lines rfl, conventionTasksLoaded "t" _ rfl rfl rfl rfl (.lines rfl)⟩

theorem slashedItemIdentifier :
    ∃ tasks d, loadTaskFromConvention "t" { given := [("t_array.json", "[\"a/b\"]"),
        ("t_instructions.json", "\x7b\"t_instructions\": \"go\"\x7d")] } =
        .ok (.obj [("database_name", .str "targetdbname"), ("tasks", .arr tasks)]) d ∧
      ∃ t ∈ tasks, ∃ ident, t.get? "task_identifier" = some (.str ident) ∧ '/' ∈ ident.toList :=
  ⟨[taskEntry "t" (.str "go") none (.obj [("identifier", .str "a/b"), ("name", .str "a/b")]) (.str "a/b")], _, rfl,
    _, List.mem_singleton_self _, "a/b", rfl, by decide⟩

end Portal.ConventionTasks
