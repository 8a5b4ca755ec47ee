import Portal.Json.Literal
import Portal.Json.Read
import Portal.Text.Numeral
/-! Command-line arguments. A command declares its arguments: options, named by one or more
flags, and positional arguments, named by their place; a command may also take a
subcommand, which reads the arguments that follow it. Reading a command line gives the
value of every argument, given or defaulted, or the message of the first thing wrong with
the line, in the words command users know: an option missing its value, a value that is not
a number or not one of the choices, an argument left out, or words nothing asked for. -/
namespace Portal
namespace Command

inductive Reader where
  | text
  | int
  | float
  deriving DecidableEq, Repr, Inhabited

inductive Act where
  | store
  | storeConst
  | append
  | help
  | version
  deriving DecidableEq, Repr, Inhabited

inductive Arity where
  | one
  | optional
  | any
  | atLeastOne
  | none
  | subcommand
  deriving DecidableEq, Repr, Inhabited

structure Argument where
  flags : List String := []
  dest : String
  act : Act := .store
  arity : Arity := .one
  reader : Reader := .text
  choices : List Json := []
  dflt : Json := .null
  const : Json := .null
  metavar : Option String := none
  help : String := ""
  required : Bool := false
  group : Option Nat := none
  deriving Inhabited

namespace Argument

def isOptional (a : Argument) : Bool := !a.flags.isEmpty

def flag (flags : List String) (dest help : String) : Argument :=
  { flags, dest, act := .storeConst, arity := .none, dflt := .bool false, const := .bool true, help }

def unflag (flags : List String) (dest help : String) : Argument :=
  { flags, dest, act := .storeConst, arity := .none, dflt := .bool true, const := .bool false, help }

def option (flags : List String) (dest help : String) (reader : Reader := .text)
    (dflt : Json := .null) (choices : List Json := []) : Argument :=
  { flags, dest, reader, dflt, choices, help }

def positional (dest help : String) (arity : Arity := .one) : Argument :=
  { dest, arity, help, required := arity == .one || arity == .atLeastOne || arity == .subcommand }

def name (a : Argument) : String :=
  if a.isOptional then "/".intercalate a.flags
  else match a.metavar with
    | some m => m
    | none => a.dest

def choiceLiteral (j : Json) : String := j.literal

end Argument

structure Subcommand where
  name : String
  help : String := ""
  arguments : List Argument := []
  deriving Inhabited

structure Grammar where
  prog : String
  description : String := ""
  arguments : List Argument := []
  subcommands : List Subcommand := []
  subcommandDest : String := "command"
  subcommandHelp : String := ""
  deriving Inhabited

inductive Stop where
  | error (message : String) (grammar : Grammar)
  | help (grammar : Grammar)
  | version
  deriving Inhabited

abbrev Values := List (String × Json)

def Values.put (vs : Values) (k : String) (v : Json) : Values :=
  if vs.any (·.1 == k) then vs.map fun p => if p.1 == k then (k, v) else p else vs ++ [(k, v)]

def Values.find (vs : Values) (k : String) : Json := ((vs.find? (·.1 == k)).map (·.2)).getD .null

def Values.intOr (vs : Values) (k : String) (default : Int) : Int :=
  match vs.find k with
  | .int n => n
  | _ => default

def readInt (s : String) : Option Int := Text.readInteger? s

def readFloat (s : String) : Option Json :=
  let t := s.trimAscii.toString
  match Json.parse t with
  | .ok (.int n) => some (.float (Sci.ofInt n))
  | .ok (.float f) => some (.float f)
  | _ => none

def readerName : Reader → String
  | .text => "str"
  | .int => "int"
  | .float => "float"

def readValue (a : Argument) (s : String) : Except String Json := do
  let v ← match a.reader with
    | .text => pure (Json.str s)
    | .int => match readInt s with
      | some n => pure (Json.int n)
      | none => throw ("argument " ++ a.name ++ ": invalid int value: " ++ Text.quoteLiteral s)
    | .float => match readFloat s with
      | some f => pure f
      | none => throw ("argument " ++ a.name ++ ": invalid float value: " ++ Text.quoteLiteral s)
  if !a.choices.isEmpty && !a.choices.contains v then
    throw ("argument " ++ a.name ++ ": invalid choice: " ++ v.literal ++ " (choose from " ++
      ", ".intercalate (a.choices.map Argument.choiceLiteral) ++ ")")
  return v

inductive Mark where
  | opt
  | val
  | dashes
  deriving DecidableEq, Repr, Inhabited

inductive Piece where
  | dashes
  | one
  | maybe
  | values
  | rest
  deriving DecidableEq, Repr

def pattern (a : Argument) : List Piece :=
  let core := match a.arity with
    | .one => [Piece.one]
    | .optional => [.maybe]
    | .any => [.values]
    | .atLeastOne => [.one, .values]
    | .none => []
    | .subcommand => [.one, .rest]
  [.dashes] ++ core ++ [.dashes]

def optionCount (a : Argument) (marks : List Mark) : Option Nat :=
  let vals := (marks.takeWhile (· == .val)).length
  match a.arity with
  | .one => if vals ≥ 1 then some 1 else none
  | .optional => some (min vals 1)
  | .any => some vals
  | .atLeastOne => if vals ≥ 1 then some vals else none
  | .none => some 0
  | .subcommand => if vals ≥ 1 then some marks.length else none

def pieceLengths (p : Piece) (marks : List Mark) : List Nat :=
  match p with
  | .dashes => (List.range ((marks.takeWhile (· == .dashes)).length + 1)).reverse
  | .one => if marks.head? == some .val then [1] else []
  | .maybe => if marks.head? == some .val then [1, 0] else [0]
  | .values => (List.range ((marks.takeWhile (· != .opt)).length + 1)).reverse
  | .rest => [marks.length]

def matchPieces : List Piece → List Mark → Option (List Nat)
  | [], _ => some []
  | p :: ps, marks =>
    (pieceLengths p marks).findSome? fun n =>
      (matchPieces ps (marks.drop n)).map (n :: ·)

def sumNat (ns : List Nat) : Nat := ns.foldl (· + ·) 0

def matchPositionals (args : List Argument) (marks : List Mark) : List Nat :=
  let tries := (List.range (args.length + 1)).reverse
  let found := tries.findSome? fun k =>
    let group := (args.take k).map pattern
    (matchPieces group.flatten marks).map fun lens =>
      let sizes := group.map List.length
      let (counts, _) := sizes.foldl (fun (acc : List Nat × List Nat) n =>
        (acc.1 ++ [sumNat (acc.2.take n)], acc.2.drop n)) ([], lens)
      counts
  found.getD []

structure OptionWord where
  arg : Option Argument
  flag : String
  attached : Option String
  deriving Inhabited

def isNegativeNumber (s : String) : Bool :=
  match s.toList with
  | '-' :: rest =>
    !rest.isEmpty && (rest.all Char.isDigit ||
      (match rest.span (· != '.') with
       | (whole, '.' :: frac) => whole.all Char.isDigit && !frac.isEmpty && frac.all Char.isDigit
       | _ => false))
  | _ => false

def readOption (args : List Argument) (w : String) : Except String (Option OptionWord) := do
  let flagged := args.flatMap fun a => a.flags.map fun f => (f, a)
  if !w.startsWith "-" || w.isEmpty then return none
  if let some (_, a) := flagged.find? (·.1 == w) then return some ⟨some a, w, none⟩
  if w.length == 1 then return none
  let (head, attached) := match w.splitOn "=" with
    | h :: rest@(_ :: _) => (h, some ("=".intercalate rest))
    | _ => (w, none)
  if attached.isSome then
    if let some (_, a) := flagged.find? (·.1 == head) then return some ⟨some a, head, attached⟩
  let candidates : List (String × Argument × Option String) :=
    if w.startsWith "--" then
      (flagged.filter fun (f, _) => f.startsWith head).map fun (f, a) => (f, a, attached)
    else if w.startsWith "-" && !w.startsWith "--" then
      let short := String.ofList (w.toList.take 2)
      let rest := String.ofList (w.toList.drop 2)
      flagged.filterMap fun (f, a) =>
        if f == short then some (f, a, some rest)
        else if f.startsWith w then some (f, a, none) else none
    else []
  match candidates with
  | [(f, a, att)] => return some ⟨some a, f, att⟩
  | _ :: _ :: _ =>
    throw ("ambiguous option: " ++ head ++ " could match " ++
      ", ".intercalate (candidates.map (·.1)))
  | [] =>
    if isNegativeNumber w then return none
    if w.contains ' ' then return none
    return some ⟨none, w, none⟩

structure Reading where
  values : Values
  seen : List String := []
  chosen : List (Nat × String) := []
  extras : List String := []
  waiting : List Argument
  deriving Inhabited

def valueWords (a : Argument) (ws : List String) : List String :=
  if a.arity == .subcommand then ws
  else match ws.findIdx? (· == "--") with
    | some i => ws.eraseIdx i
    | none => ws

structure Line where
  grammar : Grammar
  words : List String
  marks : List Mark
  options : List (Nat × OptionWord)
  deriving Inhabited

namespace Line

def optionAt (l : Line) (i : Nat) : Option OptionWord := (l.options.find? (·.1 == i)).map (·.2)

def slice (l : Line) (start count : Nat) : List String := (l.words.drop start).take count

def fail {α : Type} (l : Line) (message : String) : Except Stop α := .error (.error message l.grammar)

end Line

abbrev SubReader := String → List String → Except Stop (Values × List String)

def record (l : Line) (r : Reading) (a : Argument) (v : Json) (byDefault : Bool) : Except Stop Reading := do
  let r := { r with values := r.values.put a.dest v }
  match a.group with
  | some gid =>
    if byDefault then return r
    match r.chosen.find? (fun (g, n) => g == gid && n != a.name) with
    | some (_, other) => l.fail ("argument " ++ a.name ++ ": not allowed with argument " ++ other)
    | none => return { r with chosen := r.chosen ++ [(gid, a.name)] }
  | none => return r

def takeAction (sub : SubReader) (l : Line) (r : Reading) (a : Argument) (ws : List String) :
    Except Stop Reading := do
  let r := { r with seen := r.seen ++ [a.name] }
  let read (w : String) : Except Stop Json := match readValue a w with
    | .ok v => pure v
    | .error m => l.fail m
  match a.act with
  | .help => throw (.help l.grammar)
  | .version => throw .version
  | .storeConst => record l r a a.const false
  | .append =>
    let v ← read ((ws.head?).getD "")
    let old := match r.values.find a.dest with
      | .arr xs => xs
      | _ => []
    record l r a (.arr (old ++ [v])) false
  | .store =>
    match a.arity with
    | .subcommand =>
      let name := (ws.head?).getD ""
      let names := l.grammar.subcommands.map (·.name)
      if !names.contains name then
        l.fail ("argument " ++ a.name ++ ": invalid choice: " ++ Text.quoteLiteral name ++
          " (choose from " ++ ", ".intercalate (names.map Text.quoteLiteral) ++ ")")
      else
        let r := { r with values := r.values.put a.dest (.str name) }
        let (vals, extras) ← sub name ws.tail
        return { r with values := vals.foldl (fun vs (k, v) => vs.put k v) r.values,
                        extras := r.extras ++ extras }
    | arity =>
      let ws := valueWords a ws
      if ws.isEmpty && arity == .optional then
        record l r a (if a.isOptional then a.const else a.dflt) true
      else if ws.isEmpty && arity == .any && !a.isOptional then
        record l r a (if a.dflt == .null then .arr [] else a.dflt) (a.dflt != .null)
      else if ws.length == 1 && (arity == .one || arity == .optional) then
        record l r a (← read ((ws.head?).getD "")) false
      else record l r a (.arr (← ws.mapM read)) false

def consumePositionals (sub : SubReader) (l : Line) (r : Reading) (start : Nat) :
    Except Stop (Reading × Nat) := do
  let counts := matchPositionals r.waiting (l.marks.drop start)
  let (r', stop) ← (r.waiting.zip counts).foldlM (fun (acc : Reading × Nat) (a, c) => do
    let r ← takeAction sub l acc.1 a (l.slice acc.2 c)
    pure (r, acc.2 + c)) (r, start)
  return ({ r' with waiting := r.waiting.drop counts.length }, stop)

def expectedMessage : Arity → String
  | .optional => "expected at most one argument"
  | .atLeastOne => "expected at least one argument"
  | _ => "expected one argument"

def takeJoined (sub : SubReader) (l : Line) (r : Reading) (fuel : Nat) (a : Argument)
    (flag joined : String) (start : Nat) : Except Stop (Reading × Nat) :=
  match fuel with
  | 0 => pure (r, start + 1)
  | fuel + 1 => do
    let takesValue := a.arity != .none
    if !takesValue && (flag.toList.getD 1 '-') != '-' && joined != "" then
      let r ← takeAction sub l r a []
      let next := "-" ++ String.ofList (joined.toList.take 1)
      let rest := String.ofList (joined.toList.drop 1)
      match l.grammar.arguments.find? (·.flags.contains next) with
      | some b =>
        if rest.isEmpty then
          match optionCount b (l.marks.drop (start + 1)) with
          | some c =>
            let r ← takeAction sub l r b (l.slice (start + 1) c)
            pure (r, start + 1 + c)
          | none => l.fail ("argument " ++ b.name ++ ": " ++ expectedMessage b.arity)
        else takeJoined sub l r fuel b next rest start
      | none => l.fail ("argument " ++ a.name ++ ": ignored explicit argument " ++ Text.quoteLiteral joined)
    else if takesValue then
      let r ← takeAction sub l r a [joined]
      pure (r, start + 1)
    else l.fail ("argument " ++ a.name ++ ": ignored explicit argument " ++ Text.quoteLiteral joined)

def consumeOptional (sub : SubReader) (l : Line) (r : Reading) (start : Nat) :
    Except Stop (Reading × Nat) :=
  match l.optionAt start with
  | none => pure (r, start + 1)
  | some ow =>
    match ow.arg with
    | none => pure ({ r with extras := r.extras ++ l.slice start 1 }, start + 1)
    | some a =>
      match ow.attached with
      | some joined => takeJoined sub l r (joined.length + 1) a ow.flag joined start
      | none =>
        match optionCount a (l.marks.drop (start + 1)) with
        | some c => do
          let r ← takeAction sub l r a (l.slice (start + 1) c)
          pure (r, start + 1 + c)
        | none => l.fail ("argument " ++ a.name ++ ": " ++ expectedMessage a.arity)

def readLoop (sub : SubReader) (l : Line) (fuel : Nat) (r : Reading) (start : Nat) :
    Except Stop (Reading × Nat) :=
  match fuel with
  | 0 => pure (r, start)
  | fuel + 1 =>
    match ((l.options.map (·.1)).filter (· ≥ start)).min? with
    | none => pure (r, start)
    | some next => do
      let (r, start, advanced) ← if start != next then do
          let (r', stop) ← consumePositionals sub l r start
          pure (r', stop, decide (stop > start))
        else pure (r, start, false)
      if advanced then readLoop sub l fuel r start else
      let (r, start) := if (l.optionAt start).isNone then
          ({ r with extras := r.extras ++ l.slice start (next - start) }, next)
        else (r, start)
      let (r, start) ← consumeOptional sub l r start
      readLoop sub l fuel r start

def markWords (g : Grammar) (words : List String) : Except Stop (List Mark × List (Nat × OptionWord)) := do
  let step (acc : List Mark × List (Nat × OptionWord) × Bool) (iw : Nat × String) :
      Except Stop (List Mark × List (Nat × OptionWord) × Bool) := do
    let (marks, opts, ended) := acc
    let (i, w) := iw
    if ended then return (marks ++ [.val], opts, true)
    if w == "--" then return (marks ++ [.dashes], opts, true)
    match readOption g.arguments w with
    | .error m => throw (.error m g)
    | .ok none => return (marks ++ [.val], opts, false)
    | .ok (some ow) => return (marks ++ [.opt], opts ++ [(i, ow)], false)
  let (marks, opts, _) ← ((List.range words.length).zip words).foldlM step ([], [], false)
  return (marks, opts)

def defaults (g : Grammar) : Values :=
  g.arguments.foldl (fun vs a =>
    if a.act == .help || a.act == .version then vs else vs.put a.dest a.dflt) []

def readKnownWith (sub : SubReader) (g : Grammar) (words : List String) :
    Except Stop (Values × List String) := do
  let (marks, options) ← markWords g words
  let l : Line := { grammar := g, words, marks, options }
  let r : Reading := { values := defaults g, waiting := g.arguments.filter (!·.isOptional) }
  let (r, start) ← readLoop sub l (words.length + 1) r 0
  let (r, stop) ← consumePositionals sub l r start
  let r := { r with extras := r.extras ++ words.drop stop }
  let missing := (g.arguments.filter fun a => a.required && !r.seen.contains a.name).map (·.name)
  if !missing.isEmpty then
    l.fail ("the following arguments are required: " ++ ", ".intercalate missing)
  return (r.values, r.extras)

def helpArgument : Argument :=
  { flags := ["-h", "--help"], dest := "help", act := .help, arity := .none,
    help := "show this help message and exit" }

def Grammar.sub (g : Grammar) (name : String) : Grammar :=
  { prog := g.prog ++ " " ++ name,
    arguments := helpArgument :: ((g.subcommands.find? (·.name == name)).map (·.arguments)).getD [] }

def Grammar.readKnown (g : Grammar) (words : List String) : Except Stop (Values × List String) :=
  readKnownWith (fun name rest => readKnownWith (fun _ _ => pure ([], [])) (g.sub name) rest) g words

def Grammar.read (g : Grammar) (words : List String) : Except Stop Values := do
  let (vs, extras) ← g.readKnown words
  if !extras.isEmpty then throw (.error ("unrecognized arguments: " ++ " ".intercalate extras) g)
  return vs

end Command
end Portal
