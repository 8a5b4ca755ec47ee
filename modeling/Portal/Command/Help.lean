import Portal.Command.Arguments
import Portal.Text.Wrap
/-! The usage line and the help text of a command line's grammar, laid out for a terminal 78
columns wide. Usage lists the options, each in brackets unless required, then the
positional arguments; when it does not fit on one line, it continues under the first
argument. Help adds the description and one entry per argument, its help text starting in
column 24, or on the next line when the argument's own text leaves no room. -/
namespace Portal
namespace Command

def helpWidth : Nat := 78

def helpColumn : Nat := 24

def upperName (s : String) : String := s.toUpper

def metavarOf (a : Argument) (dflt : String) : String :=
  match a.metavar with
  | some m => m
  | none =>
    if !a.choices.isEmpty then "\x7b" ++ ",".intercalate (a.choices.map Json.toText) ++ "\x7d"
    else dflt

def formatValues (a : Argument) (m : String) : String :=
  match a.arity with
  | .one => m
  | .optional => "[" ++ m ++ "]"
  | .any => "[" ++ m ++ " ...]"
  | .atLeastOne => m ++ " [" ++ m ++ " ...]"
  | .none => ""
  | .subcommand => m ++ " ..."

def withSubcommands (g : Grammar) (a : Argument) : Argument :=
  if a.arity == .subcommand then { a with choices := g.subcommands.map fun s => .str s.name } else a

def usageCore (a : Argument) : String :=
  match a.flags with
  | f :: _ =>
    if a.arity == .none then f else f ++ " " ++ formatValues a (metavarOf a (upperName a.dest))
  | [] => formatValues a (metavarOf a a.dest)

def bracketed (a : Argument) (core : String) : String :=
  if a.isOptional && !a.required then "[" ++ core ++ "]" else core

def usageParts (args : List Argument) : List String :=
  let groups := args.foldl (fun (acc : List (Option Nat × List Argument)) a =>
    match acc.getLast?, a.group with
    | some (some g, members), some h =>
      if g == h then acc.dropLast ++ [(some g, members ++ [a])] else acc ++ [(some h, [a])]
    | _, grp => acc ++ [(grp, [a])]) []
  groups.map fun (grp, members) =>
    match grp, members with
    | some _, _ :: _ :: _ => "[" ++ " | ".intercalate (members.map usageCore) ++ "]"
    | _, _ => " ".intercalate (members.map fun a => bracketed a (usageCore a))

def wrapPieces (s : String) : List String :=
  let isBlank (c : Char) : Bool := c == ' ' || c == '\t' || c == '\n'
  -- the length of a group opened at the head and closed by a run of `close` before a blank
  let groupLength (cs : List Char) (close : Char) : Option Nat :=
    let n := cs.length
    (List.range n).find? (fun k =>
      k ≥ 1 && cs[k]? == some close &&
        (match (cs.drop k).dropWhile (· == close) with
          | [] => true
          | c :: _ => isBlank c)) |>.map fun k => k + ((cs.drop k).takeWhile (· == close)).length
  let rec go (cs : List Char) (fuel : Nat) : List String :=
    match fuel, cs with
    | 0, _ => []
    | _, [] => []
    | fuel + 1, c :: rest =>
      if isBlank c then go rest fuel else
      let group := match c with
        | '(' => groupLength cs ')'
        | '[' => groupLength cs ']'
        | _ => none
      let len := group.getD (cs.takeWhile (!isBlank ·)).length
      String.ofList (cs.take len) :: go (cs.drop len) fuel
  go s.toList s.length

def partLines (parts : List String) (indent : String) (prefixLength : Option Nat) : List String :=
  let start : Nat := match prefixLength with
    | some p => p - 1
    | none => indent.length - 1
  let (lines, line, _) := parts.foldl (fun (acc : List (List String) × List String × Nat) part =>
    let (lines, line, len) := acc
    if len + 1 + part.length > helpWidth && !line.isEmpty then
      (lines ++ [line], [part], indent.length - 1 + part.length + 1)
    else (lines, line ++ [part], len + part.length + 1)) ([], [], start)
  let all := if line.isEmpty then lines else lines ++ [line]
  let texts := all.map fun l => indent ++ " ".intercalate l
  match prefixLength, texts with
  | some _, first :: rest => String.ofList (first.toList.drop indent.length) :: rest
  | _, texts => texts

def usageText (g : Grammar) : String :=
  let args := g.arguments.map (withSubcommands g)
  let opts := wrapPieces (" ".intercalate (usageParts (args.filter Argument.isOptional)))
  let poss := wrapPieces (" ".intercalate (usageParts (args.filter (!·.isOptional))))
  let pref := "usage: "
  let whole := " ".intercalate ([g.prog] ++ opts ++ poss)
  if pref.length + whole.length ≤ helpWidth then pref ++ whole else
  let lines :=
    if 4 * (pref.length + g.prog.length) ≤ 3 * helpWidth then
      let indent := String.ofList (List.replicate (pref.length + g.prog.length + 1) ' ')
      if !opts.isEmpty then
        partLines ([g.prog] ++ opts) indent (some pref.length) ++ partLines poss indent none
      else if !poss.isEmpty then partLines ([g.prog] ++ poss) indent (some pref.length)
      else [g.prog]
    else
      let indent := String.ofList (List.replicate pref.length ' ')
      let together := partLines (opts ++ poss) indent none
      let body := if together.length > 1 then partLines opts indent none ++ partLines poss indent none
        else together
      [g.prog] ++ body
  pref ++ "\n".intercalate lines

def invocation (a : Argument) : String :=
  if a.isOptional then
    if a.arity == .none then ", ".intercalate a.flags
    else
      let vals := formatValues a (metavarOf a (upperName a.dest))
      ", ".intercalate (a.flags.map fun f => f ++ " " ++ vals)
  else metavarOf a a.dest

def subEntries (g : Grammar) (a : Argument) : List (String × String) :=
  if a.arity == .subcommand then g.subcommands.map fun s => (s.name, s.help) else []

def spaces (n : Nat) : String := String.ofList (List.replicate n ' ')

def entryText (column indent : Nat) (head help : String) : String :=
  let width := max (helpWidth - column) 11
  let room := column - indent - 2
  let lines := Text.wrap width help
  if help.isEmpty then spaces indent ++ head ++ "\n" else
  let (first, lead) := if head.length ≤ room then
      (spaces indent ++ head ++ spaces (room - head.length) ++ "  ", 0)
    else (spaces indent ++ head ++ "\n", column)
  match lines with
  | [] => first ++ "\n"
  | l :: rest => first ++ spaces lead ++ l ++ "\n" ++ String.join (rest.map fun r => spaces column ++ r ++ "\n")

def columnOf (g : Grammar) : Nat :=
  let args := g.arguments.map (withSubcommands g)
  let lengths := args.map fun a =>
    ((subEntries g a).map (·.1.length)).foldl max (invocation a).length + 2
  min (lengths.foldl max 0 + 2) helpColumn

def sectionText (g : Grammar) (column : Nat) (args : List Argument) : String :=
  String.join (args.map fun a =>
    entryText column 2 (invocation a) a.help ++
      String.join ((subEntries g a).map fun (n, h) => entryText column 4 n h))

def helpText (g : Grammar) : String :=
  let args := g.arguments.map (withSubcommands g)
  let column := columnOf g
  let poss := args.filter (!·.isOptional)
  let opts := args.filter Argument.isOptional
  let desc := if g.description.isEmpty then [] else ["\n".intercalate (Text.wrap helpWidth g.description)]
  let sections :=
    (if poss.isEmpty then [] else ["positional arguments:\n" ++ sectionText g column poss]) ++
    (if opts.isEmpty then [] else ["options:\n" ++ sectionText g column opts])
  let blocks := [usageText g] ++ desc ++ sections.map fun s => (s.dropEndWhile (· == '\n')).toString
  "\n\n".intercalate blocks ++ "\n"

def errorText (g : Grammar) (message : String) : String :=
  usageText g ++ "\n" ++ g.prog ++ ": error: " ++ message ++ "\n"

end Command
end Portal
