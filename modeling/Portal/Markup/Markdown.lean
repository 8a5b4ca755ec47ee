import Portal.Markup.Layout
import Portal.Text.Numeral
/-! Turning HTML into Markdown. The tokens of a page drive a writer that tracks where it is:
inside how many quotations and lists, a preformatted block, a link whose text has not
started yet, emphasis that has just opened. Headings become `#` lines, paragraphs and
blocks are separated by blank lines, `<br>` ends a line with two spaces, emphasis is
`_`, strong text `**`, struck text `~~` and code a backquote; lists are indented two
spaces a level, with `*` or a number; table cells are separated by `|`, the first row
underlined with `---`. Links are written inline, `[text](address)`; a link whose text is
its own absolute address is written `<address>`, and links within the page (`#...`) keep
only their text. Scripts, styles and the head are left out.

Text is escaped where Markdown would read it as markup: a backslash before a character
that could be escaped, and a number with a dot, a plus or a dash at the start of a line.
Runs of blanks become one space. The result is laid out in lines of 78 columns. -/
namespace Portal
namespace Markup

def escapable : List Char := "\\`*_\x7b\x7d[]()#+-.!".toList

def escapeBackslashes : List Char → List Char
  | [] => []
  | '\\' :: rest => (if rest.head?.any escapable.contains then ['\\', '\\'] else ['\\']) ++ escapeBackslashes rest
  | c :: rest => c :: escapeBackslashes rest

def escapeAtLineStarts (find : List Char → Option Nat) : Nat → Bool → List Char → List Char
  | 0, _, cs => cs
  | _ + 1, _, [] => []
  | fuel + 1, atStart, c :: rest =>
    match if atStart then find (c :: rest) else none with
    | some k => (c :: rest).take k ++ '\\' :: ((c :: rest).drop k).take 1 ++
        escapeAtLineStarts find fuel false ((c :: rest).drop (k + 1))
    | none => c :: escapeAtLineStarts find fuel (c == '\n') rest

def markAfterBlanks (mark : List Char → Option Nat) (follows : Char → Bool) (cs : List Char) : Option Nat :=
  let lead := (cs.takeWhile isBlank).length
  match mark (cs.drop lead) with
  | some k => if ((cs.drop (lead + k + 1)).head?.any follows) then some (lead + k) else none
  | none => none

def numberDot (cs : List Char) : Option Nat :=
  let digits := (cs.takeWhile Char.isDigit).length
  if digits > 0 && cs.getD digits ' ' == '.' then some digits else none

def markChar (c : Char) (cs : List Char) : Option Nat := if cs.head? == some c then some 0 else none

def escapeSection (s : String) : String :=
  let cs := escapeBackslashes s.toList
  let cs := escapeAtLineStarts (markAfterBlanks numberDot isBlank) (cs.length + 1) true cs
  let cs := escapeAtLineStarts (markAfterBlanks (markChar '+') isBlank) (cs.length + 1) true cs
  let cs := escapeAtLineStarts (markAfterBlanks (markChar '-') (fun c => isBlank c || c == '-')) (cs.length + 1) true cs
  String.ofList cs

def escapeLinkText (s : String) : String :=
  String.ofList (s.toList.flatMap fun c =>
    if c == '\\' || c == '[' || c == ']' || c == '(' || c == ')' then ['\\', c] else [c])

def collapseBlanks (s : String) : String :=
  String.ofList ((s.toList.foldl (fun (acc : List Char × Bool) c =>
    if isBlank c then (if acc.2 then acc else (' ' :: acc.1, true)) else (c :: acc.1, false)) ([], false)).1.reverse)

def stripBlanks (s : String) : String :=
  String.ofList (((s.toList.dropWhile isBlank).reverse.dropWhile isBlank).reverse)

def isAbsoluteAddress (s : String) : Bool :=
  let scheme := s.toList.takeWhile fun c => isAsciiLetter c || c == '+'
  !scheme.isEmpty && (s.toList.drop scheme.length).take 3 == [':', '/', '/']

def headingLevel (tag : String) : Nat :=
  match tag.toList with
  | ['h', d] => if '1' ≤ d && d ≤ '9' then d.toNat - 48 else 0
  | _ => 0

def attribute? (attrs : List (String × Option String)) (name : String) : Option (Option String) :=
  (attrs.reverse.find? (·.1 == name)).map (·.2)

def spaceMark : String := "&nbsp_place_holder;"

def plainEntities : List (String × String) :=
  [("rsquo", "'"), ("lsquo", "'"), ("rdquo", "\""), ("ldquo", "\""), ("copy", "(C)"), ("mdash", "--"),
    ("nbsp", spaceMark), ("rarr", "->"), ("larr", "<-"), ("middot", "*"), ("ndash", "-"), ("oelig", "oe"),
    ("aelig", "ae"), ("agrave", "a"), ("aacute", "a"), ("acirc", "a"), ("atilde", "a"), ("auml", "a"),
    ("aring", "a"), ("egrave", "e"), ("eacute", "e"), ("ecirc", "e"), ("euml", "e"), ("igrave", "i"),
    ("iacute", "i"), ("icirc", "i"), ("iuml", "i"), ("ograve", "o"), ("oacute", "o"), ("ocirc", "o"),
    ("otilde", "o"), ("ouml", "o"), ("ugrave", "u"), ("uacute", "u"), ("ucirc", "u"), ("uuml", "u"),
    ("lrm", ""), ("rlm", "")]

def plainNumbers : List (Nat × String) :=
  [(8217, "'"), (8216, "'"), (8221, "\""), (8220, "\""), (169, "(C)"), (8212, "--"), (8594, "->"),
    (8592, "<-"), (183, "*"), (8211, "-"), (339, "oe"), (230, "ae"), (224, "a"), (225, "a"), (226, "a"),
    (227, "a"), (228, "a"), (229, "a"), (232, "e"), (233, "e"), (234, "e"), (235, "e"), (236, "i"),
    (237, "i"), (238, "i"), (239, "i"), (242, "o"), (243, "o"), (244, "o"), (245, "o"), (246, "o"),
    (249, "u"), (250, "u"), (251, "u"), (252, "u"), (8206, ""), (8207, "")]

def namedText (name : String) : String :=
  match plainEntities.find? (·.1 == name) with
  | some (_, t) => t
  | none => (reference? name).getD ("&" ++ name ++ ";")

def numericText (digits : String) : String :=
  let (hex, ds) := match digits.toList with
    | c :: rest => if c == 'x' || c == 'X' then (true, rest) else (false, c :: rest)
    | [] => (false, [])
  let n := digitsValue hex ds
  match plainNumbers.find? (·.1 == n) with
  | some (_, t) => t
  | none => if n.isValidChar then (Char.ofNat n).toString else ""

inductive Force where
  | no
  | yes
  | finish
  deriving BEq, Inhabited

structure ListFrame where
  tag : String
  number : Int
  deriving Inhabited

structure Writer where
  pieces : List String := []
  lastWasNewline : Bool := false
  quiet : Int := 0
  breaks : Nat := 0
  breakTail : String := ""
  start : Bool := true
  space : Bool := false
  links : List (Option (List (String × Option String))) := []
  pendingLink : Option String := none
  emptyLink : Bool := false
  lists : List ListFrame := []
  lastWasList : Bool := false
  quoteDepth : Int := 0
  pre : Bool := false
  startPre : Bool := false
  code : Bool := false
  inQuote : Bool := false
  inHeader : Bool := false
  abbrTitle : Option String := none
  abbrText : Option String := none
  abbrs : List (String × String) := []
  stressed : Bool := false
  afterStress : Bool := false
  lastText : String := ""
  currentTag : String := ""
  splitCell : Bool := false
  cells : Nat := 0
  tableStart : Bool := false
  deriving Inhabited

namespace Writer

def emit (w : Writer) (s : String) : Writer :=
  { w with pieces := s :: w.pieces, lastWasNewline := if s.isEmpty then w.lastWasNewline else s.endsWith "\n" }

def paragraph (w : Writer) : Writer := { w with breaks := 2 }

def lineBreak (w : Writer) : Writer := if w.breaks == 0 then { w with breaks := 1 } else w

def softBreak (w : Writer) : Writer := { w.lineBreak with breakTail := "  " }

def put (w : Writer) (data : String) (plain : Bool := false) (force : Force := .no) : Writer :=
  let w := match w.abbrText with
    | some t => { w with abbrText := some (t ++ data) }
    | none => w
  if w.quiet != 0 then w else
  let (w, data) :=
    if plain && !w.pre then
      let data := collapseBlanks data
      if data.startsWith " " then ({ w with space := true }, String.ofList (data.toList.drop 1)) else (w, data)
    else (w, data)
  if data.isEmpty && force == .no then w else
  let data := if w.startPre && !(data.startsWith "\n" || data.startsWith "\r\n") then "\n" ++ data else data
  let bq := String.ofList (List.replicate w.quoteDepth.toNat '>')
  let bq := if !(force != .no && data.startsWith ">") && w.quoteDepth != 0 then bq ++ " " else bq
  let (bq, data) :=
    if w.pre then
      let bq := bq ++ (if w.lists.isEmpty then "    " else "") ++ String.join (List.replicate w.lists.length "    ")
      (bq, data.replace "\n" ("\n" ++ bq))
    else (bq, data)
  let (w, data) :=
    if w.startPre then ({ w with startPre := false }, if w.lists.isEmpty then data else String.ofList (data.toList.dropWhile (· == '\n')))
    else (w, data)
  let w := if w.start then { w with space := false, breaks := 0, start := false } else w
  let w := if force == .finish then { w.emit "\n" with breaks := 0, space := false } else w
  let w := if w.breaks > 0 then
      { w.emit (String.join (List.replicate w.breaks (w.breakTail ++ "\n" ++ bq))) with space := false, breakTail := "" }
    else w
  let w := if w.space then { (if w.lastWasNewline then w else w.emit " ") with space := false } else w
  let w := if force == .finish then w.abbrs.foldl (fun w (a, d) => w.emit ("  *[" ++ a ++ "]: " ++ d ++ "\n")) w else w
  { w with breaks := 0 }.emit data

def text (w : Writer) (data : String) (fromReference : Bool) : Writer :=
  if data.isEmpty then w else
  let (w, data) :=
    if w.stressed then ({ w with stressed := false, afterStress := true }, stripBlanks data)
    else if w.afterStress then
      let c := data.front
      let spaced := !(isBlank c || c == '.' || c == '!' || c == '?') && headingLevel w.currentTag == 0 &&
        ! ["a", "code", "pre"].contains w.currentTag
      ({ w with afterStress := false }, if spaced then " " ++ data else data)
    else (w, data)
  let plainText (w : Writer) : Writer :=
    let data := if !w.code && !w.pre && !fromReference then escapeSection data else data
    { w with lastText := data }.put data true
  match w.pendingLink with
  | some href =>
    if href == data && isAbsoluteAddress href then { w.put ("<" ++ data ++ ">") with emptyLink := false }
    else plainText { w.put "[" with pendingLink := none, emptyLink := false }
  | none => plainText w

def textBefore (w : Writer) : Bool := !w.lastText.isEmpty && !isBlank w.lastText.back

def stress (w : Writer) (mark : String) (start : Bool) : Writer :=
  let w := w.put (if start && w.textBefore then " " ++ mark else mark)
  if start then { w with stressed := true } else w

def link (w : Writer) (attrs : List (String × Option String)) (start : Bool) : Writer :=
  if start then
    match attribute? attrs "href" with
    | some (some href) =>
      if href.startsWith "#" then { w with links := none :: w.links }
      else { w with links := some attrs :: w.links, pendingLink := some href, emptyLink := true }
    | _ => { w with links := none :: w.links }
  else
    match w.links with
    | [] => w
    | a :: rest =>
      let w := { w with links := rest }
      if w.pendingLink.any (!·.isEmpty) && !w.emptyLink then { w with pendingLink := none }
      else match a with
        | some attrs =>
          let w := if w.emptyLink then { w.put "[" with emptyLink := false, pendingLink := none } else w
          let href := ((attribute? attrs "href").getD none).getD ""
          let title := escapeLinkText (((attribute? attrs "title").getD none).getD "")
          let title := if (stripBlanks title).isEmpty then "" else " \"" ++ title ++ "\""
          w.put ("](" ++ escapeLinkText href ++ title ++ ")")
        | none => w

def image (w : Writer) (attrs : List (String × Option String)) : Writer :=
  match attribute? attrs "src" with
  | none => w
  | some src =>
    let alt := escapeLinkText (((attribute? attrs "alt").getD none).getD "")
    let w := if w.pendingLink.isSome then { w.put "[" with pendingLink := none, emptyLink := false } else w
    let w := w.put ("![" ++ escapeLinkText alt ++ "]")
    w.put ("(" ++ escapeLinkText (src.getD "") ++ ")")

def list (w : Writer) (tag : String) (attrs : List (String × Option String)) (start : Bool) : Writer :=
  let w := if w.lists.isEmpty && !w.lastWasList then w.paragraph else w
  let w :=
    if start then
      let first := match attribute? attrs "start" with
        | some (some v) => ((Text.readInteger? v).map (· - 1)).getD 0
        | _ => 0
      { w with lists := ⟨tag, first⟩ :: w.lists }
    else match w.lists with
      | [] => w
      | _ :: rest =>
        let w := { w with lists := rest }
        if rest.isEmpty then w.put "\n" else w
  { w with lastWasList := true }

def item (w : Writer) (start : Bool) : Writer :=
  let w := w.lineBreak
  if !start then w else
  let frame := w.lists.headD ⟨"ul", 0⟩
  let w := w.put (String.join (List.replicate w.lists.length "  "))
  let w :=
    if frame.tag == "ul" then w.put "* "
    else if frame.tag == "ol" then
      let n := frame.number + 1
      let lists := match w.lists with
        | f :: rest => { f with number := n } :: rest
        | [] => []
      { w with lists }.put (toString n ++ ". ")
    else w
  { w with start := true }

def table (w : Writer) (tag : String) (start : Bool) : Writer :=
  let w := if tag == "table" && start then { w with tableStart := true } else w
  let w := if (tag == "td" || tag == "th") && start then
      { (if w.splitCell then w.put "| " else w) with splitCell := true } else w
  let w := if tag == "tr" && start then { w with cells := 0 } else w
  let w := if tag == "tr" && !start then { w with splitCell := false }.softBreak else w
  let w := if tag == "tr" && !start && w.tableStart then
      { (w.put ("|".intercalate (List.replicate w.cells "---"))).softBreak with tableStart := false } else w
  if (tag == "td" || tag == "th") && start then { w with cells := w.cells + 1 } else w

def block (w : Writer) (tag : String) (attrs : List (String × Option String)) (start : Bool) : Writer :=
  let w := if tag == "p" || tag == "div" then (if !w.links.isEmpty && tag == "div" then w else w.paragraph) else w
  let w := if tag == "br" && start then w.put (if w.quoteDepth > 0 then "  \n> " else "  \n") else w
  let w := if tag == "hr" && start then (w.paragraph.put "* * *").paragraph else w
  let w := if tag == "head" || tag == "style" || tag == "script" then
      { w with quiet := if start then w.quiet + 1 else w.quiet - 1 } else w
  let w := if tag == "body" then { w with quiet := 0 } else w
  let w := if tag == "blockquote" then
      if start then { w.paragraph.put "> " false .yes with start := true, quoteDepth := w.quoteDepth + 1 }
      else { w with quoteDepth := w.quoteDepth - 1 }.paragraph
    else w
  let w := if tag == "em" || tag == "i" || tag == "u" then w.stress "_" start else w
  let w := if tag == "strong" || tag == "b" then w.stress "**" start else w
  let w := if tag == "del" || tag == "strike" || tag == "s" then w.stress "~~" start else w
  let w := if (tag == "kbd" || tag == "code" || tag == "tt") && !w.pre then { w.put "`" with code := !w.code } else w
  let w := if tag == "abbr" then
      if start then { w with abbrTitle := (attribute? attrs "title").getD none, abbrText := some "" }
      else
        let w := match w.abbrTitle, w.abbrText with
          | some t, some a =>
            let abbrs := if w.abbrs.any (·.1 == a) then w.abbrs.map fun (p : String × String) => if p.1 == a then (a, t) else p
              else w.abbrs ++ [(a, t)]
            { w with abbrs, abbrTitle := none }
          | _, _ => w
        { w with abbrText := none }
    else w
  let w := if tag == "q" then { w.put "\"" with inQuote := !w.inQuote } else w
  let w := if tag == "a" then w.link attrs start else w
  let w := if tag == "img" && start then w.image attrs else w
  let w := if tag == "dl" && start then w.paragraph else w
  let w := if tag == "dt" && !start then w.lineBreak else w
  let w := if tag == "dd" && start then w.put "    " else w
  let w := if tag == "dd" && !start then w.lineBreak else w
  let w := if tag == "ol" || tag == "ul" then w.list tag attrs start else { w with lastWasList := false }
  let w := if tag == "li" then w.item start else w
  let w := if ["table", "tr", "td", "th"].contains tag then w.table tag start else w
  if tag == "pre" then
    (if start then { w with startPre := true, pre := true } else { w with pre := false }).paragraph
  else w

def tag (w : Writer) (name : String) (attrs : List (String × Option String)) (start : Bool) : Writer :=
  let w := { w with currentTag := name }
  let w := if start && w.pendingLink.isSome && ! ["p", "div", "style", "dl", "dt", "img"].contains name then
      { w.put "[" with pendingLink := none, emptyLink := false } else w
  let level := headingLevel name
  let marks := String.ofList (List.replicate level '#') ++ " "
  if level == 0 then w.block name attrs start
  else if !w.links.isEmpty then
    if start then
      let w := { w with inHeader := true }
      let w := if w.pieces.head? == some "[" then
          (({ w with pieces := w.pieces.tail, space := false }.put marks).put "[") else w
      w.block name attrs start
    else { w with breaks := 0, inHeader := false }
  else
    let w := w.paragraph
    if start then ({ w with inHeader := true }.put marks).block name attrs start
    else { w with inHeader := false }

def step (w : Writer) : Token → Writer
  | .start name attrs => w.tag name attrs true
  | .empty name attrs => (w.tag name attrs true).tag name [] false
  | .close name => w.tag name [] false
  | .text s => w.text s false
  | .named name => w.text (namedText name) true
  | .numeric digits => w.text (numericText digits) true

def finish (w : Writer) : String :=
  let w := w.lineBreak.put "" false .finish
  (String.join w.pieces.reverse).replace spaceMark " "

end Writer

def toMarkdown (html : String) : String :=
  let html := html.replace "</' + 'script>" "</ignore>"
  layout 78 ((tokenize html).foldl Writer.step {}).finish

end Markup
end Portal
