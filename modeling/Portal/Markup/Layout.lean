import Portal.Markup.Tokens
/-! Laying Markdown text out in lines of at most 78 columns. Each line of the text is a
paragraph of its own. A paragraph that looks like code (four leading spaces or a tab) or
like a list item is kept as it is; any other is filled: cut into chunks (runs of blanks,
words, the parts of a hyphenated word, dashes between words), and each line takes the
chunks that fit, a chunk longer than a line standing alone on its line. Lines after the
first of a list item or a quotation carry its indent. Empty lines between paragraphs are
kept to at most one. -/
namespace Portal
namespace Markup

def isFillBlank (c : Char) : Bool :=
  c == ' ' || c == '\t' || c == '\n' || c == '\x0b' || c == '\x0c' || c == '\r'

def isWordChar (c : Char) : Bool :=
  let n := c.toNat
  if n < 128 then c.isAlphanum || c == '_'
  else !(isBlank c || (0xa1 ≤ n && n ≤ 0xbf) || n == 0xd7 || n == 0xf7 || (0x2000 ≤ n && n ≤ 0x2bff) ||
    (0x3000 ≤ n && n ≤ 0x303f) || (0xfe30 ≤ n && n ≤ 0xfe4f) || (0xff01 ≤ n && n ≤ 0xff0f) ||
    n ≥ 0x1f000)

def isWordLetter (c : Char) : Bool := isWordChar c && !c.isDigit

def isWordPunct (c : Char) : Bool :=
  isWordChar c || c == '!' || c == '"' || c == '\'' || c == '&' || c == '.' || c == ',' || c == '?'

def expandTabs (s : String) : String :=
  let step (acc : List Char × Nat) (c : Char) : List Char × Nat :=
    if c == '\t' then
      let pad := 8 - acc.2 % 8
      ((List.replicate pad ' ').reverse ++ acc.1, acc.2 + pad)
    else if c == '\n' || c == '\r' then (c :: acc.1, 0)
    else (c :: acc.1, acc.2 + 1)
  String.ofList (s.toList.foldl step ([], 0)).1.reverse

section Chunks
variable (s : Array Char)

def breaksAt (h : Nat) : Bool :=
  let letter (k : Nat) : Bool := (s[k]?).any isWordLetter
  let dash (k : Nat) : Bool := s[k]? == some '-'
  dash h &&
    ((h ≥ 2 && letter (h - 2) && letter (h - 1)) || (h ≥ 3 && letter (h - 3) && dash (h - 2) && letter (h - 1))) &&
    letter (h + 1) && (letter (h + 2) || (dash (h + 2) && letter (h + 3)))

def dashesBeforeWord (i : Nat) : Bool :=
  let n := ((s.toList.drop i).takeWhile (· == '-')).length
  n ≥ 2 && (s[i + n]?).any isWordChar

def wordEnd (i : Nat) : Nat :=
  let rec go (fuel k : Nat) : Nat :=
    match fuel with
    | 0 => k
    | fuel + 1 =>
      let e := i + k
      if breaksAt s e then e + 1
      else if e ≥ s.size || (s[e]?).any isFillBlank then e
      else if (s[e - 1]?).any isWordPunct && dashesBeforeWord s e then e
      else go fuel (k + 1)
  go s.size 1

def chunksFrom (fuel i : Nat) : List String :=
  match fuel with
  | 0 => []
  | fuel + 1 =>
    if i ≥ s.size then [] else
    let e :=
      if (s[i]?).any isFillBlank then i + ((s.toList.drop i).takeWhile isFillBlank).length
      else if i ≥ 1 && (s[i - 1]?).any isWordPunct && dashesBeforeWord s i then
        i + ((s.toList.drop i).takeWhile (· == '-')).length
      else wordEnd s i
    let e := max e (i + 1)
    String.ofList ((s.extract i e).toList) :: chunksFrom fuel e

end Chunks

def Chunk.isBlank (c : String) : Bool := c.all Markup.isBlank

def takeWhileFits (room : Nat) : List String → List String × List String
  | [] => ([], [])
  | c :: rest =>
    if c.length ≤ room then
      let (line, left) := takeWhileFits (room - c.length) rest
      (c :: line, left)
    else ([], c :: rest)

def fillLines (width : Nat) (indent : String) : Nat → Bool → List String → List String
  | 0, _, _ => []
  | fuel + 1, first, chunks =>
    if chunks.isEmpty then [] else
    let lineIndent := if first then "" else indent
    let room := width - lineIndent.length
    let chunks := match chunks with
      | c :: rest => if !first && Chunk.isBlank c then rest else chunks
      | [] => []
    let (line, rest) := takeWhileFits room chunks
    let (line, rest) := match line, rest with
      | [], c :: more => if c.length > room then ([c], more) else (line, rest)
      | _, _ => (line, rest)
    let line := match line.getLast? with
      | some c => if Chunk.isBlank c then line.dropLast else line
      | none => line
    if line.isEmpty then fillLines width indent fuel first rest
    else (lineIndent ++ String.join line) :: fillLines width indent fuel false rest

def fill (width : Nat) (indent : String) (para : String) : List String :=
  let text := String.ofList ((expandTabs para).toList.map fun c => if isFillBlank c then ' ' else c)
  let s := text.toList.toArray
  let chunks := (chunksFrom s (s.size + 1) 0).filter (· != "")
  fillLines width indent (chunks.length + 1) true chunks

def keepsLayout (para : String) : Bool :=
  let cs := para.toList
  if cs.take 4 == [' ', ' ', ' ', ' '] || cs.head? == some '\t' then true else
  let stripped := cs.dropWhile Markup.isBlank
  if stripped.take 2 == ['-', '-'] && stripped.length > 2 && stripped.getD 2 ' ' != '-' then false
  else if (stripped.head? == some '-' || stripped.head? == some '*') && stripped.take 2 != ['*', '*'] then true
  else
    let digits := stripped.takeWhile Char.isDigit
    let ordered := !digits.isEmpty && (stripped.drop digits.length).take 1 == ['.'] &&
      ((stripped.drop (digits.length + 1)).head?.any Markup.isBlank)
    let unordered := (stripped.head?.any fun c => c == '-' || c == '*' || c == '+') &&
      ((stripped.drop 1).head?.any Markup.isBlank)
    ordered || unordered

def isDroppedLine (para : String) : Bool :=
  match para.toList with
  | c :: '+' :: _ => Markup.isBlank c
  | _ => false

def layout (width : Nat) (text : String) : String :=
  let step (acc : String × Nat) (para : String) : String × Nat :=
    let (out, newlines) := acc
    if para.isEmpty then
      if newlines < 2 then (out ++ "\n", newlines + 1) else acc
    else if keepsLayout para then
      if isDroppedLine para then acc else (out ++ para ++ "\n", 1)
    else
      let indent := if para.startsWith "  *" then "    " else if para.startsWith "> " then "> " else ""
      let out := out ++ "\n".intercalate (fill width indent para)
      if para.endsWith "  " then (out ++ "  \n", 1)
      else if !indent.isEmpty then (out ++ "\n", 1)
      else (out ++ "\n\n", 2)
  ((text.splitOn "\n").foldl step ("", 0)).1

end Markup
end Portal
