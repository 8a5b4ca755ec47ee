/-! Filling text into lines of a given width, the way command help is laid out. The text is
cut into chunks: words, the blanks between them, and the parts of a hyphenated word (a
word breaks after a hyphen that follows two letters and comes before two). A line takes
chunks while they fit; a chunk longer than a whole line is cut, after its last hyphen that
fits when there is one. Blanks at the start of a later line and at the end of any line are
dropped. -/
namespace Portal.Text

def isWordLetter (c : Char) : Bool := c.isAlpha || c = '_'

def breaksAfter (cs : Array Char) (i : Nat) : Bool :=
  let charAt (k : Nat) : Char := cs.getD k ' '
  let letter (k : Nat) : Bool := k < cs.size && isWordLetter (charAt k)
  let before := (i ≥ 2 && letter (i - 1) && letter (i - 2)) ||
    (i ≥ 3 && letter (i - 1) && charAt (i - 2) = '-' && letter (i - 3))
  let after := letter (i + 1) && (letter (i + 2) || (charAt (i + 2) = '-' && letter (i + 3)))
  charAt i = '-' && before && after

def wordPieces (w : String) : List String :=
  let cs := w.toList.toArray
  let cuts := (List.range cs.size).filter fun i => breaksAfter cs i
  let (pieces, start) := cuts.foldl (fun (acc : List String × Nat) i =>
    if i ≥ acc.2 + 1 then (acc.1 ++ [String.ofList ((cs.extract acc.2 (i + 1)).toList)], i + 1) else acc)
    ([], 0)
  let last := String.ofList ((cs.extract start cs.size).toList)
  if last.isEmpty then pieces else pieces ++ [last]

def chunksOf (s : String) : List String :=
  let words := (s.splitOn " ").filter (· ≠ "")
  (words.map wordPieces).intersperse [" "] |>.flatten

def isBlankChunk (c : String) : Bool := c.all (· = ' ')

def chunkWidth (cs : List String) : Nat := (cs.map String.length).foldl (· + ·) 0

def takeFitting (room : Nat) : List String → List String × List String
  | [] => ([], [])
  | c :: rest =>
    if c.length ≤ room then
      let (taken, left) := takeFitting (room - c.length) rest
      (c :: taken, left)
    else ([], c :: rest)

def cutLong (room : Nat) (c : String) : String × String :=
  let room := max room 1
  let cs := c.toList
  let hyphens := (List.range (min room cs.length)).filter fun i => cs.getD i ' ' = '-'
  let stop := match hyphens.getLast? with
    | some h => if h > 0 && (cs.take h).any (· ≠ '-') then h + 1 else room
    | none => room
  (String.ofList (cs.take stop), String.ofList (cs.drop stop))

def fillChunks (width : Nat) (fuel : Nat) (first : Bool) (chunks : List String) : List String :=
  match fuel with
  | 0 => []
  | fuel + 1 =>
    let chunks := match chunks with
      | c :: rest => if !first && isBlankChunk c then rest else chunks
      | [] => []
    if chunks.isEmpty then [] else
    let (line, rest) := takeFitting width chunks
    let (line, rest) := match rest with
      | c :: more =>
        if c.length > width then
          let (head, tail) := cutLong (width - chunkWidth line) c
          (line ++ [head], if tail.isEmpty then more else tail :: more)
        else (line, rest)
      | [] => (line, rest)
    let line := match line.getLast? with
      | some c => if isBlankChunk c then line.dropLast else line
      | none => line
    let made := if line.isEmpty then [] else [String.join line]
    made ++ fillChunks width fuel (first && line.isEmpty) rest

def wrap (width : Nat) (s : String) : List String :=
  let words := (s.split Char.isWhitespace).toList.map (·.toString) |>.filter (· ≠ "")
  let chunks := chunksOf (" ".intercalate words)
  fillChunks width (chunkWidth chunks + chunks.length + 1) true chunks

end Portal.Text
