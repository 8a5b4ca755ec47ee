import Portal.Text.AsciiFold
/-! URL slugs. A slug is the ASCII folding of a text, lower-cased, keeping only letters,
digits, underscores, hyphens and blanks; each run of hyphens and blanks becomes one hyphen,
and hyphens and underscores are trimmed from both ends. -/
namespace Portal.Text

def isAsciiBlank (c : Char) : Bool :=
  c = ' ' || (0x09 ≤ c.toNat && c.toNat ≤ 0x0d) || (0x1c ≤ c.toNat && c.toNat ≤ 0x1f)

def isWordChar (c : Char) : Bool := c.isAlphanum || c = '_'

def collapseDashes (inRun : Bool) : List Char → List Char
  | [] => []
  | c :: rest =>
    if c = '-' || isAsciiBlank c then
      if inRun then collapseDashes true rest else '-' :: collapseDashes true rest
    else c :: collapseDashes false rest

def trimEnds (cs : List Char) : List Char :=
  let edge (c : Char) : Bool := c = '-' || c = '_'
  ((cs.dropWhile edge).reverse.dropWhile edge).reverse

def slugify (s : String) : String :=
  let cs := (asciiFold s).toList.map Char.toLower
  let kept := cs.filter fun c => isWordChar c || isAsciiBlank c || c = '-'
  String.ofList (trimEnds (collapseDashes false kept))

end Portal.Text
