/-! Web addresses split into their parts and resolved against a base, by the generic rules
that tell a scheme, a host part, a path with optional parameters, a query and a fragment
apart. Three lists of schemes decide the rest: which take references relative to a base,
which have a host part, and which carry parameters after the last path segment.

Resolution follows the usual reference algorithm: a reference with a scheme of its own, or
a scheme that takes no relative references, stands as it is; one with a host part keeps
it; an empty path keeps the base's path (and its query, when the reference has none); any
other path is read against the base's directory, with `.` and `..` segments resolved and
empty segments in the middle dropped. -/
namespace Portal
namespace Web

structure Address where
  scheme : String := ""
  netloc : String := ""
  path : String := ""
  params : String := ""
  query : String := ""
  fragment : String := ""
  deriving Repr, Inhabited, BEq

namespace Address

def relativeSchemes : List String :=
  ["", "ftp", "http", "gopher", "nntp", "imap", "wais", "file", "https", "shttp", "mms", "prospero",
    "rtsp", "rtsps", "rtspu", "sftp", "svn", "svn+ssh", "ws", "wss"]

def netlocSchemes : List String :=
  ["", "ftp", "http", "gopher", "nntp", "telnet", "imap", "wais", "file", "mms", "https", "shttp",
    "snews", "prospero", "rtsp", "rtsps", "rtspu", "rsync", "svn", "svn+ssh", "sftp", "nfs", "git",
    "git+ssh", "ws", "wss", "itms-services"]

def paramSchemes : List String :=
  ["", "ftp", "hdl", "prospero", "http", "imap", "https", "shttp", "rtsp", "rtsps", "rtspu", "sip",
    "sips", "mms", "sftp", "tel"]

def isSchemeChar (c : Char) : Bool := c.isAlphanum || c == '+' || c == '-' || c == '.'

def isControlOrSpace (c : Char) : Bool := c.toNat ≤ 32

def cutAt (s : String) (c : Char) : Option (String × String) :=
  let before := s.toList.takeWhile (· != c)
  match s.toList.drop before.length with
  | _ :: after => some (String.ofList before, String.ofList after)
  | [] => none

def takeScheme (cs : List Char) : Option (String × List Char) :=
  let name := cs.takeWhile (· != ':')
  match cs.drop name.length, name with
  | ':' :: rest, c :: _ =>
    if c.isAlpha && name.all isSchemeChar then some (String.ofList (name.map Char.toLower), rest)
    else none
  | _, _ => none

def takeNetloc (cs : List Char) : String × List Char :=
  let body := cs.drop 2
  let host := body.takeWhile fun c => c != '/' && c != '?' && c != '#'
  (String.ofList host, body.drop host.length)

def split (url : String) (scheme : String := "") : Address :=
  let clean (cs : List Char) : List Char := cs.filter fun c => c != '\t' && c != '\r' && c != '\n'
  let cs := clean (url.toList.dropWhile isControlOrSpace)
  let dflt := String.ofList (clean ((scheme.toList.dropWhile isControlOrSpace).reverse.dropWhile
    isControlOrSpace).reverse)
  let (scheme, cs) := (takeScheme cs).getD (dflt, cs)
  let (netloc, cs) := if cs.take 2 == ['/', '/'] then takeNetloc cs else ("", cs)
  let rest := String.ofList cs
  let (rest, fragment) := (cutAt rest '#').getD (rest, "")
  let (path, query) := (cutAt rest '?').getD (rest, "")
  { scheme, netloc, path, query, fragment }

def unmatchedBracket (url : String) : Bool :=
  let host := (split url).netloc.toList
  host.contains '[' != host.contains ']'

def splitParams (path : String) : String × String :=
  let cs := path.toList
  let lastSlash := (cs.length - 1) - ((cs.reverse.findIdx? (· == '/')).getD 0)
  let start := if cs.contains '/' then lastSlash else 0
  match ((cs.drop start).findIdx? (· == ';')) with
  | some k => (String.ofList (cs.take (start + k)), String.ofList (cs.drop (start + k + 1)))
  | none => (path, "")

def parse (url : String) (scheme : String := "") : Address :=
  let a := split url scheme
  if paramSchemes.contains a.scheme && a.path.toList.contains ';' then
    let (path, params) := splitParams a.path
    { a with path, params }
  else a

def render (a : Address) : String :=
  let path := if a.params.isEmpty then a.path else a.path ++ ";" ++ a.params
  let path :=
    if !a.netloc.isEmpty || (!a.scheme.isEmpty && netlocSchemes.contains a.scheme && !path.startsWith "//") then
      "//" ++ a.netloc ++ (if !path.isEmpty && !path.startsWith "/" then "/" ++ path else path)
    else path
  let text := if a.scheme.isEmpty then path else a.scheme ++ ":" ++ path
  let text := if a.query.isEmpty then text else text ++ "?" ++ a.query
  if a.fragment.isEmpty then text else text ++ "#" ++ a.fragment

def resolveSegments (segments : List String) : List String :=
  let kept := segments.foldl (fun acc seg =>
    if seg == ".." then acc.dropLast else if seg == "." then acc else acc ++ [seg]) []
  if segments.getLast? == some "." || segments.getLast? == some ".." then kept ++ [""] else kept

def segmentsOf (path : String) : List String := (path.toList.splitOn '/').map String.ofList

def dropInnerEmpty (segments : List String) : List String :=
  match segments with
  | first :: rest@(_ :: _) => first :: ((rest.dropLast.filter (· != "")) ++ rest.getLast?.toList)
  | _ => segments

end Address

def resolveReference (base ref : String) : String :=
  if base.isEmpty then ref else if ref.isEmpty then base else
  let b := Address.parse base
  let r := Address.parse ref b.scheme
  if r.scheme != b.scheme || !Address.relativeSchemes.contains r.scheme then ref
  else if Address.netlocSchemes.contains r.scheme && !r.netloc.isEmpty then r.render
  else
    let netloc := if Address.netlocSchemes.contains r.scheme then b.netloc else r.netloc
    if r.path.isEmpty && r.params.isEmpty then
      { r with netloc, path := b.path, params := b.params,
               query := if r.query.isEmpty then b.query else r.query }.render
    else
      let baseParts := Address.segmentsOf b.path
      let baseParts := if baseParts.getLast? == some "" then baseParts else baseParts.dropLast
      let segments := if r.path.startsWith "/" then Address.segmentsOf r.path
        else Address.dropInnerEmpty (baseParts ++ Address.segmentsOf r.path)
      let path := "/".intercalate (Address.resolveSegments segments)
      { r with netloc, path := if path.isEmpty then "/" else path }.render

def withoutFragment (url : String) : String := String.ofList (url.toList.takeWhile (· != '#'))

end Web
end Portal
