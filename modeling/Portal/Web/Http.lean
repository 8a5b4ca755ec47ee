import Portal.Records.Basic
import Portal.Json.Write
/-! Requests and responses. A request carries its method, path, query and form pairs, raw
body and headers, and the user its session names; a response carries its status, headers,
body, and what a view reported on the way: the templates it rendered with the context of
the first, a not-found reason, or the failure that ended it. Form and query text use the
`application/x-www-form-urlencoded` encoding: unreserved characters as themselves, a
space as `+`, every other UTF-8 byte as `%XX`. -/
namespace Portal
namespace Web

def byteSize (s : String) : Nat := s.utf8ByteSize

def isUnreserved (c : Char) : Bool :=
  c.isAlphanum && c.toNat < 128 || c == '_' || c == '.' || c == '-' || c == '~'

def hexUpper (n : Nat) : String :=
  ((Text.hexPad 2 n).map Char.toUpper)

def percent (b : UInt8) : String := "%" ++ hexUpper b.toNat

def quotePlus (s : String) : String :=
  String.join <| s.toList.map fun c =>
    if isUnreserved c then c.toString
    else if c == ' ' then "+"
    else String.join (c.toString.toUTF8.toList.map percent)

def quotePath (s : String) : String :=
  String.join <| s.toList.map fun c =>
    if isUnreserved c || "/:@&+$,!*'()".toList.contains c then c.toString
    else String.join (c.toString.toUTF8.toList.map percent)

def quoteQuery (s : String) : String :=
  String.join <| s.toList.map fun c =>
    if isUnreserved c || "/#%[]=:;$&()+,!?*@'~".toList.contains c then c.toString
    else String.join (c.toString.toUTF8.toList.map percent)

def hexValue (c : Char) : Option Nat :=
  if '0' ≤ c ∧ c ≤ '9' then some (c.toNat - 48)
  else if 'a' ≤ c ∧ c ≤ 'f' then some (c.toNat - 87)
  else if 'A' ≤ c ∧ c ≤ 'F' then some (c.toNat - 55)
  else none

def unquoteBytes (plus : Bool) : List Char → List UInt8
  | '%' :: a :: b :: rest =>
    match hexValue a, hexValue b with
    | some x, some y => (x * 16 + y).toUInt8 :: unquoteBytes plus rest
    | _, _ => '%'.toString.toUTF8.toList ++ unquoteBytes plus (a :: b :: rest)
  | '+' :: rest => (if plus then ' ' else '+').toString.toUTF8.toList ++ unquoteBytes plus rest
  | c :: rest => c.toString.toUTF8.toList ++ unquoteBytes plus rest
  | [] => []

def unquote (plus : Bool) (s : String) : String :=
  (String.fromUTF8? (ByteArray.mk (unquoteBytes plus s.toList).toArray)).getD s

def parsePairs (s : String) : List (String × String) :=
  ((s.splitOn "&").filter (· ≠ "")).map fun item =>
    match item.splitOn "=" with
    | [k] => (unquote true k, "")
    | k :: rest => (unquote true k, unquote true ("=".intercalate rest))
    | [] => ("", "")

def encodePairs (pairs : List (String × String)) : String :=
  "&".intercalate (pairs.map fun (k, v) => quotePlus k ++ "=" ++ quotePlus v)

def valuesOf (pairs : List (String × String)) (k : String) : List String :=
  (pairs.filter (·.1 == k)).map (·.2)

def lookup (pairs : List (String × String)) (k : String) : Option String :=
  (valuesOf pairs k).getLast?

def grouped (pairs : List (String × String)) : List (String × List String) :=
  pairs.foldl (fun acc (k, v) =>
    if acc.any (·.1 == k) then acc.map fun (k', vs) => if k' == k then (k', vs ++ [v]) else (k', vs)
    else acc ++ [(k, [v])]) []

def pairsJson (pairs : List (String × String)) : Json :=
  .obj ((grouped pairs).map fun (k, vs) => (k, Json.strs vs))

def boundary : String := "BoUnDaRyStRiNg"

def multipartBody (pairs : List (String × String)) : String :=
  let part (kv : String × String) : List String :=
    ["--" ++ boundary, "Content-Disposition: form-data; name=\"" ++ kv.1 ++ "\"", "", kv.2]
  "\r\n".intercalate ((pairs.map part).flatten ++ ["--" ++ boundary ++ "--", ""])

structure Request where
  method : String := "GET"
  path : String
  query : String := ""
  params : List (String × String) := []
  form : List (String × String) := []
  body : String := ""
  contentType : String := ""
  multipart : Bool := false
  headers : List (String × String) := []
  remoteAddr : Option String := some "127.0.0.1"
  user : Option Obj := none
  logRequestId : Option String := none
  enforceCsrf : Bool := false
  deriving Inhabited

namespace Request

def header? (r : Request) (name : String) : Option String :=
  (r.headers.find? (·.1 == name)).map (·.2)

def fullPath (r : Request) : String :=
  quotePath r.path ++ (if r.query.isEmpty then "" else "?" ++ quoteQuery r.query)

def param? (r : Request) (k : String) : Option String := lookup r.params k

def field? (r : Request) (k : String) : Option String := lookup r.form k

def userId? (r : Request) : Option Nat := r.user.bind (·.pk)

def isAuthenticated (r : Request) : Bool := r.user.isSome

end Request

structure NotFound where
  view : String
  reason : String
  deriving Inhabited

structure Response where
  status : Nat
  contentType : String := "text/html; charset=utf-8"
  body : String := ""
  headers : List (String × String) := []
  rendered : Bool := false
  templateNames : List String := []
  pageSize : Option Nat := none
  notFound : Option NotFound := none
  exception : Option Fault := none
  lateRedirect : Bool := false
  deriving Inhabited

namespace Response

def size (r : Response) : Nat := r.pageSize.getD (byteSize r.body)

def location (r : Response) : Option String :=
  (r.headers.find? (·.1 == "location")).map (·.2)

def redirect (url : String) : Response := { status := 302, headers := [("location", url)] }

def permanent (url : String) : Response := { status := 301, headers := [("location", url)] }

def notAllowed (allowed : List String) : Response :=
  { status := 405, headers := [("allow", ", ".intercalate allowed)] }

def text (body : String) (status : Nat := 200) : Response := { status, body }

def options (allowed : List String) : Response :=
  { status := 200, headers := [("allow", ", ".intercalate allowed), ("content-length", "0")] }

def json (j : Json) (status : Nat := 200) : Response :=
  { status, contentType := "application/json", body := j.renderWith .ascii }

def withHeader (r : Response) (k v : String) : Response :=
  if r.headers.any (·.1 == k) then r else { r with headers := r.headers ++ [(k, v)] }

end Response

end Web
end Portal
