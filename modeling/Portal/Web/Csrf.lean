import Portal.Web.Http
/-! Cross-site request forgery protection for requests that arrive over the wire. A secret
lives in the `csrftoken` cookie; an unsafe request must carry a token that unmasks to that
secret, in its `csrfmiddlewaretoken` form field or its `X-CSRFToken` header, and an `Origin`
header, when it sends one, must name the site itself. A secret is 32 characters of ASCII
letters and digits; a masked token is 64, its first half the mask. A cookie of the wrong
shape is replaced by a fresh one on the way out. -/
namespace Portal
namespace Web

def tokenAlphabet : List Char :=
  "abcdefghijklmnopqrstuvwxyzABCDEFGHIJKLMNOPQRSTUVWXYZ0123456789".toList

def tokenFlaw (t : String) : Option String :=
  if t.length != 32 && t.length != 64 then some "has incorrect length"
  else if !t.all tokenAlphabet.contains then some "has invalid characters"
  else none

def unmask (t : String) : String :=
  let cs := t.toList
  let idx (c : Char) : Nat := tokenAlphabet.idxOf c
  String.ofList <| ((cs.drop 32).zip (cs.take 32)).map fun (c, m) =>
    tokenAlphabet.getD ((idx c + 62 - idx m) % 62) 'a'

def secretOf (t : String) : String := if t.length == 64 then unmask t else t

def parseCookies (header : String) : List (String × String) :=
  (header.splitOn ";").foldl (fun acc chunk =>
    let (k, v) := match chunk.splitOn "=" with
      | [v] => ("", v)
      | k :: rest => (k, "=".intercalate rest)
      | [] => ("", "")
    let k := k.trimAscii.toString
    let v := v.trimAscii.toString
    if k.isEmpty && v.isEmpty then acc
    else (acc.filter (·.1 != k)) ++ [(k, v)]) []

namespace Request

def cookie? (r : Request) (name : String) : Option String :=
  ((parseCookies ((r.header? "HTTP_COOKIE").getD "")).find? (·.1 == name)).map (·.2)

def csrfCookieRenewed (r : Request) : Bool :=
  match r.cookie? "csrftoken" with
  | some c => (tokenFlaw c).isSome
  | none => false

end Request

def safeMethod (m : String) : Bool := ["GET", "HEAD", "OPTIONS", "TRACE"].contains m

def tokenRefusal (r : Request) (secret : String) : Option String :=
  let fromForm := if r.method == "POST" then (r.field? "csrfmiddlewaretoken").getD "" else ""
  let given : Option (String × String) :=
    if !fromForm.isEmpty then some (fromForm, "POST")
    else (r.header? "HTTP_X_CSRFTOKEN").map (·, "the 'X-Csrftoken' HTTP header")
  match given with
  | none => some "CSRF token missing."
  | some (token, source) =>
    let what := "CSRF token from " ++ source
    match tokenFlaw token with
    | some flaw => some (what ++ " " ++ flaw ++ ".")
    | none => if secretOf token == secret then none else some (what ++ " incorrect.")

def csrfRefusal (r : Request) : Option String :=
  let host := (r.header? "HTTP_HOST").getD "testserver"
  let badOrigin := match r.header? "HTTP_ORIGIN" with
    | some origin =>
      if origin == "http://" ++ host then none
      else some ("Origin checking failed - " ++ origin ++ " does not match any trusted origins.")
    | none => none
  badOrigin <|> match r.cookie? "csrftoken" with
    | none => some "CSRF cookie not set."
    | some cookie => match tokenFlaw cookie with
      | some flaw => some ("CSRF cookie " ++ flaw ++ ".")
      | none => tokenRefusal r (secretOf cookie)

end Web
end Portal
