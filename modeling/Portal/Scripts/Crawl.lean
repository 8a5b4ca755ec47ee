import Portal.Scripts.Basic
import Portal.Markup.Markdown
import Portal.Web.Address
/-! Saving sites as Markdown. From each starting address the crawler fetches the page,
saves it as Markdown, and follows the page's links that stay on the starting address's
host, depth first. An address is fetched once, whatever its fragment. A page is saved under
the output directory, in a directory named for its host, at its path with the last
extension replaced by `.md`; the site's root is saved as `index.md`. A page that cannot be
fetched, or answers with a client or server error, is reported and skipped.

The network and the reader of pages are parameters (`Network`, `Reader`): a network serves
finitely many pages and fetches an address as it fetches its address without fragment;
`Network.ofPages` is the network of a site given by its pages.

The command line takes addresses, or `--file` and a file that lists them one a line. -/
namespace Portal
namespace Scripts


structure Network where
  get : String → Except String String
  served : List String
  listed : ∀ {u html}, get u = .ok html → Web.withoutFragment u ∈ served
  keyed : ∀ {u u' html}, Web.withoutFragment u = Web.withoutFragment u' → get u = .ok html → get u' = .ok html

structure Reader where
  markdown : String → String
  links : String → List String

def Reader.markup : Reader := { markdown := Markup.toMarkdown, links := Markup.linkTargets }

structure Page where
  status : Int := 200
  reason : Option String := none
  body : String := ""
  deriving Inhabited

abbrev Pages := List (String × Page)

def fetchPage (unreachable : String → String) (pages : Pages) (url : String) : Except String String :=
  match pages.find? (·.1 == Web.withoutFragment url) with
  | none => .error (unreachable url)
  | some (_, page) =>
    let reason := page.reason.getD "None"
    if 400 ≤ page.status && page.status < 500 then
      .error (toString page.status ++ " Client Error: " ++ reason ++ " for url: " ++ url)
    else if 500 ≤ page.status && page.status < 600 then
      .error (toString page.status ++ " Server Error: " ++ reason ++ " for url: " ++ url)
    else .ok page.body

theorem fetchPageListed {unreachable : String → String} {pages : Pages} {u html : String}
    (h : fetchPage unreachable pages u = .ok html) : Web.withoutFragment u ∈ pages.map Prod.fst := by
  unfold fetchPage at h
  split at h
  · cases h
  · rename_i key page found
    have same := List.find?_some found
    simp only [beq_iff_eq] at same
    exact List.mem_map.mpr ⟨_, List.mem_of_find?_eq_some found, same⟩

theorem fetchPageKeyed {unreachable : String → String} {pages : Pages} {u u' html : String}
    (same : Web.withoutFragment u = Web.withoutFragment u') (h : fetchPage unreachable pages u = .ok html) :
    fetchPage unreachable pages u' = .ok html := by
  unfold fetchPage at h ⊢
  rw [← same]
  split at h
  · cases h
  · dsimp only at h ⊢
    split at h
    · cases h
    · split at h
      · cases h
      · rw [if_neg ‹_›, if_neg ‹_›]
        exact h

def Network.ofPages (unreachable : String → String) (pages : Pages) : Network where
  get := fetchPage unreachable pages
  served := pages.map Prod.fst
  listed := fetchPageListed
  keyed := fetchPageKeyed

def pathSegments (path : String) : List String := (path.toList.splitOn '/').map String.ofList

def enterSegment (dirs : List String) (seg : String) : List String :=
  if seg.isEmpty || seg == "." then dirs else if seg == ".." then dirs.dropLast else dirs ++ [seg]

def normalizePath (path : String) : String :=
  "/".intercalate ((pathSegments path).foldl enterSegment [])

def dropExtension (name : String) : String :=
  let cs := name.toList
  match cs.reverse.findIdx? (· == '.') with
  | none => name
  | some k =>
    let dot := cs.length - 1 - k
    if (cs.take dot).all (· == '.') then name else String.ofList (cs.take dot)

def hostOf (url : String) : String := (Web.Address.parse url).netloc

def pageSegments (url : String) : List String :=
  let a := Web.Address.parse url
  let path := String.ofList (((a.path.toList.dropWhile (· == '/')).reverse.dropWhile (· == '/')).reverse)
  pathSegments (if path.isEmpty then "index.html" else path)

def savedPath (outDir url : String) : String :=
  let segments := pageSegments url
  let name := dropExtension (segments.getLastD "")
  let dir := "/".intercalate segments.dropLast
  normalizePath (outDir ++ "/" ++ hostOf url ++ "/" ++ dir ++ "/" ++ name ++ ".md")

def invalidHost {α : Type} : Script α := raise "ValueError" "Invalid IPv6 URL"

def joinLink (base link : String) : Script String := do
  if !base.isEmpty && !link.isEmpty &&
      (Web.Address.unmatchedBracket base || Web.Address.unmatchedBracket link) then
    invalidHost
  let full := Web.resolveReference base link
  if Web.Address.unmatchedBracket full then invalidHost
  return full

def crawlFrom (net : Network) (reader : Reader) (outDir host : String) :
    Nat → List String → String → Script (List String)
  | 0, seen, _ => pure seen
  | fuel + 1, seen, url => do
    let key := Web.withoutFragment url
    if seen.contains key then return seen
    let seen := seen ++ [key]
    say ("📥 Fetching: " ++ url)
    match net.get url with
    | .error msg =>
      say ("⚠️ Failed to fetch " ++ url ++ ": " ++ msg)
      return seen
    | .ok html =>
      writeFile (savedPath outDir url) ("# " ++ url ++ "\n\n" ++ reader.markdown html)
      (reader.links html).foldlM (fun seen link => do
        let full ← joinLink url link
        if hostOf full == host then crawlFrom net reader outDir host fuel seen full else pure seen) seen

def crawlSeeds (net : Network) (reader : Reader) (urls : List String) (outDir : String) :
    Script (List String) :=
  urls.foldlM (fun seen url => do
    if Web.Address.unmatchedBracket url then invalidHost
    crawlFrom net reader outDir (hostOf url) (net.served.length + 2) seen url) []

def saveSites (net : Network) (reader : Reader) (urls : List String) (outDir : String) : Script Unit := do
  let _ ← crawlSeeds net reader urls outDir
  return ()

def textLines (s : String) : List String :=
  ((s.replace "\r\n" "\n").replace "\r" "\n").splitOn "\n"

def crawlMain (net : Network) (reader : Reader) (argv : List String) : Script Unit := do
  match argv with
  | [] =>
    say "Usage: python crawl.py <url1> <url2> ..."
    say "       python crawl.py --file <file_with_urls>"
    exit 1
  | "--file" :: rest =>
    match rest with
    | [] =>
      say "Usage: python crawl.py --file <file_with_urls>"
      exit 1
    | file :: _ =>
      match ← readFile? file with
      | none =>
        say ("Error: File not found: " ++ file)
        exit 1
      | some text =>
        let urls := ((textLines text).map Markup.stripBlanks).filter (!·.isEmpty)
        if urls.isEmpty then say "No URLs to crawl." else saveSites net reader urls "saved_md"
  | urls => saveSites net reader urls "saved_md"

end Scripts
end Portal
