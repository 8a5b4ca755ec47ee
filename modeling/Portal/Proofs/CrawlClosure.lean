import Mathlib
import Portal.Proofs.CrawlPaths
/-!
# What the crawler visits

From each seed the crawler follows, depth first, the links of every page it fetches that
stay on the seed's host, and it fetches an address only when its address without fragment
was not seen before. Over any network and any reader of pages, when no page is served at the
empty address, it sees in the end exactly the addresses without fragment that some seed
reaches, each once; and it stops early only when an address on the way has an unmatched
bracket in its host part.

Two facts carry the argument. An address and its address without fragment have the same
scheme, host part, path, parameters and query, so they have the same host and resolve every
non-empty link alike (`parseKey`, `resolveKey`), and the network fetches them alike. And a
crawl's fuel, the number of addresses served plus two, never runs out: every call that
fetches a page keeps it gray while its links are followed, there are no more gray addresses
than addresses served, and the gray addresses with the fuel left always exceed them
(`Explored`, `crawlFromSettles`).

Main statement: `crawlVisitsClosure`.
-/
namespace Portal.CrawlClosure
open Scripts Web

/-! ### Addresses with a fragment -/

theorem takeWhileHash {p : Char → Bool} (stops : p '#' = false) {a : List Char} (noHash : '#' ∉ a)
    (g : List Char) : (a ++ '#' :: g).takeWhile p = a.takeWhile p := by
  induction a with
  | nil => simp [stops]
  | cons c a ih =>
    have rest : '#' ∉ a := fun m => noHash (List.mem_cons_of_mem c m)
    by_cases hc : p c = true <;> simp [hc, ih rest]

theorem dropWhileHash {p : Char → Bool} (stops : p '#' = false) {a : List Char} (noHash : '#' ∉ a)
    (g : List Char) : (a ++ '#' :: g).dropWhile p = a.dropWhile p ++ '#' :: g := by
  induction a with
  | nil => simp [stops]
  | cons c a ih =>
    have rest : '#' ∉ a := fun m => noHash (List.mem_cons_of_mem c m)
    by_cases hc : p c = true <;> simp [hc, ih rest]

theorem takeSchemeHash {a : List Char} (noHash : '#' ∉ a) (g : List Char) :
    Address.takeScheme (a ++ '#' :: g) = (Address.takeScheme a).map fun p => (p.1, p.2 ++ '#' :: g) := by
  by_cases colon : ':' ∈ a
  · -- the name ends at a colon before the fragment
    obtain ⟨name, rest, rfl, plain⟩ : ∃ name rest, a = name ++ ':' :: rest ∧ ∀ c ∈ name, (c != ':') = true := by
      have whole := List.takeWhile_append_dropWhile (p := (· != ':')) (l := a)
      cases found : a.dropWhile (· != ':') with
      | nil =>
        have := List.dropWhile_eq_nil_iff.mp found ':' colon
        simp at this
      | cons c rest =>
        have stop := List.head?_dropWhile_not (· != ':') a
        simp only [found, List.head?_cons, bne_eq_false_iff_eq] at stop
        subst stop
        refine ⟨a.takeWhile (· != ':'), rest, by rw [← found, whole], fun c mem => ?_⟩
        exact List.mem_takeWhile_imp (p := fun x => x != ':') mem
    have stops : ∀ tail, (name ++ ':' :: tail).takeWhile (· != ':') = name := by
      intro tail
      rw [List.takeWhile_append_of_pos plain]
      simp
    have moved : name ++ ':' :: rest ++ '#' :: g = name ++ ':' :: (rest ++ '#' :: g) := by simp
    simp only [Address.takeScheme, moved, stops, List.drop_left]
    cases name with
    | nil => rfl
    | cons c tail => simp
  · -- without a colon the name takes the fragment's `#`, which is no scheme character
    have all : ∀ c ∈ a, (c != ':') = true := by
      intro c mem
      simpa using fun same : c = ':' => colon (same ▸ mem)
    have nameA : a.takeWhile (· != ':') = a := List.takeWhile_eq_self_iff.mpr all
    have nameAll : (a ++ '#' :: g).takeWhile (· != ':') = a ++ '#' :: g.takeWhile (· != ':') := by
      rw [List.takeWhile_append_of_pos all]
      simp
    have notScheme : (a ++ '#' :: g.takeWhile (· != ':')).all Address.isSchemeChar = false := by
      simp only [List.all_eq_false]
      exact ⟨'#', by simp, by decide⟩
    simp only [Address.takeScheme, nameAll, nameA, List.drop_length]
    split <;> simp_all

theorem slashesHash (b g : List Char) :
    ((b ++ '#' :: g).take 2 == ['/', '/']) = (b.take 2 == ['/', '/']) := by
  match b with
  | [] => rfl
  | [x] => by_cases h : x = '/' <;> simp [h]
  | x :: y :: t => simp

theorem takeNetlocHash {b : List Char} (noHash : '#' ∉ b) (long : 2 ≤ b.length) (g : List Char) :
    Address.takeNetloc (b ++ '#' :: g) = ((Address.takeNetloc b).1, (Address.takeNetloc b).2 ++ '#' :: g) := by
  have body : (b ++ '#' :: g).drop 2 = b.drop 2 ++ '#' :: g := List.drop_append_of_le_length long
  have bodyNoHash : '#' ∉ b.drop 2 := fun m => noHash (List.mem_of_mem_drop m)
  have host := takeWhileHash (p := fun c => c != '/' && c != '?' && c != '#') (by decide) bodyNoHash g
  simp only [Address.takeNetloc, body, host]
  congr 1
  exact List.drop_append_of_le_length (List.IsPrefix.length_le (List.takeWhile_prefix _))

theorem cutAtHash {c : List Char} (noHash : '#' ∉ c) (g : List Char) :
    Address.cutAt (String.ofList (c ++ '#' :: g)) '#' = some (String.ofList c, String.ofList g) := by
  have plain : ∀ x ∈ c, (x != '#') = true := fun x mem => by
    simpa using fun same : x = '#' => noHash (same ▸ mem)
  simp [Address.cutAt, List.takeWhile_append_of_pos plain]

theorem cutAtNoHash {c : List Char} (noHash : '#' ∉ c) : Address.cutAt (String.ofList c) '#' = none := by
  have plain : ∀ x ∈ c, (x != '#') = true := fun x mem => by
    simpa using fun same : x = '#' => noHash (same ▸ mem)
  simp [Address.cutAt, List.takeWhile_eq_self_iff.mpr plain]

theorem getDMapHash (o : Option (String × List Char)) (d : String) (a x : List Char) :
    (o.map fun p => (p.1, p.2 ++ x)).getD (d, a ++ x) = ((o.getD (d, a)).1, (o.getD (d, a)).2 ++ x) := by
  cases o <;> rfl

theorem takeSchemeRest {a r : List Char} {sch : String} (h : Address.takeScheme a = some (sch, r)) :
    List.Sublist r a := by
  unfold Address.takeScheme at h
  dsimp only at h
  split at h
  · rename_i rest _ _ dropped _
    split at h
    · cases h
      have : List.Sublist r (a.drop (a.takeWhile (· != ':')).length) := dropped ▸ List.sublist_cons_self ':' r
      exact this.trans (List.drop_sublist _ _)
    · cases h
  · cases h

theorem takeNetlocRest (b : List Char) : List.Sublist (Address.takeNetloc b).2 b :=
  (List.drop_sublist _ _).trans (List.drop_sublist _ _)

theorem splitFragment {k : List Char} (noHash : '#' ∉ k) (f : List Char) (s : String) :
    (Address.split (String.ofList (k ++ '#' :: f)) s).scheme = (Address.split (String.ofList k) s).scheme ∧
    (Address.split (String.ofList (k ++ '#' :: f)) s).netloc = (Address.split (String.ofList k) s).netloc ∧
    (Address.split (String.ofList (k ++ '#' :: f)) s).path = (Address.split (String.ofList k) s).path ∧
    (Address.split (String.ofList (k ++ '#' :: f)) s).query = (Address.split (String.ofList k) s).query := by
  have cleanHash : ∀ a : List Char, (a ++ '#' :: f).filter (fun c => c != '\t' && c != '\r' && c != '\n') =
      a.filter (fun c => c != '\t' && c != '\r' && c != '\n') ++
        '#' :: f.filter (fun c => c != '\t' && c != '\r' && c != '\n') := by
    intro a
    simp
  have cleanNoHash : '#' ∉ (k.dropWhile Address.isControlOrSpace).filter
      (fun c => c != '\t' && c != '\r' && c != '\n') :=
    fun m => noHash ((List.dropWhile_sublist _).subset (List.mem_of_mem_filter m))
  simp only [Address.split, String.toList_ofList, dropWhileHash (p := Address.isControlOrSpace) (by decide) noHash,
    cleanHash, takeSchemeHash cleanNoHash, getDMapHash]
  -- after the scheme, what is left of the address still has no `#` before the fragment
  generalize hsr : (Address.takeScheme ((k.dropWhile Address.isControlOrSpace).filter
      (fun c => c != '\t' && c != '\r' && c != '\n'))).getD _ = sr
  have srNoHash : '#' ∉ sr.2 := by
    rw [← hsr]
    cases found : Address.takeScheme ((k.dropWhile Address.isControlOrSpace).filter
        (fun c => c != '\t' && c != '\r' && c != '\n')) with
    | none => exact cleanNoHash
    | some p => exact fun m => cleanNoHash ((takeSchemeRest found).subset m)
  rw [slashesHash]
  by_cases slashes : (sr.2.take 2 == ['/', '/']) = true
  · have long : 2 ≤ sr.2.length := by
      have := congrArg List.length (beq_iff_eq.mp slashes)
      simp only [List.length_take, List.length_cons, List.length_nil] at this
      omega
    have restNoHash : '#' ∉ (Address.takeNetloc sr.2).2 := fun m => srNoHash ((takeNetlocRest _).subset m)
    rw [if_pos slashes, if_pos slashes, takeNetlocHash srNoHash long, cutAtHash restNoHash, cutAtNoHash restNoHash]
    refine ⟨?_, ?_, ?_, ?_⟩ <;> trivial
  · rw [if_neg slashes, if_neg slashes, cutAtHash srNoHash, cutAtNoHash srNoHash]
    refine ⟨?_, ?_, ?_, ?_⟩ <;> trivial

theorem splitHash (url : String) :
    url = withoutFragment url ∨
      ∃ f, url = String.ofList ((withoutFragment url).toList ++ '#' :: f) := by
  have whole := List.takeWhile_append_dropWhile (p := (· != '#')) (l := url.toList)
  cases rest : url.toList.dropWhile (· != '#') with
  | nil =>
    left
    apply String.toList_injective
    simpa [withoutFragment, rest] using whole.symm
  | cons c f =>
    have hash : c = '#' := by
      have := List.head?_dropWhile_not (· != '#') url.toList
      simpa [rest] using this
    subst hash
    right
    refine ⟨f, String.toList_injective ?_⟩
    simp only [withoutFragment, String.toList_ofList]
    rw [← rest, whole]

theorem noHashKey (url : String) : '#' ∉ (withoutFragment url).toList := by
  simp only [withoutFragment, String.toList_ofList]
  intro mem
  simpa using List.mem_takeWhile_imp mem

/-! ### Addresses without fragment -/

def paramsOf (a : Address) : Address :=
  if Address.paramSchemes.contains a.scheme && a.path.toList.contains ';' then
    let (path, params) := Address.splitParams a.path
    { a with path, params }
  else a

theorem parseSplit (url s : String) : Address.parse url s = paramsOf (Address.split url s) := rfl

theorem splitNoParams (url s : String) : (Address.split url s).params = "" := by
  simp only [Address.split]

theorem paramsOfFields {a b : Address} (scheme : a.scheme = b.scheme) (netloc : a.netloc = b.netloc)
    (path : a.path = b.path) (params : a.params = b.params) (query : a.query = b.query) :
    (paramsOf a).scheme = (paramsOf b).scheme ∧ (paramsOf a).netloc = (paramsOf b).netloc ∧
    (paramsOf a).path = (paramsOf b).path ∧ (paramsOf a).params = (paramsOf b).params ∧
    (paramsOf a).query = (paramsOf b).query := by
  unfold paramsOf
  rw [scheme, path]
  split
  · obtain ⟨p, q⟩ := Address.splitParams b.path
    exact ⟨rfl, netloc, rfl, rfl, query⟩
  · exact ⟨scheme, netloc, path, params, query⟩

theorem parseKey (url s : String) :
    (Address.parse url s).scheme = (Address.parse (withoutFragment url) s).scheme ∧
    (Address.parse url s).netloc = (Address.parse (withoutFragment url) s).netloc ∧
    (Address.parse url s).path = (Address.parse (withoutFragment url) s).path ∧
    (Address.parse url s).params = (Address.parse (withoutFragment url) s).params ∧
    (Address.parse url s).query = (Address.parse (withoutFragment url) s).query := by
  rcases splitHash url with same | ⟨f, chars⟩
  · rw [← same]
    exact ⟨rfl, rfl, rfl, rfl, rfl⟩
  · generalize hk : (withoutFragment url).toList = k at chars
    have noHash : '#' ∉ k := hk ▸ noHashKey url
    have key : withoutFragment url = String.ofList k := by rw [← hk, String.ofList_toList]
    rw [key, chars, parseSplit, parseSplit]
    obtain ⟨scheme, netloc, path, query⟩ := splitFragment noHash f s
    exact paramsOfFields scheme netloc path (by rw [splitNoParams, splitNoParams]) query

theorem hostOfKey (url : String) : hostOf (withoutFragment url) = hostOf url :=
  (parseKey url "").2.1.symm

theorem resolveKey {u u' : String} (same : withoutFragment u = withoutFragment u') (hu : u ≠ "")
    (hu' : u' ≠ "") {l : String} (hl : l ≠ "") : resolveReference u l = resolveReference u' l := by
  obtain ⟨s1, n1, p1, pa1, q1⟩ := parseKey u ""
  obtain ⟨s2, n2, p2, pa2, q2⟩ := parseKey u' ""
  rw [same] at s1 n1 p1 pa1 q1
  have e1 : u.isEmpty = false := by simpa using hu
  have e2 : u'.isEmpty = false := by simpa using hu'
  have e3 : l.isEmpty = false := by simpa using hl
  simp only [resolveReference, e1, e2, e3, Bool.false_eq_true, if_false]
  rw [s1, n1, p1, pa1, q1, s2, n2, p2, pa2, q2]


/-! ### One call of the crawl -/

section Step
variable (net : Network) (reader : Reader) (outDir host : String) (fuel : Nat)

def follow (url : String) (seen : List String) (link : String) : Script (List String) := do
  let full ← joinLink url link
  if hostOf full == host then crawlFrom net reader outDir host fuel seen full else pure seen

variable {net reader outDir host fuel} {seen : List String} {url : String} (d : Desk)

theorem crawlSeenRun (old : withoutFragment url ∈ seen) :
    crawlFrom net reader outDir host (fuel + 1) seen url d = .ok seen d := by
  simp only [crawlFrom, List.contains_iff_mem, old, if_true]
  rfl

theorem crawlFailRun (fresh : withoutFragment url ∉ seen) {msg : String}
    (failed : net.get url = .error msg) :
    ∃ d', crawlFrom net reader outDir host (fuel + 1) seen url d = .ok (seen ++ [withoutFragment url]) d' := by
  simp only [crawlFrom, List.contains_iff_mem, fresh, if_false, failed]
  exact ⟨_, rfl⟩

theorem crawlPageRun (fresh : withoutFragment url ∉ seen) {html : String}
    (fetched : net.get url = .ok html) :
    ∃ d', crawlFrom net reader outDir host (fuel + 1) seen url d =
      (reader.links html).foldlM (follow net reader outDir host fuel url) (seen ++ [withoutFragment url]) d' := by
  simp only [crawlFrom, List.contains_iff_mem, fresh, if_false, fetched]
  exact ⟨_, rfl⟩

end Step

/-! ### Results of a crawl -/

/-- What a crawl's result says: when it returns, `keeps` holds of the addresses seen; when it
stops, it was refused for an address with an unmatched bracket in its host part, and `stop`
holds. -/
inductive Settles (keeps : List String → Prop) (stop : Prop) : EStateM.Result Halt Desk (List String) → Prop
  | returned {seen : List String} {d : Desk} : keeps seen → Settles keeps stop (.ok seen d)
  | refused {d : Desk} : stop → Settles keeps stop (.error (.raise ⟨"ValueError", "Invalid IPv6 URL"⟩) d)

theorem Settles.mono {keeps keeps' : List String → Prop} {stop stop' : Prop}
    (hkeeps : ∀ seen, keeps seen → keeps' seen) (hstop : stop → stop') {r : EStateM.Result Halt Desk (List String)}
    (h : Settles keeps stop r) : Settles keeps' stop' r := by
  cases h with
  | returned h => exact .returned (hkeeps _ h)
  | refused h => exact .refused (hstop h)

theorem scriptBindRun {α β : Type} {x : Script α} {f : α → Script β} {d d' : Desk} {a : α}
    (h : x d = .ok a d') : (x >>= f) d = f a d' := by
  show EStateM.bind x f d = _
  simp [EStateM.bind, h]

theorem scriptBindFails {α β : Type} {x : Script α} {f : α → Script β} {d d' : Desk} {e : Halt}
    (h : x d = .error e d') : (x >>= f) d = .error e d' := by
  show EStateM.bind x f d = _
  simp [EStateM.bind, h]

theorem settlesBind {x : Script (List String)} {f : List String → Script (List String)} {d : Desk}
    {keeps keeps' : List String → Prop} {stop : Prop} (first : Settles keeps stop (x d))
    (next : ∀ seen d', keeps seen → Settles keeps' stop (f seen d')) : Settles keeps' stop ((x >>= f) d) := by
  cases ran : x d with
  | ok seen d' =>
    rw [scriptBindRun ran]
    rw [ran] at first
    cases first with
    | returned h => exact next seen d' h
  | error e d' =>
    rw [scriptBindFails ran]
    rw [ran] at first
    cases first with
    | refused h => exact .refused h

theorem foldSettles {β : Type} {g : List String → β → Script (List String)} {whole : List β}
    {inv : List String → Prop} {done : β → List String → Prop} {stop : Prop}
    (keep : ∀ x seen seen', done x seen → seen ⊆ seen' → done x seen')
    (step : ∀ x ∈ whole, ∀ seen d, inv seen →
      Settles (fun seen' => inv seen' ∧ seen ⊆ seen' ∧ done x seen') stop (g seen x d)) :
    ∀ xs : List β, (∀ x ∈ xs, x ∈ whole) → ∀ seen d, inv seen →
      Settles (fun seen' => inv seen' ∧ seen ⊆ seen' ∧ ∀ x ∈ xs, done x seen') stop (xs.foldlM g seen d) := by
  intro xs
  induction xs with
  | nil =>
    intro _ seen d h
    exact .returned ⟨h, List.Subset.refl _, by simp⟩
  | cons x xs ih =>
    intro within seen d h
    rw [List.foldlM_cons]
    refine settlesBind (step x (within x (by simp)) seen d h) fun seen₁ d₁ first => ?_
    obtain ⟨h₁, sub₁, done₁⟩ := first
    refine (ih (fun y m => within y (by simp [m])) seen₁ d₁ h₁).mono (fun seen₂ rest => ?_) id
    obtain ⟨h₂, sub₂, done₂⟩ := rest
    refine ⟨h₂, List.Subset.trans sub₁ sub₂, ?_⟩
    simp only [List.mem_cons, forall_eq_or_imp]
    exact ⟨keep x seen₁ seen₂ done₁ sub₂, done₂⟩

/-! ### Resolving links -/

theorem joinLinkPlain {base link : String} (hb : Address.unmatchedBracket base = false)
    (hl : Address.unmatchedBracket link = false) (hr : Address.unmatchedBracket (resolveReference base link) = false)
    (d : Desk) : joinLink base link d = .ok (resolveReference base link) d := by
  simp only [joinLink, hb, hl, hr, Bool.or_false, Bool.and_false, Bool.false_eq_true, if_false]
  rfl

theorem joinLinkFails {base link : String} {d d' : Desk} {e : Halt} (h : joinLink base link d = .error e d') :
    e = .raise ⟨"ValueError", "Invalid IPv6 URL"⟩ ∧
      (Address.unmatchedBracket base = true ∨ Address.unmatchedBracket link = true ∨
        Address.unmatchedBracket (resolveReference base link) = true) := by
  rcases CrawlPaths.joinLinkRun base link d with joined | refused
  · rw [joined] at h
    cases h
  · rw [refused] at h
    cases h
    refine ⟨rfl, ?_⟩
    by_contra plain
    simp only [not_or, Bool.not_eq_true] at plain
    rw [joinLinkPlain plain.1 plain.2.1 plain.2.2] at refused
    cases refused


/-! ### The closure of the seeds -/

section Closure
variable (net : Network) (reader : Reader)

/-- The addresses a crawl from `s` reaches: `s`, and each link of a page reached and fetched,
resolved against the page's address, when the result lies on `s`'s host. -/
inductive Reaches (s : String) : String → Prop
  | start : Reaches s s
  | link {u html l : String} : Reaches s u → net.get u = .ok html → l ∈ reader.links html →
      hostOf (resolveReference u l) = hostOf s → Reaches s (resolveReference u l)

def InClosure (seeds : List String) (k : String) : Prop :=
  ∃ s ∈ seeds, ∃ v, Reaches net reader s v ∧ withoutFragment v = k

def MeetsMalformed (s : String) : Prop :=
  Address.unmatchedBracket s = true ∨ ∃ u html l, Reaches net reader s u ∧ net.get u = .ok html ∧
    l ∈ reader.links html ∧
    (Address.unmatchedBracket l = true ∨ Address.unmatchedBracket (resolveReference u l) = true)

variable {net reader}

theorem Reaches.host {s u : String} (h : Reaches net reader s u) : hostOf u = hostOf s := by
  cases h with
  | start => rfl
  | link _ _ _ onHost => exact onHost

theorem Reaches.malformed {s u : String} (h : Reaches net reader s u) (bad : Address.unmatchedBracket u = true) :
    MeetsMalformed net reader s := by
  cases h with
  | start => exact .inl bad
  | link reach fetched mem _ => exact .inr ⟨_, _, _, reach, fetched, mem, .inr bad⟩

theorem linkMalformed {s u html l : String} (reach : Reaches net reader s u) (fetched : net.get u = .ok html)
    (mem : l ∈ reader.links html)
    (bad : Address.unmatchedBracket u = true ∨ Address.unmatchedBracket l = true ∨
      Address.unmatchedBracket (resolveReference u l) = true) : MeetsMalformed net reader s := by
  rcases bad with base | link
  · exact reach.malformed base
  · exact .inr ⟨u, html, l, reach, fetched, mem, link⟩

end Closure

/-! ### The state of a depth-first crawl -/

/-- The state of a depth-first crawl from `seeds`: the addresses seen, each once and each in
the closure, and the gray ones, served pages whose links are still being followed. Every
page seen that is not gray has all its links on its own host seen. -/
structure Explored (net : Network) (reader : Reader) (seeds seen gray : List String) : Prop where
  nodup : seen.Nodup
  grayNodup : gray.Nodup
  graySeen : ∀ k ∈ gray, k ∈ seen
  grayServed : ∀ k ∈ gray, k ∈ net.served
  sound : ∀ k ∈ seen, InClosure net reader seeds k
  closed : ∀ k ∈ seen, k ∉ gray → ∀ u html l, withoutFragment u = k → net.get u = .ok html →
    l ∈ reader.links html → hostOf (resolveReference u l) = hostOf u →
    withoutFragment (resolveReference u l) ∈ seen

namespace Explored
variable {net : Network} {reader : Reader} {seeds seen gray : List String} {k : String}

theorem empty : Explored net reader seeds [] [] where
  nodup := List.nodup_nil
  grayNodup := List.nodup_nil
  graySeen := by simp
  grayServed := by simp
  sound := by simp
  closed := by simp

theorem grayLength (e : Explored net reader seeds seen gray) : gray.length ≤ net.served.length := by
  have := (e.grayNodup.subperm e.grayServed).length_le
  simpa using this

theorem enter (e : Explored net reader seeds seen gray) (fresh : k ∉ seen)
    (served : k ∈ net.served) (inClosure : InClosure net reader seeds k) :
    Explored net reader seeds (seen ++ [k]) (gray ++ [k]) where
  nodup := e.nodup.append (List.nodup_singleton k) (by simpa using fresh)
  grayNodup := e.grayNodup.append (List.nodup_singleton k) (by simpa using fun m => fresh (e.graySeen k m))
  graySeen := by
    simp only [List.mem_append, List.mem_singleton]
    rintro k' (gray | rfl)
    · exact .inl (e.graySeen k' gray)
    · exact .inr rfl
  grayServed := by
    simp only [List.mem_append, List.mem_singleton]
    rintro k' (gray | rfl)
    · exact e.grayServed k' gray
    · exact served
  sound := by
    simp only [List.mem_append, List.mem_singleton]
    rintro k' (old | rfl)
    · exact e.sound k' old
    · exact inClosure
  closed := by
    simp only [List.mem_append, List.mem_singleton, not_or]
    rintro k' (old | rfl) ⟨white, notNew⟩ u html l key fetched mem onHost
    · exact .inl (e.closed k' old white u html l key fetched mem onHost)
    · exact absurd rfl notNew

theorem skip (e : Explored net reader seeds seen gray) (fresh : k ∉ seen)
    (inClosure : InClosure net reader seeds k)
    (unserved : ∀ u html, withoutFragment u = k → net.get u ≠ .ok html) :
    Explored net reader seeds (seen ++ [k]) gray where
  nodup := e.nodup.append (List.nodup_singleton k) (by simpa using fresh)
  grayNodup := e.grayNodup
  graySeen k' gray := List.mem_append_left _ (e.graySeen k' gray)
  grayServed := e.grayServed
  sound := by
    simp only [List.mem_append, List.mem_singleton]
    rintro k' (old | rfl)
    · exact e.sound k' old
    · exact inClosure
  closed := by
    simp only [List.mem_append, List.mem_singleton]
    rintro k' (old | rfl) white u html l key fetched mem onHost
    · exact .inl (e.closed k' old white u html l key fetched mem onHost)
    · exact absurd fetched (unserved u html key)

theorem leave (e : Explored net reader seeds seen (gray ++ [k]))
    (done : ∀ u html l, withoutFragment u = k → net.get u = .ok html → l ∈ reader.links html →
      hostOf (resolveReference u l) = hostOf u → withoutFragment (resolveReference u l) ∈ seen) :
    Explored net reader seeds seen gray where
  nodup := e.nodup
  grayNodup := (e.grayNodup.sublist (List.sublist_append_left gray [k]))
  graySeen k' m := e.graySeen k' (List.mem_append_left _ m)
  grayServed k' m := e.grayServed k' (List.mem_append_left _ m)
  sound := e.sound
  closed k' old white := by
    by_cases same : k' = k
    · subst same
      exact done
    · exact e.closed k' old (by simp [white, same])

end Explored


/-! ### The crawl from one seed -/

section Crawl
variable {net : Network} {reader : Reader} {outDir : String} {seeds : List String} {s : String}

theorem nonemptyOfKey {u : String} (h : withoutFragment u ≠ "") : u ≠ "" := by
  rintro rfl
  exact h rfl

theorem servedKey (noEmpty : "" ∉ net.served) {u html : String} (fetched : net.get u = .ok html) :
    withoutFragment u ≠ "" :=
  fun empty => noEmpty (empty ▸ net.listed fetched)

theorem pageDone (noEmpty : "" ∉ net.served) {url html : String} {seen : List String}
    (reach : Reaches net reader s url) (fetched : net.get url = .ok html)
    (keyIn : withoutFragment url ∈ seen)
    (links : ∀ l ∈ reader.links html, hostOf (resolveReference url l) = hostOf s →
      withoutFragment (resolveReference url l) ∈ seen) :
    ∀ u html' l, withoutFragment u = withoutFragment url → net.get u = .ok html' →
      l ∈ reader.links html' → hostOf (resolveReference u l) = hostOf u →
      withoutFragment (resolveReference u l) ∈ seen := by
  intro u html' l same fetched' mem onHost
  have page : html' = html := by
    have := net.keyed same fetched'
    rw [fetched] at this
    cases this
    rfl
  subst page
  have keyNonempty := servedKey noEmpty fetched
  have hu : u ≠ "" := nonemptyOfKey (same ▸ keyNonempty)
  have hostU : hostOf u = hostOf s := by rw [← hostOfKey u, same, hostOfKey url, reach.host]
  by_cases empty : l = ""
  · -- an empty link is the page itself
    subst empty
    have itself : resolveReference u "" = u := by simp [resolveReference, hu]
    rw [itself, same]
    exact keyIn
  · rw [resolveKey same hu (nonemptyOfKey keyNonempty) empty] at onHost ⊢
    exact links l mem (onHost.trans hostU)

theorem followSettles {fuel : Nat} {gray : List String} {url html : String}
    (reach : Reaches net reader s url) (fetched : net.get url = .ok html)
    (rec : ∀ seen full d, Reaches net reader s full → Explored net reader seeds seen gray →
      Settles (fun seen' => Explored net reader seeds seen' gray ∧ seen ⊆ seen' ∧ withoutFragment full ∈ seen')
        (MeetsMalformed net reader s) (crawlFrom net reader outDir (hostOf s) fuel seen full d)) :
    ∀ l ∈ reader.links html, ∀ seen d, Explored net reader seeds seen gray →
      Settles (fun seen' => Explored net reader seeds seen' gray ∧ seen ⊆ seen' ∧
          (hostOf (resolveReference url l) = hostOf s → withoutFragment (resolveReference url l) ∈ seen'))
        (MeetsMalformed net reader s) (follow net reader outDir (hostOf s) fuel url seen l d) := by
  intro l mem seen d explored
  unfold follow
  rcases CrawlPaths.joinLinkRun url l d with joined | refused
  · rw [scriptBindRun joined]
    cases onHost' : hostOf (resolveReference url l) == hostOf s with
    | true =>
      have onHost := beq_iff_eq.mp onHost'
      simp only [↓reduceIte]
      exact (rec seen _ d (reach.link fetched mem onHost) explored).mono
        (fun _ h => ⟨h.1, h.2.1, fun _ => h.2.2⟩) id
    | false =>
      simp only [Bool.false_eq_true, ↓reduceIte]
      exact .returned ⟨explored, List.Subset.refl _, fun h => by simp [h] at onHost'⟩
  · rw [scriptBindFails refused]
    exact .refused (linkMalformed reach fetched mem (joinLinkFails refused).2)

theorem crawlFromSettles (noEmpty : "" ∉ net.served) (seed : s ∈ seeds) (fuel : Nat) :
    ∀ gray seen url d, Reaches net reader s url → Explored net reader seeds seen gray →
      net.served.length < fuel + gray.length →
      Settles (fun seen' => Explored net reader seeds seen' gray ∧ seen ⊆ seen' ∧ withoutFragment url ∈ seen')
        (MeetsMalformed net reader s) (crawlFrom net reader outDir (hostOf s) fuel seen url d) := by
  induction fuel with
  | zero =>
    intro gray seen url d _ explored bound
    have := explored.grayLength
    omega
  | succ fuel ih =>
    intro gray seen url d reach explored bound
    have inClosure : InClosure net reader seeds (withoutFragment url) := ⟨s, seed, url, reach, rfl⟩
    by_cases old : withoutFragment url ∈ seen
    · rw [crawlSeenRun d old]
      exact .returned ⟨explored, List.Subset.refl _, old⟩
    cases fetched : net.get url with
    | error msg =>
      -- the address is seen, and no address with its key serves a page
      obtain ⟨d', ran⟩ := crawlFailRun d old fetched
      rw [ran]
      have unserved : ∀ u html, withoutFragment u = withoutFragment url → net.get u ≠ .ok html := by
        intro u html same served
        rw [net.keyed same served] at fetched
        cases fetched
      exact .returned ⟨explored.skip old inClosure unserved, List.subset_append_left _ _, by simp⟩
    | ok html =>
      obtain ⟨d', ran⟩ := crawlPageRun d old fetched
      rw [ran]
      have entered := explored.enter old (net.listed fetched) inClosure
      have deeper : net.served.length < fuel + (gray ++ [withoutFragment url]).length := by
        simp only [List.length_append, List.length_singleton]
        omega
      have links := foldSettles (fun _ _ _ done sub onHost => sub (done onHost))
        (followSettles reach fetched fun seen' full d r e => ih _ seen' full d r e deeper)
        _ (fun _ m => m) _ d' entered
      refine links.mono (fun seen' h => ?_) id
      obtain ⟨explored', sub, done⟩ := h
      have keyIn : withoutFragment url ∈ seen' := sub (by simp)
      exact ⟨explored'.leave (pageDone noEmpty reach fetched keyIn done),
        List.Subset.trans (List.subset_append_left _ _) sub, keyIn⟩

end Crawl

/-! ### The crawl from every seed -/

section Seeds
variable (net : Network) (reader : Reader) (outDir : String)

def crawlSeed (seen : List String) (url : String) : Script (List String) := do
  if Address.unmatchedBracket url then invalidHost
  crawlFrom net reader outDir (hostOf url) (net.served.length + 2) seen url

theorem crawlSeedsFold (seeds : List String) :
    crawlSeeds net reader seeds outDir = seeds.foldlM (crawlSeed net reader outDir) [] := rfl

variable {net reader} {seeds : List String}

theorem seedSettles (noEmpty : "" ∉ net.served) {s : String} (seed : s ∈ seeds) (seen : List String)
    (d : Desk) (explored : Explored net reader seeds seen []) :
    Settles (fun seen' => Explored net reader seeds seen' [] ∧ seen ⊆ seen' ∧ withoutFragment s ∈ seen')
      (∃ s ∈ seeds, MeetsMalformed net reader s) (crawlSeed net reader outDir seen s d) := by
  unfold crawlSeed
  cases bad : Address.unmatchedBracket s with
  | true =>
    simp only [↓reduceIte]
    rw [scriptBindFails (show (invalidHost : Script Unit) d = .error _ d from rfl)]
    exact .refused ⟨s, seed, .inl bad⟩
  | false =>
    simp only [Bool.false_eq_true, ↓reduceIte]
    exact (crawlFromSettles noEmpty seed _ [] seen s d .start explored (by simp)).mono
      (fun _ h => h) (fun m => ⟨s, seed, m⟩)


theorem Explored.reaches {seen : List String} (e : Explored net reader seeds seen []) {s v : String}
    (start : withoutFragment s ∈ seen) (reach : Reaches net reader s v) : withoutFragment v ∈ seen := by
  induction reach with
  | start => exact start
  | link r fetched mem onHost ih =>
    exact e.closed _ ih List.not_mem_nil _ _ _ rfl fetched mem (onHost.trans r.host.symm)

theorem crawlVisitsClosure (net : Network) (reader : Reader) (seeds : List String) (d : Desk) (noEmpty : "" ∉ net.served) :
    (∀ seen d', crawlSeeds net reader seeds outDir d = .ok seen d' →
      seen.Nodup ∧ ∀ k, k ∈ seen ↔ InClosure net reader seeds k) ∧
    (∀ e d', crawlSeeds net reader seeds outDir d = .error e d' →
      e = .raise ⟨"ValueError", "Invalid IPv6 URL"⟩ ∧ ∃ s ∈ seeds, MeetsMalformed net reader s) := by
  have settled : Settles (fun seen => Explored net reader seeds seen [] ∧ [] ⊆ seen ∧ ∀ s ∈ seeds, withoutFragment s ∈ seen)
      (∃ s ∈ seeds, MeetsMalformed net reader s) (crawlSeeds net reader seeds outDir d) := by
    rw [crawlSeedsFold]
    -- the fold keeps the state with no gray page, and each seed is seen after its turn
    exact @foldSettles String (crawlSeed net reader outDir) seeds (fun seen => Explored net reader seeds seen [])
      (fun s seen => withoutFragment s ∈ seen) _ (fun _ _ _ m sub => sub m)
      (fun _ seed seen d explored => seedSettles outDir noEmpty seed seen d explored)
      seeds (fun _ m => m) [] d Explored.empty
  constructor
  · intro seen d' ran
    rw [ran] at settled
    obtain ⟨explored, -, seedsIn⟩ : Explored net reader seeds seen [] ∧ _ := by
      cases settled with
      | returned h => exact h
    refine ⟨explored.nodup, fun k => ⟨explored.sound k, ?_⟩⟩
    rintro ⟨s, seed, v, reach, rfl⟩
    exact explored.reaches (seedsIn s seed) reach
  · intro e d' ran
    rw [ran] at settled
    cases settled with
    | refused h => exact ⟨rfl, h⟩

def linkedSite : Network :=
  Network.ofPages (fun url => "no route to " ++ url)
    [("http://e.test/", { body := "<a href=\"/b\">b</a>" }), ("http://e.test/b", { body := "b" })]

theorem linkedSiteClosure :
    "" ∉ linkedSite.served ∧
    ((∀ seen d', crawlSeeds linkedSite .markup ["http://e.test/"] "out" {} = .ok seen d' →
        seen.Nodup ∧ ∀ k, k ∈ seen ↔ InClosure linkedSite .markup ["http://e.test/"] k) ∧
      (∀ e d', crawlSeeds linkedSite .markup ["http://e.test/"] "out" {} = .error e d' →
        e = .raise ⟨"ValueError", "Invalid IPv6 URL"⟩ ∧ ∃ s ∈ ["http://e.test/"], MeetsMalformed linkedSite .markup s)) :=
  ⟨by decide, crawlVisitsClosure "out" linkedSite .markup ["http://e.test/"] {} (by decide)⟩

end Seeds

end Portal.CrawlClosure
