import Mathlib
import Portal.Proofs.RequestLog
import Portal.Audit.Admin
/-! What the log's documents carry, and how the admin shows them. The texts of a document are
its strings, its member names and the words of its special numbers.

The request log's `api` row carries every query parameter of the request, name and value,
whatever the name: the test of secret names belongs to the error layer, which writes no row.
Beyond the query the row's metadata holds only the request's method and full path, the
response's content type and its own member names.

The admin shows a row's metadata as indented JSON between the tags of a `pre` element and
escapes nothing. JSON's writer escapes quotes, backslashes, control and non-ASCII characters; any
other printable character outside the writer's own alphabet is copied from the texts and occurs
in the written document exactly as often as in them. So each `<`, `>`, `&` and `'` of the
metadata reaches the page as it is, and the element's two tags hold the only others. Main
statements: `queryLoggedUnfiltered`, `metadataShownRaw`. -/
namespace Portal.LogTexts
open Web Audit LogStore RequestLog

mutual
def textsOf : Json → List String
  | .null | .bool _ | .int _ => []
  | .float f => f.special.toList
  | .str s => [s]
  | .arr xs => itemTexts xs
  | .obj kvs => memberTexts kvs

def itemTexts : List Json → List String
  | [] => []
  | x :: xs => textsOf x ++ itemTexts xs

def memberTexts : List (String × Json) → List String
  | [] => []
  | (k, v) :: kvs => k :: (textsOf v ++ memberTexts kvs)
end

theorem memberTextsFlat (kvs : List (String × Json)) :
    memberTexts kvs = kvs.flatMap fun kv => kv.1 :: textsOf kv.2 := by
  induction kvs with
  | nil => rfl
  | cons kv kvs ih => simp [memberTexts, ih]

theorem textsMember {kvs : List (String × Json)} {p : String × Json} (mem : p ∈ kvs) {s : String}
    (h : s ∈ textsOf p.2) : s ∈ memberTexts kvs := by
  rw [memberTextsFlat]
  exact List.mem_flatMap.2 ⟨p, mem, List.mem_cons_of_mem _ h⟩

@[simp] theorem textsStrs (vs : List String) : textsOf (Json.strs vs) = vs := by
  induction vs with
  | nil => rfl
  | cons v vs ih => simp_all [Json.strs, textsOf, itemTexts]

/-! The query as the log writes it: the pairs grouped by name. -/

def groupStep (acc : List (String × List String)) (kv : String × String) : List (String × List String) :=
  if acc.any (·.1 == kv.1) then acc.map fun p => if p.1 == kv.1 then (p.1, p.2 ++ [kv.2]) else p
  else acc ++ [(kv.1, [kv.2])]

theorem groupedSteps (ps : List (String × String)) : grouped ps = ps.foldl groupStep [] := rfl

def groupTexts (gs : List (String × List String)) : List String := gs.flatMap fun g => g.1 :: g.2

@[simp] theorem memGroupTexts (gs : List (String × List String)) (s : String) :
    s ∈ groupTexts gs ↔ ∃ g ∈ gs, s = g.1 ∨ s ∈ g.2 := by
  simp [groupTexts]

theorem memGroupStep (acc : List (String × List String)) (kv : String × String) (s : String) :
    s ∈ groupTexts (groupStep acc kv) ↔ s ∈ groupTexts acc ∨ s = kv.1 ∨ s = kv.2 := by
  unfold groupStep
  split
  · rename_i named
    -- the name has its group already, and the value joins that group
    obtain ⟨g, mem, same⟩ := List.any_eq_true.1 named
    simp only [beq_iff_eq] at same
    simp only [memGroupTexts, List.mem_map]
    constructor
    · rintro ⟨_, ⟨p, hp, rfl⟩, hs⟩
      by_cases h : p.1 = kv.1
      · simp only [h, beq_self_eq_true, if_true, List.mem_append, List.mem_singleton] at hs
        rcases hs with hs | hs | hs
        · exact .inr (.inl hs)
        · exact .inl ⟨p, hp, .inr hs⟩
        · exact .inr (.inr hs)
      · simp only [h, beq_iff_eq, if_false] at hs
        exact .inl ⟨p, hp, hs⟩
    · rintro (⟨p, hp, hs⟩ | rfl | rfl)
      · refine ⟨_, ⟨p, hp, rfl⟩, ?_⟩
        by_cases h : p.1 = kv.1
        · simp only [h, beq_self_eq_true, if_true, List.mem_append, List.mem_singleton]
          rw [h] at hs
          rcases hs with hs | hs
          · exact .inl hs
          · exact .inr (.inl hs)
        · simpa [h] using hs
      · exact ⟨_, ⟨g, mem, rfl⟩, by simp [same]⟩
      · exact ⟨_, ⟨g, mem, rfl⟩, by simp [same]⟩
  · simp

theorem memGrouped (ps : List (String × String)) (s : String) :
    s ∈ groupTexts (grouped ps) ↔ ∃ kv ∈ ps, s = kv.1 ∨ s = kv.2 := by
  rw [groupedSteps]
  suffices ∀ acc, s ∈ groupTexts (ps.foldl groupStep acc) ↔
      s ∈ groupTexts acc ∨ ∃ kv ∈ ps, s = kv.1 ∨ s = kv.2 by
    simpa [groupTexts] using this []
  induction ps with
  | nil => simp
  | cons kv ps ih =>
    intro acc
    rw [List.foldl_cons, ih, memGroupStep]
    simp only [List.mem_cons, exists_eq_or_imp]
    rw [or_assoc]

theorem textsPairs (ps : List (String × String)) : textsOf (pairsJson ps) = groupTexts (grouped ps) := by
  simp [pairsJson, textsOf, memberTextsFlat, groupTexts, List.flatMap_map]

/-! The `api` row. -/

def apiWords (r : Request) (resp : Response) : List String :=
  [r.method, r.fullPath, resp.contentType, "method", "path", "status_code", "content_type",
    "duration_ms", "request_size", "response_size", "query_params"]

theorem apiTextsQuery (r : Request) (resp : Response) {kv : String × String} (mem : kv ∈ r.params) :
    kv.1 ∈ textsOf (apiMetadata r resp) ∧ kv.2 ∈ textsOf (apiMetadata r resp) := by
  have asked : r.params.isEmpty = false := by
    cases h : r.params with
    | nil => rw [h] at mem; cases mem
    | cons _ _ => rfl
  have present : ("query_params", pairsJson r.params) ∈ (apiMetadata r resp).members := by
    simp [apiMetadata, Json.members, asked]
  have grouped (s : String) (h : s = kv.1 ∨ s = kv.2) : s ∈ textsOf (pairsJson r.params) := by
    rw [textsPairs, memGrouped]
    exact ⟨kv, mem, h⟩
  exact ⟨textsMember present (grouped _ (.inl rfl)), textsMember present (grouped _ (.inr rfl))⟩

theorem apiTextsOnly (r : Request) (resp : Response) :
    ∀ s ∈ textsOf (apiMetadata r resp), s ∈ apiWords r resp ∨ ∃ kv ∈ r.params, s = kv.1 ∨ s = kv.2 := by
  intro s hs
  simp only [apiMetadata, textsOf, memberTextsFlat, List.flatMap_append, List.mem_append] at hs
  rcases hs with fixed | (body | sent) | query
  · simp only [List.flatMap_cons, List.flatMap_nil, textsOf, List.append_nil, List.mem_cons,
      List.mem_append, List.not_mem_nil, or_false] at fixed
    left
    -- each fixed member gives its name and, for the texts, its value
    rcases fixed with (rfl | rfl) | (rfl | rfl) | rfl | (rfl | rfl) | rfl <;> simp [apiWords]
  · left
    split at body <;> simp_all [textsOf, apiWords]
  · left
    split at sent <;> simp_all [textsOf, apiWords]
  · split at query
    · simp at query
    · simp only [List.flatMap_cons, List.flatMap_nil, List.append_nil, List.mem_cons, textsPairs,
        memGrouped] at query
      rcases query with rfl | found
      · simp [apiWords]
      · exact .inr found

theorem queryLoggedUnfiltered (settings : Overrides) (r : Request) (inner : App Response) {w w₁ : World}
    {resp : Response} (hs : shouldSkip settings r = .ok false) (hi : inner w = .ok resp w₁)
    (ready : LogReady w₁.db) (intact : (r.multipart && w₁.exchange.formRead) = false) {u : Value}
    (hu : userColumn.prep (ctxValue w₁ "user_id") = .ok u) (cu : CountCell u) :
    ∃ w₂ row doc, requestLogging settings r inner w = .ok resp w₂ ∧
      (logRows w₂).Perm (logRows w₁ ++ [row]) ∧ row.get "metadata" = .json doc ∧
      (∀ kv ∈ r.params, kv.1 ∈ textsOf doc ∧ kv.2 ∈ textsOf doc) ∧
      ∀ s ∈ textsOf doc, s ∈ apiWords r resp ∨ ∃ kv ∈ r.params, s = kv.1 ∨ s = kv.2 := by
  refine ⟨_, { pk := (w₁.db.table .systemLog).seq + 1, cells := apiCells r resp w₁ u }, apiMetadata r resp,
    requestLogAppends settings r inner hs hi ready intact hu cu, logRowsAppend ready _, ?_,
    fun kv mem => apiTextsQuery r resp mem, apiTextsOnly r resp⟩
  simp [Row.get, apiCells, logCells]

def tokenQuery : Request := { path := "/tasks/", query := "token=s3cr3t", params := [("token", "s3cr3t")] }

theorem tokenQueryKept : shouldSkip {} tokenQuery = .ok false := by
  simp [shouldSkip, pathSkipped, pathSkipped.scan, methodSkipped, defaultSkipPaths, fixedSkipPaths,
    defaultSkipMethods, Json.occursIn, BEq.beq, Json.beq, Request.header?, noAgentKept, tokenQuery]
  rfl

theorem tokenQueryLogged : shouldSkip {} tokenQuery = .ok false ∧ LogReady ({} : World).db ∧
    ∃ w₂ row doc, requestLogging {} tokenQuery (pure { status := 302 }) {} = .ok { status := 302 } w₂ ∧
      (logRows w₂).Perm (logRows {} ++ [row]) ∧ row.get "metadata" = .json doc ∧
      (∀ kv ∈ tokenQuery.params, kv.1 ∈ textsOf doc ∧ kv.2 ∈ textsOf doc) ∧
      ∀ s ∈ textsOf doc, s ∈ apiWords tokenQuery { status := 302 } ∨
        ∃ kv ∈ tokenQuery.params, s = kv.1 ∨ s = kv.2 :=
  ⟨tokenQueryKept, emptyReady, queryLoggedUnfiltered {} tokenQuery (pure { status := 302 }) tokenQueryKept rfl
    emptyReady rfl rfl (.inl rfl)⟩

theorem tokenStored : ∃ w₂, requestLogging {} tokenQuery (pure { status := 302 }) {} = .ok { status := 302 } w₂ ∧
    ∃ row ∈ logRows w₂, ∃ doc, row.get "metadata" = .json doc ∧ "s3cr3t" ∈ textsOf doc := by
  let answered : Response := { status := 302 }
  refine ⟨_, requestLogAppends {} tokenQuery (pure answered) tokenQueryKept rfl emptyReady rfl rfl (.inl rfl),
    { pk := 1, cells := apiCells tokenQuery answered {} .null }, ?_, apiMetadata tokenQuery answered, ?_,
    (apiTextsQuery tokenQuery answered (List.mem_singleton_self _)).2⟩
  · exact (logRowsAppend emptyReady _).mem_iff.2 (List.mem_append_right _ (List.mem_singleton_self _))
  · simp [Row.get, apiCells, logCells]

/-! The written form. -/

def ownChar (c : Char) : Bool :=
  c.isDigit || decide (c ∈ ['"', '\\', '[', ']', '{', '}', ',', ':', ' ', '\n', '-', '+', '.', 'a', 'b', 'c',
    'd', 'e', 'f', 'l', 'n', 'r', 's', 't', 'u'])

def Copied (c : Char) : Prop := 0x20 ≤ c.toNat ∧ c.toNat < 0x7f ∧ ownChar c = false

def countIn (c : Char) (ts : List String) : Nat := (ts.map fun s => s.toList.count c).sum

@[simp] theorem countInNil (c : Char) : countIn c [] = 0 := rfl

@[simp] theorem countInCons (c : Char) (t : String) (ts : List String) :
    countIn c (t :: ts) = t.toList.count c + countIn c ts := by
  simp [countIn]

@[simp] theorem countInAppend (c : Char) (ts us : List String) :
    countIn c (ts ++ us) = countIn c ts + countIn c us := by
  simp [countIn]

def OwnText (t : String) : Prop := ∀ y ∈ t.toList, ownChar y = true

@[simp] theorem ownTextAppend (s t : String) : OwnText (s ++ t) ↔ OwnText s ∧ OwnText t := by
  simp [OwnText, or_imp, forall_and]

@[simp] theorem ownTextIte {p : Prop} [Decidable p] (a b : String) :
    OwnText (if p then a else b) ↔ (p → OwnText a) ∧ (¬p → OwnText b) := by
  split <;> simp [*]

theorem unicodeOwn : OwnText "\\u" := by simp [OwnText, ownChar]

section
variable {c : Char}

theorem ownCount (hc : Copied c) {t : String} (h : OwnText t) : t.toList.count c = 0 :=
  List.count_eq_zero.2 fun m => by simpa [hc.2.2] using h c m

theorem reprOwn (n : Nat) : OwnText (toString n) := by
  intro x hx
  have : x.isDigit = true := Nat.isDigit_of_mem_toDigits (by decide) (by decide) (Nat.toList_repr ▸ hx)
  simp [ownChar, this]

theorem intReprOwn (n : Int) : OwnText (toString n) := by
  intro x hx
  cases n with
  | ofNat m => exact reprOwn m x hx
  | negSucc m =>
    change x ∈ ("-" ++ Nat.repr (m + 1)).toList at hx
    rw [String.toList_append, List.mem_append] at hx
    rcases hx with hx | hx
    · simp at hx
      simp [hx, ownChar]
    · exact reprOwn (m + 1) x hx

theorem hexDigitOwn (m : Nat) (h : m < 16) : ownChar (Text.hexDigit m) = true := by
  interval_cases m <;> decide

theorem hexPadOwn (width n : Nat) : OwnText (Text.hexPad width n) := by
  suffices ∀ k n acc, ∀ x ∈ Text.hexPad.go k n acc, ownChar x = true ∨ x ∈ acc by
    intro x hx
    simpa using this width n [] x (by simpa [Text.hexPad] using hx)
  intro k
  induction k with
  | zero => intro n acc x hx; exact .inr hx
  | succ k ih =>
    intro n acc x hx
    rcases ih (n / 16) _ x hx with own | mem
    · exact .inl own
    rcases List.mem_cons.1 mem with rfl | mem
    · exact .inl (hexDigitOwn _ (Nat.mod_lt _ (by decide)))
    · exact .inr mem

theorem escapedCount (hc : Copied c) {x : Char} {t : String} (own : OwnText t)
    (other : ownChar x = true ∨ x.toNat < 0x20 ∨ 0x7e < x.toNat) :
    t.toList.count c = [x].count c := by
  have differs : x ≠ c := by
    rintro rfl
    obtain ⟨low, high, notOwn⟩ := hc
    rcases other with h | h | h
    · rw [h] at notOwn; cases notOwn
    · omega
    · omega
  simp [ownCount hc own, differs]

theorem escapeCase {p : Prop} [Decidable p] {x : Char} {a b : String} (ha : p → a.toList.count c = [x].count c)
    (hb : ¬p → b.toList.count c = [x].count c) : (if p then a else b).toList.count c = [x].count c := by
  split
  · exact ha ‹_›
  · exact hb ‹_›

theorem quoteCount (hc : Copied c) (s : String) : (Json.quote true s).toList.count c = s.toList.count c := by
  unfold Json.quote
  simp only [String.toList_append, String.toList_join, List.count_append, List.flatMap_map]
  have quoteMark : ("\"" : String).toList.count c = 0 := ownCount hc (by simp [OwnText, ownChar])
  rw [quoteMark, Nat.zero_add, Nat.add_zero]
  generalize s.toList = l
  induction l with
  | nil => rfl
  | cons x l ih =>
    rw [List.flatMap_cons, List.count_append, ih, ← List.singleton_append, List.count_append]
    clear ih
    congr 1
    -- each escape is written in the writer's own characters and stands for a character that
    -- is the writer's own or not printable ASCII, so no copied character is escaped
    refine escapeCase (fun quote => escapedCount hc (by simp [OwnText, ownChar]) (.inl (by rw [quote]; decide)))
      fun _ => ?_
    refine escapeCase (fun slash => escapedCount hc (by simp [OwnText, ownChar]) (.inl (by rw [slash]; decide)))
      fun _ => ?_
    refine escapeCase (fun line => escapedCount hc (by simp [OwnText, ownChar]) (.inl (by rw [line]; decide)))
      fun _ => ?_
    refine escapeCase (fun ret => escapedCount hc (by simp [OwnText, ownChar]) (.inr (.inl (by rw [ret]; decide))))
      fun _ => ?_
    refine escapeCase (fun tab => escapedCount hc (by simp [OwnText, ownChar]) (.inr (.inl (by rw [tab]; decide))))
      fun _ => ?_
    refine escapeCase (fun back => escapedCount hc (by simp [OwnText, ownChar]) (.inr (.inl (by rw [back]; decide))))
      fun _ => ?_
    refine escapeCase (fun feed => escapedCount hc (by simp [OwnText, ownChar]) (.inr (.inl (by rw [feed]; decide))))
      fun _ => ?_
    refine escapeCase (fun control => escapedCount hc (by simp [unicodeOwn, hexPadOwn]) (.inr (.inl control)))
      fun _ => ?_
    exact escapeCase (fun wide => escapedCount hc (by split <;> simp [unicodeOwn, hexPadOwn]) (.inr (.inr wide.2)))
      fun _ => by simp
theorem ofListOwn {l : List Char} (h : ∀ y ∈ l, ownChar y = true) : OwnText (String.ofList l) := by
  simpa [OwnText] using h

theorem replicateOwn (k : Nat) : OwnText (String.ofList (List.replicate k '0')) :=
  ofListOwn fun y hy => by simp [(List.mem_replicate.1 hy).2, ownChar]

theorem takeOwn {s : String} (k : Nat) (h : OwnText s) : OwnText (String.ofList (s.toList.take k)) :=
  ofListOwn fun y hy => h y (List.mem_of_mem_take hy)

theorem dropOwn {s : String} (k : Nat) (h : OwnText s) : OwnText (String.ofList (s.toList.drop k)) :=
  ofListOwn fun y hy => h y (List.mem_of_mem_drop hy)

theorem sciOwn (f : Sci) (plain : f.special = none) : OwnText f.render := by
  unfold Sci.render
  rw [plain]
  dsimp only
  simp only [ownTextAppend, ownTextIte, reprOwn, replicateOwn, takeOwn _ (reprOwn _), dropOwn _ (reprOwn _),
    and_true, implies_true]
  simp [OwnText, ownChar]
theorem floatCount (hc : Copied c) (f : Sci) : f.render.toList.count c = countIn c (textsOf (.float f)) := by
  cases h : f.special with
  | none => simp [textsOf, h, ownCount hc (sciOwn f h)]
  | some s => simp [textsOf, h, Sci.render]

theorem openCount (hc : Copied c) (level : Nat) : (Json.openAt .pretty level).toList.count c = 0 := by
  apply ownCount hc
  simp [Json.openAt, JsonStyle.pretty, OwnText, List.mem_replicate, ownChar]

theorem markCount (hc : Copied c) {b : Char} (own : ownChar b = true) : [b].count c = 0 :=
  List.count_eq_zero.2 fun m => by simp [Copied, List.mem_singleton.1 m, own] at hc

theorem prettySeps : OwnText JsonStyle.pretty.itemSep ∧ OwnText JsonStyle.pretty.keySep := by
  simp [JsonStyle.pretty, OwnText, ownChar]

theorem leadCount (hc : Copied c) (level : Nat) (first : Bool) :
    (if first then Json.openAt .pretty level
      else JsonStyle.pretty.itemSep ++ Json.openAt .pretty level).toList.count c = 0 := by
  split
  · exact openCount hc level
  · rw [String.toList_append, List.count_append, ownCount hc prettySeps.1, openCount hc]

mutual
theorem renderCount (hc : Copied c) : ∀ (level : Nat) (j : Json),
    (Json.renderAt .pretty level j).toList.count c = countIn c (textsOf j)
  | _, .null => ownCount hc (by simp [Json.renderAt, OwnText, ownChar])
  | _, .bool b => by cases b <;> exact ownCount hc (by simp [Json.renderAt, OwnText, ownChar])
  | _, .int n => ownCount hc (intReprOwn n)
  | _, .float f => by rw [Json.renderAt, floatCount hc]
  | _, .str s => by simp [Json.renderAt, JsonStyle.pretty, quoteCount hc, textsOf]
  | _, .arr [] => ownCount hc (by simp [Json.renderAt, OwnText, ownChar])
  | level, .arr (x :: xs) => by
    simp only [Json.renderAt, String.toList_append, List.count_append, itemsCount hc (level + 1) true (x :: xs),
      Json.closeAt, openCount hc]
    simp [textsOf, markCount hc, ownChar]
  | _, .obj [] => ownCount hc (by simp [Json.renderAt, OwnText, ownChar])
  | level, .obj (kv :: kvs) => by
    simp only [Json.renderAt, String.toList_append, List.count_append, membersCount hc (level + 1) true (kv :: kvs),
      Json.closeAt, openCount hc]
    simp [textsOf, markCount hc, ownChar]

theorem itemsCount (hc : Copied c) : ∀ (level : Nat) (first : Bool) (xs : List Json),
    (Json.renderItems .pretty level first xs).toList.count c = countIn c (itemTexts xs)
  | _, _, [] => rfl
  | level, first, x :: xs => by
    simp only [Json.renderItems, String.toList_append, List.count_append, renderCount hc level x,
      itemsCount hc level false xs, itemTexts, countInAppend, leadCount hc, Nat.zero_add]

theorem membersCount (hc : Copied c) : ∀ (level : Nat) (first : Bool) (kvs : List (String × Json)),
    (Json.renderMembers .pretty level first kvs).toList.count c = countIn c (memberTexts kvs)
  | _, _, [] => rfl
  | level, first, kv :: kvs => by
    simp only [Json.renderMembers, String.toList_append, List.count_append, renderCount hc level kv.2,
      membersCount hc level false kvs, memberTexts, countInAppend, countInCons, leadCount hc,
      ownCount hc prettySeps.2, show JsonStyle.pretty.asciiOnly = true from rfl, quoteCount hc]
    omega
end

end

mutual
theorem sortTexts : ∀ j : Json, (textsOf (Json.sortDeep j)).Perm (textsOf j)
  | .null | .bool _ | .int _ | .float _ | .str _ => .refl _
  | .arr xs => by simpa [Json.sortDeep, textsOf] using sortItemsTexts xs
  | .obj kvs => by
    simp only [Json.sortDeep, Json.orderKeys, if_true, textsOf]
    rw [memberTextsFlat, memberTextsFlat]
    refine ((List.mergeSort_perm _ _).flatMap_right _).trans ?_
    rw [← memberTextsFlat, ← memberTextsFlat]
    exact sortMembersTexts kvs

theorem sortItemsTexts : ∀ xs : List Json, (itemTexts (Json.sortItems xs)).Perm (itemTexts xs)
  | [] => .refl _
  | x :: xs => (sortTexts x).append (sortItemsTexts xs)

theorem sortMembersTexts : ∀ kvs : List (String × Json), (memberTexts (Json.sortMembers kvs)).Perm (memberTexts kvs)
  | [] => .refl _
  | kv :: kvs => ((sortTexts kv.2).append (sortMembersTexts kvs)).cons kv.1
end

theorem countInPerm (c : Char) {ts us : List String} (h : ts.Perm us) : countIn c ts = countIn c us :=
  (h.map _).sum_eq

theorem prettyCount {c : Char} (hc : Copied c) (j : Json) :
    (j.renderWith .pretty).toList.count c = countIn c (textsOf j) := by
  rw [Json.renderWith, if_pos (show JsonStyle.pretty.sortKeys = true from rfl), renderCount hc,
    countInPerm c (sortTexts j)]

/-! The admin's display. -/

theorem metadataTextPretty (o : Obj) {j : Json} (stored : o.get "metadata" = .json j)
    (shown : (Value.json j).truthy = true) : metadataText o = j.renderWith .pretty := by
  simp [metadataText, stored, shown]

theorem metadataShownRaw (o : Obj) {j : Json} (stored : o.get "metadata" = .json j)
    (shown : (Value.json j).truthy = true) {c : Char} (hc : c ∈ ['<', '>', '&', '\x27']) :
    (metadataFormatted o).toList.count c = (if c = '<' ∨ c = '>' then 2 else 0) + countIn c (textsOf j) := by
  have copied : Copied c := by
    simp only [List.mem_cons, List.not_mem_nil, or_false] at hc
    rcases hc with rfl | rfl | rfl | rfl <;> exact ⟨by decide, by decide, by decide⟩
  unfold metadataFormatted
  rw [stored, metadataTextPretty o stored shown]
  simp only [shown, Bool.not_true, Bool.false_eq_true, if_false, String.toList_append, List.count_append,
    prettyCount copied]
  rw [Nat.add_right_comm, Nat.add_right_cancel_iff]
  simp only [String.reduceToList]
  simp only [List.mem_cons, List.not_mem_nil, or_false] at hc
  rcases hc with rfl | rfl | rfl | rfl <;> decide

def boldRow : Obj := { entity := .systemLog, cells := [("metadata", .json (.obj [("x", .str "<b>")]))] }

theorem boldRowCounted : boldRow.get "metadata" = .json (.obj [("x", .str "<b>")]) ∧
    (Value.json (.obj [("x", .str "<b>")])).truthy = true ∧ '<' ∈ ['<', '>', '&', '\x27'] ∧
    (metadataFormatted boldRow).toList.count '<' =
      (if '<' = '<' ∨ '<' = '>' then 2 else 0) + countIn '<' (textsOf (.obj [("x", .str "<b>")])) :=
  ⟨rfl, rfl, by decide, metadataShownRaw boldRow rfl rfl (by decide)⟩

theorem boldShownRaw : metadataFormatted boldRow = "<pre style=\"background-color: #f8f9fa; padding: 10px; " ++
    "border-radius: 4px; white-space: pre-wrap; font-family: monospace; font-size: 12px;\">" ++
    "\x7b\n  \"x\": \"<b>\"\n\x7d</pre>" := by
  decide +kernel

end Portal.LogTexts
