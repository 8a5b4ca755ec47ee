import Mathlib
import Portal.Proofs.Delivery
/-! The life of a websocket connection: it connects, its client sends frames, and it leaves. A
consumer accepts a signed-in user (staff, for the two admin consumers), joins one group and
remembers it; leaving takes its channel out of that group again. A refused connection joins no
group and sends nothing to any group, but only the three consumers that look for their group
before leaving it leave quietly: the two admin consumers and the presence consumer fail on the
attribute they set only when they accept.

Main statement: `connectionLifecycle`. -/
namespace Portal.Lifecycle
open Channels Delivery Std.Do

set_option mvcgen.warning false

/-! ### Channels in groups -/

def Apart (ch : String) (l : Layer) : Prop := ∀ p ∈ l.groups, ch ∉ p.2

def Within (ch g : String) (l : Layer) : Prop :=
  ∀ p ∈ l.groups, (ch ∈ p.2 → p.1 = g) ∧ ch ∉ p.2.erase ch

theorem withinOfApart {ch : String} (g : String) {l : Layer} (h : Apart ch l) : Within ch g l :=
  fun p mem => ⟨fun inside => absurd inside (h p mem), fun inside => h p mem (List.mem_of_mem_erase inside)⟩

theorem membersEntry (l : Layer) (g : String) : l.members g = [] ∨ ∃ p ∈ l.groups, l.members g = p.2 := by
  unfold Layer.members
  rcases hf : l.groups.find? (·.1 == g) with _ | p
  · exact .inl (by simp [hf])
  · exact .inr ⟨p, List.mem_of_find?_eq_some hf, by simp [hf]⟩

theorem memUpsert {β : Type} {kvs : List (String × β)} {k : String} {v : β} {q : String × β}
    (h : q ∈ (if kvs.any (·.1 == k) then kvs.map (fun p => if p.1 == k then (k, v) else p)
      else kvs ++ [(k, v)])) : q = (k, v) ∨ q ∈ kvs := by
  split at h
  · obtain ⟨p, mem, rfl⟩ := List.mem_map.mp h
    split
    · exact .inl rfl
    · exact .inr mem
  · rcases List.mem_append.mp h with old | new
    · exact .inr old
    · exact .inl (List.mem_singleton.mp new)

theorem withinGroupAdd {ch g : String} {l : Layer} (h : Within ch g l) : Within ch g (l.groupAdd g ch) := by
  have once : ch ∉ (if (l.members g).contains ch then l.members g else l.members g ++ [ch]).erase ch := by
    split
    · rcases membersEntry l g with empty | ⟨p, mem, same⟩
      · simp [empty]
      · rw [same]
        exact (h p mem).2
    · rename_i absent
      have out : ch ∉ l.members g := by simpa using absent
      rw [List.erase_append_right _ out, List.erase_cons_head, List.append_nil]
      exact out
  intro q mem
  rcases memUpsert mem with rfl | old
  · exact ⟨fun _ => rfl, once⟩
  · exact h q old

theorem apartGroupDiscard {ch g : String} {l : Layer} (h : Within ch g l) :
    Apart ch (l.groupDiscard g ch) := by
  intro q mem
  obtain ⟨p, old, rfl⟩ := List.mem_map.mp (List.mem_filter.mp mem).1
  by_cases key : p.1 = g
  · simpa [key] using (h p old).2
  · simpa [key] using fun inside => key ((h p old).1 inside)

/-! ### Group names -/

def nameChar (c : Char) : Bool := c.isAlphanum && c.toNat < 128 || c = '-' || c = '_' || c = '.'

theorem digitNameChar {c : Char} (h : c.isDigit = true) : nameChar c = true := by
  have low : c.toNat < 128 := by
    simp only [Char.isDigit, Bool.and_eq_true, decide_eq_true_eq, UInt32.le_iff_toNat_le] at h
    have := h.2
    simp at this
    omega
  simp [nameChar, Char.isAlphanum, h, low]

theorem validKeyed (pfx : String) (n : Nat) (fits : Db.fitsWord n = true) (short : pfx.length ≤ 80)
    (plain : pfx.toList.all nameChar = true) : Layer.validName (pfx ++ toString n) = true := by
  have digits : ∀ c ∈ Nat.toDigits 10 n, c.isDigit = true := fun c mem =>
    Nat.isDigit_of_mem_toDigits (by decide) (by decide) mem
  have len : (Nat.repr n).length ≤ 19 := by
    apply Nat.repr_length n 19 (by decide)
    simp [Db.fitsWord] at fits
    omega
  have nonempty : Nat.toDigits 10 n ≠ [] := List.ne_nil_of_length_pos Nat.length_toDigits_pos
  obtain ⟨c, last⟩ : ∃ c, (Nat.toDigits 10 n).getLast? = some c :=
    ⟨_, List.getLast?_eq_some_getLast nonempty⟩
  have ends : (pfx.toList ++ Nat.toDigits 10 n).getLast? = some c := by
    rw [List.getLast?_append, last]
    rfl
  -- the name ends in a digit, so no line break is cut off it
  have notBreak : c ≠ '\n' := by
    rintro rfl
    exact absurd (digits _ (List.mem_of_getLast? last)) (by decide)
  unfold Layer.validName
  simp only [String.toList_append, Nat.toString_eq_repr, Nat.toList_repr, ends]
  have lenDigits : (Nat.toDigits 10 n).length ≤ 19 := by
    rw [← Nat.toList_repr, String.length_toList]
    exact len
  have pfxLen : pfx.toList.length ≤ 80 := by
    rw [String.length_toList]
    exact short
  simp only [notBreak, beq_iff_eq, Option.some.injEq, if_false, List.length_append, List.all_append,
    Bool.and_eq_true, decide_eq_true_eq, Bool.not_eq_true', List.isEmpty_eq_false_iff, ne_eq,
    List.append_eq_nil_iff, nonempty, and_false, not_false_eq_true, and_true]
  refine ⟨by omega, ?_, ?_⟩
  · simpa [nameChar] using plain
  · simp only [List.all_eq_true]
    intro d mem
    simpa [nameChar] using digitNameChar (digits d mem)

/-! ### Connecting -/

def accepts : Consumer → Option Row → Bool
  | _, none => false
  | .adminDashboard, some u | .subscriptionAdmin, some u => u.getBool "is_staff"
  | _, some _ => true

/-- Connection `id`, served as `s` is, is in group `g`: it remembers the group, and its user when
its consumer announces it on leaving; its channel is listed in `g` alone, at most once. -/
structure InGroup (id : String) (s : Socket) (g : String) (w : World) : Prop where
  remembers : ∃ t, socketAt w id = some t ∧ t.consumer = s.consumer ∧ t.channel = s.channel ∧
    t.group = some g ∧ (t.consumer = .presence → t.user.isSome)
  valid : Layer.validName g = true
  within : Within s.channel g w.layer

theorem socketAtSet {w₀ w : World} {id : String} {s : Socket} (t : Socket) (found : socketAt w₀ id = some s)
    (sockets : w.sockets = w₀.sockets.map fun p => if p.1 == id then (id, t) else p) :
    socketAt w id = some t := by
  unfold socketAt at found ⊢
  obtain ⟨p, hp, -⟩ := Option.map_eq_some_iff.mp found
  have key : p.1 = id := by simpa using List.find?_some hp
  have keys : ((fun q : String × Socket => q.1 == id) ∘ fun q => if q.1 == id then (id, t) else q) =
      fun q => q.1 == id := by
    funext q
    by_cases h : q.1 = id <;> simp [h]
  rw [sockets, List.find?_map, keys, hp]
  simp [key]

theorem inGroupOfJoin {id g : String} {s t : Socket} {w₀ w : World} (found : socketAt w₀ id = some s)
    (apart : Apart s.channel w₀.layer) (sockets : w.sockets = w₀.sockets.map fun p => if p.1 == id then (id, t) else p)
    (groups : w.layer.groups = (w₀.layer.groupAdd g s.channel).groups) (consumer : t.consumer = s.consumer)
    (channel : t.channel = s.channel) (group : t.group = some g) (valid : Layer.validName g = true)
    (announces : t.consumer = .presence → t.user.isSome) : InGroup id s g w where
  remembers := ⟨t, socketAtSet t found sockets, consumer, channel, group, announces⟩
  valid := valid
  within := by
    unfold Within
    rw [groups]
    exact withinGroupAdd (withinOfApart g apart)

theorem connectAccepted {id : String} {s : Socket} (w₀ : World) (found : socketAt w₀ id = some s)
    (apart : Apart s.channel w₀.layer) (admitted : accepts s.consumer s.scopeUser = true)
    (fits : ∀ u, s.scopeUser = some u → Db.fitsWord u.pk = true) :
    ⦃fun w => ⌜w = w₀⌝⦄ connect id ⦃post⟨fun _ w => ⌜∃ g, InGroup id s g w⌝, fun _ _ => ⌜False⌝⟩⦄ := by
  have sock := socketSpec w₀ found
  mvcgen [connect, sock, setSocket, Channels.groupAdd, requireGroup, Channels.layer, setLayer,
    Channels.groupSend, acceptFrame, closeFrame, emit, frame, sendUnreadCount, userOf, unreadCount,
    App.all, App.fail, App.db]
  all_goals obtain ⟨rfl, rfl⟩ := ‹_ = w₀ ∧ _ = s›
  -- the branches that close the connection contradict the admission
  all_goals simp only [accepts, *, Bool.false_eq_true] at admitted
  · exact ⟨_, inGroupOfJoin found apart rfl rfl rfl rfl rfl ‹_› (by simp [‹Socket.consumer _ = _›])⟩
  · exact ‹¬_› (by simp +zetaDelta only []; split <;> decide)
  · exact ⟨_, inGroupOfJoin found apart rfl rfl rfl rfl rfl ‹_› (by simp [‹Socket.consumer _ = _›])⟩
  · exact ‹¬_› (by simp +zetaDelta only []; split <;> decide)
  · exact ⟨_, inGroupOfJoin found apart rfl (groupSendGroups _ _ _) rfl rfl rfl ‹_› fun _ => rfl⟩
  · exact ⟨_, inGroupOfJoin found apart rfl rfl rfl rfl rfl ‹_› fun _ => rfl⟩
  · exact ⟨_, inGroupOfJoin found apart rfl rfl rfl rfl rfl ‹_› fun _ => rfl⟩
  · exact ‹¬_› (validKeyed _ _ (fits _ ‹_›) (by split <;> decide) (by split <;> decide))

theorem connectRefused {id : String} {s : Socket} (w : World) (found : socketAt w id = some s)
    (refused : accepts s.consumer s.scopeUser = false) :
    connect id w = .ok () { w with outbox := w.outbox ++ [.obj [("type", .str "websocket.close")]] } := by
  unfold connect
  rw [Listing.bindRun (socketRun found)]
  cases hc : s.consumer <;> cases hu : s.scopeUser <;> simp_all [accepts, closeFrame, frame] <;> rfl

/-! ### What the client sends -/

/-- What a client sends on an open connection: a JSON document, a text frame or a binary frame. -/
inductive Receipt where
  | doc (j : Json)
  | text (t : String)
  | bytes

def Receipt.run (id : String) : Receipt → App Unit
  | .doc j => receiveDoc id j
  | .text t => receiveText id t
  | .bytes => receiveBytes id

def Quiet (w₀ w : World) : Prop := w.layer = w₀.layer ∧ w.sockets = w₀.sockets

theorem saveQuiet (w₀ : World) (o : Obj) (only : Option (List String)) :
    ⦃fun w => ⌜Quiet w₀ w⌝⦄ App.save o only ⦃post⟨fun _ w => ⌜Quiet w₀ w⌝, fun _ w => ⌜Quiet w₀ w⌝⟩⦄ := by
  intro w quiet
  have run := Answers.runOfTriple (Steps.saveSpec o only w)
  simp only [wp, PredTrans.apply, EStateM.run] at quiet ⊢
  split at run
  · rw [‹App.save o only w = _›]
    show Quiet w₀ _
    rw [run]
    exact quiet
  · rw [‹App.save o only w = _›]
    show Quiet w₀ _
    rw [run.1]
    exact quiet

theorem receiveDocQuiet (w₀ : World) (id : String) (doc : Json) :
    ⦃fun w => ⌜Quiet w₀ w⌝⦄ receiveDoc id doc ⦃post⟨fun _ w => ⌜Quiet w₀ w⌝, fun _ w => ⌜Quiet w₀ w⌝⟩⦄ := by
  have saved := saveQuiet w₀
  mvcgen [receiveDoc, socket, emit, frame, markOneRead, markAllRead, userOf, sendUnreadCount, unreadCount,
    recentNotifications, App.all, App.find?, App.db, App.setDb, App.ofExcept, App.raise, App.fail, saved,
    -Steps.saveSpec]

theorem receiptQuiet (w₀ : World) (id : String) (r : Receipt) :
    ⦃fun w => ⌜Quiet w₀ w⌝⦄ r.run id ⦃post⟨fun _ w => ⌜Quiet w₀ w⌝, fun _ w => ⌜Quiet w₀ w⌝⟩⦄ := by
  have doc := receiveDocQuiet w₀ id
  cases r with
  | doc j => exact doc j
  | text t => mvcgen [Receipt.run, receiveText, socket, doc, App.raise]
  | bytes => mvcgen [Receipt.run, receiveBytes, socket, App.raise]

/-! ### Leaving -/

def leaveUnjoined (c : Consumer) : Except Fault Unit :=
  match c with
  | .adminDashboard | .subscriptionAdmin | .presence => .error (missing c c.groupAttribute)
  | _ => .ok ()

theorem disconnectUnjoined {id : String} {s : Socket} (w : World) (found : socketAt w id = some s)
    (unjoined : s.group = none) :
    disconnect id w = match leaveUnjoined s.consumer with
      | .ok () => .ok () w
      | .error e => .error e w := by
  unfold disconnect
  rw [Listing.bindRun (socketRun found)]
  cases s.consumer <;> simp [unjoined, leaveUnjoined] <;> rfl

theorem disconnectLeaves {id g : String} {t : Socket} (w : World) (found : socketAt w id = some t)
    (group : t.group = some g) (valid : Layer.validName g = true)
    (announces : t.consumer = .presence → t.user.isSome) :
    ∃ l : Layer, l.groups = w.layer.groups ∧
      disconnect id w = .ok () { w with layer := l.groupDiscard g t.channel } := by
  unfold disconnect
  rw [Listing.bindRun (socketRun found)]
  by_cases hp : t.consumer = .presence
  · obtain ⟨u, hu⟩ := Option.isSome_iff_exists.mp (announces hp)
    refine ⟨w.layer.groupSend g (.obj [("type", .str "user_offline"), ("user_id", userKey u),
      ("username", (u.get "username").toJson)]), groupSendGroups _ _ _, ?_⟩
    simp [hp, group, hu, valid, userOf, Channels.groupSend, Channels.groupDiscard, requireGroup,
      Channels.layer, setLayer]
    rfl
  · refine ⟨w.layer, rfl, ?_⟩
    cases hc : t.consumer <;> simp_all [Channels.groupDiscard, requireGroup, Channels.layer, setLayer] <;> rfl

theorem inGroupQuiet {id g : String} {s : Socket} {w w' : World} (joined : InGroup id s g w)
    (quiet : Quiet w w') : InGroup id s g w' where
  remembers := by
    unfold socketAt
    rw [quiet.2]
    exact joined.remembers
  valid := joined.valid
  within := quiet.1 ▸ joined.within

theorem disconnectJoined {id g : String} {s : Socket} (w : World) (joined : InGroup id s g w) :
    ∃ w', disconnect id w = .ok () w' ∧ Apart s.channel w'.layer := by
  obtain ⟨t, found, -, channel, group, announces⟩ := joined.remembers
  obtain ⟨l, same, run⟩ := disconnectLeaves w found group joined.valid announces
  refine ⟨_, run, ?_⟩
  have within : Within s.channel g l := by
    unfold Within
    rw [same]
    exact joined.within
  rw [channel]
  exact apartGroupDiscard within

/-! ### A whole connection -/

def settle : EStateM.Result Fault World Unit → Except Fault Unit × World
  | .ok a w => (.ok a, w)
  | .error e w => (.error e, w)

def runSteps : List (App Unit) → World → List (Except Fault Unit × World)
  | [], _ => []
  | a :: as, w => settle (a w) :: runSteps as (settle (a w)).2

def reach : List (App Unit) → World → World
  | [], w => w
  | a :: as, w => reach as (settle (a w)).2

theorem runStepsAppend (xs ys : List (App Unit)) (w : World) :
    runSteps (xs ++ ys) w = runSteps xs w ++ runSteps ys (reach xs w) := by
  induction xs generalizing w with
  | nil => rfl
  | cons a as ih => simp [runSteps, reach, ih]

theorem runStepsKeep (P : World → Prop) (acts : List (App Unit))
    (keep : ∀ a ∈ acts, ∀ w, P w → P (settle (a w)).2) {w : World} (h : P w) :
    (∀ p ∈ runSteps acts w, P p.2) ∧ P (reach acts w) := by
  induction acts generalizing w with
  | nil => simp [runSteps, reach, h]
  | cons a as ih =>
    have next := keep a (by simp) w h
    obtain ⟨all, last⟩ := ih (fun b hb => keep b (by simp [hb])) next
    refine ⟨fun p mem => ?_, last⟩
    rcases List.mem_cons.mp mem with rfl | later
    · exact next
    · exact all p later

theorem settleKeeps {P Q : World → Prop} {act : App Unit}
    (h : ⦃fun w => ⌜P w⌝⦄ act ⦃post⟨fun _ w => ⌜Q w⌝, fun _ w => ⌜Q w⌝⟩⦄) {w : World} (hw : P w) :
    Q (settle (act w)).2 := by
  have := h w hw
  simp only [wp, PredTrans.apply, EStateM.run] at this
  unfold settle
  split <;> simp_all

def lifecycle (id : String) (rs : List Receipt) : List (App Unit) :=
  connect id :: (rs.map (Receipt.run id) ++ [disconnect id])

def closing (s : Socket) : Except Fault Unit :=
  if accepts s.consumer s.scopeUser then .ok () else leaveUnjoined s.consumer

theorem lifecycleLast (id : String) (rs : List Receipt) (w : World) :
    (runSteps (lifecycle id rs) w).getLast? =
      some (settle (disconnect id (reach (rs.map (Receipt.run id)) (settle (connect id w)).2))) := by
  simp only [lifecycle, ← List.cons_append, runStepsAppend, List.getLast?_append, runSteps, reach]
  simp

theorem connectionLifecycle {w₀ : World} {id : String} {s : Socket} (rs : List Receipt)
    (found : socketAt w₀ id = some s) (unjoined : s.group = none) (apart : Apart s.channel w₀.layer)
    (fits : ∀ u, s.scopeUser = some u → Db.fitsWord u.pk = true) :
    (∃ w, (runSteps (lifecycle id rs) w₀).getLast? = some (closing s, w) ∧ Apart s.channel w.layer) ∧
    (accepts s.consumer s.scopeUser = false →
      ∀ p ∈ runSteps (lifecycle id rs) w₀, p.2.layer = w₀.layer) := by
  have receipts : ∀ a ∈ rs.map (Receipt.run id), ∀ w w', Quiet w w' → Quiet w (settle (a w')).2 := by
    intro a mem w w' quiet
    obtain ⟨r, -, rfl⟩ := List.mem_map.mp mem
    exact settleKeeps (receiptQuiet w id r) quiet
  cases admitted : accepts s.consumer s.scopeUser with
  | false =>
    -- refused: connecting only closes, and nothing after it moves the connection or the layer
    have closed : Quiet w₀ (settle (connect id w₀)).2 := by
      rw [connectRefused w₀ found admitted]
      exact ⟨rfl, rfl⟩
    obtain ⟨during, last⟩ := runStepsKeep (Quiet w₀) _ (fun a mem w quiet => receipts a mem w₀ w quiet) closed
    have still : socketAt (reach (rs.map (Receipt.run id)) (settle (connect id w₀)).2) id = some s := by
      unfold socketAt
      rw [last.2]
      exact found
    have ends := disconnectUnjoined _ still unjoined
    have outcome : settle (disconnect id (reach (rs.map (Receipt.run id)) (settle (connect id w₀)).2)) =
        (closing s, reach (rs.map (Receipt.run id)) (settle (connect id w₀)).2) := by
      rw [ends, closing, admitted]
      cases leaveUnjoined s.consumer <;> rfl
    refine ⟨⟨_, by rw [lifecycleLast, outcome], last.1 ▸ apart⟩, fun _ p mem => ?_⟩
    simp only [lifecycle, runSteps, List.mem_cons, runStepsAppend, List.mem_append] at mem
    rcases mem with rfl | mem | mem
    · exact closed.1
    · exact (during p mem).1
    · simp only [List.not_mem_nil, or_false, outcome] at mem
      rw [mem]
      exact last.1
  | true =>
    have connected := Answers.runOfTriple (connectAccepted w₀ found apart admitted fits)
    obtain ⟨g, joined⟩ : ∃ g, InGroup id s g (settle (connect id w₀)).2 := by
      unfold settle
      split at connected
      · rename_i run
        rw [run]
        exact connected
      · exact connected.elim
    have kept := (runStepsKeep (InGroup id s g) _ (fun a mem w inside =>
      inGroupQuiet inside (receipts a mem w w ⟨rfl, rfl⟩)) joined).2
    obtain ⟨w', left, apartAfter⟩ := disconnectJoined _ kept
    refine ⟨⟨w', by rw [lifecycleLast, left]; simp [settle, closing, admitted], apartAfter⟩, ?_⟩
    intro refused
    cases refused

def deskSocket : Socket := { consumer := .adminDashboard, channel := "ws.a", scopeUser := none }

def refusedDesk : World := { sockets := [("a", deskSocket)] }

theorem refusedDeskLifecycle :
    socketAt refusedDesk "a" = some deskSocket ∧
    (∃ w, (runSteps (lifecycle "a" [.text "{}"]) refusedDesk).getLast? = some (closing deskSocket, w) ∧
      Apart deskSocket.channel w.layer) ∧
    (accepts deskSocket.consumer deskSocket.scopeUser = false →
      ∀ p ∈ runSteps (lifecycle "a" [.text "{}"]) refusedDesk, p.2.layer = refusedDesk.layer) :=
  ⟨rfl, connectionLifecycle [.text "{}"] rfl rfl (by simp [Apart, refusedDesk]) (by simp [deskSocket])⟩

theorem refusedDeskFailsToLeave :
    ∃ w, runSteps (lifecycle "a" []) refusedDesk =
      [(.ok (), w), (.error ⟨"AttributeError", "'AdminDashboardConsumer' object has no attribute 'admin_group_name'"⟩, w)] :=
  ⟨_, rfl⟩

end Portal.Lifecycle
