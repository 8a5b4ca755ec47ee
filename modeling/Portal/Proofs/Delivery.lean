import Mathlib
import Portal.Proofs.Steps
import Portal.Channels.Consumers
/-! Which real-time messages their receivers can handle. A connection takes a message whose type
names no connection event to the handler its consumer defines for that type, and fails with
"No handler for message type" when it defines none; a handler it defines never fails that way.
Connecting puts a connection's channel only into the one group its consumer joins for the
connection's user.

Every message the notification senders send goes to groups, and on a connection of any consumer
that can join the group it is handled, except a notification_message: the staff dashboards, the
subscription alerts desk and the notification centre join groups that such messages are sent to,
and none of them has a handler for it. -/
namespace Portal.Delivery
open Channels Std.Do

set_option mvcgen.warning false

def handlerTypes : Consumer → List String
  | .dashboard => ["dashboard_update", "notification_message"]
  | .adminDashboard => ["system_update"]
  | .subscription => ["subscription_status_update", "payment_confirmation", "subscription_expiry_warning"]
  | .subscriptionAdmin => ["new_subscription_alert", "subscription_cancellation_alert"]
  | .notification => ["new_notification", "notification_read"]
  | .presence => ["user_online", "user_offline"]

def events : List String := ["websocket_connect", "websocket_receive", "websocket_disconnect"]

def noHandler (ty : String) : Fault := ⟨"ValueError", "No handler for message type " ++ ty⟩

def socketAt (w : World) (id : String) : Option Socket := (w.sockets.find? (·.1 == id)).map (·.2)

theorem socketRun {w : World} {id : String} {s : Socket} (found : socketAt w id = some s) :
    socket id w = .ok s w := by
  unfold socketAt at found
  show ((get : App World) >>= _) w = _
  rw [Listing.bindRun (show (get : App World) w = .ok w w from rfl)]
  rcases hf : w.sockets.find? (·.1 == id) with _ | ⟨k, s'⟩
  · simp [hf] at found
  · simp only [hf, Option.map_some, Option.some.injEq] at found
    subst found
    simp only [hf]
    rfl

theorem handlerForNone (s : Socket) (handler : String) (msg : Json) :
    handlerFor s handler msg = none ↔ handler ∉ handlerTypes s.consumer := by
  unfold handlerFor
  split
  all_goals try simp_all [handlerTypes]
  cases hc : s.consumer <;> simp_all

def Handled {α : Type} (act : App α) : Prop :=
  ⦃⌜True⌝⦄ act ⦃post⟨fun _ _ => ⌜True⌝, fun f _ => ⌜f.kind ≠ "ValueError"⌝⟩⦄

theorem fieldSpec (msg : Json) (k : String) :
    ⦃⌜True⌝⦄ field msg k ⦃post⟨fun _ _ => ⌜True⌝, fun f _ => ⌜f.kind ≠ "ValueError"⌝⟩⦄ := by
  mvcgen [field, App.fail]
  all_goals simp_all [Fault.keyError]

theorem emitSpec (j : Json) : ⦃⌜True⌝⦄ emit j ⦃post⟨fun _ _ => ⌜True⌝, fun _ _ => ⌜False⌝⟩⦄ := by
  mvcgen [emit, frame]

theorem forwardSpec (ty : String) (msg : Json) :
    ⦃⌜True⌝⦄ forward ty msg ⦃post⟨fun _ _ => ⌜True⌝, fun f _ => ⌜f.kind ≠ "ValueError"⌝⟩⦄ := by
  mvcgen [forward, emitSpec, fieldSpec]

theorem unreadSpec (s : Socket) :
    ⦃⌜True⌝⦄ sendUnreadCount s ⦃post⟨fun _ _ => ⌜True⌝, fun f _ => ⌜f.kind ≠ "ValueError"⌝⟩⦄ := by
  mvcgen [sendUnreadCount, userOf, unreadCount, App.all, emitSpec, App.fail]
  all_goals simp_all [missing]

theorem handlerForHandled {s : Socket} {handler : String} {msg : Json} {act : App Bool}
    (h : handlerFor s handler msg = some act) : Handled act := by
  unfold handlerFor at h
  split at h <;> cases h
  all_goals
    unfold Handled
    mvcgen [forwardSpec, fieldSpec, emitSpec, unreadSpec]

def routed (s : Socket) (ty : String) (msg : Json) : App Bool :=
  (handlerFor s (handlerName ty) msg).getD (App.raise "ValueError" ("No handler for message type " ++ ty))

theorem dispatchRouted {id : String} {msg : Json} {w : World} {s : Socket} {ty : String}
    (found : socketAt w id = some s) (typed : msg.get? "type" = some (.str ty))
    (plain : ty.startsWith "_" = false) (event : handlerName ty ∉ events) :
    dispatch id msg w = routed s ty msg w := by
  unfold dispatch routed
  simp only [typed, plain, Bool.false_eq_true, if_false, pure_bind]
  rw [Listing.bindRun (socketRun found)]
  generalize handlerName ty = handler at event ⊢
  simp only [events, List.mem_cons, List.not_mem_nil, or_false, not_or] at event
  split
  · exact absurd rfl event.1
  · exact absurd rfl event.2.1
  · exact absurd rfl event.2.2
  · cases handlerFor s handler msg <;> rfl

theorem dispatchNoHandler {id : String} {msg : Json} {w : World} {s : Socket} {ty : String}
    (found : socketAt w id = some s) (typed : msg.get? "type" = some (.str ty))
    (plain : ty.startsWith "_" = false) (event : handlerName ty ∉ events) :
    dispatch id msg w = .error (noHandler ty) w ↔ handlerName ty ∉ handlerTypes s.consumer := by
  rw [dispatchRouted found typed plain event, ← handlerForNone s _ msg]
  unfold routed
  rcases hh : handlerFor s (handlerName ty) msg with _ | act
  · exact ⟨fun _ => rfl, fun _ => rfl⟩
  · simp only [Option.getD_some, reduceCtorEq, iff_false]
    intro fails
    have kinds := Answers.runOfTriple (fun w₀ _ => handlerForHandled hh w₀ trivial :
      ⦃fun w₀ => ⌜w₀ = w⌝⦄ act ⦃post⟨fun _ _ => ⌜True⌝, fun f _ => ⌜f.kind ≠ "ValueError"⌝⟩⦄)
    rw [fails] at kinds
    exact kinds rfl

def joinGroup : Consumer → Row → String
  | .dashboard, u => "dashboard_user_" ++ toString u.pk
  | .subscription, u => "subscriptions_user_" ++ toString u.pk
  | .notification, u => "notifications_user_" ++ toString u.pk
  | .adminDashboard, _ => "admin_dashboard"
  | .subscriptionAdmin, _ => "subscription_admin"
  | .presence, _ => "presence"

theorem findUpsertOther {β : Type} (kvs : List (String × β)) {k k' : String} (v : β) (ne : k' ≠ k) :
    (if kvs.any (·.1 == k) then kvs.map (fun p => if p.1 == k then (k, v) else p) else kvs ++ [(k, v)]).find?
      (·.1 == k') = kvs.find? (·.1 == k') := by
  -- replacing entries of key k leaves every entry of key k' where it was
  have mapped : ∀ (f : String × β → String × β), (∀ p, ((f p).1 == k') = (p.1 == k')) →
      (∀ p, p.1 = k' → f p = p) → ∀ ps : List (String × β), (ps.map f).find? (·.1 == k') = ps.find? (·.1 == k') := by
    intro f keys fixed ps
    induction ps with
    | nil => rfl
    | cons p ps ih =>
      simp only [List.map_cons, List.find?_cons, keys]
      split
      · rename_i found
        rw [fixed p (by simpa using found)]
      · exact ih
  split
  · refine mapped _ (fun p => ?_) (fun p same => ?_) kvs
    · by_cases hp : p.1 = k <;> simp [hp]
    · have : p.1 ≠ k := same ▸ ne
      simp [this]
  · rw [List.find?_append]
    cases kvs.find? (·.1 == k') <;> simp [Ne.symm ne]

theorem findUpsertSame {β : Type} (kvs : List (String × β)) (k : String) (v : β) :
    (if kvs.any (·.1 == k) then kvs.map (fun p => if p.1 == k then (k, v) else p) else kvs ++ [(k, v)]).find?
      (·.1 == k) = some (k, v) := by
  split
  · rename_i present
    induction kvs with
    | nil => cases present
    | cons p ps ih =>
      by_cases hp : p.1 = k
      · simp [hp]
      · have key : (p.1 == k) = false := by simpa using hp
        have rest : (ps.any fun x => x.1 == k) = true := by simpa [key] using present
        simp only [List.map_cons, key, Bool.false_eq_true, if_false, List.find?_cons]
        exact ih rest
  · rename_i absent
    have none : kvs.find? (·.1 == k) = none := by
      rw [List.find?_eq_none]
      intro x hx
      have := List.any_eq_false.mp (Bool.eq_false_iff.mpr absent) x hx
      simpa using this
    rw [List.find?_append, none]
    simp

theorem memGroupAdd (l : Layer) (g g' ch x : String) :
    x ∈ (l.groupAdd g ch).members g' ↔ x ∈ l.members g' ∨ (x = ch ∧ g' = g) := by
  unfold Layer.members Layer.groupAdd
  by_cases same : g' = g
  · subst same
    rw [findUpsertSame]
    simp only [Option.map_some, Option.getD_some, and_true]
    split
    · rename_i present
      exact ⟨.inl, fun h => h.elim id fun h => h ▸ List.contains_iff_mem.mp present⟩
    · simp [Layer.members]
  · rw [findUpsertOther _ _ same]
    simp [same]

theorem groupSendGroups (l : Layer) (g : String) (m : Json) : (l.groupSend g m).groups = l.groups := by
  unfold Layer.groupSend
  generalize l.members g = chs
  induction chs generalizing l with
  | nil => rfl
  | cons ch chs ih =>
    rw [List.foldl_cons, ih]
    unfold Layer.send
    dsimp only
    split
    · rfl
    · rfl

theorem membersGroupSend (l : Layer) (g g' : String) (m : Json) :
    (l.groupSend g m).members g' = l.members g' := by
  unfold Layer.members
  rw [groupSendGroups]

theorem socketSpec {id : String} {s : Socket} (s₀ : World) (found : socketAt s₀ id = some s) :
    ⦃fun w => ⌜w = s₀⌝⦄ socket id ⦃post⟨fun r w => ⌜w = s₀ ∧ r = s⌝, fun _ _ => ⌜False⌝⟩⦄ := by
  intro w same
  subst same
  simp only [wp, PredTrans.apply, EStateM.run, socketRun found]
  simp

def Joined (s₀ : World) (s : Socket) (w : World) : Prop :=
  ∀ g x, x ∈ w.layer.members g → x ∈ s₀.layer.members g ∨
    (x = s.channel ∧ ∃ u, s.scopeUser = some u ∧ g = joinGroup s.consumer u)

theorem setSocketJoined (s₀ : World) (s : Socket) (id : String) (t : Socket) :
    ⦃fun w => ⌜Joined s₀ s w⌝⦄ setSocket id t ⦃post⟨fun _ w => ⌜Joined s₀ s w⌝, fun _ _ => ⌜True⌝⟩⦄ := by
  mvcgen [setSocket]

theorem frameJoined (s₀ : World) (s : Socket) (j : Json) :
    ⦃fun w => ⌜Joined s₀ s w⌝⦄ frame j ⦃post⟨fun _ w => ⌜Joined s₀ s w⌝, fun _ _ => ⌜True⌝⟩⦄ := by
  mvcgen [frame]

theorem unreadJoined (s₀ : World) (s t : Socket) :
    ⦃fun w => ⌜Joined s₀ s w⌝⦄ sendUnreadCount t ⦃post⟨fun _ w => ⌜Joined s₀ s w⌝, fun _ _ => ⌜True⌝⟩⦄ := by
  mvcgen [sendUnreadCount, userOf, unreadCount, App.all, emit, frame, App.fail]

theorem groupSendJoined (s₀ : World) (s : Socket) (g : String) (m : Json) :
    ⦃fun w => ⌜Joined s₀ s w⌝⦄ Channels.groupSend g m ⦃post⟨fun _ w => ⌜Joined s₀ s w⌝, fun _ _ => ⌜True⌝⟩⦄ := by
  mvcgen [Channels.groupSend, requireGroup, Channels.layer, setLayer, App.fail]
  all_goals simp_all +zetaDelta [Joined, membersGroupSend]

theorem groupAddJoined (s₀ : World) (s : Socket) (g ch : String) :
    ⦃fun w => ⌜Joined s₀ s w ∧ ch = s.channel ∧ ∃ u, s.scopeUser = some u ∧ g = joinGroup s.consumer u⌝⦄
    Channels.groupAdd g ch ⦃post⟨fun _ w => ⌜Joined s₀ s w⌝, fun _ _ => ⌜True⌝⟩⦄ := by
  mvcgen [Channels.groupAdd, requireGroup, Channels.layer, setLayer, App.fail]
  simp_all +zetaDelta [Joined, memGroupAdd]
  obtain ⟨before, rfl, joins⟩ := ‹(∀ g x, _) ∧ _›
  rintro g' x (old | ⟨rfl, rfl⟩)
  · exact before g' x old
  · exact .inr ⟨rfl, joins⟩

theorem joinedRefl (s₀ : World) (s : Socket) : Joined s₀ s s₀ := fun _ _ mem => .inl mem

theorem connectJoins (id : String) (s₀ : World) (s : Socket) (found : socketAt s₀ id = some s) :
    ⦃fun w => ⌜w = s₀⌝⦄ connect id ⦃post⟨fun _ w => ⌜Joined s₀ s w⌝, fun _ _ => ⌜True⌝⟩⦄ := by
  have sock := socketSpec s₀ found
  have setS := setSocketJoined s₀ s
  have framed := frameJoined s₀ s
  have unread := unreadJoined s₀ s
  have sent := groupSendJoined s₀ s
  have added := groupAddJoined s₀ s
  mvcgen [connect, sock, setS, framed, unread, sent, added, acceptFrame, closeFrame, emit]
  all_goals clear sock setS framed unread sent added
  all_goals obtain ⟨rfl, rfl⟩ := ‹_ = s₀ ∧ _ = s›
  all_goals try exact joinedRefl _ _
  all_goals refine ⟨‹_›, rfl, ‹Row›, ‹_›, ?_⟩
  all_goals simp +zetaDelta only [‹Socket.consumer _ = _›]
  -- the admin and presence consumers join fixed groups; the rest join the group of their user
  · rfl
  · rfl
  · rfl
  · cases ‹Consumer› with
    | dashboard => rfl
    | subscription => rfl
    | notification => rfl
    | adminDashboard => exact absurd rfl ‹Consumer.adminDashboard = Consumer.adminDashboard → False›
    | subscriptionAdmin =>
      exact absurd rfl ‹Consumer.subscriptionAdmin = Consumer.subscriptionAdmin → False›
    | presence => exact absurd rfl ‹Consumer.presence = Consumer.presence → False›

def groupOwner (g : String) : Option Consumer :=
  if g = "admin_dashboard" then some .adminDashboard
  else if g = "subscription_admin" then some .subscriptionAdmin
  else if g = "presence" then some .presence
  else match g.toList.head? with
    | some 'd' => some .dashboard
    | some 's' => some .subscription
    | some 'n' => some .notification
    | _ => none

theorem headAppend {p : String} (x : String) (hp : p.toList ≠ []) :
    (p ++ x).toList.head? = p.toList.head? := by
  rw [String.toList_append, List.head?_append_of_ne_nil _ hp]

theorem appendNeOfHead {p q : String} (x : String) (hp : p.toList ≠ [])
    (heads : p.toList.head? ≠ q.toList.head?) : p ++ x ≠ q := fun h =>
  heads (by rw [← h, headAppend x hp])

theorem appendNeOfLength {p q : String} (x : String) (shorter : q.length < p.length) : p ++ x ≠ q :=
  fun h => by
    have := congrArg String.length h
    simp only [String.length_append] at this
    omega

theorem ownerDashboard (x : String) : groupOwner ("dashboard_user_" ++ x) = some .dashboard := by
  unfold groupOwner
  rw [if_neg (appendNeOfHead x (by decide) (by decide)), if_neg (appendNeOfHead x (by decide) (by decide)),
    if_neg (appendNeOfHead x (by decide) (by decide)), headAppend x (by decide)]
  rfl

theorem ownerSubscription (x : String) : groupOwner ("subscriptions_user_" ++ x) = some .subscription := by
  unfold groupOwner
  rw [if_neg (appendNeOfHead x (by decide) (by decide)), if_neg (appendNeOfLength x (by decide)),
    if_neg (appendNeOfHead x (by decide) (by decide)), headAppend x (by decide)]
  rfl

theorem ownerNotification (x : String) : groupOwner ("notifications_user_" ++ x) = some .notification := by
  unfold groupOwner
  rw [if_neg (appendNeOfHead x (by decide) (by decide)), if_neg (appendNeOfHead x (by decide) (by decide)),
    if_neg (appendNeOfHead x (by decide) (by decide)), headAppend x (by decide)]
  rfl

theorem ownerJoin (c : Consumer) (u : Row) : groupOwner (joinGroup c u) = some c := by
  cases c with
  | dashboard => exact ownerDashboard _
  | subscription => exact ownerSubscription _
  | notification => exact ownerNotification _
  | adminDashboard => rfl
  | subscriptionAdmin => rfl
  | presence => rfl

def Reaches (g : String) (m : Json) : Prop :=
  ∃ ty, m.get? "type" = some (.str ty) ∧ ty.startsWith "_" = false ∧ handlerName ty ∉ events ∧
    ∀ c u, joinGroup c u = g → (handlerName ty ∈ handlerTypes c ↔ ty ≠ "notification_message")

theorem reachesOwned {g : String} {m : Json} {ty : String} {owner : Consumer}
    (typed : m.get? "type" = some (.str ty)) (plain : ty.startsWith "_" = false)
    (event : handlerName ty ∉ events) (owns : groupOwner g = some owner)
    (handled : handlerName ty ∈ handlerTypes owner ↔ ty ≠ "notification_message") : Reaches g m := by
  refine ⟨ty, typed, plain, event, fun c u joins => ?_⟩
  have same : c = owner := by
    rw [← joins, ownerJoin] at owns
    exact Option.some.inj owns
  rw [same]
  exact handled

def Sent (s₀ w : World) : Prop :=
  ∃ sent : List (String × Json), (∀ p ∈ sent, Reaches p.1 p.2) ∧
    w.layer = sent.foldl (fun l p => l.groupSend p.1 p.2) s₀.layer

theorem sentRefl (s₀ : World) : Sent s₀ s₀ := ⟨[], by simp, rfl⟩

theorem sentOfLayer {s₀ w w' : World} (sent : Sent s₀ w) (same : w'.layer = w.layer) : Sent s₀ w' := by
  obtain ⟨msgs, reach, layer⟩ := sent
  exact ⟨msgs, reach, same.trans layer⟩

theorem sentStoreOnly {s₀ w : World} (h : Steps.StoreOnly s₀ w) : Sent s₀ w :=
  sentOfLayer (sentRefl s₀) (by rw [h])

theorem groupOfSent (s₀ : World) (j : Json) :
    ⦃fun w => ⌜Sent s₀ w⌝⦄ groupOf j ⦃post⟨fun g w => ⌜Sent s₀ w ∧ j = .str g⌝, fun _ _ => ⌜True⌝⟩⦄ := by
  unfold groupOf
  split
  · mvcgen [requireGroup, App.fail]
  · mvcgen [App.fail]

theorem groupSendSent (s₀ : World) (g : String) (m : Json) :
    ⦃fun w => ⌜Sent s₀ w ∧ Reaches g m⌝⦄ Channels.groupSend g m
    ⦃post⟨fun _ w => ⌜Sent s₀ w⌝, fun _ _ => ⌜True⌝⟩⦄ := by
  mvcgen [Channels.groupSend, requireGroup, Channels.layer, setLayer, App.fail]
  obtain ⟨⟨msgs, reach, layer⟩, reaches⟩ := ‹Sent s₀ _ ∧ Reaches g m›
  refine ⟨msgs ++ [(g, m)], ?_, ?_⟩
  · intro p mem
    rcases List.mem_append.mp mem with old | new
    · exact reach p old
    · rw [List.mem_singleton.mp new]
      exact reaches
  · simp +zetaDelta [List.foldl_append, layer]

theorem saveSent (s₀ : World) (o : Obj) (only : Option (List String)) :
    ⦃fun w => ⌜Sent s₀ w⌝⦄ App.save o only ⦃post⟨fun _ w => ⌜Sent s₀ w⌝, fun _ _ => ⌜True⌝⟩⦄ := by
  intro w sent
  have run := Answers.runOfTriple (Steps.saveSpec o only w)
  simp only [wp, PredTrans.apply, EStateM.run] at sent ⊢
  split at run
  · rw [‹App.save o only w = _›]
    exact sentOfLayer sent (by rw [run])
  · rw [‹App.save o only w = _›]
    trivial

/-- The senders of real-time messages, with the arguments the applications call them with: an
alert is a new subscription or a cancellation, a broadcast goes to its default groups, and a
message to several users has the default type. -/
inductive Sender where
  | dashboardUpdate (userId data : Json)
  | notification (userId title message level data : Json)
  | subscriptionUpdate (userId data : Json)
  | paymentConfirmation (userId data : Json)
  | expiryWarning (userId data : Json)
  | adminDashboardUpdate (data : Json)
  | subscriptionAlert (cancellation : Bool) (data : Json)
  | broadcast (message level : Json)
  | toUsers (userIds data : Json)
  | created (user : Obj) (title message level data : Json)

namespace Sender

def run : Sender → App Unit
  | dashboardUpdate u d => Notifications.sendDashboardUpdate u d
  | notification u t m l d => discard (Notifications.sendNotification u t m l d)
  | subscriptionUpdate u d => Notifications.sendSubscriptionUpdate u d
  | paymentConfirmation u d => Notifications.sendPaymentConfirmation u d
  | expiryWarning u d => Notifications.sendExpiryWarning u d
  | adminDashboardUpdate d => Notifications.sendAdminDashboardUpdate d
  | subscriptionAlert c d =>
    Notifications.sendAdminSubscriptionAlert (.str (if c then "subscription_cancellation" else "new_subscription")) d
  | broadcast m l => Notifications.broadcastSystemMessage m l .null
  | toUsers ids d => Notifications.sendToMultipleUsers ids d (.str "notification_message")
  | created u t m l d => discard (Notifications.create u t m l d)

def KeepsType : Sender → Prop
  | toUsers _ data => ∀ kvs, data = .obj kvs → ∀ kv ∈ kvs, kv.1 ≠ "type"
  | _ => True

end Sender

theorem typedGet (ty : String) (rest : List (String × Json)) :
    (Json.obj (("type", .str ty) :: rest)).get? "type" = some (.str ty) := by
  simp [Json.get?]

theorem reachesTyped {g : String} {owner : Consumer} (ty : String) (rest : List (String × Json))
    (owns : groupOwner g = some owner) (plain : ty.startsWith "_" = false) (event : handlerName ty ∉ events)
    (handled : handlerName ty ∈ handlerTypes owner ↔ ty ≠ "notification_message") :
    Reaches g (.obj (("type", .str ty) :: rest)) :=
  reachesOwned (typedGet ty rest) plain event owns handled

theorem setKeyPast {t k : String} (v x : Json) (rest : List (String × Json)) (ne : k ≠ t) :
    Json.setKey ((t, v) :: rest) k x = (t, v) :: Json.setKey rest k x := by
  by_cases h : rest.any (·.1 == k) <;> simp [Json.setKey, h, Ne.symm ne]

theorem foldSetKeyHead (t : String) (v : Json) (kvs rest : List (String × Json)) (keep : ∀ kv ∈ kvs, kv.1 ≠ t) :
    ∃ rest', kvs.foldl (fun acc p => Json.setKey acc p.1 p.2) ((t, v) :: rest) = (t, v) :: rest' := by
  induction kvs generalizing rest with
  | nil => exact ⟨rest, rfl⟩
  | cons kv kvs ih =>
    rw [List.foldl_cons, setKeyPast _ _ _ (keep kv (by simp))]
    exact ih _ fun kv' mem => keep kv' (by simp [mem])

theorem reachesFolded {g : String} {owner : Consumer} (ty : String) (kvs : List (String × Json))
    (owns : groupOwner g = some owner) (plain : ty.startsWith "_" = false) (event : handlerName ty ∉ events)
    (handled : handlerName ty ∈ handlerTypes owner ↔ ty ≠ "notification_message")
    (keep : ∀ kv ∈ kvs, kv.1 ≠ "type") :
    Reaches g (.obj (kvs.foldl (fun acc p => Json.setKey acc p.1 p.2) [("type", .str ty)])) := by
  obtain ⟨rest, folded⟩ := foldSetKeyHead "type" (.str ty) kvs [] keep
  rw [folded]
  exact reachesTyped ty rest owns plain event handled

theorem staffReaches {g : String} (m l : Json)
    (staff : Json.str g ∈ [Json.str "admin_dashboard", Json.str "subscription_admin"]) :
    Reaches g (.obj [("type", .str "notification_message"), ("message", m), ("level", l)]) := by
  simp only [List.mem_cons, Json.str.injEq, List.not_mem_nil, or_false] at staff
  rcases staff with rfl | rfl
  · exact reachesTyped _ _ (rfl : groupOwner "admin_dashboard" = some .adminDashboard) (by simp)
      (by decide) (by decide)
  · exact reachesTyped _ _ (rfl : groupOwner "subscription_admin" = some .subscriptionAdmin) (by simp)
      (by decide) (by decide)

theorem membersObj {d : Json} {kvs : List (String × Json)} (h : Notifications.membersOf d = .ok kvs) :
    d = .obj kvs := by
  cases d <;> simp_all [Notifications.membersOf]

theorem senderSent (s₀ : World) (s : Sender) (keeps : s.KeepsType) :
    ⦃fun w => ⌜w = s₀⌝⦄ s.run ⦃post⟨fun _ w => ⌜Sent s₀ w⌝, fun _ _ => ⌜True⌝⟩⦄ := by
  have send := groupSendSent s₀
  have saved := saveSent s₀
  cases s with
  | dashboardUpdate u d =>
    mvcgen [Sender.run, Notifications.sendDashboardUpdate, send]
    subst ‹_ = s₀›
    exact ⟨sentRefl _, reachesTyped _ _ (ownerDashboard _) (by simp) (by decide) (by decide)⟩
  | subscriptionUpdate u d =>
    mvcgen [Sender.run, Notifications.sendSubscriptionUpdate, send]
    subst ‹_ = s₀›
    exact ⟨sentRefl _, reachesTyped _ _ (ownerSubscription _) (by simp) (by decide) (by decide)⟩
  | paymentConfirmation u d =>
    mvcgen [Sender.run, Notifications.sendPaymentConfirmation, send]
    subst ‹_ = s₀›
    exact ⟨sentRefl _, reachesTyped _ _ (ownerSubscription _) (by simp) (by decide) (by decide)⟩
  | expiryWarning u d =>
    mvcgen [Sender.run, Notifications.sendExpiryWarning, send]
    subst ‹_ = s₀›
    exact ⟨sentRefl _, reachesTyped _ _ (ownerSubscription _) (by simp) (by decide) (by decide)⟩
  | adminDashboardUpdate d =>
    mvcgen [Sender.run, Notifications.sendAdminDashboardUpdate, send]
    subst ‹_ = s₀›
    exact ⟨sentRefl _, reachesTyped _ _ (rfl : groupOwner "admin_dashboard" = some .adminDashboard) (by simp)
      (by decide) (by decide)⟩
  | subscriptionAlert c d =>
    mvcgen [Sender.run, Notifications.sendAdminSubscriptionAlert, send]
    subst ‹_ = s₀›
    refine ⟨sentRefl _, ?_⟩
    -- a new subscription and a cancellation each have their alert handler
    cases c
    · exact reachesTyped _ _ (rfl : groupOwner "subscription_admin" = some .subscriptionAdmin)
        (by simp [Json.toText]) (by decide) (by decide)
    · exact reachesTyped _ _ (rfl : groupOwner "subscription_admin" = some .subscriptionAdmin)
        (by simp [Json.toText]) (by decide) (by decide)
  | notification u t m l d =>
    mvcgen [Sender.run, Notifications.sendNotification, Notifications.create, send, saved, App.ofExcept,
      App.find?, App.db, App.now]
    · subst ‹_ = s₀›
      exact ⟨sentStoreOnly ‹_›, reachesTyped _ _ (ownerNotification _) (by simp) (by decide) (by decide)⟩
    all_goals
      subst ‹_ = s₀›
      exact ⟨sentRefl _, reachesTyped _ _ (ownerNotification _) (by simp) (by decide) (by decide)⟩
  | broadcast m l =>
    have named := groupOfSent s₀
    mvcgen [Sender.run, Notifications.broadcastSystemMessage, send, named] invariants
      · post⟨fun _ w => ⌜Sent s₀ w⌝, fun _ _ => ⌜True⌝⟩
    · obtain ⟨sent, rfl⟩ := ‹Sent s₀ _ ∧ _ = Json.str _›
      exact ⟨sent, staffReaches m l (by rw [‹[_, _] = _›]; simp)⟩
    · subst ‹_ = s₀›
      exact sentRefl _
  | toUsers ids d =>
    mvcgen [Sender.run, Notifications.sendToMultipleUsers, send, App.ofExcept] invariants
      · post⟨fun _ w => ⌜Sent s₀ w⌝, fun _ _ => ⌜True⌝⟩
    · have said := ‹Notifications.occursIn "dashboard" _ = _›
      rw [show Notifications.occursIn "dashboard" (.str "notification_message") = .ok false by rfl,
        Except.ok.injEq] at said
      exact absurd (said.trans ‹_ = true›) Bool.false_ne_true
    · have said := ‹Notifications.occursIn "subscription" _ = _›
      rw [show Notifications.occursIn "subscription" (.str "notification_message") = .ok false by rfl,
        Except.ok.injEq] at said
      exact absurd (said.trans ‹_ = true›) Bool.false_ne_true
    · exact ⟨‹_›, reachesFolded _ _ (ownerNotification _) (by simp) (by decide) (by decide)
        (keeps _ (membersObj ‹_›))⟩
    · subst ‹_ = s₀›
      exact sentRefl _
  | created u t m l d =>
    mvcgen [Sender.run, Notifications.create, send, saved, App.now]
    subst ‹_ = s₀›
    exact ⟨sentStoreOnly ‹_›, reachesTyped _ _ (ownerNotification _) (by simp) (by decide) (by decide)⟩

theorem senderMessagesHandled (snd : Sender) (keeps : snd.KeepsType) {w w' : World}
    (run : snd.run w = .ok () w') :
    ∃ sent : List (String × Json), w'.layer = sent.foldl (fun l p => l.groupSend p.1 p.2) w.layer ∧
      ∀ p ∈ sent, ∃ ty, p.2.get? "type" = some (.str ty) ∧
        ∀ (v : World) (id : String) (sock : Socket) (u : Row), socketAt v id = some sock →
          joinGroup sock.consumer u = p.1 →
          (dispatch id p.2 v = .error (noHandler ty) v ↔ ty = "notification_message") := by
  have ran := Answers.runOfTriple (senderSent w snd keeps)
  rw [run] at ran
  obtain ⟨sent, reach, layer⟩ := ran
  refine ⟨sent, layer, fun p mem => ?_⟩
  obtain ⟨ty, typed, plain, event, handled⟩ := reach p mem
  refine ⟨ty, typed, fun v id sock u found joins => ?_⟩
  rw [dispatchNoHandler found typed plain event, handled _ u joins, not_not]

theorem usersMessageHandled :
    ∃ w', (Sender.toUsers (.arr [.str "7"]) (.obj [("text", .str "hi")])).run default = .ok () w' ∧
    ∃ sent : List (String × Json), w'.layer = sent.foldl (fun l p => l.groupSend p.1 p.2) (default : World).layer ∧
      ∀ p ∈ sent, ∃ ty, p.2.get? "type" = some (.str ty) ∧
        ∀ (v : World) (id : String) (sock : Socket) (u : Row), socketAt v id = some sock →
          joinGroup sock.consumer u = p.1 →
          (dispatch id p.2 v = .error (noHandler ty) v ↔ ty = "notification_message") := by
  have keeps : (Sender.toUsers (.arr [.str "7"]) (.obj [("text", .str "hi")])).KeepsType := by
    rintro kvs ⟨⟩ kv mem
    simp only [List.mem_singleton] at mem
    simp [mem]
  exact ⟨_, rfl, senderMessagesHandled _ keeps rfl⟩

def staffDesk : World :=
  { sockets := [("a", { consumer := .adminDashboard, channel := "c", scopeUser := some default })],
    layer := { groups := [("admin_dashboard", ["c"])] } }

theorem broadcastUnhandledOnStaff :
    ∃ w', (Sender.broadcast (.str "hi") (.str "info")).run staffDesk = .ok () w' ∧
      w'.layer.queue "c" = [.obj [("type", .str "notification_message"), ("message", .str "hi"), ("level", .str "info")]] ∧
      dispatch "a" (.obj [("type", .str "notification_message"), ("message", .str "hi"), ("level", .str "info")]) w' =
        .error (noHandler "notification_message") w' := by
  refine ⟨_, rfl, rfl, ?_⟩
  rw [dispatchNoHandler rfl (typedGet _ _) (by simp) (by decide)]
  decide

end Portal.Delivery
