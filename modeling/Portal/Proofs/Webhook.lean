import Mathlib
import Portal.Proofs.StoreUpdate
import Portal.Billing.Views
/-! The payment provider's webhook. A request that is not a POST is refused with 405, and a POST
whose signature does not verify under the configured secret, or whose body is not JSON, with
400; neither changes anything. A verified `customer.subscription.updated` event whose object
names exactly one customer by its subscription id saves that customer with the object's status:
the save stamps the customer's update time along with the status and writes its audit entry to
the log. Every other run, a failing one included, leaves the world as it was.
Main statement: `webhookChangesOnlyStatus`. -/
namespace Portal.Webhook
open LogStore RequestLog AuditTrail StoreUpdate Billing Std.Do
set_option mvcgen.warning false

theorem memberSpec (j : Json) (k : String) (w₀ : World) :
    ⦃fun s => ⌜s = w₀⌝⦄ member j k
    ⦃post⟨fun v s => ⌜s = w₀ ∧ j.get? k = some v⌝, fun _ s => ⌜s = w₀ ∧ j.get? k = none⌝⟩⦄ := by
  mvcgen [member, App.fail, App.raise]
  all_goals
    subst_vars
    simp [Json.get?, *]

theorem attrSpec (j : Json) (k : String) (w₀ : World) :
    ⦃fun s => ⌜s = w₀⌝⦄ attrOf j k
    ⦃post⟨fun v s => ⌜s = w₀ ∧ j.get? k = some v⌝, fun _ s => ⌜s = w₀ ∧ j.get? k = none⌝⟩⦄ := by
  mvcgen [attrOf, App.raise]
  all_goals
    subst_vars
    simp [Json.get?, *]

theorem allSpec (e : Entity) (w₀ : World) :
    ⦃fun s => ⌜s = w₀⌝⦄ App.all e
    ⦃post⟨fun os s => ⌜s = w₀ ∧ os = (w₀.db.rows e).map (Obj.ofRow e)⌝, fun _ _ => ⌜False⌝⟩⦄ := by
  mvcgen [App.all, App.db]
  simp_all

def secretOf (unset : String) : Option Json → Option String
  | none => some unset
  | some (.str s) => some s
  | some _ => none

def subscribedTo (id : Json) (row : Row) : Bool :=
  if id.isNull then (row.get "stripe_subscription_id").isNull
  else row.get "stripe_subscription_id" == .text id.toText

def statusValue (status : Json) : Value := if status.isNull then .null else .text status.toText

def statusObj (row : Row) (v : Value) : Obj := (Obj.ofRow .stripeCustomer row).set "subscription_status" v

/-- A signed subscription update: a POST whose signature verifies under the configured secret,
carrying an event of type `customer.subscription.updated` whose object `sub` names exactly one
customer row `row` by its id and has the status `status`. -/
structure StatusEvent (r : Web.Request) (w : World) (sub : Json) (row : Row) (status : Json) : Prop where
  post : r.method = "POST"
  signed : ∃ key, secretOf w.host.stripeWebhookSecret w.settings.webhookSecret = some key ∧
    verified r.body (r.header? "HTTP_STRIPE_SIGNATURE") key w.host.seconds = true
  event : ∃ kvs, Json.parse r.body = .ok (.obj kvs) ∧
    (Json.obj kvs).get? "type" = some (.str "customer.subscription.updated") ∧
    ((Json.obj kvs).get? "data").bind (·.get? "object") = some sub
  single : ∃ id, sub.get? "id" = some id ∧ (w.db.rows .stripeCustomer).filter (subscribedTo id) = [row]
  carries : sub.get? "status" = some status

def StatusSaved (r : Web.Request) (w w' : World) : Prop :=
  ∃ sub row status, StatusEvent r w sub row status ∧
    ∃ o', App.save (statusObj row (statusValue status)) none w = .ok o' w'

@[simp] theorem beqStr (j : Json) (s : String) : (j == .str s) = true ↔ j = .str s := by
  cases j <;> simp [BEq.beq, Json.beq]

theorem filterOfRows (rows : List Row) (id : Json) :
    (rows.map (Obj.ofRow .stripeCustomer)).filter (fun c =>
      if id.isNull then (c.get "stripe_subscription_id").isNull
      else c.get "stripe_subscription_id" == .text id.toText) =
      (rows.filter (subscribedTo id)).map (Obj.ofRow .stripeCustomer) := by
  rw [List.filter_map]
  rfl

theorem matchedRow {id : Json} {rows : List Row} {c : Obj}
    (h : (rows.map (Obj.ofRow .stripeCustomer)).filter (fun c =>
      if id.isNull then (c.get "stripe_subscription_id").isNull
      else c.get "stripe_subscription_id" == .text id.toText) = [c]) :
    ∃ row, rows.filter (subscribedTo id) = [row] ∧ c = Obj.ofRow .stripeCustomer row := by
  rw [filterOfRows, List.map_eq_singleton_iff] at h
  obtain ⟨row, one, rfl⟩ := h
  exact ⟨row, one, rfl⟩

theorem savedOfRun {r : Web.Request} {w₀ w' : World} {key : String} {kvs : List (String × Json)}
    {data sub id status : Json} {os : List Obj} {c o' : Obj}
    (post : r.method = "POST") (secret : secretOf w₀.host.stripeWebhookSecret w₀.settings.webhookSecret = some key)
    (signed : verified r.body (r.header? "HTTP_STRIPE_SIGNATURE") key w₀.host.seconds = true)
    (parsed : Json.parse r.body = .ok (.obj kvs))
    (hk : (Json.obj kvs).get? "type" = some (.str "customer.subscription.updated"))
    (hd : (Json.obj kvs).get? "data" = some data)
    (hs : data.get? "object" = some sub) (hi : sub.get? "id" = some id)
    (one : os.filter (fun c => if id.isNull then (c.get "stripe_subscription_id").isNull
      else c.get "stripe_subscription_id" == .text id.toText) = [c])
    (hos : os = (w₀.db.rows .stripeCustomer).map (Obj.ofRow .stripeCustomer))
    (hst : sub.get? "status" = some status)
    (saved : App.save (c.set "subscription_status" (if status.isNull then .null else .text status.toText))
      none w₀ = .ok o' w') :
    StatusSaved r w₀ w' := by
  subst hos
  obtain ⟨row, single, rfl⟩ := matchedRow one
  have event : StatusEvent r w₀ sub row status :=
    ⟨post, ⟨key, secret, signed⟩, ⟨kvs, parsed, hk, by simp [hd, hs]⟩,
      ⟨id, hi, single⟩, hst⟩
  exact ⟨sub, row, status, event, o', saved⟩

theorem webhookSpec (r : Web.Request) (w₀ : World) :
    ⦃fun s => ⌜s = w₀⌝⦄ webhookPage r
    ⦃post⟨fun resp s => ⌜s = w₀ ∨ resp.status = 200 ∧ StatusSaved r w₀ s⌝, fun _ s => ⌜s = w₀⌝⟩⦄ := by
  mvcgen [webhookPage, memberSpec, attrSpec, allSpec, saveRunSpec, -Steps.saveSpec, App.raise, App.fail]
  all_goals simp_all
  all_goals
    rename_i post _ secret signed parsed _ _ hk hd hs hi one hos hst saved
    exact .inr (savedOfRun post (by rw [secret]; rfl) signed parsed hk.2 hd.2 hs.2 hi.2 one hos.2 hst.2 saved)

theorem prepareCustomer (o : Obj) (he : o.entity = .stripeCustomer) (t : Instant) : o.prepare t = o := by
  unfold Obj.prepare
  rw [he]

theorem stampCustomer (o : Obj) (he : o.entity = .stripeCustomer) (ha : o.adding = false) (t : Instant) :
    stamp o none t = o.set "updated_at" (Value.now t) := by
  unfold stamp Obj.model
  rw [he]
  simp [Entity.model, Catalog.stripeCustomer, Catalog.idField, Catalog.userOwner, Catalog.userRef,
    Catalog.charField, Catalog.createdAt, Catalog.updatedAt, touches, ha]

theorem stampedStatus (db : Db) (row : Row) (v : Value) (t : Instant) :
    ∃ ch, stamp (noted db ((statusObj row v).prepare t)) none t =
      { Obj.ofRow .stripeCustomer ((row.set "subscription_status" v).set "updated_at" (Value.now t)) with
        changes := ch } := by
  rw [statusObj, ofRowSet _ _ _ (by decide), prepareCustomer _ rfl]
  obtain ⟨ch, hch⟩ := notedChanges db (Obj.ofRow .stripeCustomer (row.set "subscription_status" v))
  rw [hch, stampCustomer _ rfl rfl]
  refine ⟨ch, ?_⟩
  unfold Obj.set Obj.ofRow Row.set
  simp

theorem customerKeyOnly : ∀ f ∈ Catalog.stripeCustomer.fields, f.kind = .serial → f.name = "id" := by
  decide

theorem customerNames :
    ((Catalog.stripeCustomer.fields.filter fun f => f.kind != .serial && touches none f).map Field.name).Nodup := by
  decide

/-- The customer row `row'` a status save writes over `row`: same key, the status `v`, the update
time `t`, and every other field as it was, where its value was already in its column's form. -/
structure StatusRow (row row' : Row) (v : Value) (t : Instant) : Prop where
  key : row'.pk = row.pk
  status : row'.get "subscription_status" = v
  stamped : row'.get "updated_at" = Value.now t
  kept : ∀ f ∈ Catalog.stripeCustomer.fields, f.name ≠ "subscription_status" → f.name ≠ "updated_at" →
    f.prep (row.get f.name) = .ok (row.get f.name) → row'.get f.name = row.get f.name

/-- What saving the status `v` of customer row `row` makes of world `w`: only the store changes, in
the customer table, where the rows of `row`'s key are replaced by one row written over `row`, and
in the log, which gains exactly the save's audit entry when it takes rows and the context's user;
every other table, link and raw table is as it was. -/
structure StatusWritten (w w' : World) (row : Row) (v : Value) : Prop where
  world : w' = { w with db := w'.db }
  links : w'.db.links = w.db.links ∧ w'.db.raw = w.db.raw
  others : ∀ e, e ≠ .stripeCustomer → e ≠ .systemLog → w'.db.table e = w.db.table e
  customers : ∃ row', StatusRow row row' v w.clock ∧ w'.db.table .stripeCustomer =
    { w.db.table .stripeCustomer with
      rows := (w.db.rows .stripeCustomer).map fun x => if x.pk = row.pk then row' else x }
  audited : LogReady w.db → ∀ u, userColumn.prep (ctxValue w "user_id") = .ok u → CountCell u →
    (logRows w').Perm (logRows w ++ auditRows w u row.pk (saveEntry true (noted w.db (statusObj row v))))

theorem prepStatus (status : Json) :
    ({ Catalog.charField "subscription_status" 50 with dflt := .none, null := true, blank := true } : Field).prep
      (statusValue status) = .ok (statusValue status) := by
  rw [prepTextCell _ (.inl rfl)]
  unfold statusValue textCell
  split <;> simp [Value.isNull, Value.toText]

theorem prepStamp (t : Instant) : Catalog.updatedAt.prep (Value.now t) = .ok (Value.now t) :=
  prepMoment _ rfl _

theorem statusRowWritten {row old : Row} {v : Value} {t : Instant} {ch : List (String × Value × Value)}
    {cells : List (String × Value)} (oldKey : old.pk = row.pk)
    (prep : prepared { Obj.ofRow .stripeCustomer ((row.set "subscription_status" v).set "updated_at" (Value.now t)) with
        changes := ch } Catalog.stripeCustomer.fields none = .ok cells)
    (hv : ({ Catalog.charField "subscription_status" 50 with dflt := .none, null := true, blank := true } : Field).prep v = .ok v) :
    StatusRow row (setCells old cells) v t := by
  have all := preparedCells prep
  -- every field but the key is among the prepared cells, holding its prepared value
  have written : ∀ f ∈ Catalog.stripeCustomer.fields, ∀ n, f.name = n → n ≠ "id" → ∃ x,
      f.prep (((row.set "subscription_status" v).set "updated_at" (Value.now t)).get n) = .ok x ∧
      (setCells old cells).get n = x := by
    rintro f mem n rfl notKey
    have stored : f ∈ Catalog.stripeCustomer.fields.filter fun f => f.kind != .serial && touches none f := by
      refine List.mem_filter.mpr ⟨mem, ?_⟩
      have : f.kind ≠ .serial := fun serial => notKey (customerKeyOnly f mem serial)
      simp [this, touches]
    exact setPreparedGet all customerNames old stored notKey
  refine ⟨by simp [oldKey], ?_, ?_, ?_⟩
  · obtain ⟨x, hx, got⟩ := written { Catalog.charField "subscription_status" 50 with
      dflt := .none, null := true, blank := true } (by simp [Catalog.stripeCustomer]) "subscription_status" rfl (by decide)
    rw [rowSetOther _ _ (by decide), rowSetSame _ _ (by decide), hv] at hx
    cases hx
    exact got
  · obtain ⟨x, hx, got⟩ := written Catalog.updatedAt (by simp [Catalog.stripeCustomer]) "updated_at" rfl (by decide)
    rw [rowSetSame _ _ (by decide), prepStamp] at hx
    cases hx
    exact got
  · intro f mem notStatus notStamp settled
    by_cases key : f.name = "id"
    · rw [key, rowGetKey, rowGetKey, setCellsPk, oldKey]
    · obtain ⟨x, hx, got⟩ := written f mem _ rfl key
      rw [rowSetOther _ _ (Ne.symm notStamp), rowSetOther _ _ (Ne.symm notStatus), settled] at hx
      cases hx
      exact got

@[simp] theorem statusObjEntity (row : Row) (v : Value) : (statusObj row v).entity = .stripeCustomer := by
  unfold statusObj
  rw [ofRowSet _ _ _ (by decide)]
  rfl

@[simp] theorem statusObjPk (row : Row) (v : Value) : (statusObj row v).pk = some row.pk := by
  unfold statusObj
  rw [ofRowSet _ _ _ (by decide)]
  rfl

theorem statusSaveWrites {row : Row} {status : Json} {w w' : World} {o' : Obj}
    (mem : row ∈ w.db.rows .stripeCustomer)
    (h : App.save (statusObj row (statusValue status)) none w = .ok o' w') :
    StatusWritten w w' row (statusValue status) := by
  obtain ⟨old, found, oldKey⟩ := foundOfRow mem
  have stored : w.db.exists? (statusObj row (statusValue status)).entity row.pk = true := by
    simp [Db.exists?, found]
  obtain ⟨cells, prep, db₁, b, upd, only, sets, answered⟩ :=
    saveStored (by simp) (statusObjPk row (statusValue status)) stored h
  obtain ⟨ch, stampedIs⟩ := stampedStatus w.db row (statusValue status) w.clock
  rw [stampedIs] at prep
  have written := statusRowWritten oldKey prep (prepStatus status)
  rw [statusObjEntity] at upd
  have db₁Is := updateRows found upd
  have hasTable := tableOfRow mem
  -- the customer table of the update, seen through the log's replacement
  have customers : w'.db.table .stripeCustomer = db₁.table .stripeCustomer := by
    rcases sets with same | ⟨t, same⟩
    · rw [same]
    · rw [same, tableSetOther t (by decide)]
  refine ⟨only, ?_, ?_, ⟨setCells old cells, written, ?_⟩, fun ready u hu cu => ?_⟩
  · rcases sets with same | ⟨t, same⟩ <;> rw [same, db₁Is] <;> exact ⟨rfl, rfl⟩
  · intro e notCustomer notLog
    have kept : db₁.table e = w.db.table e := by
      rw [db₁Is]
      exact tableSetOther _ notCustomer
    rcases sets with same | ⟨t, same⟩
    · rw [same, kept]
    · rw [same, tableSetOther t notLog, kept]
  · rw [customers, db₁Is, tableSet _ hasTable]
    simp only [beq_iff_eq]
    rfl
  · -- the save's entry is the one of the record it answers: same kind, key and noted changes
    have same := prepareCustomer (statusObj row (statusValue status)) (statusObjEntity _ _) w.clock
    obtain ⟨entity, changes, -, rows⟩ := saveAuditTrail _ none h (by simp) ready hu cu
    have key : (noted w.db (statusObj row (statusValue status))).pk = some row.pk :=
      (notedEntity _ _).2.trans (statusObjPk _ _)
    have wasStored : storedIn w.db (noted w.db (statusObj row (statusValue status))) = true := by
      simpa [storedIn, key, (notedEntity _ _).1] using stored
    rw [same, wasStored, answered, Option.getD_some] at rows
    rwa [saveEntryOf (entity.trans (notedEntity _ _).1.symm) (answered.trans key.symm) changes] at rows

theorem answerOfTriple {α : Type} {act : App α} {w w' : World} {a : α}
    (h : ⦃fun s => ⌜s = w⌝⦄ act ⦃post⟨fun b s => ⌜b = a ∧ s = w'⌝, fun _ _ => ⌜False⌝⟩⦄) :
    act w = .ok a w' := by
  have run := Answers.runOfTriple h
  split at run
  · rename_i answered
    obtain ⟨rfl, rfl⟩ := run
    exact answered
  · exact run.elim

theorem webhookNotPost (r : Web.Request) (w : World) (h : r.method ≠ "POST") :
    webhookPage r w = .ok (.notAllowed ["POST"]) w := by
  apply answerOfTriple
  mvcgen [webhookPage]
  all_goals simp_all

theorem webhookUnsigned (r : Web.Request) (w : World) {key : String} (post : r.method = "POST")
    (secret : secretOf w.host.stripeWebhookSecret w.settings.webhookSecret = some key)
    (unsigned : verified r.body (r.header? "HTTP_STRIPE_SIGNATURE") key w.host.seconds = false) :
    webhookPage r w = .ok { status := 400 } w := by
  apply answerOfTriple
  mvcgen [webhookPage]
  all_goals simp_all [secretOf]

theorem webhookUnparsed (r : Web.Request) (w : World) {key : String} {e : JsonError} (post : r.method = "POST")
    (secret : secretOf w.host.stripeWebhookSecret w.settings.webhookSecret = some key)
    (unparsed : Json.parse r.body = .error e) :
    webhookPage r w = .ok { status := 400 } w := by
  apply answerOfTriple
  mvcgen [webhookPage]
  all_goals simp_all [secretOf]

theorem webhookSaves {r : Web.Request} {w w' : World} {sub : Json} {row : Row} {status : Json} {o' : Obj}
    (event : StatusEvent r w sub row status)
    (saved : App.save (statusObj row (statusValue status)) none w = .ok o' w') :
    webhookPage r w = .ok { status := 200 } w' := by
  obtain ⟨key, secret, signed⟩ := event.signed
  obtain ⟨kvs, parsed, kind, object⟩ := event.event
  obtain ⟨data, hdata, hobj⟩ := Option.bind_eq_some_iff.mp object
  obtain ⟨id, hid, single⟩ := event.single
  have chosen := List.mem_filter.mp (single ▸ List.mem_singleton_self row)
  have carries := event.carries
  have post := event.post
  apply answerOfTriple
  mvcgen [webhookPage, memberSpec, attrSpec, allSpec, saveRunSpec, -Steps.saveSpec, App.raise, App.fail]
  all_goals simp_all +zetaDelta [secretOf, filterOfRows, statusObj, statusValue]
  all_goals grind

theorem eventRow {r : Web.Request} {w : World} {sub status : Json} {row : Row}
    (event : StatusEvent r w sub row status) : row ∈ w.db.rows .stripeCustomer := by
  obtain ⟨id, -, single⟩ := event.single
  exact List.mem_of_mem_filter (single ▸ List.mem_singleton_self row)

theorem webhookChangesOnlyStatus (r : Web.Request) (w : World) :
    (r.method ≠ "POST" → webhookPage r w = .ok (.notAllowed ["POST"]) w) ∧
    (∀ key, r.method = "POST" → secretOf w.host.stripeWebhookSecret w.settings.webhookSecret = some key →
      (verified r.body (r.header? "HTTP_STRIPE_SIGNATURE") key w.host.seconds = false ∨ ∃ e, Json.parse r.body = .error e) →
      webhookPage r w = .ok { status := 400 } w) ∧
    (∀ resp w', webhookPage r w = .ok resp w' → w' = w ∨ resp.status = 200 ∧
      ∃ sub row status, StatusEvent r w sub row status ∧ StatusWritten w w' row (statusValue status)) ∧
    (∀ f w', webhookPage r w = .error f w' → w' = w) ∧
    ∀ sub row status o' w', StatusEvent r w sub row status →
      App.save (statusObj row (statusValue status)) none w = .ok o' w' →
      webhookPage r w = .ok { status := 200 } w' := by
  have run := Answers.runOfTriple (webhookSpec r w)
  refine ⟨webhookNotPost r w, fun key post secret refused => ?_, fun resp w' answered => ?_,
    fun f w' failed => ?_, fun _ _ _ _ _ event saved => webhookSaves event saved⟩
  · rcases refused with unsigned | ⟨e, unparsed⟩
    · exact webhookUnsigned r w post secret unsigned
    · exact webhookUnparsed r w post secret unparsed
  · rw [answered] at run
    rcases run with same | ⟨ok, sub, row, status, event, o', saved⟩
    · exact .inl same
    · exact .inr ⟨ok, sub, row, status, event, statusSaveWrites (eventRow event) saved⟩
  · rw [failed] at run
    exact run

def unsignedHook : Web.Request :=
  { method := "POST", path := "/subscriptions/webhook/", body := "\x7b\x7d"
    headers := [("HTTP_STRIPE_SIGNATURE", "t=1")] }

theorem unsignedHookRefused : webhookPage unsignedHook {} = .ok { status := 400 } {} :=
  (webhookChangesOnlyStatus _ _).2.1 "" rfl rfl (.inl (by decide))

def hookBody : String :=
  "\x7b\"id\": \"evt_1\", \"object\": \"event\", \"type\": \"customer.subscription.updated\", " ++
  "\"data\": \x7b\"object\": \x7b\"id\": \"sub_1\", \"object\": \"subscription\", \"status\": \"past_due\"\x7d\x7d\x7d"

def signedHook : Web.Request :=
  { method := "POST", path := "/subscriptions/webhook/", body := hookBody, contentType := "application/json"
    headers := [("HTTP_STRIPE_SIGNATURE",
      "t=9999999999,v1=54ea302df2342137d2a8c45f1b07c4ffa2d5da9c15f7d0101a40bb77c9f670e1")] }

def customerRow : Row :=
  ⟨1, [("user", .int 1), ("stripe_customer_id", .text "cus_1"), ("stripe_subscription_id", .text "sub_1"),
    ("subscription_status", .text "active"), ("created_at", Value.now Instant.start),
    ("updated_at", Value.now Instant.start)]⟩

def hookHost : Host := { stripeWebhookSecret := "whsec_test", seconds := 1790000000 }

def hookWorld : World :=
  { clock := Instant.start + Instant.second, host := hookHost
    db := { tables := [(.user, { rows := [⟨1, [("username", .text "alice")]⟩], seq := 1 }),
              (.stripeCustomer, { rows := [customerRow], seq := 1 }), (.systemLog, {})]
            links := [] } }

def hookSubscription : Json :=
  .obj [("id", .str "sub_1"), ("object", .str "subscription"), ("status", .str "past_due")]

def hookEvent : List (String × Json) :=
  [("id", .str "evt_1"), ("object", .str "event"), ("type", .str "customer.subscription.updated"),
    ("data", .obj [("object", hookSubscription)])]

set_option maxRecDepth 100000 in
theorem statusSaveStampsUpdate :
    ∃ resp w', webhookPage signedHook hookWorld = .ok resp w' ∧
      ∃ row' ∈ w'.db.rows .stripeCustomer, row'.pk = customerRow.pk ∧
        row'.get "updated_at" ≠ customerRow.get "updated_at" := by
  have parsed : Json.parse hookBody = .ok (.obj hookEvent) := by rfl
  have event : StatusEvent signedHook hookWorld hookSubscription customerRow (.str "past_due") :=
    ⟨rfl, ⟨"whsec_test", rfl, by decide +kernel⟩, ⟨hookEvent, parsed, rfl, rfl⟩, ⟨.str "sub_1", rfl, rfl⟩, rfl⟩
  obtain ⟨o', w', saved⟩ : ∃ o' w',
      App.save (statusObj customerRow (statusValue (.str "past_due"))) none hookWorld = .ok o' w' := by
    have answered : ((App.save (statusObj customerRow (statusValue (.str "past_due"))) none).run'
        hookWorld).isSome = true := by
      decide +kernel
    rcases saved : App.save (statusObj customerRow (statusValue (.str "past_due"))) none hookWorld with
      ⟨o', w'⟩ | ⟨f, w'⟩
    · exact ⟨o', w', rfl⟩
    · simp [EStateM.run', EStateM.run, saved] at answered
  obtain ⟨-, -, -, ⟨row', written, table⟩, -⟩ := statusSaveWrites (eventRow event) saved
  refine ⟨_, w', webhookSaves event saved, row', ?_, written.key, ?_⟩
  · -- the customer table held `customerRow` alone, and now holds what was written over it
    have rows : w'.db.rows .stripeCustomer = [row'] := by
      unfold Db.rows
      rw [table]
      simp [hookWorld, customerRow, Db.rows, Db.table]
    simp [rows]
  · -- the clock has moved on since the row was stored
    rw [written.stamped]
    simp [customerRow, hookWorld, Row.get, Value.now, Moment.utc, Instant.second]

end Portal.Webhook
