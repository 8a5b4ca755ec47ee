import Mathlib
import Portal.Proofs.Lifecycle
import Portal.Proofs.WrittenRows
import Portal.Proofs.CommentForest
/-! # What a notifications connection touches

A signed-in user's connection to the notifications consumer answers four requests: marking one
notification read, marking all of the user's notifications read, listing them and counting the
unread ones. Whatever its client sends, in any order, the connection changes no notification of
another user, and changes the user's own only by marking them read, the update time following.
Each count it sends is the user's number of unread notifications as the store then holds them, and
each list holds at most twenty of the user's notifications, none before a newer one.

The invariant is `Isolated`: the notifications are those of the start, key for key, each `Marked`
as the connection may leave it. A step keeps it, and keeps the store in the shape a save needs
(`Kept`); `Served` is what one step guarantees, frames included.

Main statement: `notificationSessionIsolated`. -/
namespace Portal.NotificationIsolation
open Channels Lifecycle Delivery Listing StoreUpdate WrittenRows LogStore AuditTrail

/-! ### What a connection may change -/

/-- Row `r'` is row `r` of the notifications as a connection of the user `u` may leave it: a
notification of `u` may be marked read and have its update time moved, any other stays as it was. -/
structure Marked (u : Nat) (r r' : Row) : Prop where
  key : r'.pk = r.pk
  others : r.getNat? "user" ≠ some u → r' = r
  fields : ∀ n, n ≠ "is_read" → n ≠ "updated_at" → r'.get n = r.get n
  read : r'.get "is_read" = r.get "is_read" ∨ r'.get "is_read" = .bool true

namespace Marked
variable {u : Nat} {r r' r'' : Row}

theorem refl (u : Nat) (r : Row) : Marked u r r where
  key := rfl
  others _ := rfl
  fields _ _ _ := rfl
  read := .inl rfl

theorem trans (one : Marked u r r') (two : Marked u r' r'') : Marked u r r'' where
  key := two.key.trans one.key
  others other := by
    have same := one.others other
    subst same
    exact two.others other
  fields n hr hu := (two.fields n hr hu).trans (one.fields n hr hu)
  read := by
    rcases two.read with same | marked
    · rw [same]
      exact one.read
    · exact .inr marked

theorem owner (m : Marked u r r') : r'.getNat? "user" = r.getNat? "user" := by
  unfold Row.getNat?
  rw [m.fields "user" (by decide) (by decide)]

end Marked

/-- The notifications of `db` are those of `db₀`, key for key, as a connection of `u` may leave
them. -/
structure Isolated (u : Nat) (db₀ db : Db) : Prop where
  kept : ∀ r ∈ db₀.rows .notification, ∃ r' ∈ db.rows .notification, Marked u r r'
  came : ∀ r' ∈ db.rows .notification, ∃ r ∈ db₀.rows .notification, Marked u r r'

namespace Isolated
variable {u : Nat} {db₀ db₁ db₂ : Db}

theorem refl (u : Nat) (db : Db) : Isolated u db db where
  kept r mem := ⟨r, mem, .refl u r⟩
  came r mem := ⟨r, mem, .refl u r⟩

theorem trans (one : Isolated u db₀ db₁) (two : Isolated u db₁ db₂) : Isolated u db₀ db₂ where
  kept r mem := by
    obtain ⟨r₁, mem₁, m₁⟩ := one.kept r mem
    obtain ⟨r₂, mem₂, m₂⟩ := two.kept r₁ mem₁
    exact ⟨r₂, mem₂, m₁.trans m₂⟩
  came r₂ mem₂ := by
    obtain ⟨r₁, mem₁, m₂⟩ := two.came r₂ mem₂
    obtain ⟨r, mem, m₁⟩ := one.came r₁ mem₁
    exact ⟨r, mem, m₁.trans m₂⟩

end Isolated

/-! ### Notifications as the store keeps them -/

def Settled (r : Row) : Prop :=
  ∀ f ∈ Catalog.notification.fields, f.kind ≠ .serial → f.autoNow = false →
    f.prep (r.get f.name) = .ok (r.get f.name)

/-- The notifications as the store keeps them for `u`: one row per key, and each of `u`'s settled
and with a creation time. -/
structure Kept (u : Nat) (db : Db) : Prop where
  keyed : Keyed db .notification
  settled : ∀ r ∈ db.rows .notification, r.getNat? "user" = some u → Settled r
  created : ∀ r ∈ db.rows .notification, r.getNat? "user" = some u → r.get "created_at" ≠ .null

theorem readField {f : Field} (mem : f ∈ Catalog.notification.fields) (named : f.name = "is_read") :
    f.kind = .bool := by
  simp only [Catalog.notification, List.mem_cons, List.not_mem_nil, or_false] at mem
  rcases mem with rfl | rfl | rfl | rfl | rfl | rfl | rfl | rfl | rfl <;> simp_all [Catalog.idField,
    Catalog.userRef, Catalog.charField, Catalog.textField, Catalog.flag, Catalog.createdAt, Catalog.updatedAt]

theorem clockField {f : Field} (mem : f ∈ Catalog.notification.fields) :
    f.autoNow = true ↔ f.name = "updated_at" := by
  simp only [Catalog.notification, List.mem_cons, List.not_mem_nil, or_false] at mem
  rcases mem with rfl | rfl | rfl | rfl | rfl | rfl | rfl | rfl | rfl <;> simp_all [Catalog.idField,
    Catalog.userRef, Catalog.charField, Catalog.textField, Catalog.flag, Catalog.createdAt, Catalog.updatedAt]

theorem Settled.marked {u : Nat} {r r' : Row} (settled : Settled r) (m : Marked u r r') : Settled r' := by
  intro f mem serial now
  by_cases read : f.name = "is_read"
  · rcases m.read with same | marked
    · rw [read, same, ← read]
      exact settled f mem serial now
    · rw [read, marked]
      unfold Field.prep
      rw [readField mem read]
  · by_cases update : f.name = "updated_at"
    · rw [(clockField mem).mpr update] at now
      cases now
    · rw [m.fields _ read update]
      exact settled f mem serial now

theorem Kept.marked {u : Nat} {db db' : Db} (kept : Kept u db) (keyed : Keyed db' .notification)
    (came : ∀ r' ∈ db'.rows .notification, ∃ r ∈ db.rows .notification, Marked u r r') : Kept u db' where
  keyed := keyed
  settled r' mem' mine := by
    obtain ⟨r, mem, m⟩ := came r' mem'
    exact (kept.settled r mem (m.owner ▸ mine)).marked m
  created r' mem' mine := by
    obtain ⟨r, mem, m⟩ := came r' mem'
    rw [m.fields _ (by decide) (by decide)]
    exact kept.created r mem (m.owner ▸ mine)

theorem createdMoment {u : Nat} {db : Db} (kept : Kept u db) {r : Row} (mem : r ∈ db.rows .notification)
    (mine : r.getNat? "user" = some u) : ∃ m, r.get "created_at" = .moment m := by
  have prep := kept.settled r mem mine Catalog.createdAt (by simp [Catalog.notification]) (by decide) rfl
  have present := kept.created r mem mine
  simp only [Catalog.createdAt] at prep
  cases hv : r.get "created_at" with
  | moment m => exact ⟨m, rfl⟩
  | null => exact absurd hv present
  | _ =>
    unfold Field.prep at prep
    simp [hv] at prep

/-! ### What a connection reports -/

def unreadOf (u : Nat) (db : Db) : Nat :=
  ((db.rows .notification).filter fun r => r.getNat? "user" == some u && !r.getBool "is_read").length

def newestOf (u : Nat) (db : Db) : List Row :=
  ((db.rows .notification).filter fun r => r.getNat? "user" == some u).mergeSort
    fun a b => !(Value.lt (a.get "created_at") (b.get "created_at"))

def Lists (u : Nat) (db : Db) (d : Json) : Prop :=
  ∃ ns : List Row, d = .arr (ns.map fun r => Notifications.summary (Obj.ofRow .notification r)) ∧
    ns.length ≤ 20 ∧ (∀ r ∈ ns, r ∈ db.rows .notification ∧ r.getNat? "user" = some u) ∧
    ns.Pairwise fun a b => Value.lt (a.get "created_at") (b.get "created_at") = false

theorem unreadCountRun (u : Row) (w : World) : unreadCount u w = .ok (unreadOf u.pk w.db) w := by
  unfold unreadCount
  rw [bindRun (allRun .notification w), List.filter_map, List.length_map]
  rfl

theorem recentRun (u : Row) (w : World) :
    recentNotifications u w =
      .ok (((newestOf u.pk w.db).take 20).map fun r => Notifications.summary (Obj.ofRow .notification r)) w := by
  unfold recentNotifications newestOf
  rw [bindRun (allRun .notification w)]
  have mine : ((w.db.rows .notification).map (Obj.ofRow .notification)).filter
      (fun n => (n.get "user").asNat? == some u.pk) =
      ((w.db.rows .notification).filter fun r => r.getNat? "user" == some u.pk).map (Obj.ofRow .notification) := by
    rw [List.filter_map]
    rfl
  have sorted : (((w.db.rows .notification).filter fun r => r.getNat? "user" == some u.pk).map
      (Obj.ofRow .notification)).mergeSort (fun a b => !(Value.lt (a.get "created_at") (b.get "created_at"))) =
      (((w.db.rows .notification).filter fun r => r.getNat? "user" == some u.pk).mergeSort
        (fun a b => !(Value.lt (a.get "created_at") (b.get "created_at")))).map (Obj.ofRow .notification) :=
    (List.map_mergeSort fun a _ b _ => by simp).symm
  simp only [mine, sorted, ← List.map_take, List.map_map]
  rfl

def createdInstant (r : Row) : Int :=
  match r.get "created_at" with
  | .moment m => m.instant
  | _ => 0

theorem newestPairwise {u : Nat} {db : Db} (kept : Kept u db) :
    (newestOf u db).Pairwise fun a b => Value.lt (a.get "created_at") (b.get "created_at") = false := by
  have moments : ∀ r ∈ (db.rows .notification).filter (fun r => r.getNat? "user" == some u),
      ∃ m, r.get "created_at" = .moment m := by
    intro r mem
    obtain ⟨inRows, mine⟩ := List.mem_filter.mp mem
    exact createdMoment kept inRows (by simpa using mine)
  -- on notifications with creation times the order compares the times as numbers
  have same : newestOf u db = ((db.rows .notification).filter fun r => r.getNat? "user" == some u).mergeSort
      fun a b => decide (createdInstant b ≤ createdInstant a) := by
    have mapped : (((db.rows .notification).filter fun r => r.getNat? "user" == some u).mergeSort
        fun a b => !(Value.lt (a.get "created_at") (b.get "created_at"))).map id =
        (((db.rows .notification).filter fun r => r.getNat? "user" == some u).map id).mergeSort
        fun a b => decide (createdInstant b ≤ createdInstant a) := by
      refine List.map_mergeSort fun a ma b mb => ?_
      obtain ⟨x, hx⟩ := moments a ma
      obtain ⟨y, hy⟩ := moments b mb
      rw [Bool.eq_iff_iff]
      simp [createdInstant, hx, hy, Value.lt]
    unfold newestOf
    simpa using mapped
  have sorted : (((db.rows .notification).filter fun r => r.getNat? "user" == some u).mergeSort
      fun a b => decide (createdInstant b ≤ createdInstant a)).Pairwise
      fun a b => decide (createdInstant b ≤ createdInstant a) :=
    List.pairwise_mergeSort (fun a b c hab hbc => by simp only [decide_eq_true_eq] at *; omega)
      (fun a b => by simp only [Bool.or_eq_true, decide_eq_true_eq]; omega) _
  rw [← same] at sorted
  refine sorted.imp_of_mem fun {a b} ma mb le => ?_
  obtain ⟨x, hx⟩ := moments a (List.mem_mergeSort.mp ma)
  obtain ⟨y, hy⟩ := moments b (List.mem_mergeSort.mp mb)
  simp only [createdInstant, hx, hy, decide_eq_true_eq] at le
  simp [hx, hy, Value.lt, le]

theorem newestLists {u : Nat} {db : Db} (kept : Kept u db) :
    Lists u db (.arr (((newestOf u db).take 20).map fun r => Notifications.summary (Obj.ofRow .notification r))) := by
  refine ⟨(newestOf u db).take 20, rfl, List.length_take_le _ _, fun r mem => ?_,
    (newestPairwise kept).sublist (List.take_sublist _ _)⟩
  have listed := List.mem_mergeSort.mp (List.mem_of_mem_take mem)
  obtain ⟨inRows, mine⟩ := List.mem_filter.mp listed
  exact ⟨inRows, by simpa using mine⟩

/-! ### Marking notifications read -/

def MineAt (u : Nat) (db : Db) (k : Nat) : Prop :=
  ∀ x ∈ db.rows .notification, x.pk = k → x.getNat? "user" = some u

theorem MineAt.isolated {u k : Nat} {db db' : Db} (mine : MineAt u db k) (iso : Isolated u db db') :
    MineAt u db' k := by
  intro x' mem' key
  obtain ⟨x, mem, m⟩ := iso.came x' mem'
  rw [m.owner]
  exact mine x mem (m.key ▸ key)

theorem replacesIsolated {u : Nat} {db db' : Db} {r row : Row} (keyed : Keyed db .notification)
    (mem : r ∈ db.rows .notification) (m : Marked u r row)
    (h : Replaces (db.rows .notification) (db'.rows .notification) row) (present : row ∈ db'.rows .notification) :
    Isolated u db db' where
  kept x inRows := by
    by_cases same : x.pk = row.pk
    · have : x = r := List.inj_on_of_nodup_map keyed inRows mem (same.trans m.key)
      subst this
      exact ⟨row, present, m⟩
    · exact ⟨x, h.kept x inRows same, .refl u x⟩
  came x' inRows' := by
    rcases h.within x' inRows' with rfl | ⟨inRows, -⟩
    · exact ⟨r, mem, m⟩
    · exact ⟨x', inRows, .refl u x'⟩

theorem updateMarked {u k : Nat} {db db' : Db} {b : Bool} (keyed : Keyed db .notification) (mine : MineAt u db k)
    (h : db.update .notification k [("is_read", .bool true)] = .ok (db', b)) :
    Isolated u db db' ∧ Keyed db' .notification := by
  cases present : db.exists? .notification k with
  | false =>
    unfold Db.update at h
    rw [show db.find? .notification k = none from by simpa [Db.exists?] using present] at h
    cases h
    exact ⟨.refl u db, keyed⟩
  | true =>
    obtain ⟨row, stored⟩ := updateStored present h
    obtain ⟨old, mem, key, rfl, inRows', -⟩ := stored.stored k rfl present
    have marked : Marked u old (setCells old [("is_read", .bool true)]) :=
      ⟨setCellsPk _ _, fun other => absurd (mine old mem key) other,
        fun n read _ => setCellsOther _ _ (by simpa using read), .inr (rowSetSame old _ (by decide))⟩
    exact ⟨replacesIsolated keyed mem marked stored.rows inRows', stored.keyed keyed⟩

theorem foldMarked {u : Nat} {g : Db → Row → Db}
    (step : ∀ db r, Keyed db .notification → MineAt u db r.pk → Isolated u db (g db r) ∧ Keyed (g db r) .notification) :
    ∀ (rs : List Row) (db : Db), Keyed db .notification → (∀ r ∈ rs, MineAt u db r.pk) →
      Isolated u db (rs.foldl g db) ∧ Keyed (rs.foldl g db) .notification := by
  intro rs
  induction rs with
  | nil => exact fun db keyed _ => ⟨.refl u db, keyed⟩
  | cons r rs ih =>
    intro db keyed mine
    obtain ⟨iso, keyed'⟩ := step db r keyed (mine r (by simp))
    obtain ⟨iso', keyed''⟩ := ih (g db r) keyed' fun x mem => (mine x (by simp [mem])).isolated iso
    exact ⟨iso.trans iso', keyed''⟩

theorem markAllReadRun (u : Row) (w : World) (keyed : Keyed w.db .notification) :
    ∃ db', markAllRead u w = .ok () { w with db := db' } ∧ Isolated u.pk w.db db' ∧ Keyed db' .notification := by
  unfold markAllRead
  rw [bindRun (show App.db w = .ok w.db w from rfl)]
  refine ⟨_, rfl, foldMarked (fun db r keyed mine => ?_) _ w.db keyed fun r mem => ?_⟩
  · -- one update: it marks the row read, or fails and changes nothing
    split
    · exact updateMarked keyed mine ‹_›
    · exact ⟨.refl _ db, keyed⟩
  · obtain ⟨inRows, unread⟩ := List.mem_filter.mp mem
    intro x inRows' key
    rw [List.inj_on_of_nodup_map keyed inRows' inRows key]
    simp only [Bool.and_eq_true, beq_iff_eq] at unread
    exact unread.1

theorem stampStored (o : Obj) (only : Option (List String)) (now : Instant) {n : String}
    (stored : o.adding = false) (h : ∀ f ∈ o.model.fields, f.autoNow = true → f.name ≠ n) :
    (stamp o only now).get n = o.get n := by
  unfold stamp
  suffices ∀ (fs : List Field) (x : Obj), x.adding = false → (∀ f ∈ fs, f.autoNow = true → f.name ≠ n) →
      (fs.foldl (fun o f =>
        if (touches only f && (f.autoNow || f.autoNowAdd && o.adding)) = true then o.set f.name (Value.now now)
        else o) x).get n = x.get n from this _ o stored h
  intro fs
  induction fs with
  | nil => exact fun x _ _ => rfl
  | cons f fs ih =>
    intro x unadded named
    rw [List.foldl_cons]
    split
    · rename_i stamped
      have clock : f.autoNow = true := (by simpa [unadded] using stamped : _ ∧ _).2
      rw [ih _ (by rw [setAdding, unadded]) fun g mem => named g (List.mem_cons_of_mem f mem)]
      exact objGetSetOther _ _ (named f List.mem_cons_self clock)
    · exact ih x unadded fun g mem => named g (List.mem_cons_of_mem f mem)

theorem notedAdding (db : Db) (o : Obj) : (noted db o).adding = o.adding := by
  unfold noted
  split
  · rfl
  · split
    · rfl
    · dsimp only
      split <;> rfl

theorem writtenMarked (w : World) (r : Row) {n : String} (update : n ≠ "updated_at") :
    (written w ((Obj.ofRow .notification r).set "is_read" (.bool true)) none).get n =
      ((Obj.ofRow .notification r).set "is_read" (.bool true)).get n := by
  have fields : (noted w.db (((Obj.ofRow .notification r).set "is_read" (.bool true)).prepare w.clock)).model.fields =
      Catalog.notification.fields := by
    show (noted _ _).entity.model.fields = _
    rw [(notedEntity _ _).1]
    rfl
  unfold written
  rw [stampStored _ _ _ (by rw [notedAdding]; rfl), notedGet]
  · rfl
  · intro f inFields clock same
    exact update (same ▸ (clockField (fields ▸ inFields)).mp clock)

theorem saveMarked {u : Nat} {w w' : World} {r : Row} {o' : Obj} (kept : Kept u w.db)
    (mem : r ∈ w.db.rows .notification) (mine : r.getNat? "user" = some u)
    (h : App.save ((Obj.ofRow .notification r).set "is_read" (.bool true)) none w = .ok o' w') :
    w' = { w with db := w'.db } ∧ Isolated u w.db w'.db ∧ Keyed w'.db .notification := by
  obtain ⟨row, -, wrote⟩ := saveWrites (by simp [Obj.ofRow]) h
  have key : ((Obj.ofRow .notification r).set "is_read" (.bool true)).pk = some r.pk := by
    rw [setPk _ _ (by decide), ofRowPk]
  have isStored : storedIn w.db ((Obj.ofRow .notification r).set "is_read" (.bool true)) = true := by
    simp only [storedIn, key, setEntity]
    exact List.find?_isSome.mpr ⟨r, mem, by simp⟩
  obtain ⟨rowKey, present, -, old, oldMem, oldKey, untouched⟩ := wrote.stored isStored
  rw [key, Option.some.injEq] at rowKey
  have oldIs : old = r := List.inj_on_of_nodup_map kept.keyed oldMem mem (oldKey.trans rowKey.symm)
  subst oldIs
  have marked : Marked u old row := by
    refine ⟨rowKey.symm, fun other => absurd mine other, fun n read update => ?_, .inr ?_⟩
    · by_cases isKey : n = "id"
      · subst isKey
        rw [rowGetKey, rowGetKey, rowKey]
      by_cases field : ∃ f ∈ Catalog.notification.fields, f.kind ≠ .serial ∧ f.name = n
      · obtain ⟨f, inFields, serial, rfl⟩ := field
        obtain ⟨v, prep, got⟩ := wrote.cells f inFields serial rfl isKey
        have clock : f.autoNow = false := by
          cases hc : f.autoNow
          · rfl
          · exact absurd ((clockField inFields).mp hc) update
        rw [writtenMarked w old update, objGetSetOther _ _ (Ne.symm read), ofRowGet,
          kept.settled old mem mine f inFields serial clock] at prep
        rw [got, ← Except.ok.inj prep]
      · exact (untouched n fun f inFields serial _ same => field ⟨f, inFields, serial, same⟩).trans rfl
    · have listed : Catalog.flag "is_read" false ∈ Catalog.notification.fields := by
        simp [Catalog.notification]
      obtain ⟨v, prep, got⟩ := wrote.cells _ listed (by decide) rfl (by decide)
      change (Catalog.flag "is_read" false).prep
        ((written w ((Obj.ofRow .notification old).set "is_read" (.bool true)) none).get "is_read") = .ok v at prep
      change row.get "is_read" = v at got
      rw [writtenMarked w old (by decide), objGetSet _ _ (by decide)] at prep
      rw [got, ← Except.ok.inj prep]
  exact ⟨wrote.world, replacesIsolated kept.keyed mem marked wrote.rows present, wrote.keyed kept.keyed⟩

theorem saveFails {o : Obj} {only : Option (List String)} {w w' : World} {e : Fault}
    (h : App.save o only w = .error e w') : w' = w := by
  have fails := Answers.runOfTriple (StoreUpdate.saveFailsSpec o only w)
  rw [h] at fails
  exact fails

theorem markOneReadStep (u : Row) (nid : Json) (w : World) (kept : Kept u.pk w.db) :
    (settle (markOneRead u nid w)).2 = w ∨
      ∃ db', (settle (markOneRead u nid w)).2 = { w with db := db' } ∧ Isolated u.pk w.db db' ∧
        Keyed db' .notification := by
  unfold markOneRead
  split
  · -- no id: nothing to mark
    exact .inl rfl
  · rcases hx : (Option.map (fun f : Field => f.prep (Value.ofJson nid)) (Catalog.notification.field? "id")).getD
        (.ok .null) with e | key
    · -- an id that is no key fails before anything is read
      rw [CommentForest.bindFails (show App.ofExcept (.error e) w = .error e w from rfl)]
      exact .inl rfl
    rw [bindRun (show App.ofExcept (.ok key) w = .ok key w from rfl), pure_bind]
    cases key.asNat? with
    | none => exact .inl rfl
    | some k =>
      dsimp only
      rw [bindRun (show App.find? .notification k w = .ok ((w.db.find? .notification k).map
        (Obj.ofRow .notification)) w from rfl)]
      cases found : w.db.find? .notification k with
      | none => exact .inl rfl
      | some r =>
        have mem : r ∈ w.db.rows .notification := List.mem_of_find?_eq_some found
        dsimp only [Option.map_some]
        by_cases mine : r.getNat? "user" = some u.pk
        · -- the notification is `u`'s: it is saved marked read, or the save fails
          rw [if_pos (by simpa [Row.getNat?] using mine), Steps.discardRun]
          cases saved : App.save ((Obj.ofRow .notification r).set "is_read" (.bool true)) none w with
          | ok o' w' =>
            obtain ⟨world, iso, keyed⟩ := saveMarked kept mem mine saved
            exact .inr ⟨w'.db, world, iso, keyed⟩
          | error e w' => exact .inl (saveFails saved)
        · rw [if_neg (by simpa [Row.getNat?] using mine)]
          exact .inl rfl

/-! ### A connection's steps -/

def sentDoc (j : Json) : Json := .obj [("type", .str "websocket.send"), ("json", j)]

theorem emitRun (j : Json) (w : World) : emit j w = .ok () { w with outbox := w.outbox ++ [sentDoc j] } := rfl

/-- What a frame says holds on `db`: an unread count is `u`'s number of unread notifications, and a
list is one that `u`'s connection may send. -/
structure Reports (u : Nat) (db : Db) (f : Json) : Prop where
  count : ∀ c, f = sentDoc (.obj [("type", .str "unread_count"), ("count", c)]) → c = .int (unreadOf u db)
  list : ∀ d, f = sentDoc (.obj [("type", .str "notifications_list"), ("data", d)]) → Lists u db d

theorem reportsOther (u : Nat) (db : Db) {t : String} (rest : List (String × Json))
    (count : t ≠ "unread_count") (list : t ≠ "notifications_list") :
    Reports u db (sentDoc (.obj (("type", .str t) :: rest))) where
  count c h := by simp [sentDoc, count] at h
  list d h := by simp [sentDoc, list] at h

/-- One step of `u`'s connection from `w` to `w'`: the notifications stay isolated and kept, the
connections stay, and each frame sent says what holds in the store the step left. -/
structure Served (u : Nat) (w w' : World) : Prop where
  isolated : Isolated u w.db w'.db
  kept : Kept u w'.db
  sockets : w'.sockets = w.sockets
  sent : ∃ new, w'.outbox = w.outbox ++ new ∧ ∀ f ∈ new, Reports u w'.db f

namespace Served
variable {u : Nat} {w w' : World}

theorem refl (kept : Kept u w.db) : Served u w w :=
  ⟨.refl u w.db, kept, rfl, [], by simp, by simp⟩

theorem store (kept : Kept u w.db) {db : Db} (iso : Isolated u w.db db) (keyed : Keyed db .notification) :
    Served u w { w with db := db } :=
  ⟨iso, kept.marked keyed iso.came, rfl, [], by simp, by simp⟩

theorem emit (served : Served u w w') {j : Json} (reports : Reports u w'.db (sentDoc j)) :
    Served u w { w' with outbox := w'.outbox ++ [sentDoc j] } := by
  obtain ⟨new, out, reported⟩ := served.sent
  refine ⟨served.isolated, served.kept, served.sockets, new ++ [sentDoc j], by simp [out], ?_⟩
  intro f mem
  rcases List.mem_append.mp mem with old | sent
  · exact reported f old
  · rw [List.mem_singleton.mp sent]
    exact reports

end Served

theorem markOneServed (u : Row) (nid : Json) (w : World) (kept : Kept u.pk w.db) :
    Served u.pk w (settle (markOneRead u nid w)).2 := by
  rcases markOneReadStep u nid w kept with same | ⟨db', world, iso, keyed⟩
  · rw [same]
    exact .refl kept
  · rw [world]
    exact .store kept iso keyed

theorem reportsCount (u : Nat) (db : Db) :
    Reports u db (sentDoc (.obj [("type", .str "unread_count"), ("count", .int (unreadOf u db))])) where
  count c h := by
    simp only [sentDoc, Json.obj.injEq, List.cons.injEq, Prod.mk.injEq, and_true, true_and] at h
    exact h.symm
  list d h := by simp [sentDoc] at h

theorem reportsList {u : Nat} {db : Db} (kept : Kept u db) :
    Reports u db (sentDoc (.obj [("type", .str "notifications_list"),
      ("data", .arr (((newestOf u db).take 20).map fun r => Notifications.summary (Obj.ofRow .notification r)))])) where
  count c h := by simp [sentDoc] at h
  list d h := by
    simp only [sentDoc, Json.obj.injEq, List.cons.injEq, Prod.mk.injEq, and_true, true_and] at h
    rw [← h]
    exact newestLists kept

theorem thenEmitServed {u : Nat} {act : App Unit} {w : World} {j : Json} (served : Served u w (settle (act w)).2)
    (reports : ∀ w', Served u w w' → Reports u w'.db (sentDoc j)) :
    Served u w (settle ((act >>= fun _ => emit j) w)).2 := by
  cases ran : act w with
  | ok a w' =>
    rw [ran] at served
    rw [bindRun ran, emitRun]
    exact served.emit (reports w' served)
  | error e w' =>
    rw [ran] at served
    rw [CommentForest.bindFails ran]
    exact served

section Connection
variable {id : String} {s : Socket} {u : Row}

theorem userOfRun {w : World} (user : s.user = some u) : userOf s w = .ok u w := by
  unfold userOf
  rw [user]
  rfl

theorem receiveDocServed {w : World} (found : socketAt w id = some s) (consumer : s.consumer = .notification)
    (user : s.user = some u) (kept : Kept u.pk w.db) (doc : Json) :
    Served u.pk w (settle (receiveDoc id doc w)).2 := by
  unfold receiveDoc
  rw [bindRun (socketRun found)]
  simp only [consumer, user]
  rw [if_neg (by decide)]
  split
  · rename_i kvs
    rw [pure_bind]
    generalize (Option.map (fun x => x.2) (List.find? (fun x => x.1 == "type") kvs)).getD (Json.str "") = kind
    cases kind
    case str t =>
      -- the four requests the consumer answers; any other type is ignored
      by_cases one : t = "mark_as_read"
      · subst one
        simp only
        rw [bindRun (userOfRun user)]
        exact thenEmitServed (markOneServed u _ w kept) fun w' _ => reportsOther _ _ _ (by decide) (by decide)
      by_cases all : t = "mark_all_as_read"
      · subst all
        simp only
        obtain ⟨db', ran, iso, keyed⟩ := markAllReadRun u w kept.keyed
        refine thenEmitServed ?_ fun w' _ => reportsOther _ _ _ (by decide) (by decide)
        rw [ran]
        exact .store kept iso keyed
      by_cases list : t = "request_notifications"
      · subst list
        simp only
        rw [bindRun (userOfRun user), bindRun (recentRun u w), emitRun]
        exact (Served.refl kept).emit (reportsList kept)
      by_cases count : t = "request_unread_count"
      · subst count
        simp only
        unfold sendUnreadCount
        rw [bindRun (userOfRun user), bindRun (unreadCountRun u w), emitRun]
        exact (Served.refl kept).emit (reportsCount _ _)
      simp only [Json.str.injEq, one, all, list, count, imp_self]
      exact .refl kept
    all_goals exact .refl kept
  · -- a document that is not an object has no type to read
    rw [CommentForest.bindFails (show (App.raise "AttributeError" _ : App Json) w = .error _ w from rfl)]
    exact .refl kept

theorem receiptServed {w : World} (found : socketAt w id = some s) (consumer : s.consumer = .notification)
    (user : s.user = some u) (kept : Kept u.pk w.db) (r : Receipt) :
    Served u.pk w (settle (r.run id w)).2 := by
  cases r with
  | doc j => exact receiveDocServed found consumer user kept j
  | text t =>
    simp only [Receipt.run, receiveText]
    rw [bindRun (socketRun found)]
    simp only [consumer]
    rw [if_neg (by decide)]
    cases Json.parse t with
    | ok doc => exact receiveDocServed found consumer user kept doc
    | error e => exact .refl kept
  | bytes =>
    simp only [Receipt.run, receiveBytes]
    rw [bindRun (socketRun found)]
    simp only [consumer]
    rw [if_neg (by decide)]
    exact .refl kept

end Connection

theorem runStepsChain {P : World → Prop} {R : World → World → Prop} (acts : List (App Unit))
    (step : ∀ a ∈ acts, ∀ w, P w → R w (settle (a w)).2 ∧ P (settle (a w)).2) {w : World} (h : P w) :
    List.IsChain R (w :: (runSteps acts w).map Prod.snd) := by
  induction acts generalizing w with
  | nil => exact List.isChain_singleton w
  | cons a as ih =>
    obtain ⟨related, next⟩ := step a (by simp) w h
    exact .cons_cons related (ih (fun b hb => step b (by simp [hb])) next)

theorem notificationSessionIsolated {w₀ : World} {id : String} {s : Socket} {u : Row} (rs : List Receipt)
    (found : socketAt w₀ id = some s) (consumer : s.consumer = .notification) (user : s.user = some u)
    (kept : Kept u.pk w₀.db) :
    List.IsChain (Served u.pk) (w₀ :: (runSteps (rs.map (Receipt.run id)) w₀).map Prod.snd) ∧
      ∀ p ∈ runSteps (rs.map (Receipt.run id)) w₀, Isolated u.pk w₀.db p.2.db := by
  -- the connection stays where it was and the store keeps the notifications, step after step
  have step : ∀ a ∈ rs.map (Receipt.run id), ∀ w, Kept u.pk w.db ∧ socketAt w id = some s →
      Served u.pk w (settle (a w)).2 ∧ Kept u.pk (settle (a w)).2.db ∧ socketAt (settle (a w)).2 id = some s := by
    intro a mem w ⟨keptHere, foundHere⟩
    obtain ⟨r, -, rfl⟩ := List.mem_map.mp mem
    have served := receiptServed foundHere consumer user keptHere r
    refine ⟨served, served.kept, ?_⟩
    unfold socketAt
    rw [served.sockets]
    exact foundHere
  refine ⟨runStepsChain _ step ⟨kept, found⟩, fun p mem => ?_⟩
  have whole := runStepsKeep (fun w => (Kept u.pk w.db ∧ socketAt w id = some s) ∧ Isolated u.pk w₀.db w.db) _
    (fun a mem w ⟨here, iso⟩ => ⟨(step a mem w here).2, iso.trans (step a mem w here).1.isolated⟩)
    ⟨⟨kept, found⟩, .refl _ _⟩
  exact (whole.1 p mem).2

def reader : Row := { pk := 1, cells := [("username", .text "ann")] }

def readerSocket : Socket := { consumer := .notification, channel := "ws.n", scopeUser := some reader, user := some reader }

def noteRow (k u : Nat) : Row :=
  ⟨k, [("user", .int u), ("title", .text "t"), ("message", .text "m"), ("level", .text "info"),
    ("is_read", .bool false), ("created_at", Value.now Instant.start), ("updated_at", Value.now Instant.start),
    ("data", .json (.obj []))]⟩

def notesDb : Db :=
  { tables := [(.user, { rows := [reader, ⟨2, [("username", .text "bob")]⟩], seq := 2 }),
      (.notification, { rows := [noteRow 1 1, noteRow 2 2], seq := 2 }), (.systemLog, {})], links := [] }

def readerWorld : World := { sockets := [("n", readerSocket)], db := notesDb }

theorem noteSettled (k u : Nat) : Settled (noteRow k u) := by
  intro f mem _ _
  simp only [Catalog.notification, List.mem_cons, List.not_mem_nil, or_false] at mem
  rcases mem with rfl | rfl | rfl | rfl | rfl | rfl | rfl | rfl | rfl <;> rfl

def markAll : List Receipt := [Receipt.doc (.obj [("type", .str "mark_all_as_read")])]

theorem readerSessionIsolated :
    socketAt readerWorld "n" = some readerSocket ∧ readerSocket.consumer = .notification ∧
    readerSocket.user = some reader ∧ Kept reader.pk readerWorld.db ∧
    List.IsChain (Served reader.pk) (readerWorld :: (runSteps (markAll.map (Receipt.run "n")) readerWorld).map Prod.snd) ∧
    (∀ p ∈ runSteps (markAll.map (Receipt.run "n")) readerWorld, Isolated reader.pk readerWorld.db p.2.db) ∧
    ((runSteps (markAll.map (Receipt.run "n")) readerWorld).getLast?.map fun p =>
      (p.2.db.rows .notification).map fun r => r.get "is_read" == .bool true) = some [true, false] := by
  have rows : readerWorld.db.rows .notification = [noteRow 1 1, noteRow 2 2] := rfl
  have kept : Kept reader.pk readerWorld.db := by
    refine ⟨by simp [Keyed, rows, noteRow], ?_, ?_⟩ <;> intro r mem _ <;>
      simp only [rows, List.mem_cons, List.not_mem_nil, or_false] at mem
    · rcases mem with rfl | rfl <;> exact noteSettled _ _
    · rcases mem with rfl | rfl <;> simp [noteRow, Row.get, Value.now]
  have found : socketAt readerWorld "n" = some readerSocket := rfl
  obtain ⟨served, isolated⟩ := notificationSessionIsolated markAll found rfl rfl kept
  exact ⟨found, rfl, rfl, kept, served, isolated, by decide +kernel⟩

end Portal.NotificationIsolation
