import Mathlib
import Portal.Web.View
/-! Records read back from the store, and the pages a list is cut into. A kind's table is
keyed when no two of its rows share a key, as every insert of the store checks first. In a
keyed table a lookup by key finds exactly the row with that key, and a read of the whole
table gives every row once, in whatever order the kind's default ordering puts them. Every
member of a list stands on some page, the one whose number the paginator writes for it. -/
namespace Portal.Listing

@[simp] theorem ofRowPk (e : Entity) (r : Row) : (Obj.ofRow e r).pk = some r.pk := rfl

@[simp] theorem ofRowGet (e : Entity) (r : Row) (name : String) :
    (Obj.ofRow e r).get name = r.get name := by
  unfold Obj.get Row.get Obj.ofRow
  split <;> rfl

@[simp] theorem ofRowGetNat (e : Entity) (r : Row) (name : String) :
    (Obj.ofRow e r).getNat? name = r.getNat? name := by
  simp [Obj.getNat?, Row.getNat?]

@[simp] theorem ofRowGetBool (e : Entity) (r : Row) (name : String) :
    (Obj.ofRow e r).getBool name = r.getBool name := by
  simp [Obj.getBool, Row.getBool]

@[simp] theorem ofRowGetText (e : Entity) (r : Row) (name : String) :
    (Obj.ofRow e r).getText name = r.getText name := by
  simp [Obj.getText, Row.getText]

def Keyed (db : Db) (e : Entity) : Prop := ((db.rows e).map Row.pk).Nodup

instance (db : Db) (e : Entity) : Decidable (Keyed db e) :=
  inferInstanceAs (Decidable (List.Nodup _))

theorem keyedFilter {rows : List Row} {t : Row} (keys : (rows.map Row.pk).Nodup) (mem : t ∈ rows) :
    rows.filter (fun r => r.pk == t.pk) = [t] := by
  induction rows with
  | nil => simp at mem
  | cons x xs ih =>
    obtain ⟨fresh, keys⟩ := List.nodup_cons.mp keys
    rcases List.mem_cons.mp mem with rfl | inside
    · -- the head is `t`; no later row repeats its key
      have rest : xs.filter (fun r => r.pk == t.pk) = [] := by
        refine List.filter_eq_nil_iff.mpr fun r hr same => fresh ?_
        exact List.mem_map.mpr ⟨r, hr, by simpa using same⟩
      simp [rest]
    · have other : x.pk ≠ t.pk := fun same => fresh (same ▸ List.mem_map_of_mem inside)
      simp [other, ih keys inside]

theorem bindRun {α β : Type} {x : App α} {f : α → App β} {w w' : World} {a : α}
    (h : x w = .ok a w') : (x >>= f) w = f a w' := by
  show EStateM.bind x f w = _
  simp [EStateM.bind, h]

theorem allRun (e : Entity) (w : World) :
    App.all e w = .ok ((w.db.rows e).map (Obj.ofRow e)) w := rfl

theorem getOr404Run {w : World} {e : Entity} {t : Row} (keyed : Keyed w.db e)
    (mem : t ∈ w.db.rows e) : App.getOr404 e (·.pk == some t.pk) w = .ok (Obj.ofRow e t) w := by
  have found : ((w.db.rows e).map (Obj.ofRow e)).filter (·.pk == some t.pk) = [Obj.ofRow e t] := by
    rw [List.filter_map]
    have same : ((·.pk == some t.pk) ∘ Obj.ofRow e) = fun r : Row => r.pk == t.pk := by
      funext r; simp
    rw [same, keyedFilter keyed mem]
    rfl
  unfold App.getOr404
  rw [bindRun (allRun e w), found]
  rfl

theorem defaultOrderPerm (e : Entity) (xs : List Obj) : (App.defaultOrder e xs).Perm xs := by
  unfold App.defaultOrder
  generalize e.model.ordering.reverse = keys
  induction keys generalizing xs with
  | nil => rfl
  | cons key keys ih =>
    simp only [List.foldl_cons]
    exact (ih _).trans (List.mergeSort_perm _ _)

theorem selectAllRun (e : Entity) (w : World) :
    App.select e [] true w = .ok (App.defaultOrder e ((w.db.rows e).map (Obj.ofRow e))) w := by
  have kept : ((w.db.rows e).map (Obj.ofRow e)).filter (App.satisfies []) =
      (w.db.rows e).map (Obj.ofRow e) := List.filter_eq_self.mpr fun _ _ => rfl
  change (App.all e >>= fun xs => pure (App.defaultOrder e (xs.filter (App.satisfies [])))) w = _
  rw [bindRun (allRun e w), kept]
  rfl

theorem digitRange {c : Char} (h : c.isDigit) : 48 ≤ c.toNat ∧ c.toNat < 58 := by
  have := Char.isDigit_iff_toNat.mp h
  simp at this
  omega

theorem digitValueAscii {c : Char} (h : c.isDigit) : Text.digitValue? c = some (c.toNat - 48) := by
  obtain ⟨lo, hi⟩ := digitRange h
  simp [Text.digitValue?, Text.decimalZeros, List.find?_cons_of_pos, lo, hi]

theorem blankDigit {c : Char} (h : c.isDigit) : Text.isNumberBlank c = false := by
  obtain ⟨lo, hi⟩ := digitRange h
  simp [Text.isNumberBlank]
  omega

theorem keepDigits {cs : List Char} (digits : ∀ c ∈ cs, c.isDigit) :
    cs.dropWhile Text.isNumberBlank = cs := by
  cases cs with
  | nil => rfl
  | cons c cs => simp [blankDigit (digits c (by simp))]

theorem foldDigits {cs : List Char} (digits : ∀ c ∈ cs, c.isDigit) (init : Nat) :
    cs.foldl (fun n c => ((Text.digitValue? c).map (n * 10 + ·)).getD n) init =
      Nat.ofDigitChars 10 cs init := by
  induction cs generalizing init with
  | nil => rfl
  | cons c cs ih =>
    have value := digitValueAscii (digits c (by simp))
    rw [List.foldl_cons, Nat.ofDigitChars_cons, value, ih fun d hd => digits d (by simp [hd])]
    simp [Nat.mul_comm]

theorem digitRunDigits (n : Nat) : Text.digitRun? (Nat.toDigits 10 n) = some n := by
  have digits : ∀ c ∈ Nat.toDigits 10 n, c.isDigit := fun c hc =>
    Nat.isDigit_of_mem_toDigits (b := 10) (by decide) (by decide) hc
  have noMark : '_' ∉ Nat.toDigits 10 n := Nat.underscore_not_in_toDigits
  have head : (Nat.toDigits 10 n).head? ≠ some '_' := fun h => noMark (List.mem_of_head? h)
  have last : (Nat.toDigits 10 n).getLast? ≠ some '_' := fun h => noMark (List.mem_of_getLast? h)
  have valued : ∀ c ∈ Nat.toDigits 10 n, ¬c = '_' → ¬Text.digitValue? c = none := fun c hc _ => by
    simp [digitValueAscii (digits c hc)]
  have noPair : ('_', '_') ∉ (Nat.toDigits 10 n).zip (Nat.toDigits 10 n).tail := fun h =>
    noMark (List.of_mem_zip h).1
  simp only [Text.digitRun?]
  simp [Nat.toDigits_ne_nil, head, last, noPair, foldDigits digits]
  exact valued

theorem readIntegerRepr (n : Nat) : Text.readInteger? (toString n) = some n := by
  have digits : ∀ c ∈ Nat.toDigits 10 n, c.isDigit := fun c hc =>
    Nat.isDigit_of_mem_toDigits (b := 10) (by decide) (by decide) hc
  have trimmed : (((toString n).toList.dropWhile Text.isNumberBlank).reverse.dropWhile
      Text.isNumberBlank).reverse = Nat.toDigits 10 n := by
    rw [Nat.toString_eq_repr, Nat.toList_repr, keepDigits digits,
      keepDigits fun c hc => digits c (List.mem_reverse.mp hc), List.reverse_reverse]
  unfold Text.readInteger?
  rw [trimmed]
  obtain ⟨c, cs, split⟩ := List.exists_cons_of_ne_nil (Nat.toDigits_ne_nil (n := n) (b := 10))
  have sign := digitRange (digits c (by simp [split]))
  have notMinus : c ≠ '-' := fun h => by subst h; simp at sign
  have notPlus : c ≠ '+' := fun h => by subst h; simp at sign
  rw [split]
  split
  · rename_i same; exact absurd (List.cons.inj same).1 notMinus
  · rename_i same; exact absurd (List.cons.inj same).1 notPlus
  · rw [← split, digitRunDigits]
    rfl

theorem pageNumbered {xs : List Obj} {per n : Nat} (pos : 1 ≤ n)
    (within : n ≤ max 1 ((xs.length + per - 1) / per)) :
    (Web.pageLeniently xs per (some (toString n))).items = (xs.drop ((n - 1) * per)).take per := by
  have asked : (some (toString n)).bind Forms.intOf? = some (n : Int) := readIntegerRepr n
  have inRange : ((n : Int) < 1 || (n : Int) > (max 1 ((xs.length + per - 1) / per) : Nat)) = false := by
    simp only [Bool.or_eq_false_iff, decide_eq_false_iff_not]
    omega
  simp only [Web.pageLeniently, asked, inRange]
  simp

theorem onPageMem {xs : List Obj} {x : Obj} {per : Nat} {asked : Option String}
    (h : x ∈ (Web.pageLeniently xs per asked).items) : x ∈ xs :=
  List.mem_of_mem_drop (List.mem_of_mem_take h)

theorem onSomePage {xs : List Obj} {x : Obj} {per : Nat} (per0 : 0 < per) (mem : x ∈ xs) :
    ∃ n : Nat, x ∈ (Web.pageLeniently xs per (some (toString n))).items := by
  obtain ⟨i, bound, rfl⟩ := List.mem_iff_getElem.mp mem
  have below : i / per * per ≤ i := Nat.div_mul_le_self i per
  have above : i < i / per * per + per := by
    have := Nat.lt_div_mul_add (a := i) per0; linarith
  have last : i / per + 1 ≤ max 1 ((xs.length + per - 1) / per) := by
    refine le_max_of_le_right ((Nat.le_div_iff_mul_le per0).mpr ?_)
    rw [Nat.add_mul, Nat.one_mul]
    omega
  refine ⟨i / per + 1, ?_⟩
  rw [pageNumbered (Nat.le_add_left 1 _) last, Nat.add_sub_cancel]
  refine List.mem_iff_getElem.mpr ⟨i - i / per * per, ?_, ?_⟩
  · simp only [List.length_take, List.length_drop]
    omega
  · simp only [List.getElem_take, List.getElem_drop]
    congr 1
    omega

end Portal.Listing
