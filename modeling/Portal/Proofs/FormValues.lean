import Mathlib
import Portal.Proofs.Steps
import Portal.Proofs.WrittenRows
import Portal.Tasks.Forms
import Portal.Admin.Pages
/-! What a read form holds. A choice field reads only text, so each value a form cleaned is text
where its field is a choice (`Good`). The site's forms keep that, and so does the
administration's change form, whose unique checks only drop values; a valid change form writes
its values over the record it was posted for, so a field it does not hold keeps its value
(`applyFormGet`). -/
namespace Portal.FormValues
open Forms Admin Std.Do

set_option mvcgen.warning false

def Reading (f : FieldSpec) (v : Value) : Prop := ∀ opts, f.kind = .choice opts → ∃ s, v = .text s

theorem choiceRun (f : FieldSpec) {opts : List String} (kind : f.kind = .choice opts) (raw : Option (Option String))
    (w : World) : ∃ r, f.read raw w = .ok r w ∧ ∀ v, r = .ok v → ∃ s, v = .text s := by
  unfold FieldSpec.read
  rw [kind]
  dsimp only
  split
  · refine ⟨_, rfl, fun v hv => ?_⟩
    split at hv
    · cases hv
    · cases hv
      exact ⟨_, rfl⟩
  · split
    · exact ⟨_, rfl, fun v hv => by cases hv; exact ⟨_, rfl⟩⟩
    · exact ⟨_, rfl, fun v hv => by cases hv⟩

theorem readGives (f : FieldSpec) (raw : Option (Option String)) (s₀ : World) :
    ⦃fun s => ⌜s = s₀⌝⦄ f.read raw
    ⦃post⟨fun r s => ⌜s = s₀ ∧ ∀ v, r = .ok v → Reading f v⌝, fun _ _ => ⌜False⌝⟩⦄ := by
  intro s h
  simp only [wp, PredTrans.apply, EStateM.run] at h ⊢
  subst h
  by_cases choice : ∃ opts, f.kind = .choice opts
  · obtain ⟨opts, kind⟩ := choice
    obtain ⟨r, run, text⟩ := choiceRun f kind raw s
    rw [run]
    refine ⟨rfl, fun v hv opts' _ => text v hv⟩
  · have base := Answers.runOfTriple (Steps.readFieldSpec f raw s)
    rcases run : f.read raw s with ⟨r, s'⟩ | ⟨e, s'⟩ <;> rw [run] at base
    · exact ⟨base, fun _ _ opts kind => absurd ⟨opts, kind⟩ choice⟩
    · exact base.elim

def Good (all : List FieldSpec) (o : Outcome) : Prop := ∀ p ∈ o.cleaned, ∃ f ∈ all, f.name = p.1 ∧ Reading f p.2

theorem goodPut {all : List FieldSpec} {o : Outcome} (good : Good all o) {f : FieldSpec} (mem : f ∈ all)
    {v : Value} (reads : Reading f v) : Good all (o.put f.name v) := by
  intro p listed
  rcases List.mem_append.mp listed with kept | added
  · exact good p (List.mem_filter.mp kept).1
  · rw [List.mem_singleton.mp added]
    exact ⟨f, mem, rfl, reads⟩

theorem goodAddError {all : List FieldSpec} {o : Outcome} (good : Good all o) (n msg : String) :
    Good all (o.addError n msg) :=
  fun p listed => good p (List.mem_filter.mp listed).1

theorem readAllGood (all : List FieldSpec) (data : Submitted) (s₀ : World) :
    ⦃fun s => ⌜s = s₀⌝⦄ Forms.readAll all data Tasks.noCheck
    ⦃post⟨fun o s => ⌜s = s₀ ∧ Good all o⌝, fun _ _ => ⌜False⌝⟩⦄ := by
  mvcgen [Forms.readAll, readGives, Tasks.noCheck, -Steps.readAllSpec, -Steps.readFieldSpec] invariants
    · post⟨fun p s => ⌜s = s₀ ∧ Good all p.2⌝, fun _ _ => ⌜False⌝⟩
  case vc1 => exact ⟨‹_›, fun _ listed => by cases listed⟩
  case vc2 => exact fun same good => ⟨same, good⟩
  case vc4 =>
    rename_i before _ _ _ _ after
    exact ⟨after.1.trans before.1, goodAddError before.2 _ _⟩
  case vc5 =>
    rename_i cur _ split _ _ before _ v _ _ _ after
    have mem : cur ∈ all := by
      rw [split]
      exact List.mem_append_right _ List.mem_cons_self
    have reads := after.2 v rfl
    exact ⟨after.1.trans before.1, goodPut (goodPut before.2 mem reads) mem reads⟩

theorem goodSub {all : List FieldSpec} {o o' : Outcome} (good : Good all o) (sub : ∀ p ∈ o'.cleaned, p ∈ o.cleaned) :
    Good all o' :=
  fun p mem => good p (sub p mem)

theorem goodMono {all all' : List FieldSpec} {o : Outcome} (good : Good all o) (sub : ∀ f ∈ all, f ∈ all') :
    Good all' o := by
  intro p mem
  obtain ⟨f, listed, named, reads⟩ := good p mem
  exact ⟨f, sub f listed, named, reads⟩

theorem readAllUnchecked (all : List FieldSpec) (data : Submitted) (s₀ : World) :
    ⦃fun s => ⌜s = s₀⌝⦄ Forms.readAll all data Forms.unchecked
    ⦃post⟨fun o s => ⌜s = s₀ ∧ Good all o⌝, fun _ _ => ⌜False⌝⟩⦄ :=
  readAllGood all data s₀

/-! ### The administration's change form -/

theorem takenSpec (e : Entity) (k : Option Nat) (o : Outcome) (names : List String) (s₀ : World) :
    ⦃fun s => ⌜s = s₀⌝⦄ taken e k o names ⦃post⟨fun _ s => ⌜s = s₀⌝, fun _ _ => ⌜False⌝⟩⦄ := by
  mvcgen [taken, App.db]

theorem uniqueCheckedSpec (g : Registration) (e : Entity) (k : Option Nat) (o : Outcome) (s₀ : World) :
    ⦃fun s => ⌜s = s₀⌝⦄ uniqueChecked g e k o
    ⦃post⟨fun o' s => ⌜s = s₀ ∧ ∀ p ∈ o'.cleaned, p ∈ o.cleaned⌝, fun _ _ => ⌜False⌝⟩⦄ := by
  mvcgen [uniqueChecked, takenSpec] invariants
    · post⟨fun p s => ⌜s = s₀ ∧ ∀ q ∈ p.2.cleaned, q ∈ o.cleaned⌝, fun _ _ => ⌜False⌝⟩
    · post⟨fun p s => ⌜s = s₀ ∧ ∀ q ∈ p.2.cleaned, q ∈ o.cleaned⌝, fun _ _ => ⌜False⌝⟩
  all_goals simp_all [Outcome.addError]

theorem splitReading {f : FieldSpec} (halves : typedSplit f = true) (v : Value) : Reading f v := by
  intro opts kind
  unfold typedSplit at halves
  rw [kind] at halves
  cases halves

theorem splitsGood {all : List FieldSpec} (data : Submitted) (L : List FieldSpec)
    (sub : ∀ f ∈ L, f ∈ all ∧ typedSplit f = true) {o : Outcome} (good : Good all o) :
    Good all (L.foldl (putSplit data) o) := by
  induction L generalizing o with
  | nil => exact good
  | cons f L ih =>
    obtain ⟨mem, halves⟩ := sub f List.mem_cons_self
    have step : Good all (putSplit data o f) := by
      unfold putSplit
      split
      · exact goodAddError good _ _
      · exact goodPut good mem (splitReading halves _)
    rw [List.foldl_cons]
    exact ih (fun f' listed => sub f' (List.mem_cons_of_mem _ listed)) step

theorem readChangeFormGood (g : Registration) (e : Entity) (data : Submitted) (k : Option Nat) (s₀ : World) :
    ⦃fun s => ⌜s = s₀⌝⦄ readChangeForm g e data k
    ⦃post⟨fun o s => ⌜s = s₀ ∧ Good (formSpecs g e.model) o⌝, fun _ _ => ⌜False⌝⟩⦄ := by
  mvcgen [readChangeForm, readAllUnchecked, uniqueCheckedSpec, -Steps.readAllSpec]
  rename_i start _ _ read _ _
  intro after kept
  have splits := splitsGood data _ (fun f listed => ⟨(List.mem_filter.mp listed).1, (List.mem_filter.mp listed).2⟩)
    (goodMono read.2 fun f listed => (List.mem_filter.mp listed).1)
  exact ⟨after.trans (read.1.trans start), goodSub splits kept⟩

theorem setAllGet (L : List (String × Value)) (o : Obj) {n : String} (hn : n ≠ "id") :
    (L.foldl (fun o p => o.set p.1 (storedValue o.model p.1 p.2)) o).get n = o.get n ∨
      ∃ p ∈ L, p.1 = n ∧
        (L.foldl (fun o p => o.set p.1 (storedValue o.model p.1 p.2)) o).get n = storedValue o.model n p.2 := by
  induction L generalizing o with
  | nil => exact .inl rfl
  | cons p L ih =>
    have model : (o.set p.1 (storedValue o.model p.1 p.2)).model = o.model := by
      unfold Obj.model
      rw [WrittenRows.setEntity]
    rcases ih (o.set p.1 (storedValue o.model p.1 p.2)) with same | ⟨q, mem, named, stored⟩
    · by_cases written : p.1 = n
      · subst written
        exact .inr ⟨p, List.mem_cons_self, rfl, by rw [List.foldl_cons, same, WrittenRows.objGetSet _ _ hn]⟩
      · exact .inl (by rw [List.foldl_cons, same, WrittenRows.objGetSetOther _ _ written])
    · exact .inr ⟨q, List.mem_cons_of_mem _ mem, named, by rw [List.foldl_cons, stored, model]⟩

theorem setAllKey (L : List (String × Value)) (o : Obj) (keyless : ∀ p ∈ L, p.1 ≠ "id") :
    (L.foldl (fun o p => o.set p.1 (storedValue o.model p.1 p.2)) o).pk = o.pk ∧
      (L.foldl (fun o p => o.set p.1 (storedValue o.model p.1 p.2)) o).entity = o.entity := by
  induction L generalizing o with
  | nil => exact ⟨rfl, rfl⟩
  | cons p L ih =>
    obtain ⟨key, entity⟩ := ih (o.set p.1 (storedValue o.model p.1 p.2))
      fun q mem => keyless q (List.mem_cons_of_mem _ mem)
    rw [List.foldl_cons, key, entity, WrittenRows.setPk _ _ (keyless p List.mem_cons_self), WrittenRows.setEntity]
    exact ⟨rfl, rfl⟩

theorem applyFormGet (o : Obj) (out : Outcome) {n : String} (hn : n ≠ "id") :
    (applyForm o out).get n = o.get n ∨
      ∃ p ∈ out.cleaned, p.1 = n ∧ (applyForm o out).get n = storedValue o.model n p.2 := by
  unfold applyForm
  rcases setAllGet _ o hn with same | ⟨p, mem, named, stored⟩
  · exact .inl same
  · exact .inr ⟨p, (List.mem_filter.mp mem).1, named, stored⟩

theorem applyFormKey (o : Obj) (out : Outcome) (keyless : ∀ p ∈ out.cleaned, p.1 ≠ "id") :
    (applyForm o out).pk = o.pk ∧ (applyForm o out).entity = o.entity :=
  setAllKey _ o fun p mem => keyless p (List.mem_filter.mp mem).1

theorem storedKept {m : Model} {n : String} (h : (m.field? n).any (·.null) = false) (v : Value) :
    storedValue m n v = v := by
  simp [storedValue, h]

theorem afterSaveQuiet (g : Registration) (u : Obj) (r : Web.Request) (added : Bool) (o : Obj) (s₀ : World) :
    ⦃fun s => ⌜s = s₀⌝⦄ afterSave g u r added o
    ⦃post⟨fun _ s => ⌜s.db = s₀.db ∧ s.clock = s₀.clock⌝, fun _ s => ⌜s.db = s₀.db ∧ s.clock = s₀.clock⌝⟩⦄ := by
  mvcgen [afterSave, App.message]
  all_goals simp_all +zetaDelta

end Portal.FormValues
