import Worldsmith.Proofs.Json.RoundTrip

namespace Worldsmith.Json.Form

variable {α β : Type} {n : Nat} {a : α} {read : Reader β} {write : β → Json} {name key : String}
  {l : List (String × Json)} {d : Draft} {es es' : List (Key × Draft)}

/-- Whatever its readers give, the form gives a value with the property. -/
def Gives : {α : Type} → Form α → (α → Prop) → Prop
  | _, done a, P => P a
  | _, @field _ β before _ read absent got, P =>
    ∃ Q : β → Prop, (∀ d b, read d = .ok b → Q b) ∧ (∀ b, absent = some b → Q b) ∧
      (∀ b, got = some b → Q b) ∧ before.Gives fun f => ∀ b, Q b → P (f b)

theorem Gives.mono {form : Form α} {P P' : α → Prop} (h : form.Gives P) (hP : ∀ a, P a → P' a) :
    form.Gives P' := by
  induction form with
  | done a => exact hP a h
  | field before name read absent got ih =>
    obtain ⟨Q, hread, habsent, hgot, h⟩ := h
    refine ⟨Q, hread, habsent, hgot, ih h ?_⟩
    intro f hf b hb
    exact hP (f b) (hf b hb)

theorem Gives.offer {form form' : Form α} {P : α → Prop} (h : form.Gives P)
    (ho : form.offer key d = some (.ok form')) : form'.Gives P := by
  induction form with
  | done a => cases ho
  | field before name read absent got ih =>
    obtain ⟨Q, hread, habsent, hgot, h⟩ := h
    rw [Form.offer.eq_def] at ho
    dsimp only at ho
    split at ho
    · split at ho
      · cases ho
      · split at ho
        · next b hb =>
          cases ho
          refine ⟨Q, hread, habsent, ?_, h⟩
          rintro _ ⟨⟩
          exact hread d b hb
        · cases ho
    · split at ho
      · cases ho
      · next before' hbefore =>
        cases ho
        exact ⟨Q, hread, habsent, hgot, ih h hbefore⟩
      · cases ho

theorem Gives.absorb {other : Draft → Except Fault Unit} {form form' : Form α} {P : α → Prop}
    (h : form.Gives P) (ha : form.absorb other es = .ok form') : form'.Gives P := by
  induction es generalizing form with
  | nil =>
    cases ha
    exact h
  | cons e es ih =>
    rw [Form.absorb] at ha
    split at ha
    · cases ha
    · split at ha
      · next form₁ hoffer => exact ih (h.offer hoffer) ha
      · cases ha
      · split at ha
        · exact ih h ha
        · cases ha

theorem Gives.finish {form : Form α} {P : α → Prop} (h : form.Gives P)
    (hf : form.finish = .ok a) : P a := by
  induction form with
  | done b =>
    cases hf
    exact h
  | field before name read absent got ih =>
    obtain ⟨Q, -, habsent, hgot, h⟩ := h
    obtain ⟨f, hf, hlast⟩ := exists_ok_of_bind hf
    have hP := ih h hf
    split at hlast
    · cases hlast
      exact hP _ (hgot _ rfl)
    · cases hlast
      exact hP _ (habsent _ rfl)
    · cases hlast

theorem Gives.positional {record : String} {ending : Ending} {form : Form α} {P : α → Prop}
    {items left : List Draft} (h : form.Gives P)
    (hp : form.positional record ending items = .ok (a, left)) : P a := by
  induction form generalizing left with
  | done b =>
    cases hp
    exact h
  | field before name read absent got ih =>
    obtain ⟨Q, hread, habsent, -, h⟩ := h
    obtain ⟨⟨f, items'⟩, hf, hlast⟩ := exists_ok_of_bind hp
    have hP := ih h hf
    cases items' with
    | cons d ds =>
      obtain ⟨b, hb, hlast⟩ := exists_ok_of_bind hlast
      cases hlast
      exact hP b (hread d b hb)
    | nil =>
      obtain ⟨_, _, hlast⟩ := exists_ok_of_bind hlast
      split at hlast
      · cases hlast
        exact hP _ (habsent _ rfl)
      · cases hlast

theorem Gives.of_read {form : Form α} {P : α → Prop} (h : form.Gives P)
    (hr : form.read name d = .ok a) : P a := by
  rw [Form.read.eq_def] at hr
  split at hr
  · split at hr
    · cases hr
    · next filled hfilled =>
      obtain ⟨_, _, hr⟩ := exists_ok_of_bind hr
      exact (h.absorb hfilled).finish hr
  · obtain ⟨⟨b, left⟩, hb, hr⟩ := exists_ok_of_bind hr
    have hP := h.positional hb
    dsimp only at hr
    split at hr
    · obtain ⟨_, _, hr⟩ := exists_ok_of_bind hr
      cases hr
      exact hP
    · cases hr
  · cases hr

/-- Offered the entries in any order, the form gives `a`. -/
inductive Awaits : {α : Type} → Form α → α → List (Key × Draft) → Prop
  | done {α : Type} (a : α) : Awaits (.done a) a []
  | filled {α β : Type} {before : Form (β → α)} {f : β → α} {name : String} {read : Reader β}
      {absent : Option β} {b : β} {es : List (Key × Draft)} :
    Awaits before f es → (∀ e ∈ es, e.1.text ≠ .ok name) →
    Awaits (.field before name read absent (some b)) (f b) es
  | empty {α β : Type} {before : Form (β → α)} {f : β → α} {name : String} {read : Reader β}
      {absent : Option β} {b : β} {k : Key} {d : Draft} {es es' : List (Key × Draft)} :
    Awaits before f es → (∀ e ∈ es, e.1.text ≠ .ok name) → k.text = .ok name → read d = .ok b →
    es'.Perm ((k, d) :: es) → Awaits (.field before name read absent none) (f b) es'

theorem Awaits.perm {form : Form α} (h : form.Awaits a es) (hp : es'.Perm es) :
    form.Awaits a es' := by
  induction h generalizing es' with
  | done a =>
    cases hp.eq_nil
    exact .done a
  | filled h hname ih => exact .filled (ih hp) fun e he => hname e (hp.mem_iff.1 he)
  | empty h hname hk hd hperm _ => exact .empty h hname hk hd (hp.trans hperm)

theorem Awaits.offer {form : Form α} {k : Key} (h : form.Awaits a es')
    (hp : es'.Perm ((k, d) :: es)) :
    ∃ key form', k.text = .ok key ∧ form.offer key d = some (.ok form') ∧ form'.Awaits a es := by
  induction h generalizing es with
  | done a => cases hp.symm.eq_nil
  | @filled α β before f name read absent b es' h hname ih =>
    obtain ⟨key, before', hkey, hoffer, hbefore⟩ := ih hp
    have hne : key ≠ name := by
      rintro rfl
      exact hname _ (hp.mem_iff.2 List.mem_cons_self) hkey
    have hmore : ∀ e ∈ es, e.1.text ≠ .ok name := fun e he =>
      hname e (hp.mem_iff.2 (List.mem_cons_of_mem _ he))
    refine ⟨key, .field before' name read absent (some b), hkey, ?_, .filled hbefore hmore⟩
    simp only [Form.offer, if_neg hne, hoffer]
  | @empty α β before f name read absent b k₀ d₀ es₀ es' h hname hk hd hperm ih =>
    -- The entry is the one of this field or one of a field in front of it.
    rcases List.mem_cons.1 (hperm.mem_iff.1 (hp.mem_iff.2 List.mem_cons_self)) with heq | hmem
    · cases heq
      have hrest : es.Perm es₀ := (hp.symm.trans hperm).cons_inv
      have hmore : ∀ e ∈ es, e.1.text ≠ .ok name := fun e he => hname e (hrest.mem_iff.1 he)
      refine ⟨name, .field before name read absent (some b), hk, ?_, .filled (h.perm hrest) hmore⟩
      simp only [Form.offer, if_true, hd]
    · obtain ⟨front, back, rfl⟩ := List.append_of_mem hmem
      have hmiddle : (front ++ (k, d) :: back).Perm ((k, d) :: (front ++ back)) := List.perm_middle
      obtain ⟨key, before', hkey, hoffer, hbefore⟩ := ih hmiddle
      have hne : key ≠ name := by
        rintro rfl
        exact hname _ hmem hkey
      have hmore : ∀ e ∈ front ++ back, e.1.text ≠ .ok name := fun e he =>
        hname e (hmiddle.mem_iff.2 (List.mem_cons_of_mem _ he))
      have hswap := (hp.symm.trans hperm).trans ((hmiddle.cons _).trans (.swap _ _ _))
      refine ⟨key, .field before' name read absent none, hkey, ?_,
        .empty hbefore hmore hk hd hswap.cons_inv⟩
      simp only [Form.offer, if_neg hne, hoffer]

theorem Awaits.absorb {form : Form α} (h : form.Awaits a es) (other : Draft → Except Fault Unit) :
    ∃ form', form.absorb other es = .ok form' ∧ form'.Awaits a [] := by
  induction es generalizing form with
  | nil => exact ⟨form, rfl, h⟩
  | cons e es ih =>
    obtain ⟨key, form', hkey, hoffer, h⟩ := h.offer (.refl _)
    obtain ⟨filled, habsorb, hfilled⟩ := ih h
    refine ⟨filled, ?_, hfilled⟩
    simp only [Form.absorb, hkey, hoffer, habsorb]

theorem Awaits.finish {form : Form α} (h : form.Awaits a []) : form.finish = .ok a := by
  generalize hes : ([] : List (Key × Draft)) = es at h
  induction h with
  | done a => rfl
  | filled h hname ih =>
    rw [Form.finish, ih hes]
    rfl
  | empty h hname hk hd hperm ih =>
    subst hes
    cases hperm.symm.eq_nil

def names : {α : Type} → Form α → List String
  | _, done _ => []
  | _, field before name .. => before.names ++ [name]

/-- Values of the fields of an empty form that make up `a`, as they are written. -/
inductive Written (n : Nat) : {α : Type} → Form α → α → List (String × Json) → Prop
  | done {α : Type} (a : α) : Written n (.done a) a []
  | field {α β : Type} {before : Form (β → α)} {f : β → α} {l : List (String × Json)}
      {name : String} {read : Reader β} {absent : Option β} {b : β} {j : Json} :
    Written n before f l → Reads n read b j →
    Written n (.field before name read absent none) (f b) (l ++ [(name, j)])

theorem Written.keys {form : Form α} (h : form.Written n a l) : l.map Prod.fst = form.names := by
  induction h with
  | done a => rfl
  | field _ _ ih => rw [List.map_append, ih, names, List.map_singleton]

theorem Written.plain {form : Form α} (h : form.Written n a l) : ∀ f ∈ l, Plain n f.2 := by
  induction h with
  | done a => exact List.forall_mem_nil _
  | field _ hb ih =>
    intro f hf
    rcases List.mem_append.1 hf with hf | hf
    · exact ih f hf
    · cases List.mem_singleton.1 hf
      exact hb.plain

theorem names_of_holdsField (h : List.Forall₂ HoldsField l es) :
    ∀ e ∈ es, ∃ k ∈ l.map Prod.fst, e.1.text = .ok k := by
  induction h with
  | nil => exact List.forall_mem_nil _
  | @cons f e l es he _ ih =>
    intro e' he'
    rcases List.mem_cons.1 he' with rfl | he'
    · exact ⟨f.1, List.mem_cons_self, he.1.text⟩
    · obtain ⟨k, hk, htext⟩ := ih e' he'
      exact ⟨k, List.mem_cons_of_mem _ hk, htext⟩

theorem Written.awaits {form : Form α} (h : form.Written n a l) (hn : form.names.Nodup)
    (hes : List.Forall₂ HoldsField l es) : form.Awaits a es := by
  induction h generalizing es with
  | done a =>
    cases hes
    exact .done a
  | @field α β before f l name read absent b j h hb ih =>
    have hlast : ((name, j) :: l).Perm (l ++ [(name, j)]) := List.perm_append_singleton _ _ |>.symm
    obtain ⟨_, hall, hp⟩ := List.perm_comp_forall₂ hlast hes
    cases hall with
    | @cons _ e _ es he hes =>
      obtain ⟨hbefore, -, hdisjoint⟩ := List.nodup_append.1 hn
      refine .empty (ih hbefore hes) ?_ he.1.text (hb.read_eq _ he.2) hp.symm
      intro e he htext
      obtain ⟨k, hk, hkey⟩ := names_of_holdsField hes e he
      rw [htext] at hkey
      cases hkey
      exact hdisjoint name (h.keys ▸ hk) name (List.mem_singleton_self _) rfl

theorem Written.reads {form : Form α} (h : form.Written n a l) (hn : form.names.Nodup)
    (record : String) : Reads (n + 1) (form.read record) a (.object l) := by
  have hperm := SortedMap.entries_ofList_perm (h.keys.symm ▸ hn)
  apply Reads.mk
  · apply Plain.obj
    intro f hf
    exact h.plain f (hperm.mem_iff.1 hf)
  · intro d hd
    obtain ⟨es, ending, fs, rfl, hfs, hes, hending⟩ := hd.fields
    obtain ⟨es', hes', hp⟩ := List.perm_comp_forall₂ (hperm.symm.trans hfs) hes
    obtain ⟨filled, habsorb, hfilled⟩ := ((h.awaits hn hes').perm hp.symm).absorb Draft.skip
    rw [Form.read, habsorb]
    simp only [hending.more]
    exact hfilled.finish

/-- The fields of a value that the form gives, as they are written, have the property. -/
def Copies (n : Nat) (form : Form α) (P : α → List (String × Json) → Prop) : Prop :=
  form.Gives fun a => ∃ l, form.Written n a l ∧ P a l

theorem Copies.done {P : α → List (String × Json) → Prop} (h : P a []) :
    (Form.done a).Copies n P := ⟨[], .done a, h⟩

theorem Copies.field {before : Form (β → α)} {absent : Option β}
    {P : α → List (String × Json) → Prop}
    (h : before.Copies n fun f l => ∀ b, P (f b) (l ++ [(name, write b)]))
    (hr : RoundTrips n read write) (ha : ∀ b, absent = some b → Reads n read b (write b)) :
    (Form.field before name read absent none).Copies n P := by
  refine ⟨fun b => Reads n read b (write b), hr, ha, ?_, ?_⟩
  · rintro _ ⟨⟩
  · apply h.mono
    rintro f ⟨l, hl, hP⟩ b hb
    exact ⟨l ++ [(name, write b)], .field hl hb, hP b⟩

theorem Copies.need {before : Form (β → α)} {P : α → List (String × Json) → Prop}
    (h : before.Copies n fun f l => ∀ b, P (f b) (l ++ [(name, write b)]))
    (hr : RoundTrips n read write) : (before.need name read).Copies n P := by
  apply h.field hr
  rintro _ ⟨⟩

theorem Copies.default {before : Form (β → α)} {b : β} {P : α → List (String × Json) → Prop}
    (h : before.Copies n fun f l => ∀ b, P (f b) (l ++ [(name, write b)]))
    (hr : RoundTrips n read write) (d : Draft) (hd : read d = .ok b) :
    (before.default name read b).Copies n P := by
  apply h.field hr
  rintro _ ⟨⟩
  exact hr d b hd

theorem Copies.roundTrips {form : Form α} {toJson : α → Json} (hn : form.names.Nodup)
    (h : form.Copies n fun a l => toJson a = .object l) (record : String) :
    RoundTrips (n + 1) (form.read record) toJson := by
  intro d a hd
  obtain ⟨l, hl, hjson⟩ := Gives.of_read h hd
  rw [hjson]
  exact hl.reads hn record

end Worldsmith.Json.Form
