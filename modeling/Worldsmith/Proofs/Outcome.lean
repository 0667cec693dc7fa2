namespace Worldsmith

theorem exists_ok_of_bind {α β ε : Type} {x : Except ε α} {f : α → Except ε β} {r : β}
    (h : (x >>= f) = .ok r) : ∃ a, x = .ok a ∧ f a = .ok r := by
  cases x with
  | error e => cases h
  | ok a => exact ⟨a, rfl, h⟩

theorem bind_eq_ok {α β ε : Type} {x : Except ε α} {f : α → Except ε β} {a : α} {r : β}
    (hx : x = .ok a) (hf : f a = .ok r) : (x >>= f) = .ok r := by
  rw [hx]
  exact hf

theorem exists_ok_of_map {α β ε : Type} {x : Except ε α} {f : α → β} {b : β}
    (h : x.map f = .ok b) : ∃ a, x = .ok a ∧ f a = b := by
  cases x with
  | error e => cases h
  | ok a => exact ⟨a, rfl, Except.ok.inj h⟩

section Stateful
variable {σ α β ε : Type} {x : ExceptT ε (StateM σ) α} {f : α → ExceptT ε (StateM σ) β} {s s₁ : σ}

theorem run_bind_ok {a : α} (h : x.run.run s = (.ok a, s₁)) :
    (x >>= f).run.run s = (f a).run.run s₁ := by
  rw [ExceptT.run_bind, StateT.run_bind, h]
  rfl

theorem run_bind_error {e : ε} (h : x.run.run s = (.error e, s₁)) :
    (x >>= f).run.run s = (.error e, s₁) := by
  rw [ExceptT.run_bind, StateT.run_bind, h]
  rfl

theorem run_bind_unfailing {y : StateM σ α} {a : α} (f : α → ExceptT ε (StateM σ) β)
    (h : y.run s = (a, s₁)) :
    ((liftM y : ExceptT ε (StateM σ) α) >>= f).run.run s = (f a).run.run s₁ := by
  change (f (y.run s).1).run.run (y.run s).2 = _
  rw [h]

theorem run_tryCatch_ok {f : ε → ExceptT ε (StateM σ) α} {a : α} (h : x.run.run s = (.ok a, s₁)) :
    (tryCatch x f).run.run s = (.ok a, s₁) := by
  change (ExceptT.tryCatch x f).run.run s = _
  rw [ExceptT.run] at h
  rw [ExceptT.tryCatch, ExceptT.run_mk, StateT.run_bind, h]
  rfl

theorem run_tryCatch_error {f : ε → ExceptT ε (StateM σ) α} {e : ε}
    (h : x.run.run s = (.error e, s₁)) : (tryCatch x f).run.run s = (f e).run.run s₁ := by
  change (ExceptT.tryCatch x f).run.run s = _
  rw [ExceptT.run] at h
  rw [ExceptT.tryCatch, ExceptT.run_mk, StateT.run_bind, h]
  rfl

theorem exists_ok_of_run_bind {r : β} {s' : σ} (h : (x >>= f).run.run s = (.ok r, s')) :
    ∃ a s₁, x.run.run s = (.ok a, s₁) ∧ (f a).run.run s₁ = (.ok r, s') := by
  cases hx : x.run.run s with
  | mk answer s₁ =>
    cases answer with
    | error e =>
      rw [run_bind_error hx] at h
      cases h
    | ok a =>
      rw [run_bind_ok hx] at h
      exact ⟨a, s₁, rfl, h⟩

section Each
variable {g : α → StateM σ β} {l l' : List α} {bs : List β} {s' : σ}

theorem exists_of_run_mapM_cons {a : α} (h : ((a :: l).mapM g).run s = (bs, s')) :
    ∃ b s₁ bs', (g a).run s = (b, s₁) ∧ (l.mapM g).run s₁ = (bs', s') ∧ bs = b :: bs' := by
  rw [List.mapM_cons] at h
  cases h
  exact ⟨_, _, _, rfl, rfl, rfl⟩

theorem exists_of_run_mapM_append (h : ((l ++ l').mapM g).run s = (bs, s')) :
    ∃ bs₁ s₁ bs₂, (l.mapM g).run s = (bs₁, s₁) ∧ bs₁.length = l.length ∧
      (l'.mapM g).run s₁ = (bs₂, s') ∧ bs = bs₁ ++ bs₂ := by
  induction l generalizing s bs with
  | nil => exact ⟨[], s, bs, rfl, rfl, h, rfl⟩
  | cons a l ih =>
    obtain ⟨b, s₁, bs', ha, hl, rfl⟩ := exists_of_run_mapM_cons h
    obtain ⟨bs₁, s₂, bs₂, hfirst, hlength, hsecond, rfl⟩ := ih hl
    refine ⟨b :: bs₁, s₂, bs₂, ?_, congrArg (· + 1) hlength, hsecond, rfl⟩
    rw [List.mapM_cons, StateT.run_bind, ha]
    change (fun r : List β × σ => (b :: r.1, r.2)) ((l.mapM g).run s₁) = _
    rw [hfirst]

end Each

section Beside
variable {τ : Type} {t : τ} {s' : σ}

theorem run_get_bind (f : τ → ExceptT ε (StateT τ (StateM σ)) β) :
    ((get >>= f).run.run t).run s = ((f t).run.run t).run s := rfl

theorem run_lift {y : StateM σ α} {a : α} (h : y.run s = (a, s')) :
    ((liftM y : ExceptT ε (StateT τ (StateM σ)) α).run.run t).run s = ((.ok a, t), s') := by
  change ((Except.ok (y.run s).1, t), (y.run s).2) = _
  rw [h]

theorem run_lift_bind {y : StateM σ α} {a : α} (f : α → ExceptT ε (StateT τ (StateM σ)) β)
    (h : y.run s = (a, s')) :
    (((liftM y : ExceptT ε (StateT τ (StateM σ)) α) >>= f).run.run t).run s =
      ((f a).run.run t).run s' := by
  change ((f (y.run s).1).run.run t).run (y.run s).2 = _
  rw [h]

theorem run_except_ok {y : Except ε α} {a : α} (f : α → ExceptT ε (StateT τ (StateM σ)) β)
    (h : y = .ok a) : (((liftM y : ExceptT ε (StateT τ (StateM σ)) α) >>= f).run.run t).run s =
      ((f a).run.run t).run s := by
  rw [h]
  rfl

theorem run_except_error {y : Except ε α} {e : ε} (f : α → ExceptT ε (StateT τ (StateM σ)) β)
    (h : y = .error e) : (((liftM y : ExceptT ε (StateT τ (StateM σ)) α) >>= f).run.run t).run s =
      ((.error e, t), s) := by
  rw [h]
  rfl

end Beside

end Stateful

section Checked
variable {α β ε : Type} {p : α → Prop} [DecidablePred p] (f : α → β) (fault : α → ε) {l : List α}

theorem mapM_checked_ok (h : ∀ a ∈ l, p a) :
    (l.mapM fun a => if p a then Except.ok (f a) else .error (fault a)) = .ok (l.map f) := by
  induction l with
  | nil => rfl
  | cons a l ih =>
    rw [List.forall_mem_cons] at h
    rw [List.mapM_cons, if_pos h.1, ih h.2]
    rfl

theorem mapM_checked_error (h : ¬ ∀ a ∈ l, p a) :
    ∃ e, (l.mapM fun a => if p a then Except.ok (f a) else .error (fault a)) = .error e := by
  induction l with
  | nil => exact absurd (by simp) h
  | cons a l ih =>
    rw [List.mapM_cons]
    by_cases ha : p a
    · have hl : ¬ ∀ a ∈ l, p a := fun hl => h (List.forall_mem_cons.2 ⟨ha, hl⟩)
      obtain ⟨e, he⟩ := ih hl
      exact ⟨e, by rw [if_pos ha, he]; rfl⟩
    · exact ⟨fault a, by rw [if_neg ha]; rfl⟩

end Checked

end Worldsmith
