/-!
Programs over two monads that go in step. What it means that two programs do the same is left open;
sequencing must keep it. Programs that are written for every monad are then followed in both at
once, rule by rule.
-/

namespace Worldsmith

variable {m m' : Type → Type} [Monad m] [Monad m'] {α β ε : Type}

/-- A relation between programs over two monads, with a condition on what they both return. -/
structure Lockstep (m m' : Type → Type) [Monad m] [Monad m'] where
  Same : {α : Type} → m α → m' α → (α → Prop) → Prop
  pure : ∀ {α : Type} {P : α → Prop} {a : α}, P a → Same (pure a) (pure a) P
  bind : ∀ {α β : Type} {P : α → Prop} {Q : β → Prop} {x : m α} {x' : m' α} {f : α → m β}
    {f' : α → m' β}, Same x x' P → (∀ a, P a → Same (f a) (f' a) Q) → Same (x >>= f) (x' >>= f') Q

namespace Lockstep

variable (L : Lockstep m m')

/-- Two programs go in step if nothing is said of what they return. -/
def Step (x : m α) (x' : m' α) : Prop := L.Same x x' fun _ => True

section Rules
variable {L} {P : α → Prop} {x : m α} {x' : m' α}

theorem step_pure (a : α) : L.Step (Pure.pure a) (Pure.pure a) := L.pure trivial

theorem Step.bind {f : α → m β} {f' : α → m' β} (hx : L.Step x x')
    (hf : ∀ a, L.Step (f a) (f' a)) : L.Step (x >>= f) (x' >>= f') :=
  L.bind hx fun a _ => hf a

theorem imp [LawfulMonad m] [LawfulMonad m'] {Q : α → Prop} (hx : L.Same x x' P)
    (h : ∀ a, P a → Q a) : L.Same x x' Q := by
  have hbind := L.bind hx fun a ha => L.pure (h a ha)
  rw [bind_pure, bind_pure] at hbind
  exact hbind

theorem step [LawfulMonad m] [LawfulMonad m'] (hx : L.Same x x' P) : L.Step x x' :=
  imp hx fun _ _ => trivial

theorem Step.same [LawfulMonad m] [LawfulMonad m'] (hx : L.Step x x') (h : ∀ a, P a) :
    L.Same x x' P :=
  imp hx fun a _ => h a

theorem step_mapM [LawfulMonad m] [LawfulMonad m'] {f : α → m β} {f' : α → m' β}
    (hf : ∀ a, L.Step (f a) (f' a)) (l : List α) : L.Step (l.mapM f) (l.mapM f') := by
  induction l with
  | nil => exact step_pure []
  | cons a l ih =>
    rw [List.mapM_cons, List.mapM_cons]
    apply (hf a).bind
    intro b
    apply ih.bind
    intro bs
    exact step_pure (b :: bs)

end Rules

section Failures
variable {L} {P : Except ε α → Prop} {x : ExceptT ε m α} {x' : ExceptT ε m' α}

theorem bind_except {Q : Except ε β → Prop} {f : α → ExceptT ε m β} {f' : α → ExceptT ε m' β}
    (hx : L.Same x.run x'.run P) (hok : ∀ a, P (.ok a) → L.Same (f a).run (f' a).run Q)
    (herror : ∀ e, P (.error e) → Q (.error e)) : L.Same (x >>= f).run (x' >>= f').run Q := by
  rw [ExceptT.run_bind, ExceptT.run_bind]
  apply L.bind hx
  intro r hr
  cases r with
  | ok a => exact hok a hr
  | error e => exact L.pure (herror e hr)

theorem Step.bind_except {f : α → ExceptT ε m β} {f' : α → ExceptT ε m' β}
    (hx : L.Step x.run x'.run) (hf : ∀ a, L.Step (f a).run (f' a).run) :
    L.Step (x >>= f).run (x' >>= f').run :=
  Lockstep.bind_except hx (fun a _ => hf a) fun _ _ => trivial

theorem bind_lift [LawfulMonad m] [LawfulMonad m'] {P : α → Prop} {Q : Except ε β → Prop} {x : m α}
    {x' : m' α} {f : α → ExceptT ε m β} {f' : α → ExceptT ε m' β} (hx : L.Same x x' P)
    (hf : ∀ a, P a → L.Same (f a).run (f' a).run Q) :
    L.Same (ExceptT.lift x >>= f).run (ExceptT.lift x' >>= f').run Q := by
  rw [ExceptT.run_bind_lift, ExceptT.run_bind_lift]
  exact L.bind hx hf

theorem Step.bind_lift [LawfulMonad m] [LawfulMonad m'] {x : m α} {x' : m' α}
    {f : α → ExceptT ε m β} {f' : α → ExceptT ε m' β} (hx : L.Step x x')
    (hf : ∀ a, L.Step (f a).run (f' a).run) :
    L.Step (ExceptT.lift x >>= f).run (ExceptT.lift x' >>= f').run :=
  Lockstep.bind_lift hx fun a _ => hf a

theorem Step.unfailing [LawfulMonad m] [LawfulMonad m'] {x : m α} {x' : m' α} (hx : L.Step x x') :
    L.Step (ExceptT.lift x : ExceptT ε m α).run (ExceptT.lift x' : ExceptT ε m' α).run := by
  rw [ExceptT.run_lift, ExceptT.run_lift, map_eq_pure_bind, map_eq_pure_bind]
  apply hx.bind
  intro a
  exact step_pure _

theorem step_liftM (y : Except ε α) {f : α → ExceptT ε m β} {f' : α → ExceptT ε m' β}
    {Q : Except ε β → Prop} (hok : ∀ a, y = .ok a → L.Same (f a).run (f' a).run Q)
    (herror : ∀ e, y = .error e → Q (.error e)) :
    L.Same ((liftM y : ExceptT ε m α) >>= f).run ((liftM y : ExceptT ε m' α) >>= f').run Q :=
  Lockstep.bind_except (L.pure (P := fun r => y = r) rfl) hok herror

theorem step_tryCatch {f : ε → ExceptT ε m α} {f' : ε → ExceptT ε m' α}
    (hx : L.Same x.run x'.run P) (hf : ∀ e, P (.error e) → L.Step (f e).run (f' e).run) :
    L.Step (tryCatch x f).run (tryCatch x' f').run := by
  apply L.bind hx
  intro r hr
  cases r with
  | ok a => exact step_pure _
  | error e => exact hf e hr

end Failures

/-- Programs with a state next to them go in step if they keep an invariant of it. -/
def withState [LawfulMonad m] [LawfulMonad m'] {τ : Type} (I : τ → Prop) :
    Lockstep (StateT τ m) (StateT τ m') where
  Same x x' P := ∀ t, I t → L.Same (x.run t) (x'.run t) fun r => I r.2 ∧ P r.1
  pure h := fun _ ht => L.pure ⟨ht, h⟩
  bind hx hf := by
    intro t ht
    rw [StateT.run_bind, StateT.run_bind]
    apply L.bind (hx t ht)
    rintro ⟨a, t'⟩ ⟨ht', ha⟩
    exact hf a ha t' ht'

section States
variable [LawfulMonad m] [LawfulMonad m'] {L : Lockstep m m'} {τ : Type} {I : τ → Prop} {t : τ}

theorem Step.lift {x : m α} {x' : m' α} (hx : L.Step x x') :
    (L.withState I).Step (StateT.lift x) (StateT.lift x') := by
  intro t ht
  apply L.bind hx
  intro a _
  exact L.pure ⟨ht, trivial⟩

theorem same_get : (L.withState I).Same (get : StateT τ m τ) (get : StateT τ m' τ) I :=
  fun _ ht => L.pure ⟨ht, ht⟩

theorem step_set (ht : I t) :
    (L.withState I).Step (set t : StateT τ m PUnit) (set t : StateT τ m' PUnit) :=
  fun _ _ => L.pure ⟨ht, trivial⟩

theorem step_modify {f : τ → τ} (hf : ∀ t, I t → I (f t)) :
    (L.withState I).Step (modify f : StateT τ m PUnit) (modify f : StateT τ m' PUnit) :=
  fun t ht => L.pure ⟨hf t ht, trivial⟩

end States

end Lockstep

end Worldsmith
