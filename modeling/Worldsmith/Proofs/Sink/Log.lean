import Worldsmith.Sink.Basic

namespace Worldsmith

inductive Call
  | text (path content : String)
  | file (dest : String) (source : Path)
  | finalize
  deriving DecidableEq, Repr

/-- A call with its answer. -/
inductive Event
  | text (path content : String) (answer : Except Failure Unit)
  | file (dest : String) (source : Path) (answer : Except Failure Unit)
  | finalize (answer : Except Failure (List FailedWrite))

namespace Event

def call : Event → Call
  | text path content _ => .text path content
  | file dest source _ => .file dest source
  | finalize _ => .finalize

def refusal? : Event → Option Failure
  | text _ _ (.error e) => some e
  | _ => none

def accepted? : Event → Option String
  | file dest _ (.ok ()) => some dest
  | _ => none

end Event

section Logged
variable {σ α β : Type}

/-- Puts a call behind the others in the log, with its answer. -/
def noting (event : Except Failure α → Event) (x : ExceptT Failure (StateM σ) α) :
    ExceptT Failure (StateM (σ × List Event)) α :=
  ExceptT.mk fun (s, log) =>
    let (answer, s') := x.run.run s
    (answer, s', log ++ [event answer])

/-- The same sink with a log next to its state. -/
def Sink.logged (sink : Sink (StateM σ)) : Sink (StateM (σ × List Event)) where
  addText path content := noting (.text path content) (sink.addText path content)
  addFile dest source := noting (.file dest source) (sink.addFile dest source)
  finalize := noting .finalize sink.finalize
  label := sink.label
  versioned := sink.versioned

/-- From every state a program does the same with and without the log, and what it returns and what
it calls meet a condition. Without a call it leaves the state as it is. -/
def Makes (x : StateM σ α) (logged : StateM (σ × List Event) α) (P : α → List Event → Prop) :
    Prop :=
  ∀ s, ∃ a s' events, x.run s = (a, s') ∧ (∀ log, logged.run (s, log) = (a, s', log ++ events)) ∧
    (events = [] → s' = s) ∧ P a events

namespace Makes

variable {P : α → List Event → Prop} {Q : β → List Event → Prop}

theorem pure {a : α} (h : P a []) : Makes (pure a : StateM σ α) (pure a) P :=
  fun s => ⟨a, s, [], rfl, fun log => by rw [List.append_nil]; rfl, fun _ => rfl, h⟩

theorem imp {x : StateM σ α} {x' : StateM (σ × List Event) α} {P' : α → List Event → Prop}
    (h : Makes x x' P) (hP : ∀ a events, P a events → P' a events) : Makes x x' P' := by
  intro s
  obtain ⟨a, s', events, hrun, hlog, hkeep, h⟩ := h s
  exact ⟨a, s', events, hrun, hlog, hkeep, hP a events h⟩

theorem bind {x : StateM σ α} {x' : StateM (σ × List Event) α} {f : α → StateM σ β}
    {f' : α → StateM (σ × List Event) β} (hx : Makes x x' P)
    (hf : ∀ a events, P a events → Makes (f a) (f' a) fun b more => Q b (events ++ more)) :
    Makes (x >>= f) (x' >>= f') Q := by
  intro s
  obtain ⟨a, s₁, events, hrun, hlog, hkeep, hP⟩ := hx s
  obtain ⟨b, s₂, more, hrun', hlog', hkeep', hQ⟩ := hf a events hP s₁
  refine ⟨b, s₂, events ++ more, ?_, fun log => ?_, fun hnil => ?_, hQ⟩
  · rw [StateT.run_bind, hrun]
    exact hrun'
  · rw [StateT.run_bind, hlog, ← List.append_assoc]
    exact hlog' (log ++ events)
  · obtain ⟨hevents, hmore⟩ := List.append_eq_nil_iff.1 hnil
    rw [hkeep' hmore, hkeep hevents]

theorem bind_except {P : Except Failure α → List Event → Prop}
    {Q : Except Failure β → List Event → Prop} {x : ExceptT Failure (StateM σ) α}
    {x' : ExceptT Failure (StateM (σ × List Event)) α} {f : α → ExceptT Failure (StateM σ) β}
    {f' : α → ExceptT Failure (StateM (σ × List Event)) β} (hx : Makes x.run x'.run P)
    (hok : ∀ a events, P (.ok a) events →
      Makes (f a).run (f' a).run fun r more => Q r (events ++ more))
    (herror : ∀ e events, P (.error e) events → Q (.error e) events) :
    Makes (x >>= f).run (x' >>= f').run Q := by
  rw [ExceptT.run_bind, ExceptT.run_bind]
  refine hx.bind fun r events hP => ?_
  cases r with
  | ok a => exact hok a events hP
  | error e =>
    refine .pure ?_
    rw [List.append_nil]
    exact herror e events hP

theorem noting (event : Except Failure α → Event) (x : ExceptT Failure (StateM σ) α) :
    Makes x.run (noting event x).run fun answer events => events = [event answer] := by
  intro s
  refine ⟨(x.run.run s).1, (x.run.run s).2, [event (x.run.run s).1], rfl, fun _ => rfl, ?_, rfl⟩
  exact fun hnil => nomatch hnil

theorem bind_lift {Q : Except Failure β → List Event → Prop} {x : StateM σ α}
    {x' : StateM (σ × List Event) α} {f : α → ExceptT Failure (StateM σ) β}
    {f' : α → ExceptT Failure (StateM (σ × List Event)) β} (hx : Makes x x' P)
    (hf : ∀ a events, P a events →
      Makes (f a).run (f' a).run fun r more => Q r (events ++ more)) :
    Makes ((liftM x : ExceptT Failure (StateM σ) α) >>= f).run
      ((liftM x' : ExceptT Failure (StateM (σ × List Event)) α) >>= f').run Q := by
  change Makes (ExceptT.lift x >>= f).run (ExceptT.lift x' >>= f').run Q
  rw [ExceptT.run_bind_lift, ExceptT.run_bind_lift]
  exact hx.bind hf

end Makes

end Logged

/-- The calls of a plan made one by one. A text that is refused ends it, a file that is refused does
not. -/
inductive Follows : List Call → List Event → Option Failure → Prop
  | done : Follows [] [] none
  | refused {path content : String} {e : Failure} (plan : List Call) :
    Follows (.text path content :: plan) [.text path content (.error e)] (some e)
  | text {path content : String} {plan : List Call} {events : List Event} {stop : Option Failure}
    (h : Follows plan events stop) :
    Follows (.text path content :: plan) (.text path content (.ok ()) :: events) stop
  | file {dest : String} {source : Path} {answer : Except Failure Unit} {plan : List Call}
    {events : List Event} {stop : Option Failure} (h : Follows plan events stop) :
    Follows (.file dest source :: plan) (.file dest source answer :: events) stop

namespace Follows

variable {plan more : List Call} {events events' : List Event} {stop : Option Failure} {e : Failure}

theorem append (h : Follows plan events none) (h' : Follows more events' stop) :
    Follows (plan ++ more) (events ++ events') stop := by
  generalize hstop : (none : Option Failure) = ended at h
  induction h with
  | done => exact h'
  | refused => cases hstop
  | text _ ih => exact .text (ih hstop)
  | file _ ih => exact .file (ih hstop)

theorem append_plan (h : Follows plan events (some e)) (more : List Call) :
    Follows (plan ++ more) events (some e) := by
  generalize hstop : some e = ended at h ⊢
  induction h with
  | done => cases hstop
  | refused plan => exact .refused (plan ++ more)
  | text _ ih => exact .text (ih hstop)
  | file _ ih => exact .file (ih hstop)

theorem map_call (h : Follows plan events none) : events.map Event.call = plan := by
  generalize hstop : (none : Option Failure) = ended at h
  induction h with
  | done => rfl
  | refused => cases hstop
  | text _ ih => exact congrArg (_ :: ·) (ih hstop)
  | file _ ih => exact congrArg (_ :: ·) (ih hstop)

theorem refusal?_cases (h : Follows plan events stop) :
    ∀ event ∈ events, event.refusal? = none ∨ event.refusal? = stop := by
  induction h with
  | done => exact fun _ hmem => nomatch hmem
  | refused => exact List.forall_mem_singleton.2 (.inr rfl)
  | text _ ih => exact List.forall_mem_cons.2 ⟨.inl rfl, ih⟩
  | file _ ih => exact List.forall_mem_cons.2 ⟨.inl rfl, ih⟩

theorem none_refused (h : Follows plan events none) : ∀ event ∈ events, event.refusal? = none :=
  fun event hmem => (h.refusal?_cases event hmem).elim id id

/-- A plan that was ended has the refused text as its last call. -/
theorem eq_concat (h : Follows plan events (some e)) : ∃ before path content,
    events = before ++ [.text path content (.error e)] ∧ events.map Event.call <+: plan ∧
      ∀ event ∈ before, event.refusal? = none := by
  generalize hstop : some e = ended at h
  induction h with
  | done => cases hstop
  | refused plan =>
    cases hstop
    exact ⟨[], _, _, rfl, ⟨plan, rfl⟩, fun _ hmem => nomatch hmem⟩
  | text _ ih =>
    obtain ⟨before, path, content, rfl, hcalls, hnone⟩ := ih hstop
    refine ⟨_ :: before, path, content, rfl, ?_, List.forall_mem_cons.2 ⟨rfl, hnone⟩⟩
    exact List.cons_prefix_cons.2 ⟨rfl, hcalls⟩
  | file _ ih =>
    obtain ⟨before, path, content, rfl, hcalls, hnone⟩ := ih hstop
    refine ⟨_ :: before, path, content, rfl, ?_, List.forall_mem_cons.2 ⟨rfl, hnone⟩⟩
    exact List.cons_prefix_cons.2 ⟨rfl, hcalls⟩

end Follows

def textCalls (texts : List (String × String)) : List Call := texts.map fun t => .text t.1 t.2

def Sink.addTexts {m : Type → Type} [Monad m] (sink : Sink m) (texts : List (String × String)) :
    ExceptT Failure m Unit :=
  texts.forM fun t => sink.addText t.1 t.2

def stop? : Except Failure Unit → Option Failure
  | .ok _ => none
  | .error e => some e

theorem Sink.addTexts_makes {σ : Type} (sink : Sink (StateM σ)) (texts : List (String × String)) :
    Makes (sink.addTexts texts).run (sink.logged.addTexts texts).run fun r events =>
      Follows (textCalls texts) events (stop? r) := by
  induction texts with
  | nil => exact .pure .done
  | cons t texts ih =>
    refine (Makes.noting (.text t.1 t.2) (sink.addText t.1 t.2)).bind_except
      (fun u events hevents => ih.imp fun r more hmore => ?_) fun e events hevents => ?_
    · subst hevents
      exact .text hmore
    · subst hevents
      exact .refused _

end Worldsmith
