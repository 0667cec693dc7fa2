import Worldsmith.Proofs.Outcome
import Worldsmith.World.Package

namespace Worldsmith.World

variable {game : Game} {data : GameLevels} {levels : List Level} {w : World} {notes : Diagnostics}

def ofLevels (game : Game) (levels : List Level) : World where
  game := game
  levels := levels
  options := (WorldOptions.init WorldOption.builtin game).1
  catalog := (Catalog.prepare game levels).1
  regions := (regionDocs game levels).1

def notesOn (game : Game) (levels : List Level) : Diagnostics :=
  (WorldOptions.init WorldOption.builtin game).2 ++ (Catalog.prepare game levels).2 ++
    (regionDocs game levels).2

theorem compile_of_levels (h : game.levels data = .ok levels) :
    compile game data =
      match violations game (Catalog.prepare game levels).1 with
      | [] => .ok (ofLevels game levels, notesOn game levels)
      | violated => .error (.validation violated) := by
  rw [compile, h]
  rfl

theorem compile_eq_ok_iff : compile game data = .ok (w, notes) ↔
    ∃ levels, game.levels data = .ok levels ∧
      violations game (Catalog.prepare game levels).1 = [] ∧
      w = ofLevels game levels ∧ notes = notesOn game levels := by
  constructor
  · intro h
    obtain ⟨levels, hl, -⟩ := exists_ok_of_bind h
    rw [compile_of_levels hl] at h
    split at h
    · next hv =>
      cases h
      exact ⟨levels, hl, hv, rfl, rfl⟩
    · cases h
  · rintro ⟨levels, hl, hv, rfl, rfl⟩
    rw [compile_of_levels hl, hv]

variable {m : Type → Type} [Monad m] [LawfulMonad m]

def report (w : World) (label : String) (notes : Diagnostics) : Report :=
  ⟨label, w.catalog.locations.length, w.catalog.items.length, notes⟩

theorem liftM_bind {α β : Type} (x : Except Failure α) (f : α → ExceptT Failure m β) :
    (liftM x : ExceptT Failure m α) >>= f =
      match x with
      | .ok a => f a
      | .error e => throw e := by
  apply ExceptT.ext
  have hx : (liftM x : ExceptT Failure m α).run = pure x := rfl
  rw [ExceptT.run_bind, hx, pure_bind]
  cases x <;> rfl

theorem generate_eq (sink : Sink m) (common : List Disk.Step) (spacing : Nat) (now : DateTime) :
    generate game data sink common spacing now =
      match compile game data with
      | .ok (w, compiling) => do
        let packaging ← w.package sink common spacing now
        return w.report sink.label (compiling ++ packaging)
      | .error e => throw e := by
  rw [generate, liftM_bind]
  cases compile game data <;> rfl

end Worldsmith.World
