import Mathlib.Data.List.Nodup
import Worldsmith.Options.WorldOption

namespace Worldsmith

open WorldOption (declaredName Registry builtin)

/-- The game with other declarations of world options. -/
def Game.declaring (game : Game) (declared : List Json) : Game :=
  { game with worldInfo := { game.worldInfo with worldOptions := declared } }

namespace WorldOptions

variable {registry : Registry} {game : Game} {declared before after : List Json} {d : Json}
  {name : String}

def isKnown (registry : Registry) (d : Json) : Bool :=
  (registry.find? (·.1 == declaredName d)).isSome

/-- What a declaration makes where no other is in front of it. -/
def alone (registry : Registry) (game : Game) (d : Json) : WorldOptions :=
  ((registry.find? (·.1 == declaredName d)).map fun e => (declaredName d, e.2 game d)).toList

def ofDeclared (registry : Registry) (game : Game) (declared : List Json) : WorldOptions :=
  (initFrom registry game [] declared).1

theorem alone_of_unknown (h : isKnown registry d = false) : alone registry game d = [] := by
  rw [isKnown, Option.isSome_eq_false_iff, Option.isNone_iff_eq_none] at h
  rw [alone, h]
  rfl

theorem name_of_mem_alone {o : String × WorldOption} (h : o ∈ alone registry game d) :
    o.1 = declaredName d := by
  obtain ⟨e, -, rfl⟩ := Option.map_eq_some_iff.1 (Option.mem_toList.1 h)
  rfl

theorem known_of_mem_alone {o : String × WorldOption} (h : o ∈ alone registry game d) :
    isKnown registry d = true := by
  cases hknown : isKnown registry d with
  | true => rfl
  | false =>
    rw [alone_of_unknown hknown] at h
    cases h

theorem alone_filter (p : String → Bool) :
    (alone registry game d).filter (fun o => p o.1) =
      if p (declaredName d) then alone registry game d else [] := by
  split
  · next hp =>
    apply List.filter_eq_self.2
    intro o ho
    rw [name_of_mem_alone ho]
    exact hp
  · next hp =>
    apply List.filter_eq_nil_iff.2
    intro o ho
    rw [name_of_mem_alone ho]
    exact hp

theorem initFrom_fst (registry : Registry) (game : Game) (seen : List String)
    (declared : List Json) : (initFrom registry game seen declared).1 =
      (ofDeclared registry game declared).filter fun o => !seen.contains o.1 := by
  induction declared generalizing seen with
  | nil => rfl
  | cons d declared ih =>
    rw [ofDeclared, initFrom, initFrom]
    cases registry.find? (·.1 == declaredName d) with
    | none => exact ih seen
    | some e =>
      -- One name more is seen on both sides, so what is filtered out behind it is the same.
      have hfirst : ([] : List String).contains (declaredName d) = false := rfl
      have hlater (o : String × WorldOption) :
          ((!seen.contains o.1) && !(List.contains [declaredName d] o.1)) =
            !(declaredName d :: seen).contains o.1 := by
        rw [List.contains_cons, List.contains_cons, Bool.not_or, Bool.not_or, Bool.and_comm]
        exact congrArg (· && _) (Bool.and_true _)
      simp only [hfirst, Bool.false_eq_true, if_false]
      by_cases hseen : seen.contains (declaredName d)
      · rw [if_pos hseen, List.filter_cons, hseen, ih, ih, List.filter_filter]
        apply List.filter_congr
        intro o _
        rw [hlater, List.contains_cons]
        cases ho : o.1 == declaredName d with
        | false => rfl
        | true =>
          rw [eq_of_beq ho, hseen]
          rfl
      · rw [if_neg hseen, List.filter_cons, Bool.eq_false_iff.2 hseen, ih, ih, List.filter_filter]
        simp only [hlater]
        rfl

theorem mem_initFrom {seen : List String} {o : String × WorldOption}
    (h : o ∈ (initFrom registry game seen declared).1) :
    ∃ d ∈ declared, o ∈ alone registry game d := by
  induction declared generalizing seen with
  | nil => cases h
  | cons d declared ih =>
    have hrest {seen : List String} (h : o ∈ (initFrom registry game seen declared).1) :
        ∃ e ∈ d :: declared, o ∈ alone registry game e := by
      obtain ⟨e, he, ho⟩ := ih h
      exact ⟨e, List.mem_cons_of_mem d he, ho⟩
    rw [initFrom] at h
    split at h
    · exact hrest h
    · next name init hfind =>
      split at h
      · exact hrest h
      · rcases List.mem_cons.1 h with rfl | h
        · refine ⟨d, List.mem_cons_self, ?_⟩
          rw [alone, hfind]
          exact List.mem_singleton.2 rfl
        · exact hrest h

theorem ofDeclared_filter_ne
    (h : ∀ d ∈ declared, isKnown registry d = true → declaredName d ≠ name) :
    (ofDeclared registry game declared).filter (fun o => o.1 != name) =
      ofDeclared registry game declared := by
  apply List.filter_eq_self.2
  intro o ho
  obtain ⟨d, hd, hmade⟩ := mem_initFrom ho
  apply bne_iff_ne.2
  rw [name_of_mem_alone hmade]
  exact h d hd (known_of_mem_alone hmade)

theorem isKnown_congr {e : Json} (h : declaredName e = declaredName d) :
    isKnown registry e = isKnown registry d := by
  rw [isKnown, isKnown, h]

theorem ofDeclared_filter_unknown (h : isKnown registry d = false) (declared : List Json) :
    (ofDeclared registry game declared).filter (fun o => o.1 != declaredName d) =
      ofDeclared registry game declared := by
  apply ofDeclared_filter_ne
  intro e _ hknown hname
  rw [isKnown_congr hname, h] at hknown
  cases hknown

/-- A declaration makes its option, and those behind it make no other of its name. -/
theorem ofDeclared_cons (registry : Registry) (game : Game) (d : Json) (declared : List Json) :
    ofDeclared registry game (d :: declared) = alone registry game d ++
      (ofDeclared registry game declared).filter (fun o => o.1 != declaredName d) := by
  cases hfind : registry.find? (·.1 == declaredName d) with
  | none =>
    have hunknown : isKnown registry d = false := by rw [isKnown, hfind]; rfl
    rw [alone_of_unknown hunknown, ofDeclared_filter_unknown hunknown, ofDeclared, initFrom, hfind]
    rfl
  | some e =>
    rw [ofDeclared, initFrom, alone, hfind]
    have hone (o : String × WorldOption) :
        (!List.contains [declaredName d] o.1) = (o.1 != declaredName d) := by
      rw [List.contains_cons, List.contains_nil, Bool.or_false]
      rfl
    have hrest := initFrom_fst registry game [declaredName d] declared
    simp only [hone] at hrest
    exact congrArg (_ :: ·) hrest

theorem ofDeclared_append (registry : Registry) (game : Game) (before after : List Json) :
    ofDeclared registry game (before ++ after) = ofDeclared registry game before ++
      (ofDeclared registry game after).filter
        (fun o => !(before.map declaredName).contains o.1) := by
  induction before with
  | nil =>
    rw [List.nil_append]
    exact (List.filter_eq_self.2 fun _ _ => rfl).symm
  | cons d before ih =>
    rw [List.cons_append, ofDeclared_cons, ofDeclared_cons, ih, List.filter_append,
      List.filter_filter, List.append_assoc]
    congr 3
    funext o
    rw [List.map_cons, List.contains_cons, Bool.not_or]
    rfl

/-- The option of a name follows from the first declaration of the name. -/
def first? (registry : Registry) (game : Game) (declared : List Json) (name : String) :
    Option (String × WorldOption) := do
  let entry ← registry.find? (·.1 == name)
  let d ← declared.find? (declaredName · == name)
  return (name, entry.2 game d)

theorem first?_cons_self (registry : Registry) (game : Game) (d : Json) (declared : List Json) :
    (first? registry game (d :: declared) (declaredName d)).toList = alone registry game d := by
  have hfind : (d :: declared).find? (declaredName · == declaredName d) = some d :=
    List.find?_cons_of_pos BEq.rfl
  rw [first?, hfind, alone]
  cases registry.find? (·.1 == declaredName d) <;> rfl

theorem first?_cons_of_ne (h : declaredName d ≠ name) :
    first? registry game (d :: declared) name = first? registry game declared name := by
  have hfind : (d :: declared).find? (declaredName · == name) =
      declared.find? (declaredName · == name) :=
    List.find?_cons_of_neg fun he => h (eq_of_beq he)
  rw [first?, hfind, first?]

theorem ofDeclared_named (registry : Registry) (game : Game) (declared : List Json)
    (name : String) : (ofDeclared registry game declared).filter (fun o => o.1 == name) =
      (first? registry game declared name).toList := by
  induction declared with
  | nil =>
    rw [first?]
    cases registry.find? (·.1 == name) <;> rfl
  | cons d declared ih =>
    rw [ofDeclared_cons, List.filter_append, alone_filter (· == name), List.filter_filter]
    by_cases hname : declaredName d = name
    · subst hname
      have hrest : (ofDeclared registry game declared).filter
          (fun o => o.1 == declaredName d && o.1 != declaredName d) = [] := by
        apply List.filter_eq_nil_iff.2
        intro o _
        cases h : o.1 == declaredName d <;> simp [h, bne]
      rw [if_pos BEq.rfl, first?_cons_self, hrest, List.append_nil]
    · rw [first?_cons_of_ne hname, ← ih, if_neg fun he => hname (eq_of_beq he), List.nil_append]
      apply List.filter_congr
      intro o _
      cases h : o.1 == name with
      | false => rfl
      | true =>
        rw [eq_of_beq h, Bool.true_and]
        exact bne_iff_ne.2 (Ne.symm hname)

theorem ofDeclared_filter (registry : Registry) (game : Game) (p : String → Bool)
    (declared : List Json) : ofDeclared registry game (declared.filter fun d => p (declaredName d)) =
      (ofDeclared registry game declared).filter fun o => p o.1 := by
  induction declared with
  | nil => rfl
  | cons d declared ih =>
    rw [List.filter_cons, ofDeclared_cons, List.filter_append, alone_filter, List.filter_filter]
    split
    · next hp =>
      rw [ofDeclared_cons, ih, List.filter_filter]
      simp only [Bool.and_comm]
    · next hp =>
      rw [ih, List.nil_append]
      apply List.filter_congr
      intro o _
      cases ho : p o.1 with
      | false => rfl
      | true =>
        rw [Bool.true_and]
        refine (bne_iff_ne.2 ?_).symm
        intro he
        exact hp (he ▸ ho)

/-- The options are those of the declared names, in the order of their first declarations. -/
theorem ofDeclared_eq (registry : Registry) (game : Game) (declared : List Json) :
    ofDeclared registry game declared =
      (declared.map declaredName).eraseDups.filterMap (first? registry game declared) := by
  -- What follows the first declaration is looked at without those of the same name.
  induction hn : declared.length using Nat.strongRecOn generalizing declared with
  | _ n ih =>
    cases declared with
    | nil => rfl
    | cons d declared =>
      have hlength : (declared.filter (declaredName · != declaredName d)).length < n :=
        hn ▸ Nat.lt_succ_of_le (List.length_filter_le _ _)
      have hothers : ∀ name ∈ ((declared.map declaredName).filter (· != declaredName d)).eraseDups,
          first? registry game (declared.filter (declaredName · != declaredName d)) name =
            first? registry game (d :: declared) name := by
        intro name hname
        have hne : name ≠ declaredName d :=
          bne_iff_ne.1 (List.mem_filter.1 (List.mem_eraseDups.1 hname)).2
        have hfind : (declared.filter (declaredName · != declaredName d)).find?
            (declaredName · == name) = declared.find? (declaredName · == name) := by
          rw [List.find?_filter]
          congr 1
          funext e
          cases he : declaredName e == name with
          | false => simp
          | true => simpa [eq_of_beq he] using hne
        rw [first?_cons_of_ne (Ne.symm hne), first?, hfind, first?]
      rw [ofDeclared_cons, ← ofDeclared_filter registry game (· != declaredName d),
        ih _ hlength _ rfl, List.map_cons, List.eraseDups_cons, ← first?_cons_self,
        List.filterMap_cons]
      have hmap : (declared.filter (declaredName · != declaredName d)).map declaredName =
          (declared.map declaredName).filter (· != declaredName d) := by
        rw [List.filter_map]
        rfl
      rw [hmap, List.filterMap_congr hothers]
      cases first? registry game (d :: declared) (declaredName d) <;> rfl

theorem ofDeclared_nodup (registry : Registry) (game : Game) (declared : List Json) :
    ((ofDeclared registry game declared).map (·.1)).Nodup := by
  induction declared with
  | nil => exact .nil
  | cons d declared ih =>
    rw [ofDeclared_cons, List.map_append, List.nodup_append]
    refine ⟨?_, ih.sublist (List.filter_sublist.map _), ?_⟩
    · rw [alone]
      cases registry.find? (·.1 == declaredName d) with
      | none => exact .nil
      | some e => exact List.nodup_singleton _
    · intro name hname name' hname'
      obtain ⟨o, ho, rfl⟩ := List.mem_map.1 hname
      obtain ⟨o', ho', rfl⟩ := List.mem_map.1 hname'
      rw [name_of_mem_alone ho]
      exact (bne_iff_ne.1 (List.mem_filter.1 ho').2).symm

theorem ofDeclared_of_nodup (registry : Registry) (game : Game)
    (h : (declared.map declaredName).Nodup) :
    ofDeclared registry game declared = declared.flatMap (alone registry game) := by
  induction declared with
  | nil => rfl
  | cons d declared ih =>
    rw [List.map_cons, List.nodup_cons] at h
    rw [ofDeclared_cons, ofDeclared_filter_ne, ih h.2, List.flatMap_cons]
    intro e he _ hname
    exact h.1 (hname ▸ List.mem_map_of_mem he)

theorem ofDeclared_delete (registry : Registry) (game : Game)
    (h : ∀ e ∈ before ++ after, declaredName e ≠ declaredName d) :
    ∃ later, ofDeclared registry game (before ++ d :: after) =
        ofDeclared registry game before ++ (alone registry game d ++ later) ∧
      ofDeclared registry game (before ++ after) = ofDeclared registry game before ++ later := by
  have hbefore : (before.map declaredName).contains (declaredName d) = false := by
    apply Bool.eq_false_iff.2
    intro hmem
    obtain ⟨e, he, hname⟩ := List.mem_map.1 (List.contains_iff_mem.1 hmem)
    exact h e (List.mem_append_left after he) hname
  refine ⟨_, ?_, ofDeclared_append registry game before after⟩
  rw [ofDeclared_append, ofDeclared_cons, ofDeclared_filter_ne, List.filter_append,
    alone_filter (fun name => !(before.map declaredName).contains name), hbefore]
  · rfl
  · intro e he _
    exact h e (List.mem_append_right before he)

theorem ofDeclared_skip (registry : Registry) (game : Game) (after : List Json)
    (h : isKnown registry d = false ∨ declaredName d ∈ before.map declaredName) :
    ofDeclared registry game (before ++ d :: after) =
      ofDeclared registry game (before ++ after) := by
  rw [ofDeclared_append, ofDeclared_append, ofDeclared_cons]
  rcases h with hunknown | hrepeat
  · rw [alone_of_unknown hunknown, ofDeclared_filter_unknown hunknown, List.nil_append]
  · have hcontains := List.contains_iff_mem.2 hrepeat
    rw [List.filter_append, alone_filter (fun name => !(before.map declaredName).contains name),
      hcontains, List.filter_filter]
    congr 1
    apply List.filter_congr
    intro o _
    cases ho : o.1 == declaredName d with
    | false => simp [bne, ho]
    | true => rw [eq_of_beq ho, hcontains]; rfl

/-- The known options do not look at what else is declared. -/
theorem builtin_declaring (game : Game) (declared : List Json) (d : Json) :
    alone builtin (game.declaring declared) d = alone builtin game d := by
  have hinit : ∀ e ∈ builtin, e.2 (game.declaring declared) = e.2 game := by
    simp only [builtin, List.forall_mem_cons]
    exact ⟨rfl, rfl, rfl, rfl, rfl, fun _ he => nomatch he⟩
  rw [alone, alone]
  cases hfind : builtin.find? (·.1 == declaredName d) with
  | none => rfl
  | some e =>
    rw [Option.map_some, Option.map_some, hinit e (List.mem_of_find?_eq_some hfind)]

theorem ofDeclared_declaring (game : Game) (others declared : List Json) :
    ofDeclared builtin (game.declaring others) declared = ofDeclared builtin game declared := by
  induction declared with
  | nil => rfl
  | cons d declared ih => rw [ofDeclared_cons, ofDeclared_cons, builtin_declaring, ih]

def unknownNote (d : Json) : Diagnostic :=
  ⟨.unknownWorldOption, "Unknown world option '" ++ declaredName d ++ "'!"⟩

theorem initFrom_snd (registry : Registry) (game : Game) (seen : List String)
    (declared : List Json) : (initFrom registry game seen declared).2 =
      (declared.filter fun d => !isKnown registry d).map unknownNote := by
  induction declared generalizing seen with
  | nil => rfl
  | cons d declared ih =>
    rw [initFrom, List.filter_cons, isKnown]
    cases registry.find? (·.1 == declaredName d) with
    | none => exact congrArg (_ :: ·) (ih seen)
    | some e =>
      by_cases hseen : seen.contains (declaredName d)
      · simp only [hseen, if_true]
        exact ih seen
      · simp only [hseen]
        exact ih (declaredName d :: seen)

end WorldOptions

open WorldOptions (block ofDeclared)

namespace Game

def optionsWith (game : Game) (declared : List Json) : WorldOptions :=
  (WorldOptions.init builtin (game.declaring declared)).1

def notesWith (game : Game) (declared : List Json) : Diagnostics :=
  (WorldOptions.init builtin (game.declaring declared)).2

def linesWith (game : Game) (declared : List Json) (hook : String) (spacing : Nat) : List String :=
  WorldOptions.hookLines (game.declaring declared) (game.optionsWith declared) hook spacing

theorem optionsWith_eq (game : Game) (declared : List Json) :
    game.optionsWith declared = ofDeclared builtin game declared :=
  WorldOptions.ofDeclared_declaring game declared declared

theorem optionsWith_single (game : Game) (d : Json) :
    game.optionsWith [d] = WorldOptions.alone builtin game d := by
  rw [optionsWith_eq, WorldOptions.ofDeclared_cons]
  exact List.append_nil _

theorem linesWith_eq (game : Game) (declared : List Json) (hook : String) (spacing : Nat) :
    game.linesWith declared hook spacing = WorldOptions.ownBlock game hook spacing ++
      (game.optionsWith declared).flatMap (block hook spacing) := rfl

end Game

namespace WorldOptions

def named (options : WorldOptions) (name : String) : WorldOptions :=
  options.filter fun o => o.1 == name

/-- Every declaration makes what it makes alone, in its place. -/
def Contributes (game : Game) (declared : List Json) : Prop :=
  (∀ hook spacing, game.linesWith declared hook spacing = ownBlock game hook spacing ++
    declared.flatMap fun d => (game.optionsWith [d]).flatMap (block hook spacing)) ∧
  (game.optionsWith declared).playerOptions =
    declared.flatMap fun d => (game.optionsWith [d]).playerOptions

/-- What the declarations of a game have to do with its options. -/
structure Apart (game : Game) : Prop where
  /-- There is an option for each known name, as its first declaration has it. -/
  first : (init builtin game).1 = (game.worldInfo.worldOptions.map declaredName).eraseDups.filterMap
    (first? builtin game game.worldInfo.worldOptions)
  once : ((init builtin game).1.map (·.1)).Nodup
  /-- What is declared besides makes no difference to an option. -/
  same : ∀ declared declared' name,
    declared.find? (declaredName · == name) = declared'.find? (declaredName · == name) →
      (∀ hook spacing, ((game.optionsWith declared).named name).flatMap (block hook spacing) =
        ((game.optionsWith declared').named name).flatMap (block hook spacing)) ∧
      ((game.optionsWith declared).named name).playerOptions =
        ((game.optionsWith declared').named name).playerOptions
  permuted : ∀ declared declared', (declared.map declaredName).Nodup → declared.Perm declared' →
    Contributes game declared ∧ Contributes game declared'
  /-- Without the only declaration of a name just what it makes alone is gone. -/
  deleted : ∀ before d after, (∀ e ∈ before ++ after, declaredName e ≠ declaredName d) →
    ∃ later : WorldOptions,
      (∀ hook spacing,
        game.linesWith (before ++ d :: after) hook spacing = game.linesWith before hook spacing ++
          ((game.optionsWith [d]).flatMap (block hook spacing) ++
            later.flatMap (block hook spacing)) ∧
        game.linesWith (before ++ after) hook spacing = game.linesWith before hook spacing ++
          later.flatMap (block hook spacing)) ∧
      (game.optionsWith (before ++ d :: after)).playerOptions =
        (game.optionsWith before).playerOptions ++
          ((game.optionsWith [d]).playerOptions ++ later.playerOptions) ∧
      (game.optionsWith (before ++ after)).playerOptions =
        (game.optionsWith before).playerOptions ++ later.playerOptions ∧
      (isKnown builtin d = true →
        game.notesWith (before ++ d :: after) = game.notesWith (before ++ after))
  /-- A declaration that is not known or that repeats a name makes nothing. -/
  skipped : ∀ before d after,
    isKnown builtin d = false ∨ declaredName d ∈ before.map declaredName →
      (∀ hook spacing, game.linesWith (before ++ d :: after) hook spacing =
        game.linesWith (before ++ after) hook spacing) ∧
      (game.optionsWith (before ++ d :: after)).playerOptions =
        (game.optionsWith (before ++ after)).playerOptions

theorem contributes_of_nodup (game : Game) {declared : List Json}
    (h : (declared.map declaredName).Nodup) : Contributes game declared := by
  have halone : game.optionsWith declared = declared.flatMap fun d => game.optionsWith [d] := by
    simp only [Game.optionsWith_single]
    rw [Game.optionsWith_eq, ofDeclared_of_nodup builtin game h]
  constructor
  · intro hook spacing
    rw [Game.linesWith_eq, halone, List.flatMap_assoc]
  · rw [halone, playerOptions, List.flatMap_assoc]
    rfl

/-- The options of a game do not interfere with each other. -/
theorem declarations_apart (game : Game) : Apart game where
  first := ofDeclared_eq builtin game game.worldInfo.worldOptions
  once := ofDeclared_nodup builtin game game.worldInfo.worldOptions
  same declared declared' name h := by
    have hnamed : (game.optionsWith declared).named name =
        (game.optionsWith declared').named name := by
      rw [named, named, Game.optionsWith_eq, Game.optionsWith_eq, ofDeclared_named,
        ofDeclared_named, first?, first?, h]
    rw [hnamed]
    exact ⟨fun _ _ => rfl, rfl⟩
  permuted declared declared' hnodup hperm := by
    have hnodup' : (declared'.map declaredName).Nodup :=
      (hperm.map declaredName).nodup_iff.1 hnodup
    exact ⟨contributes_of_nodup game hnodup, contributes_of_nodup game hnodup'⟩
  deleted before d after h := by
    obtain ⟨later, hwith, hwithout⟩ := ofDeclared_delete builtin game h
    rw [← Game.optionsWith_eq, ← Game.optionsWith_eq, ← Game.optionsWith_single] at hwith
    rw [← Game.optionsWith_eq, ← Game.optionsWith_eq] at hwithout
    refine ⟨later, ?_, ?_, ?_, ?_⟩
    · intro hook spacing
      simp only [Game.linesWith_eq, hwith, hwithout, List.flatMap_append, List.append_assoc,
        and_self]
    · simp only [playerOptions, hwith, List.flatMap_append]
    · simp only [playerOptions, hwithout, List.flatMap_append]
    · intro hknown
      rw [Game.notesWith, Game.notesWith, init, init, initFrom_snd, initFrom_snd]
      change ((before ++ d :: after).filter _).map _ = ((before ++ after).filter _).map _
      rw [List.filter_append, List.filter_append, List.filter_cons_of_neg (by simp [hknown])]
  skipped before d after h := by
    have hskip : game.optionsWith (before ++ d :: after) = game.optionsWith (before ++ after) := by
      rw [Game.optionsWith_eq, Game.optionsWith_eq, ofDeclared_skip builtin game after h]
    constructor
    · intro hook spacing
      rw [Game.linesWith_eq, Game.linesWith_eq, hskip]
    · rw [hskip]

end WorldOptions

end Worldsmith
