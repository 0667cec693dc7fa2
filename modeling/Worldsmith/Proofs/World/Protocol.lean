import Mathlib
import Worldsmith.Proofs.Json.Object
import Worldsmith.Proofs.Sink.Log
import Worldsmith.Proofs.World.Compile

namespace Worldsmith

variable {game : Game} {data : GameLevels} {c : Catalog} {r : Requirement}

/-- A requirement that a game does not meet with its catalog. -/
def Requirement.Fails (game : Game) (c : Catalog) : Requirement → Prop
  | .fillerGroup => c.hasGroup Worldsmith.fillerGroup = false
  | .majorEpisode => ∀ e ∈ game.episodes, e.minor = true
  | .defaultEpisode => ∀ e ∈ game.episodes, e.defaultEnabled = false

theorem mem_violations : r ∈ violations game c ↔ r.Fails game c := by
  cases r with
  | fillerGroup => simp [violations, Requirement.Fails]
  | majorEpisode => simp [violations, Requirement.Fails]
  | defaultEpisode => simp [violations, Requirement.Fails]

theorem violations_sublist (game : Game) (c : Catalog) :
    (violations game c).Sublist [.fillerGroup, .majorEpisode, .defaultEpisode] := by
  rw [violations]
  split <;> split <;> split <;> decide

/-- A file that is refused is noted once, and nothing else is. -/
def Event.notes : Event → Diagnostics
  | .file _ source (.error e) => [⟨.unreadableAsset,
      "Couldn't add " ++ source.text ++ " to the APWorld! (" ++ e.message ++ ")"⟩]
  | _ => []

namespace World

variable {w : World} {versioned : Bool} {common : List Disk.Step} {spacing : Nat} {now : DateTime}
  {included : List String} {events more : List Event}

def includedCall (w : World) (source : String) : Call :=
  .file (w.file ("wad/" ++ (Path.mk source).fileName)) ⟨source⟩

def commonCall? (w : World) : Disk.Step → Option Call
  | .error _ => none
  | .ok found => some (.file (w.file ("id1common/" ++ "/".intercalate found.names)) found.path)

/-- The texts behind the included files, of which the manifest says which are in the package. -/
def texts (w : World) (versioned : Bool) (spacing : Nat) (now : DateTime)
    (included : List String) : List (String × String) :=
  [(w.file (w.game.shortName ++ ".game.json"), w.definitions.compact),
    (w.file "archipelago.json", (w.manifest included versioned now).compact),
    (w.file "options.py", w.optionsText),
    (w.file "__init__.py", w.sourceText spacing)]

def calls (w : World) (versioned : Bool) (common : List Disk.Step) (spacing : Nat) (now : DateTime)
    (included : List String) : List Call :=
  [Call.text (w.file (w.game.shortName ++ ".data.json")) w.data.pretty] ++
    (w.game.includedWads.map w.includedCall ++
      (textCalls (w.texts versioned spacing now included) ++ common.filterMap w.commonCall?))

/-- The calls behind the first text, one for each included file. -/
def includedEvents (w : World) (events : List Event) : List Event :=
  (events.drop 1).take w.game.includedWads.length

def accepted (w : World) (events : List Event) : List String :=
  (w.includedEvents events).filterMap Event.accepted?

/-- What is noted of the common module: failures of the walk, and files that are refused. -/
def commonNotes : List Disk.Step → List Event → Diagnostics
  | .error text :: steps, events =>
    ⟨.unreadableAsset, "Couldn't read the id1common module: " ++ text⟩ :: commonNotes steps events
  | .ok _ :: steps, event :: events => event.notes ++ commonNotes steps events
  | _, _ => []

def packingNotes (w : World) (common : List Disk.Step) (events : List Event) : Diagnostics :=
  (w.includedEvents events).flatMap Event.notes ++
    commonNotes common (events.drop (w.game.includedWads.length + 5))

/-- What is noted of a file that was queued and could not be written. -/
def failedNote (f : FailedWrite) : Diagnostic :=
  ⟨.unreadableAsset, "Failed write: " ++ ("couldn't write " ++ f.path ++ ": " ++ f.text)⟩

/-- What packaging comes to with a sink, and the calls that it makes. -/
inductive Packs (w : World) (versioned : Bool) (common : List Disk.Step) (spacing : Nat)
    (now : DateTime) : Except Failure Diagnostics → List Event → Prop
  /-- A text is refused. -/
  | refused {events before : List Event} {path content : String} {e : Failure}
    (hlast : events = before ++ [.text path content (.error e)])
    (hnone : ∀ event ∈ before, event.refusal? = none)
    (hcalls : events.map Event.call <+:
      w.calls versioned common spacing now (w.accepted events)) :
    Packs w versioned common spacing now (.error e) events
  /-- No text is refused. -/
  | finalized {events : List Event} {answer : Except Failure (List FailedWrite)}
    (hnone : ∀ event ∈ events, event.refusal? = none)
    (hcalls : events.map Event.call = w.calls versioned common spacing now (w.accepted events)) :
    Packs w versioned common spacing now
      (answer.map fun failed => w.packingNotes common events ++ failed.map failedNote)
      (events ++ [.finalize answer])

section Sink
variable {σ : Type} (sink : Sink (StateM σ))

theorem tryAdd_makes (dest : String) (source : Path) :
    Makes (tryAdd sink dest source) (tryAdd sink.logged dest source) fun notes events =>
      ∃ answer, events = [.file dest source answer] ∧
        notes = (Event.file dest source answer).notes := by
  refine (Makes.noting (.file dest source) (sink.addFile dest source)).bind
    fun answer events hevents => ?_
  subst hevents
  cases answer with
  | ok u => exact .pure ⟨.ok u, rfl, rfl⟩
  | error e => exact .pure ⟨.error e, rfl, rfl⟩

theorem addIncluded_makes (sources : List String) :
    Makes (w.addIncluded sink sources) (w.addIncluded sink.logged sources) fun r events =>
      Follows (sources.map w.includedCall) events none ∧
        r = (events.filterMap Event.accepted?, events.flatMap Event.notes) := by
  induction sources with
  | nil => exact .pure ⟨.done, rfl⟩
  | cons source sources ih =>
    refine (tryAdd_makes sink (w.includedPath source) ⟨source⟩).bind fun notes events hnotes => ?_
    refine ih.bind fun r more hmore => ?_
    obtain ⟨answer, rfl, rfl⟩ := hnotes
    obtain ⟨hfollows, rfl⟩ := hmore
    refine .pure ?_
    rw [List.append_nil, List.singleton_append]
    refine ⟨.file hfollows, ?_⟩
    rw [List.filterMap_cons, List.flatMap_cons]
    cases answer <;> rfl

theorem addCommon_makes (common : List Disk.Step) :
    Makes (w.addCommon sink common) (w.addCommon sink.logged common) fun notes events =>
      Follows (common.filterMap w.commonCall?) events none ∧ notes = commonNotes common events := by
  induction common with
  | nil => exact .pure ⟨.done, rfl⟩
  | cons step common ih =>
    cases step with
    | error text =>
      refine ih.bind fun notes events hnotes => ?_
      obtain ⟨hfollows, rfl⟩ := hnotes
      refine .pure ?_
      rw [List.append_nil]
      exact ⟨hfollows, rfl⟩
    | ok found =>
      refine (tryAdd_makes sink (w.commonPath found.names) found.path).bind
        fun notes events hnotes => ?_
      refine ih.bind fun rest more hmore => ?_
      obtain ⟨answer, rfl, rfl⟩ := hnotes
      obtain ⟨hfollows, rfl⟩ := hmore
      refine .pure ?_
      rw [List.append_nil]
      exact ⟨.file hfollows, rfl⟩

theorem package_eq {m : Type → Type} [Monad m] [LawfulMonad m] (w : World) (sink : Sink m)
    (common : List Disk.Step) (spacing : Nat) (now : DateTime) :
    w.package sink common spacing now = do
      sink.addTexts [(w.dataPath, w.data.pretty)]
      let (included, including) ←
        (w.addIncluded sink w.game.includedWads : m (List String × Diagnostics))
      sink.addTexts (w.texts sink.versioned spacing now included)
      let sharing ← (w.addCommon sink common : m Diagnostics)
      let failed ← sink.finalize
      return including ++ sharing ++ failed.map failedNote := by
  have hnote : failedNote = fun f => unreadable ("Failed write: " ++ f.message) := rfl
  simp [hnote, package, Sink.addTexts, texts, Sink.addPretty, Sink.addCompact, dataPath,
    definitionsPath, manifestPath, optionsPath, sourcePath]

theorem Packs.of_stopped {e : Failure}
    (h : Follows (w.calls versioned common spacing now (w.accepted events)) events (some e)) :
    Packs w versioned common spacing now (.error e) events := by
  obtain ⟨before, path, content, hlast, hcalls, hnone⟩ := h.eq_concat
  exact .refused hlast hnone hcalls

/-- The calls up to the last of the included files, none of which ends a run. -/
structure Opened (w : World) (first wads : List Event) : Prop where
  data : Follows [.text w.dataPath w.data.pretty] first none
  included : Follows (w.game.includedWads.map w.includedCall) wads none

namespace Opened

variable {first wads others shared : List Event}

theorem lengths (h : Opened w first wads) :
    first.length = 1 ∧ wads.length = w.game.includedWads.length := by
  have hdata := congrArg List.length h.data.map_call
  have hincluded := congrArg List.length h.included.map_call
  rw [List.length_map] at hdata
  rw [List.length_map, List.length_map] at hincluded
  exact ⟨hdata, hincluded⟩

theorem includedEvents_eq (h : Opened w first wads) (rest : List Event) :
    w.includedEvents (first ++ (wads ++ rest)) = wads := by
  obtain ⟨hfirst, hwads⟩ := h.lengths
  rw [includedEvents, List.drop_left' hfirst, List.take_left' hwads]

/-- The texts that follow are given with the files that were accepted. -/
theorem follows (h : Opened w first wads) {stop : Option Failure}
    (hothers : Follows (textCalls (w.texts versioned spacing now
      (wads.filterMap Event.accepted?)) ++ common.filterMap w.commonCall?) others stop) :
    Follows (w.calls versioned common spacing now (w.accepted (first ++ (wads ++ others))))
      (first ++ (wads ++ others)) stop := by
  rw [accepted, h.includedEvents_eq]
  exact h.data.append (h.included.append hothers)

theorem packs_of_refused (h : Opened w first wads) {e : Failure}
    (hothers : Follows (textCalls (w.texts versioned spacing now
      (wads.filterMap Event.accepted?))) others (some e)) :
    Packs w versioned common spacing now (.error e) (first ++ (wads ++ others)) :=
  .of_stopped (h.follows (hothers.append_plan _))

theorem packs_of_finalized (h : Opened w first wads)
    (hothers : Follows (textCalls (w.texts versioned spacing now
      (wads.filterMap Event.accepted?))) others none)
    (hshared : Follows (common.filterMap w.commonCall?) shared none)
    (answer : Except Failure (List FailedWrite)) :
    Packs w versioned common spacing now
      (answer.map fun failed => wads.flatMap Event.notes ++ commonNotes common shared ++
        failed.map failedNote)
      (first ++ (wads ++ (others ++ (shared ++ [.finalize answer])))) := by
  have hfollows := h.follows (hothers.append hshared)
  have hrest : (first ++ (wads ++ (others ++ shared))).drop (w.game.includedWads.length + 5) =
      shared := by
    obtain ⟨hfirst, hwads⟩ := h.lengths
    have hlength : others.length = 4 := by
      have hlength := congrArg List.length hothers.map_call
      rwa [List.length_map] at hlength
    rw [← List.append_assoc, ← List.append_assoc]
    refine List.drop_left' ?_
    rw [List.length_append, List.length_append, hfirst, hwads, hlength]
    omega
  have hpacks : Packs w versioned common spacing now _ (_ ++ [.finalize answer]) :=
    .finalized hfollows.none_refused hfollows.map_call
  rw [packingNotes, h.includedEvents_eq, hrest] at hpacks
  simpa only [List.append_assoc] using hpacks

end Opened

theorem package_makes (common : List Disk.Step) (spacing : Nat) (now : DateTime) :
    Makes (w.package sink common spacing now).run (w.package sink.logged common spacing now).run
      (Packs w sink.versioned common spacing now) := by
  rw [package_eq, package_eq]
  -- Only the texts can end the run, which is the second case of each step with them.
  refine (sink.addTexts_makes _).bind_except (fun _ first hfirst => ?_)
    fun e first hfirst => .of_stopped (hfirst.append_plan _)
  refine (addIncluded_makes sink w.game.includedWads).bind_lift fun r wads hwads => ?_
  obtain ⟨hincluded, rfl⟩ := hwads
  have hopened : Opened w first wads := ⟨hfirst, hincluded⟩
  refine (sink.addTexts_makes _).bind_except (fun _ others hothers => ?_)
    fun e others hothers => hopened.packs_of_refused hothers
  refine (addCommon_makes sink common).bind_lift fun notes shared hshared => ?_
  obtain ⟨hcommon, rfl⟩ := hshared
  refine (Makes.noting .finalize sink.finalize).bind_except
    (fun failed events hevents => .pure ?_) fun e events hevents => ?_
  · subst hevents
    exact hopened.packs_of_finalized hothers hcommon (.ok failed)
  · subst hevents
    exact hopened.packs_of_finalized hothers hcommon (.error e)

end Sink

theorem finalize_notMem_calls (w : World) (versioned : Bool) (common : List Disk.Step)
    (spacing : Nat) (now : DateTime) (included : List String) :
    Call.finalize ∉ w.calls versioned common spacing now included := by
  have hcommon : ∀ step ∈ common, w.commonCall? step ≠ some .finalize := by
    intro step _
    cases step <;> simp [commonCall?]
  simpa [calls, textCalls, includedCall] using hcommon

theorem finalize_notMem {answer : Except Failure (List FailedWrite)}
    (h : events.map Event.call <+: w.calls versioned common spacing now included) :
    Event.finalize answer ∉ events := fun hmem =>
  w.finalize_notMem_calls versioned common spacing now included
    (h.subset (List.mem_map_of_mem (f := Event.call) hmem))

namespace Packs

variable {r : Except Failure Diagnostics}

theorem finalized_iff (h : Packs w versioned common spacing now r events) :
    (∃ answer, .finalize answer ∈ events) ↔
      events ≠ [] ∧ ∀ event ∈ events, event.refusal? = none := by
  cases h with
  | refused hlast hnone hcalls =>
    refine ⟨fun ⟨_, hmem⟩ => absurd hmem (finalize_notMem hcalls), fun ⟨_, hall⟩ => ?_⟩
    cases hall _ (hlast ▸ List.mem_concat_self)
  | finalized hnone hcalls =>
    refine ⟨fun _ => ⟨by simp, fun event hmem => ?_⟩, fun _ => ⟨_, List.mem_concat_self⟩⟩
    rcases List.mem_append.1 hmem with hmem | hmem
    · exact hnone event hmem
    · rw [List.mem_singleton.1 hmem]
      rfl

theorem finalize_last {answer : Except Failure (List FailedWrite)}
    (h : Packs w versioned common spacing now r events) (hmem : .finalize answer ∈ events) :
    ∃ before, events = before ++ [.finalize answer] ∧ ∀ other, .finalize other ∉ before := by
  cases h with
  | refused hlast hnone hcalls => exact absurd hmem (finalize_notMem hcalls)
  | @finalized before _ hnone hcalls =>
    have hbefore : ∀ other, Event.finalize other ∉ before := fun other =>
      finalize_notMem ⟨[], (List.append_nil _).trans hcalls⟩
    rcases List.mem_append.1 hmem with hmem | hmem
    · exact absurd hmem (hbefore answer)
    · rw [← List.mem_singleton.1 hmem]
      exact ⟨before, rfl, hbefore⟩

end Packs

theorem launcher_included (game : Game) (included : List String) (path : String) :
    (Document.launcher game included path).get? "wads_included" =
      if included.isEmpty then none else some (.strings included) := by
  have hrequired := Json.keys_optional (game.requiredWads.map Json.str).isEmpty "wads_required"
    (.arr (game.requiredWads.map Json.str))
  have hoptional := Json.keys_optional (game.optionalWads.map Json.str).isEmpty "wads_optional"
    (.arr (game.optionalWads.map Json.str))
  have hfull := Json.keys_optional (game.fullName = game.apName) "full_name" (.str game.fullName)
  have hkeys := (((List.Sublist.refl ["short_name", "iwad"]).append hfull).append
    hrequired).append hoptional
  rw [Document.launcher, Json.get?_object_append (by simp)]
  refine (Json.get?_object_optional (?_ : List.Sublist _ ["short_name", "iwad", "full_name",
    "wads_required", "wads_optional"]) (by decide) _).trans ?_
  · rw [List.map_append, List.map_append, List.map_append]
    exact hkeys
  · rw [List.isEmpty_map]
    rfl

theorem manifest_included (w : World) (included : List String) (versioned : Bool)
    (now : DateTime) : (w.manifest included versioned now).path? ["__apdoom", "wads_included"] =
      if included.isEmpty then none else some (.strings included) := by
  have hlauncher : (w.manifest included versioned now).get? "__apdoom" =
      some (Document.launcher w.game included w.definitionsPath) := by
    rw [manifest, Document.manifest]
    exact Json.get?_object_of_mem (by split <;> simp) (by simp)
  have hincluded := launcher_included w.game included w.definitionsPath
  simpa only [Json.path?, List.foldlM_cons, List.foldlM_nil, hlauncher, Option.bind_eq_bind,
    Option.bind_some, bind_pure] using hincluded

end World

/-- What a run comes to with a sink, and the calls that it makes. -/
inductive Outcome (game : Game) (data : GameLevels) (label : String) (versioned : Bool)
    (common : List Disk.Step) (spacing : Nat) (now : DateTime) :
    Except Failure Report → List Event → Prop
  /-- The data is not that of the game. -/
  | mismatched {e : Failure} (h : game.levels data = .error e) :
    Outcome game data label versioned common spacing now (.error e) []
  | lacking {levels : List Level} {violated : List Requirement}
    (h : game.levels data = .ok levels) (hne : violated ≠ [])
    (hfails : ∀ r, r ∈ violated ↔ r.Fails game (Catalog.prepare game levels).1)
    (horder : violated.Sublist [.fillerGroup, .majorEpisode, .defaultEpisode]) :
    Outcome game data label versioned common spacing now (.error (.validation violated)) []
  | packed {levels : List Level} {packed : Except Failure Diagnostics} {events : List Event}
    (h : game.levels data = .ok levels)
    (hmet : ∀ r, ¬ Requirement.Fails game (Catalog.prepare game levels).1 r)
    (hpacks : (World.ofLevels game levels).Packs versioned common spacing now packed events)
    (hmanifest : ∀ included, ((World.ofLevels game levels).manifest included versioned now).path?
      ["__apdoom", "wads_included"] =
        if included.isEmpty then none else some (.strings included)) :
    Outcome game data label versioned common spacing now
      (packed.map fun notes => (World.ofLevels game levels).report label
        (World.notesOn game levels ++ notes)) events

theorem Outcome.of_packs {label : String} {versioned : Bool} {common : List Disk.Step}
    {spacing : Nat} {now : DateTime} {levels : List Level} {packed : Except Failure Diagnostics}
    {events : List Event} (h : game.levels data = .ok levels)
    (hmet : violations game (Catalog.prepare game levels).1 = [])
    (hpacks : (World.ofLevels game levels).Packs versioned common spacing now packed events) :
    Outcome game data label versioned common spacing now
      (packed.map fun notes => (World.ofLevels game levels).report label
        (World.notesOn game levels ++ notes)) events := by
  refine .packed h (fun r hfails => ?_) hpacks fun included => ?_
  · have hmem := mem_violations.2 hfails
    rw [hmet] at hmem
    cases hmem
  · exact World.manifest_included _ included versioned now

section Run
variable {σ : Type} (game : Game) (data : GameLevels) (sink : Sink (StateM σ))
  (common : List Disk.Step) (spacing : Nat) (now : DateTime)

theorem generate_makes :
    Makes (generate game data sink common spacing now).run
      (generate game data sink.logged common spacing now).run
      (Outcome game data sink.label sink.versioned common spacing now) := by
  rw [World.generate_eq, World.generate_eq]
  cases h : game.levels data with
  | error e =>
    have hc : World.compile game data = .error e := by
      rw [World.compile, h]
      rfl
    rw [hc]
    exact .pure (.mismatched h)
  | ok levels =>
    rw [World.compile_of_levels h]
    cases hv : violations game (Catalog.prepare game levels).1 with
    | nil =>
      refine (World.package_makes sink common spacing now).bind_except
        (fun notes events hpacks => .pure ?_) fun e events hpacks => .of_packs h hv hpacks
      rw [List.append_nil]
      exact .of_packs h hv hpacks
    | cons first rest =>
      refine .pure (.lacking h (List.cons_ne_nil first rest) (fun r => ?_) ?_)
      · rw [← hv]
        exact mem_violations
      · rw [← hv]
        exact violations_sublist game _

/-- From every state a sink gets the same calls with and without a log: those of the outcome, and of
them one to finalize, as the last, if there are calls and no text is refused. -/
theorem generate_protocol (s : σ) : ∃ result s' events,
    (generate game data sink common spacing now).run.run s = (result, s') ∧
      (generate game data sink.logged common spacing now).run.run (s, []) =
        (result, s', events) ∧
      (events = [] → s' = s) ∧
      Outcome game data sink.label sink.versioned common spacing now result events ∧
      ((∃ answer, .finalize answer ∈ events) ↔
        events ≠ [] ∧ ∀ event ∈ events, event.refusal? = none) ∧
      ∀ answer, .finalize answer ∈ events →
        ∃ before, events = before ++ [.finalize answer] ∧ ∀ other, .finalize other ∉ before := by
  obtain ⟨result, s', events, hrun, hlog, hkeep, houtcome⟩ :=
    generate_makes game data sink common spacing now s
  refine ⟨result, s', events, hrun, hlog [], hkeep, houtcome, ?_, fun answer hmem => ?_⟩
  · cases houtcome with
    | mismatched => simp
    | lacking => simp
    | packed h hmet hpacks => exact hpacks.finalized_iff
  · cases houtcome with
    | mismatched => cases hmem
    | lacking => cases hmem
    | packed h hmet hpacks => exact hpacks.finalize_last hmem

end Run

def portGame : Game where
  shortName := "doom"
  iwad := "DOOM.WAD"
  episodes := [{ maps := [⟨"Hangar", "E1M1"⟩] }]
  filler := [{ type := 2008, name := "Shells", groups := ["Junk"] }]
  includedWads := ["maps/port.wad"]

def portLevel : Level := MapInfo.level ⟨"Hangar", "E1M1"⟩ ⟨0, 0⟩ {}

def Sink.withoutFiles : Sink (StateM Unit) where
  addText _ _ := return ()
  addFile path _ := throw (.config (.refused path))
  finalize := return []
  label := ""
  versioned := false

theorem portGame_compile : World.compile portGame ⟨[[{}]]⟩ =
    .ok (World.ofLevels portGame [portLevel], World.notesOn portGame [portLevel]) := by
  have hv : violations portGame (Catalog.prepare portGame [portLevel]).1 = [] := by cbv
  exact World.compile_eq_ok_iff.2 ⟨_, rfl, hv, rfl, rfl⟩

def portNote : Diagnostic := ⟨.unreadableAsset, "Couldn't add maps/port.wad to the APWorld! " ++
  "(configuration error: refused id1_game/wad/port.wad)"⟩

theorem generate_protocol_port :
    let now : DateTime := ⟨2024, 1, 1, 0, 0, 0⟩
    ∃ report events,
      (generate portGame ⟨[[{}]]⟩ .withoutFiles [] 1 now).run.run () = (.ok report, ()) ∧
      (generate portGame ⟨[[{}]]⟩ Sink.withoutFiles.logged [] 1 now).run.run ((), []) =
        (.ok report, (), events) ∧
      Outcome portGame ⟨[[{}]]⟩ "" false [] 1 now (.ok report) events ∧
      report.diagnostics.filter (·.kind = .unreadableAsset) = [portNote] := by
  intro now
  let report := (World.ofLevels portGame [portLevel]).report ""
    (World.notesOn portGame [portLevel] ++ [portNote])
  have hreport : (generate portGame ⟨[[{}]]⟩ .withoutFiles [] 1 now).run.run () =
      (.ok report, ()) := by
    rw [generate, portGame_compile]
    rfl
  have hnotes : World.notesOn portGame [portLevel] =
      [⟨.levelWithoutExit, "Hangar has no region that connects to the Exit."⟩] := by cbv
  obtain ⟨result, s', events, hrun, hlog, -, houtcome, -⟩ :=
    generate_protocol portGame ⟨[[{}]]⟩ .withoutFiles [] 1 now ()
  obtain ⟨rfl, rfl⟩ := Prod.mk.inj (hreport.symm.trans hrun)
  refine ⟨report, events, hreport, hlog, houtcome, ?_⟩
  change (World.notesOn portGame [portLevel] ++ [portNote]).filter _ = _
  rw [hnotes]
  rfl

end Worldsmith
