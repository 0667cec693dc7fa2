import Mathlib.Data.List.Basic
import Worldsmith.Proofs.Catalog.Conservation

namespace Worldsmith.Catalog

open Identified (splitRepeats_perm)

variable {game : Game} {levels : List Level} {level : Level} {c : Catalog} {name : String}
  {key : KeyTemplate}

def itemNames (c : Catalog) : List String := c.items.map (·.name)

theorem mem_itemNames : name ∈ c.itemNames ↔ ∃ e ∈ c.items, e.name = name := List.mem_map

theorem insertItem_names (c : Catalog) (t : ItemTemplate) (kind : EntityKind)
    (classification : Classification) (level : Option Level) :
    (c.insertItem t kind classification level).itemNames = c.itemNames ++ [t.nameIn level] :=
  List.map_append

theorem insertItems_names (c : Catalog) (ts : List ItemTemplate) (classification : Classification)
    (level : Option Level) : (c.insertItems ts classification level).itemNames =
      c.itemNames ++ ts.map (·.nameIn level) := by
  induction ts generalizing c with
  | nil => exact (List.append_nil _).symm
  | cons t ts ih =>
    rw [insertItems, List.foldl_cons]
    have hrest := ih (c.insertItem t (.type t.type) classification level)
    rw [insertItem_names] at hrest
    rw [List.map_cons, ← List.append_cons] at *
    exact hrest

def keyName (level : Level) (key : KeyTemplate) : String := level.name ++ " - " ++ key.item.name

def keyItem (level : Level) (key : KeyTemplate) : Item where
  id := itemId (some level.index) (.type key.item.type)
  name := keyName level key
  level := some level.index
  kind := .type key.item.type
  count := 1
  isKey := true
  classification := { progression := true }

theorem insertKey_items (level : Level) (c : Catalog) (key : KeyTemplate) :
    (insertKey level c key).items =
      if c.items.any (·.name == keyName level key) then c.items
      else c.items ++ [keyItem level key] := by
  rw [insertKey]
  dsimp only
  split
  · next h => exact (if_pos h).symm
  · next h => exact (if_neg h).symm

theorem insertKey_names_subset (level : Level) (c : Catalog) (key : KeyTemplate) :
    c.itemNames ⊆ (insertKey level c key).itemNames := by
  rw [itemNames, itemNames, insertKey_items]
  split
  · exact List.Subset.refl _
  · exact List.map_subset _ (List.subset_append_left _ _)

theorem keyName_mem_insertKey (level : Level) (c : Catalog) (key : KeyTemplate) :
    keyName level key ∈ (insertKey level c key).itemNames := by
  rw [mem_itemNames, insertKey_items]
  split
  · next h =>
    obtain ⟨e, he, hn⟩ := List.any_eq_true.1 h
    exact ⟨e, he, beq_iff_eq.1 hn⟩
  · exact ⟨_, List.mem_append_right _ (List.mem_singleton_self _), rfl⟩

section Fold
variable {α : Type} {step : Catalog → α → Catalog} {a : α} {l : List α}

theorem names_subset_foldl (h : ∀ c a, c.itemNames ⊆ (step c a).itemNames) (c : Catalog)
    (l : List α) : c.itemNames ⊆ (l.foldl step c).itemNames := by
  induction l generalizing c with
  | nil => exact List.Subset.refl _
  | cons a l ih => exact List.Subset.trans (h c a) (ih (step c a))

theorem mem_names_foldl (h : ∀ c a, c.itemNames ⊆ (step c a).itemNames) (ha : a ∈ l)
    (hn : ∀ c, name ∈ (step c a).itemNames) (c : Catalog) :
    name ∈ (l.foldl step c).itemNames := by
  obtain ⟨before, after, rfl⟩ := List.append_of_mem ha
  rw [List.foldl_append, List.foldl_cons]
  exact names_subset_foldl h _ after (hn _)

end Fold

theorem insertKeys_names_subset (game : Game) (c : Catalog) (level : Level) :
    c.itemNames ⊆ (insertKeys game c level).itemNames :=
  names_subset_foldl (insertKey_names_subset level) c _

theorem keyName_mem_insertKeys {p : Placed} (hp : p ∈ level.placed game)
    (hk : game.keyOf? p.thing.type = some key) (c : Catalog) :
    keyName level key ∈ (insertKeys game c level).itemNames :=
  mem_names_foldl (insertKey_names_subset level) (List.mem_filterMap.2 ⟨p, hp, hk⟩)
    (keyName_mem_insertKey level · key) c

def levelItemNames (game : Game) (level : Level) : List String :=
  [unlockTemplate.nameIn level, completeTemplate.nameIn level] ++
    (game.uniqueProgression ++ game.uniqueUseful ++ game.uniqueFiller).map (·.nameIn (some level))

theorem insertLevelItems_names (game : Game) (c : Catalog) (level : Level) :
    (insertLevelItems game c level).itemNames = c.itemNames ++ levelItemNames game level := by
  simp only [insertLevelItems, insertItems_names, insertItem_names, levelItemNames,
    List.map_append, List.append_assoc, List.cons_append, List.nil_append]

theorem insertLevelItems_names_subset (game : Game) (c : Catalog) (level : Level) :
    c.itemNames ⊆ (insertLevelItems game c level).itemNames := by
  rw [insertLevelItems_names]
  exact List.subset_append_left _ _

theorem common_mem_compile {t : ItemTemplate} (levels : List Level)
    (h : t ∈ game.progression ++ game.useful ++ game.filler) :
    t.name ∈ (compile game levels).1.itemNames := by
  have hcommon : t.name ∈ (insertItems {} game.progression { progression := true } none
      |>.insertItems game.useful { useful := true } none
      |>.insertItems game.filler {} none).itemNames := by
    simp only [insertItems_names, ← List.map_append, List.append_assoc]
    rw [← List.append_assoc]
    exact List.mem_append_right _ (List.mem_map_of_mem (f := (·.nameIn none)) h)
  have hkeys := names_subset_foldl (insertKeys_names_subset game) _ levels hcommon
  exact names_subset_foldl (insertLevelItems_names_subset game) _ levels hkeys

theorem keyName_mem_compile {p : Placed} (hl : level ∈ levels) (hp : p ∈ level.placed game)
    (hk : game.keyOf? p.thing.type = some key) :
    keyName level key ∈ (compile game levels).1.itemNames := by
  have hkeys := mem_names_foldl (insertKeys_names_subset game) hl (keyName_mem_insertKeys hp hk)
  exact names_subset_foldl (insertLevelItems_names_subset game) _ levels (hkeys _)

theorem levelItemNames_mem_compile (hl : level ∈ levels) (hn : name ∈ levelItemNames game level) :
    name ∈ (compile game levels).1.itemNames := by
  refine mem_names_foldl (insertLevelItems_names_subset game) hl (fun c => ?_) _
  rw [insertLevelItems_names]
  exact List.mem_append_right _ hn

theorem numbered_names (game : Game) (levels : List Level) :
    (numbered game levels).itemNames = (compile game levels).1.itemNames :=
  Remap.map_apply _ (fun _ => rfl) _ _

/-- A name leaves the catalog only with a note on an item of the name. -/
theorem mem_prepare_or_repeated (h : name ∈ (compile game levels).1.itemNames) :
    name ∈ (prepare game levels).1.itemNames ∨
      ∃ id, repeated "Item" name id ∈ (prepare game levels).2 := by
  rw [← numbered_names, mem_itemNames] at h
  obtain ⟨e, he, rfl⟩ := h
  have hsplit := (splitRepeats_perm [] _).trans (sorted_items_perm (numbered game levels))
  rcases List.mem_append.1 (hsplit.symm.subset he) with hkept | hdropped
  · exact .inl (mem_itemNames.2 ⟨e, hkept, rfl⟩)
  · have hnote := List.mem_map_of_mem (f := fun e : Item => repeated "Item" e.name e.id) hdropped
    exact .inr ⟨e.id, List.mem_append_right _ (List.mem_append_left _ hnote)⟩

end Worldsmith.Catalog
