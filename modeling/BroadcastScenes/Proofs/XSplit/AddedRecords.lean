import BroadcastScenes.Proofs.XSplit.Assembly

/-!
# The records of a presentation

A presentation adds a scene for each placement and a source for each item that brings one in. The
items of a scene are numbered on from one.
-/

namespace BroadcastScenes.XSplit

theorem map_id_placeItems (setting : Setting) (number : Nat) (tags : List Markup.Tag)
    (assembly : Assembly) :
    (placeItems setting number tags assembly).1.map (·.id) =
      (List.range' number tags.length).map Int64.ofNat := by
  induction tags generalizing number assembly with
  | nil => rfl
  | cons tag rest induction =>
      rw [placeItems_cons, List.map_cons, induction, List.length_cons, List.range'_succ,
        List.map_cons]
      rfl

theorem length_placeItems (setting : Setting) (number : Nat) (tags : List Markup.Tag)
    (assembly : Assembly) :
    (placeItems setting number tags assembly).1.length = tags.length := by
  have lengths := congrArg List.length (map_id_placeItems setting number tags assembly)
  simpa using lengths

theorem exists_of_mem_placeScenes {setting : Setting} {named : List (String × Markup.Tag)}
    {assembly : Assembly} {scene : Source.Record}
    (member : scene ∈ (placeScenes setting named assembly).1) :
    ∃ name items, scene = (Source.Record.scene name).withItems items ∧
      items.map (·.id) = (List.range' 1 items.length).map Int64.ofNat := by
  induction named generalizing assembly with
  | nil => cases member
  | cons head tail induction =>
      rcases head with ⟨name, placement⟩
      rw [placeScenes_cons] at member
      rcases List.mem_cons.mp member with rfl | later
      · refine ⟨name, _, rfl, ?_⟩
        rw [map_id_placeItems, length_placeItems]
      · exact induction later

theorem exists_of_mem_placed {setting : Setting} {inUse : List String} {root : Markup.Tag}
    {scene : Source.Record} (member : scene ∈ (placed setting inUse root).1) :
    ∃ name items, scene = (Source.Record.scene name).withItems items ∧
      items.map (·.id) = (List.range' 1 items.length).map Int64.ofNat :=
  exists_of_mem_placeScenes member

/-! ## Sources -/

def Assembly.HasItemSources (assembly : Assembly) (platform : Platform) : Prop :=
  ∀ record ∈ assembly.sources, ∃ attributes name, record = sourceRecord platform attributes name

namespace Assembly.HasItemSources

variable {assembly : Assembly}

theorem placedName {platform : Platform} (has : assembly.HasItemSources platform)
    (attributes : Members) :
    (XSplit.placedName platform attributes assembly).2.HasItemSources platform := by
  rcases placedName_cases platform attributes assembly with
    ⟨_, _, equal⟩ | ⟨_, _, equal⟩ | ⟨_, _, name, roster, _, equal⟩
  · rw [equal]
    exact has
  · rw [equal]
    exact has
  · rw [equal]
    intro record member
    rcases List.mem_append.mp member with earlier | new
    · exact has record earlier
    · exact ⟨attributes, name, List.mem_singleton.mp new⟩

variable {setting : Setting}

theorem placeItems (has : assembly.HasItemSources setting.platform) (number : Nat)
    (tags : List Markup.Tag) :
    (XSplit.placeItems setting number tags assembly).2.HasItemSources setting.platform := by
  induction tags generalizing number assembly with
  | nil => exact has
  | cons tag rest induction => exact induction (has.placedName tag.attributes) (number + 1)

theorem placeScenes (has : assembly.HasItemSources setting.platform)
    (named : List (String × Markup.Tag)) :
    (XSplit.placeScenes setting named assembly).2.HasItemSources setting.platform := by
  induction named generalizing assembly with
  | nil => exact has
  | cons head tail induction => exact induction (has.placeItems 1 head.2.children)

end Assembly.HasItemSources

theorem exists_of_mem_additions {setting : Setting} {inUse : List String} {root : Markup.Tag}
    {record : Source.Record} (member : record ∈ (additions setting inUse root).records) :
    (∃ name items, record = (Source.Record.scene name).withItems items) ∨
      ∃ attributes name, record = sourceRecord setting.platform attributes name := by
  rw [additions_eq] at member
  rcases List.mem_append.mp member with isScene | isSource
  · rcases exists_of_mem_placed isScene with ⟨name, items, equal, _⟩
    exact .inl ⟨name, items, equal⟩
  · have none : (start inUse root).HasItemSources setting.platform := by
      intro other absent
      cases absent
    exact .inr (none.placeScenes _ record isSource)

end BroadcastScenes.XSplit
