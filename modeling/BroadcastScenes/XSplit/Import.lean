import BroadcastScenes.Naming
import BroadcastScenes.Program
import BroadcastScenes.XSplit.Settings

/-!
# XSplit Broadcaster

A presentation is a marked-up text: each `placement` is a scene, and each tag in it an item.
Geometry is given in fractions of the canvas. Items that share an identifier show the same source;
an item may also show another scene, which may come later in the file.
-/

namespace BroadcastScenes.XSplit

def defaultName : String := "XSplit Import"

def recognizes (input : String) : Bool :=
  match (Text.lines input.toList).find? fun line => !"<?xml".toList.isPrefixOf line with
  | some line => "<configuration".toList.isPrefixOf line
  | none => false

structure Assembly where
  roster : Roster
  table : NameTable
  sources : List Source.Record

/-- The record of the source that an item holds. What has no counterpart keeps its place as a
source without an identifier. -/
def sourceRecord (platform : Platform) (attributes : Members) (name : String) : Source.Record :=
  let setup := (setup? platform attributes).getD ⟨"", []⟩
  { name := name
    id := setup.id
    settings := setup.settings
    volume := some (attributes.doubleAt "volume" / 100) }

def wantedName (attributes : Members) : String :=
  if attributes.textAt "cname" = "" then attributes.textAt "name" else attributes.textAt "cname"

/-- The name of the source that an item shows. A known identifier leads to its source, an item for
a scene to that scene, and any other item brings in a source of its own. -/
def placedName (platform : Platform) (attributes : Members) (assembly : Assembly) :
    Option String × Assembly :=
  let id := attributes.textAt "srcid"
  match assembly.table.name? id with
  | some name => (some name, assembly)
  | none =>
      if ItemType.ofCode (attributes.integerAt "type") = .scene then
        (assembly.table.name? (attributes.textAt "item"), assembly)
      else
        let (name, roster) := assembly.roster.assign (wantedName attributes)
        (some name,
          { roster := roster
            table := assembly.table.enter id name
            sources := assembly.sources ++ [sourceRecord platform attributes name] })

def sceneItem (canvas : Canvas) (attributes : Members) (number : Nat) (name : Option String) :
    Scene.Item :=
  let width := Decimal.floatOfInt canvas.width.toNat
  let height := Decimal.floatOfInt canvas.height.toNat
  let left := attributes.doubleAt "pos_left"
  let right := attributes.doubleAt "pos_right"
  let top := attributes.doubleAt "pos_top"
  let bottom := attributes.doubleAt "pos_bottom"
  { id := Int64.ofNat number
    name := name
    position := ⟨left * width, top * height⟩
    extent := .bounds ⟨(right - left) * width, (bottom - top) * height⟩ Scene.stretched
    visible := attributes.isOneAt "visible" }

def placeItems (setting : Setting) (number : Nat) :
    List Markup.Tag → Assembly → List Scene.Item × Assembly
  | [], assembly => ([], assembly)
  | tag :: rest, assembly =>
      let (name, next) := placedName setting.platform tag.attributes assembly
      let item := sceneItem setting.canvas tag.attributes number name
      let (items, last) := placeItems setting (number + 1) rest next
      (item :: items, last)

def placeScenes (setting : Setting) :
    List (String × Markup.Tag) → Assembly → List Source.Record × Assembly
  | [], assembly => ([], assembly)
  | (name, placement) :: rest, assembly =>
      let (items, next) := placeItems setting 1 placement.children assembly
      let (scenes, last) := placeScenes setting rest next
      ((Source.Record.scene name).withItems items :: scenes, last)

/-- What a presentation adds to a collection in which these names are in use. All scenes have
their names before the first item is placed. -/
def additions (setting : Setting) (inUse : List String) (root : Markup.Tag) : Additions :=
  let placements := root.childrenOfKind "placement"
  let (names, roster) := (Roster.mk inUse).assignAll
    (placements.map fun placement => placement.attributes.textAt "name")
  let ids := placements.map fun placement => placement.attributes.textAt "id"
  let table := NameTable.enterAll {} (ids.zip names)
  let (scenes, last) := placeScenes setting (names.zip placements) ⟨roster, table, []⟩
  { records := scenes ++ last.sources, firstScene := names.head? }

def importFile (request : Request) (collection : Collection) : Except ImportError Collection :=
  match Markup.read request.input with
  | .error error => .error (.conversion error)
  | .ok none => .error (.invalid Program.xsplitBroadcaster.name "no configuration element")
  | .ok (some root) =>
      let extended := collection.extend (additions request.setting collection.recordNames root)
      .ok (extended.rename (request.name.getD defaultName))

def installedFiles (machine : Machine) : List Path :=
  if machine.platform = .windows then
    match machine.sharedDirectory? ["SplitMediaLabs", "XSplit", "Presentation2.0"] with
    | some directory => (machine.namedFile? directory "Placements.bpres").toList
    | none => []
  else []

end BroadcastScenes.XSplit
