import BroadcastScenes.Proofs.AppendingImport
import BroadcastScenes.Proofs.ObsClassic.Assembly
import BroadcastScenes.Proofs.Streamlabs.Tree
import BroadcastScenes.Proofs.XSplit.Assembly

/-!
# Distinct names

Items refer to records by name, so no two records of a collection may share one. Imports that append
never break this: every record that they add has a name that was free, and no record that was there
is renamed.
-/

namespace BroadcastScenes

theorem Content.areNew_additions (content : Content) (setting : Setting) (inUse : List String) :
    AreNew inUse ((content.additions setting inUse).records.map (·.name)) := by
  cases content with
  | presentation root => exact XSplit.areNew_additions setting inUse root
  | tree root => exact Streamlabs.areNew_additions inUse root
  | sceneText blocks => exact ObsClassic.areNew_additions setting.platform inUse blocks

theorem Content.nodup_recordNames_importInto (content : Content) (request : Request)
    {collection : Collection} (distinct : collection.recordNames.Nodup) :
    (content.importInto request collection).recordNames.Nodup := by
  rw [recordNames_importInto]
  exact (content.areNew_additions _ _).nodup_append distinct

/-! ## Runs of imports -/

def Program.afterImport (program : Program) (request : Request) (collection : Collection) :
    Collection :=
  match program.importFile request collection with
  | .ok result => result
  | .error _ => collection

def Collection.afterImports (collection : Collection) (imports : List (Program × Request)) :
    Collection :=
  imports.foldl (fun sofar step => step.1.afterImport step.2 sofar) collection

theorem Program.nodup_recordNames_afterImport {program : Program} (appends : program.Appends)
    (request : Request) {collection : Collection} (distinct : collection.recordNames.Nodup) :
    (program.afterImport request collection).recordNames.Nodup := by
  rw [afterImport, importFile_eq_map_read appends]
  cases Content.read program request.input with
  | error error => exact distinct
  | ok content => exact content.nodup_recordNames_importInto request distinct

theorem Collection.nodup_recordNames_afterImports {collection : Collection}
    (distinct : collection.recordNames.Nodup) {imports : List (Program × Request)}
    (append : ∀ step ∈ imports, step.1.Appends) :
    (collection.afterImports imports).recordNames.Nodup := by
  induction imports generalizing collection with
  | nil => exact distinct
  | cons step rest induction =>
      have first := step.1.nodup_recordNames_afterImport (append step List.mem_cons_self)
        step.2 distinct
      exact induction first fun later member => append later (List.mem_cons_of_mem _ member)

/-- An import that appends keeps the names that are there, each in its place, and keeps all names
pairwise different if they were. A run of such imports that starts with the empty collection
therefore never gives two records the same name. -/
theorem recordNames_stay_distinct :
    (∀ (program : Program) (request : Request) (collection result : Collection),
      program.Appends → collection.recordNames.Nodup →
      program.importFile request collection = .ok result →
      result.recordNames.Nodup ∧ collection.recordNames <+: result.recordNames) ∧
    ∀ imports : List (Program × Request), (∀ step ∈ imports, step.1.Appends) →
      (Collection.afterImports {} imports).recordNames.Nodup := by
  constructor
  · intro program request collection result appends distinct imported
    rcases program.importFile_eq_ok appends imported with ⟨content, _, rfl⟩
    refine ⟨content.nodup_recordNames_importInto request distinct, ?_⟩
    rw [Content.recordNames_importInto]
    exact List.prefix_append _ _
  · intro imports append
    have empty : (Collection.mk []).recordNames.Nodup := List.nodup_nil
    exact Collection.nodup_recordNames_afterImports empty append

def sameNamesRequest : Request where
  path := ⟨"/same.xconfig"⟩
  input := "scenes : \x7b\r\n Cam : \x7b\r\n  sources : \x7b\r\n   Cam : \x7b\r\n   \x7d\r\n" ++
    "  \x7d\r\n \x7d\r\n\x7d\r\n"

theorem recordNames_stay_distinct_same_names :
    let collection : Collection := ⟨[("sources", .array [.object [("name", .string "Cam")]])]⟩
    ∃ result, Program.obsClassic.importFile sameNamesRequest collection = .ok result ∧
      result.recordNames = ["Cam", "Cam 1", "Cam 0"] ∧
      (result.recordNames.Nodup ∧ collection.recordNames <+: result.recordNames) ∧
      (Collection.afterImports {} [(.obsClassic, sameNamesRequest),
        (.xsplitBroadcaster, sameNamesRequest),
        (.obsClassic, sameNamesRequest)]).recordNames.Nodup := by
  intro collection
  have names : (Program.obsClassic.importFile sameNamesRequest collection).map
      Collection.recordNames = .ok ["Cam", "Cam 1", "Cam 0"] := by decide +kernel
  rcases exists_of_map_eq_ok names with ⟨result, imported, resultNames⟩
  have kept := recordNames_stay_distinct.1 .obsClassic sameNamesRequest collection result
    (by decide) (by decide) imported
  have run := recordNames_stay_distinct.2
    [(.obsClassic, sameNamesRequest), (.xsplitBroadcaster, sameNamesRequest),
      (.obsClassic, sameNamesRequest)] (by decide)
  exact ⟨result, imported, resultNames, kept, run⟩

end BroadcastScenes
