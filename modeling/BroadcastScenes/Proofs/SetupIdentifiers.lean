import BroadcastScenes.Source.Record
import BroadcastScenes.Source.Setup

/-!
# Identifiers of setups

What comes from another application gets the identifier that the platform prefers for its kind, or
one that is the same on all platforms. Either way it is no scene, and no platform other than its own
has a claim to it.
-/

namespace BroadcastScenes.Source

/-- The identifiers that do not depend on the platform. The empty one is that of a source without a
counterpart. -/
def commonIds : List String :=
  ["", "image_source", "slideshow", "browser_source", "vlc_source", "ndi_source", "ffmpeg_source"]

def IsSetupId (platform : Platform) (id : String) : Prop :=
  (∃ kind : Kind, kind.isNative id platform = true) ∨ id ∈ commonIds

def IsNativeId (platform : Platform) (id : String) : Prop :=
  ∀ kind, Kind.ofId? id = some kind → kind.isNative id platform = true

theorem isNativeId_of_isNative {kind : Kind} {platform : Platform} {id : String}
    (native : kind.isNative id platform = true) : IsNativeId platform id := by
  intro other isOther
  have sameKind := (Kind.ofId?_of_isNative native).symm.trans isOther
  exact Option.some.inj sameKind ▸ native

theorem isNativeId_of_ofId?_eq_none {id : String} (platform : Platform)
    (unknown : Kind.ofId? id = none) : IsNativeId platform id := by
  intro kind isKind
  rw [unknown] at isKind
  cases isKind

theorem isNativeId_sceneId (platform : Platform) : IsNativeId platform sceneId :=
  isNativeId_of_ofId?_eq_none platform (by decide)

theorem isSetupId_of_common {id : String} (platform : Platform) (member : id ∈ commonIds) :
    IsSetupId platform id := .inr member

theorem Setup.isSetupId_of_ofKind? {kind : Kind} {platform : Platform} {settings : Members}
    {setup : Setup} (found : ofKind? kind platform settings = some setup) :
    IsSetupId platform setup.id := .inl ⟨kind, isNative_of_ofKind? found⟩

namespace IsSetupId

variable {platform : Platform} {id : String}

theorem isNativeId (isSetup : IsSetupId platform id) : IsNativeId platform id := by
  rcases isSetup with ⟨kind, native⟩ | common
  · exact isNativeId_of_isNative native
  · have unknown : ∀ id ∈ commonIds, Kind.ofId? id = none := by decide
    exact isNativeId_of_ofId?_eq_none platform (unknown id common)

theorem ne_sceneId (isSetup : IsSetupId platform id) : id ≠ sceneId := by
  rintro rfl
  rcases isSetup with ⟨kind, native⟩ | common
  · exact absurd (Kind.ofId?_of_isNative native) (by cases kind <;> decide)
  · exact absurd common (by decide)

end IsSetupId

end BroadcastScenes.Source
