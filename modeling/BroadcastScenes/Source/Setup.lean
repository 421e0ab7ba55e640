import BroadcastScenes.Source.Kind
import BroadcastScenes.Value.Basic

/-!
# Setups

What a source of another application becomes in a scene collection: an identifier, and the settings
that go with it. The identifiers of most kinds depend on the platform, and a platform may have none.
-/

namespace BroadcastScenes.Source

structure Setup where
  id : String
  settings : Members := []

def Setup.ofKind? (kind : Kind) (platform : Platform) (settings : Members) : Option Setup :=
  (kind.id? platform).map fun id => ⟨id, settings⟩

theorem Setup.isNative_of_ofKind? {kind : Kind} {platform : Platform} {settings : Members}
    {setup : Setup} (found : Setup.ofKind? kind platform settings = some setup) :
    kind.isNative setup.id platform = true := by
  obtain ⟨id, preferred, rfl⟩ := Option.map_eq_some_iff.mp found
  exact Kind.isNative_of_id? preferred

def fileEntry (path : String) : Value := .object [("value", .string path)]

end BroadcastScenes.Source
