import ServiceDiscovery.Settings.Source
import ServiceDiscovery.Yaml.Document

/-!
Settings from a file, with the reader for documents that this library has.
-/
namespace ServiceDiscovery.Settings

def loadFile (files : Files) (path : String) (overrides : List (Value × Value)) :
    Except SourceError Config :=
  loadWith Yaml.readBytes files path overrides

end ServiceDiscovery.Settings
