import BroadcastScenes.Path
import BroadcastScenes.ReadError

/-!
# Errors of imports

Why a file could not be imported, and the outcome that a user is told.
-/

namespace BroadcastScenes

inductive Status where
  | success
  | fileNotFound
  | fileNotRecognized
  | fileWontOpen
  | errorDuringConversion
  | unknownError
  deriving DecidableEq, Repr

def Status.text : Status → String
  | .success => "success"
  | .fileNotFound => "file not found"
  | .fileNotRecognized => "file not recognized"
  | .fileWontOpen => "file won't open"
  | .errorDuringConversion => "error during conversion"
  | .unknownError => "unknown error"

inductive ImportError where
  | fileNotFound (path : Path)
  | fileNotRecognized (path : Path)
  | fileWontOpen (path : Path) (reason : String)
  /-- The text could not be read. -/
  | conversion (error : ReadError)
  /-- The text was read but is not what a document of this kind has to be. -/
  | invalid (document fault : String)
  /-- The text is not JSON. -/
  | json
  | unknownProgram (name : String)
  deriving DecidableEq, Repr

namespace ImportError

def status : ImportError → Status
  | fileNotFound _ => .fileNotFound
  | fileNotRecognized _ => .fileNotRecognized
  | fileWontOpen _ _ => .fileWontOpen
  | conversion _ => .errorDuringConversion
  | invalid _ _ => .errorDuringConversion
  | json => .unknownError
  | unknownProgram _ => .unknownError

def message : ImportError → String
  | fileNotFound path => "File not found: " ++ path.text
  | fileNotRecognized path => "File not recognised: " ++ path.text
  | fileWontOpen path reason => "Could not open " ++ path.text ++ ": " ++ reason
  | conversion error => "Conversion error: " ++ error.message
  | invalid document fault => "Invalid " ++ document ++ " document: " ++ fault
  | json => "JSON error"
  | unknownProgram name => "Unknown format: " ++ name

end ImportError

end BroadcastScenes
