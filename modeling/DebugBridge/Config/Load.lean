import DebugBridge.Config.Settings
import DebugBridge.Redaction.Quotes
import DebugBridge.Text.Utf8
import DebugBridge.Toml.Decode
import DebugBridge.Toml.Read

/-!
# Loading configurations

A configuration is a TOML document.  What a user wrote there is kept out of the texts of errors.
-/

namespace DebugBridge

inductive ConfigFault
  /-- The file cannot be read. -/
  | unreadable (path : String) (reason : String)
  /-- The text is no TOML. -/
  | malformed
  /-- The document holds something it should not; the text quotes nothing of it. -/
  | rejected (text : String)
deriving DecidableEq

def ConfigFault.message : ConfigFault → String
  | .unreadable path reason => "failed to read config file " ++ path ++ ": " ++ reason
  | .malformed => "failed to parse toml config: not a TOML document"
  | .rejected text => "failed to parse toml config: " ++ text

/-- What is at a path. -/
inductive FileContent
  | bytes (content : List UInt8)
  /-- Nothing that can be read, and why. -/
  | unreadable (reason : String)

namespace FileContent

def missing : FileContent := .unreadable "No such file or directory (os error 2)"

def directory : FileContent := .unreadable "Is a directory (os error 21)"

end FileContent

namespace AdapterConfig

/-- The fault for a mismatch, with its quotations redacted. -/
def rejection (mismatch : Mismatch) : ConfigFault :=
  .rejected (Redaction.configuration mismatch.message)

def ofToml (document : Toml) : Except ConfigFault AdapterConfig :=
  match TomlDecoder.run decoder document with
  | .ok config => .ok config
  | .error mismatch => .error (rejection mismatch)

/-- Reads a configuration from a text. -/
def load (text : String) : Except ConfigFault AdapterConfig :=
  match Toml.parse? text with
  | some document => ofToml document
  | none => .error .malformed

/-- Reads a configuration from a file. -/
def loadFile (path : String) : FileContent → Except ConfigFault AdapterConfig
  | .unreadable reason => .error (.unreadable path reason)
  | .bytes content =>
    match Text.decodeUtf8? content with
    | some text => load text
    | none => .error (.unreadable path "stream did not contain valid UTF-8")

end AdapterConfig

end DebugBridge
