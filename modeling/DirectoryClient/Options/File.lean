import DirectoryClient.Options.Reader

namespace DirectoryClient.Options

inductive FileState where
  | missing
  | directory
  | contents (bytes : List UInt8)
deriving DecidableEq, Repr

def load : FileState → Except OptionsError Options
  | .missing => .error .unreadable
  | .directory => .error .unreadable
  | .contents bytes =>
      match Text.ofUtf8? bytes with
      | none => .error .unreadable
      | some text => ofText text

def joinPath (base part : String) : String :=
  if base.isEmpty || base.endsWith "/" then base ++ part else base ++ "/" ++ part

/-- The path of a user's options below the user's configuration directory, if there is one. -/
def userPath (configuration : Option String) : Option String :=
  configuration.map fun base => joinPath (joinPath base "dirwire") "dirwire.toml"

/-- Reads the options of a user. A user without a file has the default options. -/
def loadUser (configuration : Option String) (find : String → FileState) :
    Except OptionsError Options :=
  match (userPath configuration).map find with
  | none => .ok {}
  | some .missing => .ok {}
  | some file => load file

end DirectoryClient.Options
