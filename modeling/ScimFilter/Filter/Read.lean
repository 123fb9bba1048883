import ScimFilter.Lexer.Scim
import ScimFilter.Filter.Grammar
import ScimFilter.Filter.Render
/-!
Reading filters and paths from text: scan the text into tokens, then read the tokens by the
grammar from the production the mode names, then require that no token is left.

A reader is a mode and a version. Paths exist only in version 2, so a reader for paths in
version 1 is refused.
-/

namespace ScimFilter

/-- A reader of filters or paths of one grammar version. -/
structure Reader where
  mode : Mode
  version : Version
  deriving DecidableEq, Repr

namespace Reader

/-- A reader for a mode and a version; paths need version 2. -/
def new (mode : Mode) (version : Version) : Except FilterError Reader :=
  if mode == .path && !version.supportsValueFilters then .error (.configuration .pathNeedsVersion2)
  else .ok ⟨mode, version⟩

/-- A reader of filters, which every version has. -/
def forFilters (version : Version) : Reader := ⟨.filter, version⟩

/-- Filters of version 2. -/
instance : Inhabited Reader := ⟨forFilters .v2⟩

end Reader

def tokenize (version : Version) (input : String) : Except FilterError (List (Token TokenKind)) :=
  (Lexer.scimScan version input).mapError FilterError.ofUnknownToken

def Grammar.Context.of (version : Version) (input : String) : Grammar.Context :=
  ⟨version, input.utf8ByteSize⟩

def readFilter (input : String) (version : Version) : Except FilterError Expression := do
  let ts ← tokenize version input
  Grammar.filter (.of version input) ts

/-- Reads the path of a change; only version 2 has paths. -/
def readPath (input : String) (version : Version) : Except FilterError Path := do
  let _ ← Reader.new .path version
  let ts ← tokenize version input
  Grammar.wholePath (.of version input) ts

def Reader.read (r : Reader) (input : String) : Except FilterError Root :=
  match r.mode with
  | .filter => Root.filter <$> readFilter input r.version
  | .path => do
    let ts ← tokenize r.version input
    Root.path <$> Grammar.wholePath (.of r.version input) ts

/-- Whether reading the canonical text of a tree again gives an equal tree. -/
def Reader.rereads (r : Reader) (root : Root) : Bool :=
  match r.read root.render with
  | .ok again => again == root
  | .error _ => false

end ScimFilter
