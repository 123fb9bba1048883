import ScimFilter.Pattern.CharSet
import ScimFilter.Text.GeneralCategory
import ScimFilter.Text.Script
import ScimFilter.Text.ScriptExtension
import ScimFilter.Text.Property
import ScimFilter.Text.Age
import ScimFilter.Text.Break.Grapheme
import ScimFilter.Text.Break.Word
import ScimFilter.Text.Break.Sentence
/-!
The classes named by `\p{..}`, by version 16.0 of the Unicode Character Database: a general
category (`L`, `Lu`, `Letter`, ...), a script (`Greek`, `Latn`, ...), a binary property
(`Alphabetic`, `White_Space`, ...), or a value of a property written `gc=Lu`, `sc:Greek` or
`sc!=Greek`. The properties with values are the general category (`gc`), the script (`sc`), the
script extensions (`scx`), the age (`age`, a version: the characters assigned up to it) and the
three segmentation properties (`gcb`, `wb`, `sb`).

Names match loosely: case, blanks, `_`, `-` and a leading `is` do not matter. A bare name is
tried as a binary property, then as a general category, then as a script; `cf`, `lc` and `sc`
are always general categories.
-/

namespace ScimFilter.Pattern

/-- The loose form of a name: without a leading `is`, blanks, `_`, `-` and non-ASCII characters,
in lower case. A leading `is` before a lone `c` is kept, so `isc` stays a name of its own. -/
def looseName (s : String) : String :=
  let cs := s.toList
  let (hadIs, cs) : Bool × List Char := match cs with
    | a :: b :: rest =>
      if (a == 'i' || a == 'I') && (b == 's' || b == 'S') then (true, rest) else (false, cs)
    | _ => (false, cs)
  let out := cs.filterMap fun c =>
    if c == ' ' || c == '_' || c == '-' || 0x80 ≤ c.toNat then none else some c.toLower
  if hadIs && out == ['c'] then "isc" else String.ofList out

/-- The index that a loose name has in an alias table. -/
def aliasIndex? (table : Array (String × Nat)) (name : String) : Option Nat :=
  (table.find? (·.1 == name)).map (·.2)

/-- The code points that have a general category other than unassigned. -/
def assigned : CharSet :=
  CharSet.normalize (Text.categoryRanges.toList.map fun (a, b, _) => (a, b))

def categorySet (short : String) : CharSet :=
  if short == "Cn" then CharSet.complement assigned
  else match Text.categoryNames.idxOf? short with
    | some i => CharSet.normalize (Text.categorySet i).toList
    | none => CharSet.empty

/-- The categories that make up each group of categories, with the group's loose names. -/
def categoryGroups : List (List String × List String) :=
  [(["l", "letter"], ["Lu", "Ll", "Lt", "Lm", "Lo"]),
   (["lc", "casedletter"], ["Lu", "Ll", "Lt"]),
   (["m", "mark", "combiningmark"], ["Mn", "Mc", "Me"]),
   (["n", "number"], ["Nd", "Nl", "No"]),
   (["p", "punctuation", "punct"], ["Pc", "Pd", "Ps", "Pe", "Pi", "Pf", "Po"]),
   (["s", "symbol"], ["Sm", "Sc", "Sk", "So"]),
   (["z", "separator"], ["Zs", "Zl", "Zp"]),
   (["c", "other"], ["Cc", "Cf", "Cs", "Co", "Cn"]),
   (["cn", "unassigned"], ["Cn"])]

/-- The class of a general category or group of categories, by loose name; `Any`, `Assigned`
and `ASCII` count as categories too. -/
def categoryClass? (name : String) : Option CharSet :=
  if name == "any" then some CharSet.any
  else if name == "assigned" then some assigned
  else if name == "ascii" then some #[(0, 0x7F)]
  else match categoryGroups.find? (fun g => g.1.contains name) with
    | some (_, members) => some (members.foldl (fun s m => s.union (categorySet m)) CharSet.empty)
    | none => (aliasIndex? Text.categoryAliases name).map fun i =>
      CharSet.normalize (Text.categorySet i).toList

def scriptClass? (name : String) : Option CharSet :=
  (aliasIndex? Text.scriptAliases name).map fun i => CharSet.normalize (Text.scriptSet i).toList

/-- The class of the characters whose script extensions include a script, by loose name. -/
def scriptExtensionClass? (name : String) : Option CharSet :=
  (aliasIndex? Text.scriptAliases name).map fun i =>
    CharSet.normalize (Text.scriptExtensionSet i).toList

/-- The class of a version, by loose name: the characters assigned in it or before it. -/
def ageClass? (name : String) : Option CharSet :=
  (aliasIndex? Text.ageAliases name).map fun i =>
    CharSet.normalize ((List.range (i + 1)).flatMap fun j => (Text.ageSet j).toList)

/-- The class of a value of a property given by its alias table and its sets, by loose name. -/
def valueSetClass? (aliases : Array (String × Nat)) (set : Nat → Text.RangeTable)
    (name : String) : Option CharSet :=
  (aliasIndex? aliases name).map fun i => CharSet.normalize (set i).toList

def binaryClass? (name : String) : Option CharSet :=
  (Text.Property.byLooseName? name).map fun t => CharSet.normalize t.toList

/-- The class of a bare name: a binary property, else a general category, else a script. -/
def bareClass? (name : String) : Option CharSet :=
  let loose := looseName name
  let asProperty := if loose == "cf" || loose == "sc" || loose == "lc" then none
    else binaryClass? loose
  match asProperty with
  | some s => some s
  | none =>
    match categoryClass? loose with
    | some s => some s
    | none => scriptClass? loose

/-- The class of a property value, both given by loose name. -/
def valueClass? (property value : String) : Option CharSet :=
  let p := looseName property
  let v := looseName value
  if p == "gc" || p == "generalcategory" then categoryClass? v
  else if p == "sc" || p == "script" then scriptClass? v
  else if p == "scx" || p == "scriptextensions" then scriptExtensionClass? v
  else if p == "age" then ageClass? v
  else if p == "gcb" || p == "graphemeclusterbreak" then
    valueSetClass? Text.graphemeBreakAliases Text.graphemeBreakSet v
  else if p == "wb" || p == "wordbreak" then
    valueSetClass? Text.wordBreakAliases Text.wordBreakSet v
  else if p == "sb" || p == "sentencebreak" then
    valueSetClass? Text.sentenceBreakAliases Text.sentenceBreakSet v
  else none

/-- The first split of a text at a separator, if the separator occurs. -/
def splitOnce (text sep : List Char) : Option (List Char × List Char) :=
  go [] text
where
  /-- Tries each position of `rest` in turn; `before` holds what was passed, latest first. -/
  go (before rest : List Char) : Option (List Char × List Char) :=
    if sep.isPrefixOf rest then some (before.reverse, rest.drop sep.length)
    else match rest with
      | c :: more => go (c :: before) more
      | [] => none

/-- The class named inside `\p{..}`, with whether the name itself asks for the complement
(written with `!=`). A name holding `!=` is split there; otherwise at its first `:` or `=`. -/
def propertyClass? (name : String) : Option (CharSet × Bool) :=
  let cs := name.toList
  match splitOnce cs ['!', '='] with
  | some (p, v) => (valueClass? (String.ofList p) (String.ofList v)).map (·, true)
  | none =>
    let p := cs.takeWhile fun c => c != ':' && c != '='
    match cs.drop p.length with
    | _ :: v => (valueClass? (String.ofList p) (String.ofList v)).map (·, false)
    | [] => (bareClass? name).map (·, false)

end ScimFilter.Pattern
