import ScimFilter.Filter.Basic
import ScimFilter.Json
/-!
The JSON view of a syntax tree. Every node is an object with a `type` member naming its
constructor (`or`, `and`, `comparison`, `group`, `not`, `valuePath`); a path is an object with
`attribute`, `filter` and `subAttribute`. Members are listed with their keys in byte order.
A comparison has `value` unless its operator is `pr`, and a string value adds `dateTime`.
-/

namespace ScimFilter

def AttributePath.toJson (p : AttributePath) : Json :=
  .object [("name", .string p.name), ("schema", .ofOption p.schema),
    ("subAttribute", .ofOption p.subAttribute)]

/-- The literal as a JSON value; a double that is not finite has no JSON number and becomes
`null`. -/
def CompareValue.toJson : CompareValue → Json
  | .null => .null
  | .bool b => .bool b
  | .number x => if x.isFinite then .float x else .null
  | .string s => .string s

def Comparison.toJson (c : Comparison) : Json :=
  let valueMembers := match c.value with
    | none => [("operator", Json.string c.op.word), ("type", .string "comparison")]
    | some v@(.string _) =>
      [("dateTime", .bool v.isDateTime), ("operator", .string c.op.word),
        ("type", .string "comparison"), ("value", v.toJson)]
    | some v => [("operator", .string c.op.word), ("type", .string "comparison"),
        ("value", v.toJson)]
  .object (("attribute", c.attr.toJson) :: valueMembers)

mutual

def Expression.toJson : Expression → Json
  | .or left right =>
    .object [("left", left.toJson), ("right", right.toJson), ("type", .string "or")]
  | .term t => t.toJson

def Term.toJson : Term → Json
  | .and left right =>
    .object [("left", left.toJson), ("right", right.toJson), ("type", .string "and")]
  | .factor f => f.toJson

def Factor.toJson : Factor → Json
  | .comparison c => c.toJson
  | .group inner => .object [("expression", inner.toJson), ("type", .string "group")]
  | .not inner => .object [("expression", inner.toJson), ("type", .string "not")]
  | .valuePath attr filter =>
    .object [("attribute", attr.toJson), ("filter", filter.toJson), ("type", .string "valuePath")]

end

def Path.toJson (p : Path) : Json :=
  .object [("attribute", p.attr.toJson),
    ("filter", match p.filter with
      | some f => f.toJson
      | none => .null),
    ("subAttribute", .ofOption p.subAttribute)]

def Root.toJson : Root → Json
  | .filter e => e.toJson
  | .path p => p.toJson

end ScimFilter
