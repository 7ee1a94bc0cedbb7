import InlineCache.Decimal.Layout
import InlineCache.Text.Quoted
import InlineCache.World

/-!
# The text of values

A value has a type name, a text for users, in which a string stands in single quotes as it is, and
a text for inspection, in which its parts are named and strings are quoted.

## Main definitions

* `Value.floatLayout`: how floats are written
* `World.typeName`, `World.describe`: the names that error messages use
* `World.display`: the text for users
* `World.inspect`: the text for inspection
-/

namespace InlineCache

/-- Floats from a ten-thousandth up to ten quadrillion are written positionally, with at least one
digit after the point; all others with an exponent. -/
def Value.floatLayout : Decimal.Layout where
  least := -4
  beyond := 16
  mark := "e"
  nan := "NaN"
  infinity := "inf"

namespace World

/-- What an error message calls an object that lacks an attribute. -/
def describe (world : World) : ObjectId → String
  | .inst i => world.className (world.classOf i)
  | .cls _ => "type"
  | .mod _ => "module"

/-- The name of the type of a value. -/
def typeName (world : World) : Value → String
  | .nothing => "NoneType"
  | .bool _ => "bool"
  | .int _ => "int"
  | .float _ => "float"
  | .str _ => "str"
  | .object o => world.describe o

/-- The text of a value for users. -/
def display (world : World) : Value → String
  | .nothing => "None"
  | .bool true => "True"
  | .bool false => "False"
  | .int n => toString n.toInt
  | .float bits => Value.floatLayout.write bits
  | .str s => "'" ++ s ++ "'"
  | .object (.inst i) => "<" ++ world.className (world.classOf i) ++ " object>"
  | .object (.cls c) => "<class '" ++ world.className c ++ "'>"
  | .object (.mod m) => "<module '" ++ (world.moduleObject m).name ++ "'>"

/-- The name of a record and its named parts. -/
def inspectRecord (name : String) (parts : List (String × String)) : String :=
  name ++ " \x7b " ++ ", ".intercalate (parts.map fun p => p.1 ++ ": " ++ p.2) ++ " \x7d"

/-- A name and the part it wraps. -/
def inspectWrapped (name part : String) : String := name ++ "(" ++ part ++ ")"

/-- The text of a truth value for inspection. -/
def inspectBool (b : Bool) : String := if b then "true" else "false"

/-- The text of a token for inspection. -/
def inspectAssumption (world : World) (a : Assumption) : String :=
  inspectRecord "Assumption"
    [("id", toString a.number), ("valid", inspectBool (world.holds a))]

/-- The text of a shape for inspection: its number only. -/
def inspectShape (shape : Shape) : String := inspectWrapped "ShapeId" (toString shape.id)

/-- The text of an object for inspection. -/
def inspectObject (world : World) : ObjectId → String
  | .inst i =>
    inspectWrapped "Instance" <| inspectRecord "PyInstance"
      [("class", Text.quoted (world.className (world.classOf i))),
        ("shape", inspectShape (world.layout (.inst i)))]
  | .cls c =>
    let superclass :=
      match world.superclass c with
      | none => "None"
      | some above => inspectWrapped "Some" (Text.quoted (world.className above))
    inspectWrapped "Class" <| inspectRecord "PyClass"
      [("name", Text.quoted (world.className c)),
        ("id", inspectWrapped "ClassId" (toString c.number)),
        ("superclass", superclass),
        ("shape", inspectShape (world.layout (.cls c))),
        ("assumption", world.inspectAssumption (world.currentAssumption c))]
  | .mod m =>
    inspectWrapped "Module" <| inspectRecord "PyModule"
      [("name", Text.quoted (world.moduleObject m).name),
        ("len", toString (world.attributes (.mod m)).size)]

/-- The text of a value for inspection. -/
def inspect (world : World) : Value → String
  | .nothing => "None"
  | .bool b => inspectWrapped "Bool" (inspectBool b)
  | .int n => inspectWrapped "Int" (toString n.toInt)
  | .float bits => inspectWrapped "Float" (Value.floatLayout.write bits)
  | .str s => inspectWrapped "Str" (Text.quoted s)
  | .object o => world.inspectObject o

end World

end InlineCache
