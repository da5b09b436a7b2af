import SceneEditor.Color.Basic
import SceneEditor.Json.Numeric
import SceneEditor.World.Basic

namespace SceneEditor

/-!
# The catalog of materials

The server knows only the color and the thickness of a connection.  The catalog names and prices
these pairs.  It grows by one material for every pair that it does not hold yet, and no
material ever leaves it or changes its place.  Colors are compared in normalized form.
-/

/-- A named and priced kind of connection. -/
structure Material where
  id : String
  name : String
  color : String
  thickness : Num
  price : Binary64 := 0
  deriving DecidableEq, Repr

/-- What makes two materials, or a material and a connection, the same. -/
structure MaterialKey where
  color : String
  thickness : Num
  deriving DecidableEq, Repr

/-- The keys have one color, and thicknesses that are equal or both no numbers. -/
def MaterialKey.agrees (left right : MaterialKey) : Bool :=
  left.color == right.color && left.thickness.agrees right.thickness

/-- The key of a color and a thickness; the color is compared in its normal form. -/
def MaterialKey.of (color : String) (thickness : Num) : MaterialKey where
  color := Color.normalize color
  thickness := thickness

/-- The key of a material, by which connections are counted to it. -/
def Material.key (material : Material) : MaterialKey :=
  .of material.color material.thickness

/-- The key of a connection. -/
def Connection.key (connection : Connection) : MaterialKey :=
  .of connection.color (.real connection.thickness)

/-- The fields of a material that can be edited. -/
inductive MaterialField where
  | name
  | color
  | thickness
  | price
  deriving DecidableEq, Repr

/-- The field of a name. -/
def MaterialField.ofName? : String → Option MaterialField
  | "name" => some name
  | "color" => some color
  | "thickness" => some thickness
  | "price" => some price
  | _ => none

/-- The number of the next identifier, and the materials in the order in which they came. -/
structure Catalog where
  nextId : Nat := 1
  materials : List Material := []
  deriving Repr

/-- The identifier of a number: eight digits, or more if the number has more. -/
def identifier (number : Nat) : String :=
  let digits := Nat.toDigits 10 number
  String.ofList (List.replicate (8 - digits.length) '0' ++ digits)

namespace Catalog

/-- How many materials there are. -/
def size (catalog : Catalog) : Nat :=
  catalog.materials.length

/-- The material of an identifier. -/
def get? (catalog : Catalog) (id : String) : Option Material :=
  catalog.materials.find? fun material => material.id == id

/-- The first material of a name, in whatever case it is written. -/
def findName? (catalog : Catalog) (name : String) : Option Material :=
  let wanted := lowered (trimmed name)
  catalog.materials.find? fun material => lowered material.name == wanted

/-- The first material of a key. -/
def findKey? (catalog : Catalog) (key : MaterialKey) : Option Material :=
  catalog.materials.find? fun material => material.key.agrees key

/-- The first material of a color and a thickness that a user asks for; no number finds none. -/
def find? (catalog : Catalog) (color : String) (thickness : Num) : Option Material :=
  if thickness.isNan then none
  else catalog.findKey? (.of color thickness)

/-- Add a material of the next identifier and of a name by its place. -/
def push (catalog : Catalog) (color : String) (thickness : Num) : Catalog × Material :=
  let material : Material := {
    id := identifier catalog.nextId
    name := "Material " ++ toString (catalog.size + 1)
    color, thickness
  }
  ({ nextId := catalog.nextId + 1, materials := catalog.materials ++ [material] }, material)

/-- Add the material of a connection unless its key is there. -/
def noteConnection (catalog : Catalog) (connection : Connection) : Catalog :=
  match catalog.findKey? connection.key with
  | some _ => catalog
  | none => (catalog.push connection.color (.real connection.thickness)).1

/-- Add a material for every key among the connections that is not there. -/
def noteConnections (catalog : Catalog) (connections : List Connection) : Catalog :=
  connections.foldl noteConnection catalog

/-- The smallest integer from two on that is the thickness of no white material. -/
def freeThickness (catalog : Catalog) : Int :=
  let candidates := (List.range (catalog.size + 1)).map fun extra => ((extra + 2 : Nat) : Int)
  (candidates.find? fun thickness =>
    (catalog.findKey? (.of Color.white (.int thickness))).isNone).getD (catalog.size + 3)

/-- Add a white material of the smallest free thickness. -/
def addMaterial (catalog : Catalog) : Catalog × Material :=
  catalog.push Color.white (.int catalog.freeThickness)

/-- Change the first material of an identifier. -/
def modify (catalog : Catalog) (id : String) (change : Material → Material) : Catalog :=
  let rec go : List Material → List Material
    | [] => []
    | material :: rest =>
        if material.id == id then change material :: rest
        else material :: go rest
  { catalog with materials := go catalog.materials }

/-- Why an edit failed. -/
inductive EditError where
  | unknownField (name : String)
  | number (error : NumberError)
  deriving DecidableEq, Repr

/-- The wording of an error. -/
def EditError.message : EditError → String
  | unknownField name => "Unknown material field: " ++ name
  | number error => error.message

/-- The change that an edit makes, if the value is acceptable for the field. -/
def change?
    (field : MaterialField)
    (value : Json) :
    Except NumberError (Option (Material → Material)) :=
  match field with
  | .name => do
      let name ← value.toText
      return some fun material => { material with name }
  | .color => do
      let color ← value.toText
      return some fun material => { material with color }
  | .thickness => do
      match ← value.typed? with
      | some real =>
          if Binary64.lt 0 real then
            return some fun material => { material with thickness := .real real }
          else value.discarded
      | none => value.discarded
  | .price => do
      let price := (← value.typed?).getD 0
      return some fun material => { material with price }

/--
Edit one field of a material.  A thickness that is not a positive number is discarded, a price
that is not a number counts as nothing.
-/
def update
    (catalog : Catalog)
    (id fieldName : String)
    (value : Json) :
    Except EditError (Catalog × Bool) :=
  match MaterialField.ofName? fieldName with
  | none => .error (.unknownField fieldName)
  | some field =>
      if (catalog.get? id).isNone then .ok (catalog, false)
      else
        match change? field value with
        | .error error => .error (.number error)
        | .ok none => .ok (catalog, false)
        | .ok (some change) => .ok (catalog.modify id change, true)

/-- Another material has the key of this one. -/
def isDuplicate (catalog : Catalog) (material : Material) : Bool :=
  catalog.materials.any fun other =>
    other.id != material.id && other.key.agrees material.key

end Catalog

end SceneEditor
