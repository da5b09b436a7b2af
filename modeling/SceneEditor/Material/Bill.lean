import SceneEditor.Material.Catalog

namespace SceneEditor

/-!
# The bill of materials

The bill has one row for each material in catalog order: the length of all connections of its key
and what they cost.  A connection whose endpoints are not both known has no length.
-/

/-- One row of the bill. -/
structure BillRow where
  material : Material
  length : Binary64
  cost : Binary64
  isDuplicate : Bool
  deriving Repr

/-- The bill of materials. -/
structure Bill where
  rows : List BillRow
  total : Binary64
  deriving Repr

namespace Bill

/-- The square of a number; a finite number must have a finite one. -/
def square (value : Binary64) : Except NumberError Binary64 :=
  match value.isFinite, value.mul value with
  | true, .infinity _ => .error .squareTooLarge
  | _, product => .ok product

/-- How far two points are from each other. -/
def distance (first second : Point) : Except NumberError Binary64 := do
  let x ← square (second.x.sub first.x)
  let y ← square (second.y.sub first.y)
  let z ← square (second.z.sub first.z)
  return ((x.add y).add z).sqrt

/-- The length of a connection, if both of its endpoints are known. -/
def length? (points : List Point) (connection : Connection) :
    Except NumberError (Option Binary64) :=
  match Point.last? points connection.fromId, Point.last? points connection.toId with
  | some first, some second => some <$> distance first second
  | _, _ => .ok none

/-- The sum of numbers from left to right. -/
def sum (values : List Binary64) : Binary64 :=
  values.foldl Binary64.add 0

/-- The keys and the lengths of the connections that have one. -/
def measured
    (points : List Point)
    (connections : List Connection) :
    Except NumberError (List (MaterialKey × Binary64)) := do
  let lengths ← connections.mapM fun connection => do
    return (← length? points connection).map fun length => (connection.key, length)
  return lengths.filterMap id

/-- What a material costs per unit; a zero of either sign is the positive one. -/
def unitPrice (material : Material) : Binary64 :=
  if material.price.equals 0 then 0 else material.price

/-- The row of a material: the connections of its key, summed up in their order, and the price of
that length. -/
def row (catalog : Catalog) (lengths : List (MaterialKey × Binary64)) (material : Material) :
    BillRow :=
  let length := sum ((lengths.filter fun (key, _) => key.agrees material.key).map Prod.snd)
  {
    material, length
    cost := length.mul (unitPrice material)
    isDuplicate := catalog.isDuplicate material
  }

/-- The bill of a catalog for the connections between some points. -/
def of (catalog : Catalog) (connections : List Connection) (points : List Point) :
    Except NumberError Bill := do
  let lengths ← measured points connections
  let rows := catalog.materials.map (row catalog lengths)
  return { rows, total := sum (rows.map BillRow.cost) }

end Bill

end SceneEditor
