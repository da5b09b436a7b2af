import SceneEditor.Material.Bill
import SceneEditor.Session.Basic

namespace SceneEditor.Session

/-!
# Materials

Materials are added and edited, armed for building, and billed.
-/

/-- Add a white material to the catalog. -/
def addMaterial (session : Session) : Outcome Material :=
  let (catalog, material) := session.catalog.addMaterial
  { result := material, session := { session with catalog } }

/-- Edit a field of a material in the catalog. -/
def updateMaterial (session : Session) (id field : String) (value : Json) :
    Outcome (Except Catalog.EditError Bool) :=
  match session.catalog.update id field value with
  | .error error => session.only (.error error)
  | .ok (catalog, changed) => { result := .ok changed, session := { session with catalog } }

/-- The bill of the catalog for the connections of the world. -/
def bill (session : Session) : Except NumberError Bill :=
  Bill.of session.catalog session.world.connections session.world.points

/-- Arm a material of the catalog, or disarm it; tells whether something is armed. -/
def toggleBuild (session : Session) (material : Material) :
    Outcome (Except BuildMode.DuplicateError Bool) :=
  match session.build.toggle session.catalog material with
  | .error error => session.only (.error error)
  | .ok build => { result := .ok build.isArmed, session := { session with build } }

/-- Arm the material of an identifier; a duplicate is refused with a note. -/
def selectBuild (session : Session) (id : String) : Outcome Bool :=
  match session.catalog.get? id with
  | none => session.only false
  | some material =>
      match session.build.toggle session.catalog material with
      | .ok build => { result := build.isArmed, session := { session with build } }
      | .error error =>
          {
            result := false
            session
            effects := [.noted {
              level := .warning
              message := "Cannot build with duplicate material: " ++ error.message
            }]
          }

/-- Leave the build mode. -/
def disarm (session : Session) : Session :=
  { session with build := {} }

/-- Click on a point, and send the connection that it makes in build mode. -/
def click (session : Session) (pointId : Int) : Outcome (Option Command) :=
  let (build, command?) := session.build.click pointId
  { session with build }.sending command?

/-- The material that is being built with. -/
def activeMaterial? (session : Session) : Option Material :=
  session.build.activeMaterial? session.catalog

end SceneEditor.Session
