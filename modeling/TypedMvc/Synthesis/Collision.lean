import TypedMvc.Model.Controller
import TypedMvc.Naming.Identifier
import TypedMvc.Settings.Config

/-!
# Controllers with the same name

The class with a field for each controller can only be generated if no two of these fields have
the same name and none is called like the class itself.
-/

namespace TypedMvc.Synthesis

open Model Naming

/-- Two things for which a field of the same name would be generated. -/
structure Collision where
  /-- The name of the field. -/
  field : String
  /-- What has the name already. -/
  first : String
  /-- The controller that would get it too. -/
  second : String
  deriving Repr, DecidableEq, Inhabited

/-- The message for a collision. -/
def Collision.message (collision : Collision) : String :=
  "controller name collision: `" ++ collision.first ++ "` and `" ++ collision.second ++
    "` both generate field `" ++ collision.field ++ "`"

/-- The name of the field for a controller. -/
def fieldNameOf (controller : Controller) : String := memberIdentifier controller.name

/-- The first collision among controllers behind some that are already seen. -/
def collisionFrom (helpersPrefix : String) (seen : List Controller) :
    List Controller → Option Collision
  | [] => none
  | controller :: rest =>
    let field := fieldNameOf controller
    if field = helpersPrefix then
      some ⟨field, helpersPrefix, controller.qualifiedReference⟩
    else
      match seen.find? fun earlier => fieldNameOf earlier == field with
      | some earlier =>
        some ⟨field, earlier.qualifiedReference, controller.qualifiedReference⟩
      | none => collisionFrom helpersPrefix (controller :: seen) rest

/-- The first collision among controllers, if there is one. -/
def collision? (controllers : List Controller) (settings : Settings.Generation) :
    Option Collision :=
  collisionFrom settings.helpersPrefix [] controllers

end TypedMvc.Synthesis
