import Thesaurus.OrderedMap
import Thesaurus.Text.Basic

/-!
# JSON values

A number is kept as it is written, so that reading and writing lose no digit; the members of an
object keep their order.
-/

set_option autoImplicit false

namespace Thesaurus

inductive Json where
  | null
  | bool (b : Bool)
  | number (literal : Text)
  | string (t : Text)
  | array (items : List Json)
  | object (members : List (Text × Json))
deriving Repr

namespace Json

instance : Inhabited Json := ⟨.null⟩

def ofInt (n : Int) : Json :=
  .number (if n < 0 then '-' :: Text.ofNat n.natAbs else Text.ofNat n.natAbs)

/-- An integer of more digits than this is neither written nor read. -/
def digitLimit : Nat := 4300

/-- The value of a member; of members with one name the last counts. -/
def member? (name : Text) : Json → Option Json
  | .object members => (OrderedMap.ofList members).get? name
  | _ => none

end Json

end Thesaurus
