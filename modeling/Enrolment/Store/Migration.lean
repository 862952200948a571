import Enrolment.Store.Statement

set_option autoImplicit false

namespace Enrolment

structure Database where
  table : Option Table := none
  applied : List String := []
  deriving Inhabited

namespace Database

def version : String := "20240108000000"

-- Runs the migration unless it is recorded, and counts what was run. It fails if it is told to, or
-- if there is a table already.
def migrate (database : Database) (fails : Bool) : Option (Nat × Database) :=
  if database.applied.contains version then some (0, database)
  else if fails || database.table.isSome then none
  else some (1, { table := some .empty, applied := database.applied ++ [version] })

end Database

end Enrolment
