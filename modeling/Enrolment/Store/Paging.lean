import Enrolment.Failure

set_option autoImplicit false

namespace Enrolment

structure Page where
  start : Nat
  size : Nat
  deriving Repr, DecidableEq

namespace Page

def stop (page : Page) : Nat := page.start + page.size

-- The page at an offset among so many entries. A limit that runs past the end is cut; an offset
-- past the end and an empty limit are out of range.
def bounds (size : Nat) (offset limit : Option Nat) : Except StoreError Page :=
  let start := offset.getD 0
  if start > size || limit = some 0 then .error (.outOfRange start limit size)
  else .ok ⟨start, (limit.getD size).min (size - start)⟩

def cut {α : Type} (page : Page) (entries : List α) : List α :=
  (entries.drop page.start).take page.size

end Page

end Enrolment
