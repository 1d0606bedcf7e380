import ShadowLint.Order.Bisection
import ShadowLint.Scan

/-!
# Suppression rules

Two rules of thumb that quiet the check.  A variable to which every write is read again is in active
use, so hiding the outer one is presumed to be meant; and an outer variable that is not used on any
later line can be hidden without harm.
-/

namespace ShadowLint
namespace Suppression

/-- Whether a write behind a declaration is never read: no use of the variable comes after it and
outside the statement that writes.  The uses ascend. -/
def isUnread (declaration : Int) (uses : List Int) (write : Write) : Bool :=
  decide (declaration < write.position) &&
    (entriesAfter uses (max write.position declaration)).all fun use => decide (write.Encloses use)

/-- Whether every write to a variable behind its declaration is read. -/
def allRead (writes : List Write) (declaration : Int) (uses : List Int) : Bool :=
  !writes.any (isUnread declaration uses)

/-- Whether an outer variable is used behind a declaration and on another line. -/
def isUsedLater (outerUses : List Int) (declaration : Int) (lineOf : Int → Nat) : Bool :=
  (entriesAfter outerUses declaration).any fun use => lineOf use != lineOf declaration

end Suppression
end ShadowLint
