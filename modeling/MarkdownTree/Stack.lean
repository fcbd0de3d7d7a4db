/-!
# The stack

What calls itself for every level of its input takes room on the stack, and the room can run out.
A limit is the number of calls that can be active below the outermost one, or none for any number.
-/

namespace MarkdownTree

/-- The stack that there is if nothing else is said. -/
def usualStackLimit : Option Nat := some 1000

/-- Whether a stack has room for that many calls. -/
def fitsStack (stackLimit : Option Nat) (calls : Nat) : Bool := stackLimit.all (calls ≤ ·)

end MarkdownTree
