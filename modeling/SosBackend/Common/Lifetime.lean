import Mathlib.Data.Nat.Notation

/-!
# The lifetime of session objects

Both servers keep their connections in session objects that the asynchronous
operations own and the managers only point to. A session object has an identity
for good; `weak_ptr::lock` on it succeeds while its lifetime is `alive`, which
goes on after `close` for as long as a handler holds the object.
-/

namespace SosBackend

/-- The identity of a session object. -/
abbrev SessionPtr := ℕ

inductive Lifetime
  | unborn
  | alive
  | expired
deriving DecidableEq, Repr

end SosBackend
