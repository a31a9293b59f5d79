import Mathlib.Control.Monad.Basic
import RemoteTail.Remote.Request

/-!
# Exchanges with an endpoint

An exchange is a read together with what came of it.  To see what is asked for, an
endpoint is made to note its exchanges beside its world; it answers as before.
-/

namespace RemoteTail

variable {σ : Type}

/-- A read and what came of it. -/
structure Exchange where
  /-- The read. -/
  request : Request
  /-- Its reply, unless it is outstanding. -/
  reply : Option Reply
deriving DecidableEq, Repr

namespace Endpoint

/-- The endpoint with a record of its exchanges, from the first to the last, beside its world. -/
def noting (endpoint : Endpoint (StateM σ)) : Endpoint (StateM (σ × List Exchange)) where
  read request := do
    let (world, record) ← get
    let (reply, world) := (endpoint.read request).run world
    set (world, record ++ [⟨request, reply⟩])
    return reply

theorem noting_read_run (endpoint : Endpoint (StateM σ)) (request : Request) (world : σ)
    (record : List Exchange) :
    (endpoint.noting.read request).run (world, record) =
      (((endpoint.read request).run world).1, ((endpoint.read request).run world).2,
        record ++ [⟨request, ((endpoint.read request).run world).1⟩]) :=
  rfl

end Endpoint

end RemoteTail
