import RemoteTail.Cursor

/-!
# Block sequences

Repeated pulls as one sequence of blocks.  A sequence ends at the end of the
data or with the first error; a followed one waits at the end of the data and
pulls again.
-/

namespace RemoteTail

/-- Why a sequence of blocks stopped. -/
inductive Stop where
  /-- The data ended. -/
  | ended
  /-- As many blocks as were wanted have been taken. -/
  | limit
  /-- A pull failed. -/
  | failed (error : Error)
deriving DecidableEq, Repr

namespace Cursor

variable {m : Type → Type} [Monad m]

/-- Takes at most `limit` blocks, each by `next`. -/
def collect (next : Cursor → m (Option (Pulled × Cursor))) :
    (limit : Nat) → Cursor → m (Option (List Bytes × Stop × Cursor))
  | 0, c => return some ([], .limit, c)
  | limit + 1, c => do
    match ← next c with
    | none => return none
    | some (.error error, c) => return some ([], .failed error, c)
    | some (.ok none, c) => return some ([], .ended, c)
    | some (.ok (some block), c) =>
      let more ← collect next limit c
      return more.map fun (blocks, stop, c) => (block :: blocks, stop, c)

/-- The first blocks up to the end of the data. -/
def blocks (c : Cursor) (endpoint : Endpoint m) (limit : Nat) :
    m (Option (List Bytes × Stop × Cursor)) :=
  collect (·.pull endpoint) limit c

/-- Pulls until there is a block or an error.  In stream mode the end of the data is waited out up
to `patience` times, after which the pull is still not complete. -/
def pullPatiently (endpoint : Endpoint m) (wait : m Unit) :
    (patience : Nat) → Cursor → m (Option (Pulled × Cursor))
  | 0, _ => return none
  | patience + 1, c => do
    match ← c.pull endpoint with
    | some (.ok none, c) =>
      if c.config.stream then
        wait
        pullPatiently endpoint wait patience c
      else return some (.ok none, c)
    | pulled => return pulled

/-- The first blocks of a followed file, with a wait after each end of the data. -/
def followedBlocks (c : Cursor) (endpoint : Endpoint m) (patience limit : Nat)
    (wait : m Unit := pure ()) : m (Option (List Bytes × Stop × Cursor)) :=
  collect (pullPatiently endpoint wait patience) limit c

end Cursor

end RemoteTail
