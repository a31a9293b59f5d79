import RemoteTail.Remote.Header

/-!
# Read configurations

How a cursor reads: where it starts, how many lines it hands out, whether it
goes on at the end of the file, and in which windows it reads.
-/

namespace RemoteTail

/-- Where a cursor starts. -/
inductive Direction where
  /-- At the first octet. -/
  | topToBottom
  /-- At the last lines, as many as the limit says. -/
  | bottomToTop
deriving DecidableEq, Repr

/-- The octets that are asked for in one read, unless another number is given. -/
def defaultChunkSize : Nat :=
  65536

/-- A line limit that no file reaches, the greatest 64-bit number. -/
def unlimited : Nat :=
  0xFFFFFFFFFFFFFFFF

/-- How a cursor reads. -/
structure ReadConfig where
  /-- Where to start. -/
  direction : Direction := .topToBottom
  /-- The line limit, and the number of last lines to start at. -/
  maxLines : Nat := unlimited
  /-- Whether reading goes on past the limit and past the end of the file. -/
  stream : Bool := false
  /-- Headers of every request. -/
  headers : Headers := ∅
  /-- The octets that are asked for in one read. -/
  chunkSize : Nat := defaultChunkSize
deriving DecidableEq, Repr

namespace ReadConfig

/-- The configuration with a header set. -/
def header (config : ReadConfig) (name value : String) : ReadConfig :=
  { config with headers := config.headers.insert name value }

/-- The configuration with further headers set. -/
def withHeaders (config : ReadConfig) (headers : Headers) : ReadConfig :=
  { config with headers := config.headers.extend headers }

/-- The limit and the window have to be positive. -/
def validate (config : ReadConfig) : Except Error Unit :=
  if config.maxLines = 0 then .error .invalidMaxLines
  else if config.chunkSize = 0 then .error .invalidChunkSize
  else .ok ()

end ReadConfig

end RemoteTail
