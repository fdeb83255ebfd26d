import MatrixGateway.Bytes

/-!
# Request bodies

A body comes as a whole, or as a stream of pieces with waits between them
that may break off. Reading it settles at a time, in nanoseconds from its
start: with all its bytes, or with nothing as soon as it breaks off or more
bytes have come than are allowed.
-/

set_option autoImplicit false

namespace MatrixGateway.Http

inductive Chunk where
  | data (bytes : Bytes)
  | wait (nanos : Nat)
  | breakOff
  deriving DecidableEq

inductive Body where
  | whole (bytes : Bytes)
  | stream (chunks : List Chunk)
  deriving DecidableEq

namespace Body

def chunks : Body → List Chunk
  | whole bytes => [.data bytes]
  | stream cs => cs

/-- Reads on at `time` with the bytes `taken`; none are allowed beyond `limit`. -/
def readChunks (limit : Option Nat) (time : Nat) (taken : Bytes) : List Chunk → Nat × Option Bytes
  | [] => (time, some taken)
  | .wait nanos :: cs => readChunks limit (time + nanos) taken cs
  | .breakOff :: _ => (time, none)
  | .data bytes :: cs =>
    if limit.any (· < taken.length + bytes.length) then (time, none)
    else readChunks limit time (taken ++ bytes) cs

def read (limit : Option Nat) (b : Body) : Nat × Option Bytes := readChunks limit 0 [] b.chunks

end Body

end MatrixGateway.Http
