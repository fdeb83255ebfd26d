import MatrixGateway.Net.Ip
import MatrixGateway.Text.Numeral

/-!
# Bind addresses

Where to listen is written as host, colon and port; without a host it means
every interface. Accepting such a text and being able to bind it are two
things: the machine resolves the host and may refuse the port.
-/

set_option autoImplicit false

namespace MatrixGateway

namespace BindAddress

/-- A text that begins with its colon listens on all interfaces. -/
def normalize (s : String) : String :=
  match s.toList with
  | ':' :: _ => "0.0.0.0" ++ s
  | _ => s

def accepts (s : String) : Bool :=
  match Text.cutLast? ':' (normalize s).toList with
  | some (host, port) => host ≠ [] && (Numeral.port? port).isSome
  | none => false

end BindAddress

inductive BindFailure where
  | invalidSocketAddress
  | invalidPort
  | unknownHost
  | permissionDenied
  | inUse
  | notAvailable
  deriving DecidableEq

def BindFailure.message : BindFailure → String
  | .invalidSocketAddress => "invalid socket address"
  | .invalidPort => "invalid port value"
  | .unknownHost => "failed to lookup address information: Name or service not known"
  | .permissionDenied => "Permission denied (os error 13)"
  | .inUse => "Address already in use (os error 98)"
  | .notAvailable => "Cannot assign requested address (os error 99)"

structure Machine where
  lookup : String → List Ip
  owns : Ip → Bool
  reservedBelow : Nat
  occupied : List Socket
  freePort : UInt16

namespace Machine

def bind (m : Machine) (s : Socket) : Except BindFailure Socket :=
  if m.owns s.ip = false then .error .notAvailable
  else if s.port = 0 then .ok { s with port := m.freePort }
  else if s.port.toNat < m.reservedBelow then .error .permissionDenied
  else if m.occupied.any s.collides then .error .inUse
  else .ok s

def listening (m : Machine) (s : Socket) : Machine := { m with occupied := s :: m.occupied }

def bindFirst (m : Machine) (failure : BindFailure) : List Socket → Except BindFailure Socket
  | [] => .error failure
  | s :: ss =>
    match m.bind s with
    | .ok s => .ok s
    | .error f => bindFirst m f ss

/-- An address in full is bound as it is; otherwise the text before the last
colon is a host to look up. -/
def bindText (m : Machine) (s : String) : Except BindFailure Socket :=
  match Socket.parse? s.toList with
  | some socket => m.bind socket
  | none =>
    match Text.cutLast? ':' s.toList with
    | none => .error .invalidSocketAddress
    | some (host, port) =>
      match Numeral.port? port with
      | none => .error .invalidPort
      | some port =>
        m.bindFirst .unknownHost ((m.lookup (String.ofList host)).map fun ip => ⟨ip, port⟩)

end Machine

end MatrixGateway
