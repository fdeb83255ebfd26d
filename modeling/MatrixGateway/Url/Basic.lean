import MatrixGateway.Url.Host
import MatrixGateway.Url.Segments

/-!
# URLs

A URL is a scheme, perhaps a server, a path, perhaps a query and a
fragment, each as it is written in the URL's text. The path of a URL
without slashes is a text of its own kind.
-/

set_option autoImplicit false

namespace MatrixGateway

namespace Url

structure Server where
  user : List Char := []
  password : List Char := []
  /-- None where the text has slashes for a server but nothing behind them. -/
  host : Option Host
  port : Option UInt16 := none
  deriving DecidableEq

inductive Path where
  | bare (text : List Char)
  | segments (list : List (List Char))
  deriving DecidableEq

end Url

structure Url where
  scheme : List Char
  server : Option Url.Server := none
  path : Url.Path := .segments []
  query : Option (List Char) := none
  fragment : Option (List Char) := none
  deriving DecidableEq

namespace Url

def portText (port : UInt16) : List Char := Nat.toDigits 10 port.toNat

namespace Server

def userInfo (s : Server) : List Char :=
  if s.user = [] ∧ s.password = [] then []
  else s.user ++ (if s.password = [] then [] else ':' :: s.password) ++ ['@']

def authority (s : Server) : List Char :=
  (s.host.map Host.text).getD [] ++ ((s.port.map fun p => ':' :: portText p).getD [])

def text (s : Server) : List Char := s.userInfo ++ s.authority

end Server

def Path.text : Path → List Char
  | bare text => text
  | segments list => Segments.text list

def host? (u : Url) : Option Host := u.server.bind (·.host)

def port? (u : Url) : Option UInt16 := u.server.bind (·.port)

def isHttp (u : Url) : Bool := u.scheme = "http".toList || u.scheme = "https".toList

/-- What stands between the scheme and the path. A path that begins with two
slashes is kept apart from a server's place. -/
def lead (u : Url) : List Char :=
  match u.server with
  | some s => '/' :: '/' :: s.text
  | none => if ['/', '/'].isPrefixOf u.path.text then ['/', '.'] else []

def text (u : Url) : List Char :=
  u.scheme ++ ':' :: u.lead ++ u.path.text ++ ((u.query.map ('?' :: ·)).getD []) ++
    ((u.fragment.map ('#' :: ·)).getD [])

def withoutUser (u : Url) : Url :=
  { u with server := u.server.map fun s => { s with user := [], password := [] } }

end Url

end MatrixGateway
