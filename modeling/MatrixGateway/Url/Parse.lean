import MatrixGateway.Text.Numeral
import MatrixGateway.Url.Basic

/-!
# Reading URLs

A text is stripped of blanks and line ends, and cut from the left: scheme,
server, path, query, fragment. Six schemes are special: they imply a port,
allow backslashes for slashes, and always have a host and a path, `file`
alone without a host.
-/

set_option autoImplicit false

namespace MatrixGateway.Url

inductive Kind where
  | network (port : UInt16)
  | file
  | other
  deriving DecidableEq

def kind (scheme : List Char) : Kind :=
  match String.ofList scheme with
  | "http" | "ws" => .network 80
  | "https" | "wss" => .network 443
  | "ftp" => .network 21
  | "file" => .file
  | _ => .other

def Kind.isSpecial (k : Kind) : Bool := k ≠ .other

def Kind.isSeparator (k : Kind) (c : Char) : Bool := c = '/' || (k.isSpecial && c = '\\')

/-- Without blanks and controls at the ends, and without tabs and line ends anywhere. -/
def strip (s : List Char) : List Char :=
  let s := ((s.dropWhile (·.toNat ≤ 32)).reverse.dropWhile (·.toNat ≤ 32)).reverse
  s.filter fun c => c ≠ '\t' && c ≠ '\n' && c ≠ '\r'

def isSchemeChar (c : Char) : Bool := c.isAlphanum || c = '+' || c = '-' || c = '.'

def splitScheme? (s : List Char) : Option (List Char × List Char) :=
  match s.takeWhile isSchemeChar, s.dropWhile isSchemeChar with
  | a :: name, ':' :: rest => if a.isAlpha then some (Text.lower (a :: name), rest) else none
  | _, _ => none

def readTail (k : Kind) (s : List Char) : Option (List Char) × Option (List Char) :=
  let fragment (s : List Char) : Option (List Char) := match s with
    | '#' :: rest => some (encode inFragmentSet rest)
    | _ => none
  match s with
  | '?' :: rest =>
    let set := if k.isSpecial then inSpecialQuerySet else inQuerySet
    (some (encode set (rest.takeWhile (· ≠ '#'))), fragment (rest.dropWhile (· ≠ '#')))
  | s => (none, fragment s)

def isTailMark (c : Char) : Bool := c = '?' || c = '#'

def readPath (k : Kind) (s : List Char) : List (List Char) :=
  match s with
  | [] => if k.isSpecial then [[]] else []
  | c :: rest => Segments.ofText k.isSeparator (if k.isSeparator c then rest else s)

def finish (scheme : List Char) (server : Option Server) (s : List Char) : Url :=
  let k := kind scheme
  let (query, fragment) := readTail k (s.dropWhile (!isTailMark ·))
  { scheme, server, path := .segments (readPath k (s.takeWhile (!isTailMark ·))), query, fragment }

def readUser (s : List Char) : List Char × List Char :=
  let user := s.takeWhile (· ≠ ':')
  (encode inUserSet user, encode inUserSet (s.drop (user.length + 1)))

/-- The host's part: up to the first colon that is outside of brackets. -/
def hostLength (inside : Bool) : List Char → Nat
  | [] => 0
  | c :: cs =>
    if c = ':' ∧ inside = false then 0
    else hostLength (if c = '[' then true else if c = ']' then false else inside) cs + 1

def readPort (k : Kind) (s : List Char) : Except UrlError (Option UInt16 × List Char) :=
  let digits := s.takeWhile Char.isDigit
  let rest := s.dropWhile Char.isDigit
  if rest.head?.any fun c => !(c = '/' || c = '\\' || isTailMark c) then .error .invalidPort
  else if digits = [] then .ok (none, rest)
  else
    match Numeral.port? digits with
    | none => .error .invalidPort
    | some p => .ok (if k = .network p then none else some p, rest)

def readServer (scheme s : List Char) : Except UrlError Url := do
  let k := kind scheme
  let isEnd (c : Char) : Bool := k.isSeparator c || isTailMark c
  let part := s.takeWhile (!isEnd ·)
  let (user, password, s) ← match Text.cutLast? '@' part with
    | none => pure ([], [], s)
    | some (userInfo, _) =>
      let rest := s.drop (userInfo.length + 1)
      if userInfo = [] ∧ rest.head?.any isEnd then throw .emptyHost
      else pure ((readUser userInfo).1, (readUser userInfo).2, rest)
  let hostText := s.take (hostLength false (s.takeWhile (!isEnd ·)))
  let rest := s.drop hostText.length
  if hostText = [] then
    if k.isSpecial ∨ rest.head? = some ':' ∨ user ≠ [] ∨ password ≠ [] then throw .emptyHost
    else return finish scheme (some { host := none }) rest
  let host ← if k.isSpecial then Host.parse hostText else Host.parseOther hostText
  match rest with
  | ':' :: rest =>
    let (port, rest) ← readPort k rest
    return finish scheme (some { user, password, host, port }) rest
  | rest => return finish scheme (some { user, password, host }) rest

def filePath (path : List (List Char)) : List (List Char) :=
  match path.dropWhile (· = []) with
  | [] => [[]]
  | path => path

def withColon (pieces : List (List Char)) : List (List Char) :=
  match pieces with
  | [a, '|'] :: rest => if a.isAlpha then [a, ':'] :: rest else pieces
  | _ => pieces

/-- A local file: the host may be left out or be this machine, and goes when
the path begins at a drive. -/
def readFile (s : List Char) : Except UrlError Url := do
  let isSlash (c : Char) : Bool := c = '/' || c = '\\'
  let (host, s) ← match s with
    | a :: b :: rest =>
      if isSlash a && isSlash b then
        let hostText := rest.takeWhile fun c => !(isSlash c || isTailMark c)
        if hostText = [] ∨ isDrive hostText then pure (none, rest)
        else
          let host ← Host.parse hostText
          pure (if host = .name "localhost".toList then none else some host,
            rest.drop hostText.length)
      else pure (none, a :: b :: rest)
    | s => pure (none, s)
  let k := Kind.file
  let (query, fragment) := readTail k (s.dropWhile (!isTailMark ·))
  let text := s.takeWhile (!isTailMark ·)
  let text := match text with
    | c :: rest => if isSlash c then rest else text
    | [] => []
  let pieces := withColon (Text.pieces isSlash text)
  let host := if pieces.head?.any isDrive then none else host
  return { scheme := "file".toList, server := some { host },
           path := .segments (filePath (Segments.resolve [] pieces)), query, fragment }

def readOther (scheme s : List Char) : Except UrlError Url :=
  match s with
  | '/' :: '/' :: rest => readServer scheme rest
  | '/' :: rest => .ok (finish scheme none ('/' :: rest))
  | s =>
    let (query, fragment) := readTail .other (s.dropWhile (!isTailMark ·))
    .ok { scheme, path := .bare (encode isControl (s.takeWhile (!isTailMark ·))), query, fragment }

def parse (s : List Char) : Except UrlError Url :=
  match splitScheme? (strip s) with
  | none => .error .noScheme
  | some (scheme, rest) =>
    match kind scheme with
    | .network _ => readServer scheme (rest.dropWhile fun c => c = '/' || c = '\\')
    | .file => readFile rest
    | .other => readOther scheme rest

end MatrixGateway.Url
