import FlowIndex.Path
import FlowIndex.Text.Utf8
import FlowIndex.Uri.Authority

namespace FlowIndex

-- Why a document's name is refused.
inductive UriError
  | authority (e : Uri.AuthorityError)
  | scheme (uri : String)
  | nullByte
  -- The system does not resolve a path, such as one in a loop of symbolic links.
  | unresolved (reason : String)
deriving DecidableEq, Repr

def UriError.message : UriError → String
  | .authority e => e.message
  | .scheme uri => s!"Unsupported URI scheme: {uri}"
  | .nullByte => "embedded null byte"
  | .unresolved reason => reason

namespace Uri

def hexPair? (a b : Char) : Option UInt8 := do
  let high ← hexValue? a
  let low ← hexValue? b
  return UInt8.ofNat (16 * high + low)

-- Decodes the escapes of a text. The bytes of a run of ASCII characters are read together; `run`
-- are those of the present run, the last one first. A percent sign without two digits stays.
def unquoteFrom (run : List UInt8) : List Char → List Char
  | [] => Text.decodeLossy run.reverse
  | '%' :: a :: b :: cs =>
    match hexPair? a b with
    | some byte => unquoteFrom (byte :: run) cs
    | none => unquoteFrom (UInt8.ofNat '%'.toNat :: run) (a :: b :: cs)
  | c :: cs =>
    if c.toNat < 0x80 then unquoteFrom (UInt8.ofNat c.toNat :: run) cs
    else Text.decodeLossy run.reverse ++ c :: unquoteFrom [] cs

def unquote (cs : List Char) : List Char :=
  unquoteFrom [] cs

def isUnreserved (c : Char) : Bool :=
  c.isAlphanum || c = '_' || c = '.' || c = '-' || c = '~' || c = '/'

def hexDigit (n : Nat) : Char :=
  (Nat.digitChar n).toUpper

def quoteByte (b : UInt8) : List Char :=
  let c := Char.ofNat b.toNat
  if b.toNat < 0x80 && isUnreserved c then [c]
  else ['%', hexDigit (b.toNat / 16), hexDigit (b.toNat % 16)]

def quote (cs : List Char) : List Char :=
  (Text.utf8 cs).flatMap quoteByte

structure Parts where
  scheme : String
  path : List Char
deriving DecidableEq, Repr

def isSchemeChar (c : Char) : Bool :=
  c.isAlphanum || c = '+' || c = '-' || c = '.'

-- The scheme before the first colon, in lower case, and the text behind the colon. A text that does
-- not start with a letter and then only holds scheme characters before the colon has none.
def splitScheme (cs : List Char) : String × List Char :=
  match cs.span (· ≠ ':') with
  | (c :: scheme, _ :: rest) =>
    if c.isAlpha && scheme.all isSchemeChar then
      (String.ofList ((c :: scheme).map Char.toLower), rest)
    else ("", cs)
  | _ => ("", cs)

def splitAuthority : List Char → List Char × List Char
  | '/' :: '/' :: cs => cs.span fun c => c ≠ '/' && c ≠ '?' && c ≠ '#'
  | cs => ([], cs)

def schemesWithParams : List String :=
  ["", "ftp", "hdl", "prospero", "http", "imap", "https", "shttp", "rtsp", "rtspu", "sip",
   "sips", "mms", "sftp", "tel"]

def dropParams (path : List Char) : List Char :=
  let last := (path.reverse.takeWhile (· ≠ '/')).reverse
  path.take (path.length - last.length) ++ last.takeWhile (· ≠ ';')

-- Takes a URI apart. Control characters and blanks before it are ignored, as are tabs and line ends
-- anywhere.
def split (uri : String) : Except UriError Parts := do
  let cs := (uri.toList.dropWhile (·.toNat ≤ 0x20)).filter fun c =>
    c ≠ '\t' && c ≠ '\r' && c ≠ '\n'
  let (scheme, rest) := splitScheme cs
  let (authority, rest) := splitAuthority rest
  (checkAuthority authority).mapError UriError.authority
  let path := (rest.takeWhile (· ≠ '#')).takeWhile (· ≠ '?')
  return { scheme, path := if schemesWithParams.contains scheme then dropParams path else path }

def ofPath (p : Path) : String :=
  "file://" ++ String.ofList (quote p.toString.toList)

-- How the system resolves a path, seen from the working directory `cwd`, if no symbolic link is on
-- the way. It takes no path with a null byte in it.
def unlinked (cwd path : Path) : Except UriError Path :=
  if path.toString.toList.contains (Char.ofNat 0) then .error .nullByte
  else .ok (Path.resolve cwd path)

-- The URI of the file at a path, with no symbolic link on the way.
def ofFile (cwd path : Path) : Except UriError String :=
  (unlinked cwd path).map ofPath

-- The path that a document's name stands for. A name without a scheme is a path as it is.
def toPath (uri : String) : Except UriError Path := do
  let parts ← split uri
  if parts.scheme = "" then return .ofString uri
  else if parts.scheme = "file" then return .ofString (String.ofList (unquote parts.path))
  else throw (.scheme uri)

def decodedPath (uri : String) : Except UriError String := do
  return String.ofList (unquote (← split uri).path)

-- The last component of a document's name; the name itself where there is none.
def fileName (uri : String) : Except UriError String := do
  let path ← decodedPath uri
  let name := (Path.ofString (if path = "" then uri else path)).name
  return if name = "" then uri else name

end Uri

end FlowIndex
