import FlowIndex.Text.Quoted
import FlowIndex.Uri.Address

namespace FlowIndex.Uri

-- Why an authority is refused.
inductive AuthorityError
  | brackets
  | futureAddress
  | shortAddress
  | address (host : String)
  | characters (authority : String)
deriving DecidableEq, Repr

def AuthorityError.message : AuthorityError → String
  | .brackets => "Invalid IPv6 URL"
  | .futureAddress => "IPvFuture address is invalid"
  | .shortAddress => "An IPv4 address cannot be in brackets"
  | .address host =>
    let shown := Text.quoted host
    s!"{shown} does not appear to be an IPv4 or IPv6 address"
  | .characters authority =>
    s!"netloc '{authority}' contains invalid characters under NFKC normalization"

-- Checks the host between brackets. One that starts with `v` has a version in hexadecimal digits, a
-- point and more text.
def checkHost (host : List Char) : Except AuthorityError Unit :=
  match host with
  | 'v' :: cs =>
    match cs.span isHexDigit with
    | (_ :: _, '.' :: _ :: _) => .ok ()
    | _ => .error .futureAddress
  | host =>
    if isShortAddress host then .error .shortAddress
    else if isLongAddress host then .ok ()
    else .error (.address (String.ofList host))

-- Checks an authority that holds brackets. Only a user may stand before them, and only a colon and
-- a number behind.
def checkBrackets (authority : List Char) : Except AuthorityError Unit :=
  let server := (authority.reverse.takeWhile (· ≠ '@')).reverse
  match server.span (· ≠ '[') with
  | ([], _ :: bracketed) =>
    let (host, rest) := bracketed.span (· ≠ ']')
    match rest.drop 1 with
    | [] => checkHost host
    | c :: _ => if c = ':' then checkHost host else .error .brackets
  | (_, []) => checkHost (server.takeWhile (· ≠ ':'))
  | _ => .error .brackets

def hiddenSeparators : List Nat :=
  [0x2047, 0x2048, 0x2049, 0x2100, 0x2101, 0x2105, 0x2106, 0x2a74, 0xfe13, 0xfe16, 0xfe55, 0xfe56,
   0xfe5f, 0xfe6b, 0xff03, 0xff0f, 0xff1a, 0xff1f, 0xff20]

-- Checks an authority. Brackets have to come in pairs.
def checkAuthority (authority : List Char) : Except AuthorityError Unit := do
  if authority.contains '[' ≠ authority.contains ']' then throw .brackets
  if authority.contains '[' then checkBrackets authority
  if authority.any (hiddenSeparators.contains ·.toNat) then
    throw (.characters (String.ofList authority))

end FlowIndex.Uri
