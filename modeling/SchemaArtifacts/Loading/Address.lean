import SchemaArtifacts.Fault
import SchemaArtifacts.Loading.Host
import SchemaArtifacts.Text.LetterCase

/-!
# Addresses

The parts of an address: a scheme before the first colon, a host after two slashes, and a path.
The query and what follows a number sign are no part of the path, nor are the parameters of its
last name in the schemes that have them.
-/

namespace SchemaArtifacts.Loading

open Text

structure Address where
  scheme : String
  host : String
  path : String
  deriving DecidableEq, Repr

namespace Address

def isSchemeChar (c : Char) : Bool :=
  isAsciiLetter c || isAsciiDigit c || c == '+' || c == '-' || c == '.'

/-- The scheme and what follows its colon; without a scheme everything follows. -/
def splitScheme (cs : List Char) : List Char × List Char :=
  let scheme := cs.takeWhile (· != ':')
  match cs.drop scheme.length, scheme with
  | ':' :: rest, first :: _ =>
    if isAsciiLetter first && scheme.all isSchemeChar then (lowerChars scheme, rest) else ([], cs)
  | _, _ => ([], cs)

def endsHost (c : Char) : Bool := c == '/' || c == '?' || c == '#'

def splitHost (cs : List Char) : List Char × List Char :=
  match cs with
  | '/' :: '/' :: rest => (rest.takeWhile (!endsHost ·), rest.dropWhile (!endsHost ·))
  | cs => ([], cs)

def schemesWithParameters : List String :=
  ["", "ftp", "hdl", "prospero", "http", "imap", "https", "shttp", "rtsp", "rtsps", "rtspu", "sip",
   "sips", "mms", "sftp", "tel"]

def dropParameters (path : List Char) : List Char :=
  let last := (path.reverse.takeWhile (· != '/')).reverse
  path.take (path.length - last.length) ++ last.takeWhile (· != ';')

def isControlOrSpace (c : Char) : Bool := c.toNat ≤ 0x20

def isIgnored (c : Char) : Bool := c == '\t' || c == '\r' || c == '\n'

def ofText (s : String) : Except Fault Address :=
  let cleaned := (s.toList.dropWhile isControlOrSpace).filter (!isIgnored ·)
  let (scheme, afterScheme) := splitScheme cleaned
  let (host, afterHost) := splitHost afterScheme
  let path := (afterHost.takeWhile (· != '#')).takeWhile (· != '?')
  if !isHost host then .error (.badValue ("Invalid host: " ++ String.ofList host))
  else
    .ok
      { scheme := String.ofList scheme
        host := String.ofList host
        path := String.ofList
          (if schemesWithParameters.contains (String.ofList scheme) then dropParameters path
            else path) }

end Address

end SchemaArtifacts.Loading
