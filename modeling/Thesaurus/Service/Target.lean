import Thesaurus.Encoding.Utf8

/-!
# Targets

The target of a request is an address: a scheme, a host, a path, a query and a fragment, each of
which but the path may be left out. An address is resolved twice, where it is sent and where it
arrives, so that a second scheme or host in front of a path is taken off as well. Of the path that
is left the percent escapes are resolved, and it begins with exactly one slash.
-/

set_option autoImplicit false

namespace Thesaurus.Service

/-- An address without controls and spaces in front, and without tabs and line ends anywhere. -/
def cleanAddress (t : Text) : Text :=
  (t.dropWhile fun c => c ≤ ' ').filter fun c => c != '\t' && c != '\n' && c != '\r'

def isSchemeChar (c : Char) : Bool := c.isAlphanum || c == '+' || c == '-' || c == '.'

/-- Whether what stands before the first colon is a scheme. -/
def isScheme : Text → Bool
  | [] => false
  | c :: t => c.isAlpha && t.all isSchemeChar

def dropScheme (t : Text) : Text :=
  match t.dropWhile (· != ':') with
  | [] => t
  | _ :: rest => if isScheme (t.takeWhile (· != ':')) then rest else t

/-- Takes off a host, which stands behind two slashes. -/
def dropHost : Text → Text
  | '/' :: '/' :: t => t.dropWhile fun c => c != '/' && c != '?' && c != '#'
  | t => t

/-- The path and the query of an address. -/
def resolve (address : Text) : Text :=
  (dropHost (dropScheme (cleanAddress address))).takeWhile (· != '#')

def hexValue? (c : Char) : Option Nat :=
  if '0' ≤ c && c ≤ '9' then some (c.toNat - 48)
  else if 'a' ≤ c && c ≤ 'f' then some (c.toNat - 87)
  else if 'A' ≤ c && c ≤ 'F' then some (c.toNat - 55)
  else none

/-- The bytes of a text with its percent escapes resolved. -/
def unescapeBytes : Text → Bytes
  | [] => []
  | '%' :: a :: b :: t =>
    match hexValue? a, hexValue? b with
    | some m, some n => (m * 16 + n).toUInt8 :: unescapeBytes t
    | _, _ => Utf8.encodeChar '%' ++ unescapeBytes (a :: b :: t)
  | c :: t => Utf8.encodeChar c ++ unescapeBytes t

/-- The path that a target names, as it is written. -/
def writtenPath (target : Text) : Text :=
  cleanAddress ((resolve (resolve target)).takeWhile (· != '?'))

/-- The path that a target names. -/
def pathOf (target : Text) : Text :=
  '/' :: (Utf8.decodeLenient (unescapeBytes (writtenPath target))).dropWhile (· == '/')

end Thesaurus.Service
