import Mathlib.Data.List.Basic
import Mathlib.Tactic.Common

/-! The path of a special URL as the URL standard reads it. -/

namespace UrlPath

/-- These characters of a path are written as percent escapes. The standard lists `^` among them, and
version 2.5.8 of the `url` crate leaves it as it is. -/
def isEncoded (character : Char) : Bool :=
  character.toNat ≤ 0x20 || 0x7f ≤ character.toNat ||
    ['"', '#', '<', '>', '?', '^', Char.ofNat 0x60, '{', '}'].contains character

def upperHexDigit (value : Nat) : Char :=
  if value < 10 then Char.ofNat (value + 48) else Char.ofNat (value + 55)

def encodeByte (byte : UInt8) : List Char :=
  ['%', upperHexDigit (byte.toNat / 16), upperHexDigit (byte.toNat % 16)]

def escape (character : Char) : List Char :=
  (String.utf8EncodeChar character).flatMap encodeByte

def encodeChar (character : Char) : List Char :=
  if isEncoded character then escape character else [character]

def isSeparator (character : Char) : Bool :=
  character == '/' || character == Char.ofNat 0x5c

/-- The reader drops these characters wherever they stand. -/
def isIgnored (character : Char) : Bool :=
  character == '\t' || character == '\n' || character == '\r'

def dotForms : List (List Char) := [['.'], ['%', '2', 'e'], ['%', '2', 'E']]

def isSingleDot (segment : List Char) : Bool := dotForms.contains segment

def isDoubleDot (segment : List Char) : Bool :=
  dotForms.any fun first => dotForms.any fun second => segment == first ++ second

/-- A finished segment is kept, or it is a dot segment that goes nowhere or one level up. -/
def closeSegment (segments : List (List Char)) (segment : List Char) (last : Bool) :
    List (List Char) :=
  if isDoubleDot segment then segments.dropLast ++ if last then [[]] else []
  else if isSingleDot segment then segments ++ if last then [[]] else []
  else segments ++ [segment]

def readPath (segments : List (List Char)) (segment : List Char) :
    List Char → List (List Char)
  | [] => closeSegment segments segment true
  | character :: rest =>
      if isSeparator character then readPath (closeSegment segments segment false) [] rest
      else if isIgnored character then readPath segments segment rest
      else readPath segments (segment ++ encodeChar character) rest

/-- The first separator only starts the path. -/
def setPath (path : List Char) : List (List Char) :=
  match path.filter fun character => !isIgnored character with
  | [] => readPath [] [] []
  | first :: rest =>
      if isSeparator first then readPath [] [] rest else readPath [] [] (first :: rest)

end UrlPath
