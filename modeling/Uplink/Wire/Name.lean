/-!
# Names on the bus

The names of interfaces, of methods and signals, and of the parties on a bus. All are made of
elements of ASCII letters, digits and a few signs, are at most 255 characters long, and, where they
are dotted, have at least two elements.
-/

namespace Uplink.Wire.Name

def isWordStart (c : Char) : Bool := c.isAlpha || c == '_'

def isWordChar (c : Char) : Bool := c.isAlphanum || c == '_'

/-- An element that starts with no digit. -/
def isWord (start other : Char → Bool) : List Char → Bool
  | [] => false
  | c :: rest => start c && rest.all other

/-- The elements between the dots. -/
def elements (text : List Char) : List (List Char) :=
  text.foldr
    (fun c parts ↦
      match parts with
      | [] => if c = '.' then [[], []] else [[c]]
      | part :: rest => if c = '.' then [] :: part :: rest else (c :: part) :: rest)
    [[]]

/-- At least two elements, each of this form. -/
def isDotted (isElement : List Char → Bool) (text : List Char) : Bool :=
  2 ≤ (elements text).length && (elements text).all isElement

def fits (text : String) : Bool := text.utf8ByteSize ≤ 255

def isInterface (text : String) : Bool :=
  fits text && isDotted (isWord isWordStart isWordChar) text.toList

def isMember (text : String) : Bool := fits text && isWord isWordStart isWordChar text.toList

def isWellKnown (text : String) : Bool :=
  fits text &&
    isDotted (isWord (fun c ↦ isWordStart c || c == '-') (fun c ↦ isWordChar c || c == '-'))
      text.toList

/-- A name that the bus itself gave out. -/
def isUnique (text : String) : Bool :=
  fits text && match text.toList with
    | ':' :: rest =>
      isDotted (isWord (fun c ↦ isWordChar c || c == '-') (fun c ↦ isWordChar c || c == '-')) rest
    | _ => false

/-- The name of a party on the bus. -/
def isBusName (text : String) : Bool := isUnique text || isWellKnown text

end Uplink.Wire.Name
