import Uplink.SortedMap
/-!
# Object paths

The names of remote objects: a lone slash, or slashes each followed by a segment of ASCII letters,
digits and underscores. A path carries the proof that its text has this form, so that every path
the daemons or a user hand over is checked once, where it is read.
-/

namespace Uplink

namespace ObjectPath

def isSegmentChar (c : Char) : Bool := c.isAlphanum || c == '_'

/-- Whether the rest of a path may follow; `opened` says that the current segment holds a character.
-/
def continues (opened : Bool) : List Char → Bool
  | [] => opened
  | c :: rest =>
    if c = '/' then opened && continues false rest
    else isSegmentChar c && continues true rest

def isPath : List Char → Bool
  | ['/'] => true
  | '/' :: rest => continues false rest
  | _ => false

end ObjectPath

/-- The checked name of a remote object. -/
structure ObjectPath where
  text : String
  wellFormed : ObjectPath.isPath text.toList = true
deriving DecidableEq

namespace ObjectPath

theorem ext_text {a b : ObjectPath} (h : a.text = b.text) : a = b := by
  cases a; cases b; cases h; rfl

instance : Labelled ObjectPath where
  label := text
  label_injective := ext_text

instance : ToString ObjectPath := ⟨text⟩

def parse? (text : String) : Option ObjectPath :=
  if h : ObjectPath.isPath text.toList = true then some ⟨text, h⟩ else none

theorem text_of_parse? {text : String} {path : ObjectPath} (h : parse? text = some path) :
    path.text = text := by
  unfold parse? at h
  split at h
  · cases h; rfl
  · cases h

/-- The path of a manager object. -/
def root : ObjectPath := ⟨"/", by decide⟩

instance : Inhabited ObjectPath := ⟨root⟩

end ObjectPath

end Uplink
