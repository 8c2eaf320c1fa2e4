import Uplink.Json
/-!
# Technologies

The kinds of network hardware, and sets of them as words with one bit for each. Names that are not
known are left out of a set.
-/

namespace Uplink

inductive Technology where
  | ethernet | wifi | cellular | wimax | bluetooth | vpn
deriving DecidableEq

namespace Technology

/-- In the order of their bits. -/
def all : List Technology := [ethernet, wifi, cellular, wimax, bluetooth, vpn]

def name : Technology → String
  | ethernet => "ethernet"
  | wifi => "wifi"
  | cellular => "cellular"
  | wimax => "wimax"
  | bluetooth => "bluetooth"
  | vpn => "vpn"

def flagName : Technology → String
  | ethernet => "ETHERNET"
  | wifi => "WIFI"
  | cellular => "CELLULAR"
  | wimax => "WIMAX"
  | bluetooth => "BLUETOOTH"
  | vpn => "VPN"

def bit : Technology → UInt32
  | ethernet => 1
  | wifi => 2
  | cellular => 4
  | wimax => 8
  | bluetooth => 16
  | vpn => 32

def ofName? (name : String) : Option Technology := all.find? (·.name == name)

def ofFlagName? (name : String) : Option Technology := all.find? (·.flagName == name)

@[simp] theorem ofName?_name (technology : Technology) :
    ofName? technology.name = some technology := by
  cases technology <;> decide

end Technology

/-- A set of technologies. -/
structure Technologies where
  bits : UInt32 := 0
deriving DecidableEq

namespace Technologies

instance : EmptyCollection Technologies := ⟨{}⟩
instance : Inhabited Technologies := ⟨∅⟩

def contains (set : Technologies) (technology : Technology) : Bool :=
  set.bits &&& technology.bit != 0

def insert (set : Technologies) (technology : Technology) : Technologies :=
  ⟨set.bits ||| technology.bit⟩

/-- The members in the order of their bits. -/
def toList (set : Technologies) : List Technology := Technology.all.filter set.contains

def ofNames (names : List String) : Technologies :=
  (names.filterMap Technology.ofName?).foldl insert ∅

def toJson (set : Technologies) : Json := .ofTexts (set.toList.map (·.flagName))

end Technologies

end Uplink
