/-!
JSON values as read from a text: members of an object in the order written, repetitions included.

Integers that fit sixty-four bits, signed or unsigned, are kept apart from all other numbers, as
whoever reads an integer field accepts only those.
-/

namespace ClusterMdns

inductive Json where
  | null
  | bool (value : Bool)
  /-- An integer of sixty-four bits, signed or unsigned. -/
  | integer (value : Int)
  /-- Any other number: a mantissa times a power of ten. -/
  | decimal (mantissa exponent : Int)
  | string (text : String)
  | array (items : List Json)
  | object (members : List (String × Json))
  /-- A string that is no text, or an object with such a key. It is a value, but not one that
  anything can be made of. -/
  | garbled
deriving Inhabited

namespace Json

/-- The value of the last member with a key, the one that counts where repetition is allowed. -/
def lastMember? (key : String) (members : List (String × Json)) : Option Json :=
  (members.reverse.find? fun member => member.1 == key).map Prod.snd

/-- The member of an object; nothing for other values, absent members and `null`. -/
def member? (key : String) : Json → Option Json
  | object members =>
    match lastMember? key members with
    | some null => none
    | found => found
  | _ => none

def string? : Json → Option String
  | string text => some text
  | _ => none

def isTrue : Json → Bool
  | bool true => true
  | _ => false

def items : Json → List Json
  | array items => items
  | _ => []

def members : Json → List (String × Json)
  | object members => members
  | _ => []

end Json

end ClusterMdns
