import ClusterMdns.Name
import ClusterMdns.Text.Digits
import ClusterMdns.Text.Ending
import ClusterMdns.Text.Quoted

/-!
Reading a name from dotted text. The labels are the pieces between the dots as raw UTF-8, one dot
at the end is optional, and no label may be empty. A label holds at most 63 bytes and a name takes
at most 255 bytes in a message.

Main statement: `Name.ofLabels?_labels`, a name that is accepted has exactly the given labels.
-/

namespace ClusterMdns.Name

open ClusterMdns.Text

/-- The greatest number of bytes in a label. -/
def maxLabelLength : Nat := 63

/-- The greatest number of bytes that a name takes in a message. -/
def maxWireLength : Nat := 255

/-- Why a text is no name. -/
inductive ReadError where
  | emptyLabel (text : String)
  | tooManyLabels (count : Nat)
  /-- Labels are too long; their lengths in order. -/
  | labelsTooLong (lengths : List Nat)
  /-- The name does not fit a message; the length reached with the first label that does not. -/
  | tooLong (length : Nat)
deriving DecidableEq, Repr

def utf8 (text : List Char) : Label := text.flatMap String.utf8EncodeChar

/-- The length reached with the first label that takes the name past its limit. -/
def overflow? (reached : Nat) : List Label → Option Nat
  | [] => none
  | label :: rest =>
    let length := reached + label.length + 1
    if maxWireLength < length then some length else overflow? length rest

/-- The name with the given labels, none of which is empty. -/
def ofLabels? (labels : List Label) : Except ReadError Name :=
  let (fitting, long) := labels.partition (·.length ≤ maxLabelLength)
  if 255 < fitting.length then .error (.tooManyLabels fitting.length)
  else if !long.isEmpty then .error (.labelsTooLong (long.map List.length))
  else
    match overflow? 1 labels with
    | some length => .error (.tooLong length)
    | none => .ok ⟨labels⟩

/-- The name that a dotted text writes. -/
def read? (text : String) : Except ReadError Name :=
  let labels := (dropTerminator '.' text.toList).splitOn '.'
  if labels.any List.isEmpty then .error (.emptyLabel text) else ofLabels? (labels.map utf8)

theorem ofLabels?_labels {labels : List Label} {name : Name}
    (accepted : ofLabels? labels = .ok name) : name.labels = labels := by
  simp only [ofLabels?] at accepted
  split at accepted
  · cases accepted
  · split at accepted
    · cases accepted
    · split at accepted
      · cases accepted
      · cases accepted
        rfl

/-! ### The wording of errors -/

def listed (texts : List String) : String := ", ".intercalate texts

/-- What is said about a text that is no name. -/
def ReadError.message : ReadError → String
  | emptyLabel text => "empty label in name " ++ Quoted.encode text
  | tooManyLabels count => "name label data exceed 255: " ++ toString count
  | labelsTooLong lengths =>
    "error converting some labels: ["
      ++ listed (lengths.map fun length =>
        "ProtoError \x7b kind: LabelBytesTooLong(" ++ toString length ++ ") \x7d")
      ++ "]"
  | tooLong length => "name label data exceed 255: " ++ toString length

end ClusterMdns.Name
