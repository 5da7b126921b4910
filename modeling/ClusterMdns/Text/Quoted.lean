import ClusterMdns.Text.Graphic

/-!
Quoted text: a text between double quotes, in which a quote and a backslash are marked by a
backslash, line ends, tabs and NUL have short marks and every other character that is not graphic
is written as its code point in hexadecimal.
-/

namespace ClusterMdns.Text.Quoted

/-- The digits of a number in lowercase hexadecimal. -/
def hexDigits (n : Nat) : List Char := Nat.toDigits 16 n

/-- The written form of one character. `marksApostrophe` says whether an apostrophe is marked too,
as it is in the names of files. -/
def encodeChar (marksApostrophe : Bool) (c : Char) : List Char :=
  if c = '\x00' then ['\\', '0']
  else if c = '\t' then ['\\', 't']
  else if c = '\r' then ['\\', 'r']
  else if c = '\n' then ['\\', 'n']
  else if c = '\\' ∨ c = '"' then ['\\', c]
  else if c = '\'' ∧ marksApostrophe = true then ['\\', c]
  else if isGraphic c then [c]
  else ['\\', 'u', '\x7b'] ++ hexDigits c.toNat ++ ['\x7d']

/-- The written form of a text, quotes included. -/
def encode (text : String) : String :=
  String.ofList ('"' :: (text.toList.flatMap (encodeChar false) ++ ['"']))

/-- The written form of a file name, quotes included. -/
def encodePath (path : String) : String :=
  String.ofList ('"' :: (path.toList.flatMap (encodeChar true) ++ ['"']))

end ClusterMdns.Text.Quoted
