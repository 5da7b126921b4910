import ClusterMdns.Text.Case

/-!
Lowercasing a whole text. Each character is lowered on its own, except that a capital sigma at the
end of a word becomes the final sigma `ς`.
-/

namespace ClusterMdns.Text

/-- Whether the first character that is not ignored next to cased characters has case. -/
def meetsCased (text : List Char) : Bool :=
  match text.dropWhile isCaseIgnorable with
  | [] => false
  | c :: _ => isCased c

/-- The lowercase form of the rest of a text, given what stands before it, nearest character
first. -/
def lowercaseAfter (before : List Char) : List Char → List Char
  | [] => []
  | c :: rest =>
    let lowered :=
      if c = 'Σ' then
        if meetsCased before && !meetsCased rest then ['ς'] else ['σ']
      else lowercaseChar c
    lowered ++ lowercaseAfter (c :: before) rest

def lowercase (text : List Char) : List Char := lowercaseAfter [] text

end ClusterMdns.Text
