import ClusterMdns.Text.Ending

/-!
Host names as people write them, brought under the domain `local`.
-/

namespace ClusterMdns.Hostname

open ClusterMdns.Text

/-- The domain that all advertised names belong to, with the dot that ends it. -/
def localDomain : List Char := "local.".toList

/-- A host name under `local`, with exactly one dot at its end. Dots at the end do not count, and a
name that does not end in the label `local` after another has it added. -/
def underLocal (hostname : String) : String :=
  let dotted := dropTrailing '.' hostname.toList ++ ['.']
  String.ofList (if ('.' :: localDomain).isSuffixOf dotted then dotted else dotted ++ localDomain)

/-- Whether the host of a rule belongs to `local` as it is written. -/
def isLocal (host : String) : Bool := ".local".toList.isSuffixOf host.toList

end ClusterMdns.Hostname
