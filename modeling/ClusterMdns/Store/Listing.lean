import ClusterMdns.Name.Printer
import ClusterMdns.Record.Mnemonic
import ClusterMdns.Store

/-!
The order in which a store is shown: by the written form of the folded owner, then by the mnemonic
of the type, then as published.
-/

namespace ClusterMdns.Store

/-- Whether a group may stand before another. -/
def shownBefore (first second : RecordKey × List Record) : Bool :=
  let firstOwner := first.1.owner.toText
  let secondOwner := second.1.owner.toText
  firstOwner < secondOwner ||
    (firstOwner == secondOwner && first.1.recordType.mnemonic ≤ second.1.recordType.mnemonic)

/-- All published records in the order in which they are shown. -/
def listing (store : Store) : List Record :=
  (store.groups.mergeSort shownBefore).flatMap Prod.snd

end ClusterMdns.Store
