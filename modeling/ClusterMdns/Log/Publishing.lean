import ClusterMdns.Batch
import ClusterMdns.Log.Line
import ClusterMdns.Name.Printer
import ClusterMdns.Record.Mnemonic
import ClusterMdns.Text.Quoted

/-!
What is logged of batches: one line for each batch, and one for each of its calls, which matters
more if the call changes the store.
-/

namespace ClusterMdns

open ClusterMdns.Text

namespace Call

/-- The part of the program that makes calls. -/
def target : String := "external_mdns::publisher"

/-- What a line says of a call that changed the store or did not. -/
def message : Call → Bool → String
  | publish _, true => "published record"
  | publish _, false => "record already published"
  | unpublish _, true => "unpublished record"
  | unpublish _, false => "record was not published"

/-- The line for a call that changed the store or did not. -/
def line (call : Call) (changed : Bool) : Log.Line :=
  { level := if changed then .info else .debug
    target := target
    message := call.message changed
    particulars :=
      [("name", call.record.owner.toText), ("record_type", call.record.recordType.mnemonic)] }

end Call

/-- The lines for calls made of a store one after another. -/
def Store.lines (store : Store) : List Call → List Log.Line
  | [] => []
  | call :: rest => call.line (call.run store).1 :: (call.apply store).lines rest

namespace Batch

/-- The part of the program that takes batches. -/
def target : String := "external_mdns::dispatcher"

/-- The line for a batch that is taken. -/
def line (batch : Batch) : Log.Line :=
  { level := .debug
    target := target
    message := "dispatching event"
    particulars :=
      [("source", batch.source.name), ("action", Quoted.encode batch.action.name),
        ("records", toString batch.records.length)] }

end Batch

/-- The lines for batches taken one after another. -/
def Store.batchLines (ttl : UInt32) (store : Store) : List Batch → List Log.Line
  | [] => []
  | batch :: rest =>
    batch.line :: store.lines (batch.calls ttl) ++ (store.dispatch ttl batch).batchLines ttl rest

end ClusterMdns
