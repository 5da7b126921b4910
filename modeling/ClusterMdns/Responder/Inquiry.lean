import ClusterMdns.Batch
import ClusterMdns.Responder.Lookup

/-!
A lookup among calls that change the store. Its two reads are steps of their own, first for the records
and then, if there are none, for the name; each call is a step too, and calls may come before, between
and after the reads. The states that the store goes through from the first read to the last are written
down.

Main statement: `Inquiry.perform_reads`, two reads without a call between them are the lookup.
-/

namespace ClusterMdns.Responder

/-- How far a lookup is. -/
inductive InquiryStage where
  | asking
  /-- There were no records, and it is still to be asked whether the name is known. -/
  | doubting
  | answered (outcome : LookupOutcome)
deriving DecidableEq, Repr

/-- How many reads are still to come at most. -/
def InquiryStage.readsLeft : InquiryStage → Nat
  | asking => 2
  | doubting => 1
  | answered _ => 0

/-- A lookup and the store that it reads. -/
structure Inquiry where
  name : Name
  recordType : RecordType
  store : Store
  stage : InquiryStage
  /-- The states of the store from the first read to the last, in order. -/
  witnessed : List Store
deriving DecidableEq, Repr

inductive InquiryStep where
  | read
  | call (call : Call)
deriving DecidableEq, Repr

namespace Inquiry

/-- A lookup that has not read anything. -/
def start (store : Store) (name : Name) (recordType : RecordType) : Inquiry :=
  ⟨name, recordType, store, .asking, []⟩

/-- How far a lookup is once it has read these records. -/
def stageAfter (add? : RecordSet → Record → Option RecordSet) (name : Name) (recordType : RecordType)
    (records : List Record) : InquiryStage :=
  if records.isEmpty then .doubting
  else
    match RecordSet.gathered? add? name recordType records with
    | some set => .answered (.found set.records)
    | none => .answered .misfiled

/-- The lookup after its next read. One that is answered reads no more. -/
def read (add? : RecordSet → Record → Option RecordSet) (inquiry : Inquiry) : Inquiry :=
  match inquiry.stage with
  | .asking =>
    { inquiry with
      stage := stageAfter add? inquiry.name inquiry.recordType
        (inquiry.store.lookup inquiry.name inquiry.recordType)
      witnessed := [inquiry.store] }
  | .doubting =>
    { inquiry with
      stage := .answered (if inquiry.store.hasName inquiry.name then .noData else .unknownName) }
  | .answered _ => inquiry

/-- The lookup after a call, which is witnessed if it comes between the reads. -/
def callMade (inquiry : Inquiry) (call : Call) : Inquiry :=
  let store := call.apply inquiry.store
  match inquiry.stage with
  | .doubting => { inquiry with store := store, witnessed := inquiry.witnessed ++ [store] }
  | _ => { inquiry with store := store }

def step (add? : RecordSet → Record → Option RecordSet) (inquiry : Inquiry) : InquiryStep → Inquiry
  | .read => inquiry.read add?
  | .call call => inquiry.callMade call

def perform (add? : RecordSet → Record → Option RecordSet) (inquiry : Inquiry)
    (steps : List InquiryStep) : Inquiry :=
  steps.foldl (step add?) inquiry

section Reads

variable {add? : RecordSet → Record → Option RecordSet} {first : Store} {name : Name}
  {recordType : RecordType}

/-- A first read that finds nothing leaves the outcome to the second. -/
theorem stageAfter_of_eq_nil (nothing : first.lookup name recordType = []) :
    stageAfter add? name recordType (first.lookup name recordType) = .doubting := by
  rw [stageAfter, nothing, if_pos List.isEmpty_nil]

/-- A first read that finds something settles the outcome, whatever a second one would see. -/
theorem stageAfter_of_ne_nil (found : first.lookup name recordType ≠ []) (second : Store) :
    stageAfter add? name recordType (first.lookup name recordType)
      = .answered (lookupAcross add? first second name recordType) := by
  have filled : ¬(first.lookup name recordType).isEmpty = true := by rwa [List.isEmpty_iff]
  simp only [stageAfter, lookupAcross, if_neg filled]
  cases RecordSet.gathered? add? name recordType (first.lookup name recordType) <;> rfl

/-- After a first read that finds nothing the second one decides. -/
theorem lookupAcross_of_eq_nil (nothing : first.lookup name recordType = []) (second : Store) :
    lookupAcross add? first second name recordType
      = if second.hasName name then .noData else .unknownName := by
  simp only [lookupAcross, nothing, List.isEmpty_nil, if_true]

/-- **Two reads without a call between them are the lookup.** -/
theorem perform_reads (store : Store) :
    ((start store name recordType).perform add? [.read, .read]).stage
      = .answered (lookupBy add? store name recordType) := by
  rw [lookupBy]
  by_cases nothing : store.lookup name recordType = []
  · rw [lookupAcross_of_eq_nil nothing]
    simp [perform, step, read, start, stageAfter_of_eq_nil nothing]
  · simp [perform, step, read, start, stageAfter_of_ne_nil nothing store]

end Reads

end Inquiry

end ClusterMdns.Responder
