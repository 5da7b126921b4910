import ClusterMdns.Responder.Lookup

/-!
Responses to questions that arrive as messages. Questions are answered from the store; a negative
answer also looks for the start of authority of the root. Status requests and updates are not
implemented, and a response that does not fit the message format is not sent at all.

Main statement: `Responder.fold_of_receivedData?`, records arrive as they are published, but for the
case of letters.
-/

namespace ClusterMdns.Responder

inductive Opcode where
  | query
  | status
  | update
deriving DecidableEq, Repr

inductive ResponseCode where
  | noError
  /-- The name does not exist. -/
  | unknownName
  /-- The server does not know such requests. -/
  | notImplemented
deriving DecidableEq, Repr

/-- A record as it is read from a message. -/
structure ReceivedRecord where
  owner : Name
  recordType : RecordType
  recordClass : RecordClass
  ttl : UInt32
  data : Option RecordData
deriving DecidableEq, Repr

structure Response where
  code : ResponseCode
  authoritative : Bool
  answers : List ReceivedRecord
deriving DecidableEq, Repr

/-- The longest character string of a text record. -/
def maxStringLength : Nat := 255

/-- Whether data fit the message format. -/
def encodable : RecordData → Bool
  | .txt strings => strings.all fun string => decide (string.utf8ByteSize ≤ maxStringLength)
  | _ => true

/-- Data after they went through a message. Where a service is found is written in small letters,
and text without strings takes no space in a message and is not read back. -/
def receivedData? : RecordData → Option RecordData
  | .srv priority weight port target => some (.srv priority weight port target.fold)
  | .txt [] => none
  | data => some data

/-- A record after it went through a message. -/
def received (record : Record) : ReceivedRecord :=
  { owner := record.owner, recordType := record.recordType, recordClass := record.recordClass,
    ttl := record.ttl, data := receivedData? record.data }

/-- The data that are read back are those of the record, but for the case of letters. -/
theorem fold_of_receivedData? {data received : RecordData}
    (sent : receivedData? data = some received) : received.fold = data.fold := by
  cases data with
  | srv priority weight port target =>
    obtain rfl := Option.some.inj sent
    exact RecordData.fold_fold (.srv priority weight port target)
  | txt strings =>
    cases strings with
    | nil => cases sent
    | cons first rest => exact congrArg RecordData.fold (Option.some.inj sent).symm
  | _ => exact congrArg RecordData.fold (Option.some.inj sent).symm

/-- The response to a question with the given outcome; none if it cannot be sent. -/
def answer : LookupOutcome → Option Response
  | .found records =>
    if records.all fun record => encodable record.data then
      some ⟨.noError, true, records.map received⟩
    else none
  | .noData => some ⟨.noError, true, []⟩
  | .unknownName => some ⟨.unknownName, true, []⟩
  | .misfiled => none

/-- What is measured while a question is answered: a negative answer takes a second lookup. -/
def answerMeasurements (store : Store) (recordType : RecordType) (outcome : LookupOutcome) :
    List Measurement :=
  let own := measurements recordType outcome
  match outcome with
  | .noData | .unknownName => own ++ measurements .soa (lookup store .root .soa)
  | _ => own

def refusal : Response := ⟨.notImplemented, false, []⟩

/-- The response to a message, or none if the server fails to send one, and what is measured. -/
def respond (store : Store) (opcode : Opcode) (name : Name) (recordType : RecordType) :
    Option Response × List Measurement :=
  match opcode with
  | .query =>
    let outcome := lookup store name recordType
    (answer outcome, answerMeasurements store recordType outcome)
  | .status => (some refusal, [])
  | .update => (if recordType = .soa then some refusal else none, [])

end ClusterMdns.Responder
