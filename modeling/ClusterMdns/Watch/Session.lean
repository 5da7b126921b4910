import ClusterMdns.Informer
import ClusterMdns.Watch.Reply

/-!
The requests by which the objects of one kind are followed: a listing page by page, then a stream of
notices, then another stream where that one ended. Failures are counted and the request is repeated;
a stream that has lost its place starts over with a listing.
-/

namespace ClusterMdns

inductive Session (α : Type) where
  | listing (collected : List α)
  | watching
  /-- It waits for a reply or a notice that does not come. -/
  | silent

namespace Session

variable {α : Type}

def isSilent : Session α → Bool
  | silent => true
  | _ => false

def isListing : Session α → Bool
  | listing _ => true
  | _ => false

variable [ServedObject α]

/-- What a stream brings, and whether it has lost its place. Nothing counts after that. -/
def streamed : List Json → List (Arrival α) × Bool
  | [] => ([], false)
  | value :: rest =>
    match Notice.ofJson value with
    | .lost => ([.failure], true)
    | .mark => streamed rest
    | .broken =>
      let (arrivals, lost) := streamed rest
      (.failure :: arrivals, lost)
    | .news event =>
      let (arrivals, lost) := streamed rest
      (.news event :: arrivals, lost)

/-- What a page brings after the objects of the pages before it, and the session then. -/
def receivePage (collected : List α) (page : Page α) : List (Arrival α) × Session α :=
  if !page.next.isEmpty then ([], listing (collected ++ page.objects))
  else if page.version.isEmpty then ([.failure], listing [])
  else ([.news (.listing (collected ++ page.objects))], watching)

/-- What the reply to a request for a page brings, and the session after it. -/
def receiveListing (collected : List α) : Reply → List (Arrival α) × Session α
  | .silence | .stream _ true => ([], silent)
  | reply =>
    match Page.ofReply? reply with
    | some page => receivePage collected page
    | none => ([.failure], listing [])

/-- What the reply to a request for a stream brings, and the session after it. -/
def receiveStream : Reply → List (Arrival α) × Session α
  | .stream notices staysOpen =>
    let (arrivals, lost) := streamed notices
    (arrivals, if lost then listing [] else if staysOpen then silent else watching)
  | .page _ _ _ | .failure => ([.failure], watching)
  | .silence => ([], silent)

/-- What a reply brings, and the session after it. -/
def receive : Session α → Reply → List (Arrival α) × Session α
  | listing collected, reply => receiveListing collected reply
  | watching, reply => receiveStream reply
  | silent, _ => ([], silent)

end Session

end ClusterMdns
