import ClusterMdns.Following
import ClusterMdns.ServerUrl

/-!
All sources followed at once. Each follower asks at the path of its source, and the server replies
to the requests at a path one after another. Followers take turns, each with one reply at a time;
what they send goes through one relay.
-/

namespace ClusterMdns

/-- The place of the objects of a source, in one namespace or in all. -/
def objectPlace (source : Source) (only : Option String) : String :=
  let place := match only with
    | some space => "/namespaces/" ++ space
    | none => ""
  match source with
  | .service => "/api/v1" ++ place ++ "/services"
  | .ingress => "/apis/networking.k8s.io/v1" ++ place ++ "/ingresses"

/-- The path at which the objects of a source are asked for, given what comes before every path. As
in any URL it ends before a question mark or a number sign, which a namespace may hold. None if
nothing can be asked for. -/
def requestPath? (base : Option (List Char)) (source : Source) (only : Option String) :
    Option String :=
  let place := (objectPlace source only).toList
  if (ServerUrl.restFault? place).isSome then none
  else base.map fun base => String.ofList (base ++ ServerUrl.pathOf place)

/-- Whoever follows one source. -/
inductive Follower where
  | services (following : Following Service)
  | ingresses (following : Following Ingress)

namespace Follower

/-- A follower of a source that has asked for nothing yet. -/
def start : Source → Follower
  | .service => services (.start false)
  | .ingress => ingresses (.start false)

def source : Follower → Source
  | services _ => .service
  | ingresses _ => .ingress

/-- Whether a follower waits in vain. -/
def isSilent : Follower → Bool
  | services following => following.session.isSilent
  | ingresses following => following.session.isSilent

/-- Whether the next request is for a page of a listing. -/
def isListing : Follower → Bool
  | services following => following.session.isListing
  | ingresses following => following.session.isListing

/-- The batches that a reply leads to, and the follower after it. -/
def receive (settings : SyncSettings) (reply : Reply) : Follower → List Batch × Follower
  | services following =>
    let (steps, next) := following.receive reply
    (steps.flatMap (·.batches settings), services next)
  | ingresses following =>
    let (steps, next) := following.receive reply
    (steps.flatMap (·.batches settings), ingresses next)

end Follower

/-- Followers, what the server has yet to reply, and the relay. -/
structure Synchronizer where
  settings : SyncSettings
  base : Option (List Char)
  /-- The followers in the order of their turns, each with the position of its sender. -/
  queue : List (Nat × Follower)
  /-- What the server has yet to reply, by paths. -/
  replies : TextMap (List Reply)
  relay : Relay

namespace Synchronizer

/-- The synchronizer with a follower for each source. -/
def start (settings : SyncSettings) (base : Option (List Char)) (replies : TextMap (List Reply)) :
    Synchronizer :=
  { settings := settings
    base := base
    queue := settings.sources.mapIdx fun position source => (position, .start source)
    replies := replies
    relay := Relay.start settings.recordTtl settings.sources.length }

/-- The reply to the next request of a follower, and what the server has yet to reply. A server with
nothing more to say has no objects and no news; who can ask for nothing hears nothing. -/
def replyTo (synchronizer : Synchronizer) (follower : Follower) : Reply × TextMap (List Reply) :=
  match requestPath? synchronizer.base follower.source synchronizer.settings.onlySpace? with
  | none => (.silence, synchronizer.replies)
  | some path =>
    match synchronizer.replies.get? path with
    | some (reply :: rest) => (reply, synchronizer.replies.insert path rest)
    | _ => (if follower.isListing then .page [] "1" none else .silence, synchronizer.replies)

/-- The synchronizer after a number of turns. Followers that wait in vain have no more turns. -/
def turns : Nat → Synchronizer → Synchronizer
  | 0, synchronizer => synchronizer
  | count + 1, synchronizer =>
    match synchronizer.queue with
    | [] => synchronizer
    | (position, follower) :: rest =>
      if follower.isSilent then turns count { synchronizer with queue := rest }
      else
        let (reply, replies) := synchronizer.replyTo follower
        let (batches, next) := follower.receive synchronizer.settings reply
        turns count
          { synchronizer with
            queue := rest ++ [(position, next)]
            replies := replies
            relay := synchronizer.relay.sendAll position batches }

/-- As many turns as there can be: one for each reply, and for each follower an empty listing, a
stream without news and the turn in which it is left out. -/
def turnLimit (synchronizer : Synchronizer) : Nat :=
  (synchronizer.replies.entries.map fun entry => entry.2.length).foldr (· + ·) 0
    + 3 * synchronizer.queue.length

def run (synchronizer : Synchronizer) : Synchronizer :=
  turns synchronizer.turnLimit synchronizer

/-- The paths that are asked for, without repetition. -/
def requests (settings : SyncSettings) (base : Option (List Char)) : List String :=
  (TextMap.ofList (settings.sources.filterMap fun source =>
    (requestPath? base source settings.onlySpace?).map fun path => (path, ()))).keys

end Synchronizer

end ClusterMdns
