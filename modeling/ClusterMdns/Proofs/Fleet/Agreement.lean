import ClusterMdns.Fleet
import ClusterMdns.Proofs.Cache.Standing
import ClusterMdns.Proofs.Relay.Rest

/-!
Watchers and relay agree with each other, whatever news come and in whatever order everything moves.

* `Faithful` is what the cluster promises about the news that one watcher hears: objects of one kind
  with one key and one version are the same.
* `Fleet.Sound` says that the relay is sound, that each watcher knows what it has sent last, and that
  what a watcher has sent is what its sender sends in all.
* `Fleet.sound_perform`: this holds after any moves without a request to stop.
* `Sound.takenFrom_of_resting`: at rest everything that a watcher has sent was taken, in order.
-/

namespace ClusterMdns

/-- Whether some of the news are about a service. -/
def Service.GivenBy (heard : News → Prop) (service : Service) : Prop :=
  ∃ event, heard (.services event) ∧ service ∈ event.objects

/-- Whether some of the news are about an ingress. -/
def Ingress.GivenBy (heard : News → Prop) (ingress : Ingress) : Prop :=
  ∃ event, heard (.ingresses event) ∧ ingress ∈ event.objects

/-- Objects of one kind that news give under one key and with one version are the same. -/
def Faithful (heard : News → Prop) : Prop :=
  OneState (Service.GivenBy heard) ∧ OneState (Ingress.GivenBy heard)

/-- Objects that all have a key or a version of their own are the same where both are equal. -/
theorem oneState_of_nodup {α : Type} [HasMetadata α] {given : α → Prop} {objects : List α}
    (listed : ∀ object, given object → object ∈ objects)
    (different : (objects.map fun object => (Cache.keyOf object, Cache.versionOf object)).Nodup) :
    OneState given := by
  intro first second isFirst isSecond sameKey sameVersion
  refine List.inj_on_of_nodup_map different (listed first isFirst) (listed second isSecond) ?_
  rw [Cache.sameVersion, Bool.and_eq_true, beq_iff_eq] at sameVersion
  rw [sameKey, sameVersion.2]

/-- The services that a move tells of. -/
def FleetMove.services : FleetMove → List Service
  | hear _ (.services event) => event.objects
  | _ => []

/-- The ingresses that a move tells of. -/
def FleetMove.ingresses : FleetMove → List Ingress
  | hear _ (.ingresses event) => event.objects
  | _ => []

/-- **News are faithful if no two objects that they tell of have one key and one version.** -/
theorem faithful_of_nodup {moves : List FleetMove}
    (services : ((moves.flatMap FleetMove.services).map fun service =>
      (Cache.keyOf service, Cache.versionOf service)).Nodup)
    (ingresses : ((moves.flatMap FleetMove.ingresses).map fun ingress =>
      (Cache.keyOf ingress, Cache.versionOf ingress)).Nodup) (position : Nat) :
    Faithful fun news => .hear position news ∈ moves := by
  refine ⟨oneState_of_nodup (fun service given => ?_) services,
    oneState_of_nodup (fun ingress given => ?_) ingresses⟩
  · obtain ⟨event, heard, member⟩ := given
    exact List.mem_flatMap.mpr ⟨_, heard, member⟩
  · obtain ⟨event, heard, member⟩ := given
    exact List.mem_flatMap.mpr ⟨_, heard, member⟩

namespace Watcher

/-- The kind of the objects that a watcher follows. -/
def source : Watcher → Source
  | services _ => .service
  | ingresses _ => .ingress

/-- What is known and what was sent agree. -/
def Sound (settings : SyncSettings) (heard : News → Prop) : Watcher → Prop
  | services watch => watch.Sound settings (Service.GivenBy heard)
  | ingresses watch => watch.Sound settings (Ingress.GivenBy heard)

theorem sound_start (settings : SyncSettings) (heard : News → Prop) (source : Source) :
    (start source).Sound settings heard := by
  cases source with
  | service => exact Watch.sound_start _
  | ingress => exact Watch.sound_start _

variable {settings : SyncSettings} {heard : News → Prop}

theorem Sound.standing {watcher : Watcher} (sound : watcher.Sound settings heard) (key : String) :
    Standing watcher.source (watcher.recordsOf settings key) (Posting.about key watcher.sent) := by
  cases watcher with
  | services watch => exact Watch.Sound.standing sound key
  | ingresses watch => exact Watch.Sound.standing sound key

/-- **News keep a watcher sound, and what is sent on them is added to what it has sent.** -/
theorem Sound.hear {watcher next : Watcher} {news : News} {postings : List Posting}
    (sound : watcher.Sound settings heard) (faithful : Faithful heard) (here : heard news)
    (hears : watcher.hear? settings news = some (postings, next)) :
    next.Sound settings heard ∧ next.sent = watcher.sent ++ postings := by
  cases watcher with
  | services watch =>
    cases news with
    | services event =>
      cases hears
      exact ⟨Watch.Sound.hear faithful.1 sound event fun _ member => ⟨event, here, member⟩, rfl⟩
    | ingresses event => cases hears
  | ingresses watch =>
    cases news with
    | services event => cases hears
    | ingresses event =>
      cases hears
      exact ⟨Watch.Sound.hear faithful.2 sound event fun _ member => ⟨event, here, member⟩, rfl⟩

end Watcher

namespace Fleet

/-- The records of the object that a watcher knows under a key. -/
def recordsOf (fleet : Fleet) (position : Nat) (key : String) : Option (List Record) :=
  fleet.watchers[position]?.bind fun watcher => watcher.recordsOf fleet.settings key

/-- Watchers and relay agree with each other. -/
structure Sound (settings : SyncSettings) (ttl : UInt32) (heard : Nat → News → Prop)
    (fleet : Fleet) : Prop where
  sameSettings : fleet.settings = settings
  sameTtl : fleet.relay.ttl = ttl
  running : fleet.relay.cancelled = false
  relay : fleet.relay.Sound
  watchers : ∀ (position : Nat) (watcher : Watcher), fleet.watchers[position]? = some watcher →
    watcher.Sound settings (heard position)
  /-- Each sender has sent, sends and has yet to send what its watcher has sent. -/
  sequences : fleet.relay.senders.map Sender.sequence
    = fleet.watchers.map fun watcher => watcher.sent.map Posting.batch

theorem sound_start (settings : SyncSettings) (ttl : UInt32) (heard : Nat → News → Prop)
    (sources : List Source) : (start settings ttl sources).Sound settings ttl heard := by
  refine ⟨rfl, rfl, rfl, Relay.sound_planning _ _, fun position watcher found => ?_, ?_⟩
  · rw [start, List.getElem?_map, Option.map_eq_some_iff] at found
    obtain ⟨source, _, rfl⟩ := found
    exact Watcher.sound_start settings _ source
  · have quiet : ∀ source, (Watcher.start source).sent.map Posting.batch = [] := by
      intro source
      cases source <;> rfl
    simp only [start, Relay.start, Relay.planning, List.map_map, Function.comp_def, quiet]
    rw [List.map_replicate, List.map_const']
    rfl

/-- The sender of a watcher sends in all what the watcher has sent. -/
theorem Sound.exists_sender {settings : SyncSettings} {ttl : UInt32} {heard : Nat → News → Prop}
    {fleet : Fleet} (sound : fleet.Sound settings ttl heard) {position : Nat} {watcher : Watcher}
    (known : fleet.watchers[position]? = some watcher) :
    ∃ sender, fleet.relay.senders[position]? = some sender ∧
      sender.sequence = watcher.sent.map Posting.batch := by
  have both := congrArg (·[position]?) sound.sequences
  simp only [List.getElem?_map, known, Option.map_some] at both
  exact Option.map_eq_some_iff.mp both

section Moves

variable {settings : SyncSettings} {ttl : UInt32} {heard : Nat → News → Prop} {fleet next : Fleet}

/-- **News keep a fleet sound.** -/
theorem Sound.hear (sound : fleet.Sound settings ttl heard) {position : Nat} {news : News}
    (faithful : Faithful (heard position)) (here : heard position news)
    (hears : fleet.hear? position news = some next) : next.Sound settings ttl heard := by
  unfold hear? at hears
  obtain ⟨watcher, known, hears⟩ := Option.bind_eq_some_iff.mp hears
  obtain ⟨sender, found, hears⟩ := Option.bind_eq_some_iff.mp hears
  split at hears
  case isFalse => cases hears
  case isTrue idle =>
    obtain ⟨⟨postings, later⟩, heardNews, same⟩ := Option.bind_eq_some_iff.mp hears
    cases same
    rw [sound.sameSettings] at heardNews
    obtain ⟨stillSound, sent⟩ :=
      (sound.watchers position watcher known).hear faithful here heardNews
    refine ⟨sound.sameSettings, sound.sameTtl, sound.running,
      sound.relay.planned found idle.1 _, fun other changed there => ?_, ?_⟩
    · by_cases moved : other = position
      · subst moved
        rw [List.getElem?_set_self (List.getElem?_eq_some_iff.mp known).1] at there
        cases there
        exact stillSound
      · rw [List.getElem?_set_ne (Ne.symm moved)] at there
        exact sound.watchers other changed there
    · obtain ⟨own, there, sameSequence⟩ := sound.exists_sender known
      rw [found, Option.some.injEq] at there
      subst there
      rw [Relay.sequences_planned found, sound.sequences, List.map_set, sent, List.map_append,
        sameSequence]

/-- What happens to the relay keeps a fleet sound, unless it is asked to stop. -/
theorem Sound.relayed (sound : fleet.Sound settings ttl heard) {move : RelayMove} {relay : Relay}
    (other : move ≠ .cancel) (made : fleet.relay.move? move = some relay) :
    Sound settings ttl heard { fleet with relay := relay } := by
  have moved := Relay.moved_of_move? sound.relay.held made
  exact ⟨sound.sameSettings, (Relay.ttl_moved moved).trans sound.sameTtl,
    Relay.cancelled_moved moved sound.running other, sound.relay.moved moved, sound.watchers,
    (Relay.sequences_moved moved).trans sound.sequences⟩

/-- **After any moves without a request to stop a fleet is sound.** -/
theorem sound_perform (sound : fleet.Sound settings ttl heard)
    (faithful : ∀ position, Faithful (heard position)) {moves : List FleetMove}
    (given : ∀ position news, .hear position news ∈ moves → heard position news)
    (uncancelled : .relay .cancel ∉ moves) : (fleet.perform moves).Sound settings ttl heard := by
  induction moves generalizing fleet with
  | nil => exact sound
  | cons move rest ih =>
    rw [List.mem_cons, not_or] at uncancelled
    have moved : ((fleet.move? move).getD fleet).Sound settings ttl heard := by
      cases made : fleet.move? move with
      | none => exact sound
      | some next =>
        cases move with
        | hear position news =>
          exact sound.hear (faithful position) (given position news List.mem_cons_self) made
        | relay move =>
          obtain ⟨relay, moved, same⟩ := Option.map_eq_some_iff.mp made
          cases same
          refine sound.relayed ?_ moved
          rintro rfl
          exact uncancelled.1 rfl
    exact ih moved (fun position news member => given position news (List.mem_cons_of_mem _ member))
      uncancelled.2

end Moves

theorem cancel_not_mem_sendSchedule (position : Nat) (batches : List Batch) :
    .relay .cancel ∉ sendSchedule position batches := by
  simp [sendSchedule, Relay.sendSchedule]

section Resting

variable {settings : SyncSettings} {ttl : UInt32} {heard : Nat → News → Prop} {fleet : Fleet}

/-- **At rest everything that a watcher has sent was taken, in order.** -/
theorem Sound.takenFrom_of_resting (sound : fleet.Sound settings ttl heard)
    (resting : fleet.relay.Resting) {position : Nat} {watcher : Watcher}
    (known : fleet.watchers[position]? = some watcher) :
    fleet.relay.takenFrom position = watcher.sent.map Posting.batch := by
  obtain ⟨sender, found, same⟩ := sound.exists_sender known
  rw [sound.relay.takenFrom_of_resting resting sound.running found, same]

/-- Every batch was taken from a watcher. -/
theorem Sound.watcher_of_taken (sound : fleet.Sound settings ttl heard) {entry : Nat × Batch}
    (taken : entry ∈ fleet.relay.taken) :
    ∃ watcher, fleet.watchers[entry.1]? = some watcher := by
  have inside := sound.relay.origin entry taken
  have lengths := congrArg List.length sound.sequences
  rw [List.length_map, List.length_map] at lengths
  exact ⟨_, List.getElem?_eq_getElem (lengths ▸ inside)⟩

/-- At rest the store is the one that all batches taken lead to. -/
theorem Sound.store_of_resting (sound : fleet.Sound settings ttl heard)
    (resting : fleet.relay.Resting) :
    fleet.store = Store.empty.dispatchAll ttl (fleet.relay.taken.map Prod.snd) := by
  rw [store, sound.relay.store_of_resting resting, sound.sameTtl]

end Resting

end Fleet

end ClusterMdns
