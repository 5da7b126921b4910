import ClusterMdns.Pipeline
import ClusterMdns.Proofs.Fleet.Agreement
import ClusterMdns.Proofs.Relay.Undisturbed

/-!
A pipeline that hears news one after another does what a fleet of two watchers may do: whatever news
come, there are moves after which the fleet is at rest and has published the same.
-/

namespace ClusterMdns

/-- The news that a move brings. -/
def FleetMove.news? : FleetMove → Option News
  | hear _ news => some news
  | relay _ => none

/-- The pipeline after news. -/
def Pipeline.hear (pipeline : Pipeline) : News → Pipeline
  | .services event => (pipeline.serviceNews event).2
  | .ingresses event => (pipeline.ingressNews event).2

namespace Fleet

theorem perform_append (fleet : Fleet) (first second : List FleetMove) :
    fleet.perform (first ++ second) = (fleet.perform first).perform second :=
  List.foldl_append

/-- Moves of the relay leave the watchers as they are. -/
theorem perform_relay (fleet : Fleet) (moves : List RelayMove) :
    fleet.perform (moves.map .relay) = { fleet with relay := fleet.relay.perform moves } := by
  induction moves generalizing fleet with
  | nil => rfl
  | cons move rest ih =>
    rw [List.map_cons, perform, List.foldl_cons]
    cases made : fleet.relay.move? move with
    | none =>
      have skipped : (fleet.move? (.relay move)).getD fleet = fleet := by
        rw [move?, made]
        rfl
      rw [skipped, Relay.perform_cons_of_none made]
      exact ih fleet
    | some next =>
      have stepped : (fleet.move? (.relay move)).getD fleet = { fleet with relay := next } := by
        rw [move?, made]
        rfl
      rw [stepped, Relay.perform_cons_of_some made]
      exact ih _

/-- Whether a sender has nothing to do. -/
def Vacant (relay : Relay) (position : Nat) : Prop :=
  ∃ sender, relay.senders[position]? = some sender ∧ sender.stage = .idle ∧ sender.plan = []

/-- A fleet of a watcher of services and one of ingresses that has done what a pipeline has. -/
structure Matches (fleet : Fleet) (pipeline : Pipeline) : Prop where
  settings : fleet.settings = pipeline.settings
  watchers : ∃ sentServices sentIngresses, fleet.watchers
    = [.services ⟨pipeline.services, sentServices⟩, .ingresses ⟨pipeline.ingresses, sentIngresses⟩]
  ttl : fleet.relay.ttl = pipeline.relay.ttl
  calls : fleet.relay.calls = pipeline.relay.calls
  calm : fleet.relay.Calm ∧ pipeline.relay.Calm
  senders : fleet.relay.senders.length = 2
  vacant : ∀ position < 2, Vacant fleet.relay position ∧ Vacant pipeline.relay position

theorem vacant_passed {relay : Relay} {position other : Nat} {sender : Sender}
    (found : relay.senders[position]? = some sender) (idle : sender.stage = .idle)
    (planless : sender.plan = []) (batches : List Batch) (vacant : Vacant relay other) :
    Vacant (relay.passed position sender batches) other := by
  by_cases here : other = position
  · subst here
    exact ⟨_, Relay.getElem?_passed found batches, idle, planless⟩
  · obtain ⟨standing, there, rest⟩ := vacant
    exact ⟨standing, (Relay.getElem?_passed_of_ne here sender batches).trans there, rest⟩

/-- A calm fleet hears news and sends everything that they lead to. -/
theorem perform_news {fleet : Fleet} {position : Nat} {sender : Sender} {watcher next : Watcher}
    {news : News} {postings : List Posting} (calm : fleet.relay.Calm)
    (found : fleet.relay.senders[position]? = some sender) (idle : sender.stage = .idle)
    (planless : sender.plan = []) (known : fleet.watchers[position]? = some watcher)
    (hears : watcher.hear? fleet.settings news = some (postings, next)) :
    fleet.perform (.hear position news :: sendSchedule position (postings.map Posting.batch))
      = { fleet with
          watchers := fleet.watchers.set position next
          relay := fleet.relay.passed position sender (postings.map Posting.batch) } := by
  have heard : fleet.move? (.hear position news) = some { fleet with
      watchers := fleet.watchers.set position next
      relay := fleet.relay.planned position (postings.map Posting.batch) } := by
    simp [move?, hear?, known, found, idle, planless, hears]
  have schedule : sendSchedule position (postings.map Posting.batch)
      = ((postings.map Posting.batch).flatMap (Relay.sendSchedule position)).map .relay :=
    (List.map_flatMap).symm
  rw [perform, List.foldl_cons, heard, schedule]
  show perform _ (List.map _ _) = _
  rw [perform_relay]
  simp only [Option.getD_some]
  rw [Relay.perform_sendSchedules calm found idle planless]

/-- A fleet and a pipeline through which the same batches went still match. -/
theorem Matches.passed {fleet : Fleet} {pipeline : Pipeline} (same : fleet.Matches pipeline)
    {position : Nat} {first second : Sender}
    (foundFirst : fleet.relay.senders[position]? = some first) (idleFirst : first.stage = .idle)
    (planlessFirst : first.plan = [])
    (foundSecond : pipeline.relay.senders[position]? = some second) (idleSecond : second.stage = .idle)
    (planlessSecond : second.plan = []) (batches : List Batch) {services : Cache Service}
    {ingresses : Cache Ingress} {watchers : List Watcher}
    (known : ∃ sentServices sentIngresses, watchers
      = [.services ⟨services, sentServices⟩, .ingresses ⟨ingresses, sentIngresses⟩]) :
    Matches ⟨fleet.settings, watchers, fleet.relay.passed position first batches⟩
      ⟨pipeline.settings, services, ingresses, pipeline.relay.passed position second batches⟩ := by
  refine ⟨same.settings, known, same.ttl, ?_, ⟨Relay.calm_passed same.calm.1 _ _,
    Relay.calm_passed same.calm.2 _ _⟩, ?_, fun other inside => ⟨?_, ?_⟩⟩
  · show fleet.relay.calls ++ _ = pipeline.relay.calls ++ _
    rw [same.calls, same.ttl]
  · rw [Relay.passed, Relay.withSender, List.length_set]
    exact same.senders
  · exact vacant_passed foundFirst idleFirst planlessFirst batches (same.vacant other inside).1
  · exact vacant_passed foundSecond idleSecond planlessSecond batches (same.vacant other inside).2

theorem cancel_not_mem_hear (position : Nat) (news : News) (batches : List Batch) :
    .relay .cancel ∉ .hear position news :: sendSchedule position batches := by
  rw [List.mem_cons, not_or]
  exact ⟨nofun, cancel_not_mem_sendSchedule position batches⟩

theorem news_of_hear (position : Nat) (news : News) (batches : List Batch) :
    (.hear position news :: sendSchedule position batches).filterMap FleetMove.news? = [news] := by
  show news :: (sendSchedule position batches).filterMap FleetMove.news? = [news]
  rw [List.cons.injEq, List.filterMap_eq_nil_iff]
  refine ⟨rfl, fun move member => ?_⟩
  obtain ⟨batch, _, scheduled⟩ := List.mem_flatMap.mp member
  obtain ⟨_, _, rfl⟩ := List.mem_map.mp scheduled
  rfl

/-- A fleet follows a pipeline that sends what one of the watchers sends on news. -/
theorem Matches.follows {fleet : Fleet} {pipeline : Pipeline} (same : fleet.Matches pipeline)
    {position : Nat} (inside : position < 2) {news : News} {watcher next : Watcher}
    {postings : List Posting} {services : Cache Service} {ingresses : Cache Ingress}
    (known : fleet.watchers[position]? = some watcher)
    (hears : watcher.hear? fleet.settings news = some (postings, next))
    (heard : pipeline.hear news = ⟨pipeline.settings, services, ingresses,
      pipeline.relay.sendAll position (postings.map Posting.batch)⟩)
    (later : ∃ sentServices sentIngresses, fleet.watchers.set position next
      = [.services ⟨services, sentServices⟩, .ingresses ⟨ingresses, sentIngresses⟩]) :
    ∃ moves, .relay .cancel ∉ moves ∧ moves.filterMap FleetMove.news? = [news] ∧
      (fleet.perform moves).Matches (pipeline.hear news) := by
  obtain ⟨⟨first, foundFirst, idleFirst, planlessFirst⟩, second, foundSecond, idleSecond,
    planlessSecond⟩ := same.vacant position inside
  refine ⟨.hear position news :: sendSchedule position (postings.map Posting.batch),
    cancel_not_mem_hear position news _, news_of_hear position news _, ?_⟩
  rw [heard, Relay.sendAll_eq_passed same.calm.2 foundSecond idleSecond planlessSecond,
    perform_news same.calm.1 foundFirst idleFirst planlessFirst known hears]
  exact same.passed foundFirst idleFirst planlessFirst foundSecond idleSecond planlessSecond _ later

/-- **What a pipeline does on news a fleet that has done the same can do too.** -/
theorem Matches.step {fleet : Fleet} {pipeline : Pipeline} (same : fleet.Matches pipeline)
    (news : News) :
    ∃ moves, .relay .cancel ∉ moves ∧ moves.filterMap FleetMove.news? = [news] ∧
      (fleet.perform moves).Matches (pipeline.hear news) := by
  obtain ⟨sentServices, sentIngresses, watchers⟩ := same.watchers
  cases news with
  | services event =>
    let watch : Watch Service := ⟨pipeline.services, sentServices⟩
    have hears : (Watcher.services watch).hear? fleet.settings (.services event)
      = some ((watch.hear fleet.settings event).1, .services (watch.hear fleet.settings event).2) := rfl
    have heard : pipeline.hear (.services event)
        = ⟨pipeline.settings, (pipeline.services.apply event).2, pipeline.ingresses,
          pipeline.relay.sendAll 0 ((watch.hear fleet.settings event).1.map Posting.batch)⟩ := by
      rw [Watch.batches_hear, same.settings]
      rfl
    exact same.follows (by omega) (by rw [watchers]; rfl) hears heard ⟨_, _, by rw [watchers]; rfl⟩
  | ingresses event =>
    let watch : Watch Ingress := ⟨pipeline.ingresses, sentIngresses⟩
    have hears : (Watcher.ingresses watch).hear? fleet.settings (.ingresses event)
      = some ((watch.hear fleet.settings event).1, .ingresses (watch.hear fleet.settings event).2) := rfl
    have heard : pipeline.hear (.ingresses event)
        = ⟨pipeline.settings, pipeline.services, (pipeline.ingresses.apply event).2,
          pipeline.relay.sendAll 1 ((watch.hear fleet.settings event).1.map Posting.batch)⟩ := by
      rw [Watch.batches_hear, same.settings]
      rfl
    exact same.follows (by omega) (by rw [watchers]; rfl) hears heard ⟨_, _, by rw [watchers]; rfl⟩

theorem matches_start (settings : SyncSettings) :
    (start settings settings.recordTtl [.service, .ingress]).Matches (.start settings) := by
  refine ⟨rfl, ⟨[], [], rfl⟩, rfl, rfl, ⟨⟨rfl, rfl, rfl⟩, ⟨rfl, rfl, rfl⟩⟩, rfl,
    fun position inside => ?_⟩
  match position, inside with
  | 0, _ => exact ⟨⟨_, rfl, rfl, rfl⟩, ⟨_, rfl, rfl, rfl⟩⟩
  | 1, _ => exact ⟨⟨_, rfl, rfl, rfl⟩, ⟨_, rfl, rfl, rfl⟩⟩

/-- A fleet that matches a pipeline is at rest and has published the same. -/
theorem Matches.resting {fleet : Fleet} {pipeline : Pipeline} (same : fleet.Matches pipeline) :
    fleet.relay.Resting ∧ fleet.store = pipeline.store := by
  refine ⟨⟨fun sender member => ?_, by rw [same.calm.1.ready]; rfl⟩, ?_⟩
  · obtain ⟨position, found⟩ := List.mem_iff_getElem?.mp member
    have inside : position < 2 := same.senders ▸ (List.getElem?_eq_some_iff.mp found).1
    obtain ⟨vacant, there, idle, planless⟩ := (same.vacant position inside).1
    rw [found, Option.some.injEq] at there
    subst there
    rw [Sender.outstanding, idle, planless]
    rfl
  · rw [store, Relay.store, same.calls]
    rfl

/-- **A fleet can do what a pipeline does**: whatever news come, there are moves that bring them in
their order, after which the fleet is at rest and has published what the pipeline has. -/
theorem exists_moves_of_pipeline (settings : SyncSettings) (news : List News) :
    ∃ moves, .relay .cancel ∉ moves ∧ moves.filterMap FleetMove.news? = news ∧
      ((start settings settings.recordTtl [.service, .ingress]).perform moves).relay.Resting ∧
      ((start settings settings.recordTtl [.service, .ingress]).perform moves).store
        = (news.foldl Pipeline.hear (.start settings)).store := by
  have run : ∃ moves, .relay .cancel ∉ moves ∧ moves.filterMap FleetMove.news? = news ∧
      ((start settings settings.recordTtl [.service, .ingress]).perform moves).Matches
        (news.foldl Pipeline.hear (.start settings)) := by
    induction news using List.reverseRecOn with
    | nil => exact ⟨[], List.not_mem_nil, rfl, matches_start settings⟩
    | append_singleton news last ih =>
      obtain ⟨moves, uncancelled, brought, same⟩ := ih
      obtain ⟨further, uncancelledLast, broughtLast, sameLast⟩ := same.step last
      refine ⟨moves ++ further, ?_, ?_, ?_⟩
      · rw [List.mem_append, not_or]
        exact ⟨uncancelled, uncancelledLast⟩
      · rw [List.filterMap_append, brought, broughtLast]
      · rw [perform_append, List.foldl_append]
        exact sameLast
  obtain ⟨moves, uncancelled, brought, same⟩ := run
  exact ⟨moves, uncancelled, brought, same.resting⟩

end Fleet

end ClusterMdns
