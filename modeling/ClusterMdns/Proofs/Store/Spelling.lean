import ClusterMdns.Proofs.Name.Spelling
import ClusterMdns.Proofs.Store.Accounting

/-!
The store does not tell spellings apart.

Two runs of a store on requests that are spelled differently cannot be compared step by step on the stores
alone, as each store keeps the spellings that it was given. Both are compared with a third run: the one on
the same requests with all ASCII letters small. Folding goes through every operation (`fold_insert`,
`fold_remove`, `fold_lookup`), so that a run, folded, is the run on the folded requests, and requests that
are spellings of each other are equal when folded.

* `Record.fold_eq_iff_respells`: folded records are equal exactly if the records are spellings of one
  record.
* `Request.fold_serve`: folding goes through a request, and `Store.fold_reports`: through a run.
* `Store.blind_to_case`: what shows of two runs on spellings of the same requests, and that nothing but
  the case of ASCII letters is passed over.
-/

namespace ClusterMdns

/-! ### Spellings of records -/

/-- Whether data differ at most in the case of ASCII letters of a target. -/
inductive RecordData.Respells : RecordData → RecordData → Prop
  | ptr {target other : Name} (targets : target.Respells other) : Respells (.ptr target) (.ptr other)
  | srv (priority weight port : UInt16) {target other : Name} (targets : target.Respells other) :
      Respells (.srv priority weight port target) (.srv priority weight port other)
  | same (data : RecordData) : Respells data data

theorem RecordData.fold_eq_iff_respells (first second : RecordData) :
    first.fold = second.fold ↔ first.Respells second := by
  constructor
  · intro folded
    cases first <;> cases second <;>
      simp only [fold, ptr.injEq, srv.injEq, a.injEq, aaaa.injEq, txt.injEq, reduceCtorEq] at folded
    case a.a => exact folded ▸ .same _
    case aaaa.aaaa => exact folded ▸ .same _
    case ptr.ptr => exact .ptr ((Name.fold_eq_iff_respells _ _).mp folded)
    case srv.srv =>
      obtain ⟨rfl, rfl, rfl, targets⟩ := folded
      exact .srv _ _ _ ((Name.fold_eq_iff_respells _ _).mp targets)
    case txt.txt => exact folded ▸ .same _
  · intro respelled
    cases respelled with
    | ptr targets => exact congrArg ptr ((Name.fold_eq_iff_respells _ _).mpr targets)
    | srv priority weight port targets =>
      exact congrArg (srv priority weight port) ((Name.fold_eq_iff_respells _ _).mpr targets)
    | same => rfl

namespace Record

/-- Whether records differ at most in the case of ASCII letters of their names. -/
structure Respells (first second : Record) : Prop where
  owner : first.owner.Respells second.owner
  recordClass : first.recordClass = second.recordClass
  ttl : first.ttl = second.ttl
  data : first.data.Respells second.data

/-- The record with all ASCII letters of its names small. -/
def fold (record : Record) : Record :=
  { record with owner := record.owner.fold, data := record.data.fold }

/-- **Folded records are equal exactly if the records are spellings of one record.** -/
theorem fold_eq_iff_respells (first second : Record) :
    first.fold = second.fold ↔ first.Respells second := by
  unfold fold
  rw [mk.injEq, Name.fold_eq_iff_respells, RecordData.fold_eq_iff_respells]
  exact ⟨fun ⟨owner, recordClass, ttl, data⟩ => ⟨owner, recordClass, ttl, data⟩,
    fun ⟨owner, recordClass, ttl, data⟩ => ⟨owner, recordClass, ttl, data⟩⟩

instance (first second : Record) : Decidable (first.Respells second) :=
  decidable_of_iff _ (fold_eq_iff_respells first second)

theorem map_fold_eq_iff_respells (first second : List Record) :
    first.map fold = second.map fold ↔ List.Forall₂ Respells first second := by
  rw [map_eq_map_iff_forall₂]
  simp only [fold_eq_iff_respells]

theorem key_fold (record : Record) : record.fold.key = record.key := by
  simp only [key, fold, recordType, Name.fold_fold, RecordData.recordType_fold]

theorem fold_data_fold (record : Record) : record.fold.data.fold = record.data.fold :=
  record.data.fold_fold

/-- Records that publish the same thing are spellings of each other but for class and time to live. -/
theorem same_iff_respells (first second : Record) :
    first.Same second ↔ first.owner.Respells second.owner ∧ first.data.Respells second.data := by
  rw [Same, Name.fold_eq_iff_respells, RecordData.fold_eq_iff_respells]

end Record

/-! ### Requests -/

/-- What a store can be asked for. -/
inductive Request where
  | change (call : Call)
  | lookup (name : Name) (recordType : RecordType)
  | hasName (name : Name)
deriving DecidableEq, Repr

inductive Answer where
  | told (answer : Bool)
  | found (records : List Record)
deriving DecidableEq, Repr

/-- What shows of a store after a request. -/
structure Report where
  answer : Answer
  recordsCount : Nat
  namesCount : Nat
  serial : UInt32
deriving DecidableEq, Repr

namespace Request

/-- What a store answers, and the store after it. -/
def serve (store : Store) : Request → Answer × Store
  | change call => (.told (call.run store).1, call.apply store)
  | lookup name recordType => (.found (store.lookup name recordType), store)
  | hasName name => (.told (store.hasName name), store)

/-- What shows of a store after a request. -/
def report (store : Store) (request : Request) : Report :=
  let (answer, next) := request.serve store
  ⟨answer, next.recordsCount, next.namesCount, next.serial⟩

end Request

namespace Store

/-- The store after requests. -/
def after (store : Store) (requests : List Request) : Store :=
  requests.foldl (fun store request => (request.serve store).2) store

/-- What shows of a store after each of some requests. -/
def reports (store : Store) : List Request → List Report
  | [] => []
  | request :: rest => request.report store :: (request.serve store).2.reports rest

end Store

/-- Whether calls ask for the same thing, of records that are spellings of each other. -/
inductive Call.Respells : Call → Call → Prop
  | publish {record other : Record} (records : record.Respells other) :
      Respells (.publish record) (.publish other)
  | unpublish {record other : Record} (records : record.Respells other) :
      Respells (.unpublish record) (.unpublish other)

/-- Whether requests differ at most in the case of ASCII letters of names. -/
inductive Request.Respells : Request → Request → Prop
  | change {call other : Call} (calls : call.Respells other) : Respells (.change call) (.change other)
  | lookup {name other : Name} (names : name.Respells other) (recordType : RecordType) :
      Respells (.lookup name recordType) (.lookup other recordType)
  | hasName {name other : Name} (names : name.Respells other) :
      Respells (.hasName name) (.hasName other)

/-- Whether answers are equal, records position by position up to the case of ASCII letters of names. -/
inductive Answer.Respells : Answer → Answer → Prop
  | told (answer : Bool) : Respells (.told answer) (.told answer)
  | found {records others : List Record} (each : List.Forall₂ Record.Respells records others) :
      Respells (.found records) (.found others)

structure Report.Respells (first second : Report) : Prop where
  answer : first.answer.Respells second.answer
  recordsCount : first.recordsCount = second.recordsCount
  namesCount : first.namesCount = second.namesCount
  serial : first.serial = second.serial

/-! ### Folding a store -/

namespace Store

/-- Groups with all names of their records folded. Their keys are. -/
def foldGroups (groups : List (RecordKey × List Record)) : List (RecordKey × List Record) :=
  groups.map fun group => (group.1, group.2.map Record.fold)

def fold (store : Store) : Store := ⟨foldGroups store.groups, store.serial⟩

section Groups

variable (groups : List (RecordKey × List Record))

theorem foldGroups_cons (first : RecordKey × List Record) :
    foldGroups (first :: groups) = (first.1, first.2.map Record.fold) :: foldGroups groups := rfl

theorem groupIn_foldGroups (key : RecordKey) :
    groupIn key (foldGroups groups) = (groupIn key groups).map Record.fold := by
  induction groups with
  | nil => rfl
  | cons first rest ih =>
    rw [foldGroups_cons, groupIn, groupIn, ih, apply_ite (List.map Record.fold)]

theorem heldIn_fold (record : Record) (group : List Record) :
    heldIn record.fold (group.map Record.fold) = heldIn record group := by
  simp only [heldIn, List.any_map, Function.comp_def, Record.fold_data_fold]

theorem remaining_fold (record : Record) (group : List Record) :
    remaining record.fold (group.map Record.fold) = (remaining record group).map Record.fold := by
  simp only [remaining, List.filter_map, Function.comp_def, Record.fold_data_fold]

theorem appended_fold (record : Record) :
    appended record.fold (foldGroups groups) = foldGroups (appended record groups) := by
  induction groups with
  | nil =>
    show [(record.fold.key, [record.fold])] = [(record.key, [record.fold])]
    rw [Record.key_fold]
  | cons first rest ih =>
    rw [foldGroups_cons, appended, appended, Record.key_fold, ih, apply_ite foldGroups,
      foldGroups_cons, foldGroups_cons, List.map_append]
    rfl

theorem withdrawn_fold (record : Record) :
    withdrawn record.fold (foldGroups groups) = foldGroups (withdrawn record groups) := by
  induction groups with
  | nil => rfl
  | cons first rest ih =>
    rw [foldGroups_cons, withdrawn, withdrawn, Record.key_fold, ih]
    dsimp only
    rw [remaining_fold, List.isEmpty_map, apply_ite foldGroups, apply_ite foldGroups]
    rfl

end Groups

variable (store : Store)

theorem contains_fold (record : Record) : store.fold.contains record.fold = store.contains record := by
  unfold contains group fold
  rw [Record.key_fold, groupIn_foldGroups, heldIn_fold]

/-- Folding goes through an insertion. -/
theorem fold_insert (record : Record) :
    store.fold.insert record.fold = ((store.insert record).1, (store.insert record).2.fold) := by
  unfold insert
  rw [contains_fold]
  split
  case isTrue => rfl
  case isFalse =>
    unfold fold
    dsimp only
    rw [appended_fold]

/-- Folding goes through a removal. -/
theorem fold_remove (record : Record) :
    store.fold.remove record.fold = ((store.remove record).1, (store.remove record).2.fold) := by
  unfold remove
  rw [contains_fold]
  split
  case isTrue =>
    unfold fold
    dsimp only
    rw [withdrawn_fold]
  case isFalse => rfl

/-- Folding goes through a look-up. -/
theorem fold_lookup (name : Name) (recordType : RecordType) :
    store.fold.lookup name.fold recordType = (store.lookup name recordType).map Record.fold := by
  unfold lookup group fold
  rw [Name.fold_fold, groupIn_foldGroups]

theorem owners_fold : store.fold.owners = store.owners := by
  unfold owners fold foldGroups
  rw [List.map_map]
  rfl

theorem hasName_fold (name : Name) : store.fold.hasName name.fold = store.hasName name := by
  unfold hasName
  rw [owners_fold, Name.fold_fold]

theorem recordsCount_fold : store.fold.recordsCount = store.recordsCount := by
  unfold recordsCount records fold foldGroups
  rw [List.length_flatMap, List.length_flatMap, List.map_map]
  congr 2
  funext group
  exact List.length_map _

theorem namesCount_fold : store.fold.namesCount = store.namesCount := by
  unfold namesCount
  rw [owners_fold]

end Store

/-! ### Folding a run -/

def Call.fold : Call → Call
  | publish record => publish record.fold
  | unpublish record => unpublish record.fold

/-- The request with all ASCII letters of its names small. -/
def Request.fold : Request → Request
  | change call => .change call.fold
  | lookup name recordType => .lookup name.fold recordType
  | hasName name => .hasName name.fold

def Answer.fold : Answer → Answer
  | told answer => told answer
  | found records => found (records.map Record.fold)

def Report.fold (report : Report) : Report := { report with answer := report.answer.fold }

theorem Call.fold_eq_of_respells {first second : Call} (respelled : first.Respells second) :
    first.fold = second.fold := by
  cases respelled with
  | publish records => exact congrArg publish ((Record.fold_eq_iff_respells _ _).mpr records)
  | unpublish records => exact congrArg unpublish ((Record.fold_eq_iff_respells _ _).mpr records)

theorem Request.fold_eq_of_respells {first second : Request} (respelled : first.Respells second) :
    first.fold = second.fold := by
  cases respelled with
  | change calls => exact congrArg change (Call.fold_eq_of_respells calls)
  | lookup names recordType =>
    exact congrArg (lookup · recordType) ((Name.fold_eq_iff_respells _ _).mpr names)
  | hasName names => exact congrArg hasName ((Name.fold_eq_iff_respells _ _).mpr names)

theorem Answer.respells_of_fold_eq {first second : Answer} (folded : first.fold = second.fold) :
    first.Respells second := by
  cases first with
  | told answer =>
    cases second with
    | told other =>
      cases folded
      exact .told answer
    | found => cases folded
  | found records =>
    cases second with
    | told => cases folded
    | found others =>
      exact .found ((Record.map_fold_eq_iff_respells records others).mp (found.inj folded))

theorem Report.respells_of_fold_eq {first second : Report} (folded : first.fold = second.fold) :
    first.Respells second := by
  unfold fold at folded
  rw [mk.injEq] at folded
  obtain ⟨answer, recordsCount, namesCount, serial⟩ := folded
  exact ⟨Answer.respells_of_fold_eq answer, recordsCount, namesCount, serial⟩

theorem Call.fold_run (store : Store) (call : Call) :
    call.fold.run store.fold = ((call.run store).1, (call.run store).2.fold) := by
  cases call with
  | publish record => exact store.fold_insert record
  | unpublish record => exact store.fold_remove record

namespace Request

/-- **Folding goes through a request**: through what is answered and through the store after it. -/
theorem fold_serve (store : Store) (request : Request) :
    request.fold.serve store.fold = ((request.serve store).1.fold, (request.serve store).2.fold) := by
  cases request with
  | change call =>
    show (Answer.told (call.fold.run store.fold).1, (call.fold.run store.fold).2) = _
    rw [Call.fold_run]
    rfl
  | lookup name recordType =>
    show (Answer.found (store.fold.lookup name.fold recordType), store.fold) = _
    rw [Store.fold_lookup]
    rfl
  | hasName name =>
    show (Answer.told (store.fold.hasName name.fold), store.fold) = _
    rw [Store.hasName_fold]
    rfl

theorem fold_report (store : Store) (request : Request) :
    request.fold.report store.fold = (request.report store).fold := by
  unfold report
  rw [fold_serve]
  dsimp only [Report.fold]
  rw [Store.recordsCount_fold, Store.namesCount_fold]
  rfl

theorem sound_serve {store : Store} (sound : store.Sound) (request : Request) :
    (request.serve store).2.Sound := by
  cases request with
  | change call => exact sound.apply call
  | lookup => exact sound
  | hasName => exact sound

end Request

namespace Store

/-- **Folding goes through a run of requests.** -/
theorem fold_reports (store : Store) (requests : List Request) :
    store.fold.reports (requests.map Request.fold) = (store.reports requests).map Report.fold := by
  induction requests generalizing store with
  | nil => rfl
  | cons request rest ih =>
    simp only [List.map_cons, reports]
    rw [Request.fold_report, Request.fold_serve, ih]

theorem Sound.after {store : Store} (sound : store.Sound) (requests : List Request) :
    (store.after requests).Sound := by
  induction requests generalizing store with
  | nil => exact sound
  | cons request rest ih => exact ih (Request.sound_serve sound request)

/-- Runs of a store on spellings of the same requests show the same, up to spelling. -/
theorem reports_respell (store : Store) {first second : List Request}
    (respelled : List.Forall₂ Request.Respells first second) :
    List.Forall₂ Report.Respells (store.reports first) (store.reports second) := by
  have folded : first.map Request.fold = second.map Request.fold :=
    (map_eq_map_iff_forall₂ Request.fold first second).mpr
      (respelled.imp fun _ _ => Request.fold_eq_of_respells)
  have reported : (store.reports first).map Report.fold = (store.reports second).map Report.fold := by
    rw [← fold_reports, ← fold_reports, folded]
  exact ((map_eq_map_iff_forall₂ Report.fold _ _).mp reported).imp fun _ _ =>
    Report.respells_of_fold_eq

/-- **The store is blind to the case of ASCII letters.** Take two lists of requests to an empty store that
differ only in the case of ASCII letters of owners, queried names and targets. After each request all that
is answered and counted is equal, and what is found agrees position by position up to that case.

Nothing else is passed over. In every store that is reached, a name is known if a record has a spelling of
it as its owner, records are found under the spellings of their owners, and publishing changes nothing
exactly if a record is there whose owner and data are respelled. Names are spellings of one name if their
texts agree up to ASCII letters: other letters have to be equal. -/
theorem blind_to_case {first second : List Request}
    (respelled : List.Forall₂ Request.Respells first second) :
    List.Forall₂ Report.Respells (empty.reports first) (empty.reports second) ∧
      (∀ name, (empty.after first).hasName name = true ↔
        ∃ held ∈ (empty.after first).records, held.owner.Respells name) ∧
      (∀ name recordType held, held ∈ (empty.after first).lookup name recordType ↔
        held ∈ (empty.after first).records ∧ held.owner.Respells name ∧
          held.recordType = recordType) ∧
      (∀ record, ((empty.after first).insert record).1 = false ↔
        ∃ held ∈ (empty.after first).records,
          held.owner.Respells record.owner ∧ held.data.Respells record.data) ∧
      ∀ texts others : List (List Char),
        (Name.mk (texts.map Name.utf8)).Respells ⟨others.map Name.utf8⟩ ↔
          List.Forall₂ (List.Forall₂ fun c other => SameLetter c.toNat other.toNat) texts others := by
  have sound : (empty.after first).Sound := sound_empty.after first
  refine ⟨reports_respell empty respelled, ?_, ?_, ?_, Name.respells_utf8_iff⟩
  · intro name
    rw [hasName_iff sound]
    simp only [Name.fold_eq_iff_respells]
  · intro name recordType held
    rw [mem_lookup_iff sound, Name.fold_eq_iff_respells]
  · intro record
    rw [insert_fst, Bool.not_eq_false', sound.contains_iff_exists]
    simp only [Record.same_iff_respells]

/-- Pointers that are published under one spelling and looked up and withdrawn under others. The second
owner begins with a letter beyond ASCII: its capital makes another name. -/
theorem blind_to_case_of_pointers :
    let name (text : String) : Name := ⟨[Name.utf8 text.toList, Name.utf8 "local".toList]⟩
    let pointer (owner target : String) : Record := ⟨name owner, .internet, 120, .ptr (name target)⟩
    let first : List Request :=
      [.change (.publish (pointer "App" "Web")), .change (.publish (pointer "écho" "Web")),
        .lookup (name "APP") .ptr, .hasName (name "Écho"), .change (.unpublish (pointer "app" "WEB"))]
    let second : List Request :=
      [.change (.publish (pointer "aPP" "web")), .change (.publish (pointer "éCHO" "weB")),
        .lookup (name "app") .ptr, .hasName (name "ÉCHO"), .change (.unpublish (pointer "APP" "weB"))]
    List.Forall₂ Request.Respells first second ∧
      List.Forall₂ Report.Respells (empty.reports first) (empty.reports second) ∧
      empty.reports second =
        [⟨.told true, 1, 1, 1⟩, ⟨.told true, 2, 2, 2⟩, ⟨.found [pointer "aPP" "web"], 2, 2, 2⟩,
          ⟨.told false, 2, 2, 2⟩, ⟨.told true, 1, 1, 3⟩] := by
  intro name pointer first second
  have apps : (pointer "App" "Web").Respells (pointer "aPP" "web") := by decide +kernel
  have echoes : (pointer "écho" "Web").Respells (pointer "éCHO" "weB") := by decide +kernel
  have gone : (pointer "app" "WEB").Respells (pointer "APP" "weB") := by decide +kernel
  have asked : (name "APP").Respells (name "app") := by decide +kernel
  have sought : (name "Écho").Respells (name "ÉCHO") := by decide +kernel
  have respelled : List.Forall₂ Request.Respells first second :=
    .cons (.change (.publish apps)) <| .cons (.change (.publish echoes)) <|
      .cons (.lookup asked .ptr) <| .cons (.hasName sought) <| .cons (.change (.unpublish gone)) .nil
  exact ⟨respelled, (blind_to_case respelled).1, by decide +kernel⟩

end Store

end ClusterMdns
