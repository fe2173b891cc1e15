import MarketMind.Content.CandidateRepository

/-!
Owns the agreement of the two sides of a candidate's state: the repository that
emits the events, and the intake that reduces them. The repository is simulated
by the records that the intake has reduced, one candidate at a time.
-/

namespace MarketMind.Content.CandidateRepository

open Publishing Publishing.Contract Publishing.Intake

/-! ### The intake of what is emitted -/

/-- The records of the intake, by the identity of the candidate. -/
abbrev Records := String → Option Fields

def candidateOf (event : Fields) : String :=
  textOf (property (Json.get event "payload") "candidate_id")

/-- What the reducer answers to an event, given the record of its candidate. -/
def answer (host : Host) (records : Records) (event : Fields) (now : Publishing.Instant) :
    IntakeResult :=
  reducePublicationCandidateEventV1 host (records (candidateOf event)) (.object event)
    (host.toISOString now)

/-- The records with what the reducer returned. -/
def keep (host : Host) (records : Records) (event : Fields) (now : Publishing.Instant) : Records :=
  fun id => if id = candidateOf event then (answer host records event now).record else records id

/-- The records after events, the `n`-th of which is received at `clock n`. -/
def intake (host : Host) (clock : Nat → Publishing.Instant) (events : List Fields) : Records :=
  events.zipIdx.foldl (fun records event => keep host records event.1 (clock event.2))
    fun _ => none

/-- Every event is accepted in its turn, as applied or as an identical replay. -/
def Accepted (host : Host) (clock : Nat → Publishing.Instant) (events : List Fields) : Prop :=
  ∀ position event, events[position]? = some event →
    (answer host (intake host clock (events.take position)) event (clock position)).accepted = true

def events (database : Database) : List Fields := database.outbox.map (·.payload)

/-- The record has the state and the version that the tables store. -/
structure SameState (database : Database) (row : PublicationCandidate) (record : Fields) :
    Prop where
  state : Json.get record "source_state" = some (.string row.state.text)
  latest : ∃ status, latestStatus database row.id = some status ∧
    status.candidateState = row.state ∧
    Json.get record "source_state_version" = some (.number (.integer status.stateVersion))

/-- The intake accepts every event, and ends with the stored state of every candidate. -/
structure Agrees (platform : Platform) (clock : Nat → Publishing.Instant)
    (database : Database) : Prop where
  accepted : Accepted platform.host clock (events database)
  states : ∀ row ∈ database.candidates, ∃ record,
    intake platform.host clock (events database) row.candidateId.text = some record ∧
      SameState database row record

/-- A replacement that names no replacement. -/
def isUnnamed : Operation → Bool
  | .changeCandidateState _ .replaced _ none _ _ => true
  | _ => false

/-- The repository accepts no replacement that names none. -/
def NamesReplacements (platform : Platform) : Database → List Operation → Prop
  | _, [] => True
  | database, operation :: rest =>
      (isUnnamed operation = true → ∃ error, perform platform database operation = .error error) ∧
        NamesReplacements platform (after platform database operation) rest

theorem intake_concat (host : Host) (clock : Nat → Publishing.Instant) (earlier : List Fields)
    (event : Fields) :
    intake host clock (earlier ++ [event]) =
      keep host (intake host clock earlier) event (clock earlier.length) := by
  unfold intake
  rw [List.zipIdx_append, List.foldl_append]
  simp

theorem accepted_concat {host : Host} {clock : Nat → Publishing.Instant} {earlier : List Fields}
    {event : Fields} :
    Accepted host clock (earlier ++ [event]) ↔ Accepted host clock earlier ∧
      (answer host (intake host clock earlier) event (clock earlier.length)).accepted = true := by
  constructor
  · intro accepted
    constructor
    · intro position found isFound
      obtain ⟨below, -⟩ := List.getElem?_eq_some_iff.mp isFound
      have later := accepted position found (by rw [List.getElem?_append_left below, isFound])
      rwa [List.take_append_of_le_length (Nat.le_of_lt below)] at later
    · have last := accepted earlier.length event (by simp)
      simpa using last
  · rintro ⟨accepted, last⟩ position found isFound
    by_cases below : position < earlier.length
    · rw [List.getElem?_append_left below] at isFound
      rw [List.take_append_of_le_length (Nat.le_of_lt below)]
      exact accepted position found isFound
    · have atEnd : position = earlier.length := by
        obtain ⟨inside, -⟩ := List.getElem?_eq_some_iff.mp isFound
        simp only [List.length_append, List.length_cons, List.length_nil] at inside
        omega
      subst atEnd
      simp only [List.getElem?_concat_length, Option.some.injEq] at isFound
      subst isFound
      simpa using last

/-- What is accepted stays accepted when later events are taken away. -/
theorem accepted_of_prefix {host : Host} {clock : Nat → Publishing.Instant}
    {earlier later : List Fields}
    (isPrefix : earlier <+: later) (accepted : Accepted host clock later) :
    Accepted host clock earlier := by
  obtain ⟨rest, rfl⟩ := isPrefix
  intro position found isFound
  obtain ⟨below, -⟩ := List.getElem?_eq_some_iff.mp isFound
  have later := accepted position found (by rw [List.getElem?_append_left below, isFound])
  rwa [List.take_append_of_le_length (Nat.le_of_lt below)] at later

/-! ### What the operations do -/

theorem ok_of_require {condition : Bool} {error : CandidateError}
    (passed : require condition error = .ok ()) : condition = true := by
  unfold require at passed
  split at passed
  · next holds => exact holds
  · cases passed

/-- The continuation of a call that succeeded. -/
theorem ok_of_bind {α β : Type} {first : Except CandidateError α}
    {next : α → Except CandidateError β} {result : β} (ok : first >>= next = .ok result) :
    ∃ value, first = .ok value ∧ next value = .ok result := by
  cases first with
  | error error => cases ok
  | ok value => exact ⟨value, rfl, ok⟩

theorem createStatus_ok {database next : Database} {status : PublicationCandidateStatus}
    (ok : createStatus database status = .ok next) :
    next = { database with statuses := database.statuses ++ [status] } := by
  obtain ⟨-, -, stored⟩ := ok_of_bind ok
  exact (Except.ok.inj stored).symm

theorem createOutbox_ok {database next : Database} {row : PublicationCandidateOutbox}
    (ok : createOutbox database row = .ok next) :
    next = { database with outbox := database.outbox ++ [row] } := by
  obtain ⟨-, -, stored⟩ := ok_of_bind ok
  exact (Except.ok.inj stored).symm

theorem createRow_ok {database next : Database} {row : PublicationCandidate}
    (ok : createRow database row = .ok next) :
    (∀ other ∈ database.candidates, other.id ≠ row.id ∧ other.candidateId ≠ row.candidateId) ∧
      next = { database with candidates := database.candidates ++ [row] } := by
  obtain ⟨_, passed, stored⟩ := ok_of_bind ok
  have fresh := ok_of_require passed
  simp only [Bool.not_eq_true', List.any_eq_false, Bool.or_eq_true, decide_eq_true_eq, not_or]
    at fresh
  exact ⟨fun other member => (fresh other member).1, (Except.ok.inj stored).symm⟩

theorem userColumn_ok {platform : Platform} {database : Database} {text : String} {id : UuidText}
    (ok : userColumn platform database text = .ok id) : platform.readUuid text = some id := by
  unfold userColumn at ok
  split at ok
  · next found isFound =>
    split at ok
    · rw [isFound, Except.ok.inj ok]
    · cases ok
  · cases ok

/-- What an accepted creation has found and leaves. -/
structure Created (platform : Platform) (database : Database) (draw : Draw) (next : Database)
    (row : PublicationCandidate) (status : PublicationCandidateStatus) : Prop where
  fresh : ∀ other ∈ database.candidates,
    other.id ≠ row.id ∧ other.candidateId ≠ row.candidateId
  valid : validatePublicationCandidateV1 platform.host (some (.object row.payload)) = []
  candidateId : Json.get row.payload "candidate_id" = some row.candidateId.json
  businessId : Json.get row.payload "business_id" = some row.businessId.json
  checksum : Json.get row.payload "candidate_checksum" = some (.string row.candidateChecksum)
  isActive : row.state = .active
  statusRow : status.candidateId = row.id
  statusState : status.candidateState = .active
  statusVersion : status.stateVersion = 1
  leaves : next = { database with
    candidates := database.candidates ++ [row]
    statuses := database.statuses ++ [status]
    outbox := database.outbox ++ [{
      eventId := draw.eventId, candidateId := row.candidateId
      payload := eventOf platform.host draw.eventId createdType draw.now row.candidateId
        row.payload }] }

theorem createCandidate_ok {platform : Platform} {database next : Database}
    {input : CreateCandidateInput} {draw : Draw}
    (ok : createCandidate platform database input draw = .ok next) :
    ∃ row status, Created platform database draw next row status := by
  unfold createCandidate at ok
  dsimp only at ok
  split at ok
  · cases ok
  · obtain ⟨caption, -, ok⟩ := ok_of_bind ok
    obtain ⟨_, passed, ok⟩ := ok_of_bind ok
    obtain ⟨withRow, createdRow, ok⟩ := ok_of_bind ok
    obtain ⟨owner, -, ok⟩ := ok_of_bind ok
    obtain ⟨withStatus, createdStatus, ok⟩ := ok_of_bind ok
    obtain ⟨fresh, rfl⟩ := createRow_ok createdRow
    obtain rfl := createStatus_ok createdStatus
    obtain rfl := createOutbox_ok ok
    refine ⟨_, _, fresh, ?_, rfl, rfl, rfl, rfl, rfl, rfl, rfl, rfl⟩
    exact List.isEmpty_iff.mp (ok_of_require passed)

/-- The version that the next status of a candidate gets. -/
def nextVersion (database : Database) (id : UuidText) : Nat :=
  (latestStatus database id).elim 1 (·.stateVersion + 1)

/-- What an accepted change of state has found and leaves. -/
structure Changed (platform : Platform) (database : Database) (candidateId : UuidText)
    (newState : NewState) (byUserId : String) (replacementId : Option String) (eventId : UuidText)
    (now : Publishing.Instant) (next : Database) (row : PublicationCandidate)
    (status : PublicationCandidateStatus) : Prop where
  isStored : database.candidates.find? (·.id = candidateId) = some row
  named : ∀ text, replacementId = some text → ∃ id, platform.readUuid text = some id
  actor : ∃ id, platform.readUuid byUserId = some id
  statusRow : status.candidateId = candidateId
  statusState : status.candidateState = newState.state
  statusVersion : status.stateVersion = nextVersion database candidateId
  leaves : next = { database with
    candidates := database.candidates.map fun other =>
      if other.id = candidateId && other.state = row.state then
        { other with state := newState.state } else other
    statuses := database.statuses ++ [status]
    outbox := database.outbox ++ [{
      eventId, candidateId := row.candidateId
      payload := eventOf platform.host eventId stateChangedType now row.candidateId
        (statusPayload platform.host row (nextVersion database candidateId) newState byUserId
          replacementId now) }] }

theorem changeCandidateState_ok {platform : Platform} {database next : Database}
    {candidateId : UuidText} {newState : NewState} {byUserId : String}
    {replacementId : Option String} {eventId : UuidText} {now : Publishing.Instant}
    (ok : changeCandidateState platform database candidateId newState byUserId replacementId
      eventId now = .ok next) :
    ∃ row status, Changed platform database candidateId newState byUserId replacementId eventId now
      next row status := by
  unfold changeCandidateState at ok
  dsimp only at ok
  split at ok
  · cases ok
  · next row isStored =>
    obtain ⟨replacement, named, ok⟩ := ok_of_bind ok
    obtain ⟨actor, isActor, ok⟩ := ok_of_bind ok
    obtain ⟨withStatus, createdStatus, ok⟩ := ok_of_bind ok
    obtain ⟨withEvent, createdEvent, ok⟩ := ok_of_bind ok
    obtain rfl := createStatus_ok createdStatus
    obtain rfl := createOutbox_ok createdEvent
    obtain rfl := Except.ok.inj ok
    refine ⟨row, _, isStored, ?_, ⟨actor, userColumn_ok isActor⟩, rfl, rfl, rfl, rfl⟩
    intro text isText
    subst isText
    unfold replacementColumn at named
    dsimp only at named
    split at named
    · next id isRead => exact ⟨id, isRead⟩
    · cases named

/-! ### The events -/

theorem not_whiteSpace_of_hexDigit {char : Char} (isHex : isHexDigit char = true) :
    isWhiteSpace char = false := by
  unfold isHexDigit at isHex
  simp only [Bool.or_eq_true, Bool.and_eq_true, decide_eq_true_eq, Char.le_def,
    UInt32.le_iff_toNat_le] at isHex
  have value : char.toNat = char.val.toNat := rfl
  have bounds : '0'.val.toNat = 48 ∧ '9'.val.toNat = 57 ∧ 'a'.val.toNat = 97 ∧
      'f'.val.toNat = 102 ∧ 'A'.val.toNat = 65 ∧ 'F'.val.toNat = 70 := by decide
  unfold isWhiteSpace
  simp only [value, Bool.or_eq_false_iff, Bool.and_eq_false_iff, decide_eq_false_iff_not]
  omega

/-- A UUID is not blank. -/
theorem nonEmpty_of_uuid (id : UuidText) : isNonEmptyString (some id.json) = true := by
  have isUuid := id.isUuid
  unfold Contract.isUuid isHexGroups at isUuid
  simp only [Bool.and_eq_true, decide_eq_true_eq] at isUuid
  obtain ⟨⟨eight, hex⟩, -⟩ := isUuid
  unfold UuidText.json isNonEmptyString
  cases chars : id.text.toList with
  | nil => simp [chars] at eight
  | cons first rest =>
      rw [chars] at hex
      simp only [List.take_succ_cons, List.all_cons, Bool.and_eq_true] at hex
      dsimp only
      rw [chars, List.any_cons, not_whiteSpace_of_hexDigit hex.1]
      rfl

section Agreement

variable {platform : Platform}
  (digests : ∀ text, isSha256Text (platform.host.sha256 text) = true)
  (times : ∀ instant, isIsoDateTime platform.host
    (some (.string (platform.host.toISOString instant))) = true)
  (reads : ∀ text id, platform.readUuid text = some id →
    isNonEmptyString (some (.string text)) = true)

include times in
theorem envelope_eventOf (eventId : UuidText) (type : String) (now received : Publishing.Instant)
    (candidateId : UuidText) (payload : Fields) :
    validateEventEnvelope platform.host
      (eventOf platform.host eventId type now candidateId payload)
      (platform.host.toISOString received) = [] := by
  unfold validateEventEnvelope eventOf
  simp [eventFields, Json.get, issueWhen_eq_nil, UuidText.json, eventId.isUuid, candidateId.isUuid,
    times]

theorem candidateOf_eventOf {host : Host} {eventId : UuidText} {type : String}
    {now : Publishing.Instant}
    {candidateId : UuidText} {payload : Fields}
    (binds : Json.get payload "candidate_id" = some candidateId.json) :
    candidateOf (eventOf host eventId type now candidateId payload) = candidateId.text := by
  have found : Json.get (eventOf host eventId type now candidateId payload) "payload" =
      some (.object payload) := by
    simp [eventOf, Json.get]
  unfold candidateOf
  rw [found, property_object, binds]
  rfl

/-- The status of a change is valid exactly when a replacement is named. -/
theorem statusPayload_accepted (times : ∀ instant, isIsoDateTime platform.host
      (some (.string (platform.host.toISOString instant))) = true)
    {row : PublicationCandidate} {version : Nat} {newState : NewState} {byUserId : String}
    {replacementId : Option String} {now : Publishing.Instant}
    (checksum : isSha256Text row.candidateChecksum = true) (positive : 1 ≤ version)
    (actor : isNonEmptyString (some (.string byUserId)) = true) :
    validatePublicationCandidateStatusV1 platform.host (some (.object
        (statusPayload platform.host row version newState byUserId replacementId now))) = [] ↔
      (newState = .replaced →
        isNonEmptyString (some (.string (replacementId.getD ""))) = true) := by
  have namesCandidate := nonEmpty_of_uuid row.candidateId
  have namesBusiness := nonEmpty_of_uuid row.businessId
  have isVersion : (1 : Int) ≤ version := by omega
  unfold validatePublicationCandidateStatusV1 statusPayload
  cases newState <;>
    simp [Json.fields?, Json.get, rejectExtraContentFields, candidateStatusFields,
      contentIssueWhen_eq_nil, isText, isNull, strictEquals, includes, candidateStates, integerOf,
      Number.integer?, isSha256, NewState.state, CandidateState.text, namesCandidate,
      namesBusiness, checksum, actor, times, isVersion]

end Agreement

/-! ### The latest status -/

theorem latestStatus_append_other {database next : Database} {status : PublicationCandidateStatus}
    {id : UuidText} (statuses : next.statuses = database.statuses ++ [status])
    (apart : status.candidateId ≠ id) : latestStatus next id = latestStatus database id := by
  unfold latestStatus
  rw [statuses, List.filter_append]
  simp [apart]

theorem latestStatus_append_same {database next : Database} {status : PublicationCandidateStatus}
    (statuses : next.statuses = database.statuses ++ [status])
    (newer : ∀ latest, latestStatus database status.candidateId = some latest →
      latest.stateVersion < status.stateVersion) :
    latestStatus next status.candidateId = some status := by
  have own : List.filter (·.candidateId = status.candidateId) [status] = [status] := by simp
  unfold latestStatus at newer ⊢
  rw [statuses, List.filter_append, own, List.argmax_concat]
  cases latest : (database.statuses.filter (·.candidateId = status.candidateId)).argmax
      (·.stateVersion) with
  | none => rfl
  | some found => exact if_pos (newer found latest)

/-! ### The simulation -/

/-- The record of the intake is that of the row. -/
structure Mirrors (host : Host) (database : Database) (row : PublicationCandidate)
    (record : Fields) : Prop where
  valid : ValidRecord host record
  candidateId : Json.get record "candidate_id" = some row.candidateId.json
  businessId : Json.get record "business_id" = some row.businessId.json
  checksum : Json.get record "candidate_checksum" = some (.string row.candidateChecksum)
  same : SameState database row record

/-- The tables are well formed, and the records are those of the rows. -/
structure Consistent (platform : Platform) (database : Database) (records : Records) : Prop where
  ids : (database.candidates.map (·.id)).Nodup
  candidateIds : (database.candidates.map (·.candidateId)).Nodup
  owned : ∀ status ∈ database.statuses, ∃ row ∈ database.candidates, row.id = status.candidateId
  mirrors : ∀ row ∈ database.candidates, ∃ record,
    records row.candidateId.text = some record ∧ Mirrors platform.host database row record
  absent : ∀ text, (∀ row ∈ database.candidates, row.candidateId.text ≠ text) →
    records text = none

theorem UuidText.eq_of_text {left right : UuidText} (same : left.text = right.text) :
    left = right := by
  cases left
  cases right
  cases same
  rfl

/-- A valid change of a valid record is applied when its version is above. -/
theorem reduce_changed {host : Host} {record event : Fields} {receivedAt : String}
    {old new : Int} (valid : ValidRecord host record)
    (type : isText (Json.get event "event_type") stateChangedType = true)
    (change : ValidChange host record event receivedAt)
    (leaves : isText (property (Json.get event "payload") "candidate_state") "active" = false)
    (stored : integerOf (Json.get record "source_state_version") = some old)
    (incoming : integerOf (property (Json.get event "payload") "state_version") = some new)
    (above : old < new) :
    reducePublicationCandidateEventV1 host (some record) (.object event) receivedAt =
      success .applied (changedRecord host record event receivedAt) := by
  unfold reducePublicationCandidateEventV1 reduceStateChangedEvent
  dsimp only [Json.fields?, Option.elim]
  rw [if_neg (not_not.mpr change.envelope), if_neg (not_not.mpr (validRecord_iff.mpr valid)),
    if_neg (by simp [type_apart type]), if_pos type,
    if_neg (not_not.mpr (mapContentValidation_eq_nil.mpr change.status)),
    if_neg (by simp [leaves]), if_neg (by simp [change.bindsRecord]),
    if_neg (by simp [isBelow, incoming, stored]; omega),
    if_neg (by simp [isSame, incoming, stored]; omega)]

section Simulation

variable {platform : Platform} {database next : Database} {records : Records}
  {row : PublicationCandidate} {status : PublicationCandidateStatus}
  (digests : ∀ text, isSha256Text (platform.host.sha256 text) = true)
  (times : ∀ instant, isIsoDateTime platform.host
    (some (.string (platform.host.toISOString instant))) = true)
  (reads : ∀ text id, platform.readUuid text = some id →
    isNonEmptyString (some (.string text)) = true)

/-- A row that the step does not touch keeps its record. -/
theorem Mirrors.frame {other : PublicationCandidate} {record : Fields}
    (mirrors : Mirrors platform.host database other record)
    (statuses : next.statuses = database.statuses ++ [status])
    (apart : status.candidateId ≠ other.id) : Mirrors platform.host next other record := by
  obtain ⟨latest, isLatest, facts⟩ := mirrors.same.latest
  refine ⟨mirrors.valid, mirrors.candidateId, mirrors.businessId, mirrors.checksum,
    mirrors.same.state, latest, ?_, facts⟩
  rw [latestStatus_append_other statuses apart, isLatest]

/-- The event of a creation. -/
def Created.event {draw : Draw} (_ : Created platform database draw next row status) : Fields :=
  eventOf platform.host draw.eventId createdType draw.now row.candidateId row.payload

include digests times in
theorem created_step {draw : Draw} (consistent : Consistent platform database records)
    (created : Created platform database draw next row status) (now : Publishing.Instant) :
    (answer platform.host records created.event now).accepted = true ∧
      Consistent platform next (keep platform.host records created.event now) := by
  have isFor : candidateOf created.event = row.candidateId.text :=
    candidateOf_eventOf created.candidateId
  have isNew : records row.candidateId.text = none := by
    refine consistent.absent _ fun other member same => ?_
    exact (created.fresh other member).2 (UuidText.eq_of_text same)
  have payload : Json.get created.event "payload" = some (.object row.payload) := by
    simp [Created.event, eventOf, Json.get]
  have knows : ∀ {name value}, Json.get row.payload name = some value →
      known (Json.get created.event "payload") name = value := by
    intro name value found
    rw [payload]
    exact known_of_property found
  have valid : ValidCreated platform.host created.event (platform.host.toISOString now) := by
    refine ⟨envelope_eventOf times _ _ _ _ _ _, ?_, ?_⟩
    · simp [Created.event, eventOf, Json.get, isText, strictEquals]
    · rw [payload]
      exact created.valid
  have uuids : hasUuids created.event = true := by
    unfold hasUuids
    rw [payload, property_object, property_object, created.candidateId, created.businessId]
    simp [UuidText.json, row.candidateId.isUuid, row.businessId.isUuid]
  have reduced : answer platform.host records created.event now =
      success .applied (createdRecord platform.host created.event
        (platform.host.toISOString now)) := by
    unfold answer
    rw [isFor, isNew]
    exact reduce_created valid
  have statuses : next.statuses = database.statuses ++ [status] := by rw [created.leaves]
  have candidates : next.candidates = database.candidates ++ [row] := by rw [created.leaves]
  refine ⟨by rw [reduced]; rfl, ?_⟩
  constructor
  case ids =>
    rw [candidates, List.map_append, List.nodup_append]
    refine ⟨consistent.ids, by simp, ?_⟩
    simp only [List.mem_map, List.map_cons, List.map_nil, List.mem_singleton]
    rintro - ⟨other, member, rfl⟩ - rfl
    exact (created.fresh other member).1
  case candidateIds =>
    rw [candidates, List.map_append, List.nodup_append]
    refine ⟨consistent.candidateIds, by simp, ?_⟩
    simp only [List.mem_map, List.map_cons, List.map_nil, List.mem_singleton]
    rintro - ⟨other, member, rfl⟩ - rfl
    exact (created.fresh other member).2
  case owned =>
    intro found member
    rw [statuses, List.mem_append, List.mem_singleton] at member
    rw [candidates]
    rcases member with inOld | rfl
    · obtain ⟨other, inCandidates, same⟩ := consistent.owned found inOld
      exact ⟨other, List.mem_append_left _ inCandidates, same⟩
    · exact ⟨row, by simp, created.statusRow.symm⟩
  case mirrors =>
    intro other member
    rw [candidates, List.mem_append, List.mem_singleton] at member
    rcases member with inOld | rfl
    · obtain ⟨record, isRecord, mirrors⟩ := consistent.mirrors other inOld
      obtain ⟨apartRow, apartCandidate⟩ := created.fresh other inOld
      refine ⟨record, ?_, mirrors.frame statuses ?_⟩
      · unfold keep
        rw [if_neg, isRecord]
        rw [isFor]
        exact fun same => apartCandidate (UuidText.eq_of_text same)
      · rw [created.statusRow]
        exact apartRow.symm
    · refine ⟨_, by unfold keep; rw [if_pos isFor.symm, reduced]; rfl, ?_⟩
      refine ⟨createdRecord_valid digests valid uuids, ?_, ?_, ?_, ?_⟩
      · exact congrArg some (knows created.candidateId)
      · exact congrArg some (knows created.businessId)
      · exact congrArg some (knows created.checksum)
      · refine ⟨?_, status, ?_, ?_, ?_⟩
        · simp [createdRecord, Json.get, created.isActive, CandidateState.text]
        · rw [← created.statusRow]
          refine latestStatus_append_same statuses fun latest isLatest => ?_
          unfold latestStatus at isLatest
          have inStatuses := List.mem_of_mem_filter (List.argmax_mem isLatest)
          have isOwn := List.of_mem_filter (List.argmax_mem isLatest)
          obtain ⟨owner, isOwner, same⟩ := consistent.owned latest inStatuses
          refine absurd ?_ (created.fresh owner isOwner).1
          rw [same, ← created.statusRow]
          simpa using isOwn
        · rw [created.statusState, created.isActive]
        · simp [createdRecord, Json.get, created.statusVersion]
  case absent =>
    intro text apart
    rw [candidates] at apart
    unfold keep
    rw [if_neg, consistent.absent text fun other member => apart other (by simp [member])]
    rw [isFor]
    exact fun same => apart row (by simp) same.symm

variable {candidateId eventId : UuidText} {newState : NewState} {byUserId : String}
  {replacementId : Option String} {changedAt : Publishing.Instant}

/-- The event of a change of state. -/
def Changed.event (_ : Changed platform database candidateId newState byUserId replacementId
    eventId changedAt next row status) : Fields :=
  eventOf platform.host eventId stateChangedType changedAt row.candidateId
    (statusPayload platform.host row (nextVersion database candidateId) newState byUserId
      replacementId changedAt)

theorem Changed.payload (changed : Changed platform database candidateId newState byUserId
      replacementId eventId changedAt next row status) :
    Json.get changed.event "payload" = some (.object (statusPayload platform.host row
      (nextVersion database candidateId) newState byUserId replacementId changedAt)) := by
  simp [Changed.event, eventOf, Json.get]

theorem Changed.isFor (changed : Changed platform database candidateId newState byUserId
      replacementId eventId changedAt next row status) :
    candidateOf changed.event = row.candidateId.text :=
  candidateOf_eventOf (by simp [statusPayload, Json.get])

theorem Changed.mem (changed : Changed platform database candidateId newState byUserId
      replacementId eventId changedAt next row status) :
    row ∈ database.candidates ∧ row.id = candidateId :=
  ⟨List.mem_of_find?_eq_some changed.isStored, by
    simpa using List.find?_some changed.isStored⟩

/-- The rows after a change have the keys of those before. -/
theorem Changed.map_keys {β : Type} (changed : Changed platform database candidateId newState
      byUserId replacementId eventId changedAt next row status) (key : PublicationCandidate → β)
    (keeps : ∀ other state, key { other with state } = key other) :
    next.candidates.map key = database.candidates.map key := by
  rw [changed.leaves, List.map_map]
  refine List.map_congr_left fun other _ => ?_
  simp only [Function.comp_apply]
  split
  · exact keeps other _
  · rfl

include digests times reads in
theorem changed_step (consistent : Consistent platform database records)
    (changed : Changed platform database candidateId newState byUserId replacementId eventId
      changedAt next row status)
    (named : newState = .replaced → replacementId ≠ none) (now : Publishing.Instant) :
    (answer platform.host records changed.event now).accepted = true ∧
      Consistent platform next (keep platform.host records changed.event now) := by
  obtain ⟨inRows, isRow⟩ := changed.mem
  obtain ⟨record, isRecord, mirrors⟩ := consistent.mirrors row inRows
  obtain ⟨latest, isLatest, latestState, latestVersion⟩ := mirrors.same.latest
  obtain ⟨actorId, isActor⟩ := changed.actor
  have isNext : nextVersion database candidateId = latest.stateVersion + 1 := by
    unfold nextVersion
    rw [← isRow, isLatest]
    rfl
  have digest : isSha256Text row.candidateChecksum = true := by
    have ofRecord := mirrors.valid.checksum
    rwa [mirrors.checksum] at ofRecord
  have names : newState = .replaced →
      isNonEmptyString (some (.string (replacementId.getD ""))) = true := by
    intro isReplaced
    cases isText : replacementId with
    | none => exact absurd isText (named isReplaced)
    | some text =>
        obtain ⟨id, isRead⟩ := changed.named text isText
        exact reads text id isRead
  have accepted : validatePublicationCandidateStatusV1 platform.host
      (Json.get changed.event "payload") = [] := by
    rw [changed.payload]
    exact (statusPayload_accepted times digest (by omega) (reads _ _ isActor)).mpr names
  have valid : ValidChange platform.host record changed.event (platform.host.toISOString now) := by
    refine ⟨envelope_eventOf times _ _ _ _ _ _, accepted, ?_⟩
    rw [changed.payload, differs_eq_false]
    simp only [List.forall_mem_cons, property_object, mirrors.candidateId, mirrors.businessId,
      mirrors.checksum]
    simp [statusPayload, Json.get, UuidText.json, strictEquals]
  have isType : isText (Json.get changed.event "event_type") stateChangedType = true := by
    simp [Changed.event, eventOf, Json.get, isText, strictEquals]
  have reduced : answer platform.host records changed.event now =
      success .applied (changedRecord platform.host record changed.event
        (platform.host.toISOString now)) := by
    unfold answer
    rw [changed.isFor, isRecord]
    have above : (latest.stateVersion : Int) < nextVersion database candidateId := by omega
    refine reduce_changed mirrors.valid isType valid ?_ ?_ ?_ above
    · rw [changed.payload]
      cases newState <;>
        simp [statusPayload, Json.get, isText, strictEquals, NewState.state, CandidateState.text]
    · rw [latestVersion]
      rfl
    · rw [changed.payload]
      simp [statusPayload, Json.get, integerOf, Number.integer?]
  have statuses : next.statuses = database.statuses ++ [status] := by rw [changed.leaves]
  refine ⟨by rw [reduced]; rfl, ?_⟩
  constructor
  case ids =>
    rw [changed.map_keys (·.id) fun _ _ => rfl]
    exact consistent.ids
  case candidateIds =>
    rw [changed.map_keys (·.candidateId) fun _ _ => rfl]
    exact consistent.candidateIds
  case owned =>
    intro found member
    have isOwned : found.candidateId ∈ database.candidates.map (·.id) := by
      rw [statuses, List.mem_append, List.mem_singleton] at member
      rcases member with inOld | rfl
      · obtain ⟨other, inCandidates, same⟩ := consistent.owned found inOld
        exact List.mem_map.mpr ⟨other, inCandidates, same⟩
      · rw [changed.statusRow]
        exact List.mem_map.mpr ⟨row, inRows, isRow⟩
    rw [← changed.map_keys (·.id) fun _ _ => rfl] at isOwned
    exact List.mem_map.mp isOwned
  case mirrors =>
    intro other member
    rw [changed.leaves, List.mem_map] at member
    obtain ⟨source, inSource, rfl⟩ := member
    by_cases same : source.id = candidateId
    · obtain rfl : source = row :=
        List.inj_on_of_nodup_map consistent.ids inSource inRows (same.trans isRow.symm)
      rw [if_pos (by simp [same])]
      refine ⟨_, by unfold keep; rw [if_pos changed.isFor.symm, reduced]; rfl, ?_⟩
      refine ⟨changedRecord_valid digests mirrors.valid valid, ?_, ?_, ?_, ?_, status, ?_, ?_, ?_⟩
      · simpa [get_changedRecord] using mirrors.candidateId
      · simpa [get_changedRecord] using mirrors.businessId
      · simpa [get_changedRecord] using mirrors.checksum
      · rw [get_changedRecord, changed.payload]
        simp [known, statusPayload, Json.get]
      · dsimp only
        rw [same, ← changed.statusRow]
        refine latestStatus_append_same statuses fun found isFound => ?_
        rw [changed.statusRow, ← isRow, isLatest] at isFound
        rw [← Option.some.inj isFound, changed.statusVersion]
        omega
      · exact changed.statusState
      · rw [get_changedRecord, changed.payload, changed.statusVersion]
        simp [known, statusPayload, Json.get]
    · rw [if_neg (by simp [same])]
      obtain ⟨kept, isKept, mirrorsKept⟩ := consistent.mirrors source inSource
      refine ⟨kept, ?_, mirrorsKept.frame statuses (by rw [changed.statusRow]; exact Ne.symm same)⟩
      unfold keep
      rw [if_neg, isKept]
      rw [changed.isFor]
      intro sameText
      have sameRow := List.inj_on_of_nodup_map consistent.candidateIds inSource inRows
        (UuidText.eq_of_text sameText)
      exact same (sameRow ▸ isRow)
  case absent =>
    intro text apart
    have outside : ∀ other ∈ database.candidates, other.candidateId.text ≠ text := by
      intro other member sameText
      have inNext : other.candidateId ∈ next.candidates.map (·.candidateId) := by
        rw [changed.map_keys (·.candidateId) fun _ _ => rfl]
        exact List.mem_map.mpr ⟨other, member, rfl⟩
      obtain ⟨found, isFound, sameId⟩ := List.mem_map.mp inNext
      exact apart found isFound (sameId ▸ sameText)
    unfold keep
    rw [if_neg, consistent.absent text outside]
    rw [changed.isFor]
    exact fun sameText => outside row inRows sameText.symm

/-- A replacement that names none is refused, whatever the intake has stored. -/
theorem changed_refused (changed : Changed platform database candidateId newState byUserId
      replacementId eventId changedAt next row status)
    (isReplaced : newState = .replaced) (unnamed : replacementId = none) (now : Publishing.Instant) :
    (answer platform.host records changed.event now).accepted = false := by
  subst isReplaced unnamed
  have isType : isText (Json.get changed.event "event_type") stateChangedType = true := by
    simp [Changed.event, eventOf, Json.get, isText, strictEquals]
  have refused : validatePublicationCandidateStatusV1 platform.host
      (Json.get changed.event "payload") ≠ [] := by
    rw [changed.payload]
    intro accepted
    unfold validatePublicationCandidateStatusV1 statusPayload at accepted
    simp [Json.fields?, Json.get, contentIssueWhen_eq_nil, isText, strictEquals, NewState.state,
      CandidateState.text, isNonEmptyString] at accepted
  unfold answer reducePublicationCandidateEventV1 reduceStateChangedEvent
  dsimp only [Json.fields?]
  split
  · rfl
  · split
    · rfl
    · rw [if_neg (Bool.eq_false_iff.mp (type_apart isType))]
      split
      · rfl
      · rw [if_pos (by simpa [mapContentValidation_eq_nil] using refused)]
        rfl

end Simulation

/-! ### Runs -/

section Runs

variable {platform : Platform} {clock : Nat → Publishing.Instant}

/-- What an operation that succeeds has done. -/
theorem perform_cases {database next : Database} {operation : Operation}
    (ok : perform platform database operation = .ok next) :
    (∃ packs users, next = { database with packs, users } ∧ isUnnamed operation = false) ∨
      (∃ draw row status, ∃ _ : Created platform database draw next row status,
        isUnnamed operation = false) ∨
      (∃ candidateId newState byUserId replacementId eventId now row status,
        ∃ _ : Changed platform database candidateId newState byUserId replacementId eventId now
          next row status,
        (isUnnamed operation = true ↔ newState = .replaced ∧ replacementId = none)) := by
  cases operation with
  | createCandidate input draw =>
      obtain ⟨row, status, created⟩ := createCandidate_ok ok
      exact Or.inr (Or.inl ⟨draw, row, status, created, rfl⟩)
  | changeCandidateState candidateId newState byUserId replacementId eventId now =>
      obtain ⟨row, status, changed⟩ := changeCandidateState_ok ok
      refine Or.inr (Or.inr ⟨_, _, _, _, _, _, row, status, changed, ?_⟩)
      cases newState <;> cases replacementId <;> simp [isUnnamed]
  | elsewhere packs users => exact Or.inl ⟨packs, users, (Except.ok.inj ok).symm, rfl⟩

theorem events_created {database next : Database} {draw : Draw} {row : PublicationCandidate}
    {status : PublicationCandidateStatus}
    (created : Created platform database draw next row status) :
    events next = events database ++ [created.event] := by
  have outbox := congrArg Database.outbox created.leaves
  unfold events
  rw [outbox, List.map_append]
  rfl

theorem events_changed {database next : Database} {candidateId eventId : UuidText}
    {newState : NewState} {byUserId : String} {replacementId : Option String} {now : Publishing.Instant}
    {row : PublicationCandidate} {status : PublicationCandidateStatus}
    (changed : Changed platform database candidateId newState byUserId replacementId eventId now
      next row status) : events next = events database ++ [changed.event] := by
  have outbox := congrArg Database.outbox changed.leaves
  unfold events
  rw [outbox, List.map_append]
  rfl

theorem events_grow (database : Database) (operation : Operation) :
    events database <+: events (after platform database operation) := by
  unfold after
  split
  · next next ok =>
    rcases perform_cases ok with ⟨packs, users, rfl, -⟩ | ⟨_, _, _, created, -⟩ |
      ⟨_, _, _, _, _, _, _, _, changed, -⟩
    · exact List.prefix_rfl
    · rw [events_created created]
      exact List.prefix_append _ _
    · rw [events_changed changed]
      exact List.prefix_append _ _
  · exact List.prefix_rfl

theorem events_growAll (database : Database) (operations : List Operation) :
    events database <+: events (afterAll platform database operations) := by
  induction operations generalizing database with
  | nil => exact List.prefix_rfl
  | cons operation rest inductionHypothesis =>
      exact (events_grow database operation).trans (inductionHypothesis _)

theorem agrees_of_consistent {database : Database}
    (consistent : Consistent platform database (intake platform.host clock (events database)))
    (accepted : Accepted platform.host clock (events database)) :
    Agrees platform clock database := by
  refine ⟨accepted, fun row member => ?_⟩
  obtain ⟨record, isRecord, mirrors⟩ := consistent.mirrors row member
  exact ⟨record, isRecord, mirrors.same⟩

/-- Other modules change neither the candidates nor the events. -/
theorem consistent_elsewhere {database : Database} {records : Records}
    (consistent : Consistent platform database records) (packs : List ContentPack)
    (users : List UuidText) : Consistent platform { database with packs, users } records := by
  refine ⟨consistent.ids, consistent.candidateIds, consistent.owned, ?_, consistent.absent⟩
  intro row member
  obtain ⟨record, isRecord, mirrors⟩ := consistent.mirrors row member
  exact ⟨record, isRecord, mirrors.valid, mirrors.candidateId, mirrors.businessId,
    mirrors.checksum, mirrors.same.state, mirrors.same.latest⟩

theorem agrees_run (digests : ∀ text, isSha256Text (platform.host.sha256 text) = true)
    (times : ∀ instant, isIsoDateTime platform.host
      (some (.string (platform.host.toISOString instant))) = true)
    (reads : ∀ text id, platform.readUuid text = some id →
      isNonEmptyString (some (.string text)) = true)
    (operations : List Operation) (database : Database)
    (consistent : Consistent platform database (intake platform.host clock (events database)))
    (accepted : Accepted platform.host clock (events database)) :
    Agrees platform clock (afterAll platform database operations) ↔
      NamesReplacements platform database operations := by
  induction operations generalizing database with
  | nil => exact ⟨fun _ => trivial, fun _ => agrees_of_consistent consistent accepted⟩
  | cons operation rest inductionHypothesis =>
      unfold NamesReplacements
      cases performed : perform platform database operation with
      | error error =>
          have same : after platform database operation = database := by
            unfold after
            rw [performed]
          rw [same, ← inductionHypothesis database consistent accepted]
          unfold afterAll
          rw [List.foldl_cons, same]
          exact ⟨fun agrees => ⟨fun _ => ⟨error, rfl⟩, agrees⟩, fun both => both.2⟩
      | ok next =>
          have leads : after platform database operation = next := by
            unfold after
            rw [performed]
          have runs : afterAll platform database (operation :: rest) =
              afterAll platform next rest := by
            unfold afterAll
            rw [List.foldl_cons, leads]
          have goesOn : isUnnamed operation = false →
              Consistent platform next (intake platform.host clock (events next)) →
              Accepted platform.host clock (events next) →
              (Agrees platform clock (afterAll platform next rest) ↔
                (isUnnamed operation = true → ∃ error, Except.ok next =
                  (Except.error error : Except CandidateError Database)) ∧
                NamesReplacements platform next rest) := by
            intro isNamed consistent accepted
            rw [inductionHypothesis next consistent accepted, isNamed]
            simp
          rw [runs, leads]
          rcases perform_cases performed with ⟨packs, users, rfl, isNamed⟩ |
            ⟨draw, row, status, created, isNamed⟩ |
            ⟨_, newState, _, replacementId, _, _, row, status, changed, unnamed⟩
          · exact goesOn isNamed (consistent_elsewhere consistent packs users) accepted
          · obtain ⟨isAccepted, stays⟩ := created_step digests times consistent created
              (clock (events database).length)
            refine goesOn isNamed ?_ ?_
            · rw [events_created created, intake_concat]
              exact stays
            · rw [events_created created]
              exact accepted_concat.mpr ⟨accepted, isAccepted⟩
          · by_cases namesNone : newState = .replaced ∧ replacementId = none
            · -- The event is refused, and no later event changes that.
              have refused : (answer platform.host (intake platform.host clock (events database))
                  changed.event (clock (events database).length)).accepted = false :=
                changed_refused changed namesNone.1 namesNone.2 _
              constructor
              · intro agrees
                have whole := accepted_of_prefix (events_growAll next rest) agrees.accepted
                rw [events_changed changed, accepted_concat, refused] at whole
                cases whole.2
              · rintro ⟨fails, -⟩
                obtain ⟨error, isError⟩ := fails (unnamed.mpr namesNone)
                cases isError
            · obtain ⟨isAccepted, stays⟩ := changed_step digests times reads consistent changed
                (fun isReplaced isNone => namesNone ⟨isReplaced, isNone⟩)
                (clock (events database).length)
              refine goesOn (Bool.eq_false_iff.mpr fun is => namesNone (unnamed.mp is)) ?_ ?_
              · rw [events_changed changed, intake_concat]
                exact stays
              · rw [events_changed changed]
                exact accepted_concat.mpr ⟨accepted, isAccepted⟩

/-- Operations that all name their replacements keep the condition. -/
theorem namesReplacements_of_named {operations : List Operation} (database : Database)
    (named : ∀ operation ∈ operations, isUnnamed operation = false) :
    NamesReplacements platform database operations := by
  induction operations generalizing database with
  | nil => trivial
  | cons operation rest inductionHypothesis =>
      unfold NamesReplacements
      rw [named operation List.mem_cons_self]
      exact ⟨fun unnamed => (Bool.false_ne_true unnamed).elim,
        inductionHypothesis _ fun other member => named other (List.mem_cons_of_mem _ member)⟩

theorem consistent_start (packs : List ContentPack) (users : List UuidText) :
    Consistent platform { packs, users } (intake platform.host clock []) := by
  refine ⟨List.nodup_nil, List.nodup_nil, ?_, ?_, fun _ _ => rfl⟩
  · intro status member
    cases member
  · intro row member
    cases member

theorem accepted_start : Accepted platform.host clock [] := by
  intro position event isFound
  simp at isFound

/-- From empty tables, the two sides agree on every run in which no replacement
without a name is accepted, and on no other. -/
theorem candidateStates_agree_iff
    (digests : ∀ text, isSha256Text (platform.host.sha256 text) = true)
    (times : ∀ instant, isIsoDateTime platform.host
      (some (.string (platform.host.toISOString instant))) = true)
    (reads : ∀ text id, platform.readUuid text = some id →
      isNonEmptyString (some (.string text)) = true)
    (packs : List ContentPack) (users : List UuidText) (operations : List Operation) :
    Agrees platform clock (afterAll platform { packs, users } operations) ↔
      NamesReplacements platform { packs, users } operations :=
  agrees_run digests times reads operations _ (consistent_start packs users) accepted_start

end Runs

/-! ### A candidate that is revoked, and one that is replaced by nothing -/

def exampleUuid (digit : Fin 10) : UuidText where
  text := "0b7e0c1a-0000-4000-8000-00000000000" ++ toString digit.val
  isUuid := by
    revert digit
    decide +kernel
  isLower := by
    revert digit
    decide +kernel

def examplePlatform : Platform where
  host := exampleHost
  readUuid text := if text = (exampleUuid 0).text then some (exampleUuid 0) else none

def examplePack : ContentPack where
  id := exampleUuid 1
  businessId := exampleUuid 2
  strategyId := exampleUuid 3
  strategyVersion := 1
  contentCycleId := exampleUuid 4
  weekNumber := 1

def exampleInput : CreateCandidateInput where
  approval := {
    id := exampleUuid 5, contentItemVersionId := exampleUuid 6
    contentItemVersionChecksum := "checksum-1", decidedByUserId := exampleUuid 0, decidedAt := 0 }
  itemVersion := {
    id := exampleUuid 6, contentItemId := exampleUuid 7, contentPackId := exampleUuid 1
    version := 1, versionChecksum := "checksum-1", channel := "facebook", format := "text_post"
    languageMode := "en"
    captionVariants := .array [.object [("locale", .string "en"), ("caption", .string "Hello")]]
    cta := none, hashtags := .array [], altText := ""
    recommendedPublishWindow := .object [("starts_at", .string "2026-08-01T10:00:00Z"),
      ("ends_at", .string "2026-08-01T12:00:00Z")] }
  assets := []
  ownerUserId := (exampleUuid 0).text

def exampleCreation : Operation :=
  .createCandidate exampleInput ⟨exampleUuid 8, exampleUuid 9, exampleUuid 1, 0⟩

def exampleChange (newState : NewState) : Operation :=
  .changeCandidateState (exampleUuid 8) newState (exampleUuid 0).text none (exampleUuid 2) 0

theorem example_digests (text : String) :
    isSha256Text (examplePlatform.host.sha256 text) = true := exampleHost_digests text

theorem example_times (instant : Publishing.Instant) : isIsoDateTime examplePlatform.host
    (some (.string (examplePlatform.host.toISOString instant))) = true := by
  show isIsoDateTime exampleHost (some (.string "2026-07-02T10:00:00Z")) = true
  decide +kernel

theorem example_reads (text : String) (id : UuidText)
    (isRead : examplePlatform.readUuid text = some id) :
    isNonEmptyString (some (.string text)) = true := by
  unfold examplePlatform at isRead
  dsimp only at isRead
  split at isRead
  · next same =>
    rw [same]
    exact nonEmpty_of_uuid _
  · cases isRead

/-- A candidate that is created and revoked: both events are emitted, and the sides agree. -/
theorem revoked_candidate_agrees :
    (afterAll examplePlatform { packs := [examplePack], users := [exampleUuid 0] }
        [exampleCreation, exampleChange .revoked]).outbox.length = 2 ∧
      Agrees examplePlatform (fun _ => 0)
        (afterAll examplePlatform { packs := [examplePack], users := [exampleUuid 0] }
          [exampleCreation, exampleChange .revoked]) := by
  refine ⟨by decide +kernel, ?_⟩
  refine (candidateStates_agree_iff example_digests example_times example_reads _ _ _).mpr ?_
  refine namesReplacements_of_named _ fun operation member => ?_
  simp only [List.mem_cons, List.not_mem_nil, or_false] at member
  rcases member with rfl | rfl <;> rfl

/-- A replacement without a replacement is accepted, and its event is refused. -/
theorem replaced_candidate_disagrees :
    ¬ Agrees examplePlatform (fun _ => 0)
      (afterAll examplePlatform { packs := [examplePack], users := [exampleUuid 0] }
        [exampleCreation, exampleChange .replaced]) := by
  rw [agrees_run example_digests example_times example_reads _ _
    (consistent_start _ _) accepted_start]
  unfold NamesReplacements NamesReplacements
  intro named
  have unnamed : isUnnamed (exampleChange .replaced) = true := rfl
  obtain ⟨error, isError⟩ := named.2.1 unnamed
  have succeeds : (perform examplePlatform (after examplePlatform
      { packs := [examplePack], users := [exampleUuid 0] } exampleCreation)
      (exampleChange .replaced)).isOk = true := by
    decide +kernel
  rw [isError] at succeeds
  cases succeeds

end MarketMind.Content.CandidateRepository
