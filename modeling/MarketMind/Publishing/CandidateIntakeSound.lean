import MarketMind.Publishing.CandidateIntake

/-!
Owns the soundness of candidate intake: what a valid record is, what the reducer
makes of one, and what runs of events preserve. The candidate contract admits
identities that are no UUIDs, which the record contract does not; so a created
event with such identities is stored as an invalid record.
-/

namespace MarketMind.Publishing.Intake

open Contract

/-! ### Valid values -/

theorem contentIssueWhen_eq_nil {condition : Bool} {code : ContentErrorCode}
    {field message : String} :
    contentIssueWhen condition code field message = [] ↔ condition = false := by
  unfold contentIssueWhen
  cases condition <;> simp

theorem mapContentValidation_eq_nil {issues : List ContentIssue} :
    mapContentValidation issues = [] ↔ issues = [] := by
  cases issues <;> simp [mapContentValidation]

theorem differs_eq_false {names : List String} {left right : Option Json} :
    differs names left right = false ↔
      ∀ name ∈ names, strictEquals (property left name) (property right name) = true := by
  unfold differs
  simp

/-- A text equals itself. -/
theorem strictEquals_of_text {left right : Option Json} {text : String}
    (isLeft : left = some (.string text)) (isRight : right = some (.string text)) :
    strictEquals left right = true := by
  rw [isLeft, isRight]
  simp [strictEquals]

/-- An integer equals itself. -/
theorem strictEquals_of_integer {value : Option Json} {integer : Int}
    (isInteger : integerOf value = some integer) : strictEquals value value = true := by
  unfold integerOf at isInteger
  split at isInteger
  · simp [strictEquals]
  · cases isInteger

@[simp]
theorem property_object (fields : Fields) (name : String) :
    property (some (.object fields)) name = Json.get fields name := rfl

/-- What the intake uses of a valid candidate. -/
structure ValidCandidate (host : Host) (candidate : Option Json) : Prop where
  candidateId : isNonEmptyString (property candidate "candidate_id") = true
  businessId : isNonEmptyString (property candidate "business_id") = true
  createdAt : isIsoDateTime host (property candidate "created_at") = true
  checksum : isSha256 (property candidate "candidate_checksum") = true

theorem validCandidate_of_accepted {host : Host} {candidate : Option Json}
    (accepted : validatePublicationCandidateV1 host candidate = []) :
    ValidCandidate host candidate := by
  unfold validatePublicationCandidateV1 at accepted
  cases isObject : candidate.bind Json.fields? with
  | none =>
      rw [isObject] at accepted
      cases accepted
  | some value =>
      have properties : ∀ name, property candidate name = Json.get value name := by
        intro name
        unfold property
        rw [isObject]
        rfl
      rw [isObject] at accepted
      simp only [List.append_eq_nil_iff, contentIssueWhen_eq_nil, List.flatMap_eq_nil_iff]
        at accepted
      obtain ⟨⟨accepted, createdAt⟩, checksum⟩ := accepted
      have required := accepted.1.1.1.1.1.1.1.1.1.1.1.1.2
      refine ⟨?_, ?_, ?_, ?_⟩
      · rw [properties]
        simpa using required "candidate_id" (by simp)
      · rw [properties]
        simpa using required "business_id" (by simp)
      · rw [properties]
        simpa using createdAt
      · rw [properties]
        by_contra invalid
        rw [if_pos (by simpa using invalid)] at checksum
        cases checksum

theorem text_of_nonEmpty {value : Option Json} (nonEmpty : isNonEmptyString value = true) :
    ∃ text, value = some (.string text) := by
  unfold isNonEmptyString at nonEmpty
  split at nonEmpty
  · exact ⟨_, rfl⟩
  · cases nonEmpty

theorem text_of_sha256 {value : Option Json} (digest : isSha256 value = true) :
    ∃ text, value = some (.string text) := by
  unfold isSha256 at digest
  split at digest
  · exact ⟨_, rfl⟩
  · cases digest

theorem text_of_includes {list : List String} {value : Option Json}
    (listed : includes list value = true) : ∃ text, value = some (.string text) := by
  obtain ⟨text, -, same⟩ := List.any_eq_true.mp listed
  exact ⟨text, isText_iff.mp same⟩

/-- What the reducer uses of a valid status. -/
structure ValidStatus (status : Option Json) : Prop where
  version : ∃ version, integerOf (property status "state_version") = some version ∧ 1 ≤ version
  state : ∃ state, property status "candidate_state" = some (.string state)

theorem validStatus_of_accepted {host : Host} {status : Option Json}
    (accepted : validatePublicationCandidateStatusV1 host status = []) : ValidStatus status := by
  unfold validatePublicationCandidateStatusV1 at accepted
  cases isObject : status.bind Json.fields? with
  | none =>
      rw [isObject] at accepted
      cases accepted
  | some value =>
      have properties : ∀ name, property status name = Json.get value name := by
        intro name
        unfold property
        rw [isObject]
        rfl
      rw [isObject] at accepted
      simp only [List.append_eq_nil_iff, contentIssueWhen_eq_nil, Bool.not_eq_false'] at accepted
      obtain ⟨⟨⟨⟨⟨-, version⟩, state⟩, -⟩, -⟩, -⟩ := accepted
      refine ⟨?_, ?_⟩
      · rw [properties]
        obtain ⟨version, isVersion, positive⟩ := (Option.any_eq_true _ _).mp version
        exact ⟨version, isVersion, by simpa using positive⟩
      · rw [properties]
        exact text_of_includes state

/-- The status that a valid candidate starts with is valid. -/
theorem activeStatus_accepted {host : Host} {candidate : Option Json}
    (valid : ValidCandidate host candidate) :
    validatePublicationCandidateStatusV1 host (some (activeStatusForCandidate candidate)) = [] := by
  obtain ⟨candidateId, isCandidateId⟩ := text_of_nonEmpty valid.candidateId
  obtain ⟨businessId, isBusinessId⟩ := text_of_nonEmpty valid.businessId
  obtain ⟨checksum, isChecksum⟩ := text_of_sha256 valid.checksum
  have namesCandidate := valid.candidateId
  have namesBusiness := valid.businessId
  have hasChecksum := valid.checksum
  have hasTime := valid.createdAt
  cases createdAt : property candidate "created_at" with
  | none =>
      rw [createdAt] at hasTime
      cases hasTime
  | some created =>
      rw [isCandidateId] at namesCandidate
      rw [isBusinessId] at namesBusiness
      rw [isChecksum] at hasChecksum
      rw [createdAt] at hasTime
      simp [validatePublicationCandidateStatusV1, activeStatusForCandidate, Json.fields?, Json.get,
        rejectExtraContentFields, candidateStatusFields, contentIssueWhen, known, isText, isNull,
        strictEquals, includes, candidateStates, integerOf, Number.integer?, isCandidateId,
        isBusinessId, isChecksum, createdAt, namesCandidate, namesBusiness, hasChecksum, hasTime]

/-! ### Valid records -/

/-- `validatePublicationCandidateRecordV1` as a list of requirements. -/
structure ValidRecord (host : Host) (record : Fields) : Prop where
  names : ∀ field ∈ record, field.1 ∈ candidateRecordFields
  contract : isText (Json.get record "contract_version") "publishing-candidate-record-v1" = true
  candidateId : isUuid (Json.get record "candidate_id") = true
  eventId : isUuid (Json.get record "event_id") = true
  businessId : isUuid (Json.get record "business_id") = true
  checksum : isSha256 (Json.get record "candidate_checksum") = true
  fingerprint : isSha256 (Json.get record "event_fingerprint") = true
  version : (integerOf (Json.get record "source_state_version")).any (1 ≤ ·) = true
  receivedAt : isIsoDateTime host (Json.get record "received_at") = true
  payload : validatePublicationCandidateV1 host (Json.get record "payload") = []
  status : validatePublicationCandidateStatusV1 host (Json.get record "source_status") = []
  bindsPayload : differs ["candidate_id", "business_id", "candidate_checksum"]
    (some (.object record)) (Json.get record "payload") = false
  bindsStatus : differs ["candidate_id", "business_id", "candidate_checksum"]
    (Json.get record "source_status") (Json.get record "payload") = false
  state : strictEquals (Json.get record "source_state")
    (property (Json.get record "source_status") "candidate_state") = true
  stateVersion : strictEquals (Json.get record "source_state_version")
    (property (Json.get record "source_status") "state_version") = true

theorem validRecord_iff {host : Host} {record : Fields} :
    validatePublicationCandidateRecordV1 host (.object record) = [] ↔ ValidRecord host record := by
  unfold validatePublicationCandidateRecordV1
  dsimp only [Json.fields?]
  constructor
  · intro accepted
    split at accepted
    · cases accepted
    · next noExtra =>
      have names := List.find?_eq_none.mp noExtra
      split at accepted
      · cases accepted
      · next metadata =>
        split at accepted
        · next rejected => exact absurd accepted rejected
        · next payload =>
          split at accepted
          · next rejected => exact absurd accepted rejected
          · next status =>
            split at accepted
            · cases accepted
            · next binds =>
              rw [issueWhen_eq_nil] at accepted
              simp only [Bool.or_eq_true, not_or, Bool.not_eq_true', Bool.not_eq_false] at metadata
              simp only [Bool.or_eq_true, not_or, Bool.not_eq_true] at binds
              simp only [Bool.or_eq_false_iff, Bool.not_eq_false'] at accepted
              obtain ⟨⟨⟨⟨⟨⟨⟨contract, candidateId⟩, eventId⟩, businessId⟩, checksum⟩, fingerprint⟩,
                version⟩, receivedAt⟩ := metadata
              exact ⟨fun field member => by simpa using names field member, contract, candidateId,
                eventId, businessId, checksum, fingerprint, version, receivedAt,
                mapContentValidation_eq_nil.mp (not_not.mp payload),
                mapContentValidation_eq_nil.mp (not_not.mp status), binds.1, binds.2,
                accepted.1, accepted.2⟩
  · intro valid
    have noExtra : record.find? (fun field => !candidateRecordFields.contains field.1) = none := by
      rw [List.find?_eq_none]
      intro field member
      simpa using valid.names field member
    rw [noExtra]
    dsimp only
    rw [if_neg (by simp [valid.contract, valid.candidateId, valid.eventId, valid.businessId,
        valid.checksum, valid.fingerprint, valid.version, valid.receivedAt]),
      if_neg (by simp [mapContentValidation_eq_nil, valid.payload]),
      if_neg (by simp [mapContentValidation_eq_nil, valid.status]),
      if_neg (by simp [valid.bindsPayload, valid.bindsStatus]), issueWhen_eq_nil]
    simp [valid.state, valid.stateVersion]

/-! ### One event -/

/-- A record as the reducer may find it: none, or a valid one. -/
def Stored (host : Host) (record : Option Fields) : Prop :=
  ∀ fields, record = some fields →
    validatePublicationCandidateRecordV1 host (.object fields) = []

/-- The version of a record. -/
def versionOf (record : Fields) : Option Int :=
  integerOf (Json.get record "source_state_version")

/-- The properties that no event changes. -/
def immutableFields : List String :=
  ["candidate_id", "business_id", "candidate_checksum", "payload"]

/-- What an applied event makes of the record. -/
structure Advances (host : Host) (before : Option Fields) (after : Fields) : Prop where
  valid : validatePublicationCandidateRecordV1 host (.object after) = []
  keeps : ∀ record, before = some record → ∀ name ∈ immutableFields,
    Json.get after name = Json.get record name
  newer : ∀ record, before = some record → ∃ old new, versionOf record = some old ∧
    versionOf after = some new ∧ old < new

/-- The event leaves the record as it is, or advances it. -/
def Sound (host : Host) (before : Option Fields) (event : Json) (receivedAt : String) : Prop :=
  let result := reducePublicationCandidateEventV1 host before event receivedAt
  (result.changed = false ∧ result.record = before) ∨
    (result.changed = true ∧ ∃ after, result.record = some after ∧ Advances host before after)

/-- A created event that passes the validation of its envelope and its candidate. -/
structure ValidCreated (host : Host) (event : Fields) (receivedAt : String) : Prop where
  envelope : validateEventEnvelope host event receivedAt = []
  type : isText (Json.get event "event_type") createdType = true
  candidate : validatePublicationCandidateV1 host (Json.get event "payload") = []

/-- The candidate of the event has UUIDs for its identities. -/
def hasUuids (event : Fields) : Bool :=
  isUuid (property (Json.get event "payload") "candidate_id") &&
    isUuid (property (Json.get event "payload") "business_id")

/-- A candidate that is stored for the first time has UUIDs for its identities. -/
def Identified (host : Host) (before : Option Fields) (event : Json) (receivedAt : String) :
    Prop :=
  before = none → ∀ fields, event = .object fields → ValidCreated host fields receivedAt →
    hasUuids fields = true

section Reducer

variable {host : Host} {event record : Fields} {receivedAt : String}

/-- What the envelope of an accepted event says. -/
theorem envelope_of_accepted (accepted : validateEventEnvelope host event receivedAt = []) :
    isUuid (Json.get event "event_id") = true ∧
      isIsoDateTime host (some (.string receivedAt)) = true := by
  unfold validateEventEnvelope at accepted
  split at accepted
  · cases accepted
  · rw [issueWhen_eq_nil] at accepted
    simp only [Bool.or_eq_false_iff, Bool.not_eq_false'] at accepted
    exact ⟨accepted.1.1.1, accepted.2⟩

theorem text_of_uuid {value : Option Json} (isId : isUuid value = true) :
    ∃ text, value = some (.string text) := by
  unfold isUuid at isId
  split at isId
  · exact ⟨_, rfl⟩
  · cases isId

/-- A property that is there is known. -/
theorem known_of_property {value : Option Json} {name : String} {found : Json}
    (isThere : property value name = some found) : known value name = found := by
  unfold known
  rw [isThere]
  rfl

/-- The record of a valid created event is valid when its identities are UUIDs. -/
theorem createdRecord_valid (digests : ∀ text, isSha256Text (host.sha256 text) = true)
    (created : ValidCreated host event receivedAt) (identified : hasUuids event = true) :
    ValidRecord host (createdRecord host event receivedAt) := by
  have candidate := validCandidate_of_accepted created.candidate
  have envelope := envelope_of_accepted created.envelope
  obtain ⟨candidateId, isCandidateId⟩ := text_of_nonEmpty candidate.candidateId
  obtain ⟨businessId, isBusinessId⟩ := text_of_nonEmpty candidate.businessId
  obtain ⟨checksum, isChecksum⟩ := text_of_sha256 candidate.checksum
  obtain ⟨eventId, isEventId⟩ := text_of_uuid envelope.1
  have uuids : isUuid (property (Json.get event "payload") "candidate_id") = true ∧
      isUuid (property (Json.get event "payload") "business_id") = true := by
    simpa [hasUuids] using identified
  obtain ⟨payload, isPayload⟩ : ∃ payload, Json.get event "payload" = some payload := by
    cases found : Json.get event "payload" with
    | none =>
        rw [found] at isCandidateId
        cases isCandidateId
    | some payload => exact ⟨payload, rfl⟩
  have sameCandidate := known_of_property isCandidateId
  have sameBusiness := known_of_property isBusinessId
  have sameChecksum := known_of_property isChecksum
  have status := activeStatus_accepted candidate
  have uuidCandidate := uuids.1
  have uuidBusiness := uuids.2
  have digestChecksum := candidate.checksum
  rw [isCandidateId] at uuidCandidate
  rw [isBusinessId] at uuidBusiness
  rw [isChecksum] at digestChecksum
  have uuidEvent := envelope.1
  rw [isEventId] at uuidEvent
  rw [isPayload] at isCandidateId isBusinessId isChecksum status
  rw [isPayload] at sameCandidate sameBusiness sameChecksum
  have accepted := created.candidate
  rw [isPayload] at accepted
  have get : ∀ name, Json.get (createdRecord host event receivedAt) name =
      (([("contract_version", .string "publishing-candidate-record-v1"),
        ("candidate_id", .string candidateId), ("event_id", .string eventId),
        ("business_id", .string businessId), ("candidate_checksum", .string checksum),
        ("event_fingerprint", .string (computePublishingSha256 host (.object event))),
        ("source_state", .string "active"), ("source_state_version", .number (.integer 1)),
        ("source_status", activeStatusForCandidate (some payload)),
        ("received_at", .string receivedAt), ("payload", payload)] : Fields).find?
          (·.1 == name)).map (·.2) := by
    intro name
    unfold createdRecord Json.get
    unfold Json.get at isPayload isEventId
    simp [isPayload, isEventId, sameCandidate, sameBusiness, sameChecksum]
  have fingerprint : isSha256 (some (.string (computePublishingSha256 host (.object event)))) =
      true := digests _
  constructor
  case names =>
    intro field member
    simp only [createdRecord, List.mem_cons, List.not_mem_nil, or_false] at member
    rcases member with rfl | rfl | rfl | rfl | rfl | rfl | rfl | rfl | rfl | rfl | rfl <;>
      simp [candidateRecordFields]
  case contract => simp [get, isText, strictEquals]
  case candidateId => simpa [get] using uuidCandidate
  case eventId => simpa [get] using uuidEvent
  case businessId => simpa [get] using uuidBusiness
  case checksum => simpa [get] using digestChecksum
  case fingerprint => simpa [get] using fingerprint
  case version => simp [get, integerOf, Number.integer?]
  case receivedAt => simpa [get] using envelope.2
  case payload => simpa [get] using accepted
  case status => simpa [get] using status
  case bindsPayload =>
    rw [differs_eq_false]
    simp only [List.forall_mem_cons, property_object]
    refine ⟨?_, ?_, ?_, by simp⟩
    · apply strictEquals_of_text (by simp [get]; rfl)
      simpa [get] using isCandidateId
    · apply strictEquals_of_text (by simp [get]; rfl)
      simpa [get] using isBusinessId
    · apply strictEquals_of_text (by simp [get]; rfl)
      simpa [get] using isChecksum
  case bindsStatus =>
    have isStatus : Json.get (createdRecord host event receivedAt) "source_status" =
        some (activeStatusForCandidate (some payload)) := by simp [get]
    rw [differs_eq_false, isStatus]
    unfold activeStatusForCandidate
    simp only [List.forall_mem_cons, property_object]
    refine ⟨?_, ?_, ?_, by simp⟩
    · apply strictEquals_of_text (by simp [Json.get, sameCandidate]; rfl)
      simpa [get] using isCandidateId
    · apply strictEquals_of_text (by simp [Json.get, sameBusiness]; rfl)
      simpa [get] using isBusinessId
    · apply strictEquals_of_text (by simp [Json.get, sameChecksum]; rfl)
      simpa [get] using isChecksum
  case state =>
    unfold activeStatusForCandidate at get
    simp [get]
    simp [Json.get, strictEquals]
  case stateVersion =>
    unfold activeStatusForCandidate at get
    simp [get]
    simp [Json.get, strictEquals]

/-- Every property of the changed record, in the order in which it is looked up. -/
theorem get_changedRecord (name : String) :
    Json.get (changedRecord host record event receivedAt) name =
      if name = "received_at" then some (.string receivedAt)
      else if name = "source_status" then some ((Json.get event "payload").getD .null)
      else if name = "source_state_version" then
        some (known (Json.get event "payload") "state_version")
      else if name = "source_state" then
        some (known (Json.get event "payload") "candidate_state")
      else if name = "event_fingerprint" then
        some (.string (computePublishingSha256 host (.object event)))
      else if name = "event_id" then some ((Json.get event "event_id").getD .null)
      else Json.get record name := by
  unfold changedRecord
  split
  · next same => rw [same, Json.get_assign_self]
  · next notReceived =>
    rw [Json.get_assign_of_ne _ _ notReceived]
    split
    · next same => rw [same, Json.get_assign_self]
    · next notStatus =>
      rw [Json.get_assign_of_ne _ _ notStatus]
      split
      · next same => rw [same, Json.get_assign_self]
      · next notVersion =>
        rw [Json.get_assign_of_ne _ _ notVersion]
        split
        · next same => rw [same, Json.get_assign_self]
        · next notState =>
          rw [Json.get_assign_of_ne _ _ notState]
          split
          · next same => rw [same, Json.get_assign_self]
          · next notFingerprint =>
            rw [Json.get_assign_of_ne _ _ notFingerprint]
            split
            · next same => rw [same, Json.get_assign_self]
            · next notEvent => rw [Json.get_assign_of_ne _ _ notEvent]

theorem names_changedRecord (valid : ValidRecord host record) {field : String × Json}
    (member : field ∈ changedRecord host record event receivedAt) :
    field.1 ∈ candidateRecordFields := by
  unfold changedRecord at member
  iterate 6
    rcases Json.mem_assign member with rfl | member
    · simp [candidateRecordFields]
  exact valid.names field member

/-- A state-changed event that is valid for the record that it changes. -/
structure ValidChange (host : Host) (record event : Fields) (receivedAt : String) : Prop where
  envelope : validateEventEnvelope host event receivedAt = []
  status : validatePublicationCandidateStatusV1 host (Json.get event "payload") = []
  bindsRecord : differs ["candidate_id", "business_id", "candidate_checksum"]
    (Json.get event "payload") (some (.object record)) = false

/-- The version of a valid state-changed event. -/
theorem known_of_status {payload : Option Json} (valid : ValidStatus payload) :
    property payload "state_version" = some (known payload "state_version") ∧
      property payload "candidate_state" = some (known payload "candidate_state") := by
  obtain ⟨version, isVersion, -⟩ := valid.version
  obtain ⟨state, isState⟩ := valid.state
  constructor
  · cases found : property payload "state_version" with
    | none =>
        rw [found] at isVersion
        cases isVersion
    | some value => rw [known_of_property found]
  · rw [isState, known_of_property isState]

/-- A changed record is valid. -/
theorem changedRecord_valid (digests : ∀ text, isSha256Text (host.sha256 text) = true)
    (valid : ValidRecord host record) (change : ValidChange host record event receivedAt) :
    ValidRecord host (changedRecord host record event receivedAt) := by
  have status := validStatus_of_accepted change.status
  have envelope := envelope_of_accepted change.envelope
  obtain ⟨isVersion, isState⟩ := known_of_status status
  obtain ⟨state, stateText⟩ := status.state
  obtain ⟨version, versionValue, positive⟩ := status.version
  obtain ⟨eventId, isEventId⟩ := text_of_uuid envelope.1
  have uuidEvent := envelope.1
  rw [isEventId] at uuidEvent
  obtain ⟨payload, isPayload⟩ : ∃ payload, Json.get event "payload" = some payload := by
    cases found : Json.get event "payload" with
    | none =>
        rw [found] at stateText
        cases stateText
    | some payload => exact ⟨payload, rfl⟩
  have fingerprint : isSha256 (some (.string (computePublishingSha256 host (.object event)))) =
      true := digests _
  have accepted := change.status
  have binds := change.bindsRecord
  rw [isPayload] at accepted binds isVersion isState stateText versionValue
  have bindsPayload := valid.bindsPayload
  rw [differs_eq_false] at binds bindsPayload
  simp only [List.forall_mem_cons, property_object] at binds bindsPayload
  rw [isVersion] at versionValue
  have get := fun name => @get_changedRecord host event record receivedAt name
  rw [isPayload] at get
  constructor
  case names =>
    intro field member
    exact names_changedRecord valid member
  case contract => simpa [get] using valid.contract
  case candidateId => simpa [get] using valid.candidateId
  case eventId => simpa [get, isEventId] using uuidEvent
  case businessId => simpa [get] using valid.businessId
  case checksum => simpa [get] using valid.checksum
  case fingerprint => simpa [get] using fingerprint
  case version => simpa [get, versionValue] using positive
  case receivedAt => simpa [get] using envelope.2
  case payload => simpa [get] using valid.payload
  case status => simpa [get] using accepted
  case bindsPayload => simpa [differs_eq_false, get] using bindsPayload
  case bindsStatus =>
    obtain ⟨sameCandidate, sameBusiness, sameChecksum, -⟩ := binds
    rw [← eq_of_strictEquals sameCandidate, ← eq_of_strictEquals sameBusiness,
      ← eq_of_strictEquals sameChecksum] at bindsPayload
    simpa [differs_eq_false, get] using bindsPayload
  case state =>
    rw [get, get, if_neg (by decide), if_neg (by decide), if_neg (by decide), if_pos rfl,
      if_neg (by decide), if_pos rfl]
    show strictEquals _ (property (some payload) _) = true
    rw [← isState]
    exact strictEquals_of_text stateText stateText
  case stateVersion =>
    rw [get, get, if_neg (by decide), if_neg (by decide), if_pos rfl,
      if_neg (by decide), if_pos rfl]
    show strictEquals _ (property (some payload) _) = true
    rw [isVersion]
    exact strictEquals_of_integer versionValue

/-- The changes that the reducer applies, with everything it has checked before. -/
inductive Applied (host : Host) (before : Option Fields) (event : Fields) (receivedAt : String) :
    Fields → Prop
  | created (isNew : before = none) (valid : ValidCreated host event receivedAt) :
      Applied host before event receivedAt (createdRecord host event receivedAt)
  | changed (record : Fields) (isStored : before = some record)
      (isChange : isText (Json.get event "event_type") stateChangedType = true)
      (valid : ValidChange host record event receivedAt)
      (leaves : isText (property (Json.get event "payload") "candidate_state") "active" = false)
      (notBelow : isBelow (property (Json.get event "payload") "state_version")
        (Json.get record "source_state_version") = false)
      (notSame : isSame (property (Json.get event "payload") "state_version")
        (Json.get record "source_state_version") = false) :
      Applied host before event receivedAt (changedRecord host record event receivedAt)

theorem reduceCreatedEvent_cases {before : Option Fields}
    (envelope : validateEventEnvelope host event receivedAt = [])
    (type : isText (Json.get event "event_type") createdType = true) :
    ((reduceCreatedEvent host before event receivedAt).changed = false ∧
        (reduceCreatedEvent host before event receivedAt).record = before) ∨
      ((reduceCreatedEvent host before event receivedAt).changed = true ∧
        ∃ after, (reduceCreatedEvent host before event receivedAt).record = some after ∧
          Applied host before event receivedAt after) := by
  unfold reduceCreatedEvent
  dsimp only
  split
  · exact Or.inl ⟨rfl, rfl⟩
  · next accepted =>
    rw [not_not, mapContentValidation_eq_nil] at accepted
    split
    · exact Or.inr ⟨rfl, _, rfl, .created rfl ⟨envelope, type, accepted⟩⟩
    · split
      · exact Or.inl ⟨rfl, rfl⟩
      · split
        · exact Or.inl ⟨rfl, rfl⟩
        · split
          · exact Or.inl ⟨rfl, rfl⟩
          · exact Or.inl ⟨rfl, rfl⟩

theorem reduceStateChangedEvent_cases {before : Option Fields}
    (envelope : validateEventEnvelope host event receivedAt = [])
    (type : isText (Json.get event "event_type") stateChangedType = true) :
    ((reduceStateChangedEvent host before event receivedAt).changed = false ∧
        (reduceStateChangedEvent host before event receivedAt).record = before) ∨
      ((reduceStateChangedEvent host before event receivedAt).changed = true ∧
        ∃ after, (reduceStateChangedEvent host before event receivedAt).record = some after ∧
          Applied host before event receivedAt after) := by
  unfold reduceStateChangedEvent
  dsimp only
  split
  · exact Or.inl ⟨rfl, rfl⟩
  · next record =>
    split
    · exact Or.inl ⟨rfl, rfl⟩
    · next accepted =>
      rw [not_not, mapContentValidation_eq_nil] at accepted
      split
      · exact Or.inl ⟨rfl, rfl⟩
      · next leaves =>
        split
        · exact Or.inl ⟨rfl, rfl⟩
        · next binds =>
          split
          · exact Or.inl ⟨rfl, rfl⟩
          · next notBelow =>
            split
            · split
              · exact Or.inl ⟨rfl, rfl⟩
              · exact Or.inl ⟨rfl, rfl⟩
            · next notSame =>
              rw [Bool.not_eq_true] at leaves binds notBelow notSame
              exact Or.inr ⟨rfl, _, rfl, .changed record rfl type ⟨envelope, accepted, binds⟩
                leaves notBelow notSame⟩

/-- Everything that the reducer can do with an event. -/
theorem reduce_cases (before : Option Fields) (event : Json) (receivedAt : String) :
    ((reducePublicationCandidateEventV1 host before event receivedAt).changed = false ∧
        (reducePublicationCandidateEventV1 host before event receivedAt).record = before) ∨
      ((reducePublicationCandidateEventV1 host before event receivedAt).changed = true ∧
        ∃ fields after, event = .object fields ∧
          (reducePublicationCandidateEventV1 host before event receivedAt).record = some after ∧
          Applied host before fields receivedAt after) := by
  unfold reducePublicationCandidateEventV1
  cases event with
  | object fields =>
      dsimp only [Json.fields?]
      split
      · exact Or.inl ⟨rfl, rfl⟩
      · next envelope =>
        rw [not_not] at envelope
        split
        · exact Or.inl ⟨rfl, rfl⟩
        · split
          · next type =>
            rcases reduceCreatedEvent_cases envelope type with same | ⟨changed, after, isAfter, applied⟩
            · exact Or.inl same
            · exact Or.inr ⟨changed, fields, after, rfl, isAfter, applied⟩
          · split
            · next type =>
              rcases reduceStateChangedEvent_cases envelope type with
                same | ⟨changed, after, isAfter, applied⟩
              · exact Or.inl same
              · exact Or.inr ⟨changed, fields, after, rfl, isAfter, applied⟩
            · exact Or.inl ⟨rfl, rfl⟩
  | _ => exact Or.inl ⟨rfl, rfl⟩

/-- A valid created event is applied when nothing is stored. -/
theorem reduce_created (created : ValidCreated host event receivedAt) :
    reducePublicationCandidateEventV1 host none (.object event) receivedAt =
      success .applied (createdRecord host event receivedAt) := by
  unfold reducePublicationCandidateEventV1 reduceCreatedEvent
  dsimp only [Json.fields?, Option.elim]
  rw [if_neg (not_not.mpr created.envelope), if_neg (not_not.mpr rfl), if_pos created.type,
    if_neg (not_not.mpr (mapContentValidation_eq_nil.mpr created.candidate))]

/-- The version of an applied change is above the stored one. -/
theorem version_above {incoming stored : Option Json} {old new : Int}
    (isNew : integerOf incoming = some new) (isOld : integerOf stored = some old)
    (notBelow : isBelow incoming stored = false) (notSame : isSame incoming stored = false) :
    old < new := by
  unfold isBelow at notBelow
  unfold isSame at notSame
  rw [isNew, isOld] at notBelow notSame
  simp only [decide_eq_false_iff_not] at notBelow notSame
  omega

theorem versionOf_changedRecord :
    versionOf (changedRecord host record event receivedAt) =
      integerOf (some (known (Json.get event "payload") "state_version")) := by
  unfold versionOf
  rw [get_changedRecord, if_neg (by decide), if_neg (by decide), if_pos rfl]

/-- Whatever is applied advances a valid record, when a new candidate has UUIDs. -/
theorem applied_advances (digests : ∀ text, isSha256Text (host.sha256 text) = true)
    {before : Option Fields} {after : Fields} (stored : Stored host before)
    (applied : Applied host before event receivedAt after)
    (identified : before = none → hasUuids event = true) :
    Advances host before after := by
  cases applied with
  | created isNew valid =>
      refine ⟨validRecord_iff.mpr (createdRecord_valid digests valid (identified isNew)), ?_, ?_⟩
      · intro record isStored
        rw [isNew] at isStored
        cases isStored
      · intro record isStored
        rw [isNew] at isStored
        cases isStored
  | changed record isStored isChange valid leaves notBelow notSame =>
      have validRecord := validRecord_iff.mp (stored record isStored)
      refine ⟨validRecord_iff.mpr (changedRecord_valid digests validRecord valid), ?_, ?_⟩
      · intro found isFound name isImmutable
        obtain rfl := Option.some.inj (isStored.symm.trans isFound)
        rw [get_changedRecord]
        simp only [immutableFields, List.mem_cons, List.not_mem_nil, or_false] at isImmutable
        rcases isImmutable with rfl | rfl | rfl | rfl <;> simp
      · intro found isFound
        obtain rfl := Option.some.inj (isStored.symm.trans isFound)
        have status := validStatus_of_accepted valid.status
        obtain ⟨new, isVersion, -⟩ := status.version
        obtain ⟨old, isOld, -⟩ := (Option.any_eq_true _ _).mp validRecord.version
        refine ⟨old, new, isOld, ?_, version_above isVersion isOld notBelow notSame⟩
        rw [versionOf_changedRecord, ← (known_of_status status).1, isVersion]

/-- The record of a created event is valid only when its identities are UUIDs. -/
theorem hasUuids_of_validRecord
    (accepted : validatePublicationCandidateV1 host (Json.get event "payload") = [])
    (valid : ValidRecord host (createdRecord host event receivedAt)) : hasUuids event = true := by
  have candidate := validCandidate_of_accepted accepted
  obtain ⟨candidateId, isCandidateId⟩ := text_of_nonEmpty candidate.candidateId
  obtain ⟨businessId, isBusinessId⟩ := text_of_nonEmpty candidate.businessId
  unfold hasUuids
  rw [isCandidateId, isBusinessId, ← known_of_property isCandidateId,
    ← known_of_property isBusinessId, Bool.and_eq_true]
  constructor
  · simpa [createdRecord, Json.get] using valid.candidateId
  · simpa [createdRecord, Json.get] using valid.businessId

/-- The reducer is sound for an event exactly when the event does not store a
candidate without UUIDs. -/
theorem sound_iff_identified (digests : ∀ text, isSha256Text (host.sha256 text) = true)
    {before : Option Fields} (stored : Stored host before) (event : Json) (receivedAt : String) :
    Sound host before event receivedAt ↔ Identified host before event receivedAt := by
  constructor
  · intro sound isNew fields isObject created
    subst isNew isObject
    unfold Sound at sound
    rw [reduce_created created] at sound
    rcases sound with ⟨unchanged, -⟩ | ⟨-, after, isAfter, advances⟩
    · cases unchanged
    · obtain rfl := Option.some.inj isAfter
      exact hasUuids_of_validRecord created.candidate (validRecord_iff.mp advances.valid)
  · intro identified
    rcases reduce_cases before event receivedAt with same | ⟨changed, fields, after, rfl, isAfter,
      applied⟩
    · exact Or.inl same
    · refine Or.inr ⟨changed, after, isAfter, applied_advances digests stored applied ?_⟩
      intro isNew
      cases applied with
      | created _ valid => exact identified isNew fields rfl valid
      | changed record isStored =>
          rw [isNew] at isStored
          cases isStored

end Reducer

/-! ### Runs of events -/

/-- One delivery: an event and the time of its receipt. -/
structure Delivery where
  event : Json
  receivedAt : String

/-- What a delivery leaves stored. -/
def deliver (host : Host) (before : Option Fields) (delivery : Delivery) : Option Fields :=
  (reducePublicationCandidateEventV1 host before delivery.event delivery.receivedAt).record

def deliverAll (host : Host) (before : Option Fields) (deliveries : List Delivery) :
    Option Fields :=
  deliveries.foldl (deliver host) before

/-- Every candidate that the deliveries store for the first time has UUIDs. -/
def AllIdentified (host : Host) : Option Fields → List Delivery → Prop
  | _, [] => True
  | before, delivery :: rest =>
      Identified host before delivery.event delivery.receivedAt ∧
        AllIdentified host (deliver host before delivery) rest

/-- What a run of events keeps of the record that it starts with. -/
structure Follows (before after : Fields) : Prop where
  keeps : ∀ name ∈ immutableFields, Json.get after name = Json.get before name
  version : ∃ old new, versionOf before = some old ∧ versionOf after = some new ∧ old ≤ new
  inactive : isText (Json.get before "source_state") "active" = false →
    isText (Json.get after "source_state") "active" = false

section Runs

variable {host : Host} {before : Option Fields}

theorem stored_none : Stored host none := by
  intro fields isStored
  cases isStored

/-- One delivery keeps the stored record valid. -/
theorem stored_deliver (digests : ∀ text, isSha256Text (host.sha256 text) = true)
    (stored : Stored host before) (delivery : Delivery)
    (identified : Identified host before delivery.event delivery.receivedAt) :
    Stored host (deliver host before delivery) := by
  unfold deliver
  rcases (sound_iff_identified digests stored _ _).mpr identified with
    ⟨-, same⟩ | ⟨-, after, isAfter, advances⟩
  · rw [same]
    exact stored
  · rw [isAfter]
    intro fields isStored
    obtain rfl := Option.some.inj isStored
    exact advances.valid

theorem follows_refl {record : Fields} (valid : ValidRecord host record) :
    Follows record record := by
  obtain ⟨version, isVersion, -⟩ := (Option.any_eq_true _ _).mp valid.version
  exact ⟨fun _ _ => rfl, ⟨version, version, isVersion, isVersion, le_refl _⟩, id⟩

theorem Follows.trans {first second third : Fields} (head : Follows first second)
    (tail : Follows second third) : Follows first third := by
  refine ⟨?_, ?_, fun inactive => tail.inactive (head.inactive inactive)⟩
  · intro name isImmutable
    exact (tail.keeps name isImmutable).trans (head.keeps name isImmutable)
  · obtain ⟨first, second, isFirst, isSecond, headGrows⟩ := head.version
    obtain ⟨second', third, isSecond', isThird, tailGrows⟩ := tail.version
    obtain rfl := Option.some.inj (isSecond.symm.trans isSecond')
    exact ⟨first, third, isFirst, isThird, le_trans headGrows tailGrows⟩

/-- One delivery follows the record that it finds. -/
theorem follows_deliver (digests : ∀ text, isSha256Text (host.sha256 text) = true)
    {record : Fields} (stored : Stored host (some record)) (delivery : Delivery) :
    ∃ after, deliver host (some record) delivery = some after ∧ Follows record after := by
  have valid := validRecord_iff.mp (stored record rfl)
  unfold deliver
  rcases reduce_cases (some record) delivery.event delivery.receivedAt with
    ⟨-, same⟩ | ⟨-, fields, after, -, isAfter, applied⟩
  · exact ⟨record, same, follows_refl valid⟩
  · have advances := applied_advances digests stored applied (by simp)
    obtain ⟨old, new, isOld, isNew, newer⟩ := advances.newer record rfl
    refine ⟨after, isAfter, advances.keeps record rfl, ⟨old, new, isOld, isNew, newer.le⟩, ?_⟩
    clear isNew
    intro _
    cases applied with
    | created isNew => cases isNew
    | changed found isFound isChange change leaves =>
        rw [get_changedRecord, if_neg (by decide), if_neg (by decide), if_neg (by decide),
          if_pos rfl, ← (known_of_status (validStatus_of_accepted change.status)).2]
        exact leaves

/-- A run of events follows the record that it starts with. -/
theorem follows_deliverAll (digests : ∀ text, isSha256Text (host.sha256 text) = true)
    (deliveries : List Delivery) :
    ∀ record : Fields, Stored host (some record) →
      ∃ after, deliverAll host (some record) deliveries = some after ∧ Follows record after := by
  induction deliveries with
  | nil =>
      intro record stored
      exact ⟨record, rfl, follows_refl (validRecord_iff.mp (stored record rfl))⟩
  | cons delivery rest inductionHypothesis =>
      intro record stored
      obtain ⟨middle, isMiddle, head⟩ := follows_deliver digests stored delivery
      have storedMiddle := stored_deliver digests stored delivery (by intro isNew; cases isNew)
      rw [isMiddle] at storedMiddle
      obtain ⟨after, isAfter, tail⟩ := inductionHypothesis middle storedMiddle
      refine ⟨after, ?_, head.trans tail⟩
      unfold deliverAll
      rw [List.foldl_cons, isMiddle]
      exact isAfter

theorem stored_deliverAll (digests : ∀ text, isSha256Text (host.sha256 text) = true)
    (deliveries : List Delivery) :
    ∀ before : Option Fields, Stored host before → AllIdentified host before deliveries →
      Stored host (deliverAll host before deliveries) := by
  induction deliveries with
  | nil =>
      intro before stored _
      exact stored
  | cons delivery rest inductionHypothesis =>
      intro before stored identified
      exact inductionHypothesis _ (stored_deliver digests stored delivery identified.1) identified.2

/-- No delivery changes the record. -/
def NothingApplied (host : Host) (record : Option Fields) (deliveries : List Delivery) : Prop :=
  ∀ delivery ∈ deliveries,
    (reducePublicationCandidateEventV1 host record delivery.event delivery.receivedAt).changed =
      false

theorem deliverAll_of_nothingApplied {deliveries : List Delivery} :
    NothingApplied host before deliveries → deliverAll host before deliveries = before := by
  induction deliveries with
  | nil =>
      intro _
      rfl
  | cons delivery rest inductionHypothesis =>
      intro nothing
      have same : deliver host before delivery = before := by
        unfold deliver
        rcases reduce_cases before delivery.event delivery.receivedAt with ⟨-, same⟩ | ⟨changed, -⟩
        · exact same
        · rw [nothing delivery List.mem_cons_self] at changed
          cases changed
      unfold deliverAll
      rw [List.foldl_cons, same]
      exact inductionHypothesis fun later member => nothing later (List.mem_cons_of_mem _ member)

/-- The envelope of an event stays valid at every valid receipt time. -/
theorem envelope_iff_receipt {event : Fields} {receivedAt : String}
    (envelope : validateEventEnvelope host event receivedAt = []) (again : String) :
    validateEventEnvelope host event again = [] ↔
      isIsoDateTime host (some (.string again)) = true := by
  constructor
  · intro accepted
    exact (envelope_of_accepted accepted).2
  · intro isTime
    unfold validateEventEnvelope at envelope ⊢
    split at envelope
    · cases envelope
    · rw [issueWhen_eq_nil] at envelope ⊢
      simp only [Bool.or_eq_false_iff, Bool.not_eq_false'] at envelope ⊢
      exact ⟨envelope.1, isTime⟩

theorem type_apart {event : Fields}
    (isChange : isText (Json.get event "event_type") stateChangedType = true) :
    isText (Json.get event "event_type") createdType = false := by
  rw [isText_iff] at isChange
  rw [isChange]
  decide

/-- The created event that a record stems from is a replay for it. -/
theorem replay_of_created {event : Fields} {receivedAt again : String}
    (created : ValidCreated host event receivedAt)
    (valid : ValidRecord host (createdRecord host event receivedAt))
    (envelope : validateEventEnvelope host event again = []) :
    reducePublicationCandidateEventV1 host (some (createdRecord host event receivedAt))
      (.object event) again =
      success .identicalReplay (createdRecord host event receivedAt) := by
  have candidate := validCandidate_of_accepted created.candidate
  obtain ⟨candidateId, isCandidateId⟩ := text_of_nonEmpty candidate.candidateId
  obtain ⟨businessId, isBusinessId⟩ := text_of_nonEmpty candidate.businessId
  have same : differs ["candidate_id", "business_id"]
      (some (.object (createdRecord host event receivedAt))) (Json.get event "payload") = false := by
    rw [differs_eq_false]
    simp only [List.forall_mem_cons, property_object]
    refine ⟨?_, ?_, by simp⟩
    · apply strictEquals_of_text _ isCandidateId
      rw [← known_of_property isCandidateId]
      simp [createdRecord, Json.get]
    · apply strictEquals_of_text _ isBusinessId
      rw [← known_of_property isBusinessId]
      simp [createdRecord, Json.get]
  have first : ((integerOf (Json.get (createdRecord host event receivedAt)
      "source_state_version")).any (1 < ·)) = false := by
    simp [createdRecord, Json.get, integerOf, Number.integer?]
  have fingerprint : isText (Json.get (createdRecord host event receivedAt) "event_fingerprint")
      (computePublishingSha256 host (.object event)) = true := by
    rw [isText_iff]
    simp [createdRecord, Json.get]
  unfold reducePublicationCandidateEventV1 reduceCreatedEvent
  dsimp only [Json.fields?, Option.elim]
  rw [if_neg (not_not.mpr envelope), if_neg (not_not.mpr (validRecord_iff.mpr valid)),
    if_pos created.type, if_neg (not_not.mpr (mapContentValidation_eq_nil.mpr created.candidate)),
    if_neg (by simp [same]), if_neg (by simp [first]), if_pos fingerprint]

/-- The state-changed event that a record stems from is a replay for it. -/
theorem replay_of_changed {record event : Fields} {receivedAt again : String}
    (isChange : isText (Json.get event "event_type") stateChangedType = true)
    (change : ValidChange host record event receivedAt)
    (leaves : isText (property (Json.get event "payload") "candidate_state") "active" = false)
    (valid : ValidRecord host (changedRecord host record event receivedAt))
    (envelope : validateEventEnvelope host event again = []) :
    reducePublicationCandidateEventV1 host (some (changedRecord host record event receivedAt))
      (.object event) again =
      success .identicalReplay (changedRecord host record event receivedAt) := by
  have status := validStatus_of_accepted change.status
  obtain ⟨version, isVersion, -⟩ := status.version
  have stored : integerOf (Json.get (changedRecord host record event receivedAt)
      "source_state_version") = some version := by
    rw [← isVersion, (known_of_status status).1]
    exact versionOf_changedRecord
  have binds : differs ["candidate_id", "business_id", "candidate_checksum"]
      (Json.get event "payload")
      (some (.object (changedRecord host record event receivedAt))) = false := by
    simpa [differs_eq_false, get_changedRecord] using differs_eq_false.mp change.bindsRecord
  have notBelow : isBelow (property (Json.get event "payload") "state_version")
      (Json.get (changedRecord host record event receivedAt) "source_state_version") = false := by
    unfold isBelow
    rw [isVersion, stored]
    simp
  have same : isSame (property (Json.get event "payload") "state_version")
      (Json.get (changedRecord host record event receivedAt) "source_state_version") = true := by
    unfold isSame
    rw [isVersion, stored]
    simp
  have fingerprint : isText (Json.get (changedRecord host record event receivedAt)
      "event_fingerprint") (computePublishingSha256 host (.object event)) = true := by
    rw [isText_iff]
    simp [get_changedRecord]
  unfold reducePublicationCandidateEventV1 reduceStateChangedEvent
  dsimp only [Json.fields?, Option.elim]
  rw [if_neg (not_not.mpr envelope), if_neg (not_not.mpr (validRecord_iff.mpr valid)),
    if_neg (by simp [type_apart isChange]), if_pos isChange,
    if_neg (not_not.mpr (mapContentValidation_eq_nil.mpr change.status)),
    if_neg (by simp [leaves]), if_neg (by simp [binds]), if_neg (by simp [notBelow]), if_pos same,
    if_pos fingerprint]

/-- The event that a record stems from is a replay for it. -/
theorem replay_of_applied {event after : Fields} {receivedAt again : String}
    (applied : Applied host before event receivedAt after) (valid : ValidRecord host after)
    (isTime : isIsoDateTime host (some (.string again)) = true) :
    reducePublicationCandidateEventV1 host (some after) (.object event) again =
      success .identicalReplay after := by
  cases applied with
  | created isNew created =>
      exact replay_of_created created valid ((envelope_iff_receipt created.envelope again).mpr isTime)
  | changed record isStored isChange change leaves notBelow notSame =>
      exact replay_of_changed isChange change leaves valid
        ((envelope_iff_receipt change.envelope again).mpr isTime)

theorem envelope_of_applied {event after : Fields} {receivedAt : String}
    (applied : Applied host before event receivedAt after) :
    validateEventEnvelope host event receivedAt = [] := by
  cases applied with
  | created isNew created => exact created.envelope
  | changed record isStored isChange change => exact change.envelope

end Runs

/-- Re-delivering the event is an identical replay that changes nothing. -/
def Replays (host : Host) (record : Option Fields) (delivery : Delivery) : Prop :=
  let result := reducePublicationCandidateEventV1 host record delivery.event delivery.receivedAt
  result.accepted = true ∧ result.changed = false ∧ result.disposition = .identicalReplay ∧
    result.record = record

/-- The newest event that a run has applied. -/
structure Newest (host : Host) (before : Option Fields) (earlier : List Delivery)
    (newest : Delivery) (later : List Delivery) : Prop where
  applied : (reducePublicationCandidateEventV1 host (deliverAll host before earlier)
    newest.event newest.receivedAt).changed = true
  last : NothingApplied host (deliverAll host before (earlier ++ [newest])) later

section Soundness

variable {host : Host} {before : Option Fields}

theorem allIdentified_append {earlier later : List Delivery} :
    ∀ before, AllIdentified host before (earlier ++ later) ↔
      AllIdentified host before earlier ∧
        AllIdentified host (deliverAll host before earlier) later := by
  induction earlier with
  | nil =>
      intro before
      exact ⟨fun rest => ⟨trivial, rest⟩, fun both => both.2⟩
  | cons delivery rest inductionHypothesis =>
      intro before
      show Identified host before delivery.event delivery.receivedAt ∧
          AllIdentified host (deliver host before delivery) (rest ++ later) ↔ _
      rw [inductionHypothesis (deliver host before delivery), ← and_assoc]
      rfl

theorem deliverAll_append (earlier later : List Delivery) :
    deliverAll host before (earlier ++ later) =
      deliverAll host (deliverAll host before earlier) later := by
  unfold deliverAll
  exact List.foldl_append

/-- The newest applied event is replayed at every valid receipt time, and only there. -/
theorem replays_iff (digests : ∀ text, isSha256Text (host.sha256 text) = true)
    {earlier later : List Delivery} {newest : Delivery} (stored : Stored host before)
    (identified : AllIdentified host before (earlier ++ newest :: later))
    (isNewest : Newest host before earlier newest later) (again : String) :
    Replays host (deliverAll host before (earlier ++ newest :: later)) ⟨newest.event, again⟩ ↔
      isIsoDateTime host (some (.string again)) = true := by
  have split := (allIdentified_append before).mp identified
  have storedBefore := stored_deliverAll digests earlier before stored split.1
  have storedAfter := stored_deliver digests storedBefore newest split.2.1
  have final : deliverAll host before (earlier ++ newest :: later) =
      deliver host (deliverAll host before earlier) newest := by
    have nothing := isNewest.last
    rw [deliverAll_append] at nothing ⊢
    exact deliverAll_of_nothingApplied nothing
  rw [final]
  unfold deliver at storedAfter ⊢
  rcases reduce_cases (deliverAll host before earlier) newest.event newest.receivedAt with
    ⟨unchanged, -⟩ | ⟨-, fields, after, isObject, isAfter, applied⟩
  · rw [isNewest.applied] at unchanged
    cases unchanged
  · rw [isAfter] at storedAfter ⊢
    rw [isObject]
    unfold Replays
    constructor
    · intro replay
      rw [← envelope_iff_receipt (envelope_of_applied applied)]
      by_contra invalid
      have rejected := replay.1
      unfold reducePublicationCandidateEventV1 at rejected
      dsimp only [Json.fields?] at rejected
      rw [if_pos invalid] at rejected
      cases rejected
    · intro isTime
      have valid := validRecord_iff.mp (storedAfter after rfl)
      dsimp only
      rw [replay_of_applied applied valid isTime]
      exact ⟨rfl, rfl, rfl, rfl⟩

end Soundness

/-! ### A candidate with and without UUIDs -/

/-- The digests are those of the texts that the examples compute; each of these
texts is the only one of its size. -/
def exampleHost : Host where
  sha256 text :=
    if text.utf8ByteSize = 915 then "0aafce8d08814e17a7d69ab6b376fd4254510391e95a2706cd7eb623980ff130"
    else if text.utf8ByteSize = 940 then
      "5073c28cfa49094336a0a738255d087e6223a7183f2cd632f395f840e9029c65"
    else if text.utf8ByteSize = 1214 then
      "76d231b1cff652230290052056a3207291fa8770b747cafe8ba1918278fa9f34"
    else if text.utf8ByteSize = 1239 then
      "7c9903b633f593d399d600e466dc7df7aecfc315abd2ceea8f8fb3f558a1f876"
    else if text.utf8ByteSize = 606 then
      "e270307185c4402a37cdf3b8f19fd831ccf835a86e89d8403fbfae31565c9cd6"
    else if text.utf8ByteSize = 581 then
      "7deb05ce01ad93970a2459ebdc62a3d05a19ab76a9481c353166ad77d75ddd3e"
    else "0000000000000000000000000000000000000000000000000000000000000000"
  hmacSha256 _ _ := "0000000000000000000000000000000000000000000000000000000000000000"
  parseDate text :=
    if text = "2026-07-01T10:00:00Z" then some 1782900000000
    else if text = "2026-07-02T10:00:00Z" then some 1782986400000
    else if text = "2026-08-01T10:00:00Z" then some 1785578400000
    else if text = "2026-08-01T12:00:00Z" then some 1785585600000
    else none
  localeLe left right := left ≤ right
  toISOString _ := "2026-07-02T10:00:00Z"
  uuidText _ := ""
  uuidOf _ := none
  localToUtc _ _ := none
  toNaiveLocal _ := ""
  signingSecret := ""
  signingKeyId := ""
  workflowVersion := ""
  callbackBaseUrl := ""

def exampleBusiness : String := "0b7e0c1a-0000-4000-8000-000000000002"

/-- A text post of the given candidate identity. -/
def exampleCandidate (candidateId checksum : String) : Fields :=
  [("contract_version", .string "publication-candidate-v1"),
    ("candidate_id", .string candidateId), ("business_id", .string exampleBusiness),
    ("strategy_id", .string "strategy-1"), ("strategy_version", .number (.integer 1)),
    ("content_cycle_id", .string "cycle-1"), ("strategy_week_number", .number (.integer 1)),
    ("content_pack_id", .string "pack-1"), ("content_item_id", .string "item-1"),
    ("content_item_version_id", .string "version-1"),
    ("content_item_version", .number (.integer 1)),
    ("content_item_version_checksum", .string "checksum-1"),
    ("target_channel", .string "facebook"), ("content_format", .string "text_post"),
    ("selected_locale", .string "en"), ("caption", .string "Hello"), ("cta", .null),
    ("hashtags", .array []), ("alt_text", .string ""), ("assets", .array []),
    ("recommended_publish_window", .object [("starts_at", .string "2026-08-01T10:00:00Z"),
      ("ends_at", .string "2026-08-01T12:00:00Z"), ("timezone", .string "Africa/Cairo")]),
    ("approval", .object [("decision", .string "approved"), ("decision_id", .string "decision-1"),
      ("decided_by_user_id", .string "owner-1"), ("decided_at", .string "2026-07-01T10:00:00Z"),
      ("content_item_version_id", .string "version-1"),
      ("content_item_version_checksum", .string "checksum-1")]),
    ("candidate_checksum", .string checksum),
    ("created_at", .string "2026-07-01T10:00:00Z")]

def exampleCreated (candidateId checksum : String) : Delivery where
  event := .object [("event_id", .string "0b7e0c1a-0000-4000-8000-000000000003"),
    ("event_type", .string createdType), ("occurred_at", .string "2026-07-01T10:00:00Z"),
    ("correlation_id", .string "0b7e0c1a-0000-4000-8000-000000000004"),
    ("payload", .object (exampleCandidate candidateId checksum))]
  receivedAt := "2026-07-01T10:00:00Z"

def exampleRevoked (candidateId checksum : String) : Delivery where
  event := .object [("event_id", .string "0b7e0c1a-0000-4000-8000-000000000005"),
    ("event_type", .string stateChangedType), ("occurred_at", .string "2026-07-02T10:00:00Z"),
    ("correlation_id", .string "0b7e0c1a-0000-4000-8000-000000000006"),
    ("payload", .object [("contract_version", .string "publication-candidate-status-v1"),
      ("candidate_id", .string candidateId), ("business_id", .string exampleBusiness),
      ("candidate_checksum", .string checksum), ("state_version", .number (.integer 2)),
      ("candidate_state", .string "revoked"), ("replacement_candidate_id", .null),
      ("changed_by_user_id", .null), ("changed_at", .string "2026-07-02T10:00:00Z")])]
  receivedAt := "2026-07-02T10:00:00Z"

/-- A valid candidate whose identity is no UUID. -/
def namedCreated : Delivery :=
  exampleCreated "candidate-1" "0aafce8d08814e17a7d69ab6b376fd4254510391e95a2706cd7eb623980ff130"

def namedRevoked : Delivery :=
  exampleRevoked "candidate-1" "0aafce8d08814e17a7d69ab6b376fd4254510391e95a2706cd7eb623980ff130"

def uuidCreated : Delivery :=
  exampleCreated "0b7e0c1a-0000-4000-8000-000000000001"
    "5073c28cfa49094336a0a738255d087e6223a7183f2cd632f395f840e9029c65"

def uuidRevoked : Delivery :=
  exampleRevoked "0b7e0c1a-0000-4000-8000-000000000001"
    "5073c28cfa49094336a0a738255d087e6223a7183f2cd632f395f840e9029c65"

theorem exampleHost_digests (text : String) : isSha256Text (exampleHost.sha256 text) = true := by
  unfold exampleHost
  dsimp only
  split
  · decide +kernel
  · split
    · decide +kernel
    · split
      · decide +kernel
      · split
        · decide +kernel
        · split
          · decide +kernel
          · split <;> decide +kernel

theorem namedCreated_valid :
    ∃ fields, namedCreated.event = .object fields ∧ hasUuids fields = false ∧
      ValidCreated exampleHost fields namedCreated.receivedAt :=
  ⟨_, rfl, by decide +kernel, by decide +kernel, by decide +kernel, by decide +kernel⟩

theorem uuidCreated_identified (before : Option Fields) :
    Identified exampleHost before uuidCreated.event uuidCreated.receivedAt := by
  intro _ fields isObject _
  obtain rfl := Json.object.inj isObject
  decide +kernel

theorem uuidRevoked_identified (before : Option Fields) :
    Identified exampleHost before uuidRevoked.event uuidRevoked.receivedAt := by
  intro _ fields isObject created
  obtain rfl := Json.object.inj isObject
  exact absurd created.type (by decide +kernel)

end MarketMind.Publishing.Intake
