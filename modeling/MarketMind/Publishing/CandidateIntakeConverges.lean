import Mathlib
import MarketMind.Publishing.CandidateIntakeSound

/-!
Owns the convergence of candidate intake: whatever the order and the number of
deliveries, the stored record stands at the event with the greatest version. The
run of the reducer is simulated by the `argmax` of what has been delivered.
-/

namespace MarketMind.Publishing.Intake

open Contract

/-- The version that an event brings: 1 for a created event. -/
def eventVersion (event : Fields) : Int :=
  if isText (Json.get event "event_type") createdType then 1
  else (integerOf (property (Json.get event "payload") "state_version")).getD 0

/-- What of a record a newer event changes. -/
def standing (record : Fields) : List (Option Json) :=
  ["source_state", "source_state_version", "source_status", "event_id", "event_fingerprint"].map
    (Json.get record)

/-- Where an event lets the record stand. -/
def standingOf (host : Host) (event : Fields) : List (Option Json) :=
  let payload := Json.get event "payload"
  let fingerprint := some (.string (computePublishingSha256 host (.object event)))
  if isText (Json.get event "event_type") createdType then
    [some (.string "active"), some (.number (.integer 1)), some (activeStatusForCandidate payload),
      Json.get event "event_id", fingerprint]
  else
    [property payload "candidate_state", property payload "state_version", payload,
      Json.get event "event_id", fingerprint]

/-- A valid created event and valid state-changed events of its candidate. -/
structure ValidHistory (host : Host) (created : Fields) (changes : List Fields)
    (receivedAt : String) : Prop where
  isCreated : ValidCreated host created receivedAt
  isChange : ∀ change ∈ changes, isText (Json.get change "event_type") stateChangedType = true
  envelope : ∀ change ∈ changes, validateEventEnvelope host change receivedAt = []
  status : ∀ change ∈ changes,
    validatePublicationCandidateStatusV1 host (Json.get change "payload") = []
  leaves : ∀ change ∈ changes,
    isText (property (Json.get change "payload") "candidate_state") "active" = false
  bindsCandidate : ∀ change ∈ changes, differs ["candidate_id", "business_id", "candidate_checksum"]
    (Json.get change "payload") (Json.get created "payload") = false
  above : ∀ change ∈ changes, 1 < eventVersion change
  distinct : (changes.map eventVersion).Nodup

/-- An order in which the events of a history are delivered: the created event
first, every event at least once, each at a valid receipt time. -/
structure DeliveryOrder (host : Host) (created : Fields) (changes : List Fields)
    (deliveries : List Delivery) : Prop where
  first : deliveries.head?.map (·.event) = some (.object created)
  only : ∀ delivery ∈ deliveries, ∃ event ∈ created :: changes, delivery.event = .object event
  all : ∀ change ∈ changes, ∃ delivery ∈ deliveries, delivery.event = .object change
  times : ∀ delivery ∈ deliveries, isIsoDateTime host (some (.string delivery.receivedAt)) = true

/-- Any two delivery orders lead to where the event of the greatest version stands. -/
def Converges (host : Host) (created : Fields) (changes : List Fields) : Prop :=
  ∀ first second, DeliveryOrder host created changes first →
    DeliveryOrder host created changes second →
      ∃ newest ∈ created :: changes,
        (∀ event ∈ created :: changes, eventVersion event ≤ eventVersion newest) ∧
        ∃ left right, deliverAll host none first = some left ∧
          deliverAll host none second = some right ∧
          standing left = standingOf host newest ∧ standing right = standingOf host newest

section Simulation

variable {host : Host} {created : Fields} {changes : List Fields} {receivedAt : String}

theorem eventVersion_created (history : ValidHistory host created changes receivedAt) :
    eventVersion created = 1 := by
  unfold eventVersion
  rw [if_pos history.isCreated.type]

theorem eventVersion_change (history : ValidHistory host created changes receivedAt)
    {change : Fields} (member : change ∈ changes) :
    integerOf (property (Json.get change "payload") "state_version") =
      some (eventVersion change) := by
  have apart := type_apart (history.isChange change member)
  obtain ⟨version, isVersion, -⟩ :=
    (validStatus_of_accepted (history.status change member)).version
  unfold eventVersion
  rw [if_neg (by simp [apart]), isVersion]
  rfl

/-- Events of one version are the same event. -/
theorem eventVersion_injective (history : ValidHistory host created changes receivedAt)
    {left right : Fields} (isLeft : left ∈ created :: changes) (isRight : right ∈ created :: changes)
    (same : eventVersion left = eventVersion right) : left = right := by
  have first := eventVersion_created history
  rcases List.mem_cons.mp isLeft with rfl | inLeft
  · rcases List.mem_cons.mp isRight with rfl | inRight
    · rfl
    · have above := history.above right inRight
      omega
  · rcases List.mem_cons.mp isRight with rfl | inRight
    · have above := history.above left inLeft
      omega
    · exact List.inj_on_of_nodup_map history.distinct inLeft inRight same

/-- The record stands where the event lets it stand. -/
structure Reflects (host : Host) (created : Fields) (record event : Fields) : Prop where
  valid : ValidRecord host record
  stands : standing record = standingOf host event
  version : versionOf record = some (eventVersion event)
  bindsCandidate : differs ["candidate_id", "business_id", "candidate_checksum"]
    (some (.object record)) (Json.get created "payload") = false

theorem standing_createdRecord (valid : ValidCreated host created receivedAt) :
    standing (createdRecord host created receivedAt) = standingOf host created := by
  obtain ⟨eventId, isEventId⟩ := text_of_uuid (envelope_of_accepted valid.envelope).1
  have keepsEvent : Json.get (createdRecord host created receivedAt) "event_id" =
      some ((Json.get created "event_id").getD .null) := rfl
  rw [isEventId] at keepsEvent
  unfold standing standingOf
  rw [if_pos valid.type, isEventId, List.map_cons, List.map_cons, List.map_cons, List.map_cons,
    keepsEvent]
  rfl

theorem reflects_createdRecord (digests : ∀ text, isSha256Text (host.sha256 text) = true)
    (history : ValidHistory host created changes receivedAt) (identified : hasUuids created = true)
    {time : String} (isTime : isIsoDateTime host (some (.string time)) = true) :
    Reflects host created (createdRecord host created time) created := by
  have valid : ValidCreated host created time :=
    ⟨(envelope_iff_receipt history.isCreated.envelope time).mpr isTime, history.isCreated.type,
      history.isCreated.candidate⟩
  have validRecord := createdRecord_valid digests valid identified
  refine ⟨validRecord, standing_createdRecord valid, ?_, ?_⟩
  · rw [eventVersion_created history]
    simp [versionOf, createdRecord, Json.get, integerOf, Number.integer?]
  · have binds := validRecord.bindsPayload
    have candidate := validCandidate_of_accepted valid.candidate
    obtain ⟨candidateId, isCandidateId⟩ := text_of_nonEmpty candidate.candidateId
    have keepsPayload : Json.get (createdRecord host created time) "payload" =
        some ((Json.get created "payload").getD .null) := rfl
    cases found : Json.get created "payload" with
    | none =>
        rw [found] at isCandidateId
        cases isCandidateId
    | some payload =>
        rw [keepsPayload, found] at binds
        exact binds

/-- A created event changes no record. -/
theorem reduce_created_of_some {record event : Fields} (time : String)
    (type : isText (Json.get event "event_type") createdType = true) :
    (reducePublicationCandidateEventV1 host (some record) (.object event) time).record =
      some record := by
  rcases reduce_cases (some record) (.object event) time with
    ⟨-, same⟩ | ⟨-, fields, after, isObject, isAfter, applied⟩
  · exact same
  · obtain rfl := Json.object.inj isObject
    cases applied with
    | created isNew => cases isNew
    | changed found isFound isChange =>
        rw [type_apart isChange] at type
        cases type

/-- An event changes no invalid record. -/
theorem reduce_of_invalid {record : Fields} (event : Json) (time : String)
    (invalid : validatePublicationCandidateRecordV1 host (.object record) ≠ []) :
    (reducePublicationCandidateEventV1 host (some record) event time).record = some record := by
  unfold reducePublicationCandidateEventV1
  split
  · rfl
  · dsimp only [Option.elim]
    split
    · rfl
    · rfl

/-- A change stands in the changed record. -/
theorem reflects_changedRecord (digests : ∀ text, isSha256Text (host.sha256 text) = true)
    (history : ValidHistory host created changes receivedAt) {record event change : Fields}
    {time : String} (reflects : Reflects host created record event) (member : change ∈ changes)
    (valid : ValidChange host record change time) :
    Reflects host created (changedRecord host record change time) change := by
  have status := validStatus_of_accepted (history.status change member)
  obtain ⟨isVersion, isState⟩ := known_of_status status
  obtain ⟨eventId, isEventId⟩ := text_of_uuid (envelope_of_accepted valid.envelope).1
  refine ⟨changedRecord_valid digests reflects.valid valid, ?_, ?_, ?_⟩
  · obtain ⟨payload, isPayload⟩ : ∃ payload, Json.get change "payload" = some payload := by
      cases found : Json.get change "payload" with
      | none =>
          rw [found] at isState
          cases isState
      | some payload => exact ⟨payload, rfl⟩
    unfold standing standingOf
    rw [if_neg (by simp [type_apart (history.isChange change member)])]
    rw [isPayload] at isState isVersion ⊢
    simp [get_changedRecord, isPayload, isEventId, isState, isVersion]
  · rw [versionOf_changedRecord, ← isVersion]
    exact eventVersion_change history member
  · simpa [differs_eq_false, get_changedRecord] using differs_eq_false.mp reflects.bindsCandidate

/-- One delivery lets the record stand at the newer of its event and the delivered one. -/
theorem reflects_deliver (digests : ∀ text, isSha256Text (host.sha256 text) = true)
    (history : ValidHistory host created changes receivedAt) {record event next : Fields}
    {time : String} (reflects : Reflects host created record event)
    (member : next ∈ created :: changes)
    (isTime : isIsoDateTime host (some (.string time)) = true) :
    ∃ after, deliver host (some record) ⟨.object next, time⟩ = some after ∧
      Reflects host created after (if eventVersion event < eventVersion next then next else event) := by
  unfold deliver
  rcases List.mem_cons.mp member with rfl | isChange
  · refine ⟨record, reduce_created_of_some time history.isCreated.type, ?_⟩
    rw [if_neg]
    · exact reflects
    · have first := eventVersion_created history
      obtain ⟨version, isVersion, positive⟩ := (Option.any_eq_true _ _).mp reflects.valid.version
      have same := Option.some.inj (isVersion.symm.trans reflects.version)
      simp only [decide_eq_true_eq] at positive
      omega
  · have incoming := eventVersion_change history isChange
    have stored := reflects.version
    unfold versionOf at stored
    have binds : differs ["candidate_id", "business_id", "candidate_checksum"]
        (Json.get next "payload") (some (.object record)) = false := by
      have ofRecord := differs_eq_false.mp reflects.bindsCandidate
      have ofChange := differs_eq_false.mp (history.bindsCandidate next isChange)
      rw [differs_eq_false]
      intro name isName
      rw [eq_of_strictEquals (ofRecord name isName)]
      exact ofChange name isName
    have envelope :=
      (envelope_iff_receipt (history.envelope next isChange) time).mpr isTime
    have accepted := history.status next isChange
    unfold reducePublicationCandidateEventV1 reduceStateChangedEvent
    dsimp only [Json.fields?, Option.elim]
    rw [if_neg (not_not.mpr envelope), if_neg (not_not.mpr (validRecord_iff.mpr reflects.valid)),
      if_neg (by simp [type_apart (history.isChange next isChange)]),
      if_pos (history.isChange next isChange),
      if_neg (not_not.mpr (mapContentValidation_eq_nil.mpr accepted)),
      if_neg (by simp [history.leaves next isChange]), if_neg (by simp [binds])]
    by_cases isOlder : eventVersion next < eventVersion event
    · refine ⟨record, ?_, ?_⟩
      · rw [if_pos (by simp [isBelow, incoming, stored, isOlder])]
        rfl
      · rw [if_neg (by omega)]
        exact reflects
    · rw [if_neg (by simp [isBelow, incoming, stored]; omega)]
      by_cases same : eventVersion next = eventVersion event
      · refine ⟨record, ?_, ?_⟩
        · rw [if_pos (by simp [isSame, incoming, stored, same])]
          split <;> rfl
        · rw [if_neg (by omega)]
          exact reflects
      · refine ⟨changedRecord host record next time, ?_, ?_⟩
        · rw [if_neg (by simp [isSame, incoming, stored, same])]
          rfl
        · rw [if_pos (by omega)]
          exact reflects_changedRecord digests history reflects isChange ⟨envelope, accepted, binds⟩

/-- The event of a delivery. -/
def Delivery.fields (delivery : Delivery) : Fields := (delivery.event.fields?).getD []

theorem fields_of_object {delivery : Delivery} {event : Fields}
    (isObject : delivery.event = .object event) : delivery.fields = event := by
  unfold Delivery.fields
  rw [isObject]
  rfl

theorem deliverAll_concat (before : Option Fields) (deliveries : List Delivery)
    (delivery : Delivery) :
    deliverAll host before (deliveries ++ [delivery]) =
      deliver host (deliverAll host before deliveries) delivery := by
  unfold deliverAll
  rw [List.foldl_append]
  rfl

/-- The reducer is simulated by the `argmax` of the delivered versions. -/
theorem reflects_argmax (digests : ∀ text, isSha256Text (host.sha256 text) = true)
    (history : ValidHistory host created changes receivedAt) (identified : hasUuids created = true)
    (deliveries : List Delivery) :
    deliveries ≠ [] →
    deliveries.head?.map (·.event) = some (.object created) →
    (∀ delivery ∈ deliveries, ∃ event ∈ created :: changes, delivery.event = .object event) →
    (∀ delivery ∈ deliveries, isIsoDateTime host (some (.string delivery.receivedAt)) = true) →
    ∃ newest record, deliveries.argmax (fun delivery => eventVersion delivery.fields) = some newest ∧
      deliverAll host none deliveries = some record ∧
      Reflects host created record newest.fields := by
  induction deliveries using List.reverseRecOn with
  | nil =>
      intro notEmpty
      exact absurd rfl notEmpty
  | append_singleton earlier last inductionHypothesis =>
      intro _ first only times
      have isTime := times last (by simp)
      obtain ⟨event, member, isObject⟩ := only last (by simp)
      rw [deliverAll_concat, List.argmax_concat]
      by_cases empty : earlier = []
      · subst empty
        have isCreated : last.event = .object created := by simpa using first
        obtain rfl := Json.object.inj (isObject.symm.trans isCreated)
        refine ⟨last, createdRecord host event last.receivedAt, rfl, ?_, ?_⟩
        · have valid : ValidCreated host event last.receivedAt :=
            ⟨(envelope_iff_receipt history.isCreated.envelope _).mpr isTime,
              history.isCreated.type, history.isCreated.candidate⟩
          show (reducePublicationCandidateEventV1 host none last.event last.receivedAt).record = _
          rw [isObject, reduce_created valid]
          rfl
        · rw [fields_of_object isObject]
          exact reflects_createdRecord digests history identified isTime
      · obtain ⟨newest, record, isNewest, isRecord, reflects⟩ := inductionHypothesis empty
          (by rwa [List.head?_append_of_ne_nil _ empty] at first)
          (fun delivery inEarlier => only delivery (List.mem_append_left _ inEarlier))
          (fun delivery inEarlier => times delivery (List.mem_append_left _ inEarlier))
        obtain ⟨after, isAfter, standsAfter⟩ :=
          reflects_deliver digests history reflects member isTime
        have isLast : last = ⟨.object event, last.receivedAt⟩ := by
          rw [← isObject]
        rw [isNewest, isRecord, fields_of_object isObject]
        dsimp only
        by_cases newer : eventVersion newest.fields < eventVersion event
        · rw [if_pos newer] at standsAfter ⊢
          refine ⟨last, after, rfl, by rw [isLast]; exact isAfter, ?_⟩
          rwa [fields_of_object isObject]
        · rw [if_neg newer] at standsAfter ⊢
          exact ⟨newest, after, rfl, by rw [isLast]; exact isAfter, standsAfter⟩

/-- After a whole delivery order the record stands at the event of the greatest version. -/
theorem stands_at_greatest (digests : ∀ text, isSha256Text (host.sha256 text) = true)
    (history : ValidHistory host created changes receivedAt) (identified : hasUuids created = true)
    {deliveries : List Delivery} (order : DeliveryOrder host created changes deliveries) :
    ∃ newest ∈ created :: changes,
      (∀ event ∈ created :: changes, eventVersion event ≤ eventVersion newest) ∧
      ∃ record, deliverAll host none deliveries = some record ∧
        standing record = standingOf host newest := by
  have notEmpty : deliveries ≠ [] := by
    intro empty
    have first := order.first
    rw [empty] at first
    cases first
  obtain ⟨newest, record, isNewest, isRecord, reflects⟩ :=
    reflects_argmax digests history identified deliveries notEmpty order.first order.only
      order.times
  have member := List.argmax_mem isNewest
  obtain ⟨event, isEvent, isObject⟩ := order.only newest member
  rw [fields_of_object isObject] at reflects
  refine ⟨event, isEvent, ?_, record, isRecord, reflects.stands⟩
  have greatest : ∀ delivery ∈ deliveries, eventVersion delivery.fields ≤ eventVersion event := by
    intro delivery inOrder
    have atMost := List.le_of_mem_argmax (f := fun delivery : Delivery =>
      eventVersion delivery.fields) inOrder isNewest
    rwa [fields_of_object isObject] at atMost
  intro other isOther
  rcases List.mem_cons.mp isOther with rfl | isChange
  · obtain ⟨first, rest, rfl⟩ := List.exists_cons_of_ne_nil notEmpty
    have isFirst : first.event = .object other := by simpa using order.first
    have atMost := greatest first List.mem_cons_self
    rwa [fields_of_object isFirst] at atMost
  · obtain ⟨delivery, inOrder, isDelivered⟩ := order.all other isChange
    have atMost := greatest delivery inOrder
    rwa [fields_of_object isDelivered] at atMost

/-- Deliveries change no invalid record. -/
theorem deliverAll_of_invalid {record : Fields} (deliveries : List Delivery)
    (invalid : validatePublicationCandidateRecordV1 host (.object record) ≠ []) :
    deliverAll host (some record) deliveries = some record := by
  induction deliveries with
  | nil => rfl
  | cons delivery rest inductionHypothesis =>
      have same : deliver host (some record) delivery = some record :=
        reduce_of_invalid delivery.event delivery.receivedAt invalid
      unfold deliverAll
      rw [List.foldl_cons, same]
      exact inductionHypothesis

/-- Created events change no record. -/
theorem deliverAll_of_created {record : Fields} (deliveries : List Delivery)
    (type : isText (Json.get created "event_type") createdType = true)
    (only : ∀ delivery ∈ deliveries, delivery.event = .object created) :
    deliverAll host (some record) deliveries = some record := by
  induction deliveries with
  | nil => rfl
  | cons delivery rest inductionHypothesis =>
      have same : deliver host (some record) delivery = some record := by
        unfold deliver
        rw [only delivery List.mem_cons_self]
        exact reduce_created_of_some delivery.receivedAt type
      unfold deliverAll
      rw [List.foldl_cons, same]
      exact inductionHypothesis fun later member => only later (List.mem_cons_of_mem _ member)

/-- A history without changes stands where its created event lets it stand. -/
theorem stands_at_created (history : ValidHistory host created [] receivedAt)
    {deliveries : List Delivery} (order : DeliveryOrder host created [] deliveries) :
    ∃ record, deliverAll host none deliveries = some record ∧
      standing record = standingOf host created := by
  have only : ∀ delivery ∈ deliveries, delivery.event = .object created := by
    intro delivery member
    obtain ⟨event, isEvent, isObject⟩ := order.only delivery member
    rwa [List.mem_singleton.mp isEvent] at isObject
  cases deliveries with
  | nil =>
      have first := order.first
      cases first
  | cons delivery rest =>
      have isObject := only delivery List.mem_cons_self
      have valid : ValidCreated host created delivery.receivedAt :=
        ⟨(envelope_iff_receipt history.isCreated.envelope _).mpr
          (order.times delivery List.mem_cons_self), history.isCreated.type,
          history.isCreated.candidate⟩
      have stored : deliver host none delivery =
          some (createdRecord host created delivery.receivedAt) := by
        unfold deliver
        rw [isObject, reduce_created valid]
        rfl
      refine ⟨createdRecord host created delivery.receivedAt, ?_, standing_createdRecord valid⟩
      unfold deliverAll
      rw [List.foldl_cons, stored]
      exact deliverAll_of_created rest history.isCreated.type fun later member =>
        only later (List.mem_cons_of_mem _ member)

/-- The created event and then every change, all received at one time. -/
def inTurn (created : Fields) (changes : List Fields) (receivedAt : String) : List Delivery :=
  ⟨.object created, receivedAt⟩ :: changes.map fun change => ⟨.object change, receivedAt⟩

theorem deliveryOrder_inTurn (history : ValidHistory host created changes receivedAt) :
    DeliveryOrder host created changes (inTurn created changes receivedAt) := by
  have isTime := (envelope_of_accepted history.isCreated.envelope).2
  refine ⟨rfl, ?_, ?_, ?_⟩
  · intro delivery member
    rcases List.mem_cons.mp member with rfl | inChanges
    · exact ⟨created, List.mem_cons_self, rfl⟩
    · obtain ⟨change, isChange, rfl⟩ := List.mem_map.mp inChanges
      exact ⟨change, List.mem_cons_of_mem _ isChange, rfl⟩
  · intro change isChange
    exact ⟨_, List.mem_cons_of_mem _ (List.mem_map.mpr ⟨change, isChange, rfl⟩), rfl⟩
  · intro delivery member
    rcases List.mem_cons.mp member with rfl | inChanges
    · exact isTime
    · obtain ⟨change, -, rfl⟩ := List.mem_map.mp inChanges
      exact isTime

/-- A candidate without UUIDs stays where its created event lets it stand. -/
theorem not_converges (history : ValidHistory host created changes receivedAt)
    (someChange : changes ≠ []) (notUuids : hasUuids created ≠ true) :
    ¬ Converges host created changes := by
  intro converges
  have order := deliveryOrder_inTurn history
  obtain ⟨newest, member, greatest, record, -, isRecord, -, stands, -⟩ :=
    converges _ _ order order
  have invalid : validatePublicationCandidateRecordV1 host
      (.object (createdRecord host created receivedAt)) ≠ [] := by
    intro valid
    exact notUuids (hasUuids_of_validRecord history.isCreated.candidate (validRecord_iff.mp valid))
  have stays : deliverAll host none (inTurn created changes receivedAt) =
      some (createdRecord host created receivedAt) := by
    have stored : deliver host none ⟨.object created, receivedAt⟩ =
        some (createdRecord host created receivedAt) := by
      unfold deliver
      rw [reduce_created history.isCreated]
      rfl
    unfold deliverAll inTurn
    rw [List.foldl_cons, stored]
    exact deliverAll_of_invalid _ invalid
  obtain rfl := Option.some.inj (stays.symm.trans isRecord)
  obtain ⟨change, rest, rfl⟩ := List.exists_cons_of_ne_nil someChange
  have above := history.above change List.mem_cons_self
  have atMost := greatest change (List.mem_cons_of_mem _ List.mem_cons_self)
  rcases List.mem_cons.mp member with rfl | isChange
  · have first := eventVersion_created history
    omega
  · have version := eventVersion_change history isChange
    rw [standing_createdRecord history.isCreated] at stands
    unfold standingOf at stands
    rw [if_pos history.isCreated.type,
      if_neg (by simp [type_apart (history.isChange newest isChange)])] at stands
    have same : some (Json.number (.integer 1)) =
        property (Json.get newest "payload") "state_version" := by
      simp only [List.cons.injEq] at stands
      exact stands.2.1
    rw [← same] at version
    have isOne : (1 : Int) = eventVersion newest := Option.some.inj version
    omega

end Simulation

/-! ### The two example candidates -/

theorem named_history : ∃ created change,
    namedCreated.event = .object created ∧ namedRevoked.event = .object change ∧
      hasUuids created = false ∧
      ValidHistory exampleHost created [change] namedRevoked.receivedAt := by
  obtain ⟨created, isCreated, notUuids, valid⟩ := namedCreated_valid
  refine ⟨created, _, isCreated, rfl, notUuids, ?_⟩
  obtain rfl := Json.object.inj isCreated
  constructor
  case isCreated => exact ⟨by decide +kernel, valid.type, valid.candidate⟩
  case distinct => exact List.nodup_singleton _
  all_goals
    intro change member
    rw [List.mem_singleton.mp member]
    decide +kernel

theorem uuid_history : ∃ created change,
    uuidCreated.event = .object created ∧ uuidRevoked.event = .object change ∧
      hasUuids created = true ∧
      ValidHistory exampleHost created [change] uuidRevoked.receivedAt := by
  refine ⟨_, _, rfl, rfl, by decide +kernel, ?_⟩
  constructor
  case isCreated => exact ⟨by decide +kernel, by decide +kernel, by decide +kernel⟩
  case distinct => exact List.nodup_singleton _
  all_goals
    intro change member
    rw [List.mem_singleton.mp member]
    decide +kernel

end MarketMind.Publishing.Intake
