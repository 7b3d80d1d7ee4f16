import NotifyHub.Isolation.Stores.Operations

/-! # What deliveries leave and need: dead letters, webhook endpoints -/

namespace NotifyHub.Isolation.Stores

open Rows
open Observer (Isolated)

section TwoStates

variable {tenantID : UUID} {s s₁ s₂ : Storage} {exec : Storage → Outcome × Storage}

/-! ## Dead letters -/

section DeadLetters

variable (agree : view tenantID s₁ = view tenantID s₂)

include agree

theorem deadLetters_agree :
    s₁.deadLetters.rows.filter (owns tenantID .deadLetters) =
      s₂.deadLetters.rows.filter (owns tenantID .deadLetters) :=
  rows_agree agree .deadLetters

omit agree in
theorem own_of_deadLetterAt {id : UUID} (m : DeadLetterRow)
    (hit : deadLetterAt id tenantID m = true) : owns tenantID .deadLetters m = true :=
  ((Bool.and_eq_true _ _).mp hit).2

omit agree in
theorem own_of_listedDeadLetter {channel : String} {unreplayedOnly : Bool} (m : DeadLetterRow)
    (hit : listedDeadLetter tenantID channel unreplayedOnly m = true) :
    owns tenantID .deadLetters m = true := by
  simp only [listedDeadLetter, Bool.and_eq_true] at hit
  exact hit.1.1

omit agree in
theorem own_of_openDeadLetter (m : DeadLetterRow) (hit : openDeadLetter tenantID m = true) :
    owns tenantID .deadLetters m = true :=
  ((Bool.and_eq_true _ _).mp hit).1

theorem getDeadLetter_isolated (conn : Conn) (id : UUID) :
    Isolated (view tenantID) (rest tenantID) ((Op.getDeadLetter conn id).exec tenantID) s₁ s₂ := by
  have found : getDeadLetterByID s₁.deadLetters.rows id tenantID =
      getDeadLetterByID s₂.deadLetters.rows id tenantID := by
    unfold getDeadLetterByID
    rw [find?_congr (deadLetters_agree agree) own_of_deadLetterAt]
  apply read_isolated agree _ rfl rfl
  simp only [Op.exec, DeadLetterRepository.getByID, found]

theorem listDeadLetters_isolated (conn : Conn) (params : DeadLetterListParams) :
    Isolated (view tenantID) (rest tenantID) ((Op.listDeadLetters conn params).exec tenantID)
      s₁ s₂ := by
  have listed : ∀ channel unreplayedOnly limit offset,
      NotifyHub.listDeadLetters s₁.deadLetters.rows tenantID channel unreplayedOnly limit offset =
        NotifyHub.listDeadLetters s₂.deadLetters.rows tenantID channel unreplayedOnly limit
          offset := by
    intro channel unreplayedOnly limit offset
    unfold NotifyHub.listDeadLetters
    rw [filter_congr (deadLetters_agree agree) own_of_listedDeadLetter]
  apply read_isolated agree _ rfl rfl
  simp only [Op.exec, DeadLetterRepository.list, listed]

theorem countDeadLetters_isolated (conn : Conn) :
    Isolated (view tenantID) (rest tenantID) ((Op.countDeadLetters conn).exec tenantID) s₁ s₂ := by
  have counted : countDeadLettersByChannel s₁.deadLetters.rows tenantID =
      countDeadLettersByChannel s₂.deadLetters.rows tenantID := by
    unfold countDeadLettersByChannel
    rw [filter_congr (deadLetters_agree agree) own_of_openDeadLetter]
  apply read_isolated agree _ rfl rfl
  simp only [Op.exec, DeadLetterRepository.countByChannel, counted]

theorem markReplayed_isolated (conn : Conn) (id : UUID) (now : Time) :
    Isolated (view tenantID) (rest tenantID) ((Op.markReplayed conn id now).exec tenantID)
      s₁ s₂ := by
  cases conn with
  | down => exact read_isolated agree rfl rfl rfl
  | up =>
      have acts : ∀ s, Acts tenantID ((Op.markReplayed .up id now).exec tenantID) .deadLetters
          (fun r => (.done (.ok ()),
            updateWhere (deadLetterAt id tenantID) (stampReplayed s₁.core now).set r)) s :=
        fun s => Acts.of_replaced (.deadLetters s _) rfl rfl
      have keeps : ∀ m, owns tenantID .deadLetters ((stampReplayed s₁.core now).set m) =
          owns tenantID .deadLetters m := fun _ => rfl
      exact Acts.isolated (Private.update own_of_deadLetterAt keeps _) (acts s₁) (acts s₂) agree

theorem deleteDeadLetter_isolated (conn : Conn) (id : UUID) :
    Isolated (view tenantID) (rest tenantID) ((Op.deleteDeadLetter conn id).exec tenantID)
      s₁ s₂ := by
  cases conn with
  | down => exact read_isolated agree rfl rfl rfl
  | up =>
      have acts : ∀ s, Acts tenantID ((Op.deleteDeadLetter .up id).exec tenantID) .deadLetters
          (fun r => (.done (.ok ()), r.filter (!deadLetterAt id tenantID ·))) s :=
        fun s => Acts.of_replaced (.deadLetters s _) rfl rfl
      exact Acts.isolated (Private.remove own_of_deadLetterAt _) (acts s₁) (acts s₂) agree

/-- The answer of Create to the answer of its statement. -/
def buried : Except SqlError DeadLetterRow → Outcome
  | .error e => .deadLetter (.error (.wrap "create dead letter" e.err))
  | .ok row => .deadLetter (.ok (fromDBDeadLetter row))

omit agree in
theorem createDeadLetter_acts {msg : DeadLetterMessage} {payload : String} {id : UUID} {now : Time}
    (storable : Json.jsonbText msg.payload = some payload)
    (fresh : id ∉ s.deadLetters.rows.map (·.id)) :
    Acts tenantID ((Op.createDeadLetter .up msg id now).exec tenantID) .deadLetters
      (fun r =>
        (buried (insertRows
            (deadLetterRow { msg with tenantID := tenantID, payload := payload } id now)
            (decide (tenantID ∈ s.core.tenants)) r).1,
          (insertRows (deadLetterRow { msg with tenantID := tenantID, payload := payload } id now)
            (decide (tenantID ∈ s.core.tenants)) r).2)) s := by
  let row := deadLetterRow { msg with tenantID := tenantID, payload := payload } id now
  have decides : s.deadLetters.Accepts row ↔ tenantID ∈ s.core.tenants :=
    ⟨fun accepted => accepted.2.2, fun registered => ⟨fresh, by simp [noKey], registered⟩⟩
  have leaves : Leaves (insertRow s.deadLetters row) s.deadLetters.rows
      (insertRows row (decide (tenantID ∈ s.core.tenants)) s.deadLetters.rows) := by
    simp only [← decides]
    exact insertRow_leaves
  have executed : (Op.createDeadLetter .up msg id now).exec tenantID s =
      responded buried s
        (NotifyHub.createDeadLetter s { msg with tenantID := tenantID } id now) := by
    simp only [Op.exec, DeadLetterRepository.create, Conn.exec]
    cases NotifyHub.createDeadLetter s { msg with tenantID := tenantID } id now <;> rfl
  have stored : Stored .deadLetters s
      (insertRows row (decide (tenantID ∈ s.core.tenants)) s.deadLetters.rows)
      (NotifyHub.createDeadLetter s { msg with tenantID := tenantID } id now) := by
    simp only [NotifyHub.createDeadLetter, storable]
    cases result : insertRow s.deadLetters row with
    | error e => exact (result ▸ leaves :)
    | ok row => exact ⟨.deadLetters s _, (result ▸ leaves :)⟩
  exact Acts.of_stored executed stored

theorem createDeadLetter_isolated {conn : Conn} {msg : DeadLetterMessage} {id : UUID} {now : Time}
    (fresh₁ : id ∉ s₁.deadLetters.rows.map (·.id)) (fresh₂ : id ∉ s₂.deadLetters.rows.map (·.id)) :
    Isolated (view tenantID) (rest tenantID) ((Op.createDeadLetter conn msg id now).exec tenantID)
      s₁ s₂ := by
  cases conn with
  | down => exact read_isolated agree rfl rfl rfl
  | up =>
      cases storable : Json.jsonbText msg.payload with
      | none =>
          -- Postgres refuses the payload, whatever is stored
          have refused : ∀ s, (Op.createDeadLetter .up msg id now).exec tenantID s =
              (buried (.error (.rejected "invalid input syntax for type json")), s) := by
            intro s
            simp only [Op.exec, DeadLetterRepository.create, Conn.exec, NotifyHub.createDeadLetter,
              storable]
            rfl
          exact read_isolated agree (by rw [refused, refused]) (by rw [refused]) (by rw [refused])
      | some payload =>
          have own : owns tenantID .deadLetters
              (deadLetterRow { msg with tenantID := tenantID, payload := payload } id now) = true := by
            simp [owns, deadLetterRow]
          have acts₁ : Acts tenantID ((Op.createDeadLetter .up msg id now).exec tenantID)
              .deadLetters _ s₁ := createDeadLetter_acts storable fresh₁
          have acts₂ : Acts tenantID ((Op.createDeadLetter .up msg id now).exec tenantID)
              .deadLetters _ s₂ := createDeadLetter_acts storable fresh₂
          rw [← registered_agree agree] at acts₂
          exact Acts.isolated ((insertRows_private own).map buried) acts₁ acts₂ agree

end DeadLetters

/-! ## Webhook endpoints

A write to the endpoints must also leave every delivery with the owner it has. -/

section Endpoints

theorem ownsDelivery_append {endpoints : List WebhookEndpointRow} {row : WebhookEndpointRow}
    {d : WebhookDeliveryRow} (stored : d.endpointID ∈ endpoints.map (·.id))
    (fresh : row.id ∉ endpoints.map (·.id)) :
    ownsDelivery tenantID (endpoints ++ [row]) d = ownsDelivery tenantID endpoints d := by
  have other : (row.id == d.endpointID) = false := by
    apply beq_false_of_ne
    intro same
    exact fresh (same ▸ stored)
  simp [ownsDelivery, other]

theorem ownsDelivery_updateWhere {endpoints : List WebhookEndpointRow} {d : WebhookDeliveryRow}
    {cond : WebhookEndpointRow → Bool} {set : WebhookEndpointRow → WebhookEndpointRow}
    (keeps : ∀ e, (set e).id = e.id ∧ (set e).tenantID = e.tenantID) :
    ownsDelivery tenantID (updateWhere cond set endpoints) d =
      ownsDelivery tenantID endpoints d := by
  unfold ownsDelivery updateWhere
  rw [List.any_map]
  congr 1
  funext e
  cases hit : cond e with
  | false => simp [hit]
  | true => simp [hit, keeps]

theorem Acts.of_owners {op : List WebhookEndpointRow → Outcome × List WebhookEndpointRow}
    (answer : (exec s).1 = (op s.endpoints.rows).1)
    (here : (exec s).2.endpoints.rows = (op s.endpoints.rows).2)
    (elsewhere : ∀ u, u ≠ .endpoints → rows (exec s).2 u = rows s u)
    (core : (exec s).2.core = s.core) (deliveries : (exec s).2.deliveries.rows = s.deliveries.rows)
    (owners : ∀ d ∈ s.deliveries.rows, ownsDelivery tenantID (exec s).2.endpoints.rows d =
      ownsDelivery tenantID s.endpoints.rows d) :
    Acts tenantID exec .endpoints op s := by
  refine ⟨answer, here, elsewhere, core, ?_, ?_⟩
  · simp only [view, deliveries]
    exact List.filter_congr owners
  · simp only [Stores.rest, deliveries]
    apply List.filter_congr
    intro d stored
    rw [owners d stored]

/-- The answer of CreateEndpoint to the answer of its statement. -/
def created : Except SqlError WebhookEndpointRow → Outcome
  | .error _ => .endpoint (.error (newInternalError "insert webhook endpoint"))
  | .ok row => .endpoint (.ok (dbWebhookEndpointToDomain row))

theorem createEndpoint_acts {ep : WebhookEndpoint} {id : UUID} {now : Time}
    (fresh : id ∉ s.endpoints.rows.map (·.id)) :
    Acts tenantID ((Op.createEndpoint .up ep id now).exec tenantID) .endpoints
      (fun r =>
        (created (insertRows (webhookEndpointRow { ep with tenantID := tenantID } id now)
            (decide (tenantID ∈ s.core.tenants)) r).1,
          (insertRows (webhookEndpointRow { ep with tenantID := tenantID } id now)
            (decide (tenantID ∈ s.core.tenants)) r).2)) s := by
  have decides : s.endpoints.Accepts (webhookEndpointRow { ep with tenantID := tenantID } id now) ↔
      tenantID ∈ s.core.tenants :=
    ⟨fun accepted => accepted.2.2, fun registered => ⟨fresh, by simp [noKey], registered⟩⟩
  by_cases known : tenantID ∈ s.core.tenants
  · have accepted := decides.mpr known
    have done : (Op.createEndpoint .up ep id now).exec tenantID s =
        responded created s (insertWebhookEndpoint s { ep with tenantID := tenantID } id now) := by
      simp only [Op.exec, WebhookRepository.createEndpoint, Conn.exec]
      cases insertWebhookEndpoint s { ep with tenantID := tenantID } id now <;> rfl
    simp only [insertWebhookEndpoint, accepted, dite_true, responded] at done
    apply Acts.of_owners
    · rw [done]
      simp [insertRows, known]
    · rw [done]
      simp [insertRows, known, Table.insert]
    · intro u other
      rw [done]
      cases u <;> first | rfl | exact absurd rfl other
    · rw [done]
    · rw [done]
      rfl
    · intro d stored
      rw [done]
      exact ownsDelivery_append (s.deliveries.valid d stored).1 fresh
  · have refused : ¬s.endpoints.Accepts
        (webhookEndpointRow { ep with tenantID := tenantID } id now) := mt decides.mp known
    have done : (Op.createEndpoint .up ep id now).exec tenantID s =
        (.endpoint (.error (newInternalError "insert webhook endpoint")), s) := by
      simp [Op.exec, WebhookRepository.createEndpoint, Conn.exec, insertWebhookEndpoint, refused,
        written]
    apply Acts.of_replaced
    · rw [done]
      exact .same .endpoints s
    · rw [done]
      simp [insertRows, known, created]
    · rw [done]
      simp [insertRows, known]

/-- UpdateEndpoint, on the row it finds. -/
def rewriteRows (tenantID : UUID) (ep : WebhookEndpoint) (set : WebhookEndpointRow →
    WebhookEndpointRow) : Option WebhookEndpointRow → List WebhookEndpointRow →
      Outcome × List WebhookEndpointRow
  | none, r => (.endpoint (.error (newNotFoundError "webhook endpoint not found")), r)
  | some row, r =>
      (.endpoint (.ok (dbWebhookEndpointToDomain (set row))),
        updateWhere (endpointAt ep.id tenantID) set r)

theorem updateWebhookEndpoint_found (ep : WebhookEndpoint) (now : Time) {row : WebhookEndpointRow}
    (found : s.endpoints.rows.find? (endpointAt ep.id ep.tenantID) = some row) :
    ∃ s', updateWebhookEndpoint s ep now = .ok ((rewriteEndpoint s.core ep now).set row, s') ∧
      s'.endpoints.rows = updateWhere (endpointAt ep.id ep.tenantID)
        (rewriteEndpoint s.core ep now).set s.endpoints.rows ∧
      (∀ u, u ≠ .endpoints → rows s' u = rows s u) ∧ s'.core = s.core ∧
      s'.deliveries.rows = s.deliveries.rows := by
  unfold updateWebhookEndpoint
  split
  · rename_i missing
    rw [missing] at found
    cases found
  · rename_i other hit
    obtain rfl : other = row := Option.some.inj (hit.symm.trans found)
    refine ⟨_, rfl, rfl, ?_, rfl, rfl⟩
    intro u other
    cases u <;> first | rfl | exact absurd rfl other

theorem updateEndpoint_acts (db : Database) (ep : WebhookEndpoint) (now : Time) :
    Acts tenantID ((Op.updateEndpoint .up ep now).exec tenantID) .endpoints
      (fun r => rewriteRows tenantID ep (rewriteEndpoint db ep now).set
        (r.find? (endpointAt ep.id tenantID)) r) s := by
  cases found : s.endpoints.rows.find? (endpointAt ep.id tenantID) with
  | none =>
      have done : (Op.updateEndpoint .up ep now).exec tenantID s =
          (.endpoint (.error (newNotFoundError "webhook endpoint not found")), s) := by
        simp only [Op.exec, WebhookRepository.updateEndpoint, Conn.exec, updateWebhookEndpoint,
          found, written]
      apply Acts.of_replaced
      · rw [done]
        exact .same .endpoints s
      · rw [done]
        simp only [rows, found, rewriteRows]
      · rw [done]
        simp only [rows, found, rewriteRows]
  | some row =>
      obtain ⟨s', updated, left, elsewhere, core, deliveries⟩ :=
        updateWebhookEndpoint_found { ep with tenantID := tenantID } now found
      have done : (Op.updateEndpoint .up ep now).exec tenantID s =
          (.endpoint (.ok (dbWebhookEndpointToDomain ((rewriteEndpoint db ep now).set row))),
            s') := by
        simp only [Op.exec, WebhookRepository.updateEndpoint, Conn.exec, updated, written]
        rfl
      apply Acts.of_owners
      · simp only [done, found, rewriteRows]
      · rw [done, left, found]
        rfl
      · rw [done]
        exact elsewhere
      · rw [done]
        exact core
      · rw [done]
        exact deliveries
      · intro d _
        rw [done, left]
        exact ownsDelivery_updateWhere fun _ => ⟨rfl, rfl⟩

theorem own_of_endpointAt {id : UUID} (e : WebhookEndpointRow)
    (hit : endpointAt id tenantID e = true) : owns tenantID .endpoints e = true :=
  ((Bool.and_eq_true _ _).mp hit).2

theorem own_of_activeForEvent {event : String} (e : WebhookEndpointRow)
    (hit : activeForEvent tenantID event e = true) : owns tenantID .endpoints e = true := by
  simp only [activeForEvent, Bool.and_eq_true] at hit
  exact hit.1.1

/-- Who goes with an endpoint was the tenant's. -/
theorem ownsDelivery_of_cascades {id : UUID} {endpoints : List WebhookEndpointRow}
    {d : WebhookDeliveryRow} (goes : cascades id tenantID endpoints d = true) :
    ownsDelivery tenantID endpoints d = true := by
  simp only [cascades, endpointAt, Bool.and_eq_true, beq_iff_eq, List.any_eq_true] at goes
  obtain ⟨named, e, member, sameID, owner⟩ := goes
  simp only [ownsDelivery, Bool.and_eq_true, beq_iff_eq, List.any_eq_true]
  exact ⟨e, member, owner, sameID.trans named.symm⟩

/-- Who stays keeps its owner. -/
theorem ownsDelivery_of_stays {id : UUID} {endpoints : List WebhookEndpointRow}
    {d : WebhookDeliveryRow} (stays : cascades id tenantID endpoints d = false) :
    ownsDelivery tenantID (endpoints.filter (!endpointAt id tenantID ·)) d =
      ownsDelivery tenantID endpoints d := by
  apply Bool.eq_iff_iff.mpr
  simp only [ownsDelivery, Bool.and_eq_true, beq_iff_eq, List.any_eq_true, List.mem_filter]
  constructor
  · rintro ⟨e, member, own⟩
    exact ⟨e, member.1, own⟩
  · rintro ⟨e, member, owner, sameID⟩
    refine ⟨e, ⟨member, ?_⟩, owner, sameID⟩
    cases hit : endpointAt id tenantID e with
    | false => rfl
    | true =>
        have named : e.id = id := by
          simp only [endpointAt, Bool.and_eq_true, beq_iff_eq] at hit
          exact hit.1
        have found : endpoints.any (endpointAt id tenantID) = true :=
          List.any_eq_true.mpr ⟨e, member, hit⟩
        simp [cascades, found, ← sameID, named] at stays

theorem deleted_deliveries {id : UUID} {endpoints : List WebhookEndpointRow}
    (deliveries : List WebhookDeliveryRow) :
    (deliveries.filter (!cascades id tenantID endpoints ·)).filter
        (ownsDelivery tenantID (endpoints.filter (!endpointAt id tenantID ·))) =
      (deliveries.filter (ownsDelivery tenantID endpoints)).filter
        (!cascades id tenantID endpoints ·) := by
  simp only [List.filter_filter]
  apply List.filter_congr
  intro d _
  cases goes : cascades id tenantID endpoints d with
  | false => simp [ownsDelivery_of_stays goes]
  | true => simp

theorem deleted_otherDeliveries {id : UUID} {endpoints : List WebhookEndpointRow}
    (deliveries : List WebhookDeliveryRow) :
    (deliveries.filter (!cascades id tenantID endpoints ·)).filter
        (!ownsDelivery tenantID (endpoints.filter (!endpointAt id tenantID ·)) ·) =
      deliveries.filter (!ownsDelivery tenantID endpoints ·) := by
  simp only [List.filter_filter]
  apply List.filter_congr
  intro d _
  cases goes : cascades id tenantID endpoints d with
  | false => simp [ownsDelivery_of_stays goes]
  | true => simp [ownsDelivery_of_cascades goes]

theorem cascades_congr {id : UUID} {endpoints₁ endpoints₂ : List WebhookEndpointRow}
    (same : endpoints₁.filter (owns tenantID .endpoints) =
      endpoints₂.filter (owns tenantID .endpoints)) :
    cascades id tenantID endpoints₁ = cascades id tenantID endpoints₂ := by
  have found : endpoints₁.find? (endpointAt id tenantID) =
      endpoints₂.find? (endpointAt id tenantID) := find?_congr same own_of_endpointAt
  have present : endpoints₁.any (endpointAt id tenantID) =
      endpoints₂.any (endpointAt id tenantID) := by
    rw [Bool.eq_iff_iff, List.any_eq_true, List.any_eq_true, ← List.find?_isSome,
      ← List.find?_isSome, found]
  funext d
  simp only [cascades, present]

variable (agree : view tenantID s₁ = view tenantID s₂)

include agree

theorem endpoints_agree :
    s₁.endpoints.rows.filter (owns tenantID .endpoints) =
      s₂.endpoints.rows.filter (owns tenantID .endpoints) :=
  rows_agree agree .endpoints

theorem getEndpoint_isolated (conn : Conn) (id : UUID) :
    Isolated (view tenantID) (rest tenantID) ((Op.getEndpoint conn id).exec tenantID) s₁ s₂ := by
  have found : getWebhookEndpoint s₁.endpoints.rows id tenantID =
      getWebhookEndpoint s₂.endpoints.rows id tenantID := by
    unfold getWebhookEndpoint
    rw [find?_congr (endpoints_agree agree) own_of_endpointAt]
  apply read_isolated agree _ rfl rfl
  simp only [Op.exec, WebhookRepository.getEndpoint, found]

theorem listEndpoints_isolated (conn : Conn) :
    Isolated (view tenantID) (rest tenantID) ((Op.listEndpoints conn).exec tenantID) s₁ s₂ := by
  have listed : listWebhookEndpoints s₁.endpoints.rows tenantID =
      listWebhookEndpoints s₂.endpoints.rows tenantID := by
    have own : s₁.endpoints.rows.filter (·.tenantID == tenantID) =
        s₂.endpoints.rows.filter (·.tenantID == tenantID) := endpoints_agree agree
    unfold listWebhookEndpoints
    rw [own]
  apply read_isolated agree _ rfl rfl
  simp only [Op.exec, WebhookRepository.listEndpoints, listed]

theorem listEndpointsForEvent_isolated (conn : Conn) (event : String) :
    Isolated (view tenantID) (rest tenantID)
      ((Op.listEndpointsForEvent conn event).exec tenantID) s₁ s₂ := by
  have listed : listActiveWebhookEndpointsForEvent s₁.endpoints.rows tenantID event =
      listActiveWebhookEndpointsForEvent s₂.endpoints.rows tenantID event := by
    unfold listActiveWebhookEndpointsForEvent
    rw [filter_congr (endpoints_agree agree) own_of_activeForEvent]
  apply read_isolated agree _ rfl rfl
  simp only [Op.exec, WebhookRepository.listActiveForEvent, listed]

theorem createEndpoint_isolated {conn : Conn} {ep : WebhookEndpoint} {id : UUID} {now : Time}
    (fresh₁ : id ∉ s₁.endpoints.rows.map (·.id)) (fresh₂ : id ∉ s₂.endpoints.rows.map (·.id)) :
    Isolated (view tenantID) (rest tenantID) ((Op.createEndpoint conn ep id now).exec tenantID)
      s₁ s₂ := by
  cases conn with
  | down => exact read_isolated agree rfl rfl rfl
  | up =>
      have own : owns tenantID .endpoints
          (webhookEndpointRow { ep with tenantID := tenantID } id now) = true := by
        simp [owns, webhookEndpointRow]
      have acts₁ : Acts tenantID ((Op.createEndpoint .up ep id now).exec tenantID)
          .endpoints _ s₁ := createEndpoint_acts fresh₁
      have acts₂ : Acts tenantID ((Op.createEndpoint .up ep id now).exec tenantID)
          .endpoints _ s₂ := createEndpoint_acts fresh₂
      rw [← registered_agree agree] at acts₂
      exact Acts.isolated ((insertRows_private own).map created) acts₁ acts₂ agree

theorem updateEndpoint_isolated (conn : Conn) (ep : WebhookEndpoint) (now : Time) :
    Isolated (view tenantID) (rest tenantID) ((Op.updateEndpoint conn ep now).exec tenantID)
      s₁ s₂ := by
  cases conn with
  | down => exact read_isolated agree rfl rfl rfl
  | up =>
      have keeps : ∀ e, owns tenantID .endpoints ((rewriteEndpoint s₁.core ep now).set e) =
          owns tenantID .endpoints e := fun _ => rfl
      have each : ∀ found, Private (owns tenantID .endpoints)
          (rewriteRows tenantID ep (rewriteEndpoint s₁.core ep now).set found) := by
        intro found
        cases found with
        | none => exact Private.read (f := fun _ => _) fun _ _ _ => rfl
        | some row => exact Private.update own_of_endpointAt keeps _
      have chosen : Private (owns tenantID .endpoints) fun r =>
          rewriteRows tenantID ep (rewriteEndpoint s₁.core ep now).set
            (r.find? (endpointAt ep.id tenantID)) r :=
        Private.choose (Local.find? own_of_endpointAt) each
      exact Acts.isolated chosen (updateEndpoint_acts s₁.core ep now)
        (updateEndpoint_acts s₁.core ep now) agree

/-- The deliveries that a delete takes along were the tenant's. -/
theorem deleteEndpoint_isolated (conn : Conn) (id : UUID) :
    Isolated (view tenantID) (rest tenantID) ((Op.deleteEndpoint conn id).exec tenantID)
      s₁ s₂ := by
  cases conn with
  | down => exact read_isolated agree rfl rfl rfl
  | up =>
      have removed : Private (owns tenantID .endpoints) fun r =>
          (Outcome.appDone (.ok ()), r.filter (!endpointAt id tenantID ·)) :=
        Private.remove own_of_endpointAt _
      have both := removed _ _ (endpoints_agree agree)
      have unchanged : ∀ s : Storage, s.endpoints.rows.filter (!owns tenantID .endpoints ·) =
          (s.endpoints.rows.filter (!endpointAt id tenantID ·)).filter
            (!owns tenantID .endpoints ·) :=
        fun s => (removed _ s.endpoints.rows rfl).right.symm
      have kept : ∀ s, rest tenantID ((Op.deleteEndpoint .up id).exec tenantID s).2 =
          rest tenantID s := by
        intro s
        apply Rest.ext
        · funext u
          cases u with
          | endpoints => exact (unchanged s).symm
          | preferences | inapp | deviceTokens | deadLetters => rfl
        · exact deleted_otherDeliveries s.deliveries.rows
        · rfl
      refine ⟨rfl, ?_, kept s₁, kept s₂⟩
      apply View.ext
      · funext u
        cases u with
        | endpoints => exact both.view
        | preferences => exact rows_agree agree .preferences
        | inapp => exact rows_agree agree .inapp
        | deviceTokens => exact rows_agree agree .deviceTokens
        | deadLetters => exact rows_agree agree .deadLetters
      · have deliveries : s₁.deliveries.rows.filter (ownsDelivery tenantID s₁.endpoints.rows) =
            s₂.deliveries.rows.filter (ownsDelivery tenantID s₂.endpoints.rows) :=
          congrArg View.deliveries agree
        calc (view tenantID ((Op.deleteEndpoint .up id).exec tenantID s₁).2).deliveries
            = (s₁.deliveries.rows.filter (ownsDelivery tenantID s₁.endpoints.rows)).filter
                (!cascades id tenantID s₁.endpoints.rows ·) := deleted_deliveries _
          _ = (s₂.deliveries.rows.filter (ownsDelivery tenantID s₂.endpoints.rows)).filter
                (!cascades id tenantID s₂.endpoints.rows ·) := by
              rw [deliveries, cascades_congr (endpoints_agree agree)]
          _ = (view tenantID ((Op.deleteEndpoint .up id).exec tenantID s₂).2).deliveries :=
              (deleted_deliveries _).symm
      · have notifications := congrArg View.notifications agree
        exact notifications
      · have registered := congrArg View.registered agree
        exact registered

end Endpoints

end TwoStates

end NotifyHub.Isolation.Stores
