import NotifyHub.DeviceTokens
import NotifyHub.Isolation.Stores.Operations
import NotifyHub.PreferenceUpserts
import NotifyHub.Stores.Core
import NotifyHub.WebhookService
import NotifyHub.Worker.Replay

/-! # Writes to all tables

What a call made for a tenant does to the tables: in all of them the rows of the other tenants
are as they were, whatever is asked for and whichever statements fail.
-/

namespace NotifyHub

open Rows
open Isolation.Stores (TableName rows owns ownsDelivery Replaced)

/-- What a call of the tenant does to the tables: the rows of others do not change. -/
structure Storage.WrittenBy (tenantID : UUID) (s s' : Storage) : Prop where
  core : s.core.WrittenBy tenantID s'.core
  rows : ∀ other, other ≠ tenantID → ∀ t,
    (rows s' t).filter (owns other t) = (rows s t).filter (owns other t)
  deliveries : ∀ other, other ≠ tenantID →
    s'.deliveries.rows.filter (ownsDelivery other s'.endpoints.rows) =
      s.deliveries.rows.filter (ownsDelivery other s.endpoints.rows)

namespace Storage.WrittenBy

variable {tenantID id : UUID} {s s' : Storage} {conn : Conn} {now : Time}

theorem refl : s.WrittenBy tenantID s := ⟨.refl, fun _ _ _ => rfl, fun _ _ => rfl⟩

theorem withCore {db : Database} (written : s.core.WrittenBy tenantID db)
    (keeps : s.core.Keeps db) : s.WrittenBy tenantID (s.withCore db keeps) where
  core := written
  rows := by
    intro other _ t
    cases t <;> rfl
  deliveries := fun _ _ => rfl

/-- A new content for one table in which nothing changes for others. -/
theorem of_replaced {t : TableName} (replaced : Replaced t s s')
    (others : ∀ other, other ≠ tenantID →
      (Isolation.Stores.rows s' t).filter (owns other t) =
        (Isolation.Stores.rows s t).filter (owns other t)) : s.WrittenBy tenantID s' := by
  obtain ⟨core, deliveries, endpoints⟩ := replaced.frame
  refine ⟨core ▸ .refl, ?_, ?_⟩
  · intro other ne u
    by_cases same : u = t
    · subst same
      exact others other ne
    · rw [replaced.elsewhere same]
  · intro other _
    rw [deliveries, endpoints]

/-- Rows that belong to the tenant are updated, and stay with it. -/
theorem updated {ρ : Type} {own : ρ → Option UUID} {mine : UUID → ρ → Bool} {cond : ρ → Bool}
    {set : ρ → ρ} {before : List ρ} (means : ∀ other row, mine other row = true ↔ own row = some other)
    (keeps : ∀ row, own (set row) = own row)
    (owned : ∀ row, cond row = true → own row = some tenantID) {other : UUID} (ne : other ≠ tenantID) :
    (updateWhere cond set before).filter (mine other) = before.filter (mine other) := by
  have same : ∀ row, mine other (set row) = mine other row := by
    intro row
    apply Bool.eq_iff_iff.mpr
    rw [means, means, keeps]
  rw [mine_updateWhere same]
  apply updateWhere_eq_self
  intro row member
  have foreign := (means other row).mp (List.mem_filter.mp member).2
  apply Bool.eq_false_iff.mpr
  intro hit
  exact ne (Option.some.inj (foreign.symm.trans (owned row hit)))

/-- Rows that belong to the tenant are removed. -/
theorem removed {ρ : Type} {own : ρ → Option UUID} {mine : UUID → ρ → Bool} {cond : ρ → Bool}
    {before : List ρ} (means : ∀ other row, mine other row = true ↔ own row = some other)
    (owned : ∀ row, cond row = true → own row = some tenantID) {other : UUID} (ne : other ≠ tenantID) :
    (before.filter (!cond ·)).filter (mine other) = before.filter (mine other) := by
  rw [List.filter_filter]
  apply List.filter_congr
  intro row _
  cases hit : cond row with
  | false => simp
  | true =>
      have foreign : mine other row = false := by
        apply Bool.eq_false_iff.mpr
        intro theirs
        have both := ((means other row).mp theirs).symm.trans (owned row hit)
        exact ne (Option.some.inj both)
      simp [foreign]

/-! ## Preferences -/

theorem owns_preferences (other : UUID) (p : PreferenceRow) :
    owns other .preferences p = true ↔ p.tenantID = some other := by
  simp only [owns, beq_iff_eq]

theorem preference_of_key {p q : PreferenceRow} {other : UUID} (owner : q.tenantID = some tenantID)
    (theirs : p.tenantID = some other) (ne : other ≠ tenantID) : p.key ≠ q.key := by
  intro same
  simp only [PreferenceRow.key, owner, theirs, Option.map_some, Option.some.injEq,
    Prod.mk.injEq] at same
  exact ne same.1

theorem upsertPreference {userID : String} {channel : Channel} {req : UpsertPreferenceRequest}
    {p : Preference}
    (done : PreferenceService.upsert conn s tenantID userID channel req id now = .ok (p, s')) :
    s.WrittenBy tenantID s' := by
  have inserted : PreferenceRepository.upsert conn s tenantID userID channel req id now =
      .ok (p, s') := by
    unfold PreferenceService.upsert at done
    cases valid : PreferenceService.validateUpsert req with
    | error e =>
        rw [valid] at done
        cases done
    | ok _ =>
        rw [valid] at done
        exact done
  cases conn with
  | down => simp [PreferenceRepository.upsert, Conn.exec] at inserted
  | up =>
      simp only [PreferenceRepository.upsert, Conn.exec, NotifyHub.upsertPreference] at inserted
      cases fits : (PreferenceRepository.upsertParams tenantID userID channel req).row id now with
      | none => simp [fits] at inserted
      | some row =>
          have owner : row.tenantID = some tenantID := by
            simp only [UpsertPreferenceParams.row, PreferenceRepository.upsertParams,
              Option.bind_eq_bind, Option.bind_eq_some_iff] at fits
            obtain ⟨_, _, _, _, _, _, made⟩ := fits
            rw [← Option.some.inj made]
          simp only [fits] at inserted
          cases stored : upsertRow s.preferences row (replacePreference s.core row now) with
          | error e => simp [stored] at inserted
          | ok result =>
              simp only [stored, Except.ok.injEq, Prod.mk.injEq] at inserted
              rw [← inserted.2]
              apply of_replaced (.preferences s _)
              intro other ne
              obtain ⟨_, _, _, others⟩ := upsertRow_ok stored
              apply others
              intro theirs hit
              exact preference_of_key owner ((owns_preferences other theirs).mp hit) ne

theorem deletePreference {userID : String} {channel : Channel}
    (done : PreferenceRepository.delete conn s tenantID userID channel = .ok s') :
    s.WrittenBy tenantID s' := by
  cases conn with
  | down => cases done
  | up =>
      obtain rfl := Except.ok.inj done
      apply of_replaced (.preferences s _)
      intro other ne
      apply removed owns_preferences _ ne
      intro p hit
      simp only [preferenceAt, Bool.and_eq_true, beq_iff_eq] at hit
      exact hit.1.1

/-! ## Device tokens -/

theorem owns_deviceTokens (other : UUID) (d : DeviceTokenRow) :
    owns other .deviceTokens d = true ↔ some d.tenantID = some other := by
  simp only [owns, beq_iff_eq, Option.some.injEq]

theorem registerDeviceToken {req : RegisterDeviceTokenRequest} {d : DeviceToken}
    (done : DeviceTokenService.register conn s tenantID req id now = .ok (d, s')) :
    s.WrittenBy tenantID s' := by
  unfold DeviceTokenService.register at done
  split at done
  · cases done
  · cases conn with
    | down => simp [DeviceTokenRepository.upsert, Conn.exec] at done
    | up =>
        simp only [DeviceTokenRepository.upsert, Conn.exec, upsertDeviceToken] at done
        cases fits : deviceTokenRow tenantID req id now with
        | none => simp [fits] at done
        | some row =>
            have owner : row.tenantID = tenantID := by
              simp only [deviceTokenRow, Option.bind_eq_bind, Option.bind_eq_some_iff] at fits
              obtain ⟨_, _, _, _, made⟩ := fits
              rw [← Option.some.inj made]
            by_cases known : knownPlatform row.platform = true
            · simp only [fits, dif_pos known] at done
              cases stored : upsertRow s.deviceTokens row (reassignToken s.core row now known) with
              | error e => simp [stored] at done
              | ok result =>
                  simp only [stored, Except.ok.injEq, Prod.mk.injEq] at done
                  rw [← done.2]
                  apply of_replaced (.deviceTokens s _)
                  intro other ne
                  obtain ⟨_, _, _, others⟩ := upsertRow_ok stored
                  apply others
                  intro theirs hit same
                  have owner' := Option.some.inj ((owns_deviceTokens other theirs).mp hit)
                  simp only [DeviceTokenRow.key, Option.some.injEq, Prod.mk.injEq, owner,
                    owner'] at same
                  exact ne same.1
            · simp [fits, dif_neg known] at done

theorem deregisterDeviceToken {token : String}
    (done : DeviceTokenService.deregister conn s tenantID token now = .ok s') :
    s.WrittenBy tenantID s' := by
  unfold DeviceTokenService.deregister at done
  split at done
  · cases done
  · cases conn with
    | down => cases done
    | up =>
        obtain rfl := Except.ok.inj done
        have keeps : ∀ d, some ((retireToken s.core now).set d).tenantID = some d.tenantID :=
          fun _ => rfl
        apply of_replaced (.deviceTokens s _)
        intro other ne
        apply updated owns_deviceTokens keeps _ ne
        intro d hit
        simp only [tokenAt, Bool.and_eq_true, beq_iff_eq] at hit
        exact congrArg some hit.1

/-! ## Inbox -/

theorem owns_inapp (other : UUID) (m : InAppRow) :
    owns other .inapp m = true ↔ some m.tenantID = some other := by
  simp only [owns, beq_iff_eq, Option.some.injEq]

theorem owner_of_inInbox {recipientID : String} {m : InAppRow}
    (inside : inInbox tenantID recipientID m = true) : some m.tenantID = some tenantID := by
  simp only [inInbox, Bool.and_eq_true, beq_iff_eq] at inside
  exact congrArg some inside.1

theorem keeps_stampRead (db : Database) (m : InAppRow) :
    some ((stampRead db now).set m).tenantID = some m.tenantID :=
  rfl

theorem markRead {recipientID : String}
    (done : InAppRepository.markRead conn s tenantID id recipientID now = .ok s') :
    s.WrittenBy tenantID s' := by
  cases conn with
  | down => cases done
  | up =>
      obtain rfl := Except.ok.inj done
      apply of_replaced (.inapp s _)
      intro other ne
      apply updated owns_inapp (keeps_stampRead s.core) _ ne
      intro m hit
      simp only [Bool.and_eq_true] at hit
      exact owner_of_inInbox hit.1.2

theorem markAllRead {recipientID : String}
    (done : InAppRepository.markAllRead conn s tenantID recipientID now = .ok s') :
    s.WrittenBy tenantID s' := by
  cases conn with
  | down => cases done
  | up =>
      obtain rfl := Except.ok.inj done
      apply of_replaced (.inapp s _)
      intro other ne
      apply updated owns_inapp (keeps_stampRead s.core) _ ne
      intro m hit
      simp only [Bool.and_eq_true] at hit
      exact owner_of_inInbox hit.1

/-! ## Dead letters -/

theorem owns_deadLetters (other : UUID) (m : DeadLetterRow) :
    owns other .deadLetters m = true ↔ some m.tenantID = some other := by
  simp only [owns, beq_iff_eq, Option.some.injEq]

theorem owner_of_deadLetterAt (m : DeadLetterRow) (hit : deadLetterAt id tenantID m = true) :
    some m.tenantID = some tenantID := by
  simp only [deadLetterAt, Bool.and_eq_true, beq_iff_eq] at hit
  exact congrArg some hit.2

theorem markReplayed (done : DeadLetterRepository.markReplayed conn s tenantID id now = .ok s') :
    s.WrittenBy tenantID s' := by
  cases conn with
  | down => cases done
  | up =>
      obtain rfl := Except.ok.inj done
      have keeps : ∀ m, some ((stampReplayed s.core now).set m).tenantID = some m.tenantID :=
        fun _ => rfl
      apply of_replaced (.deadLetters s _)
      intro other ne
      exact updated owns_deadLetters keeps owner_of_deadLetterAt ne

theorem deleteDeadLetter (done : DeadLetterRepository.delete conn s tenantID id = .ok s') :
    s.WrittenBy tenantID s' := by
  cases conn with
  | down => cases done
  | up =>
      obtain rfl := Except.ok.inj done
      apply of_replaced (.deadLetters s _)
      intro other ne
      exact removed owns_deadLetters owner_of_deadLetterAt ne

theorem replay (maxAttempts : Int) (calls : ReplayCalls) :
    s.WrittenBy tenantID (DLQHandler.replay maxAttempts calls s tenantID id).2.2 := by
  rcases Replay.replay_cases maxAttempts calls s tenantID id with
    ⟨e, same⟩ | ⟨out, ⟨warning, same⟩ | ⟨s', marked, same⟩⟩ <;> rw [same]
  · exact .refl
  · exact .refl
  · exact markReplayed marked

/-! ## Webhook endpoints

The deliveries go with their endpoints. -/

theorem owns_endpoints (other : UUID) (e : WebhookEndpointRow) :
    owns other .endpoints e = true ↔ some e.tenantID = some other := by
  simp only [owns, beq_iff_eq, Option.some.injEq]

/-- A write to the endpoints that leaves those of others, and everyone's other rows. -/
theorem of_endpoints (core : s'.core = s.core)
    (elsewhere : ∀ t, t ≠ .endpoints → Isolation.Stores.rows s' t = Isolation.Stores.rows s t)
    (others : ∀ other, other ≠ tenantID →
      s'.endpoints.rows.filter (owns other .endpoints) =
        s.endpoints.rows.filter (owns other .endpoints))
    (deliveries : ∀ other, other ≠ tenantID →
      s'.deliveries.rows.filter (ownsDelivery other s'.endpoints.rows) =
        s.deliveries.rows.filter (ownsDelivery other s.endpoints.rows)) :
    s.WrittenBy tenantID s' := by
  refine ⟨core ▸ .refl, ?_, deliveries⟩
  intro other ne t
  by_cases same : t = .endpoints
  · subst same
    exact others other ne
  · rw [elsewhere t same]

/-- Who owns a delivery is decided by the owner's endpoints. -/
theorem ownsDelivery_congr {other : UUID} {endpoints endpoints' : List WebhookEndpointRow}
    (same : endpoints.filter (owns other .endpoints) = endpoints'.filter (owns other .endpoints))
    (d : WebhookDeliveryRow) : ownsDelivery other endpoints d = ownsDelivery other endpoints' d := by
  have through : ∀ list : List WebhookEndpointRow, ownsDelivery other list d =
      (list.filter (owns other .endpoints)).any (·.id == d.endpointID) := by
    intro list
    simp only [ownsDelivery, List.any_filter, owns]
  rw [through, through, same]

/-- A new row of the tenant among the endpoints. -/
theorem appended_endpoints {row : WebhookEndpointRow} (owner : row.tenantID = tenantID) {other : UUID}
    (ne : other ≠ tenantID) :
    (s.endpoints.rows ++ [row]).filter (owns other .endpoints) =
      s.endpoints.rows.filter (owns other .endpoints) := by
  have missed : owns other .endpoints row = false := by
    apply beq_false_of_ne
    rw [owner]
    exact ne.symm
  simp [missed]

theorem createWebhook {isURL : String → Bool} {req : CreateWebhookEndpointRequest}
    {ep : WebhookEndpoint}
    (done : WebhookService.create isURL conn s tenantID req id now = .ok (ep, s')) :
    s.WrittenBy tenantID s' := by
  unfold WebhookService.create at done
  split at done
  · cases done
  · split at done
    · cases done
    · cases conn with
      | down => simp [WebhookRepository.createEndpoint, Conn.exec] at done
      | up =>
          unfold WebhookRepository.createEndpoint Conn.exec insertWebhookEndpoint at done
          dsimp only at done
          split at done
          · cases done
          · rename_i row t inserted
            split at inserted
            · rename_i accepted
              obtain ⟨_, rfl⟩ := Prod.mk.inj (Except.ok.inj inserted)
              obtain ⟨_, rfl⟩ := Prod.mk.inj (Except.ok.inj done)
              refine of_endpoints (s := s) rfl ?_ ?_ ?_
              · intro t other
                cases t <;> first | rfl | exact absurd rfl other
              · intro other ne
                exact appended_endpoints rfl ne
              · intro other ne
                apply List.filter_congr
                intro d _
                exact ownsDelivery_congr (appended_endpoints rfl ne) d
            · cases inserted

theorem owner_of_endpointAt (e : WebhookEndpointRow) (hit : endpointAt id tenantID e = true) :
    some e.tenantID = some tenantID := by
  simp only [endpointAt, Bool.and_eq_true, beq_iff_eq] at hit
  exact congrArg some hit.2

theorem updateWebhook {isURL : String → Bool} {req : UpdateWebhookEndpointRequest}
    {ep : WebhookEndpoint}
    (done : WebhookService.update isURL conn s tenantID id req now = .ok (ep, s')) :
    s.WrittenBy tenantID s' := by
  unfold WebhookService.update at done
  split at done
  · cases done
  · split at done
    · cases done
    · cases conn with
      | down => simp [WebhookRepository.updateEndpoint, Conn.exec] at done
      | up =>
          simp only [WebhookRepository.updateEndpoint, Conn.exec, updateWebhookEndpoint] at done
          cases found : s.endpoints.rows.find? (endpointAt id tenantID) with
          | none => simp [found] at done
          | some row =>
              simp only [found, Except.ok.injEq, Prod.mk.injEq] at done
              obtain ⟨_, rfl⟩ := done
              have keeps : ∀ ep e, some ((rewriteEndpoint s.core ep now).set e).tenantID =
                  some e.tenantID := fun _ _ => rfl
              have foreign : ∀ other, other ≠ tenantID → ∀ ep,
                  (updateWhere (endpointAt id tenantID) (rewriteEndpoint s.core ep now).set
                    s.endpoints.rows).filter (owns other .endpoints) =
                      s.endpoints.rows.filter (owns other .endpoints) :=
                fun other ne ep => updated owns_endpoints (keeps ep) owner_of_endpointAt ne
              refine of_endpoints (s := s) rfl ?_ ?_ ?_
              · intro t other
                cases t <;> first | rfl | exact absurd rfl other
              · intro other ne
                exact foreign other ne _
              · intro other ne
                apply List.filter_congr
                intro d _
                exact ownsDelivery_congr (foreign other ne _) d

theorem deleteWebhook (done : WebhookService.delete conn s tenantID id = .ok s') :
    s.WrittenBy tenantID s' := by
  obtain rfl := WebhookRepository.deleteEndpoint_ok done
  have foreign : ∀ other, other ≠ tenantID →
      (s.endpoints.rows.filter (!endpointAt id tenantID ·)).filter (owns other .endpoints) =
        s.endpoints.rows.filter (owns other .endpoints) :=
    fun other ne => removed owns_endpoints owner_of_endpointAt ne
  refine of_endpoints (s := s) rfl ?_ ?_ ?_
  · intro t other
    cases t <;> first | rfl | exact absurd rfl other
  · exact foreign
  · intro other ne
    simp only [deleteWebhookEndpoint, Table.recheck, Table.remove, List.filter_filter]
    apply List.filter_congr
    intro d _
    rw [ownsDelivery_congr (foreign other ne)]
    cases goes : cascades id tenantID s.endpoints.rows d with
    | false => simp
    | true =>
        -- a delivery of the tenant's endpoint is not one of another tenant's
        have theirs : ownsDelivery other s.endpoints.rows d = false := by
          apply Bool.eq_false_iff.mpr
          intro owned
          simp only [cascades, endpointAt, Bool.and_eq_true, beq_iff_eq, List.any_eq_true] at goes
          simp only [ownsDelivery, Bool.and_eq_true, beq_iff_eq, List.any_eq_true] at owned
          obtain ⟨named, mine, mineMem, mineID, mineOwner⟩ := goes
          obtain ⟨other', otherMem, otherOwner, otherID⟩ := owned
          have same : mine = other' := s.endpoints.pkey.eq_of_mem mineMem otherMem rfl
            (congrArg some (otherID.trans (named.trans mineID.symm)))
          exact ne (otherOwner.symm.trans (same ▸ mineOwner))
        simp [theirs]

end Storage.WrittenBy

end NotifyHub
