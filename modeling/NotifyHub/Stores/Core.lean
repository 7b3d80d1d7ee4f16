import NotifyHub.Stores.Storage
import NotifyHub.TemplateService

/-! # Writes to the core tables

The other tables refer to tenants and notifications. A new content of the core tables that has
all of those still can be put under them. What a tenant's calls do to the core tables is such a
content, and one in which the rows of the other tenants are as they were.
-/

namespace NotifyHub

open Database Rows

namespace Database

/-- The rows that other tables may refer to are still there. -/
structure Keeps (db db' : Database) : Prop where
  tenants : ∀ x ∈ db.tenants, x ∈ db'.tenants
  notifications : ∀ x, db.hasNotification x = true → db'.hasNotification x = true

/-- What a call of the tenant does: no row goes away, and those of others do not change. -/
structure WrittenBy (tenantID : UUID) (db db' : Database) : Prop where
  tenants : db'.tenants = db.tenants
  notifications : ∀ x, db.hasNotification x = true → db'.hasNotification x = true
  others : ∀ other, other ≠ tenantID →
    db'.notifications.filter (ownNotification other) =
      db.notifications.filter (ownNotification other)
  otherTemplates : ∀ other, other ≠ tenantID →
    db'.templates.filter (ownTemplate other) = db.templates.filter (ownTemplate other)

namespace WrittenBy

variable {tenantID : UUID} {db db' db'' : Database}

theorem refl : WrittenBy tenantID db db :=
  ⟨rfl, fun _ stored => stored, fun _ _ => rfl, fun _ _ => rfl⟩

theorem trans (first : WrittenBy tenantID db db') (second : WrittenBy tenantID db' db'') :
    WrittenBy tenantID db db'' where
  tenants := second.tenants.trans first.tenants
  notifications := fun x stored => second.notifications x (first.notifications x stored)
  others := fun other ne => (second.others other ne).trans (first.others other ne)
  otherTemplates := fun other ne =>
    (second.otherTemplates other ne).trans (first.otherTemplates other ne)

theorem keeps (written : WrittenBy tenantID db db') : Keeps db db' :=
  ⟨fun _ known => written.tenants ▸ known, written.notifications⟩

theorem addNotification {row : NotificationRow} (accepted : db.AcceptsNotification row)
    (owner : row.tenantID = some tenantID) :
    WrittenBy tenantID db (db.addNotification row accepted) where
  tenants := rfl
  notifications := by
    intro x stored
    simp only [hasNotification, Database.addNotification, List.any_append, Bool.or_eq_true] at stored ⊢
    exact .inl stored
  others := by
    intro other ne
    have foreign : ownNotification other row = false := by
      simpa [ownNotification, owner] using ne.symm
    simp [Database.addNotification, foreign]
  otherTemplates := fun _ _ => rfl

theorem stampWhere {cond : NotificationRow → Bool} (status : NotificationStatus) (now : Time)
    (owned : ∀ row ∈ db.notifications, cond row = true → row.tenantID = some tenantID) :
    WrittenBy tenantID db (db.stampWhere cond status now) where
  tenants := rfl
  notifications := by
    intro x stored
    have same : (updateWhere cond (stamp status now) db.notifications).map (·.id) =
        db.notifications.map (·.id) := map_updateWhere fun _ => rfl
    simp only [hasNotification, Database.stampWhere, List.any_eq_true, beq_iff_eq] at stored ⊢
    have listed : x ∈ db.notifications.map (·.id) := List.mem_map.mpr stored
    rw [← same] at listed
    exact List.mem_map.mp listed
  others := by
    intro other ne
    have keeps : ∀ row, ownNotification other (stamp status now row) = ownNotification other row :=
      fun _ => rfl
    simp only [Database.stampWhere]
    rw [mine_updateWhere keeps]
    apply updateWhere_eq_self
    intro row member
    obtain ⟨stored, foreign⟩ := List.mem_filter.mp member
    apply Bool.eq_false_iff.mpr
    intro hit
    have both : some tenantID = some other :=
      (owned row stored hit).symm.trans (by simpa [ownNotification] using foreign)
    exact ne (Option.some.inj both).symm
  otherTemplates := fun _ _ => rfl

theorem addTemplate {row : TemplateRow} (accepted : db.AcceptsTemplate row)
    (owner : row.tenantID = some tenantID) : WrittenBy tenantID db (db.addTemplate row accepted) where
  tenants := rfl
  notifications := fun _ stored => stored
  others := fun _ _ => rfl
  otherTemplates := by
    intro other ne
    have foreign : ownTemplate other row = false := by
      simpa [ownTemplate, owner] using ne.symm
    simp [Database.addTemplate, foreign]

theorem setTemplates (id : UUID) (update : TemplateUpdate) :
    WrittenBy tenantID db (db.setTemplates (templateAt id tenantID) update) where
  tenants := rfl
  notifications := fun _ stored => stored
  others := fun _ _ => rfl
  otherTemplates := by
    intro other ne
    have keeps : ∀ t, ownTemplate other (update.set t) = ownTemplate other t := by
      intro t
      simp only [ownTemplate, update.tenantID t]
    simp only [Database.setTemplates]
    rw [mine_updateWhere keeps]
    apply updateWhere_eq_self
    intro t member
    have foreign : t.tenantID = some other := by
      simpa [ownTemplate] using (List.mem_filter.mp member).2
    apply Bool.eq_false_iff.mpr
    intro hit
    have both : some other = some tenantID := foreign.symm.trans (templateAt_iff.mp hit).2
    exact ne (Option.some.inj both)

end WrittenBy

end Database

/-! ## The calls of a tenant -/

section Calls

variable {tenantID id : UUID} {conn updateConn : Conn} {db db' : Database} {now : Time}

theorem NotificationRepository.create_writes {req : SendRequest} {n : Notification}
    (done : NotificationRepository.create conn db tenantID req id now = .ok (n, db')) :
    db.WrittenBy tenantID db' ∧
      ∀ row ∈ db'.notifications, row.id = n.id → row.tenantID = some tenantID := by
  obtain ⟨_, row, fits, rfl, accepted, rfl⟩ := NotificationRepository.create_ok done
  obtain ⟨_, owner, _⟩ := NotificationRepository.row_of_insertParams fits
  refine ⟨.addNotification accepted owner, ?_⟩
  intro other member same
  have new : row ∈ (db.addNotification row accepted).notifications := by
    simp [Database.addNotification]
  rw [notification_ext member new same]
  exact owner

theorem NotificationRepository.updateStatus_writes {status : NotificationStatus} {n : Notification}
    (done : NotificationRepository.updateStatus conn db id status now = .ok (n, db'))
    (owned : ∀ row ∈ db.notifications, row.id = id → row.tenantID = some tenantID) :
    db.WrittenBy tenantID db' := by
  obtain ⟨_, _, _, _, rfl⟩ := NotificationRepository.updateStatus_ok done
  exact .stampWhere status now fun row member hit => owned row member (by simpa using hit)

theorem NotificationRepository.cancel_writes {n : Notification}
    (done : NotificationRepository.cancel conn db tenantID id now = .ok (n, db')) :
    db.WrittenBy tenantID db' := by
  obtain ⟨_, _, _, _, rfl⟩ := NotificationRepository.cancel_ok done
  apply WrittenBy.stampWhere
  intro row _ hit
  simp only [cancellable, Bool.and_eq_true, beq_iff_eq] at hit
  exact hit.1.2

theorem TemplateService.create_writes {req : CreateTemplateRequest} {t : Template}
    (done : TemplateService.create conn db tenantID req id now = .ok (t, db')) :
    db.WrittenBy tenantID db' := by
  have inserted := repository_create_of_ok done
  cases conn with
  | down => simp [TemplateRepository.create, Conn.exec] at inserted
  | up =>
      simp only [TemplateRepository.create, Conn.exec, insertTemplate] at inserted
      cases fits : (TemplateRepository.insertParams tenantID req).row id now with
      | none => simp [fits] at inserted
      | some row =>
          by_cases accepted : db.AcceptsTemplate row
          · simp only [fits, dif_pos accepted, Except.ok.injEq, Prod.mk.injEq] at inserted
            simp only [InsertTemplateParams.row, TemplateRepository.insertParams,
              Option.bind_eq_bind, Option.bind_eq_some_iff] at fits
            obtain ⟨_, _, _, _, made⟩ := fits
            have owner : row.tenantID = some tenantID := by rw [← Option.some.inj made]
            rw [← inserted.2]
            exact .addTemplate accepted owner
          · simp [fits, dif_neg accepted] at inserted

theorem TemplateService.update_writes {req : UpdateTemplateRequest} {t : Template}
    (done : TemplateService.update conn updateConn db tenantID id req now = .ok (t, db')) :
    db.WrittenBy tenantID db' := by
  obtain ⟨_, _, rfl⟩ := update_sets done
  exact .setTemplates id _

theorem TemplateService.delete_writes {t : Template}
    (done : TemplateService.delete conn db tenantID id now = .ok (t, db')) :
    db.WrittenBy tenantID db' := by
  rw [delete_sets done]
  exact .setTemplates id _

end Calls

namespace NotificationService

variable {maxRetries : Int} {env : SendEnv} {tenantID : UUID} {w : World}

theorem sendNow_writes {n : Notification}
    (owned : ∀ row ∈ w.db.notifications, row.id = n.id → row.tenantID = some tenantID) :
    w.db.WrittenBy tenantID (sendNow maxRetries env tenantID n w).2.db := by
  unfold sendNow
  split
  · exact .refl
  · cases done : NotificationRepository.updateStatus env.updateConn w.db n.id .queued
        env.updatedAt with
    | error e => simpa only [done] using WrittenBy.refl
    | ok result =>
        simpa only [done] using NotificationRepository.updateStatus_writes done owned

theorem send_writes (req : SendRequest) :
    w.db.WrittenBy tenantID (send maxRetries env tenantID req w).2.db := by
  unfold send
  split
  · exact .refl
  · split
    · exact .refl
    · exact .refl
    · split
      · exact .refl
      · rename_i n db created
        obtain ⟨written, owned⟩ := NotificationRepository.create_writes created
        split
        · exact written
        · exact written.trans (sendNow_writes (w := { w with db := db }) owned)

theorem sendEach_writes {envs : Nat → SendEnv} {req : BulkSendRequest} (recipients : List Recipient)
    (k : Nat) : w.db.WrittenBy tenantID
      (sendEach maxRetries envs tenantID req k recipients w).2.db := by
  induction recipients generalizing k w with
  | nil => exact .refl
  | cons r rest ih =>
      have onward : w.db.WrittenBy tenantID
          (sendEach maxRetries envs tenantID req (k + 1) rest
            (send maxRetries (envs k) tenantID (single req r) w).2).2.db :=
        (send_writes (single req r)).trans (ih (k + 1))
      simp only [sendEach]
      split <;> exact onward

theorem sendBulk_writes {envs : Nat → SendEnv} (req : BulkSendRequest) :
    w.db.WrittenBy tenantID (sendBulk maxRetries envs tenantID req w).2.db := by
  unfold sendBulk
  split
  · exact .refl
  · exact sendEach_writes _ 0

end NotificationService

/-! ## Putting the tables back together -/

/-- The other tables over a new content of the core tables. -/
def Storage.withCore (s : Storage) (core : Database) (keeps : s.core.Keeps core) : Storage :=
  { core := core
    preferences := s.preferences.recheck fun row member x owner =>
      keeps.tenants x (s.preferences.valid row member x owner)
    inapp := s.inapp.recheck fun row member =>
      ⟨keeps.tenants _ (s.inapp.valid row member).1, fun x named =>
        keeps.notifications x ((s.inapp.valid row member).2 x named)⟩
    deviceTokens := s.deviceTokens.recheck fun row member =>
      ⟨keeps.tenants _ (s.deviceTokens.valid row member).1, (s.deviceTokens.valid row member).2⟩
    deadLetters := s.deadLetters.recheck fun row member =>
      keeps.tenants _ (s.deadLetters.valid row member)
    endpoints := s.endpoints.recheck fun row member =>
      keeps.tenants _ (s.endpoints.valid row member)
    deliveries := s.deliveries.recheck fun row member =>
      ⟨(s.deliveries.valid row member).1, fun x named =>
        keeps.notifications x ((s.deliveries.valid row member).2 x named)⟩ }

end NotifyHub
