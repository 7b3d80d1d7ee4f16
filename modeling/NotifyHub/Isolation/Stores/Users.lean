import NotifyHub.Isolation.Stores.Operations

/-! # What belongs to a user: preferences, inbox, device tokens -/

namespace NotifyHub.Isolation.Stores

open Rows
open Observer (Isolated)

section TwoStates

variable {tenantID : UUID} {s s₁ s₂ : Storage} {exec : Storage → Outcome × Storage}

/-! ## Preferences -/

section Preferences

variable (agree : view tenantID s₁ = view tenantID s₂)

include agree

theorem preferences_agree :
    s₁.preferences.rows.filter (owns tenantID .preferences) =
      s₂.preferences.rows.filter (owns tenantID .preferences) :=
  rows_agree agree .preferences

omit agree in
theorem own_of_preferenceAt {userID : String} {channel : Channel} (p : PreferenceRow)
    (hit : preferenceAt tenantID userID channel p = true) : owns tenantID .preferences p = true := by
  simp only [preferenceAt, Bool.and_eq_true] at hit
  exact hit.1.1

omit agree in
theorem own_of_preferenceOf {userID : String} (p : PreferenceRow)
    (hit : preferenceOf tenantID userID p = true) : owns tenantID .preferences p = true :=
  ((Bool.and_eq_true _ _).mp hit).1

theorem getPreference_isolated (conn : Conn) (userID : String) (channel : Channel) :
    Isolated (view tenantID) (rest tenantID)
      ((Op.getPreference conn userID channel).exec tenantID) s₁ s₂ := by
  have found : getPreference s₁.preferences.rows tenantID userID channel =
      getPreference s₂.preferences.rows tenantID userID channel := by
    unfold getPreference
    rw [find?_congr (preferences_agree agree) own_of_preferenceAt]
  apply read_isolated agree _ rfl rfl
  simp only [Op.exec, PreferenceRepository.get, found]

theorem listPreferences_isolated (conn : Conn) (userID : String) :
    Isolated (view tenantID) (rest tenantID)
      ((Op.listPreferences conn userID).exec tenantID) s₁ s₂ := by
  have found : listPreferencesByUser s₁.preferences.rows tenantID userID =
      listPreferencesByUser s₂.preferences.rows tenantID userID := by
    unfold listPreferencesByUser
    rw [filter_congr (preferences_agree agree) own_of_preferenceOf]
  apply read_isolated agree _ rfl rfl
  simp only [Op.exec, PreferenceRepository.listByUser, found]

theorem deletePreference_isolated (conn : Conn) (userID : String) (channel : Channel) :
    Isolated (view tenantID) (rest tenantID)
      ((Op.deletePreference conn userID channel).exec tenantID) s₁ s₂ := by
  cases conn with
  | down => exact read_isolated agree rfl rfl rfl
  | up =>
      have acts : ∀ s, Acts tenantID ((Op.deletePreference .up userID channel).exec tenantID)
          .preferences
          (fun rows => (.appDone (.ok ()), rows.filter (!preferenceAt tenantID userID channel ·)))
          s :=
        fun s => Acts.of_replaced (.preferences s _) rfl rfl
      exact Acts.isolated (Private.remove own_of_preferenceAt _) (acts s₁) (acts s₂) agree

omit agree in
theorem row_of_upsertParams {userID : String} {channel : Channel} {req : UpsertPreferenceRequest}
    {id : UUID} {now : Time} {row : PreferenceRow}
    (fits : (PreferenceRepository.upsertParams tenantID userID channel req).row id now = some row) :
    row.id = id ∧ row.tenantID = some tenantID := by
  simp only [UpsertPreferenceParams.row, PreferenceRepository.upsertParams, Option.bind_eq_bind,
    Option.bind_eq_some_iff] at fits
  obtain ⟨_, _, _, _, _, _, made⟩ := fits
  obtain rfl := Option.some.inj made
  exact ⟨rfl, rfl⟩

/-- The answer of Upsert to the answer of its statement. -/
def upserted : Except SqlError PreferenceRow → Outcome
  | .error _ => .preference (.error (newInternalError "failed to upsert preference"))
  | .ok row => .preference (.ok (dbPreferenceToDomain row))

omit agree in
theorem upsertPreference_acts {userID : String} {channel : Channel} {req : UpsertPreferenceRequest}
    {id : UUID} {now : Time} {row : PreferenceRow} (db : Database)
    (fits : (PreferenceRepository.upsertParams tenantID userID channel req).row id now = some row)
    (fresh : id ∉ s.preferences.rows.map (·.id)) :
    Acts tenantID ((Op.upsertPreference .up userID channel req id now).exec tenantID) .preferences
      (fun r =>
        (upserted (upsertRows PreferenceRow.key row (replacePreference db row now).set
            (decide (tenantID ∈ s.core.tenants)) r).1,
          (upsertRows PreferenceRow.key row (replacePreference db row now).set
            (decide (tenantID ∈ s.core.tenants)) r).2)) s := by
  obtain ⟨rowID, owner⟩ := row_of_upsertParams fits
  have decides : decide (PreferenceRow.Valid s.core row) = decide (tenantID ∈ s.core.tenants) := by
    simp [PreferenceRow.Valid, owner]
  have leaves : Leaves (upsertRow s.preferences row (replacePreference s.core row now))
      s.preferences.rows (upsertRows PreferenceRow.key row (replacePreference db row now).set
        (decide (tenantID ∈ s.core.tenants)) s.preferences.rows) := by
    rw [← decides]
    exact upsertRow_leaves (rowID ▸ fresh)
  have executed : (Op.upsertPreference .up userID channel req id now).exec tenantID s =
      responded upserted s (upsertPreference s
        (PreferenceRepository.upsertParams tenantID userID channel req) id now) := by
    simp only [Op.exec, PreferenceRepository.upsert, Conn.exec]
    cases upsertPreference s (PreferenceRepository.upsertParams tenantID userID channel req) id
      now <;> rfl
  have stored : Stored .preferences s
      (upsertRows PreferenceRow.key row (replacePreference db row now).set
        (decide (tenantID ∈ s.core.tenants)) s.preferences.rows)
      (upsertPreference s (PreferenceRepository.upsertParams tenantID userID channel req) id
        now) := by
    simp only [upsertPreference, fits]
    cases result : upsertRow s.preferences row (replacePreference s.core row now) with
    | error e => exact (result ▸ leaves :)
    | ok stored => exact ⟨.preferences s _, (result ▸ leaves :)⟩
  exact Acts.of_stored executed stored

theorem upsertPreference_isolated {conn : Conn} {userID : String} {channel : Channel}
    {req : UpsertPreferenceRequest} {id : UUID} {now : Time}
    (fresh₁ : id ∉ s₁.preferences.rows.map (·.id)) (fresh₂ : id ∉ s₂.preferences.rows.map (·.id)) :
    Isolated (view tenantID) (rest tenantID)
      ((Op.upsertPreference conn userID channel req id now).exec tenantID) s₁ s₂ := by
  cases conn with
  | down => exact read_isolated agree rfl rfl rfl
  | up =>
      cases fits : (PreferenceRepository.upsertParams tenantID userID channel req).row id now with
      | none =>
          have refused : ∀ s, (Op.upsertPreference .up userID channel req id now).exec tenantID s =
              (upserted (.error .noRows), s) := by
            intro s
            simp only [Op.exec, PreferenceRepository.upsert, Conn.exec, upsertPreference, fits,
              written, upserted]
          exact read_isolated agree (by rw [refused, refused]) (by rw [refused]) (by rw [refused])
      | some row =>
          obtain ⟨_, owner⟩ := row_of_upsertParams fits
          have owned : ∀ p : PreferenceRow, p.key = row.key → owns tenantID .preferences p = true := by
            intro p same
            simp only [PreferenceRow.key, owner, Option.map_some, Option.map_eq_some_iff,
              Prod.mk.injEq] at same
            obtain ⟨other, its, rfl, _⟩ := same
            simp [owns, its]
          have private_ : Private (owns tenantID .preferences)
              (upsertRows PreferenceRow.key row (replacePreference s₁.core row now).set
                (decide (tenantID ∈ s₁.core.tenants))) :=
            upsertRows_private (by simp [owns, owner]) owned (fun _ => rfl)
          have acts₂ := upsertPreference_acts s₁.core fits fresh₂
          rw [← registered_agree agree] at acts₂
          exact Acts.isolated (private_.map upserted) (upsertPreference_acts s₁.core fits fresh₁)
            acts₂ agree

end Preferences

/-! ## The inbox -/

section InApp

variable (agree : view tenantID s₁ = view tenantID s₂)

include agree

theorem inapp_agree :
    s₁.inapp.rows.filter (owns tenantID .inapp) = s₂.inapp.rows.filter (owns tenantID .inapp) :=
  rows_agree agree .inapp

omit agree in
theorem own_of_inappAt {id : UUID} (m : InAppRow) (hit : inappAt id tenantID m = true) :
    owns tenantID .inapp m = true :=
  ((Bool.and_eq_true _ _).mp hit).2

omit agree in
theorem own_of_inInbox {recipientID : String} (m : InAppRow)
    (hit : inInbox tenantID recipientID m = true) : owns tenantID .inapp m = true :=
  ((Bool.and_eq_true _ _).mp hit).1

omit agree in
/-- Whatever is asked of a message beside that it is in the inbox. -/
theorem own_of_inInbox_and {recipientID : String} {more : InAppRow → Bool} (m : InAppRow)
    (hit : (inInbox tenantID recipientID m && more m) = true) : owns tenantID .inapp m = true :=
  own_of_inInbox m ((Bool.and_eq_true _ _).mp hit).1

theorem getInAppMessage_congr (id : UUID) :
    getInAppMessage s₁.inapp.rows id tenantID = getInAppMessage s₂.inapp.rows id tenantID := by
  unfold getInAppMessage
  rw [find?_congr (inapp_agree agree) own_of_inappAt]

theorem getInApp_isolated (conn : Conn) (id : UUID) :
    Isolated (view tenantID) (rest tenantID) ((Op.getInApp conn id).exec tenantID) s₁ s₂ := by
  apply read_isolated agree _ rfl rfl
  simp only [Op.exec, InAppRepository.getByID, getInAppMessage_congr agree]

theorem listInApp_isolated (conn cursorConn : Conn) (q : InboxQuery) :
    Isolated (view tenantID) (rest tenantID) ((Op.listInApp conn cursorConn q).exec tenantID)
      s₁ s₂ := by
  have listed : ∀ limit offset,
      listInbox s₁.inapp.rows tenantID q.recipientID q.unreadOnly limit offset =
        listInbox s₂.inapp.rows tenantID q.recipientID q.unreadOnly limit offset := by
    intro limit offset
    unfold listInbox listedInInbox
    rw [filter_congr (inapp_agree agree) own_of_inInbox_and]
  have after : ∀ cursor limit,
      listInboxAfterCursor s₁.inapp.rows tenantID q.recipientID q.unreadOnly cursor limit =
        listInboxAfterCursor s₂.inapp.rows tenantID q.recipientID q.unreadOnly cursor limit := by
    intro cursor limit
    unfold listInboxAfterCursor listedInInbox
    simp only [Bool.and_assoc]
    rw [filter_congr (inapp_agree agree) own_of_inInbox_and]
  apply read_isolated agree _ rfl rfl
  simp only [Op.exec, InAppRepository.list, listed, after, getInAppMessage_congr agree]

theorem listInAppSince_isolated (conn cursorConn : Conn) (recipientID : String) (sinceID : UUID) :
    Isolated (view tenantID) (rest tenantID)
      ((Op.listInAppSince conn cursorConn recipientID sinceID).exec tenantID) s₁ s₂ := by
  have since : ∀ cursor, listInboxSince s₁.inapp.rows tenantID recipientID cursor =
      listInboxSince s₂.inapp.rows tenantID recipientID cursor := by
    intro cursor
    unfold listInboxSince newerThan
    rw [filter_congr (inapp_agree agree) own_of_inInbox_and]
  apply read_isolated agree _ rfl rfl
  simp only [Op.exec, InAppRepository.listSince, since, getInAppMessage_congr agree]

theorem countUnread_isolated (conn : Conn) (recipientID : String) :
    Isolated (view tenantID) (rest tenantID) ((Op.countUnread conn recipientID).exec tenantID)
      s₁ s₂ := by
  have counted : NotifyHub.countUnread s₁.inapp.rows tenantID recipientID =
      NotifyHub.countUnread s₂.inapp.rows tenantID recipientID := by
    unfold NotifyHub.countUnread
    rw [filter_congr (inapp_agree agree) own_of_inInbox_and]
  apply read_isolated agree _ rfl rfl
  simp only [Op.exec, InAppRepository.countUnread, counted]

theorem markRead_isolated (conn : Conn) (id : UUID) (recipientID : String) (now : Time) :
    Isolated (view tenantID) (rest tenantID) ((Op.markRead conn id recipientID now).exec tenantID)
      s₁ s₂ := by
  cases conn with
  | down => exact read_isolated agree rfl rfl rfl
  | up =>
      have owned : ∀ m : InAppRow,
          (m.id == id && inInbox tenantID recipientID m && m.readAt.isNone) = true →
            owns tenantID .inapp m = true := by
        intro m hit
        simp only [Bool.and_eq_true] at hit
        exact own_of_inInbox m hit.1.2
      have acts : ∀ s, Acts tenantID ((Op.markRead .up id recipientID now).exec tenantID) .inapp
          (fun r => (.done (.ok ()),
            updateWhere (fun m => m.id == id && inInbox tenantID recipientID m && m.readAt.isNone)
              (stampRead s₁.core now).set r)) s :=
        fun s => Acts.of_replaced (.inapp s _) rfl rfl
      have keeps : ∀ m, owns tenantID .inapp ((stampRead s₁.core now).set m) =
          owns tenantID .inapp m := fun _ => rfl
      exact Acts.isolated (Private.update owned keeps _) (acts s₁) (acts s₂) agree

theorem markAllRead_isolated (conn : Conn) (recipientID : String) (now : Time) :
    Isolated (view tenantID) (rest tenantID) ((Op.markAllRead conn recipientID now).exec tenantID)
      s₁ s₂ := by
  cases conn with
  | down => exact read_isolated agree rfl rfl rfl
  | up =>
      have acts : ∀ s, Acts tenantID ((Op.markAllRead .up recipientID now).exec tenantID) .inapp
          (fun r => (.done (.ok ()),
            updateWhere (fun m => inInbox tenantID recipientID m && m.readAt.isNone)
              (stampRead s₁.core now).set r)) s :=
        fun s => Acts.of_replaced (.inapp s _) rfl rfl
      have keeps : ∀ m, owns tenantID .inapp ((stampRead s₁.core now).set m) =
          owns tenantID .inapp m := fun _ => rfl
      exact Acts.isolated (Private.update own_of_inInbox_and keeps _) (acts s₁) (acts s₂) agree

/-- The row that an insert proposes. -/
def inappRow (tenantID : UUID) (msg : InAppMessage) (id : UUID) (now : Time) : InAppRow :=
  (InAppRepository.insertParams { msg with tenantID := tenantID }).row id now

/-- The answer of Insert to the answer of its statement. -/
def inserted : Except SqlError InAppRow → Outcome
  | .error e => .message (.error (.wrap "insert inapp message" e.err))
  | .ok row => .message (.ok (fromDBInApp row))

omit agree in
theorem insertInApp_acts (msg : InAppMessage) (id : UUID) (now : Time) :
    Acts tenantID ((Op.insertInApp .up msg id now).exec tenantID) .inapp
      (fun r =>
        (inserted (insertRows (inappRow tenantID msg id now)
            (decide (s.inapp.Accepts (inappRow tenantID msg id now))) r).1,
          (insertRows (inappRow tenantID msg id now)
            (decide (s.inapp.Accepts (inappRow tenantID msg id now))) r).2)) s := by
  have leaves : Leaves (insertRow s.inapp (inappRow tenantID msg id now)) s.inapp.rows
      (insertRows (inappRow tenantID msg id now)
        (decide (s.inapp.Accepts (inappRow tenantID msg id now))) s.inapp.rows) :=
    insertRow_leaves
  have executed : (Op.insertInApp .up msg id now).exec tenantID s =
      responded inserted s (insertInAppMessage s
        (InAppRepository.insertParams { msg with tenantID := tenantID }) id now) := by
    simp only [Op.exec, InAppRepository.insert, Conn.exec]
    cases insertInAppMessage s (InAppRepository.insertParams { msg with tenantID := tenantID }) id
      now <;> rfl
  have stored : Stored .inapp s
      (insertRows (inappRow tenantID msg id now)
        (decide (s.inapp.Accepts (inappRow tenantID msg id now))) s.inapp.rows)
      (insertInAppMessage s (InAppRepository.insertParams { msg with tenantID := tenantID }) id
        now) := by
    unfold insertInAppMessage
    cases result : insertRow s.inapp (inappRow tenantID msg id now) with
    | error e =>
        simp only [inappRow] at result
        simp only [result]
        exact (result ▸ leaves :)
    | ok row =>
        simp only [inappRow] at result
        simp only [result]
        exact ⟨.inapp s _, (result ▸ leaves :)⟩
  exact Acts.of_stored executed stored

/-- An insert is isolated if it passes in both states or in none, and only then. -/
theorem insertInApp_isolated_iff (msg : InAppMessage) (id : UUID) (now : Time) :
    Isolated (view tenantID) (rest tenantID) ((Op.insertInApp .up msg id now).exec tenantID)
        s₁ s₂ ↔
      (s₁.inapp.Accepts (inappRow tenantID msg id now) ↔
        s₂.inapp.Accepts (inappRow tenantID msg id now)) := by
  have acts₁ : Acts tenantID ((Op.insertInApp .up msg id now).exec tenantID) .inapp _ s₁ :=
    insertInApp_acts msg id now
  have acts₂ : Acts tenantID ((Op.insertInApp .up msg id now).exec tenantID) .inapp _ s₂ :=
    insertInApp_acts msg id now
  constructor
  · intro isolated
    have same := isolated.outcome
    rw [acts₁.answer, acts₂.answer] at same
    by_cases first : s₁.inapp.Accepts (inappRow tenantID msg id now) <;>
      by_cases second : s₂.inapp.Accepts (inappRow tenantID msg id now) <;>
      simp [first, second, insertRows, inserted] at same ⊢
  · intro alike
    simp only [← alike] at acts₂
    have own : owns tenantID .inapp (inappRow tenantID msg id now) = true := by
      simp [owns, inappRow, InsertInAppMessageParams.row, InAppRepository.insertParams]
    exact Acts.isolated ((insertRows_private own).map inserted) acts₁ acts₂ agree

omit agree in
theorem accepts_inapp_iff {msg : InAppMessage} {id : UUID} {now : Time}
    (fresh : id ∉ s.inapp.rows.map (·.id)) :
    s.inapp.Accepts (inappRow tenantID msg id now) ↔
      tenantID ∈ s.core.tenants ∧
        ∀ n ∈ msg.notificationID, s.core.hasNotification n = true :=
  ⟨fun accepted => accepted.2.2, fun valid => ⟨fresh, by simp [noKey], valid⟩⟩

omit agree in
theorem hasNotification_of_owns {n : UUID} (own : ownsNotification tenantID s n = true) :
    s.core.hasNotification n = true := by
  obtain ⟨row, member, named⟩ := List.any_eq_true.mp own
  exact List.any_eq_true.mpr ⟨row, (List.mem_filter.mp member).1, named⟩

theorem ownsNotification_agree (n : UUID) :
    ownsNotification tenantID s₁ n = ownsNotification tenantID s₂ n := by
  have notifications : s₁.core.notifications.filter (Database.ownNotification tenantID) =
      s₂.core.notifications.filter (Database.ownNotification tenantID) :=
    congrArg View.notifications agree
  simp only [ownsNotification, notifications]

omit agree in
theorem refers_insertInApp (msg : InAppMessage) (id : UUID) (now : Time) :
    (Op.insertInApp .up msg id now).refers tenantID s =
      if tenantID ∈ s.core.tenants then
        msg.notificationID.toList.filter fun n => !ownsNotification tenantID s n
      else [] :=
  rfl

/-- An insert passes in both states or in none, if the notification it names is there
    in both or in none. -/
theorem accepts_alike_iff {msg : InAppMessage} {id : UUID} {now : Time}
    (fresh₁ : id ∉ s₁.inapp.rows.map (·.id)) (fresh₂ : id ∉ s₂.inapp.rows.map (·.id)) :
    (s₁.inapp.Accepts (inappRow tenantID msg id now) ↔
        s₂.inapp.Accepts (inappRow tenantID msg id now)) ↔
      ∀ n ∈ (Op.insertInApp .up msg id now).refers tenantID s₁,
        s₁.core.hasNotification n = s₂.core.hasNotification n := by
  have same : tenantID ∈ s₁.core.tenants ↔ tenantID ∈ s₂.core.tenants :=
    decide_eq_decide.mp (registered_agree agree)
  rw [accepts_inapp_iff fresh₁, accepts_inapp_iff fresh₂, refers_insertInApp, ← same]
  by_cases registered : tenantID ∈ s₁.core.tenants
  · cases named : msg.notificationID with
    | none => simp [registered]
    | some n =>
        cases own : ownsNotification tenantID s₁ n with
        | true =>
            have own₂ : ownsNotification tenantID s₂ n = true :=
              ownsNotification_agree agree n ▸ own
            simp [registered, own, hasNotification_of_owns own, hasNotification_of_owns own₂]
        | false =>
            have alike : (s₁.core.hasNotification n = true ↔ s₂.core.hasNotification n = true) ↔
                s₁.core.hasNotification n = s₂.core.hasNotification n := Bool.eq_iff_iff.symm
            simp [registered, own, alike]
  · simp [registered]

end InApp

/-! ## Device tokens -/

section DeviceTokens

variable (agree : view tenantID s₁ = view tenantID s₂)

include agree

theorem deviceTokens_agree :
    s₁.deviceTokens.rows.filter (owns tenantID .deviceTokens) =
      s₂.deviceTokens.rows.filter (owns tenantID .deviceTokens) :=
  rows_agree agree .deviceTokens

omit agree in
theorem own_of_tokenAt {token : String} (t : DeviceTokenRow)
    (hit : tokenAt tenantID token t = true) : owns tenantID .deviceTokens t = true :=
  ((Bool.and_eq_true _ _).mp hit).1

omit agree in
theorem own_of_activeTokenOf {userID : String} (t : DeviceTokenRow)
    (hit : activeTokenOf tenantID userID t = true) : owns tenantID .deviceTokens t = true := by
  simp only [activeTokenOf, Bool.and_eq_true] at hit
  exact hit.1.1

theorem listTokens_isolated (conn : Conn) (userID : String) :
    Isolated (view tenantID) (rest tenantID) ((Op.listTokens conn userID).exec tenantID)
      s₁ s₂ := by
  have listed : listActiveDeviceTokensByUser s₁.deviceTokens.rows tenantID userID =
      listActiveDeviceTokensByUser s₂.deviceTokens.rows tenantID userID := by
    unfold listActiveDeviceTokensByUser
    rw [filter_congr (deviceTokens_agree agree) own_of_activeTokenOf]
  apply read_isolated agree _ rfl rfl
  simp only [Op.exec, DeviceTokenRepository.listActiveByUser, listed]

theorem deactivateToken_isolated (conn : Conn) (token : String) (now : Time) :
    Isolated (view tenantID) (rest tenantID) ((Op.deactivateToken conn token now).exec tenantID)
      s₁ s₂ := by
  cases conn with
  | down => exact read_isolated agree rfl rfl rfl
  | up =>
      have acts : ∀ s, Acts tenantID ((Op.deactivateToken .up token now).exec tenantID)
          .deviceTokens
          (fun r => (.done (.ok ()),
            updateWhere (tokenAt tenantID token) (retireToken s₁.core now).set r)) s :=
        fun s => Acts.of_replaced (.deviceTokens s _) rfl rfl
      have keeps : ∀ t, owns tenantID .deviceTokens ((retireToken s₁.core now).set t) =
          owns tenantID .deviceTokens t := fun _ => rfl
      exact Acts.isolated (Private.update own_of_tokenAt keeps _) (acts s₁) (acts s₂) agree

omit agree in
theorem owner_of_deviceTokenRow {req : RegisterDeviceTokenRequest} {id : UUID} {now : Time}
    {row : DeviceTokenRow} (fits : deviceTokenRow tenantID req id now = some row) :
    row.id = id ∧ row.tenantID = tenantID := by
  simp only [deviceTokenRow, Option.bind_eq_bind, Option.bind_eq_some_iff] at fits
  obtain ⟨_, _, _, _, made⟩ := fits
  obtain rfl := Option.some.inj made
  exact ⟨rfl, rfl⟩

/-- The answer of Upsert to the answer of its statement. -/
def registered : Except SqlError DeviceTokenRow → Outcome
  | .error e => .token (.error e.err)
  | .ok row => .token (.ok (toDeviceToken row))

omit agree in
theorem upsertToken_executed (req : RegisterDeviceTokenRequest) (id : UUID) (now : Time) :
    (Op.upsertToken .up req id now).exec tenantID s =
      responded registered s (upsertDeviceToken s tenantID req id now) := by
  simp only [Op.exec, DeviceTokenRepository.upsert, Conn.exec]
  cases upsertDeviceToken s tenantID req id now <;> rfl

omit agree in
theorem upsertToken_acts {req : RegisterDeviceTokenRequest} {id : UUID} {now : Time}
    {row : DeviceTokenRow} (db : Database) (fits : deviceTokenRow tenantID req id now = some row)
    (known : knownPlatform row.platform = true) (fresh : id ∉ s.deviceTokens.rows.map (·.id)) :
    Acts tenantID ((Op.upsertToken .up req id now).exec tenantID) .deviceTokens
      (fun r =>
        (registered (upsertRows DeviceTokenRow.key row (reassignToken db row now known).set
            (decide (tenantID ∈ s.core.tenants)) r).1,
          (upsertRows DeviceTokenRow.key row (reassignToken db row now known).set
            (decide (tenantID ∈ s.core.tenants)) r).2)) s := by
  obtain ⟨rowID, owner⟩ := owner_of_deviceTokenRow fits
  have decides : decide (DeviceTokenRow.Valid s.core row) = decide (tenantID ∈ s.core.tenants) := by
    simp [DeviceTokenRow.Valid, owner, known]
  have leaves : Leaves (upsertRow s.deviceTokens row (reassignToken s.core row now known))
      s.deviceTokens.rows (upsertRows DeviceTokenRow.key row (reassignToken db row now known).set
        (decide (tenantID ∈ s.core.tenants)) s.deviceTokens.rows) := by
    rw [← decides]
    exact upsertRow_leaves (rowID ▸ fresh)
  have stored : Stored .deviceTokens s
      (upsertRows DeviceTokenRow.key row (reassignToken db row now known).set
        (decide (tenantID ∈ s.core.tenants)) s.deviceTokens.rows)
      (upsertDeviceToken s tenantID req id now) := by
    simp only [upsertDeviceToken, fits, known, dite_true]
    cases result : upsertRow s.deviceTokens row (reassignToken s.core row now known) with
    | error e => exact (result ▸ leaves :)
    | ok stored => exact ⟨.deviceTokens s _, (result ▸ leaves :)⟩
  exact Acts.of_stored (upsertToken_executed req id now) stored

theorem upsertToken_isolated {conn : Conn} {req : RegisterDeviceTokenRequest} {id : UUID}
    {now : Time} (fresh₁ : id ∉ s₁.deviceTokens.rows.map (·.id))
    (fresh₂ : id ∉ s₂.deviceTokens.rows.map (·.id)) :
    Isolated (view tenantID) (rest tenantID) ((Op.upsertToken conn req id now).exec tenantID)
      s₁ s₂ := by
  -- A value that the columns refuse is refused in every state.
  have refused : ∀ e, (∀ s, upsertDeviceToken s tenantID req id now = .error e) →
      Isolated (view tenantID) (rest tenantID) ((Op.upsertToken .up req id now).exec tenantID)
        s₁ s₂ := by
    intro e fails
    have left : ∀ s, (Op.upsertToken .up req id now).exec tenantID s =
        (registered (.error e), s) := by
      intro s
      rw [upsertToken_executed, fails]
      rfl
    exact read_isolated agree (by rw [left, left]) (by rw [left]) (by rw [left])
  cases conn with
  | down => exact read_isolated agree rfl rfl rfl
  | up =>
      cases fits : deviceTokenRow tenantID req id now with
      | none =>
          apply refused
          intro s
          simp only [upsertDeviceToken, fits]
          rfl
      | some row =>
          cases known : knownPlatform row.platform with
          | false =>
              apply refused
              intro s
              simp only [upsertDeviceToken, fits, known]
              rfl
          | true =>
              obtain ⟨_, owner⟩ := owner_of_deviceTokenRow fits
              have own : owns tenantID .deviceTokens row = true := by simp [owns, owner]
              have owned : ∀ other : DeviceTokenRow, other.key = row.key →
                  owns tenantID .deviceTokens other = true := by
                intro other same
                simp only [DeviceTokenRow.key, Option.some.injEq, Prod.mk.injEq] at same
                simp [owns, same.1, owner]
              have acts₁ := upsertToken_acts s₁.core fits known fresh₁
              have acts₂ := upsertToken_acts s₁.core fits known fresh₂
              rw [← registered_agree agree] at acts₂
              have keeps : ∀ t, owns tenantID .deviceTokens
                  ((reassignToken s₁.core row now known).set t) = owns tenantID .deviceTokens t :=
                fun _ => rfl
              exact Acts.isolated ((upsertRows_private own owned keeps).map registered)
                acts₁ acts₂ agree

end DeviceTokens

end TwoStates

end NotifyHub.Isolation.Stores
