import NotifyHub.NotificationService
import NotifyHub.PreferenceService

/-! # Writing and reading preferences

What Get and ListByUser give after an Upsert, in any state that earlier calls have led to.
The integers of a request are 64 bits wide, those of the table 32. Text that is too long for
its column by spaces only is cut.
-/

namespace NotifyHub

namespace PreferenceService

/-! ## The service -/

def datetimeRule (field : String) : Option String → List (String × String)
  | none => []
  | some value => if (parseTimeOfDay value).isSome then [] else [(field, "datetime")]

def minRule (field : String) : Option Int → List (String × String)
  | none => []
  | some value => if value < 1 then [(field, "min")] else []

def validateUpsert (req : UpsertPreferenceRequest) : Except AppError Unit :=
  NotificationService.toValidationError
    (datetimeRule "QuietHoursStart" req.quietHoursStart ++
      datetimeRule "QuietHoursEnd" req.quietHoursEnd ++ minRule "FrequencyCap" req.frequencyCap ++
      minRule "FrequencyWindowMinutes" req.frequencyWindowMinutes)

def upsert (conn : Conn) (s : Storage) (tenantID : UUID) (userID : String) (channel : Channel)
    (req : UpsertPreferenceRequest) (id : UUID) (now : Time) :
    Except AppError (Preference × Storage) := do
  validateUpsert req
  PreferenceRepository.upsert conn s tenantID userID channel req id now

end PreferenceService

/-- A call that writes preferences. -/
inductive PreferenceCall where
  | upsert (conn : Conn) (tenantID : UUID) (userID : String) (channel : Channel)
      (req : UpsertPreferenceRequest) (id : UUID) (now : Time)
  | delete (conn : Conn) (tenantID : UUID) (userID : String) (channel : Channel)

/-- The state after a call, which is as before if the call fails. -/
def PreferenceCall.perform (s : Storage) : PreferenceCall → Storage
  | .upsert conn tenantID userID channel req id now =>
      match PreferenceService.upsert conn s tenantID userID channel req id now with
      | .ok (_, s') => s'
      | .error _ => s
  | .delete conn tenantID userID channel =>
      match PreferenceRepository.delete conn s tenantID userID channel with
      | .ok s' => s'
      | .error _ => s

/-- The state after some calls, on a table that was empty. -/
def afterCalls (core : Database) (calls : List PreferenceCall) : Storage :=
  calls.foldl PreferenceCall.perform (.ofCore core)

/-- The preference is the one that the request asks for. -/
structure Preference.Matches (p : Preference) (req : UpsertPreferenceRequest) : Prop where
  enabled : p.enabled = req.enabled
  quietHoursStart : p.quietHoursStart.map parseTimeOfDay = req.quietHoursStart.map parseTimeOfDay
  quietHoursEnd : p.quietHoursEnd.map parseTimeOfDay = req.quietHoursEnd.map parseTimeOfDay
  frequencyCap : ∀ n ∈ req.frequencyCap, p.frequencyCap = some n
  frequencyWindowMinutes : ∀ n ∈ req.frequencyWindowMinutes, p.frequencyWindowMinutes = n
  timezone : p.timezone = req.timezone.getD "UTC"

/-- What Get and ListByUser have to give after an Upsert that led from `s` to `s'`. -/
structure ReadsBack (s s' : Storage) (tenantID : UUID) (userID : String) (channel : Channel)
    (req : UpsertPreferenceRequest) : Prop where
  written : ∃ p listed, PreferenceRepository.get .up s' tenantID userID channel = .ok p ∧
    PreferenceRepository.listByUser .up s' tenantID userID = .ok listed ∧
    listed.filter (fun q => q.channel.text == channel.text) = [p] ∧ p.Matches req
  others : ∀ tenantID' userID' channel',
    (tenantID', userID', channel'.text) ≠ (tenantID, userID, channel.text) →
      PreferenceRepository.get .up s' tenantID' userID' channel' =
        PreferenceRepository.get .up s tenantID' userID' channel'
  otherUsers : ∀ tenantID' userID', (tenantID', userID') ≠ (tenantID, userID) →
    PreferenceRepository.listByUser .up s' tenantID' userID' =
      PreferenceRepository.listByUser .up s tenantID' userID'
  otherChannels : ∃ before after, PreferenceRepository.listByUser .up s tenantID userID = .ok before ∧
    PreferenceRepository.listByUser .up s' tenantID userID = .ok after ∧
    after.filter (fun q => !(q.channel.text == channel.text)) =
      before.filter fun q => !(q.channel.text == channel.text)

/-- The request can be stored as it is. -/
structure Storable (userID : String) (channel : Channel) (req : UpsertPreferenceRequest) : Prop where
  userID : userID.length ≤ 255
  channel : channel.text.length ≤ 50
  frequencyCap : ∀ n ∈ req.frequencyCap, n < 2 ^ 31
  frequencyWindowMinutes : ∀ n ∈ req.frequencyWindowMinutes, n < 2 ^ 31
  timezone : ∀ name ∈ req.timezone, name.length ≤ 100

/-! ## What a successful call has done -/

/-- The row that an Upsert leaves, under the texts that the columns took. -/
structure Upserted (s s' : Storage) (tenantID : UUID) (req : UpsertPreferenceRequest)
    (user chan : String) (zone : Option String) (stored : PreferenceRow) : Prop where
  inTable : stored ∈ s'.preferences.rows
  key : stored.key = some (tenantID, user, chan)
  enabled : stored.enabled = req.enabled
  quietHoursStart : stored.quietHoursStart = req.quietHoursStart.bind parseTimeOfDay
  quietHoursEnd : stored.quietHoursEnd = req.quietHoursEnd.bind parseTimeOfDay
  frequencyCap : stored.frequencyCap = req.frequencyCap.map int32
  frequencyWindowMinutes : stored.frequencyWindowMinutes = req.frequencyWindowMinutes.map int32
  timezone : stored.timezone = zone
  others : ∀ cond : PreferenceRow → Bool,
    (∀ p, cond p = true → p.key ≠ some (tenantID, user, chan)) →
      s'.preferences.rows.filter cond = s.preferences.rows.filter cond

section Upsert

variable {conn : Conn} {s s' : Storage} {tenantID : UUID} {userID : String} {channel : Channel}
  {req : UpsertPreferenceRequest} {id : UUID} {now : Time} {pref : Preference}
  {user chan : String} {zone : Option String} {stored : PreferenceRow}
  {cond : PreferenceRow → Bool}

theorem UpsertPreferenceParams.row_some {p : UpsertPreferenceParams} {row : PreferenceRow}
    (taken : p.row id now = some row) :
    ∃ user chan zone, varchar 255 p.userID = some user ∧ varchar 50 p.channel.text = some chan ∧
      varcharOpt 100 p.timezone = some zone ∧
      row =
        { id := id
          tenantID := some p.tenantID
          userID := user
          channel := .ofText chan
          enabled := p.enabled
          quietHoursStart := p.quietHoursStart
          quietHoursEnd := p.quietHoursEnd
          frequencyCap := p.frequencyCap
          frequencyWindowMinutes := p.frequencyWindowMinutes
          timezone := zone
          createdAt := now
          updatedAt := now } := by
  simp only [UpsertPreferenceParams.row, Option.bind_eq_bind, Option.bind_eq_some_iff,
    Option.pure_def, Option.some.injEq] at taken
  obtain ⟨user, user_, chan, chan_, zone, zone_, rfl⟩ := taken
  exact ⟨user, chan, zone, user_, chan_, zone_, rfl⟩

theorem PreferenceRepository.upsert_ok
    (done : PreferenceRepository.upsert conn s tenantID userID channel req id now = .ok (pref, s')) :
    ∃ user chan zone stored, varchar 255 userID = some user ∧ varchar 50 channel.text = some chan ∧
      varcharOpt 100 req.timezone = some zone ∧
      Upserted s s' tenantID req user chan zone stored := by
  cases conn with
  | down => cases done
  | up =>
      simp only [upsert, Conn.exec, upsertPreference] at done
      cases taken : (upsertParams tenantID userID channel req).row id now with
      | none => simp [taken] at done
      | some row =>
          cases outcome : upsertRow s.preferences row (replacePreference s.core row now) with
          | error e => simp [taken, outcome] at done
          | ok result =>
              obtain ⟨stored, preferences⟩ := result
              simp only [taken, outcome, Except.ok.injEq, Prod.mk.injEq] at done
              obtain ⟨-, rfl⟩ := done
              obtain ⟨inTable, key, content, others⟩ := upsertRow_ok outcome
              obtain ⟨user, chan, zone, user_, chan_, zone_, rfl⟩ :=
                UpsertPreferenceParams.row_some taken
              refine ⟨user, chan, zone, stored, user_, chan_, zone_, ?_⟩
              have key_ : stored.key = some (tenantID, user, chan) := by
                rw [key, PreferenceRow.key, Channel.text_ofText]
                rfl
              -- the new row and the changed one have the same content
              rw [← key, key_] at others
              rcases content with rfl | ⟨old, _, rfl⟩
              · exact ⟨inTable, key_, rfl, rfl, rfl, rfl, rfl, rfl, others⟩
              · exact ⟨inTable, key_, rfl, rfl, rfl, rfl, rfl, rfl, others⟩

theorem PreferenceRow.key_iff {p : PreferenceRow} {key : UUID × String × String} :
    p.key = some key ↔
      p.tenantID = some key.1 ∧ p.userID = key.2.1 ∧ p.channel.text = key.2.2 := by
  cases owner : p.tenantID with
  | none => simp [PreferenceRow.key, owner]
  | some t => simp [PreferenceRow.key, owner, Prod.ext_iff]

theorem preferenceAt_iff (p : PreferenceRow) :
    preferenceAt tenantID userID channel p = true ↔
      p.key = some (tenantID, userID, channel.text) := by
  simp [preferenceAt, PreferenceRow.key_iff, and_assoc]

theorem preferenceOf_iff (p : PreferenceRow) :
    preferenceOf tenantID userID p = true ↔ p.tenantID = some tenantID ∧ p.userID = userID := by
  simp [preferenceOf]

theorem get_of_key (s : Storage) (inTable : stored ∈ s.preferences.rows)
    (key : stored.key = some (tenantID, userID, channel.text)) :
    PreferenceRepository.get .up s tenantID userID channel = .ok (dbPreferenceToDomain stored) := by
  simp only [PreferenceRepository.get, Conn.exec, getPreference,
    s.preferences.find?_key inTable key preferenceAt_iff]

theorem get_of_missing (s : Storage)
    (missing : ∀ p ∈ s.preferences.rows, p.key ≠ some (tenantID, userID, channel.text)) :
    PreferenceRepository.get .up s tenantID userID channel =
      .error (newNotFoundError "preference not found") := by
  have none_ : s.preferences.rows.find? (preferenceAt tenantID userID channel) = none := by
    rw [List.find?_eq_none]
    intro p listed found
    exact missing p listed ((preferenceAt_iff p).mp found)
  simp only [PreferenceRepository.get, Conn.exec, getPreference, none_]

theorem listByUser_eq (s : Storage) : PreferenceRepository.listByUser .up s tenantID userID =
    .ok ((listPreferencesByUser s.preferences.rows tenantID userID).map dbPreferenceToDomain) :=
  rfl

/-- Two states with the same rows under some key give the same answers for it. -/
theorem get_congr
    (same : s'.preferences.rows.filter (preferenceAt tenantID userID channel) =
      s.preferences.rows.filter (preferenceAt tenantID userID channel)) :
    PreferenceRepository.get .up s' tenantID userID channel =
      PreferenceRepository.get .up s tenantID userID channel := by
  have found : s'.preferences.rows.find? (preferenceAt tenantID userID channel) =
      s.preferences.rows.find? (preferenceAt tenantID userID channel) := by
    rw [← List.head?_filter, same, List.head?_filter]
  simp only [PreferenceRepository.get, Conn.exec, getPreference, found]

theorem filter_listPreferencesByUser_perm (s : Storage) (tenantID : UUID) (userID : String)
    (cond : PreferenceRow → Bool) :
    ((listPreferencesByUser s.preferences.rows tenantID userID).filter cond).Perm
      (s.preferences.rows.filter fun p => cond p && preferenceOf tenantID userID p) := by
  rw [← List.filter_filter]
  exact (List.perm_insertionSort _ _).filter cond

theorem sorted_listPreferencesByUser (rows : List PreferenceRow) :
    (listPreferencesByUser rows tenantID userID).Pairwise
      fun a b => a.channel.text ≤ b.channel.text := by
  have total : Std.Total fun a b : PreferenceRow => a.channel.text ≤ b.channel.text :=
    ⟨fun a b => le_total _ _⟩
  have trans : IsTrans PreferenceRow fun a b => a.channel.text ≤ b.channel.text :=
    ⟨fun _ _ _ => le_trans⟩
  exact List.pairwise_insertionSort _ _

/-- A list of a user's preferences is determined by the rows: no two have one channel. -/
theorem filter_listPreferencesByUser_congr
    (same : s'.preferences.rows.filter (fun p => cond p && preferenceOf tenantID userID p) =
      s.preferences.rows.filter fun p => cond p && preferenceOf tenantID userID p) :
    (listPreferencesByUser s'.preferences.rows tenantID userID).filter cond =
      (listPreferencesByUser s.preferences.rows tenantID userID).filter cond := by
  have after := filter_listPreferencesByUser_perm s' tenantID userID cond
  have before := filter_listPreferencesByUser_perm s tenantID userID cond
  rw [same] at after
  refine (after.trans before.symm).eq_of_pairwise ?_
    ((sorted_listPreferencesByUser _).filter cond) ((sorted_listPreferencesByUser _).filter cond)
  intro a b first second le ge
  have here := List.mem_filter.mp (after.mem_iff.mp first)
  have there := List.mem_filter.mp (before.mem_iff.mp second)
  simp only [Bool.and_eq_true, preferenceOf_iff] at here there
  have text : a.channel.text = b.channel.text := le_antisymm le ge
  have key : a.key = some (tenantID, userID, b.channel.text) :=
    PreferenceRow.key_iff.mpr ⟨here.2.2.1, here.2.2.2, text⟩
  have key' : b.key = some (tenantID, userID, b.channel.text) :=
    PreferenceRow.key_iff.mpr ⟨there.2.2.1, there.2.2.2, rfl⟩
  exact s.preferences.unique.eq_of_mem here.1 there.1 key key'

/-- Where the columns took the texts as they were, only the content can differ. -/
theorem Upserted.readsBack (upserted : Upserted s s' tenantID req userID channel.text zone stored)
    (same : (dbPreferenceToDomain stored).Matches req) :
    ReadsBack s s' tenantID userID channel req := by
  have inUse : ∀ p : PreferenceRow,
      (p.channel.text == channel.text && preferenceOf tenantID userID p) = true ↔
        p.key = some (tenantID, userID, channel.text) := by
    intro p
    rw [Bool.and_eq_true, beq_iff_eq, preferenceOf_iff, PreferenceRow.key_iff]
    exact and_rotate
  refine ⟨⟨dbPreferenceToDomain stored, _, get_of_key s' upserted.inTable upserted.key,
    listByUser_eq s', ?_, same⟩, ?_, ?_, ⟨_, _, listByUser_eq s, listByUser_eq s', ?_⟩⟩
  · have alone := filter_listPreferencesByUser_perm s' tenantID userID
      fun p => p.channel.text == channel.text
    rw [s'.preferences.filter_key upserted.inTable upserted.key inUse] at alone
    rw [List.filter_map]
    exact congrArg (List.map dbPreferenceToDomain) (List.perm_singleton.mp alone)
  · intro tenantID' userID' channel' apart
    refine get_congr (upserted.others _ ?_)
    intro p chosen key
    rw [preferenceAt_iff, key] at chosen
    exact apart (Option.some.inj chosen).symm
  · intro tenantID' userID' apart
    have kept : (listPreferencesByUser s'.preferences.rows tenantID' userID').filter (fun _ => true) =
        (listPreferencesByUser s.preferences.rows tenantID' userID').filter fun _ => true := by
      refine filter_listPreferencesByUser_congr (upserted.others _ ?_)
      intro p chosen key
      simp only [Bool.true_and, preferenceOf_iff] at chosen
      obtain ⟨tenant, user, _⟩ := PreferenceRow.key_iff.mp key
      exact apart (Prod.ext (Option.some.inj (chosen.1.symm.trans tenant)) (chosen.2.symm.trans user))
    rw [List.filter_true, List.filter_true] at kept
    rw [listByUser_eq, listByUser_eq, kept]
  · rw [List.filter_map, List.filter_map]
    refine congrArg (List.map dbPreferenceToDomain)
      (filter_listPreferencesByUser_congr (upserted.others _ ?_))
    intro p chosen key
    rw [Bool.and_eq_true] at chosen
    have text := (PreferenceRow.key_iff.mp key).2.2
    have apart := chosen.1
    simp [dbPreferenceToDomain, text] at apart

/-! ## What the request and the row have in common -/

theorem valid_of_validateUpsert (valid : PreferenceService.validateUpsert req = .ok ()) :
    (∀ value ∈ req.quietHoursStart, ∃ t, parseTimeOfDay value = some t) ∧
      (∀ value ∈ req.quietHoursEnd, ∃ t, parseTimeOfDay value = some t) ∧
      (∀ n ∈ req.frequencyCap, 1 ≤ n) ∧ ∀ n ∈ req.frequencyWindowMinutes, 1 ≤ n := by
  have datetime : ∀ {field : String} {value : Option String},
      PreferenceService.datetimeRule field value = [] →
        ∀ text ∈ value, ∃ t, parseTimeOfDay text = some t := by
    rintro field _ passed text rfl
    simp only [PreferenceService.datetimeRule, ite_eq_left_iff, reduceCtorEq, imp_false,
      not_not] at passed
    exact Option.isSome_iff_exists.mp passed
  have min : ∀ {field : String} {value : Option Int},
      PreferenceService.minRule field value = [] → ∀ n ∈ value, 1 ≤ n := by
    rintro field _ passed n rfl
    simp only [PreferenceService.minRule, ite_eq_right_iff, reduceCtorEq, imp_false] at passed
    omega
  unfold PreferenceService.validateUpsert NotificationService.toValidationError at valid
  split at valid
  · rename_i passed
    simp only [List.append_eq_nil_iff] at passed
    exact ⟨datetime passed.1.1.1, datetime passed.1.1.2, min passed.1.2, min passed.2⟩
  · cases valid

theorem map_parse_format {value : Option String}
    (parses : ∀ text ∈ value, ∃ t, parseTimeOfDay text = some t) :
    ((value.bind parseTimeOfDay).map formatTimeOfDay).map parseTimeOfDay =
      value.map parseTimeOfDay := by
  cases value with
  | none => rfl
  | some text =>
      obtain ⟨t, parsed⟩ := parses text rfl
      simp [parsed, parse_format]

theorem map_int32_iff {value : Option Int} (positive : ∀ n ∈ value, 1 ≤ n) :
    (∀ n ∈ value, value.map int32 = some n) ↔ ∀ n ∈ value, n < 2 ^ 31 := by
  refine forall₂_congr ?_
  rintro n rfl
  rw [Option.map_some, Option.some.injEq, int32_eq_self_iff (positive n rfl)]

theorem varcharOpt_iff {limit : Nat} {value taken : Option String}
    (fits : varcharOpt limit value = some taken) (default : String) :
    taken.getD default = value.getD default ↔ ∀ text ∈ value, text.length ≤ limit := by
  cases value with
  | none =>
      obtain rfl := Option.some.inj fits
      simp
  | some text =>
      obtain ⟨kept, fits', rfl⟩ := Option.map_eq_some_iff.mp fits
      simpa using varchar_eq_self_iff fits'

theorem Upserted.matches_iff (upserted : Upserted s s' tenantID req user chan zone stored)
    (valid : PreferenceService.validateUpsert req = .ok ())
    (zone_ : varcharOpt 100 req.timezone = some zone) :
    (dbPreferenceToDomain stored).Matches req ↔
      (∀ n ∈ req.frequencyCap, n < 2 ^ 31) ∧ (∀ n ∈ req.frequencyWindowMinutes, n < 2 ^ 31) ∧
        ∀ name ∈ req.timezone, name.length ≤ 100 := by
  obtain ⟨starts, stops, capped, windowed⟩ := valid_of_validateUpsert valid
  have window : ∀ n ∈ req.frequencyWindowMinutes,
      ((req.frequencyWindowMinutes.map int32).getD 0 = n ↔
        req.frequencyWindowMinutes.map int32 = some n) := by
    intro n given
    simp [Option.mem_def.mp given]
  constructor
  · intro same
    refine ⟨?_, ?_, ?_⟩
    · rw [← map_int32_iff capped, ← upserted.frequencyCap]
      exact same.frequencyCap
    · rw [← map_int32_iff windowed]
      intro n given
      rw [← window n given, ← upserted.frequencyWindowMinutes]
      exact same.frequencyWindowMinutes n given
    · rw [← varcharOpt_iff zone_ "UTC", ← upserted.timezone]
      exact same.timezone
  · rintro ⟨cap, minutes, name⟩
    refine ⟨upserted.enabled, ?_, ?_, ?_, ?_, ?_⟩
    · simp only [dbPreferenceToDomain, upserted.quietHoursStart, map_parse_format starts]
    · simp only [dbPreferenceToDomain, upserted.quietHoursEnd, map_parse_format stops]
    · simp only [dbPreferenceToDomain, upserted.frequencyCap]
      exact (map_int32_iff capped).mpr cap
    · intro n given
      simp only [dbPreferenceToDomain, upserted.frequencyWindowMinutes]
      exact (window n given).mpr ((map_int32_iff windowed).mpr minutes n given)
    · simp only [dbPreferenceToDomain, upserted.timezone]
      exact (varcharOpt_iff zone_ "UTC").mpr name

end Upsert

/-! ## Runs -/

/-- The texts in the table fit their columns. -/
def Fitted (s : Storage) : Prop :=
  ∀ p ∈ s.preferences.rows, p.userID.length ≤ 255 ∧ p.channel.text.length ≤ 50

section Runs

variable {conn : Conn} {s s' : Storage} {tenantID : UUID} {userID : String} {channel : Channel}
  {req : UpsertPreferenceRequest} {id : UUID} {now : Time} {pref : Preference}

theorem PreferenceService.upsert_ok
    (done : PreferenceService.upsert conn s tenantID userID channel req id now = .ok (pref, s')) :
    PreferenceService.validateUpsert req = .ok () ∧
      PreferenceRepository.upsert conn s tenantID userID channel req id now = .ok (pref, s') := by
  unfold PreferenceService.upsert at done
  cases valid : PreferenceService.validateUpsert req with
  | error e =>
      rw [valid] at done
      cases done
  | ok passed => exact ⟨rfl, by rwa [valid] at done⟩

theorem Fitted.upsert (fitted : Fitted s)
    (done : PreferenceRepository.upsert conn s tenantID userID channel req id now = .ok (pref, s')) :
    Fitted s' := by
  obtain ⟨user, chan, zone, stored, user_, chan_, _, upserted⟩ := PreferenceRepository.upsert_ok done
  intro p listed
  by_cases same : p.key = some (tenantID, user, chan)
  · obtain ⟨_, ofUser, onChannel⟩ := PreferenceRow.key_iff.mp same
    rw [ofUser, onChannel]
    exact ⟨length_of_varchar user_, length_of_varchar chan_⟩
  · have kept := upserted.others (fun other => decide (other.key ≠ some (tenantID, user, chan)))
      fun other chosen => of_decide_eq_true chosen
    have before : p ∈ s.preferences.rows.filter
        fun other => decide (other.key ≠ some (tenantID, user, chan)) := by
      rw [← kept]
      exact List.mem_filter.mpr ⟨listed, decide_eq_true same⟩
    exact fitted p (List.mem_of_mem_filter before)

theorem Fitted.perform (fitted : Fitted s) (call : PreferenceCall) : Fitted (call.perform s) := by
  cases call with
  | upsert conn tenantID userID channel req id now =>
      simp only [PreferenceCall.perform]
      split
      · rename_i done
        exact fitted.upsert (PreferenceService.upsert_ok done).2
      · exact fitted
  | delete conn tenantID userID channel =>
      cases conn with
      | down => exact fitted
      | up => exact fun p listed => fitted p (List.mem_of_mem_filter listed)

theorem fitted_afterCalls (core : Database) (calls : List PreferenceCall) :
    Fitted (afterCalls core calls) := by
  unfold afterCalls
  induction calls using List.reverseRecOn with
  | nil => simp [Fitted, Storage.ofCore, Rows.Table.empty]
  | append_singleton before last ih =>
      rw [List.foldl_append]
      exact ih.perform last

end Runs

/-- After an Upsert that succeeds, the preference reads back as requested if and only if the
    request can be stored as it is. -/
theorem upsert_reads_back_iff (core : Database) (calls : List PreferenceCall) (tenantID : UUID)
    (userID : String) (channel : Channel) (req : UpsertPreferenceRequest) (id : UUID) (now : Time)
    (pref : Preference) (s' : Storage)
    (done : PreferenceService.upsert .up (afterCalls core calls) tenantID userID channel req id now =
      .ok (pref, s')) :
    ReadsBack (afterCalls core calls) s' tenantID userID channel req ↔
      Storable userID channel req := by
  obtain ⟨valid, written⟩ := PreferenceService.upsert_ok done
  have fitted := (fitted_afterCalls core calls).upsert written
  obtain ⟨user, chan, zone, stored, user_, chan_, zone_, upserted⟩ :=
    PreferenceRepository.upsert_ok written
  have content := upserted.matches_iff valid zone_
  constructor
  · rintro ⟨⟨p, listed, found, _, _, same⟩, _, _, _⟩
    -- what is found under the key has texts that fit
    have present : ∃ row ∈ s'.preferences.rows, row.key = some (tenantID, userID, channel.text) := by
      by_contra missing
      have none_ : ∀ row ∈ s'.preferences.rows, row.key ≠ some (tenantID, userID, channel.text) :=
        fun row inTable key => missing ⟨row, inTable, key⟩
      rw [get_of_missing s' none_] at found
      cases found
    obtain ⟨row, inTable, key⟩ := present
    obtain ⟨_, ofUser, onChannel⟩ := PreferenceRow.key_iff.mp key
    have fits := fitted row inTable
    rw [ofUser, onChannel] at fits
    obtain rfl := (varchar_eq_self_iff user_).mpr fits.1
    obtain rfl := (varchar_eq_self_iff chan_).mpr fits.2
    rw [get_of_key s' upserted.inTable upserted.key] at found
    obtain rfl := Except.ok.inj found
    obtain ⟨cap, minutes, name⟩ := content.mp same
    exact ⟨fits.1, fits.2, cap, minutes, name⟩
  · rintro ⟨userFits, channelFits, cap, minutes, name⟩
    obtain rfl := (varchar_eq_self_iff user_).mpr userFits
    obtain rfl := (varchar_eq_self_iff chan_).mpr channelFits
    exact upserted.readsBack (content.mpr ⟨cap, minutes, name⟩)

/-- Quiet at night, with a cap. -/
def nightly (cap : Int) : UpsertPreferenceRequest :=
  { enabled := true
    quietHoursStart := some "22:00"
    quietHoursEnd := some "7:30"
    frequencyCap := some cap
    frequencyWindowMinutes := some 60
    timezone := none }

theorem nightly_reads_back :
    ∃ pref s', PreferenceService.upsert .up (afterCalls (.ofTenants [7]) []) 7 "u1" .email (nightly 5) 1
        0 = .ok (pref, s') ∧
      ReadsBack (afterCalls (.ofTenants [7]) []) s' 7 "u1" .email (nightly 5) := by
  refine ⟨_, _, rfl, ?_⟩
  rw [upsert_reads_back_iff (.ofTenants [7]) [] 7 "u1" .email (nightly 5) 1 0 _ _ rfl]
  exact ⟨by decide, by decide, by decide, by decide, by decide⟩

/-- A cap of 2^32 + 1 is stored as a cap of 1. -/
theorem huge_cap_reads_back_as_one :
    ∃ pref s', PreferenceService.upsert .up (afterCalls (.ofTenants [7]) []) 7 "u1" .email
        (nightly 4294967297) 1 0 = .ok (pref, s') ∧
      (PreferenceRepository.get .up s' 7 "u1" .email).toOption.map (·.frequencyCap) =
        some (some 1) ∧
      ¬ReadsBack (afterCalls (.ofTenants [7]) []) s' 7 "u1" .email (nightly 4294967297) := by
  obtain ⟨pref, s', done, one⟩ : ∃ pref s',
      PreferenceService.upsert .up (afterCalls (.ofTenants [7]) []) 7 "u1" .email
        (nightly 4294967297) 1 0 = .ok (pref, s') ∧
      (PreferenceRepository.get .up s' 7 "u1" .email).toOption.map (·.frequencyCap) =
        some (some 1) := ⟨_, _, rfl, by decide +kernel⟩
  refine ⟨pref, s', done, one, ?_⟩
  rintro ⟨⟨p, _, found, _, _, same⟩, _, _, _⟩
  have asked : p.frequencyCap = some 4294967297 := same.frequencyCap _ rfl
  rw [found] at one
  simp [Except.toOption, asked] at one

end NotifyHub
