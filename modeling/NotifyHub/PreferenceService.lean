import NotifyHub.Stores.PreferenceRepository

/-! # `preferenceService.IsAllowed`

Whether a notification may be delivered to a user on a channel, by the stored
preference and the time of day.
-/

namespace NotifyHub

/-- A `time.Location`: the offset from UTC in seconds, at each second since the epoch. -/
abbrev Location := Int → Int

def Location.utc : Location := fun _ => 0

/-- `time.Date` of a wall clock reading, in seconds as if it were UTC. Go looks the offset
    up at the reading, and once more at the instant it then gets. -/
def Location.date (loc : Location) (wall : Int) : Int := wall - loc (wall - loc wall)

/-- `time.LoadLocation`. -/
abbrev Zones := String → Option Location

def inQuietHours (zones : Zones) (now : Time) (start stop timezone : String) : Bool :=
  let loc := (zones timezone).getD .utc
  match parseTimeOfDay start, parseTimeOfDay stop with
  | some s, some e =>
      let unix := now / second
      -- the last midnight of the wall clock
      let today := (unix + loc unix) / 86400 * 86400
      let startToday := loc.date (today + 60 * s.val) * second
      let endToday := loc.date (today + 60 * e.val) * second
      if startToday ≤ endToday then decide (startToday ≤ now) && decide (now < endToday)
      else decide (startToday ≤ now) || decide (now < endToday)
  | _, _ => false

namespace PreferenceService

/-- The cap on the frequency is not looked at. -/
def isAllowed (zones : Zones) (conn : Conn) (s : Storage) (tenantID : UUID) (userID : String)
    (channel : Channel) (now : Time) : Except AppError (Bool × String) :=
  match PreferenceRepository.get conn s tenantID userID channel with
  | .error e => if e.code = .notFound then .ok (true, "") else .error e
  | .ok pref =>
      if pref.enabled then
        match pref.quietHoursStart, pref.quietHoursEnd with
        | some start, some stop =>
            if inQuietHours zones now start stop pref.timezone then
              .ok (false, "quiet hours active")
            else .ok (true, "")
        | _, _ => .ok (true, "")
      else .ok (false, "channel disabled by user")

end PreferenceService

section

variable {zones : Zones} {s : Storage} {tenantID : UUID} {userID : String} {channel : Channel}
  {row : PreferenceRow}

theorem isAllowed_of_disabled
    (stored : getPreference s.preferences.rows tenantID userID channel = .ok row)
    (disabled : row.enabled = false) (now : Time) :
    PreferenceService.isAllowed zones .up s tenantID userID channel now =
      .ok (false, "channel disabled by user") := by
  simp [PreferenceService.isAllowed, PreferenceRepository.get, Conn.exec, stored,
    dbPreferenceToDomain, disabled]

/-- An instant outside the quiet hours, for a server without time zones. -/
def wake (row : PreferenceRow) : Time :=
  match row.quietHoursEnd with
  | some e => 60 * e.val * second
  | none => 0

/-- The end of the quiet hours is not one of them. -/
theorem not_quiet_at_end (s e : TimeOfDay) (timezone : String) :
    inQuietHours (fun _ => none) (60 * e.val * second) (formatTimeOfDay s) (formatTimeOfDay e)
      timezone = false := by
  have bound := e.isLt
  have unix : (60 * (e.val : Int) * second) / second = 60 * e.val := by
    simp only [second]
    omega
  have today : (60 * (e.val : Int) + 0) / 86400 * 86400 = 0 := by omega
  simp only [inQuietHours, parse_format, Option.getD_none, Location.utc, unix, today,
    Location.date, Int.sub_zero, Int.zero_add]
  split
  · simp
  · rename_i later
    simp
    omega

theorem isAllowed_at_wake
    (stored : getPreference s.preferences.rows tenantID userID channel = .ok row)
    (enabled : row.enabled = true) :
    PreferenceService.isAllowed (fun _ => none) .up s tenantID userID channel (wake row) =
      .ok (true, "") := by
  have found : PreferenceRepository.get .up s tenantID userID channel =
      .ok (dbPreferenceToDomain row) := by
    simp [PreferenceRepository.get, Conn.exec, stored]
  simp only [PreferenceService.isAllowed, found, dbPreferenceToDomain, enabled, if_true]
  cases start : row.quietHoursStart with
  | none => simp
  | some s =>
      cases stop : row.quietHoursEnd with
      | none => simp
      | some e => simp [wake, stop, not_quiet_at_end]

end

end NotifyHub
