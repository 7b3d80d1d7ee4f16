import NotifyHub.Lib.Window
import NotifyHub.PreferenceService

/-! # Quiet hours by the wall clock

`inQuietHours` turns both ends of the quiet hours into instants of today and compares these
with the present instant. The user means times of the wall clock. On a day on which the
offset changes, instants and times of the wall clock can come in different orders: the wall
clock shows an hour twice, or leaves one out.

`time.Date` is any function here. Go documents it for readings that the wall clock shows:
it gives one of the instants at which it does. What the code makes of the quiet hours can then
be said with offsets alone: it moves each end by the change of the offset between then and now.
-/

namespace NotifyHub

open Window (Turned)

/-- A location, with what `time.Date` makes of readings of its wall clock. -/
structure Clock where
  offset : Location
  date : Int → Int

namespace Clock

/-- A reading that the wall clock shows is that of the instant that `time.Date` gives. -/
def Lawful (clock : Clock) : Prop :=
  ∀ unix, clock.date (unix + clock.offset unix) +
    clock.offset (clock.date (unix + clock.offset unix)) = unix + clock.offset unix

/-- With Go's algorithm for `time.Date`. -/
def go (loc : Location) : Clock := ⟨loc, loc.date⟩

def utc : Clock := go .utc

/-- The reading of the wall clock, in seconds as if it were UTC. -/
def wall (clock : Clock) (now : Time) : Int := now / second + clock.offset (now / second)

/-- The time of the day in seconds. -/
def timeOfDay (clock : Clock) (now : Time) : Int := clock.wall now % 86400

/-- `time.Date` of a time of today. -/
def today (clock : Clock) (now : Time) (t : TimeOfDay) : Time :=
  clock.date (clock.wall now / 86400 * 86400 + 60 * t.val) * second

def inQuietHours (clock : Clock) (now : Time) (start stop : String) : Bool :=
  match parseTimeOfDay start, parseTimeOfDay stop with
  | some s, some e =>
      if clock.today now s ≤ clock.today now e then
        decide (clock.today now s ≤ now) && decide (now < clock.today now e)
      else decide (clock.today now s ≤ now) || decide (now < clock.today now e)
  | _, _ => false

/-- The wall clock shows a time from `s` up to `e`. -/
def Quiet (clock : Clock) (now : Time) (s e : TimeOfDay) : Prop :=
  Window.InCycle (60 * (s.val : Int)) (60 * e.val) (clock.timeOfDay now)

instance (clock : Clock) (now : Time) (s e : TimeOfDay) : Decidable (clock.Quiet now s e) :=
  inferInstanceAs (Decidable (Window.InCycle _ _ _))

end Clock

namespace Location

/-- The wall clock shows the reading at an instant with this offset. -/
def Shows (loc : Location) (reading offset : Int) : Prop := loc (reading - offset) = offset

/-- The offsets that `time.Date` may take for a reading. For one that the wall clock leaves out it
    may take any. -/
def Taken (loc : Location) (reading offset : Int) : Prop :=
  loc.Shows reading offset ∨ ∀ other, ¬loc.Shows reading other

/-- The reading of the wall clock at the last midnight. -/
def midnight (loc : Location) (now : Time) : Int :=
  (now / second + loc (now / second)) / 86400 * 86400

def timeOfDay (loc : Location) (now : Time) : Int := (now / second + loc (now / second)) % 86400

/-- A time of today, moved by how far the offset then is from that of now. -/
def moved (loc : Location) (now : Time) (t : TimeOfDay) (c : Int) : Int :=
  60 * t.val + (loc (now / second) - c)

/-- Start and end change their order by being moved exactly if one of them, and not the other,
    passes the time of the day. -/
def Steady (loc : Location) (now : Time) (s e : TimeOfDay) : Prop :=
  s ≠ e → ∀ c c', loc.Taken (loc.midnight now + 60 * s.val) c →
    loc.Taken (loc.midnight now + 60 * e.val) c' →
    (Turned (60 * (s.val : Int)) (60 * e.val) (loc.moved now s c) (loc.moved now e c') ↔
      ¬(Turned (60 * (s.val : Int)) (loc.timeOfDay now) (loc.moved now s c) (loc.timeOfDay now) ↔
        Turned (60 * (e.val : Int)) (loc.timeOfDay now) (loc.moved now e c') (loc.timeOfDay now)))

end Location

theorem inQuietHours_eq_go (zones : Zones) (now : Time) (start stop timezone : String) :
    inQuietHours zones now start stop timezone =
      (Clock.go ((zones timezone).getD .utc)).inQuietHours now start stop :=
  rfl

/-- IsAllowed, with any locations. -/
def PreferenceService.isAllowedOn (clocks : String → Option Clock) (conn : Conn) (s : Storage)
    (tenantID : UUID) (userID : String) (channel : Channel) (now : Time) :
    Except AppError (Bool × String) :=
  match PreferenceRepository.get conn s tenantID userID channel with
  | .error e => if e.code = .notFound then .ok (true, "") else .error e
  | .ok pref =>
      if pref.enabled then
        match pref.quietHoursStart, pref.quietHoursEnd with
        | some start, some stop =>
            if ((clocks pref.timezone).getD .utc).inQuietHours now start stop then
              .ok (false, "quiet hours active")
            else .ok (true, "")
        | _, _ => .ok (true, "")
      else .ok (false, "channel disabled by user")

theorem isAllowed_eq_go (zones : Zones) (conn : Conn) (s : Storage) (tenantID : UUID)
    (userID : String) (channel : Channel) (now : Time) :
    PreferenceService.isAllowed zones conn s tenantID userID channel now =
      PreferenceService.isAllowedOn (fun timezone => (zones timezone).map Clock.go) conn s tenantID
        userID channel now := by
  have known : ∀ timezone, ((zones timezone).map Clock.go).getD .utc =
      Clock.go ((zones timezone).getD .utc) := by
    intro timezone
    cases zones timezone with
    | none => rfl
    | some loc => rfl
  simp only [PreferenceService.isAllowed, PreferenceService.isAllowedOn, known, inQuietHours_eq_go]
  rfl

section

variable {clock : Clock} {now : Time} {s e : TimeOfDay}

theorem inCycle_seconds (x y now : Int) :
    Window.InCycle (x * second) (y * second) now ↔ Window.InCycle x y (now / second) := by
  unfold Window.InCycle second
  split_ifs <;> omega

/-- Readings and the time of the day, for instants. -/
theorem inCycle_instants (unix here x y c c' : Int) :
    Window.InCycle ((unix + here) / 86400 * 86400 + x - c)
        ((unix + here) / 86400 * 86400 + y - c') unix ↔
      Window.InCycle (x + (here - c)) (y + (here - c')) ((unix + here) % 86400) := by
  unfold Window.InCycle
  split_ifs <;> omega

/-- With the offsets that `time.Date` takes for the ends. -/
theorem inQuietHours_iff {start stop : String} {c c' : Int} (starts : parseTimeOfDay start = some s)
    (stops : parseTimeOfDay stop = some e)
    (begins : clock.date (clock.offset.midnight now + 60 * s.val) =
      clock.offset.midnight now + 60 * s.val - c)
    (ends : clock.date (clock.offset.midnight now + 60 * e.val) =
      clock.offset.midnight now + 60 * e.val - c') :
    clock.inQuietHours now start stop = true ↔
      Window.InCycle (clock.offset.moved now s c) (clock.offset.moved now e c')
        (clock.offset.timeOfDay now) := by
  have code : clock.inQuietHours now start stop = true ↔
      Window.InCycle (clock.today now s) (clock.today now e) now := by
    simp only [Clock.inQuietHours, starts, stops, Window.InCycle]
    split <;> simp
  have early : clock.today now s = (clock.offset.midnight now + 60 * s.val - c) * second :=
    congrArg (· * second) begins
  have late : clock.today now e = (clock.offset.midnight now + 60 * e.val - c') * second :=
    congrArg (· * second) ends
  rw [code, early, late, inCycle_seconds]
  exact inCycle_instants (now / second) (clock.offset (now / second)) _ _ _ _

/-- A lawful `time.Date` takes one of the offsets that it may take. -/
theorem Clock.Lawful.taken (lawful : clock.Lawful) (reading : Int) :
    clock.offset.Taken reading (reading - clock.date reading) := by
  by_cases shown : ∃ c, clock.offset.Shows reading c
  · obtain ⟨c, shows⟩ := shown
    have law := lawful (reading - c)
    rw [shows, Int.sub_add_cancel] at law
    left
    unfold Location.Shows
    rw [Int.sub_sub_self]
    omega
  · exact .inr fun other shows => shown ⟨other, shows⟩

/-- Any two of them are taken by some lawful `time.Date`. -/
theorem Location.exists_lawful (loc : Location) {r r' c c' : Int} (apart : r ≠ r')
    (first : loc.Taken r c) (second : loc.Taken r' c') :
    ∃ date, Clock.Lawful ⟨loc, date⟩ ∧ date r = r - c ∧ date r' = r' - c' := by
  classical
  let offsets : Int → Int := fun reading =>
    if reading = r then c else if reading = r' then c'
    else if shown : ∃ d, loc.Shows reading d then shown.choose else 0
  refine ⟨fun reading => reading - offsets reading, ?_, by simp [offsets], by simp [offsets, apart.symm]⟩
  intro unix
  have shown : loc.Shows (unix + loc unix) (loc unix) := by
    unfold Location.Shows
    rw [Int.add_sub_cancel]
  have takes : loc.Shows (unix + loc unix) (offsets (unix + loc unix)) := by
    dsimp only [offsets]
    split_ifs with one other some_
    · rw [one] at shown ⊢
      exact first.resolve_right fun nothing => nothing _ shown
    · rw [other] at shown ⊢
      exact second.resolve_right fun nothing => nothing _ shown
    · exact some_.choose_spec
    · exact absurd ⟨_, shown⟩ some_
  unfold Location.Shows at takes
  dsimp only
  rw [takes, Int.sub_add_cancel]

theorem isAllowedOn_quiet_iff {clocks : String → Option Clock} {st : Storage} {tenantID : UUID}
    {userID : String} {channel : Channel} {row : PreferenceRow}
    (stored : getPreference st.preferences.rows tenantID userID channel = .ok row)
    (enabled : row.enabled = true) (starts : row.quietHoursStart = some s)
    (stops : row.quietHoursEnd = some e) :
    PreferenceService.isAllowedOn clocks .up st tenantID userID channel now =
        .ok (false, "quiet hours active") ↔
      ((clocks (row.timezone.getD "UTC")).getD .utc).inQuietHours now (formatTimeOfDay s)
        (formatTimeOfDay e) = true := by
  have found : PreferenceRepository.get .up st tenantID userID channel =
      .ok (dbPreferenceToDomain row) := by
    simp [PreferenceRepository.get, Conn.exec, stored]
  simp only [PreferenceService.isAllowedOn, found, dbPreferenceToDomain, enabled, starts, stops,
    if_true, Option.map_some]
  split <;> simp_all

end

/-- Quiet hours are those of the wall clock, whichever of the instants with a reading `time.Date`
    gives, if and only if the offsets of now and of the two ends are steady. -/
theorem quiet_hours_of_wall_clock_iff (loc : Location) (now : Time) (s e : TimeOfDay) :
    (∀ clock : Clock, clock.offset = loc → clock.Lawful →
      (∀ start stop, parseTimeOfDay start = some s → parseTimeOfDay stop = some e →
        (clock.inQuietHours now start stop = true ↔ clock.Quiet now s e)) ∧
      ∀ clocks st tenantID userID channel row,
        getPreference st.preferences.rows tenantID userID channel = .ok row →
        row.enabled = true → row.quietHoursStart = some s → row.quietHoursEnd = some e →
        (clocks (row.timezone.getD "UTC")).getD .utc = clock →
        (PreferenceService.isAllowedOn clocks .up st tenantID userID channel now =
          .ok (false, "quiet hours active") ↔ clock.Quiet now s e)) ↔
      loc.Steady now s e := by
  constructor
  · intro follows apart c c' begins ends
    have readings : loc.midnight now + 60 * (s.val : Int) ≠ loc.midnight now + 60 * e.val := by
      intro same
      exact apart (Fin.ext (by omega))
    obtain ⟨date, lawful, first, second⟩ := loc.exists_lawful readings begins ends
    have function := (follows ⟨loc, date⟩ rfl lawful).1 _ _ (parse_format s) (parse_format e)
    refine (Window.inCycle_moved_iff _ _ _ _ _).mp (Iff.trans (Iff.symm ?_) function)
    exact inQuietHours_iff (parse_format s) (parse_format e) first second
  · rintro steady clock rfl lawful
    have asked : ∀ start stop, parseTimeOfDay start = some s → parseTimeOfDay stop = some e →
        (clock.inQuietHours now start stop = true ↔ clock.Quiet now s e) := by
      intro start stop starts stops
      rw [inQuietHours_iff starts stops (Int.sub_sub_self _ _).symm (Int.sub_sub_self _ _).symm]
      by_cases same : s = e
      · subst same
        simp only [Window.InCycle, Clock.Quiet, le_refl, if_true]
        omega
      · exact (Window.inCycle_moved_iff _ _ _ _ _).mpr
          (steady same _ _ (lawful.taken _) (lawful.taken _))
    refine ⟨asked, ?_⟩
    rintro clocks st tenantID userID channel row stored enabled starts stops rfl
    rw [isAllowedOn_quiet_iff stored enabled starts stops]
    exact asked _ _ (parse_format s) (parse_format e)

/-- So where both ends are shown with the offset of now only. -/
theorem Location.steady_of_same_offset {loc : Location} {now : Time} {s e : TimeOfDay}
    (same : ∀ t ∈ [s, e], ∀ c, loc.Taken (loc.midnight now + 60 * t.val) c → c = loc (now / second)) :
    loc.Steady now s e := by
  intro _ c c' begins ends
  rw [same s (by simp) c begins, same e (by simp) c' ends]
  simp [Location.moved, Turned]

/-- Central Europe on 29 October 2023: at 03:00 the clocks go back to 02:00. -/
def backAnHour : Location := fun unix => if unix < 1698541200 then 7200 else 3600

theorem backAnHour_lawful : (Clock.go backAnHour).Lawful := by
  intro unix
  simp only [Clock.go, Location.date, backAnHour]
  split_ifs <;> omega

/-- The first 02:30 of that day, with quiet hours from 02:15 to 02:45. Both ends are taken for the
    second time that the wall clock shows them. -/
theorem awake_at_first_half_past_two :
    (Clock.go backAnHour).Lawful ∧
      (Clock.go backAnHour).timeOfDay (1698539400 * second) = 2 * 3600 + 30 * 60 ∧
      ¬((Clock.go backAnHour).inQuietHours (1698539400 * second) "02:15" "02:45" = true ↔
        (Clock.go backAnHour).Quiet (1698539400 * second) 135 165) :=
  ⟨backAnHour_lawful, by decide +kernel, by decide +kernel⟩

end NotifyHub
