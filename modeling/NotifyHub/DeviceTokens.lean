import NotifyHub.Lib.LastWrite
import NotifyHub.NotificationService
import NotifyHub.Stores.DeviceTokenRepository

/-! # Device tokens

Which user of a tenant a token belongs to, over histories of Register and Deregister. The
table has one row for each token, which moves from user to user. A user id that is too long
for its column by spaces only is cut.
-/

namespace NotifyHub

open Rows

namespace DeviceTokenService

def platformRule (platform : String) : List (String × String) :=
  if platform = "" then [("Platform", "required")]
  else if knownPlatform platform then []
  else [("Platform", "oneof")]

def validateRegister (req : RegisterDeviceTokenRequest) : Except AppError Unit :=
  NotificationService.toValidationError
    (NotificationService.required "UserID" req.userID ++
      NotificationService.required "Token" req.token ++ platformRule req.platform)

def register (conn : Conn) (s : Storage) (tenantID : UUID) (req : RegisterDeviceTokenRequest)
    (id : UUID) (now : Time) : Except AppError (DeviceToken × Storage) :=
  match validateRegister req with
  | .error e => .error e
  | .ok () =>
      match DeviceTokenRepository.upsert conn s tenantID req id now with
      | .error _ => .error (newInternalError "failed to register device token")
      | .ok (dt, s') => .ok (dt, s')

def deregister (conn : Conn) (s : Storage) (tenantID : UUID) (token : String) (now : Time) :
    Except Err Storage :=
  if token = "" then .error (.app (newValidationError "token required" []))
  else DeviceTokenRepository.deactivate conn s tenantID token now

def listActiveByUser (conn : Conn) (s : Storage) (tenantID : UUID) (userID : String) :
    Except Err (List DeviceToken) :=
  DeviceTokenRepository.listActiveByUser conn s tenantID userID

end DeviceTokenService

/-! ## Histories -/

inductive TokenCall where
  | register (conn : Conn) (tenantID : UUID) (req : RegisterDeviceTokenRequest) (id : UUID)
      (now : Time)
  | deregister (conn : Conn) (tenantID : UUID) (token : String) (now : Time)

namespace TokenCall

/-- The token that the call is for. -/
def key : TokenCall → UUID × String
  | .register _ tenantID req _ _ => (tenantID, req.token)
  | .deregister _ tenantID token _ => (tenantID, token)

/-- The state a call leaves, if it returns without an error. -/
def attempt (s : Storage) : TokenCall → Option Storage
  | .register conn tenantID req id now =>
      match DeviceTokenService.register conn s tenantID req id now with
      | .ok (_, s') => some s'
      | .error _ => none
  | .deregister conn tenantID token now =>
      match DeviceTokenService.deregister conn s tenantID token now with
      | .ok s' => some s'
      | .error _ => none

def request : TokenCall → Option RegisterDeviceTokenRequest
  | .register _ _ req _ _ => some req
  | .deregister _ _ _ _ => none

/-- The owner that the row then has, and the platform. -/
def owner (call : TokenCall) : Option (String × String) :=
  call.request.bind fun req => (varchar 255 req.userID).map fun userID => (userID, req.platform)

end TokenCall

/-- The state after some calls, on a table that was empty. -/
def tokensAfter (core : Database) (calls : List TokenCall) : Storage :=
  LastWrite.after TokenCall.attempt (.ofCore core) calls

/-- The request of the last operation on the token that happened, if that is a Register. -/
def lastRegistration (core : Database) (calls : List TokenCall) (tenantID : UUID) (token : String) :
    Option RegisterDeviceTokenRequest :=
  (LastWrite.lastOn TokenCall.key (LastWrite.happened TokenCall.attempt (.ofCore core) calls)
    (tenantID, token)).bind TokenCall.request

/-- The user's list has the token exactly if that Register was the user's, then once and with the
    platform asked for. -/
def FollowsLast (core : Database) (calls : List TokenCall) (tenantID : UUID) (userID token : String) :
    Prop :=
  ∃ tokens, DeviceTokenService.listActiveByUser .up (tokensAfter core calls) tenantID userID =
      .ok tokens ∧
    (token ∈ tokens.map (·.token) ↔
      ∃ req, lastRegistration core calls tenantID token = some req ∧ req.userID = userID) ∧
    ∀ req, lastRegistration core calls tenantID token = some req → req.userID = userID →
      ∃ dt, tokens.filter (fun dt => dt.token == token) = [dt] ∧ dt.platform = req.platform

/-! ## The table -/

section Rows

variable {s s' : Storage} {tenantID : UUID} {token : String} {row : DeviceTokenRow}

/-- Owner and platform of an active token. -/
def DeviceTokenRow.active (row : DeviceTokenRow) : Option (String × String) :=
  if row.isActive then some (row.userID, row.platform) else none

def activeAt (s : Storage) (k : UUID × String) : Option (String × String) :=
  (s.deviceTokens.rows.find? (tokenAt k.1 k.2)).bind DeviceTokenRow.active

theorem tokenAt_iff (k : UUID × String) (row : DeviceTokenRow) :
    tokenAt k.1 k.2 row = true ↔ row.key = some k := by
  simp only [tokenAt, Bool.and_eq_true, beq_iff_eq, DeviceTokenRow.key, Option.some.injEq,
    Prod.ext_iff]

theorem activeAt_of_key (s : Storage) {k : UUID × String} (stored : row ∈ s.deviceTokens.rows)
    (keyed : row.key = some k) : activeAt s k = row.active := by
  rw [activeAt, s.deviceTokens.find?_key stored keyed (tokenAt_iff k), Option.bind_some]

/-- A write to another token is not seen. -/
theorem activeAt_congr {k : UUID × String}
    (same : s'.deviceTokens.rows.filter (tokenAt k.1 k.2) =
      s.deviceTokens.rows.filter (tokenAt k.1 k.2)) : activeAt s' k = activeAt s k := by
  rw [activeAt, activeAt, ← List.head?_filter, same, List.head?_filter]

theorem deviceTokenRow_some {req : RegisterDeviceTokenRequest} {id : UUID} {now : Time}
    (taken : deviceTokenRow tenantID req id now = some row) :
    row.key = some (tenantID, req.token) ∧ row.isActive = true ∧
      varchar 255 req.userID = some row.userID ∧ varchar 20 req.platform = some row.platform := by
  simp only [deviceTokenRow, Option.bind_eq_bind, Option.bind_eq_some_iff, Option.pure_def,
    Option.some.injEq] at taken
  obtain ⟨userID, user, platform, onPlatform, rfl⟩ := taken
  exact ⟨rfl, rfl, user, onPlatform⟩

theorem upsert_active {conn : Conn} {req : RegisterDeviceTokenRequest} {id : UUID} {now : Time}
    {dt : DeviceToken} (done : DeviceTokenRepository.upsert conn s tenantID req id now = .ok (dt, s')) :
    ∃ userID platform, varchar 255 req.userID = some userID ∧
      varchar 20 req.platform = some platform ∧
      ∀ k, activeAt s' k = if (tenantID, req.token) = k then some (userID, platform)
        else activeAt s k := by
  cases conn with
  | down => cases done
  | up =>
      simp only [DeviceTokenRepository.upsert, Conn.exec, upsertDeviceToken] at done
      cases taken : deviceTokenRow tenantID req id now with
      | none => simp [taken] at done
      | some row =>
          by_cases known : knownPlatform row.platform = true
          · cases outcome : upsertRow s.deviceTokens row (reassignToken s.core row now known) with
            | error e => simp [taken, known, outcome] at done
            | ok result =>
                obtain ⟨stored, deviceTokens⟩ := result
                simp only [taken, known, dite_true, outcome, Except.ok.injEq, Prod.mk.injEq] at done
                obtain ⟨-, rfl⟩ := done
                obtain ⟨inTable, key, content, others⟩ := upsertRow_ok outcome
                obtain ⟨keyed, active, user, platform⟩ := deviceTokenRow_some taken
                refine ⟨row.userID, row.platform, user, platform, ?_⟩
                intro k
                by_cases same : (tenantID, req.token) = k
                · subst same
                  rw [if_pos rfl, activeAt_of_key _ inTable (key.trans keyed)]
                  -- the new row and the changed one have the same content
                  rcases content with rfl | ⟨old, _, rfl⟩
                  · rw [DeviceTokenRow.active, if_pos active]
                  · rfl
                · rw [if_neg same]
                  apply activeAt_congr
                  apply others
                  intro other hit clash
                  rw [tokenAt_iff, clash, keyed] at hit
                  exact same (Option.some.inj hit)
          · simp [taken, known] at done

theorem deactivate_active {conn : Conn} {now : Time}
    (done : DeviceTokenRepository.deactivate conn s tenantID token now = .ok s') (k : UUID × String) :
    activeAt s' k = if (tenantID, token) = k then none else activeAt s k := by
  cases conn with
  | down => cases done
  | up =>
      obtain rfl := Except.ok.inj done
      by_cases same : (tenantID, token) = k
      · subst same
        have retired : (deactivateDeviceToken s tenantID token now).deviceTokens.rows.find?
            (tokenAt tenantID token) =
              (s.deviceTokens.rows.find? (tokenAt tenantID token)).map
                fun t => { t with isActive := false, updatedAt := now } :=
          find?_updateWhere fun _ => rfl
        rw [if_pos rfl, activeAt, retired]
        cases s.deviceTokens.rows.find? (tokenAt tenantID token) with
        | none => rfl
        | some row => rfl
      · rw [if_neg same]
        have rest : (deactivateDeviceToken s tenantID token now).deviceTokens.rows.filter
            (fun t => !tokenAt tenantID token t) =
              s.deviceTokens.rows.filter fun t => !tokenAt tenantID token t :=
          others_updateWhere (fun _ hit => hit) fun _ => rfl
        apply activeAt_congr
        refine filter_congr rest ?_
        intro row hit
        rw [Bool.not_eq_true', Bool.eq_false_iff]
        intro own
        have clash := ((tokenAt_iff (tenantID, token) row).mp own).symm.trans
          ((tokenAt_iff k row).mp hit)
        exact same (Option.some.inj clash)

end Rows

/-! ## The calls -/

section Calls

variable {s s' : Storage} {call : TokenCall}

theorem platform_of_validateRegister {req : RegisterDeviceTokenRequest}
    (valid : DeviceTokenService.validateRegister req = .ok ()) :
    varchar 20 req.platform = some req.platform := by
  unfold DeviceTokenService.validateRegister NotificationService.toValidationError at valid
  split at valid
  · rename_i passed
    have known : knownPlatform req.platform = true := by
      simp only [List.append_eq_nil_iff, DeviceTokenService.platformRule] at passed
      by_contra unknown
      simp only [unknown] at passed
      split at passed
      · simp at passed
      · simp at passed
    simp only [knownPlatform, List.contains_eq_mem, List.mem_cons, List.not_mem_nil, or_false,
      decide_eq_true_eq] at known
    rcases known with same | same | same
    · rw [same]
      decide
    · rw [same]
      decide
    · rw [same]
      decide
  · cases valid

/-- What a call that happened did to the tokens. -/
theorem attempt_active (taken : call.attempt s = some s') :
    (∀ req, call.request = some req → ∃ userID, varchar 255 req.userID = some userID) ∧
      ∀ k, activeAt s' k = if call.key = k then call.owner else activeAt s k := by
  cases call with
  | register conn tenantID req id now =>
      simp only [TokenCall.attempt, DeviceTokenService.register] at taken
      cases valid : DeviceTokenService.validateRegister req with
      | error e => simp [valid] at taken
      | ok passed =>
          cases done : DeviceTokenRepository.upsert conn s tenantID req id now with
          | error e => simp [valid, done] at taken
          | ok result =>
              obtain ⟨dt, next⟩ := result
              simp only [valid, done, Option.some.injEq] at taken
              obtain rfl := taken
              obtain ⟨userID, platform, user, onPlatform, active⟩ := upsert_active done
              rw [platform_of_validateRegister valid] at onPlatform
              obtain rfl := Option.some.inj onPlatform
              have owner : (TokenCall.register conn tenantID req id now).owner =
                  some (userID, req.platform) := by
                simp [TokenCall.owner, TokenCall.request, user]
              refine ⟨?_, fun k => owner ▸ active k⟩
              intro req' same
              obtain rfl := Option.some.inj same
              exact ⟨userID, user⟩
  | deregister conn tenantID token now =>
      simp only [TokenCall.attempt, DeviceTokenService.deregister] at taken
      by_cases empty : token = ""
      · simp [empty] at taken
      · cases done : DeviceTokenRepository.deactivate conn s tenantID token now with
        | error e => simp [empty, done] at taken
        | ok next =>
            simp only [if_neg empty, done, Option.some.injEq] at taken
            obtain rfl := taken
            exact ⟨by simp [TokenCall.request], fun k => deactivate_active done k⟩

variable (core : Database) (calls : List TokenCall) (tenantID : UUID) (token : String)

/-- A token belongs to whom the last operation gave it, under the id the column took. -/
theorem activeAt_after :
    activeAt (tokensAfter core calls) (tenantID, token) =
      (lastRegistration core calls tenantID token).bind fun req =>
        (varchar 255 req.userID).map fun userID => (userID, req.platform) := by
  have writes : ∀ s call next, TokenCall.attempt s call = some next → ∀ k,
      activeAt next k = if call.key = k then call.owner else activeAt s k :=
    fun s call next taken => (attempt_active taken).2
  have last := LastWrite.view_after writes (.ofCore core) calls (tenantID, token)
  rw [tokensAfter, last, lastRegistration]
  cases LastWrite.lastOn TokenCall.key
      (LastWrite.happened TokenCall.attempt (.ofCore core) calls) (tenantID, token) with
  | none => rfl
  | some call => rfl

theorem lastRegistration_fits {req : RegisterDeviceTokenRequest}
    (last : lastRegistration core calls tenantID token = some req) :
    ∃ userID, varchar 255 req.userID = some userID := by
  obtain ⟨call, found, requested⟩ := Option.bind_eq_some_iff.mp last
  obtain ⟨before, next, taken⟩ := LastWrite.mem_happened (LastWrite.mem_of_lastOn found)
  exact (attempt_active taken).1 req requested

end Calls

/-! ## The listing -/

section Listing

variable (s : Storage) (tenantID : UUID) (userID token : String)

def listedTokens : List DeviceToken :=
  (listActiveDeviceTokensByUser s.deviceTokens.rows tenantID userID).map toDeviceToken

theorem listActiveByUser_eq : DeviceTokenService.listActiveByUser .up s tenantID userID =
    .ok (listedTokens s tenantID userID) :=
  rfl

theorem mem_listedTokens_iff :
    token ∈ (listedTokens s tenantID userID).map (·.token) ↔
      ∃ platform, activeAt s (tenantID, token) = some (userID, platform) := by
  simp only [listedTokens, listActiveDeviceTokensByUser, List.map_map, List.mem_map,
    List.mem_insertionSort, List.mem_filter, activeTokenOf, Bool.and_eq_true, beq_iff_eq]
  constructor
  · rintro ⟨row, ⟨stored, ⟨tenant, user⟩, active⟩, same⟩
    have keyed : row.key = some (tenantID, token) := by
      rw [DeviceTokenRow.key, tenant, ← same]
      rfl
    refine ⟨row.platform, ?_⟩
    rw [activeAt_of_key s stored keyed, DeviceTokenRow.active, if_pos active, user]
  · rintro ⟨platform, owned⟩
    obtain ⟨row, found, active⟩ := Option.bind_eq_some_iff.mp owned
    have keyed := (tokenAt_iff (tenantID, token) row).mp (List.find?_some found)
    simp only [DeviceTokenRow.key, Option.some.injEq, Prod.mk.injEq] at keyed
    simp only [DeviceTokenRow.active, Option.ite_none_right_eq_some, Option.some.injEq,
      Prod.mk.injEq] at active
    exact ⟨row, ⟨List.mem_of_find?_eq_some found, ⟨keyed.1, active.2.1⟩, active.1⟩, keyed.2⟩

/-- The token is listed once. -/
theorem filter_listedTokens {platform : String}
    (owned : activeAt s (tenantID, token) = some (userID, platform)) :
    ∃ dt, (listedTokens s tenantID userID).filter (fun dt => dt.token == token) = [dt] ∧
      dt.platform = platform := by
  obtain ⟨row, found, active⟩ := Option.bind_eq_some_iff.mp owned
  have stored := List.mem_of_find?_eq_some found
  have keyed := (tokenAt_iff (tenantID, token) row).mp (List.find?_some found)
  have fields := keyed
  simp only [DeviceTokenRow.key, Option.some.injEq, Prod.mk.injEq] at fields
  simp only [DeviceTokenRow.active, Option.ite_none_right_eq_some, Option.some.injEq,
    Prod.mk.injEq] at active
  have own : activeTokenOf tenantID userID row = true := by
    simp [activeTokenOf, fields.1, active.2.1, active.1]
  have alone : s.deviceTokens.rows.filter
      (fun t => t.token == token && activeTokenOf tenantID userID t) = [row] := by
    have narrower : ∀ t : DeviceTokenRow, (t.token == token && activeTokenOf tenantID userID t) =
        (activeTokenOf tenantID userID t && tokenAt tenantID token t) := by
      intro t
      simp only [activeTokenOf, tokenAt]
      grind
    simp only [narrower]
    rw [← List.filter_filter,
      s.deviceTokens.filter_key stored keyed (tokenAt_iff (tenantID, token)),
      List.filter_singleton, own]
    rfl
  have listed : ((listActiveDeviceTokensByUser s.deviceTokens.rows tenantID userID).filter
      fun t => t.token == token).Perm [row] := by
    rw [← alone, ← List.filter_filter]
    exact (List.perm_insertionSort _ _).filter _
  refine ⟨toDeviceToken row, ?_, active.2.2⟩
  rw [listedTokens, List.filter_map]
  exact congrArg (List.map toDeviceToken) (List.perm_singleton.mp listed)

end Listing

/-- For every history, tenant and token: all users' lists follow the last operation on the token
    if and only if a Register that came last was for a user id of at most 255 characters. In any
    case at most one user has the token. -/
theorem follows_last_iff (core : Database) (calls : List TokenCall) (tenantID : UUID)
    (token : String) :
    ((∀ userID, FollowsLast core calls tenantID userID token) ↔
      ∀ req, lastRegistration core calls tenantID token = some req → req.userID.length ≤ 255) ∧
    ∀ userID userID' tokens tokens',
      DeviceTokenService.listActiveByUser .up (tokensAfter core calls) tenantID userID = .ok tokens →
      DeviceTokenService.listActiveByUser .up (tokensAfter core calls) tenantID userID' =
        .ok tokens' →
      token ∈ tokens.map (·.token) → token ∈ tokens'.map (·.token) → userID = userID' := by
  have owned := activeAt_after core calls tenantID token
  refine ⟨⟨?_, ?_⟩, ?_⟩
  · intro follows req last
    obtain ⟨kept, fits⟩ := lastRegistration_fits core calls tenantID token last
    obtain ⟨tokens, answer, contains, _⟩ := follows req.userID
    rw [listActiveByUser_eq] at answer
    obtain rfl := Except.ok.inj answer
    obtain ⟨platform, active⟩ :=
      (mem_listedTokens_iff (tokensAfter core calls) tenantID req.userID token).mp
        (contains.mpr ⟨req, last, rfl⟩)
    rw [owned, last, Option.bind_some, fits] at active
    have same : kept = req.userID := congrArg Prod.fst (Option.some.inj active)
    exact (varchar_eq_self_iff fits).mp same
  · intro short userID
    -- the column took the id as it was
    have given : ∀ req, lastRegistration core calls tenantID token = some req →
        activeAt (tokensAfter core calls) (tenantID, token) = some (req.userID, req.platform) := by
      intro req last
      obtain ⟨kept, fits⟩ := lastRegistration_fits core calls tenantID token last
      rw [owned, last, Option.bind_some, fits, (varchar_eq_self_iff fits).mpr (short req last)]
      rfl
    refine ⟨_, listActiveByUser_eq _ _ _, ?_, ?_⟩
    · rw [mem_listedTokens_iff]
      constructor
      · rintro ⟨platform, active⟩
        rw [owned] at active
        obtain ⟨req, last, _⟩ := Option.bind_eq_some_iff.mp active
        rw [← owned, given req last] at active
        exact ⟨req, last, congrArg Prod.fst (Option.some.inj active)⟩
      · rintro ⟨req, last, rfl⟩
        exact ⟨req.platform, given req last⟩
    · rintro req last rfl
      exact filter_listedTokens _ tenantID req.userID token (given req last)
  · intro userID userID' tokens tokens' answer answer' here there
    rw [listActiveByUser_eq] at answer answer'
    obtain rfl := Except.ok.inj answer
    obtain rfl := Except.ok.inj answer'
    obtain ⟨_, active⟩ := (mem_listedTokens_iff _ tenantID userID token).mp here
    obtain ⟨_, active'⟩ := (mem_listedTokens_iff _ tenantID userID' token).mp there
    exact congrArg Prod.fst (Option.some.inj (active.symm.trans active'))

/-! ## A token that changes hands -/

/-- One user signs in on the phone, then another, who reinstalls the app. -/
def handedOn : List TokenCall :=
  [.register .up 7 ⟨"ann", "k", "ios"⟩ 1 5, .register .up 7 ⟨"bob", "k", "ios"⟩ 2 6,
    .deregister .up 7 "k" 7, .register .down 7 ⟨"ann", "k", "ios"⟩ 3 8,
    .register .up 7 ⟨"bob", "k", "android"⟩ 4 9]

theorem handedOn_follows :
    lastRegistration (.ofTenants [7]) handedOn 7 "k" = some ⟨"bob", "k", "android"⟩ ∧
    FollowsLast (.ofTenants [7]) handedOn 7 "ann" "k" ∧
    FollowsLast (.ofTenants [7]) handedOn 7 "bob" "k" := by
  have last : lastRegistration (.ofTenants [7]) handedOn 7 "k" = some ⟨"bob", "k", "android"⟩ := by
    decide +kernel
  have follows := (follows_last_iff (.ofTenants [7]) handedOn 7 "k").1.mpr (by
    intro req same
    obtain rfl := Option.some.inj (last.symm.trans same)
    decide)
  exact ⟨last, follows "ann", follows "bob"⟩

@[irreducible] def manyLetters : List Char := List.replicate 255 'a'

theorem length_manyLetters : manyLetters.length = 255 := by
  unfold manyLetters
  exact List.length_replicate

/-- A user id of 255 letters, and the same with a space at the end. -/
def fullID : String := String.ofList manyLetters

def paddedID : String := String.ofList (manyLetters ++ [' '])

def paddedOnly : List TokenCall := [.register .up 7 ⟨paddedID, "k", "ios"⟩ 1 5]

theorem fullID_ne_paddedID : fullID ≠ paddedID := by
  intro same
  have chars : manyLetters = manyLetters ++ [' '] := String.ofList_injective same
  have lengths := congrArg List.length chars
  rw [List.length_append, List.length_singleton] at lengths
  omega

theorem varchar_paddedID : varchar 255 paddedID = some fullID := by
  have long : ¬paddedID.length ≤ 255 := by
    simp only [paddedID, String.length_ofList, List.length_append, length_manyLetters]
    decide
  have chars : paddedID.toList = manyLetters ++ [' '] := String.toList_ofList
  have cut : (paddedID.toList.drop 255).all (· == ' ') = true := by
    rw [chars, List.drop_left' length_manyLetters]
    rfl
  rw [varchar, if_neg long, if_pos cut, chars, List.take_left' length_manyLetters, fullID]

/-- The first Register of a tenant. -/
theorem attempt_first (core : Database) {tenantID id : UUID} {req : RegisterDeviceTokenRequest}
    {now : Time} {row : DeviceTokenRow}
    (valid : DeviceTokenService.validateRegister req = .ok ())
    (proposed : deviceTokenRow tenantID req id now = some row)
    (accepted : DeviceTokenRow.Valid core row) :
    ∃ s', TokenCall.attempt (.ofCore core) (.register .up tenantID req id now) = some s' := by
  have inserted : ∃ t, insertRow (Storage.ofCore core).deviceTokens row = .ok (row, t) := by
    have accepts : (Storage.ofCore core).deviceTokens.Accepts row :=
      ⟨List.not_mem_nil, fun _ _ => List.not_mem_nil, accepted⟩
    exact ⟨_, dif_pos accepts⟩
  obtain ⟨t, inserted⟩ := inserted
  have upserted : upsertRow (Storage.ofCore core).deviceTokens row
      (reassignToken (Storage.ofCore core).core row now accepted.2) = .ok (row, t) := inserted
  have stored : upsertDeviceToken (.ofCore core) tenantID req id now =
      .ok (row, { Storage.ofCore core with deviceTokens := t }) := by
    simp only [upsertDeviceToken, proposed, dif_pos accepted.2, upserted]
  simp only [TokenCall.attempt, DeviceTokenService.register, valid, DeviceTokenRepository.upsert,
    Conn.exec, stored]
  exact ⟨_, rfl⟩

theorem lastRegistration_paddedOnly :
    lastRegistration (.ofTenants [7]) paddedOnly 7 "k" = some ⟨paddedID, "k", "ios"⟩ := by
  have filled : paddedID ≠ "" := by
    intro empty
    have lengths := congrArg String.length empty
    rw [paddedID, String.length_ofList, List.length_append, length_manyLetters] at lengths
    exact absurd lengths (by decide)
  have valid : DeviceTokenService.validateRegister ⟨paddedID, "k", "ios"⟩ = .ok () := by
    simp only [DeviceTokenService.validateRegister, NotificationService.required, if_neg filled]
    decide
  have proposed : deviceTokenRow 7 ⟨paddedID, "k", "ios"⟩ 1 5 =
      some ⟨1, 7, fullID, "k", "ios", true, 5, 5⟩ := by
    simp only [deviceTokenRow, varchar_paddedID]
    rfl
  obtain ⟨s', taken⟩ := attempt_first (.ofTenants [7]) valid proposed
    ⟨List.mem_singleton.mpr rfl, by decide⟩
  simp only [lastRegistration, paddedOnly, LastWrite.happened, taken]
  rfl

/-- The token goes to another user. -/
theorem padded_user_misses :
    lastRegistration (.ofTenants [7]) paddedOnly 7 "k" = some ⟨paddedID, "k", "ios"⟩ ∧
    "k" ∉ (listedTokens (tokensAfter (.ofTenants [7]) paddedOnly) 7 paddedID).map (·.token) ∧
    "k" ∈ (listedTokens (tokensAfter (.ofTenants [7]) paddedOnly) 7 fullID).map (·.token) ∧
    ¬FollowsLast (.ofTenants [7]) paddedOnly 7 paddedID "k" := by
  have last := lastRegistration_paddedOnly
  have owned := activeAt_after (.ofTenants [7]) paddedOnly 7 "k"
  rw [last, Option.bind_some, varchar_paddedID] at owned
  have missing :
      "k" ∉ (listedTokens (tokensAfter (.ofTenants [7]) paddedOnly) 7 paddedID).map (·.token) := by
    rw [mem_listedTokens_iff, owned]
    rintro ⟨platform, same⟩
    exact fullID_ne_paddedID (congrArg Prod.fst (Option.some.inj same))
  refine ⟨last, missing, ?_, ?_⟩
  · rw [mem_listedTokens_iff]
    exact ⟨"ios", owned⟩
  · rintro ⟨tokens, answer, contains, _⟩
    rw [listActiveByUser_eq] at answer
    obtain rfl := Except.ok.inj answer
    exact missing (contains.mpr ⟨_, last, rfl⟩)

end NotifyHub
