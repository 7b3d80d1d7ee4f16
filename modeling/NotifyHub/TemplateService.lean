import NotifyHub.TemplateUpdates
import NotifyHub.Worker.Replay

/-! # `templateService`

Templates are written through the service and rendered by the worker, by id. What is rendered
follows the calls that have changed the template, in whatever order the calls of all tenants
come. A deleted template is inactive: its name finds it no more, its id still does, and the
name stays taken.
-/

namespace NotifyHub

open Database Fields

/-- `text/template`: a text that parses can be executed against a payload. -/
structure Engine where
  parse : String → String → Except String (Option JSONMap → Except String String)

def renderTemplate (engine : Engine) (name tmplStr : String) (data : Option JSONMap) :
    Except Err String :=
  match engine.parse name tmplStr with
  | .error e => .error (.wrap ("parse template " ++ name.quote) (.plain e))
  | .ok execute =>
      match execute data with
      | .error e => .error (.wrap ("execute template " ++ name.quote) (.plain e))
      | .ok text => .ok text

structure PreviewTemplateResponse where
  subject : String
  body : String
  deriving Repr, DecidableEq

namespace TemplateService

/-- `required,max=255` for the name, `required,oneof` for the channel, `required` for the body. -/
def validateCreate (req : CreateTemplateRequest) : Except AppError Unit :=
  NotificationService.toValidationError
    ((if req.name = "" then [("Name", "required")]
      else if 255 < req.name.length then [("Name", "max")]
      else []) ++
      NotificationService.channelRule req.channel ++
      NotificationService.required "BodyTemplate" req.bodyTemplate)

def create (conn : Conn) (db : Database) (tenantID : UUID) (req : CreateTemplateRequest) (id : UUID)
    (now : Time) : Except AppError (Template × Database) :=
  match validateCreate req with
  | .error e => .error e
  | .ok () => TemplateRepository.create conn db tenantID req id now

def getByID (conn : Conn) (db : Database) (tenantID id : UUID) : Except AppError Template :=
  TemplateRepository.getByID conn db tenantID id

def list (conn countConn : Conn) (db : Database) (tenantID : UUID) (channel : Channel)
    (pageNo perPage : Int) : Except AppError (List Template × Nat) :=
  TemplateRepository.list conn countConn db tenantID channel pageNo perPage

/-- The request has no validation tags. -/
def update (conn updateConn : Conn) (db : Database) (tenantID id : UUID)
    (req : UpdateTemplateRequest) (now : Time) : Except AppError (Template × Database) :=
  TemplateRepository.update conn updateConn db tenantID id req now

def delete (conn : Conn) (db : Database) (tenantID id : UUID) (now : Time) :
    Except AppError (Template × Database) :=
  TemplateRepository.delete conn db tenantID id now

/-- A payload that is not there fails `required`; the empty one does not. -/
def preview (engine : Engine) (conn : Conn) (db : Database) (tenantID id : UUID)
    (payload : Option JSONMap) : Except AppError PreviewTemplateResponse :=
  if payload.isNone then .error (newValidationError "validation failed" [("Payload", "required")])
  else
    match TemplateRepository.getByID conn db tenantID id with
    | .error e => .error e
    | .ok tmpl =>
        match renderTemplate engine "body" tmpl.bodyTemplate payload with
        | .error e => .error (newValidationError "failed to render body template" [("error", e.text)])
        | .ok body =>
            match tmpl.subjectTemplate with
            | none => .ok ⟨"", body⟩
            | some subjectTemplate =>
                match renderTemplate engine "subject" subjectTemplate payload with
                | .error e =>
                    .error (newValidationError "failed to render subject template"
                      [("error", e.text)])
                | .ok subject => .ok ⟨subject, body⟩

/-- Subject and body, for the worker. -/
def render (engine : Engine) (conn : Conn) (db : Database) (tenantID templateID : UUID)
    (payload : Option JSONMap) : Except AppError (String × String) :=
  match TemplateRepository.getByID conn db tenantID templateID with
  | .error e => .error e
  | .ok tmpl =>
      match renderTemplate engine "body" tmpl.bodyTemplate payload with
      | .error _ => .error (newInternalError "failed to render body template")
      | .ok body =>
          match tmpl.subjectTemplate with
          | none => .ok ("", body)
          | some subjectTemplate =>
              match renderTemplate engine "subject" subjectTemplate payload with
              | .error _ => .error (newInternalError "failed to render subject template")
              | .ok subject => .ok (subject, body)

/-! ## Preview and Render

The two are written out separately in the source. -/

/-- A preview shows what the worker will send, and fails where the worker fails, with the same
    message. -/
theorem preview_iff_render (engine : Engine) (conn : Conn) (db : Database) (tenantID id : UUID)
    (payload : JSONMap) :
    (∀ subject body, preview engine conn db tenantID id (some payload) = .ok ⟨subject, body⟩ ↔
        render engine conn db tenantID id (some payload) = .ok (subject, body)) ∧
      ∀ message, (∃ e, preview engine conn db tenantID id (some payload) = .error e ∧
          e.message = message) ↔
        ∃ e, render engine conn db tenantID id (some payload) = .error e ∧ e.message = message := by
  unfold preview render
  simp only [Option.isNone_some, Bool.false_eq_true, if_false]
  cases TemplateRepository.getByID conn db tenantID id with
  | error e => simp
  | ok tmpl =>
      cases bodyDone : renderTemplate engine "body" tmpl.bodyTemplate (some payload) with
      | error e => simp [bodyDone, newValidationError, newInternalError]
      | ok body =>
          cases hasSubject : tmpl.subjectTemplate with
          | none => simp [bodyDone, hasSubject]
          | some subjectTemplate =>
              cases subjectDone : renderTemplate engine "subject" subjectTemplate (some payload) with
              | error e =>
                  simp [bodyDone, hasSubject, subjectDone, newValidationError, newInternalError]
              | ok subject => simp [bodyDone, hasSubject, subjectDone]

end TemplateService

/-! ## Histories -/

/-- A call that writes templates, with what its statements meet. -/
inductive TemplateCall where
  | create (conn : Conn) (tenantID : UUID) (req : CreateTemplateRequest) (id : UUID) (now : Time)
  | update (conn updateConn : Conn) (tenantID id : UUID) (req : UpdateTemplateRequest) (now : Time)
  | delete (conn : Conn) (tenantID id : UUID) (now : Time)

namespace TemplateCall

/-- The database after a call that succeeds. -/
def written : Except AppError (Template × Database) → Option Database
  | .error _ => none
  | .ok (_, db) => some db

def attempt (db : Database) : TemplateCall → Option Database
  | .create conn tenantID req id now =>
      written (TemplateService.create conn db tenantID req id now)
  | .update conn updateConn tenantID id req now =>
      written (TemplateService.update conn updateConn db tenantID id req now)
  | .delete conn tenantID id now => written (TemplateService.delete conn db tenantID id now)

def after (db : Database) (calls : List TemplateCall) : Database :=
  calls.foldl (fun db call => (call.attempt db).getD db) db

/-- The change that a call makes to a template that is there. -/
def change (tenantID id : UUID) : TemplateCall → Option TemplateUpdates.Call
  | .create .. => none
  | .update _ _ tenant target req _ =>
      if tenant = tenantID ∧ target = id then some (.update req) else none
  | .delete _ tenant target _ => if tenant = tenantID ∧ target = id then some .delete else none

/-- The changes of the calls that have succeeded, in order. -/
def changes (tenantID id : UUID) : Database → List TemplateCall → List TemplateUpdates.Call
  | _, [] => []
  | db, call :: rest =>
      match call.attempt db with
      | none => changes tenantID id db rest
      | some next => (call.change tenantID id).toList ++ changes tenantID id next rest

end TemplateCall

theorem TemplateCall.written_some {result : Except AppError (Template × Database)} {db : Database}
    (done : written result = some db) : ∃ t, result = .ok (t, db) := by
  cases result with
  | error e => cases done
  | ok pair =>
      obtain rfl := Option.some.inj done
      exact ⟨pair.1, rfl⟩

/-- What a call does to `version`. -/
def TemplateUpdates.Call.bump : TemplateUpdates.Call → Int
  | .update _ => 1
  | .delete => 0

/-- The template as it is found by tenant and id. -/
def templateRow? (db : Database) (tenantID id : UUID) : Option TemplateRow :=
  db.templates.find? (templateAt id tenantID)

section Steps

variable {db db' : Database} {tenantID id : UUID} {row : TemplateRow}

theorem templateAt_iff {t : TemplateRow} :
    templateAt id tenantID t = true ↔ t.id = id ∧ t.tenantID = some tenantID := by
  simp only [templateAt, Bool.and_eq_true, beq_iff_eq]

theorem repository_create_of_ok {conn : Conn} {tenant : UUID} {req : CreateTemplateRequest}
    {target : UUID} {now : Time} {t : Template}
    (done : TemplateService.create conn db tenant req target now = .ok (t, db')) :
    TemplateRepository.create conn db tenant req target now = .ok (t, db') := by
  unfold TemplateService.create at done
  split at done
  · cases done
  · exact done

theorem create_adds {conn : Conn} {tenant : UUID} {req : CreateTemplateRequest} {target : UUID}
    {now : Time} {t : Template}
    (done : TemplateRepository.create conn db tenant req target now = .ok (t, db')) :
    ∃ new, db'.templates = db.templates ++ [new] ∧ new.id ∉ db.templates.map (·.id) ∧
      new.name ∉ db.templates.map (·.name) ∧ new.tenantID = some tenant := by
  cases conn with
  | down => simp [TemplateRepository.create, Conn.exec] at done
  | up =>
      simp only [TemplateRepository.create, Conn.exec, insertTemplate] at done
      cases fits : (TemplateRepository.insertParams tenant req).row target now with
      | none => simp [fits] at done
      | some new =>
          by_cases accepted : db.AcceptsTemplate new
          · simp only [fits, dif_pos accepted, Except.ok.injEq, Prod.mk.injEq] at done
            refine ⟨new, by rw [← done.2]; rfl, accepted.1, accepted.2.1, ?_⟩
            simp only [InsertTemplateParams.row, TemplateRepository.insertParams,
              Option.bind_eq_bind, Option.bind_eq_some_iff] at fits
            obtain ⟨_, _, _, _, made⟩ := fits
            rw [← Option.some.inj made]
          · simp [fits, dif_neg accepted] at done

theorem update_sets {conn updateConn : Conn} {tenant target : UUID} {req : UpdateTemplateRequest}
    {now : Time} {t : Template}
    (done : TemplateRepository.update conn updateConn db tenant target req now = .ok (t, db')) :
    ∃ row, templateRow? db tenant target = some row ∧
      db' = db.setTemplates (templateAt target tenant)
        ((TemplateRepository.updateParams tenant target (dbTemplateToDomain row) req).update now) := by
  cases conn with
  | down => simp [TemplateRepository.update, TemplateRepository.getByID, Conn.exec] at done
  | up =>
      cases found : db.templates.find? (templateAt target tenant) with
      | none =>
          simp [TemplateRepository.update, TemplateRepository.getByID, Conn.exec, getTemplateByID,
            found] at done
      | some row =>
          cases updateConn with
          | down =>
              simp [TemplateRepository.update, TemplateRepository.getByID, Conn.exec,
                getTemplateByID, found] at done
          | up =>
              simp only [TemplateRepository.update, TemplateRepository.getByID, Conn.exec,
                getTemplateByID, found, updateTemplate, TemplateRepository.updateParams] at done
              by_cases room : row.version + 1 < 2 ^ 31
              · simp only [if_pos room, Except.ok.injEq, Prod.mk.injEq] at done
                exact ⟨row, found, done.2.symm⟩
              · simp only [if_neg room, reduceCtorEq] at done

theorem delete_sets {conn : Conn} {tenant target : UUID} {now : Time} {t : Template}
    (done : TemplateRepository.delete conn db tenant target now = .ok (t, db')) :
    db' = db.setTemplates (templateAt target tenant) (deactivate now) := by
  cases conn with
  | down => simp [TemplateRepository.delete, Conn.exec] at done
  | up =>
      cases found : db.templates.find? (templateAt target tenant) with
      | none => simp [TemplateRepository.delete, Conn.exec, deleteTemplate, found] at done
      | some row =>
          simp only [TemplateRepository.delete, Conn.exec, deleteTemplate, found, Except.ok.injEq,
            Prod.mk.injEq] at done
          exact done.2.symm

/-- The template before and after an UPDATE. -/
theorem templateRow?_setTemplates (update : TemplateUpdate) (tenant target : UUID) :
    templateRow? (db.setTemplates (templateAt target tenant) update) tenantID id =
      (templateRow? db tenantID id).map fun row =>
        if tenant = tenantID ∧ target = id then update.set row else row := by
  have keeps : ∀ t, templateAt id tenantID (update.set t) = templateAt id tenantID t := by
    intro t
    simp only [templateAt, update.id t, update.tenantID t]
  unfold templateRow? setTemplates Rows.updateWhere
  rw [List.find?_map]
  have same : (templateAt id tenantID ∘ fun t => if templateAt target tenant t then update.set t else t)
      = templateAt id tenantID := by
    funext t
    simp only [Function.comp_apply]
    split
    · exact keeps t
    · rfl
  rw [same]
  cases found : db.templates.find? (templateAt id tenantID) with
  | none => rfl
  | some row =>
      obtain ⟨sameID, owner⟩ := templateAt_iff.mp (List.find?_some found)
      have hit : templateAt target tenant row = true ↔ tenant = tenantID ∧ target = id := by
        rw [templateAt_iff, sameID, owner, Option.some.injEq, and_comm, eq_comm (a := tenantID),
          eq_comm (a := id)]
      simp only [Option.map_some, hit]

theorem content_set (change : TemplateUpdates.Call) {update : TemplateUpdate}
    (sets : ∃ now, update.set row = change.apply tenantID id now row) :
    TemplateUpdates.content (update.set row) = change.sets.apply (TemplateUpdates.content row) ∧
      (update.set row).version = row.version + change.bump ∧ (update.set row).name = row.name := by
  obtain ⟨now, applied⟩ := sets
  refine ⟨?_, ?_, update.name row⟩
  · rw [applied]
    cases change with
    | delete => exact TemplateUpdates.content_delete
    | update req =>
        rw [TemplateUpdates.Call.apply, TemplateUpdates.content_overwrite]
        exact Patch.apply_apply_eq fun _ _ _ carried => TemplateUpdates.held_row carried
  · rw [applied]
    cases change with
    | delete => exact (Int.add_zero _).symm
    | update req => rfl

/-- A call that succeeds makes its change to the template, or none. -/
theorem attempt_template {call : TemplateCall} (taken : call.attempt db = some db')
    (stored : templateRow? db tenantID id = some row) :
    ∃ row', templateRow? db' tenantID id = some row' ∧ row'.name = row.name ∧
      TemplateUpdates.content row' =
        applyAll ((call.change tenantID id).toList.map TemplateUpdates.Call.sets)
          (TemplateUpdates.content row) ∧
      row'.version = row.version +
        ((call.change tenantID id).toList.map TemplateUpdates.Call.bump).sum := by
  have rewritten : ∀ (update : TemplateUpdate) (change : TemplateUpdates.Call) (tenant target : UUID),
      db' = db.setTemplates (templateAt target tenant) update →
      call.change tenantID id = (if tenant = tenantID ∧ target = id then some change else none) →
      (tenant = tenantID ∧ target = id → ∃ now, update.set row = change.apply tenantID id now row) →
      ∃ row', templateRow? db' tenantID id = some row' ∧ row'.name = row.name ∧
        TemplateUpdates.content row' =
          applyAll ((call.change tenantID id).toList.map TemplateUpdates.Call.sets)
            (TemplateUpdates.content row) ∧
        row'.version = row.version +
          ((call.change tenantID id).toList.map TemplateUpdates.Call.bump).sum := by
    intro update change tenant target written changed applies
    rw [written, templateRow?_setTemplates, stored, Option.map_some, changed]
    by_cases own : tenant = tenantID ∧ target = id
    · obtain ⟨content, version, name⟩ := content_set change (applies own)
      simp only [if_pos own]
      exact ⟨_, rfl, name, content, by simpa using version⟩
    · simp only [if_neg own]
      exact ⟨row, rfl, rfl, rfl, by simp⟩
  cases call with
  | create conn tenant req target now =>
      obtain ⟨t, done⟩ := TemplateCall.written_some taken
      obtain ⟨new, added, _⟩ := create_adds (repository_create_of_ok done)
      refine ⟨row, ?_, rfl, rfl, by simp [TemplateCall.change]⟩
      rw [templateRow?, added, List.find?_append, ← templateRow?, stored, Option.some_or]
  | update conn updateConn tenant target req now =>
      obtain ⟨t, done⟩ := TemplateCall.written_some taken
      obtain ⟨found, there, written⟩ := update_sets done
      apply rewritten _ (.update req) tenant target written rfl
      rintro ⟨rfl, rfl⟩
      obtain rfl : found = row := Option.some.inj (there.symm.trans stored)
      exact ⟨now, rfl⟩
  | delete conn tenant target now =>
      obtain ⟨t, done⟩ := TemplateCall.written_some taken
      exact rewritten _ .delete tenant target (delete_sets done) rfl fun _ => ⟨now, rfl⟩

end Steps

section Runs

variable {db : Database} {tenantID id : UUID} {row : TemplateRow}

/-- What has become of a template. -/
theorem template_after (calls : List TemplateCall) (stored : templateRow? db tenantID id = some row) :
    ∃ row', templateRow? (TemplateCall.after db calls) tenantID id = some row' ∧
      row'.name = row.name ∧
      TemplateUpdates.content row' =
        applyAll ((TemplateCall.changes tenantID id db calls).map TemplateUpdates.Call.sets)
          (TemplateUpdates.content row) ∧
      row'.version = row.version +
        ((TemplateCall.changes tenantID id db calls).map TemplateUpdates.Call.bump).sum := by
  induction calls generalizing db row with
  | nil => exact ⟨row, stored, rfl, rfl, by simp [TemplateCall.changes]⟩
  | cons call rest ih =>
      cases taken : call.attempt db with
      | none =>
          have same : TemplateCall.after db (call :: rest) = TemplateCall.after db rest := by
            simp only [TemplateCall.after, List.foldl_cons, taken, Option.getD_none]
          simpa only [same, TemplateCall.changes, taken] using ih stored
      | some next =>
          have same : TemplateCall.after db (call :: rest) = TemplateCall.after next rest := by
            simp only [TemplateCall.after, List.foldl_cons, taken, Option.getD_some]
          obtain ⟨row₁, found₁, name₁, content₁, version₁⟩ := attempt_template taken stored
          obtain ⟨row₂, found₂, name₂, content₂, version₂⟩ := ih found₁
          rw [same]
          simp only [TemplateCall.changes, taken, List.map_append, List.sum_append, applyAll_append]
          refine ⟨row₂, found₂, name₂.trans name₁, ?_, ?_⟩
          · rw [content₂, content₁]
          · rw [version₂, version₁, Int.add_assoc]

/-- The texts rendered, as the worker gets them. -/
def renderTexts (engine : Engine) (content : ∀ field : TemplateUpdates.Field, field.type)
    (payload : Option JSONMap) : Except AppError (String × String) :=
  match renderTemplate engine "body" (content .bodyTemplate) payload with
  | .error _ => .error (newInternalError "failed to render body template")
  | .ok body =>
      match content .subjectTemplate with
      | none => .ok ("", body)
      | some subject =>
          match renderTemplate engine "subject" subject payload with
          | .error _ => .error (newInternalError "failed to render subject template")
          | .ok subject => .ok (subject, body)

/-- A name belongs to one template, of whatever tenant. -/
theorem getByName_iff_active (stored : templateRow? db tenantID id = some row) :
    TemplateRepository.getByName .up db tenantID row.name =
      if row.isActive then .ok (dbTemplateToDomain row)
      else .error (newNotFoundError TemplateRepository.errTemplateNotFound) := by
  have listed := List.mem_of_find?_eq_some stored
  obtain ⟨_, owner⟩ := templateAt_iff.mp (List.find?_some stored)
  have only : ∀ t ∈ db.templates, activeNamed row.name tenantID t = true → t = row := by
    intro t member hit
    simp only [activeNamed, Bool.and_eq_true, beq_iff_eq] at hit
    exact db.templates_name_key.eq_of_mem member listed (congrArg some hit.1.1) rfl
  simp only [TemplateRepository.getByName, Conn.exec, getTemplateByName]
  cases found : db.templates.find? (activeNamed row.name tenantID) with
  | none =>
      have missed := List.find?_eq_none.mp found row listed
      have inactive : row.isActive = false := by
        simpa [activeNamed, owner] using missed
      simp [inactive]
  | some t =>
      obtain rfl := only t (List.mem_of_find?_eq_some found) (List.find?_some found)
      have active : t.isActive = true := by
        have hit := List.find?_some found
        simp only [activeNamed, Bool.and_eq_true] at hit
        exact hit.2
      simp [active]

theorem create_refused_of_taken {name : String} (taken : name ∈ db.templates.map (·.name))
    (conn : Conn) (tenant : UUID) (req : CreateTemplateRequest) (target : UUID) (now : Time)
    (same : req.name = name) (fits : name.length ≤ 255) :
    ∃ e, TemplateService.create conn db tenant req target now = .error e := by
  unfold TemplateService.create
  split
  · exact ⟨_, rfl⟩
  · cases conn with
    | down => exact ⟨_, rfl⟩
    | up =>
        simp only [TemplateRepository.create, Conn.exec, insertTemplate]
        cases made : (TemplateRepository.insertParams tenant req).row target now with
        | none => exact ⟨_, rfl⟩
        | some new =>
            have named : new.name = name := by
              simp only [InsertTemplateParams.row, TemplateRepository.insertParams,
                Option.bind_eq_bind, Option.bind_eq_some_iff] at made
              obtain ⟨stored, cut, _, _, made⟩ := made
              rw [same] at cut
              rw [← Option.some.inj made]
              exact (varchar_eq_self_iff cut).mpr fits
            have refused : ¬db.AcceptsTemplate new := by
              intro accepted
              exact accepted.2.1 (named ▸ taken)
            simp only [dif_neg refused]
            exact ⟨_, rfl⟩

end Runs

/-- Whatever calls of whatever tenants follow, the worker renders a template from the texts that
    the successful updates of it have left, deleted or not; its name finds it as long as it is
    active; and nobody can give the name to another one. -/
theorem render_follows_changes (engine : Engine) (db : Database) (tenantID id : UUID)
    (row : TemplateRow) (calls : List TemplateCall) (payload : Option JSONMap)
    (stored : templateRow? db tenantID id = some row) :
    let changes := TemplateCall.changes tenantID id db calls
    let content := applyAll (changes.map TemplateUpdates.Call.sets) (TemplateUpdates.content row)
    let last := TemplateCall.after db calls
    TemplateService.render engine .up last tenantID id payload = renderTexts engine content payload ∧
      (∃ t, TemplateService.getByID .up last tenantID id = .ok t ∧
        t.version = row.version + (changes.map TemplateUpdates.Call.bump).sum) ∧
      ((∃ t, TemplateRepository.getByName .up last tenantID row.name = .ok t) ↔
        content .isActive = true) ∧
      ∀ conn tenant req target now, req.name = row.name → row.name.length ≤ 255 →
        ∃ e, TemplateService.create conn last tenant req target now = .error e := by
  intro changes content last
  obtain ⟨row', found, name, contents, version⟩ := template_after calls stored
  have fetched : TemplateRepository.getByID .up last tenantID id = .ok (dbTemplateToDomain row') := by
    unfold templateRow? at found
    simp only [TemplateRepository.getByID, Conn.exec, getTemplateByID, last, found]
  have texts : ∀ field, TemplateUpdates.content row' field = content field :=
    fun field => congrFun contents field
  refine ⟨?_, ⟨_, fetched, version⟩, ?_, ?_⟩
  · have body : row'.bodyTemplate = content .bodyTemplate := texts .bodyTemplate
    have subject : row'.subjectTemplate = content .subjectTemplate := texts .subjectTemplate
    simp only [TemplateService.render, fetched, dbTemplateToDomain, renderTexts, body, subject]
    rfl
  · rw [← name, getByName_iff_active found, ← texts .isActive]
    cases active : row'.isActive with
    | false => simp [TemplateUpdates.content, active]
    | true => simp [TemplateUpdates.content, active]
  · intro conn tenant req target now same fits
    apply create_refused_of_taken _ conn tenant req target now same fits
    exact List.mem_map.mpr ⟨row', List.mem_of_find?_eq_some found, name⟩

/-! ## A template that is changed and then deleted -/

/-- An engine whose templates have no actions. -/
def echo : Engine := ⟨fun _ text => .ok fun _ => .ok text⟩

def hello : TemplateRow :=
  { id := 1
    tenantID := some 7
    name := "hello"
    channel := .email
    subjectTemplate := some "Hello"
    bodyTemplate := "Welcome"
    metadata := none
    version := 1
    isActive := true
    createdAt := 0
    updatedAt := 0 }

def withHello : Database := (Database.ofTenants [7, 8]).addTemplate hello (by decide)

/-- The tenant changes the body and deletes the template; another one tries to do the same. -/
def rewordedAndDeleted : List TemplateCall :=
  [.update .up .up 7 1 ⟨none, some "Good morning", none, none⟩ 10,
    .update .up .up 8 1 ⟨none, some "Bye", none, none⟩ 20,
    .delete .up 7 1 30]

theorem deleted_template_renders :
    templateRow? withHello 7 1 = some hello ∧
      TemplateService.render echo .up (TemplateCall.after withHello rewordedAndDeleted) 7 1 none =
        .ok ("Hello", "Good morning") :=
  ⟨by decide +kernel,
    (render_follows_changes echo withHello 7 1 hello rewordedAndDeleted none
      (by decide +kernel)).1.trans (by decide +kernel)⟩

end NotifyHub
