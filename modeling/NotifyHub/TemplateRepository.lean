import Mathlib.Data.List.Sort
import Mathlib.Data.String.Basic
import NotifyHub.Database

/-! # `postgresTemplateRepo`

The statements of `queries/template.sql` and the repository operations over them,
in the same form as for notifications.
-/

namespace NotifyHub

open Database

structure InsertTemplateParams where
  tenantID : Option UUID
  name : String
  channel : Channel
  subjectTemplate : Option String
  bodyTemplate : String
  metadata : Option JSONMap

/-- The row an INSERT would add: `metadata` is given, so its default does not apply. -/
def InsertTemplateParams.row (p : InsertTemplateParams) (id : UUID) (now : Time) :
    Option TemplateRow := do
  let name ← varchar 255 p.name
  let channel ← varchar 50 p.channel.text
  return {
    id := id
    tenantID := p.tenantID
    name := name
    channel := .ofText channel
    subjectTemplate := p.subjectTemplate
    bodyTemplate := p.bodyTemplate
    metadata := p.metadata
    version := 1
    isActive := true
    createdAt := now
    updatedAt := now }

def insertTemplate (db : Database) (p : InsertTemplateParams) (id : UUID) (now : Time) :
    Except SqlError (TemplateRow × Database) :=
  match p.row id now with
  | none => .error (.rejected "value too long for type character varying")
  | some row =>
      if accepted : db.AcceptsTemplate row then .ok (row, db.addTemplate row accepted)
      else .error (.rejected "constraint violation")

/-- `WHERE id = $1 AND tenant_id = $2`. -/
def templateAt (id tenantID : UUID) (t : TemplateRow) : Bool :=
  t.id == id && t.tenantID == some tenantID

def getTemplateByID (db : Database) (id tenantID : UUID) : Except SqlError TemplateRow :=
  match db.templates.find? (templateAt id tenantID) with
  | none => .error .noRows
  | some row => .ok row

/-- `WHERE name = $1 AND tenant_id = $2 AND is_active = true`. -/
def activeNamed (name : String) (tenantID : UUID) (t : TemplateRow) : Bool :=
  t.name == name && t.tenantID == some tenantID && t.isActive

def getTemplateByName (db : Database) (name : String) (tenantID : UUID) :
    Except SqlError TemplateRow :=
  match db.templates.find? (activeNamed name tenantID) with
  | none => .error .noRows
  | some row => .ok row

/-- The WHERE clause shared by the list and the count query. -/
def onChannel (tenantID : UUID) (channel : String) (t : TemplateRow) : Bool :=
  t.tenantID == some tenantID && (channel == "" || t.channel.text == channel)

/-- `ORDER BY name ASC`, under a collation that compares code points. -/
def listTemplates (db : Database) (tenantID : UUID) (channel : String) (limit offset : Int) :
    Except SqlError (List TemplateRow) :=
  page limit offset
    ((db.templates.filter (onChannel tenantID channel)).insertionSort fun a b => a.name ≤ b.name)

def countTemplates (db : Database) (tenantID : UUID) (channel : String) : Nat :=
  (db.templates.filter (onChannel tenantID channel)).length

structure UpdateTemplateParams where
  id : UUID
  tenantID : UUID
  subjectTemplate : Option String
  bodyTemplate : String
  metadata : Option JSONMap
  isActive : Bool

/-- The SET clause; `COALESCE` keeps the old value where the new one is NULL. -/
def UpdateTemplateParams.update (p : UpdateTemplateParams) (now : Time) : TemplateUpdate :=
  { set := fun t =>
      { t with
        subjectTemplate := p.subjectTemplate.or t.subjectTemplate
        bodyTemplate := p.bodyTemplate
        metadata := p.metadata.or t.metadata
        isActive := p.isActive
        version := t.version + 1
        updatedAt := now }
    id := fun _ => rfl
    name := fun _ => rfl
    tenantID := fun _ => rfl }

/-- `version` is an INT: the statement fails when it would leave the range. -/
def updateTemplate (db : Database) (p : UpdateTemplateParams) (now : Time) :
    Except SqlError (TemplateRow × Database) :=
  match db.templates.find? (templateAt p.id p.tenantID) with
  | none => .error .noRows
  | some row =>
      if row.version + 1 < 2 ^ 31 then
        .ok ((p.update now).set row,
          db.setTemplates (templateAt p.id p.tenantID) (p.update now))
      else .error (.rejected "integer out of range")

/-- `SET is_active = false, updated_at = NOW()`. -/
def deactivate (now : Time) : TemplateUpdate :=
  { set := fun t => { t with isActive := false, updatedAt := now }
    id := fun _ => rfl
    name := fun _ => rfl
    tenantID := fun _ => rfl }

def deleteTemplate (db : Database) (id tenantID : UUID) (now : Time) :
    Except SqlError (TemplateRow × Database) :=
  match db.templates.find? (templateAt id tenantID) with
  | none => .error .noRows
  | some row =>
      .ok ((deactivate now).set row, db.setTemplates (templateAt id tenantID) (deactivate now))

def dbTemplateToDomain (t : TemplateRow) : Template :=
  { id := t.id
    name := t.name
    channel := t.channel
    subjectTemplate := t.subjectTemplate
    bodyTemplate := t.bodyTemplate
    metadata := t.metadata
    version := t.version
    isActive := t.isActive
    createdAt := t.createdAt
    updatedAt := t.updatedAt }

/-! ## Repository operations -/

namespace TemplateRepository

def errTemplateNotFound : String := "template not found"

def insertParams (tenantID : UUID) (req : CreateTemplateRequest) : InsertTemplateParams :=
  { tenantID := some tenantID
    name := req.name
    channel := req.channel
    subjectTemplate := req.subjectTemplate
    bodyTemplate := req.bodyTemplate
    metadata := req.metadata }

def create (conn : Conn) (db : Database) (tenantID : UUID) (req : CreateTemplateRequest)
    (id : UUID) (now : Time) : Except AppError (Template × Database) :=
  match conn.exec (insertTemplate db (insertParams tenantID req) id now) with
  | .error _ => .error (newInternalError "failed to insert template")
  | .ok (row, db') => .ok (dbTemplateToDomain row, db')

def getByID (conn : Conn) (db : Database) (tenantID id : UUID) : Except AppError Template :=
  match conn.exec (getTemplateByID db id tenantID) with
  | .error .noRows => .error (newNotFoundError errTemplateNotFound)
  | .error _ => .error (newInternalError "failed to get template")
  | .ok row => .ok (dbTemplateToDomain row)

def getByName (conn : Conn) (db : Database) (tenantID : UUID) (name : String) :
    Except AppError Template :=
  match conn.exec (getTemplateByName db name tenantID) with
  | .error .noRows => .error (newNotFoundError errTemplateNotFound)
  | .error _ => .error (newInternalError "failed to get template by name")
  | .ok row => .ok (dbTemplateToDomain row)

/-- Two statements, hence two connections. -/
def list (conn countConn : Conn) (db : Database) (tenantID : UUID) (channel : Channel)
    (pageNo perPage : Int) : Except AppError (List Template × Nat) :=
  let pageNo := if pageNo < 1 then 1 else pageNo
  let perPage := if perPage < 1 then 20 else perPage
  match conn.exec (listTemplates db tenantID channel.text (int32 perPage)
      (int32 (int64 ((pageNo - 1) * perPage)))) with
  | .error _ => .error (newInternalError "failed to list templates")
  | .ok rows =>
      match countConn.exec (.ok (countTemplates db tenantID channel.text)) with
      | .error _ => .error (newInternalError "failed to count templates")
      | .ok total => .ok (rows.map dbTemplateToDomain, total)

/-- What a partial update writes: fields absent from the request as they were read. -/
def updateParams (tenantID id : UUID) (existing : Template) (req : UpdateTemplateRequest) :
    UpdateTemplateParams :=
  { id := id
    tenantID := tenantID
    subjectTemplate := req.subjectTemplate.or existing.subjectTemplate
    bodyTemplate := req.bodyTemplate.getD existing.bodyTemplate
    metadata := req.metadata.or existing.metadata
    isActive := req.isActive.getD existing.isActive }

/-- A read and a write, each with its own connection. -/
def update (conn updateConn : Conn) (db : Database) (tenantID id : UUID)
    (req : UpdateTemplateRequest) (now : Time) : Except AppError (Template × Database) :=
  match getByID conn db tenantID id with
  | .error e => .error e
  | .ok existing =>
      match updateConn.exec (updateTemplate db (updateParams tenantID id existing req) now) with
      | .error .noRows => .error (newNotFoundError errTemplateNotFound)
      | .error _ => .error (newInternalError "failed to update template")
      | .ok (row, db') => .ok (dbTemplateToDomain row, db')

def delete (conn : Conn) (db : Database) (tenantID id : UUID) (now : Time) :
    Except AppError (Template × Database) :=
  match conn.exec (deleteTemplate db id tenantID now) with
  | .error .noRows => .error (newNotFoundError errTemplateNotFound)
  | .error _ => .error (newInternalError "failed to delete template")
  | .ok (row, db') => .ok (dbTemplateToDomain row, db')

end TemplateRepository

end NotifyHub
