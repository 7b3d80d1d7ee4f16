import NotifyHub.Lib.Observer
import NotifyHub.TemplateRepository

/-! # Templates of one tenant, seen from another

All statements on `templates` are filtered by `tenant_id`, but the UNIQUE constraint
on `name` is not. A tenant observes of the others exactly whether one of them holds
a name it would be free to take.
-/

namespace NotifyHub.Isolation.Templates

open Database TemplateRepository
open Observer (Isolated)

/-- The tenant's templates and its registration. -/
structure View where
  templates : List TemplateRow
  registered : Bool
  deriving DecidableEq

def view (tenantID : UUID) (db : Database) : View :=
  { templates := db.templates.filter (ownTemplate tenantID)
    registered := decide (tenantID ∈ db.tenants) }

/-- Everyone else's templates, and the other tables. -/
structure Rest where
  templates : List TemplateRow
  tenants : List UUID
  notifications : List NotificationRow
  deriving DecidableEq

def rest (tenantID : UUID) (db : Database) : Rest :=
  { templates := db.templates.filter (!ownTemplate tenantID ·)
    tenants := db.tenants
    notifications := db.notifications }

/-! ## The operations -/

inductive Op where
  | create (conn : Conn) (id : UUID) (now : Time) (req : CreateTemplateRequest)
  | getByID (conn : Conn) (id : UUID)
  | getByName (conn : Conn) (name : String)
  | list (conn countConn : Conn) (channel : Channel) (pageNo perPage : Int)
  | update (conn updateConn : Conn) (id : UUID) (now : Time) (req : UpdateTemplateRequest)
  | delete (conn : Conn) (id : UUID) (now : Time)

inductive Outcome where
  | one (result : Except AppError Template)
  | listed (result : Except AppError (List Template × Nat))
  deriving DecidableEq

/-- A write that fails leaves the database as it was. -/
def written (result : Except AppError (Template × Database)) (db : Database) : Outcome × Database :=
  match result with
  | .error e => (.one (.error e), db)
  | .ok (t, db') => (.one (.ok t), db')

def Op.exec (tenantID : UUID) : Op → Database → Outcome × Database
  | .create conn id now req, db => written (TemplateRepository.create conn db tenantID req id now) db
  | .getByID conn id, db => (.one (TemplateRepository.getByID conn db tenantID id), db)
  | .getByName conn name, db => (.one (TemplateRepository.getByName conn db tenantID name), db)
  | .list conn countConn channel pageNo perPage, db =>
      (.listed (TemplateRepository.list conn countConn db tenantID channel pageNo perPage), db)
  | .update conn updateConn id now req, db =>
      written (TemplateRepository.update conn updateConn db tenantID id req now) db
  | .delete conn id now, db => written (TemplateRepository.delete conn db tenantID id now) db

/-- The id an insert gets is new. -/
def Op.Fresh (db : Database) : Op → Prop
  | .create _ id _ _ => id ∉ db.templates.map (·.id)
  | .getByID .. | .getByName .. | .list .. | .update .. | .delete .. => True

instance (db : Database) : (op : Op) → Decidable (op.Fresh db)
  | .create _ id _ _ => inferInstanceAs (Decidable (id ∉ db.templates.map (·.id)))
  | .getByID .. | .getByName .. | .list .. | .update .. | .delete .. => .isTrue trivial

/-- The tenant is registered and holds no template of the name. -/
def ownAllows (tenantID : UUID) (db : Database) (row : TemplateRow) : Bool :=
  decide (tenantID ∈ db.tenants) &&
  !(db.templates.filter (ownTemplate tenantID)).any (·.name == row.name)

/-- The insert that the column widths and the tenant's own templates allow. -/
def Op.inserts (tenantID : UUID) (db : Database) : Op → List TemplateRow
  | .create .up id now req =>
      ((insertParams tenantID req).row id now).toList.filter (ownAllows tenantID db)
  | .create .down .. | .getByID .. | .getByName .. | .list .. | .update .. | .delete .. => []

/-- Another tenant holds the name. -/
def foreignHolds (tenantID : UUID) (db : Database) (name : String) : Bool :=
  (db.templates.filter (!ownTemplate tenantID ·)).any (·.name == name)

section TwoStates

variable {tenantID : UUID} {db db₁ db₂ : Database}

/-! ## Reads -/

theorem own_of_templateAt {id : UUID} (t : TemplateRow) (hit : templateAt id tenantID t = true) :
    ownTemplate tenantID t = true :=
  ((Bool.and_eq_true _ _).mp hit).2

theorem own_of_activeNamed {name : String} (t : TemplateRow)
    (hit : activeNamed name tenantID t = true) : ownTemplate tenantID t = true := by
  simp only [activeNamed, Bool.and_eq_true] at hit
  exact hit.1.2

theorem own_of_onChannel {channel : String} (t : TemplateRow)
    (hit : onChannel tenantID channel t = true) : ownTemplate tenantID t = true :=
  ((Bool.and_eq_true _ _).mp hit).1

theorem templates_agree (agree : view tenantID db₁ = view tenantID db₂) :
    db₁.templates.filter (ownTemplate tenantID) = db₂.templates.filter (ownTemplate tenantID) :=
  congrArg View.templates agree

theorem getTemplateByID_congr (agree : view tenantID db₁ = view tenantID db₂) (id : UUID) :
    getTemplateByID db₁ id tenantID = getTemplateByID db₂ id tenantID := by
  unfold getTemplateByID
  rw [Rows.find?_congr (templates_agree agree) own_of_templateAt]

theorem getByID_isolated (agree : view tenantID db₁ = view tenantID db₂) (conn : Conn) (id : UUID) :
    Isolated (view tenantID) (rest tenantID) ((Op.getByID conn id).exec tenantID) db₁ db₂ := by
  refine ⟨?_, agree, rfl, rfl⟩
  simp only [Op.exec, getByID, getTemplateByID_congr agree]

theorem getByName_isolated (agree : view tenantID db₁ = view tenantID db₂) (conn : Conn)
    (name : String) :
    Isolated (view tenantID) (rest tenantID) ((Op.getByName conn name).exec tenantID) db₁ db₂ := by
  have lookup : getTemplateByName db₁ name tenantID = getTemplateByName db₂ name tenantID := by
    unfold getTemplateByName
    rw [Rows.find?_congr (templates_agree agree) own_of_activeNamed]
  refine ⟨?_, agree, rfl, rfl⟩
  simp only [Op.exec, getByName, lookup]

theorem list_isolated (agree : view tenantID db₁ = view tenantID db₂) (conn countConn : Conn)
    (channel : Channel) (pageNo perPage : Int) :
    Isolated (view tenantID) (rest tenantID)
      ((Op.list conn countConn channel pageNo perPage).exec tenantID) db₁ db₂ := by
  have selected : db₁.templates.filter (onChannel tenantID channel.text) =
      db₂.templates.filter (onChannel tenantID channel.text) :=
    Rows.filter_congr (templates_agree agree) own_of_onChannel
  refine ⟨?_, agree, rfl, rfl⟩
  simp only [Op.exec, list, listTemplates, countTemplates, selected]

/-! ## Writes to a row found by id -/

/-- The shape of Update and Delete: the row at the id decides on the answer and on
    what is set there, if anything. -/
structure Rewrites (tenantID id : UUID) (exec : Database → Outcome × Database) where
  answer : Option TemplateRow → Outcome
  change : Option TemplateRow → Option TemplateUpdate
  shape : ∀ db, exec db = (answer (db.templates.find? (templateAt id tenantID)),
    match change (db.templates.find? (templateAt id tenantID)) with
    | none => db
    | some update => db.setTemplates (templateAt id tenantID) update)

theorem ownTemplate_set (update : TemplateUpdate) (t : TemplateRow) :
    ownTemplate tenantID (update.set t) = ownTemplate tenantID t := by
  simp only [ownTemplate, update.tenantID t]

theorem view_setTemplates (id : UUID) (update : TemplateUpdate) (db : Database) :
    view tenantID (db.setTemplates (templateAt id tenantID) update) =
      { view tenantID db with
        templates := Rows.updateWhere (templateAt id tenantID) update.set
          (view tenantID db).templates } :=
  congrArg (fun rows => { view tenantID db with templates := rows })
    (Rows.mine_updateWhere (ownTemplate_set update))

theorem rest_setTemplates (id : UUID) (update : TemplateUpdate) (db : Database) :
    rest tenantID (db.setTemplates (templateAt id tenantID) update) = rest tenantID db :=
  congrArg (fun rows => { rest tenantID db with templates := rows })
    (Rows.others_updateWhere own_of_templateAt (ownTemplate_set update))

theorem Rewrites.isolated {id : UUID} {exec : Database → Outcome × Database}
    (rewrites : Rewrites tenantID id exec) (agree : view tenantID db₁ = view tenantID db₂) :
    Isolated (view tenantID) (rest tenantID) exec db₁ db₂ := by
  have found : db₁.templates.find? (templateAt id tenantID) =
      db₂.templates.find? (templateAt id tenantID) :=
    Rows.find?_congr (templates_agree agree) own_of_templateAt
  cases changed : rewrites.change (db₂.templates.find? (templateAt id tenantID)) with
  | none => constructor <;> simp only [rewrites.shape, found, changed, agree]
  | some update =>
      constructor <;>
        simp only [rewrites.shape, found, changed, view_setTemplates, rest_setTemplates, agree]

/-- What one statement of a write makes of the row it finds. -/
def updateRewrites (tenantID : UUID) (conn updateConn : Conn) (id : UUID) (now : Time)
    (req : UpdateTemplateRequest) :
    Rewrites tenantID id ((Op.update conn updateConn id now req).exec tenantID) :=
  match conn, updateConn with
  | .down, _ =>
      { answer := fun _ => .one (.error (newInternalError "failed to get template"))
        change := fun _ => none
        shape := fun _ => rfl }
  | .up, .down =>
      { answer := fun
          | none => .one (.error (newNotFoundError errTemplateNotFound))
          | some _ => .one (.error (newInternalError "failed to update template"))
        change := fun _ => none
        shape := by
          intro db
          simp only [Op.exec, update, getByID, getTemplateByID, Conn.exec]
          cases db.templates.find? (templateAt id tenantID) <;> rfl }
  | .up, .up =>
      { answer := fun
          | none => .one (.error (newNotFoundError errTemplateNotFound))
          | some row =>
              if row.version + 1 < 2 ^ 31 then
                .one (.ok (dbTemplateToDomain
                  (((updateParams tenantID id (dbTemplateToDomain row) req).update now).set row)))
              else .one (.error (newInternalError "failed to update template"))
        change := fun
          | none => none
          | some row =>
              if row.version + 1 < 2 ^ 31 then
                some ((updateParams tenantID id (dbTemplateToDomain row) req).update now)
              else none
        shape := by
          intro db
          have target : ∀ existing, (updateParams tenantID id existing req).id = id ∧
              (updateParams tenantID id existing req).tenantID = tenantID :=
            fun _ => ⟨rfl, rfl⟩
          simp only [Op.exec, update, getByID, getTemplateByID, Conn.exec, updateTemplate, target]
          cases db.templates.find? (templateAt id tenantID) with
          | none => rfl
          | some row =>
              by_cases inRange : row.version + 1 < 2 ^ 31
              · simp only [if_pos inRange, written]
              · simp only [if_neg inRange, written] }

def deleteRewrites (tenantID : UUID) (conn : Conn) (id : UUID) (now : Time) :
    Rewrites tenantID id ((Op.delete conn id now).exec tenantID) :=
  match conn with
  | .down =>
      { answer := fun _ => .one (.error (newInternalError "failed to delete template"))
        change := fun _ => none
        shape := fun _ => rfl }
  | .up =>
      { answer := fun
          | none => .one (.error (newNotFoundError errTemplateNotFound))
          | some row => .one (.ok (dbTemplateToDomain ((deactivate now).set row)))
        change := fun
          | none => none
          | some _ => some (deactivate now)
        shape := by
          intro db
          simp only [Op.exec, delete, deleteTemplate, Conn.exec]
          cases db.templates.find? (templateAt id tenantID) <;> rfl }

/-! ## Create -/

section Create

variable {id : UUID} {now : Time} {req : CreateTemplateRequest} {row : TemplateRow}

theorem row_of_insertParams (fits : (insertParams tenantID req).row id now = some row) :
    row.id = id ∧ row.tenantID = some tenantID := by
  simp only [InsertTemplateParams.row, insertParams, Option.bind_eq_bind,
    Option.bind_eq_some_iff] at fits
  obtain ⟨_, _, _, _, made⟩ := fits
  obtain rfl := Option.some.inj made
  exact ⟨rfl, rfl⟩

theorem name_taken_iff (tenantID : UUID) (db : Database) (name : String) :
    name ∈ db.templates.map (·.name) ↔
      (db.templates.filter (ownTemplate tenantID)).any (·.name == name) = true ∨
        foreignHolds tenantID db name = true := by
  simp only [foreignHolds, List.mem_map, List.any_eq_true, List.mem_filter, beq_iff_eq,
    Bool.not_eq_true']
  constructor
  · rintro ⟨t, member, named⟩
    cases own : ownTemplate tenantID t with
    | true => exact .inl ⟨t, ⟨member, own⟩, named⟩
    | false => exact .inr ⟨t, ⟨member, own⟩, named⟩
  · rintro (⟨t, ⟨member, _⟩, named⟩ | ⟨t, ⟨member, _⟩, named⟩) <;> exact ⟨t, member, named⟩

/-- An insert passes if the own rows allow it and nobody else holds the name. -/
theorem accepts_iff (fits : (insertParams tenantID req).row id now = some row)
    (fresh : id ∉ db.templates.map (·.id)) :
    db.AcceptsTemplate row ↔
      ownAllows tenantID db row = true ∧ foreignHolds tenantID db row.name = false := by
  obtain ⟨rowID, owner⟩ := row_of_insertParams fits
  have free : row.name ∉ db.templates.map (·.name) ↔
      (db.templates.filter (ownTemplate tenantID)).any (·.name == row.name) = false ∧
        foreignHolds tenantID db row.name = false := by
    rw [name_taken_iff tenantID, not_or, Bool.not_eq_true, Bool.not_eq_true]
  simp only [AcceptsTemplate, free, rowID, owner, ownAllows, Bool.and_eq_true, decide_eq_true_eq,
    Bool.not_eq_true', Option.mem_def, Option.some.injEq, forall_eq']
  constructor
  · rintro ⟨_, ⟨own, foreign⟩, registered⟩
    exact ⟨⟨registered, own⟩, foreign⟩
  · rintro ⟨⟨registered, own⟩, foreign⟩
    exact ⟨fresh, ⟨own, foreign⟩, registered⟩

/-- Answer of a refused insert. -/
def insertFailed : Outcome := .one (.error (newInternalError "failed to insert template"))

theorem create_of_refused {conn : Conn} (fresh : id ∉ db.templates.map (·.id))
    (refused : ∀ row ∈ (Op.create conn id now req).inserts tenantID db,
      foreignHolds tenantID db row.name = true) :
    (Op.create conn id now req).exec tenantID db = (insertFailed, db) := by
  cases conn with
  | down => rfl
  | up =>
      cases fits : (insertParams tenantID req).row id now with
      | none => simp [Op.exec, create, Conn.exec, insertTemplate, fits, written, insertFailed]
      | some row =>
          have rejected : ¬ db.AcceptsTemplate row := by
            rw [accepts_iff fits fresh]
            rintro ⟨own, free⟩
            have held := refused row (by simp [Op.inserts, fits, own])
            rw [free] at held
            exact Bool.false_ne_true held
          simp [Op.exec, create, Conn.exec, insertTemplate, fits, rejected, written, insertFailed]

theorem create_of_free {conn : Conn} (fresh : id ∉ db.templates.map (·.id))
    (allowed : row ∈ (Op.create conn id now req).inserts tenantID db)
    (free : foreignHolds tenantID db row.name = false) :
    ∃ accepted : db.AcceptsTemplate row,
      (Op.create conn id now req).exec tenantID db =
        (.one (.ok (dbTemplateToDomain row)), db.addTemplate row accepted) := by
  cases conn with
  | down => simp [Op.inserts] at allowed
  | up =>
      simp only [Op.inserts, List.mem_filter, Option.mem_toList] at allowed
      obtain ⟨fits, own⟩ := allowed
      have accepted : db.AcceptsTemplate row := (accepts_iff fits fresh).mpr ⟨own, free⟩
      refine ⟨accepted, ?_⟩
      simp [Op.exec, create, Conn.exec, insertTemplate, Option.mem_def.mp fits, accepted, written]

theorem view_addTemplate (accepted : db.AcceptsTemplate row)
    (own : ownTemplate tenantID row = true) :
    view tenantID (db.addTemplate row accepted) =
      { view tenantID db with templates := (view tenantID db).templates ++ [row] } :=
  congrArg (fun rows => { view tenantID db with templates := rows })
    (Rows.mine_append (by simpa using own))

theorem rest_addTemplate (accepted : db.AcceptsTemplate row)
    (own : ownTemplate tenantID row = true) :
    rest tenantID (db.addTemplate row accepted) = rest tenantID db :=
  congrArg (fun rows => { rest tenantID db with templates := rows })
    (Rows.others_append (by simpa using own))

end Create

theorem inserts_congr (agree : view tenantID db₁ = view tenantID db₂) (op : Op) :
    op.inserts tenantID db₁ = op.inserts tenantID db₂ := by
  have allows : ownAllows tenantID db₁ = ownAllows tenantID db₂ := by
    have registered : decide (tenantID ∈ db₁.tenants) = decide (tenantID ∈ db₂.tenants) :=
      congrArg View.registered agree
    funext row
    unfold ownAllows
    rw [templates_agree agree, registered]
  cases op with
  | create conn id now req => cases conn <;> simp only [Op.inserts, allows]
  | getByID | getByName | list | update | delete => rfl

theorem inserts_own {op : Op} {row : TemplateRow} (allowed : row ∈ op.inserts tenantID db) :
    ownTemplate tenantID row = true ∧ ∀ other ∈ op.inserts tenantID db, other = row := by
  cases op with
  | create conn id now req =>
      cases conn with
      | down => simp [Op.inserts] at allowed
      | up =>
          simp only [Op.inserts, List.mem_filter, Option.mem_toList] at allowed ⊢
          refine ⟨by simp [ownTemplate, row_of_insertParams allowed.1], ?_⟩
          rintro other ⟨fits, _⟩
          exact Option.some.inj (fits.symm.trans allowed.1)
  | getByID | getByName | list | update | delete => simp [Op.inserts] at allowed

/-- A Create whose insert, if the own rows allow it, passes in both states or in none. -/
theorem create_isolated {conn : Conn} {id : UUID} {now : Time} {req : CreateTemplateRequest}
    (agree : view tenantID db₁ = view tenantID db₂) (fresh₁ : id ∉ db₁.templates.map (·.id))
    (fresh₂ : id ∉ db₂.templates.map (·.id))
    (holds : ∀ row ∈ (Op.create conn id now req).inserts tenantID db₁,
      foreignHolds tenantID db₁ row.name = foreignHolds tenantID db₂ row.name) :
    Isolated (view tenantID) (rest tenantID) ((Op.create conn id now req).exec tenantID)
      db₁ db₂ := by
  by_cases passes : ∃ row ∈ (Op.create conn id now req).inserts tenantID db₁,
      foreignHolds tenantID db₁ row.name = false
  · obtain ⟨row, allowed, free⟩ := passes
    obtain ⟨accepted₁, done₁⟩ := create_of_free fresh₁ allowed free
    obtain ⟨accepted₂, done₂⟩ := create_of_free fresh₂ (inserts_congr agree _ ▸ allowed)
      (holds row allowed ▸ free)
    have own := (inserts_own allowed).1
    constructor <;>
      simp only [done₁, done₂, view_addTemplate _ own, rest_addTemplate _ own, agree]
  · simp only [not_exists, not_and, Bool.not_eq_false] at passes
    have done₁ := create_of_refused fresh₁ passes
    have done₂ : (Op.create conn id now req).exec tenantID db₂ = (insertFailed, db₂) := by
      apply create_of_refused fresh₂
      intro row allowed
      rw [← inserts_congr agree] at allowed
      rw [← holds row allowed]
      exact passes row allowed
    constructor <;> simp only [done₁, done₂, agree]

/-- If the name is held in one state and free in the other, Create answers differently. -/
theorem not_isolated_of_held {op : Op} {row : TemplateRow} (fresh₁ : op.Fresh db₁)
    (fresh₂ : op.Fresh db₂) (allowed₁ : row ∈ op.inserts tenantID db₁)
    (allowed₂ : row ∈ op.inserts tenantID db₂)
    (held : foreignHolds tenantID db₁ row.name = true)
    (free : foreignHolds tenantID db₂ row.name = false) :
    (op.exec tenantID db₁).1 ≠ (op.exec tenantID db₂).1 := by
  cases op with
  | create conn id now req =>
      have refused : (Op.create conn id now req).exec tenantID db₁ = (insertFailed, db₁) := by
        apply create_of_refused fresh₁
        intro other member
        rw [(inserts_own allowed₁).2 other member]
        exact held
      obtain ⟨_, done⟩ := create_of_free fresh₂ allowed₂ free
      rw [refused, done]
      simp [insertFailed]
  | getByID | getByName | list | update | delete => simp [Op.inserts] at allowed₁

end TwoStates

/-- From two states a tenant cannot tell apart its operation gives the same outcome,
    leaves it the same templates and touches nothing else, if and only if the name it
    would be free to take is held by another tenant in both or in neither. -/
theorem templates_isolated_iff_same_names (tenantID : UUID) (op : Op) (db₁ db₂ : Database)
    (agree : view tenantID db₁ = view tenantID db₂) (fresh₁ : op.Fresh db₁)
    (fresh₂ : op.Fresh db₂) :
    Isolated (view tenantID) (rest tenantID) (op.exec tenantID) db₁ db₂ ↔
      ∀ row ∈ op.inserts tenantID db₁,
        foreignHolds tenantID db₁ row.name = foreignHolds tenantID db₂ row.name := by
  constructor
  · intro isolated row allowed₁
    have allowed₂ := inserts_congr agree op ▸ allowed₁
    cases left : foreignHolds tenantID db₁ row.name <;>
      cases right : foreignHolds tenantID db₂ row.name
    · rfl
    · exact absurd isolated.outcome.symm
        (not_isolated_of_held fresh₂ fresh₁ allowed₂ allowed₁ right left)
    · exact absurd isolated.outcome
        (not_isolated_of_held fresh₁ fresh₂ allowed₁ allowed₂ left right)
    · rfl
  · intro holds
    cases op with
    | create conn id now req => exact create_isolated agree fresh₁ fresh₂ holds
    | getByID conn id => exact getByID_isolated agree conn id
    | getByName conn name => exact getByName_isolated agree conn name
    | list conn countConn channel pageNo perPage =>
        exact list_isolated agree conn countConn channel pageNo perPage
    | update conn updateConn id now req =>
        exact (updateRewrites tenantID conn updateConn id now req).isolated agree
    | delete conn id now => exact (deleteRewrites tenantID conn id now).isolated agree

/-! ## Two tenants with one name -/

def shop : UUID := 1

def rival : UUID := 2

def mail (name : String) : CreateTemplateRequest :=
  { name := name
    channel := .email
    subjectTemplate := none
    bodyTemplate := "Hello"
    metadata := none }

def quiet : Database := .ofTenants [shop, rival]

/-- The rival has a template named welcome. -/
def busy : Database := ((Op.create .up 70 10 (mail "welcome")).exec rival quiet).2

theorem other_name_isolated :
    view shop quiet = view shop busy ∧
      Isolated (view shop) (rest shop) ((Op.create .up 80 10 (mail "farewell")).exec shop)
        quiet busy :=
  ⟨by decide +kernel,
    (templates_isolated_iff_same_names shop (.create .up 80 10 (mail "farewell")) quiet busy
      (by decide +kernel) (by decide +kernel) (by decide +kernel)).mpr (by decide +kernel)⟩

/-- The shop's own welcome template is accepted, or refused because of the rival's. -/
theorem same_name_observed :
    view shop quiet = view shop busy ∧
      (Op.create .up 80 10 (mail "welcome")).Fresh quiet ∧
      (Op.create .up 80 10 (mail "welcome")).Fresh busy ∧
      ((Op.create .up 80 10 (mail "welcome")).exec shop busy).1 = insertFailed ∧
      ¬ Isolated (view shop) (rest shop) ((Op.create .up 80 10 (mail "welcome")).exec shop)
        quiet busy := by
  decide +kernel

end NotifyHub.Isolation.Templates
