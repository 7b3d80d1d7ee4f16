import NotifyHub.InboxPages
import NotifyHub.NotificationRepository
import NotifyHub.Stores.DeadLetterRepository
import NotifyHub.TemplateRepository

/-! # Page numbers and offsets in 32 bits

The list handlers take any 64-bit page, page size or offset from the query string. The
repositories multiply in 64 bits and narrow the result to the 32 bits of LIMIT and OFFSET. A
number of 2^31 or more comes out as another one, or as a negative one that Postgres refuses.
-/

namespace NotifyHub

open Database Rows

/-! ## The handlers -/

/-- The filter that `NotificationHandler.List` makes of a request. `page` and `perPage` are what
    `strconv.Atoi` returns, errors ignored. -/
def NotificationHandler.filter (recipientID channel status : String) (page perPage : Int) :
    ListNotificationsFilter :=
  { recipientID := recipientID
    channel := channel
    status := status
    page := if page < 1 then 1 else page
    perPage := if perPage < 1 then 20 else perPage }

/-- The arguments that `TemplateHandler.List` passes on. -/
def TemplateHandler.pageNumbers (page perPage : Int) : Int × Int :=
  (if page < 1 then 1 else page, if perPage < 1 then 20 else perPage)

/-- The query parameters of a dead-letter list, numbers as `strconv.Atoi` accepts them. -/
structure DLQParams where
  channel : String
  unreplayed : String
  limit : Option Int
  offset : Option Int
  deriving Repr, DecidableEq

/-- The parameters that `DLQHandler.List` passes on. -/
def DLQHandler.listParams (tenantID : UUID) (params : DLQParams) : DeadLetterListParams :=
  { tenantID := tenantID
    channel := params.channel
    unreplayed := if params.unreplayed = "true" then some true else none
    limit :=
      match params.limit with
      | some n => if 0 < n ∧ n ≤ 500 then n else 50
      | none => 50
    offset :=
      match params.offset with
      | some n => if 0 ≤ n then n else 0
      | none => 0 }

/-! ## The filtered and ordered results -/

namespace NotificationRepository

def listed (db : Database) (tenantID : UUID) (filter : ListNotificationsFilter) :
    List NotificationRow :=
  (db.notifications.filter
      (matchesFilter tenantID filter.recipientID filter.channel filter.status)).insertionSort
    fun a b => b.createdAt ≤ a.createdAt

end NotificationRepository

namespace TemplateRepository

def listed (db : Database) (tenantID : UUID) (channel : Channel) : List TemplateRow :=
  (db.templates.filter (onChannel tenantID channel.text)).insertionSort fun a b => a.name ≤ b.name

end TemplateRepository

namespace InAppRepository

def listed (s : Storage) (q : InboxQuery) : List InAppRow :=
  (matching s q).insertionSort fun a b => b.createdAt ≤ a.createdAt

end InAppRepository

namespace DeadLetterRepository

def listed (s : Storage) (params : DeadLetterListParams) : List DeadLetterRow :=
  (s.deadLetters.rows.filter (listedDeadLetter params.tenantID params.channel
      (params.unreplayed.getD false))).insertionSort fun a b => b.createdAt ≤ a.createdAt

end DeadLetterRepository

/-! ## Narrowing -/

/-- Of `n` rows, the page of `limit` rows from `offset` on is that of the narrowed numbers: none
    of them is taken for negative, and both windows are the same or both are empty. -/
def Narrowable (n offset limit : Nat) : Prop :=
  offset % 2 ^ 32 < 2 ^ 31 ∧ limit % 2 ^ 32 < 2 ^ 31 ∧
    (offset < 2 ^ 32 ∧ (limit < 2 ^ 32 ∨ n ≤ offset + limit % 2 ^ 32) ∨
      n ≤ offset ∧ (n ≤ offset % 2 ^ 32 ∨ limit % 2 ^ 32 = 0))

instance (n offset limit : Nat) : Decidable (Narrowable n offset limit) :=
  inferInstanceAs (Decidable (_ ∧ _ ∧ (_ ∨ _)))

/-- The same for the page with this number, of this size. -/
def NarrowablePage (n : Nat) (page perPage : Int) : Prop :=
  Narrowable n ((page - 1) * perPage).toNat perPage.toNat

theorem narrowable_of_lt {n offset limit : Nat} (offsetFits : offset < 2 ^ 31)
    (limitFits : limit < 2 ^ 31) : Narrowable n offset limit := by
  simp only [Narrowable]
  omega

theorem int32_int64 (x : Int) : int32 (int64 x) = int32 x :=
  Int.bmod_bmod_of_dvd (by decide)

theorem int32_nonneg_iff (a : Nat) : 0 ≤ int32 a ↔ a % 2 ^ 32 < 2 ^ 31 := by
  simp only [int32, Int.bmod_def]
  omega

theorem toNat_int32 {a : Nat} (fits : a % 2 ^ 32 < 2 ^ 31) : (int32 a).toNat = a % 2 ^ 32 := by
  simp only [int32, Int.bmod_def]
  omega

section Page

variable {ρ ν : Type} {f : ρ → ν} {rows : List ρ} {offset limit : Nat}

theorem page_int32 (offsetFits : offset % 2 ^ 32 < 2 ^ 31) (limitFits : limit % 2 ^ 32 < 2 ^ 31)
    (rows : List ρ) :
    page (int32 limit) (int32 offset) rows =
      .ok (window (offset % 2 ^ 32) (limit % 2 ^ 32) rows) := by
  have offsetNatural := (int32_nonneg_iff offset).mpr offsetFits
  have limitNatural := (int32_nonneg_iff limit).mpr limitFits
  rw [page, if_neg (Int.not_lt.mpr limitNatural), if_neg (Int.not_lt.mpr offsetNatural),
    toNat_int32 offsetFits, toNat_int32 limitFits, window]

theorem fits_of_page {shown : List ρ} (done : page (int32 limit) (int32 offset) rows = .ok shown) :
    offset % 2 ^ 32 < 2 ^ 31 ∧ limit % 2 ^ 32 < 2 ^ 31 := by
  rw [← int32_nonneg_iff, ← int32_nonneg_iff]
  unfold page at done
  split at done
  · cases done
  · split at done
    · cases done
    · rename_i limitNatural offsetNatural
      exact ⟨Int.not_lt.mp offsetNatural, Int.not_lt.mp limitNatural⟩

/-- A list statement returns the page it was asked for if and only if its numbers can be
    narrowed. -/
theorem page_window_iff {offset limit : Int} (distinct : (rows.map f).Nodup)
    (offsetNatural : 0 ≤ offset) (positive : 1 ≤ limit) :
    (∃ shown, page (int32 limit) (int32 offset) rows = .ok shown ∧
        shown.map f = window offset.toNat limit.toNat (rows.map f)) ↔
      Narrowable rows.length offset.toNat limit.toNat := by
  lift offset to Nat using offsetNatural
  lift limit to Nat using by omega
  rw [Int.toNat_natCast, Int.toNat_natCast]
  constructor
  · rintro ⟨shown, done, same⟩
    obtain ⟨offsetFits, limitFits⟩ := fits_of_page done
    rw [page_int32 offsetFits limitFits] at done
    obtain rfl := Except.ok.inj done
    rw [map_window, window_eq_iff distinct, List.length_map] at same
    refine ⟨offsetFits, limitFits, ?_⟩
    omega
  · rintro ⟨offsetFits, limitFits, same⟩
    refine ⟨_, page_int32 offsetFits limitFits rows, ?_⟩
    rw [map_window, window_eq_iff distinct, List.length_map]
    omega

end Page

/-! ## The lists -/

section Lists

variable {db : Database} {s : Storage} {tenantID : UUID}

/-- Rows with different keys are different after a conversion that keeps the key. -/
theorem nodup_listed {ρ ν κ : Type} {f : ρ → ν} {key : ρ → κ} {rows : List ρ} (key' : ν → κ)
    (keeps : ∀ row, key' (f row) = key row) (unique : UniqueOn (fun row => some (key row)) rows)
    (cond : ρ → Bool) (before : ρ → ρ → Prop) [DecidableRel before] :
    (((rows.filter cond).insertionSort before).map f).Nodup := by
  have keys : (((rows.filter cond).insertionSort before).map key).Nodup := by
    have sorted : (((rows.filter cond).insertionSort before).map key).Perm
        ((rows.filter cond).map key) := (List.perm_insertionSort before _).map key
    rw [sorted.nodup_iff]
    exact (uniqueOn_some.mp unique).sublist (List.filter_sublist.map key)
  refine List.Nodup.of_map key' ?_
  rwa [List.map_map, show key' ∘ f = key from funext keeps]

namespace NotificationRepository

/-- List returns the page with this number, of this size, and the total. -/
def ListsPage (db : Database) (tenantID : UUID) (filter : ListNotificationsFilter) : Prop :=
  list .up .up db tenantID filter =
    .ok (window ((filter.page - 1) * filter.perPage).toNat filter.perPage.toNat
        ((listed db tenantID filter).map dbNotificationToDomain), (listed db tenantID filter).length)

def PageFits (db : Database) (tenantID : UUID) (filter : ListNotificationsFilter) : Prop :=
  NarrowablePage (listed db tenantID filter).length filter.page filter.perPage

theorem list_up {filter : ListNotificationsFilter} (pagePositive : 1 ≤ filter.page)
    (positive : 1 ≤ filter.perPage) :
    list .up .up db tenantID filter =
      match page (int32 filter.perPage) (int32 ((filter.page - 1) * filter.perPage))
          (listed db tenantID filter) with
      | .error _ => .error (newInternalError "failed to list notifications")
      | .ok rows =>
          .ok (rows.map dbNotificationToDomain, (listed db tenantID filter).length) := by
  have count : countNotifications db tenantID filter.recipientID filter.channel filter.status =
      (listed db tenantID filter).length := (List.length_insertionSort _ _).symm
  simp only [list, Conn.exec, if_neg (Int.not_lt.mpr pagePositive),
    if_neg (Int.not_lt.mpr positive), int32_int64, count]
  rfl

theorem listsPage_iff {filter : ListNotificationsFilter} (pagePositive : 1 ≤ filter.page)
    (positive : 1 ≤ filter.perPage) :
    ListsPage db tenantID filter ↔ PageFits db tenantID filter := by
  have distinct : ((listed db tenantID filter).map dbNotificationToDomain).Nodup :=
    nodup_listed Notification.id (fun _ => rfl) db.notifications_pkey _ _
  have offsetNatural : 0 ≤ (filter.page - 1) * filter.perPage :=
    Int.mul_nonneg (by omega) (by omega)
  rw [ListsPage, list_up pagePositive positive, PageFits, NarrowablePage,
    ← page_window_iff distinct offsetNatural positive]
  cases page (int32 filter.perPage) (int32 ((filter.page - 1) * filter.perPage))
      (listed db tenantID filter) with
  | error e => simp
  | ok shown => simp

end NotificationRepository

namespace TemplateRepository

/-- List returns the page with this number, of this size, and the total. -/
def ListsPage (db : Database) (tenantID : UUID) (channel : Channel) (pageNo perPage : Int) : Prop :=
  list .up .up db tenantID channel pageNo perPage =
    .ok (window ((pageNo - 1) * perPage).toNat perPage.toNat
        ((listed db tenantID channel).map dbTemplateToDomain), (listed db tenantID channel).length)

def PageFits (db : Database) (tenantID : UUID) (channel : Channel) (pageNo perPage : Int) : Prop :=
  NarrowablePage (listed db tenantID channel).length pageNo perPage

theorem list_up {channel : Channel} {pageNo perPage : Int} (pagePositive : 1 ≤ pageNo)
    (positive : 1 ≤ perPage) :
    list .up .up db tenantID channel pageNo perPage =
      match page (int32 perPage) (int32 ((pageNo - 1) * perPage)) (listed db tenantID channel) with
      | .error _ => .error (newInternalError "failed to list templates")
      | .ok rows => .ok (rows.map dbTemplateToDomain, (listed db tenantID channel).length) := by
  have count : countTemplates db tenantID channel.text = (listed db tenantID channel).length :=
    (List.length_insertionSort _ _).symm
  simp only [list, Conn.exec, if_neg (Int.not_lt.mpr pagePositive),
    if_neg (Int.not_lt.mpr positive), int32_int64, count]
  rfl

theorem listsPage_iff {channel : Channel} {pageNo perPage : Int} (pagePositive : 1 ≤ pageNo)
    (positive : 1 ≤ perPage) :
    ListsPage db tenantID channel pageNo perPage ↔
      PageFits db tenantID channel pageNo perPage := by
  have distinct : ((listed db tenantID channel).map dbTemplateToDomain).Nodup :=
    nodup_listed Template.id (fun _ => rfl) db.templates_pkey _ _
  have offsetNatural : 0 ≤ (pageNo - 1) * perPage := Int.mul_nonneg (by omega) (by omega)
  rw [ListsPage, list_up pagePositive positive, PageFits, NarrowablePage,
    ← page_window_iff distinct offsetNatural positive]
  cases page (int32 perPage) (int32 ((pageNo - 1) * perPage)) (listed db tenantID channel) with
  | error e => simp
  | ok shown => simp

end TemplateRepository

namespace InAppRepository

/-- List returns up to `limit` messages from the offset on. -/
def ListsFrom (s : Storage) (q : InboxQuery) : Prop :=
  list .up .up s q = .ok (window q.offset.toNat q.limit.toNat ((listed s q).map fromDBInApp))

def OffsetFits (s : Storage) (q : InboxQuery) : Prop :=
  Narrowable (listed s q).length q.offset.toNat q.limit.toNat

theorem listsFrom_iff {q : InboxQuery} (without : q.afterID = none) (offsetNatural : 0 ≤ q.offset)
    (positive : 1 ≤ q.limit) : ListsFrom s q ↔ OffsetFits s q := by
  have distinct : ((listed s q).map fromDBInApp).Nodup :=
    nodup_listed InAppMessage.id (fun _ => rfl) s.inapp.pkey _ _
  have shows : list .up .up s q = (do
      let rows ← wrapError "list inbox" (page (int32 q.limit) (int32 q.offset) (listed s q))
      return rows.map fromDBInApp) := by
    simp only [list, without, if_neg (show ¬q.limit ≤ 0 by omega)]
    rfl
  rw [ListsFrom, shows, OffsetFits, ← page_window_iff distinct offsetNatural positive]
  cases page (int32 q.limit) (int32 q.offset) (listed s q) with
  | error e => simp [wrapError, bind, Except.bind]
  | ok shown => simp [wrapError, bind, Except.bind, pure, Except.pure]

end InAppRepository

namespace DeadLetterRepository

/-- List returns up to `limit` messages from the offset on. -/
def ListsFrom (s : Storage) (params : DeadLetterListParams) : Prop :=
  list .up s params =
    .ok (window params.offset.toNat params.limit.toNat ((listed s params).map fromDBDeadLetter))

def OffsetFits (s : Storage) (params : DeadLetterListParams) : Prop :=
  Narrowable (listed s params).length params.offset.toNat params.limit.toNat

theorem listsFrom_iff {params : DeadLetterListParams} (offsetNatural : 0 ≤ params.offset)
    (positive : 1 ≤ params.limit) : ListsFrom s params ↔ OffsetFits s params := by
  have distinct : ((listed s params).map fromDBDeadLetter).Nodup :=
    nodup_listed DeadLetterMessage.id (fun _ => rfl) s.deadLetters.pkey _ _
  have shows : list .up s params = (do
      let rows ← wrapError "list dead letters"
        (page (int32 params.limit) (int32 params.offset) (listed s params))
      return rows.map fromDBDeadLetter) := by
    simp only [list, if_neg (show ¬params.limit ≤ 0 by omega)]
    rfl
  rw [ListsFrom, shows, OffsetFits, ← page_window_iff distinct offsetNatural positive]
  cases page (int32 params.limit) (int32 params.offset) (listed s params) with
  | error e => simp [wrapError, bind, Except.bind]
  | ok shown => simp [wrapError, bind, Except.bind, pure, Except.pure]

end DeadLetterRepository

end Lists

theorem NotificationHandler.positive (recipientID channel status : String) (page perPage : Int) :
    1 ≤ (NotificationHandler.filter recipientID channel status page perPage).page ∧
      1 ≤ (NotificationHandler.filter recipientID channel status page perPage).perPage := by
  simp only [NotificationHandler.filter]
  omega

theorem TemplateHandler.positive (page perPage : Int) :
    1 ≤ (TemplateHandler.pageNumbers page perPage).1 ∧
      1 ≤ (TemplateHandler.pageNumbers page perPage).2 := by
  simp only [TemplateHandler.pageNumbers]
  omega

/-- A number that both handlers take from the query string if it is in range, for a default. -/
theorem limit_positive {limit : Option Int} {most : Int} :
    1 ≤ match limit with
      | some n => if 0 < n ∧ n ≤ most then n else 50
      | none => 50 := by
  cases limit with
  | none => simp
  | some n => grind

theorem offset_natural {offset : Option Int} :
    0 ≤ match offset with
      | some n => if 0 ≤ n then n else 0
      | none => 0 := by
  cases offset with
  | none => decide
  | some n => grind

/-- For every content of the tables and all numbers in the query string, the list handlers get the
    rows at the positions asked for if and only if these numbers can be narrowed. -/
theorem pages_exact_iff (db : Database) (s : Storage) (tenantID : UUID) :
    (∀ recipientID channel status page perPage,
      NotificationRepository.ListsPage db tenantID
          (NotificationHandler.filter recipientID channel status page perPage) ↔
        NotificationRepository.PageFits db tenantID
          (NotificationHandler.filter recipientID channel status page perPage)) ∧
    (∀ channel page perPage,
      TemplateRepository.ListsPage db tenantID (.ofText channel)
          (TemplateHandler.pageNumbers page perPage).1 (TemplateHandler.pageNumbers page perPage).2 ↔
        TemplateRepository.PageFits db tenantID (.ofText channel)
          (TemplateHandler.pageNumbers page perPage).1
          (TemplateHandler.pageNumbers page perPage).2) ∧
    (∀ recipientID unread limit offset,
      InAppRepository.ListsFrom s
          (InboxHandler.query tenantID recipientID ⟨unread, limit, none, offset⟩) ↔
        InAppRepository.OffsetFits s
          (InboxHandler.query tenantID recipientID ⟨unread, limit, none, offset⟩)) ∧
    ∀ params,
      DeadLetterRepository.ListsFrom s (DLQHandler.listParams tenantID params) ↔
        DeadLetterRepository.OffsetFits s (DLQHandler.listParams tenantID params) := by
  refine ⟨fun recipientID channel status page perPage => ?_, fun channel page perPage => ?_,
    fun recipientID unread limit offset => ?_, fun params => ?_⟩
  · obtain ⟨pagePositive, positive⟩ :=
      NotificationHandler.positive recipientID channel status page perPage
    exact NotificationRepository.listsPage_iff pagePositive positive
  · obtain ⟨pagePositive, positive⟩ := TemplateHandler.positive page perPage
    exact TemplateRepository.listsPage_iff pagePositive positive
  · refine InAppRepository.listsFrom_iff rfl ?_ limit_positive
    cases offset with
    | none => exact le_rfl
    | some n => exact @offset_natural (some n)
  · exact DeadLetterRepository.listsFrom_iff offset_natural limit_positive

/-- Pages of 2147483648 notifications make List fail, also on an empty table, and the inbox from
    position 4294967296 on is the whole inbox again. -/
theorem pages_of_wrapped_numbers :
    NotificationRepository.list .up .up (.ofTenants [7]) 7
        (NotificationHandler.filter "" "" "" 1 2147483648) =
      .error (newInternalError "failed to list notifications") ∧
    ¬NotificationRepository.ListsPage (.ofTenants [7]) 7
      (NotificationHandler.filter "" "" "" 1 2147483648) ∧
    ((InAppRepository.list .up .up twins
        (InboxHandler.query 7 "u1" ⟨"", none, none, some 4294967296⟩)).toOption.map
      fun messages => messages.map (·.id)) = some [1, 2] ∧
    ¬InAppRepository.ListsFrom twins
      (InboxHandler.query 7 "u1" ⟨"", none, none, some 4294967296⟩) := by
  have fails : NotificationRepository.list .up .up (.ofTenants [7]) 7
      (NotificationHandler.filter "" "" "" 1 2147483648) =
        .error (newInternalError "failed to list notifications") := rfl
  refine ⟨fails, ?_, by decide +kernel, ?_⟩
  · rw [NotificationRepository.ListsPage, fails]
    simp
  · rw [InAppRepository.listsFrom_iff rfl (by decide) (by decide), InAppRepository.OffsetFits]
    decide +kernel

end NotifyHub
