import NotifyHub.Worker.Pool

/-! # The order of sends to one recipient

The partition key is the recipient, so a recipient's messages reach the fetch loop
in the order in which they were published, and the work channel keeps it. The
workers take them one by one but handle them at the same time. `Ordering` looks at
one Run of the pool, with the provider's Send made visible inside Process: a worker
that has an item starts and finishes sends for it, as often as Process does.
-/

namespace NotifyHub.Ordering

open Transition (run Guarded)

/-- A pool, the sends in progress (worker and offset), and the offsets for which a
    send has started. -/
structure State where
  pool : Pool.State
  sending : List (Nat × Nat)
  begun : List Nat
  deriving Repr, DecidableEq

inductive Label where
  | pool (label : Pool.Label)
  | send (i : Nat)
  | sent (i : Nat)
  deriving Repr, DecidableEq

def started (concurrency : Nat) : State :=
  { pool := Pool.started concurrency .empty, sending := [], begun := [] }

section

variable {Raw : Type} (decode : Raw → Option Message) (log : List Raw)

def recipientAt (o : Nat) : Option String :=
  (log[o]?.bind decode).map (·.recipientID)

/-- Both messages decode, and they are for one recipient. -/
def SameRecipient (p q : Nat) : Prop :=
  (recipientAt decode log p).isSome ∧ recipientAt decode log p = recipientAt decode log q

instance (p q : Nat) : Decidable (SameRecipient decode log p q) :=
  inferInstanceAs (Decidable (_ ∧ _))

variable (concurrency : Nat)

def poolStep (s : State) (label : Pool.Label) : Option State :=
  (Pool.step decode log concurrency s.pool label).map fun pool => { s with pool := pool }

def step (s : State) : Label → Option State
  | .pool (.process i ok) =>
      -- Process returns after its last send
      if i ∈ s.sending.map (·.1) then none else poolStep decode log concurrency s (.process i ok)
  | .pool .restart => none
  | .pool label => poolStep decode log concurrency s label
  | .send i =>
      match s.pool.workers[i]? with
      | some (.processing item) =>
          if i ∈ s.sending.map (·.1) then none
          else some { s with
            sending := (i, item.offset) :: s.sending
            begun := item.offset :: s.begun }
      | _ => none
  | .sent i =>
      if i ∈ s.sending.map (·.1) then some { s with sending := s.sending.filter (·.1 != i) }
      else none

/-- The offset that the worker has in Process. -/
def hands (s : State) (i : Nat) : List Nat :=
  (s.pool.workers[i]?.map Pool.Worker.hands).getD []

/-- When a send starts, no send for an earlier message of the recipient is in
    progress, and none for a later one has started. -/
def InTurn (s : State) : Label → Prop
  | .send i =>
      i ∉ s.sending.map (·.1) → ∀ o ∈ hands s i,
        (∀ p ∈ s.sending.map (·.2), p < o → ¬ SameRecipient decode log p o) ∧
          ∀ q ∈ s.begun, o < q → ¬ SameRecipient decode log o q
  | .pool _ | .sent _ => True

instance (s : State) : ∀ label, Decidable (InTurn decode log s label)
  | .send _ => inferInstanceAs (Decidable (_ → ∀ _ ∈ _, _ ∧ _))
  | .pool _ | .sent _ => .isTrue trivial

end

/-! ## One worker -/

section OneWorker

variable {Raw : Type} {decode : Raw → Option Message} {log : List Raw} {concurrency : Nat}

/-- The offsets in hand, from the worker's back to the fetch loop's. -/
def queue (pool : Pool.State) : List Nat :=
  pool.workers.flatMap Pool.Worker.hands ++ pool.work.map (·.offset) ++ pool.fetcher.hands

theorem single {ws : List Pool.Worker} {i : Nat} {w : Pool.Worker} (one : ws.length ≤ 1)
    (running : ws[i]? = some w) : i = 0 ∧ ws = [w] := by
  have inside : i < ws.length := (List.getElem?_eq_some_iff.mp running).1
  obtain rfl : i = 0 := by omega
  obtain ⟨only, rfl⟩ := List.length_eq_one_iff.mp (Nat.le_antisymm one inside)
  exact ⟨rfl, by simpa using running⟩

/-- With one worker a step only takes from the queue, or adds the next offset to it. -/
theorem queue_step {pool pool' : Pool.State} {label : Pool.Label} (one : pool.workers.length ≤ 1)
    (kept : label ≠ .restart) (taken : Pool.step decode log concurrency pool label = some pool') :
    pool'.workers.length = pool.workers.length ∧
      ((queue pool').Sublist (queue pool) ∧ pool'.group.position = pool.group.position ∨
        (queue pool').Sublist (queue pool ++ [pool.group.position]) ∧
          pool'.group.position = pool.group.position + 1) := by
  cases Pool.step_goes taken with
  | restart => exact absurd rfl kept
  | cancel | retry | close => exact ⟨rfl, .inl ⟨List.Sublist.refl _, rfl⟩⟩
  | @fetch raw idle here =>
      refine ⟨rfl, .inr ⟨?_, rfl⟩⟩
      cases decoded : decode raw with
      | none => simp [queue, idle, Pool.fetched, decoded, Pool.Fetcher.hands]
      | some message => simp [queue, idle, Pool.fetched, decoded, Pool.Fetcher.hands]
  | stop idle => exact ⟨rfl, .inl ⟨by simp [queue, idle, Pool.Fetcher.hands], rfl⟩⟩
  | skip ok bad =>
      refine ⟨rfl, .inl ⟨by simp [queue, bad, Pool.Fetcher.hands], ?_⟩⟩
      cases ok <;> rfl
  | dispatch full => exact ⟨rfl, .inl ⟨by simp [queue, full, Pool.Fetcher.hands], rfl⟩⟩
  | receive running queued =>
      obtain ⟨rfl, alone⟩ := single one running
      refine ⟨by simp, .inl ⟨?_, rfl⟩⟩
      simp [queue, alone, queued, Pool.Worker.hands]
  | processed running | failed running | exit running =>
      obtain ⟨rfl, alone⟩ := single one running
      refine ⟨by simp, .inl ⟨?_, rfl⟩⟩
      simp [queue, alone, Pool.Worker.hands]
  | commit ok running =>
      obtain ⟨rfl, alone⟩ := single one running
      refine ⟨by simp, .inl ⟨by simp [queue, alone, Pool.Worker.hands], ?_⟩⟩
      cases ok <;> rfl

variable {s next : State}

/-- One worker at most, and what has been sent is not behind anything in the queue. -/
structure Serial (s : State) : Prop where
  one : s.pool.workers.length ≤ 1
  sorted : (queue s.pool).Pairwise (· < ·)
  fetched : ∀ o ∈ queue s.pool, o < s.pool.group.position
  begun : ∀ o ∈ s.begun, o < s.pool.group.position ∧ ∀ p ∈ queue s.pool, o ≤ p
  sending : ∀ i ∈ s.sending.map (·.1), i < s.pool.workers.length

theorem Serial.started (few : concurrency ≤ 1) : Serial (started concurrency) := by
  have none_ : queue (Pool.started concurrency .empty) = [] := by
    simp [queue, Pool.started, Pool.Worker.hands, Pool.Fetcher.hands, List.flatMap_replicate]
  refine ⟨by simpa [Ordering.started, Pool.started] using few, ?_, ?_, ?_, ?_⟩
  · simp [Ordering.started, none_]
  · simp [Ordering.started, none_]
  · simp [Ordering.started]
  · simp [Ordering.started]

theorem Serial.pool {label : Pool.Label} (serial : Serial s) (kept : label ≠ .restart)
    (taken : poolStep decode log concurrency s label = some next) : Serial next := by
  obtain ⟨pool', moved, rfl⟩ := Option.map_eq_some_iff.mp taken
  obtain ⟨length, change⟩ := queue_step serial.one kept moved
  have one : pool'.workers.length ≤ 1 := length ▸ serial.one
  have sending : ∀ i ∈ s.sending.map (·.1), i < pool'.workers.length := length ▸ serial.sending
  cases change with
  | inl less =>
      obtain ⟨sub, position⟩ := less
      refine ⟨one, serial.sorted.sublist sub, ?_, ?_, sending⟩
      · intro o member
        rw [position]
        exact serial.fetched o (sub.subset member)
      · intro o member
        rw [position]
        exact ⟨(serial.begun o member).1, fun p inside => (serial.begun o member).2 p (sub.subset inside)⟩
  | inr more =>
      obtain ⟨sub, position⟩ := more
      refine ⟨one, ?_, ?_, ?_, sending⟩
      · apply List.Pairwise.sublist sub
        rw [List.pairwise_append]
        refine ⟨serial.sorted, List.pairwise_singleton _ _, ?_⟩
        intro o inside p last
        rw [List.mem_singleton.mp last]
        exact serial.fetched o inside
      · intro o member
        rw [position]
        cases List.mem_append.mp (sub.subset member) with
        | inl old => exact Nat.lt_succ_of_lt (serial.fetched o old)
        | inr new => exact List.mem_singleton.mp new ▸ Nat.lt_succ_self _
      · intro o member
        obtain ⟨before, least⟩ := serial.begun o member
        rw [position]
        refine ⟨Nat.lt_succ_of_lt before, ?_⟩
        intro p inside
        cases List.mem_append.mp (sub.subset inside) with
        | inl old => exact least p old
        | inr new => exact List.mem_singleton.mp new ▸ Nat.le_of_lt before

theorem Serial.step {label : Label} (serial : Serial s)
    (taken : step decode log concurrency s label = some next) : Serial next := by
  cases label with
  | pool label =>
      cases label with
      | restart => cases taken
      | process i ok =>
          simp only [Ordering.step] at taken
          split at taken
          · cases taken
          · exact serial.pool (by simp) taken
      | cancel | fetch | fetchError | commitPoison | dispatch | receive | commit | exit | close =>
          exact serial.pool (by simp) taken
  | send i =>
      simp only [Ordering.step] at taken
      split at taken
      · rename_i item running
        split at taken
        · cases taken
        · obtain rfl := Option.some.inj taken
          obtain ⟨rfl, alone⟩ := single serial.one running
          have head : queue s.pool =
              item.offset :: (s.pool.work.map (·.offset) ++ s.pool.fetcher.hands) := by
            simp [queue, alone, Pool.Worker.hands]
          have first := serial.sorted
          rw [head, List.pairwise_cons] at first
          refine ⟨serial.one, serial.sorted, serial.fetched, ?_, ?_⟩
          · intro o member
            cases List.mem_cons.mp member with
            | inr old => exact serial.begun o old
            | inl new =>
                subst new
                refine ⟨serial.fetched _ (by simp [head]), ?_⟩
                intro p inside
                rw [head] at inside
                cases List.mem_cons.mp inside with
                | inl same => exact Nat.le_of_eq same.symm
                | inr behind => exact Nat.le_of_lt (first.1 p behind)
          · intro i member
            cases List.mem_cons.mp member with
            | inl new => simp [new, alone]
            | inr old => exact serial.sending i old
      · cases taken
  | sent i =>
      simp only [Ordering.step] at taken
      split at taken
      · obtain rfl := Option.some.inj taken
        refine ⟨serial.one, serial.sorted, serial.fetched, serial.begun, ?_⟩
        intro j member
        exact serial.sending j ((List.filter_sublist.map _).subset member)
      · cases taken

theorem Serial.inTurn (serial : Serial s) (label : Label) : InTurn decode log s label := by
  cases label with
  | pool | sent => trivial
  | send i =>
      intro free o held
      have inside : i < s.pool.workers.length := by
        by_contra outside
        rw [hands, List.getElem?_eq_none (Nat.not_lt.mp outside)] at held
        cases held
      have one := serial.one
      constructor
      · intro p busy
        obtain ⟨entry, member, _⟩ := List.mem_map.mp busy
        have worker := serial.sending entry.1 (List.mem_map_of_mem member)
        obtain same : entry.1 = i := by omega
        exact absurd (same ▸ List.mem_map_of_mem member) free
      · intro q sent later
        have front : o ∈ queue s.pool := by
          obtain ⟨w, running⟩ : ∃ w, s.pool.workers[i]? = some w := ⟨_, List.getElem?_eq_getElem inside⟩
          simp only [hands, running, Option.map_some, Option.getD_some] at held
          exact List.mem_append_left _ (List.mem_append_left _
            (List.mem_flatMap.mpr ⟨w, List.mem_of_getElem? running, held⟩))
        have least := (serial.begun q sent).2 o front
        omega

end OneWorker

/-! ## Two workers -/

section TwoWorkers

variable {Raw : Type} {decode : Raw → Option Message} {log : List Raw} {concurrency : Nat}
  {s : State} {w : Pool.Worker} {o : Nat}

/-- The next message goes to worker `i`. -/
def took (s : State) (i : Nat) (item : Pool.WorkItem) : State :=
  { s with
    pool :=
      { s.pool with
        group := s.pool.group.fetch
        workers := s.pool.workers.set i (.processing item) } }

/-- The first worker is `w`, the second one is free, and nothing else is in hand. -/
structure Drained (w : Pool.Worker) (o : Nat) (s : State) : Prop where
  fetcher : s.pool.fetcher = .fetching
  work : s.pool.work = []
  position : s.pool.group.position = o
  first : s.pool.workers[0]? = some w
  second : s.pool.workers[1]? = some .receiving
  sending : s.sending = []
  begun : s.begun = []

theorem Drained.started (two : 2 ≤ concurrency) :
    Drained .receiving 0 (started concurrency) := by
  have first : (List.replicate concurrency Pool.Worker.receiving)[0]? = some .receiving :=
    List.getElem?_replicate_of_lt (by omega)
  have second : (List.replicate concurrency Pool.Worker.receiving)[1]? = some .receiving :=
    List.getElem?_replicate_of_lt (by omega)
  exact ⟨rfl, rfl, rfl, first, second, rfl, rfl⟩

theorem Drained.take {message : Message} {raw : Raw} {i : Nat} (drained : Drained w o s)
    (two : 2 ≤ concurrency) (here : log[o]? = some raw) (decoded : decode raw = some message)
    (free : s.pool.workers[i]? = some .receiving) :
    run (step decode log concurrency) s [.pool .fetch, .pool .dispatch, .pool (.receive i)] =
      some (took s i ⟨o, message⟩) := by
  have room : 0 < concurrency := by omega
  simp [run, step, poolStep, Pool.step, drained.fetcher, drained.work, drained.position, here,
    Pool.fetched, decoded, room, free, took]

/-- The second worker, or the fetch loop, gets rid of the next message. -/
theorem Drained.next {raw : Raw} (drained : Drained w o s) (two : 2 ≤ concurrency)
    (here : log[o]? = some raw) :
    ∃ labels next, run (step decode log concurrency) s labels = some next ∧
      Drained w (o + 1) next := by
  cases decoded : decode raw with
  | none =>
      let after : State :=
        { s with pool := { s.pool with group := Consumer.commit s.pool.group.fetch o true } }
      have skipped : run (step decode log concurrency) s
          [.pool .fetch, .pool (.commitPoison true)] = some after := by
        simp [run, step, poolStep, Pool.step, drained.fetcher, drained.position, here,
          Pool.fetched, decoded, after]
      exact ⟨_, after, skipped, drained.fetcher, drained.work, congrArg (· + 1) drained.position,
        drained.first, drained.second, drained.sending, drained.begun⟩
  | some message =>
      let taken := took s 1 ⟨o, message⟩
      let after : State :=
        { s with
          pool :=
            { s.pool with
              group := Consumer.commit (s.pool.group.fetch.handle o) o true
              workers := taken.pool.workers.set 1 .receiving } }
      have busy : taken.pool.workers[1]? = some (.processing ⟨o, message⟩) :=
        Threads.set_self drained.second
      have handled : run (step decode log concurrency) taken
          [.pool (.process 1 true), .pool (.commit 1 true)] = some after := by
        have free : taken.sending = [] := drained.sending
        have committing : (taken.pool.workers.set 1 (.committing ⟨o, message⟩))[1]? =
            some (.committing ⟨o, message⟩) := Threads.set_self busy
        simp only [run, step, poolStep, Pool.step, busy, free, committing, List.map_nil,
          List.not_mem_nil, if_false, if_true, Option.map_some, List.set_set]
        rw [← drained.sending]
        rfl
      refine ⟨_, after, (Transition.run_append (drained.take two here decoded drained.second) _).trans
        handled, drained.fetcher, drained.work, congrArg (· + 1) drained.position, ?_,
        Threads.set_self busy, drained.sending, drained.begun⟩
      exact Threads.set_other (by decide) (Threads.set_other (by decide) drained.first)

theorem Drained.until {last : Nat} (drained : Drained w o s) (two : 2 ≤ concurrency)
    (before : o ≤ last) (inside : last ≤ log.length) :
    ∃ labels next, run (step decode log concurrency) s labels = some next ∧
      Drained w last next := by
  induction before with
  | refl => exact ⟨[], s, rfl, drained⟩
  | step _ ih =>
      obtain ⟨labels, middle, reached, there⟩ := ih (Nat.le_of_succ_le inside)
      have here := List.getElem?_eq_getElem (Nat.lt_of_succ_le inside)
      obtain ⟨more, next, reached', there'⟩ := there.next two here
      exact ⟨labels ++ more, next, (Transition.run_append reached more).trans reached', there'⟩

theorem Drained.took {message : Message} (drained : Drained .receiving o s) :
    Drained (.processing ⟨o, message⟩) (o + 1) (took s 0 ⟨o, message⟩) :=
  ⟨drained.fetcher, drained.work, congrArg (· + 1) drained.position,
    Threads.set_self drained.first, Threads.set_other (by decide) drained.second, drained.sending,
    drained.begun⟩

theorem decoded_of_recipient {r : String} (known : recipientAt decode log o = some r) :
    ∃ raw message, log[o]? = some raw ∧ decode raw = some message := by
  obtain ⟨message, found, _⟩ := Option.map_eq_some_iff.mp known
  obtain ⟨raw, here, decoded⟩ := Option.bind_eq_some_iff.mp found
  exact ⟨raw, message, here, decoded⟩

/-- A worker keeps the earlier message while the other one gets to the later message
    and sends it. -/
theorem overtakes {p q : Nat} (two : 2 ≤ concurrency) (earlier : p < q)
    (same : SameRecipient decode log p q) :
    ∃ labels, ¬ Guarded (step decode log concurrency) (InTurn decode log) (started concurrency)
      labels := by
  obtain ⟨r, recipient⟩ := Option.isSome_iff_exists.mp same.1
  obtain ⟨rawP, messageP, hereP, decodedP⟩ := decoded_of_recipient recipient
  obtain ⟨rawQ, messageQ, hereQ, decodedQ⟩ := decoded_of_recipient (same.2.symm.trans recipient)
  have insideP := (List.getElem?_eq_some_iff.mp hereP).1
  have insideQ := (List.getElem?_eq_some_iff.mp hereQ).1
  obtain ⟨toP, s₁, run₁, drained₁⟩ : ∃ labels next,
      run (step decode log concurrency) (started concurrency) labels = some next ∧
        Drained .receiving p next :=
    (Drained.started two).until two (Nat.zero_le p) (Nat.le_of_lt insideP)
  have run₂ := drained₁.take two hereP decodedP drained₁.first
  obtain ⟨toQ, s₃, run₃, drained₃⟩ : ∃ labels next,
      run (step decode log concurrency) (took s₁ 0 ⟨p, messageP⟩) labels = some next ∧
        Drained (.processing ⟨p, messageP⟩) q next :=
    drained₁.took.until two earlier (Nat.le_of_lt insideQ)
  have run₄ := drained₃.take two hereQ decodedQ drained₃.second
  refine ⟨toP ++ ([.pool .fetch, .pool .dispatch, .pool (.receive 0)] ++
    (toQ ++ ([.pool .fetch, .pool .dispatch, .pool (.receive 1)] ++ [.send 1, .send 0]))), ?_⟩
  intro all
  have last := (((all.after run₁).after run₂).after run₃).after run₄
  have busy : (took s₃ 1 ⟨q, messageQ⟩).pool.workers[1]? = some (.processing ⟨q, messageQ⟩) :=
    Threads.set_self drained₃.second
  have waiting : (took s₃ 1 ⟨q, messageQ⟩).pool.workers[0]? = some (.processing ⟨p, messageP⟩) :=
    Threads.set_other (by decide) drained₃.first
  have free : (took s₃ 1 ⟨q, messageQ⟩).sending = [] := drained₃.sending
  have sends : step decode log concurrency (took s₃ 1 ⟨q, messageQ⟩) (.send 1) =
      some { took s₃ 1 ⟨q, messageQ⟩ with
        sending := [(1, q)]
        begun := q :: (took s₃ 1 ⟨q, messageQ⟩).begun } := by
    simp [step, busy, free]
  have late := (last.tail sends).1
  have held : p ∈ hands { took s₃ 1 ⟨q, messageQ⟩ with
      sending := [(1, q)]
      begun := q :: (took s₃ 1 ⟨q, messageQ⟩).begun } 0 := by
    simp [hands, waiting, Pool.Worker.hands]
  exact (late (by simp) p held).2 q List.mem_cons_self earlier same

end TwoWorkers

/-- Sends to one recipient are made in turn, whatever the interleaving, exactly if the
    pool has one worker or no recipient has two messages in the partition. -/
theorem sends_in_turn_iff {Raw : Type} (decode : Raw → Option Message) (log : List Raw)
    (concurrency : Nat) :
    (∀ labels, Guarded (step decode log concurrency) (InTurn decode log) (started concurrency)
      labels) ↔
      concurrency ≤ 1 ∨ ∀ p q, p < q → ¬ SameRecipient decode log p q := by
  constructor
  · intro inTurn
    by_contra neither
    simp only [not_or, not_forall, not_not] at neither
    obtain ⟨many, p, q, earlier, same⟩ := neither
    obtain ⟨labels, overtaken⟩ := overtakes (Nat.lt_of_not_le many) earlier same
    exact overtaken (inTurn labels)
  · intro condition labels
    cases condition with
    | inl few =>
        have agree : ∀ s label, Serial s → (InTurn decode log s label ↔ True) :=
          fun s label serial => iff_true_intro (serial.inTurn label)
        exact (Transition.guarded_congr (fun _ _ _ serial taken => serial.step taken) agree
          (Serial.started few) labels).mpr (Transition.guarded_true labels _)
    | inr distinct =>
        have agree : ∀ (s : State) label, True → (InTurn decode log s label ↔ True) := by
          intro s label _
          apply iff_true_intro
          cases label with
          | pool | sent => trivial
          | send i =>
              intro _ o _
              exact ⟨fun p _ before => distinct p o before, fun q _ before => distinct o q before⟩
        exact (Transition.guarded_congr (fun _ _ _ _ _ => trivial) agree trivial labels).mpr
          (Transition.guarded_true labels _)

/-- Two messages to one recipient. -/
def letters : List Message :=
  [1, 2].map fun id =>
    { notificationID := id
      tenantID := 1
      channel := .email
      recipientID := "u1"
      recipientAddress := "u1@example.com"
      templateID := none
      payload := []
      priority := 5
      attempt := 1
      maxAttempts := 3
      enqueuedAt := 0 }

/-- Two workers take them, and the second one sends first. -/
theorem second_letter_first :
    ¬ Guarded (step some letters 2) (InTurn some letters) (started 2)
      [.pool .fetch, .pool .dispatch, .pool (.receive 0), .pool .fetch, .pool .dispatch,
        .pool (.receive 1), .send 1, .sent 1, .send 0] := by
  decide +kernel

end NotifyHub.Ordering
