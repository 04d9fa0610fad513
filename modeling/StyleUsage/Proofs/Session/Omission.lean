import StyleUsage.Proofs.Session.Settlement

/-!
# Tickets that are left out

A session looks different when one of its tickets has never been written: the later ones have lower
numbers, the ticket lies with nobody, and whoever is busy with it is where it would be otherwise.
With listeners that raise nothing, a move that does not concern the ticket is the same move in the
session without it, and a move that does concern it changes nothing there.
-/

namespace StyleUsage.Session

/-- The number of a ticket when another one is left out. -/
def renumber (k id : Nat) : Nat :=
  if k < id then id - 1 else id

/-- The numbers of tickets when one is left out. -/
def leaveOut (k : Nat) (ids : List Nat) : List Nat :=
  (ids.filter (· ≠ k)).map (renumber k)

/-- The answer to a client when a ticket is left out. -/
def answerWithout (k : Nat) : Except Failure (Option Nat) → Except Failure (Option Nat)
  | .ok (some id) => .ok (if id = k then none else some (renumber k id))
  | outcome => outcome

/-- Where the worker is when a ticket is left out. -/
def Worker.without (k : Nat) : Worker → Worker
  | analysing used id step =>
      if id = k then draining used else analysing used (renumber k id) step
  | rejecting failure swept => rejecting failure (leaveOut k swept)
  | reporting failure swept => reporting failure (leaveOut k swept)
  | sweeping failure swept => sweeping failure (leaveOut k swept)
  | stage => stage

/-- Where a client is when a ticket is left out that does not lie with it. -/
def Client.without (k : Nat) : Client → Client
  | queued id => if id = k then returned (.ok none) else queued (renumber k id)
  | refused id => refused (renumber k id)
  | admitted id => admitted (renumber k id)
  | analysing id used step => analysing (renumber k id) used step
  | returned outcome => returned (answerWithout k outcome)
  | stage => stage

/-- The same move when a ticket is left out. -/
def Move.renumbered (k : Nat) : Move → Move
  | cancel id => cancel (renumber k id)
  | m => m

/-- Neither an analysis nor a rejection of the stylesheet has begun. -/
def TicketState.isUntouched : TicketState → Bool
  | pending | cancelled | dropped => true
  | running | finished _ => false

namespace State

/-- A ticket has been written, and nobody has begun with it. -/
def IsUntouched (s : State) (id : Nat) : Prop :=
  ∃ ticket, s.tickets[id]? = some ticket ∧ ticket.state.isUntouched = true

/-- The state of a session when a ticket is left out, with another record. -/
def without (k : Nat) (log : List Entry) (s : State) : State :=
  { s with
    queue := leaveOut k s.queue
    worker := s.worker.without k
    tickets := s.tickets.eraseIdx k
    issued := leaveOut k s.issued
    clients := fun c => (s.clients c).without k
    log }

/-- A move is about a ticket and no other one: the worker takes it from the queue, begins with it or
sweeps it away, its client announces that it is queued, or somebody cancels it. -/
def concerns (s : State) (k : Nat) : Move → Bool
  | .worker =>
      match s.worker with
      | .draining _ => s.queue.head? = some k
      | .analysing _ id _ => id = k
      | .sweeping _ swept => swept.head? = some k
      | _ => false
  | .client c =>
      match s.clients c with
      | .queued id => id = k
      | _ => false
  | .call .. => false
  | .cancel id => id = k

/-- The moves that are left when those are omitted that are about a ticket and no other one. -/
def movesWithout (s : State) (setup : Setup) (k : Nat) : List Move → List Move
  | [] => []
  | m :: rest =>
      match s.step? setup m with
      | some t =>
          if s.concerns k m then t.movesWithout setup k rest
          else m.renumbered k :: t.movesWithout setup k rest
      | none => []

end State

section
variable {setup : Setup} {s t : State} {m : Move} {k id c : Nat} {log : List Entry}

/-! ## Numbers -/

theorem renumber_of_lt (h : id < k) : renumber k id = id :=
  if_neg (by omega)

@[simp] theorem leaveOut_nil (k : Nat) : leaveOut k [] = [] := rfl

@[simp] theorem leaveOut_cons_self (k : Nat) (ids : List Nat) :
    leaveOut k (k :: ids) = leaveOut k ids := by
  simp [leaveOut]

theorem leaveOut_cons_of_ne (h : id ≠ k) (ids : List Nat) :
    leaveOut k (id :: ids) = renumber k id :: leaveOut k ids := by
  simp [leaveOut, h]

@[simp] theorem leaveOut_append (k : Nat) (ids more : List Nat) :
    leaveOut k (ids ++ more) = leaveOut k ids ++ leaveOut k more := by
  simp [leaveOut]

theorem renumber_inj {i : Nat} (hi : i ≠ k) (hid : id ≠ k) :
    renumber k i = renumber k id ↔ i = id := by
  unfold renumber
  split <;> split <;> omega

theorem renumber_mem_leaveOut {ids : List Nat} (h : id ≠ k) :
    renumber k id ∈ leaveOut k ids ↔ id ∈ ids := by
  simp only [leaveOut, List.mem_map, List.mem_filter, decide_eq_true_eq]
  constructor
  · rintro ⟨i, ⟨hmem, hi⟩, heq⟩
    exact (renumber_inj hi h).1 heq ▸ hmem
  · exact fun hmem => ⟨id, ⟨hmem, h⟩, rfl⟩

theorem leaveOut_of_lt {ids : List Nat} (h : ∀ i ∈ ids, i < k) : leaveOut k ids = ids := by
  induction ids with
  | nil => rfl
  | cons i ids ih =>
      obtain ⟨hi, hids⟩ := List.forall_mem_cons.1 h
      rw [leaveOut_cons_of_ne (Nat.ne_of_lt hi), renumber_of_lt hi, ih hids]

theorem getElem?_eraseIdx_renumber {α : Type} (h : id ≠ k) (items : List α) :
    (items.eraseIdx k)[renumber k id]? = items[id]? := by
  unfold renumber
  rw [List.getElem?_eraseIdx]
  split
  · rw [if_neg (by omega), Nat.sub_add_cancel (by omega)]
  · rw [if_pos (by omega)]

theorem eraseIdx_modify_self {α : Type} (f : α → α) (items : List α) :
    (items.modify k f).eraseIdx k = items.eraseIdx k := by
  apply List.ext_getElem?
  intro i
  rw [List.getElem?_eraseIdx, List.getElem?_eraseIdx]
  split
  · exact List.getElem?_modify_ne f items (by omega)
  · exact List.getElem?_modify_ne f items (by omega)

theorem eraseIdx_modify {α : Type} (h : id ≠ k) (f : α → α) (items : List α) :
    (items.modify id f).eraseIdx k = (items.eraseIdx k).modify (renumber k id) f := by
  apply List.ext_getElem?
  intro i
  simp only [List.getElem?_eraseIdx, List.getElem?_modify]
  split
  case isTrue hi =>
      have hid : renumber k id = i ↔ id = i := by
        unfold renumber
        split <;> omega
      simp only [hid]
  case isFalse hi =>
      have hid : renumber k id = i ↔ id = i + 1 := by
        unfold renumber
        split <;> omega
      simp only [hid]

/-! ## States -/

theorem without_setWorker (w : Worker) :
    (s.setWorker w).without k log = (s.without k log).setWorker (w.without k) := rfl

theorem without_setClient (stage : Client) : (s.setClient c stage).without k log =
    (s.without k log).setClient c (stage.without k) := by
  simp only [State.without, State.setClient, State.mk.injEq, true_and, and_true]
  funext d
  split <;> rfl

theorem without_setTicket_self (state : TicketState) :
    (s.setTicket k state).without k log = s.without k log := by
  simp only [State.without, State.setTicket, eraseIdx_modify_self]

theorem without_setTicket (h : id ≠ k) (state : TicketState) :
    (s.setTicket id state).without k log =
      (s.without k log).setTicket (renumber k id) state := by
  simp only [State.without, State.setTicket, eraseIdx_modify h]

theorem getElem?_without (h : id ≠ k) :
    (s.without k log).tickets[renumber k id]? = s.tickets[id]? :=
  getElem?_eraseIdx_renumber h s.tickets

theorem handedOut_answerWithout (outcome : Except Failure (Option Nat)) :
    handedOut (answerWithout k outcome) = leaveOut k (handedOut outcome) := by
  rcases outcome with failure | (_ | id)
  · rfl
  · rfl
  · by_cases h : id = k
    · subst h
      simp [answerWithout, handedOut]
    · simp [answerWithout, handedOut, h, leaveOut_cons_of_ne h]

theorem without_giveBack (outcome : Except Failure (Option Nat)) :
    (s.giveBack c outcome).without k log =
      (s.without k log).giveBack c (answerWithout k outcome) := by
  rw [giveBack_eq, giveBack_eq, without_setClient, handedOut_answerWithout]
  simp only [State.without, leaveOut_append]
  rfl

theorem answerWithout_self : answerWithout k (.ok (some k)) = .ok none := by
  simp [answerWithout]

theorem answerWithout_of_ne (h : id ≠ k) :
    answerWithout k (.ok (some id)) = .ok (some (renumber k id)) := by
  simp [answerWithout, h]

theorem without_proceed (request : Request) :
    (s.proceed c request).without k log = (s.without k log).proceed c request := by
  rw [proceed_eq, proceed_eq, without_setClient]
  cases request <;> rfl

/-- A ticket that is written later has a lower number. -/
theorem without_enqueue (hk : k < s.tickets.length) (path css : String) :
    (s.enqueue c path css).without k log = (s.without k log).enqueue c path css := by
  have hlen : (s.without k log).tickets.length = renumber k s.tickets.length := by
    simp only [State.without, List.length_eraseIdx, renumber, if_pos hk]
  have hne : s.tickets.length ≠ k := by omega
  have hopen : ((s.without k log).phase = .collecting ∨ (s.without k log).draining = true) ↔
      (s.phase = .collecting ∨ s.draining = true) := Iff.rfl
  have hjoining : leaveOut k s.joining = (s.without k log).joining := by
    simp only [State.joining, hlen, hopen]
    split
    · rw [leaveOut_cons_of_ne hne, leaveOut_nil]
    · rfl
  have hentrance : s.entrance.without k = (s.without k log).entrance := by
    simp only [State.entrance, hlen, hopen]
    split
    · simp only [Client.without, if_neg hne]
    · rw [apply_ite (Client.without k)]
      rfl
  rw [enqueue_eq, enqueue_eq, without_setClient, hentrance]
  simp only [State.without, State.write, leaveOut_append, hjoining,
    List.eraseIdx_append_of_lt_length hk]

/-- Nothing changes for the worker when it has to do with earlier tickets only. -/
theorem Worker.without_of_lt {w : Worker} (h : ∀ i ∈ w.held, i < k) : w.without k = w := by
  cases w with
  | analysing used id step =>
      have hid : id < k := h id (by simp [Worker.held])
      simp only [Worker.without, if_neg (Nat.ne_of_lt hid), renumber_of_lt hid]
  | rejecting failure swept | reporting failure swept | sweeping failure swept =>
      simp only [Worker.without, leaveOut_of_lt (show ∀ i ∈ swept, i < k from h)]
  | _ => rfl

theorem Client.without_of_lt {stage : Client} (hheld : ∀ i ∈ stage.held, i < k)
    (hqueued : ∀ i, stage = .queued i → i < k)
    (hreturned : ∀ i, stage = .returned (.ok (some i)) → i < k) : stage.without k = stage := by
  cases stage with
  | queued id =>
      have hid := hqueued id rfl
      simp only [Client.without, if_neg (Nat.ne_of_lt hid), renumber_of_lt hid]
  | refused id | admitted id | analysing id used step =>
      simp only [Client.without, renumber_of_lt (hheld id (by simp [Client.held]))]
  | returned outcome =>
      rcases outcome with failure | (_ | id)
      · rfl
      · rfl
      · have hid := hreturned id rfl
        simp only [Client.without, answerWithout_of_ne (Nat.ne_of_lt hid), renumber_of_lt hid]
  | _ => rfl

/-! ## A move that does not concern the ticket -/

theorem noteVerdict_without (v : Verdict) : ∃ more, (s.noteVerdict v).log = s.log ++ more ∧
    ∀ log, (s.without k log).noteVerdict v = (s.noteVerdict v).without k (log ++ more) := by
  unfold State.noteVerdict
  cases v.outcome with
  | ok report => exact ⟨[], by simp, fun log => by simp⟩
  | error e => exact ⟨_, rfl, fun log => rfl⟩

theorem analyse_without {used : List String} {step : Analysis} {advance : Advance}
    (hquiet : ∀ n e, setup.listener n e = none) (hid : id ≠ k)
    (h : s.analyse setup id used step = (t, advance)) : ∃ more, t.log = s.log ++ more ∧
      ∀ log, (s.without k log).analyse setup (renumber k id) used step =
        (t.without k (log ++ more), advance) := by
  unfold State.analyse at h ⊢
  simp only [getElem?_without hid]
  cases ht : s.tickets[id]? with
  | none =>
      simp only [ht, Prod.mk.injEq] at h
      obtain ⟨rfl, rfl⟩ := h
      exact ⟨[], by simp, fun log => by simp⟩
  | some ticket =>
      simp only [ht] at h
      cases step with
      | begin =>
          cases hs : ticket.state <;> simp only [hs, TicketState.begin, Prod.mk.injEq] at h ⊢ <;>
            obtain ⟨rfl, rfl⟩ := h <;>
            exact ⟨[], by simp [State.setTicket], fun log => by simp [without_setTicket hid]⟩
      | announce =>
          simp only [State.emit, hquiet, Prod.mk.injEq] at h ⊢
          obtain ⟨rfl, rfl⟩ := h
          exact ⟨_, rfl, fun log => ⟨rfl, rfl⟩⟩
      | judge =>
          cases hfinding : finding setup used ticket.path ticket.css with
          | error e =>
              simp only [hfinding, Prod.mk.injEq] at h ⊢
              obtain ⟨rfl, rfl⟩ := h
              exact ⟨[], by simp, fun log => by simp⟩
          | ok v =>
              obtain ⟨notes, hnotes, hnoted⟩ := noteVerdict_without (s := s) (k := k) v
              simp only [hfinding, State.emit, hquiet, Prod.mk.injEq] at h ⊢
              obtain ⟨rfl, rfl⟩ := h
              refine ⟨notes ++ [.event v.event], by rw [hnotes, List.append_assoc],
                fun log => ⟨?_, rfl⟩⟩
              rw [hnoted, ← List.append_assoc]
              rfl
      | settle outcome =>
          cases hs : ticket.state <;> simp only [hs, TicketState.finish, Prod.mk.injEq] at h ⊢ <;>
            obtain ⟨rfl, rfl⟩ := h <;>
            exact ⟨[], by simp [State.setTicket], fun log => by simp [without_setTicket hid]⟩

theorem reject_without (hid : id ≠ k) (failure : Failure) :
    (s.without k log).reject (renumber k id) failure =
      (s.reject id failure).map (·.without k log) := by
  unfold State.reject
  rw [getElem?_without hid]
  cases s.tickets[id]? with
  | none => rfl
  | some ticket =>
      cases hs : ticket.state <;>
        simp [hs, TicketState.begin, TicketState.finish, bind, Except.bind, pure, Except.pure,
          Except.map, without_setTicket hid]

theorem log_reject {failure : Failure} (h : s.reject id failure = .ok t) : t.log = s.log := by
  obtain ⟨tickets, rfl⟩ := frame_of_reject h
  rfl

/-- A step that puts nothing on record. -/
theorem exists_of_silent {step : List Entry → Option State} (hlog : t.log = s.log)
    (h : ∀ log, step log = some (t.without k log)) :
    ∃ more, t.log = s.log ++ more ∧ ∀ log, step log = some (t.without k (log ++ more)) :=
  ⟨[], by rw [hlog, List.append_nil], fun log => by rw [List.append_nil, h]⟩

theorem conclude_without (outcome : Except Failure (List String)) (next : Worker) :
    (s.without k log).conclude outcome (next.without k) =
      (s.conclude outcome next).without k log := by
  unfold State.conclude State.collect
  rw [show (s.without k log).collected = s.collected from rfl]
  cases s.collected <;> rfl

theorem log_conclude (outcome : Except Failure (List String)) (next : Worker) :
    (s.conclude outcome next).log = s.log := by
  unfold State.conclude State.collect
  cases s.collected <;> rfl

theorem workerStep?_without (hquiet : ∀ n e, setup.listener n e = none)
    (hk : s.concerns k .worker = false) (h : s.workerStep? setup = some t) :
    ∃ more, t.log = s.log ++ more ∧
      ∀ log, (s.without k log).workerStep? setup = some (t.without k (log ++ more)) := by
  have hworker (log : List Entry) : (s.without k log).worker = s.worker.without k := rfl
  unfold State.workerStep? at h ⊢
  simp only [State.concerns] at hk
  cases hw : s.worker <;> simp only [hw, reduceCtorEq] at h hk <;>
    simp only [hworker, hw, Worker.without]
  case opening =>
      simp only [notes_eq, Option.some.injEq] at h ⊢
      subst h
      exact ⟨_, rfl, fun log => rfl⟩
  case taking rest count =>
      cases rest with
      | nil =>
          cases hf : setup.load.failure with
          | some failure =>
              simp only [hf, Option.some.injEq] at h
              subst h
              exact exists_of_silent rfl fun log => rfl
          | none =>
              simp only [hf, Option.some.injEq] at h
              subst h
              exact ⟨_, rfl, fun log => rfl⟩
      | cons source rest =>
          simp only [show ∀ log, (s.without k log).accumulator = s.accumulator from fun _ => rfl]
          cases hf : s.accumulator.feed source.text with
          | error refusal =>
              simp only [hf, Option.some.injEq] at h
              subst h
              exact exists_of_silent rfl fun log => rfl
          | ok accumulator =>
              simp only [hf, Option.some.injEq] at h
              subst h
              exact exists_of_silent rfl fun log => rfl
  case parsed path added rest count | announcing used count | reporting failure swept =>
      simp only [State.emit, hquiet, Option.some.injEq] at h ⊢
      subst h
      exact ⟨_, rfl, fun log => rfl⟩
  case publishing used count =>
      simp only [Option.some.injEq] at h
      subst h
      exact exists_of_silent rfl fun log => rfl
  case handing used count =>
      simp only [Option.some.injEq] at h
      subst h
      exact exists_of_silent (log_conclude ..) fun log =>
        congrArg some (conclude_without _ (.announcing used count))
  case rejecting failure swept =>
      simp only [Option.some.injEq] at h
      subst h
      exact exists_of_silent (log_conclude ..) fun log =>
        congrArg some (conclude_without _ (.reporting failure swept))
  case draining used =>
      simp only [show ∀ log, (s.without k log).queue = leaveOut k s.queue from fun _ => rfl]
      cases hq : s.queue with
      | nil =>
          simp only [hq, Option.some.injEq] at h
          subst h
          exact exists_of_silent rfl fun log => by simp only [State.without, hq]; rfl
      | cons id queue =>
          have hid : id ≠ k := by simpa [hq] using hk
          simp only [hq, Option.some.injEq] at h
          subst h
          simp only [leaveOut_cons_of_ne hid]
          refine exists_of_silent rfl fun log => ?_
          simp only [State.without, State.setWorker, Worker.without, if_neg hid]
  case analysing used id step =>
      have hid : id ≠ k := by simpa using hk
      simp only [if_neg hid]
      cases ha : s.analyse setup id used step with
      | mk t' advance =>
          obtain ⟨more, hlog, hsame⟩ := analyse_without hquiet hid ha
          simp only [hsame]
          cases advance <;> simp only [ha, Option.some.injEq] at h ⊢ <;> subst h <;>
            refine ⟨more, hlog, fun log => ?_⟩ <;>
            simp only [without_setWorker, Worker.without, if_neg hid]
  case failing failure =>
      simp only [Option.some.injEq] at h
      subst h
      exact ⟨_, rfl, fun log => rfl⟩
  case sweeping failure swept =>
      cases swept with
      | nil =>
          simp only [Option.some.injEq] at h
          subst h
          exact exists_of_silent rfl fun log => rfl
      | cons id swept =>
          have hid : id ≠ k := by simpa using hk
          simp only [leaveOut_cons_of_ne hid, reject_without hid]
          cases hr : s.reject id failure with
          | error e =>
              simp only [hr, Option.some.injEq] at h
              subst h
              exact exists_of_silent rfl fun log => rfl
          | ok t' =>
              simp only [hr, Option.some.injEq] at h
              subst h
              refine exists_of_silent (show t'.log = s.log from log_reject hr) fun log => ?_
              rw [without_setWorker]
              rfl

theorem clientStep?_without (hquiet : ∀ n e, setup.listener n e = none)
    (hlen : k < s.tickets.length) (hfree : k ∉ s.held (.client c))
    (hk : s.concerns k (.client c) = false) (h : s.clientStep? setup c = some t) :
    ∃ more, t.log = s.log ++ more ∧
      ∀ log, (s.without k log).clientStep? setup c = some (t.without k (log ++ more)) := by
  have hclient (log : List Entry) : (s.without k log).clients c = (s.clients c).without k := rfl
  have hcollected (log : List Entry) : (s.without k log).collected = s.collected := rfl
  have hstarted (log : List Entry) : (s.without k log).started = s.started := rfl
  unfold State.clientStep? at h ⊢
  simp only [State.concerns] at hk
  simp only [State.held] at hfree
  cases hc : s.clients c <;> simp only [hc, reduceCtorEq] at h hk hfree <;>
    simp only [hclient, hc, Client.without]
  case starting request =>
      simp only [hstarted]
      cases hs : s.started <;> simp only [hs, if_true, Bool.false_eq_true, if_false] at h ⊢ <;>
        cases h
      case true =>
          refine exists_of_silent (by simp [proceed_eq, State.setClient]) fun log => ?_
          rw [without_proceed]
      case false =>
          refine exists_of_silent rfl fun log => ?_
          rw [without_setClient]
          rfl
  case launching request =>
      simp only [State.emit, hquiet, Option.some.injEq] at h ⊢
      subst h
      refine ⟨_, rfl, fun log => ?_⟩
      rw [without_setClient]
      rfl
  case spawning request =>
      simp only [Option.some.injEq] at h
      subst h
      refine exists_of_silent (by simp [proceed_eq, State.setClient, State.setWorker]) fun log => ?_
      rw [without_proceed]
      rfl
  case enqueueing path css =>
      simp only [Option.some.injEq] at h
      subst h
      refine exists_of_silent (by simp [enqueue_eq, State.setClient, State.write]) fun log => ?_
      rw [without_enqueue hlen]
  case queued id =>
      have hid : id ≠ k := by simpa using hk
      simp only [if_neg hid, getElem?_without hid]
      cases ht : s.tickets[id]? with
      | none => simp [ht] at h
      | some ticket =>
          simp only [ht, State.emit, hquiet, Option.some.injEq] at h ⊢
          subst h
          refine ⟨_, log_giveBack .., fun log => ?_⟩
          rw [without_giveBack, answerWithout_of_ne hid]
          rfl
  case refused id =>
      have hid : id ≠ k := by simpa [Client.held, eq_comm] using hfree
      simp only [hcollected]
      rcases hf : s.collected with _ | failure | used <;> simp only [hf, reduceCtorEq] at h ⊢
      simp only [reject_without hid]
      cases hr : s.reject id failure with
      | error e =>
          simp only [hr, Option.some.injEq] at h
          subst h
          refine exists_of_silent (log_giveBack ..) fun log => ?_
          rw [without_giveBack]
          rfl
      | ok t' =>
          simp only [hr, Option.some.injEq] at h
          subst h
          refine exists_of_silent ((log_giveBack ..).trans (log_reject hr)) fun log => ?_
          rw [without_giveBack, answerWithout_of_ne hid]
          rfl
  case admitted id =>
      simp only [hcollected]
      rcases hf : s.collected with _ | failure | used <;> simp only [hf] at h ⊢ <;> cases h
      · refine exists_of_silent (log_giveBack ..) fun log => ?_
        rw [without_giveBack]
        rfl
      · refine exists_of_silent rfl fun log => ?_
        rw [without_setClient]
        rfl
  case analysing id used step =>
      have hid : id ≠ k := by simpa [Client.held, eq_comm] using hfree
      cases ha : s.analyse setup id used step with
      | mk t' advance =>
          obtain ⟨more, hlog, hsame⟩ := analyse_without hquiet hid ha
          simp only [hsame]
          cases advance <;> simp only [ha, Option.some.injEq] at h ⊢ <;> subst h
          case next next =>
              refine ⟨more, hlog, fun log => ?_⟩
              rw [without_setClient]
              rfl
          case done =>
              refine ⟨more, (log_giveBack ..).trans hlog, fun log => ?_⟩
              rw [without_giveBack, answerWithout_of_ne hid]
          case broken failure =>
              refine ⟨more, (log_giveBack ..).trans hlog, fun log => ?_⟩
              rw [without_giveBack]
              rfl
  case waiting =>
      simp only [hcollected]
      rcases hf : s.collected with _ | failure | used <;> simp only [hf] at h ⊢ <;> cases h <;>
        refine exists_of_silent (log_giveBack ..) fun log => ?_ <;>
        rw [without_giveBack] <;> rfl

/-- A move that does not concern a ticket is the same move when the ticket is left out, if no client
has it in hand. -/
theorem step?_without (hquiet : ∀ n e, setup.listener n e = none)
    (hlen : k < s.tickets.length) (hfree : ∀ c, k ∉ s.held (.client c))
    (hk : s.concerns k m = false) (h : s.step? setup m = some t) :
    ∃ more, t.log = s.log ++ more ∧ ∀ log,
      (s.without k log).step? setup (m.renumbered k) = some (t.without k (log ++ more)) := by
  cases m with
  | worker => exact workerStep?_without hquiet hk h
  | client c => exact clientStep?_without hquiet hlen (hfree c) hk h
  | call c request =>
      have hclient (log : List Entry) : (s.without k log).clients c = (s.clients c).without k := rfl
      simp only [State.step?, State.call?, Move.renumbered, hclient] at h ⊢
      cases hc : s.clients c <;> simp only [hc, reduceCtorEq, Option.some.injEq] at h <;>
        subst h <;> simp only [Client.without] <;>
        refine exists_of_silent rfl fun log => ?_ <;>
        rw [without_setClient] <;> rfl
  | cancel id =>
      have hid : id ≠ k := by simpa [State.concerns] using hk
      have hissued (log : List Entry) :
          renumber k id ∈ (s.without k log).issued ↔ id ∈ s.issued := renumber_mem_leaveOut hid
      simp only [State.step?, State.cancel?, Move.renumbered, getElem?_without hid, hissued] at h ⊢
      cases ht : s.tickets[id]? with
      | none => simp [ht] at h
      | some ticket =>
          by_cases hi : id ∈ s.issued
          · simp only [ht, if_pos hi, Option.map_some] at h ⊢
            cases h
            refine exists_of_silent rfl fun log => ?_
            rw [without_setTicket hid]
          · simp [ht, hi] at h

/-! ## A move that concerns the ticket -/

/-- What a move does that concerns a ticket with which nobody begins. -/
inductive State.Passes (s : State) (k : Nat) : State → Prop where
  | popped {used : List String} {queue : List Nat} (hw : s.worker = .draining used)
      (hq : s.queue = k :: queue) :
      s.Passes k { s with queue, worker := .analysing used k .begin }
  | dropped {used : List String} (hw : s.worker = .analysing used k .begin) :
      s.Passes k ((s.setTicket k .dropped).setWorker (.draining used))
  | swept {failure : Failure} {swept : List Nat} (hw : s.worker = .sweeping failure (k :: swept)) :
      s.Passes k ((s.setTicket k .dropped).setWorker (.sweeping failure swept))
  | noticed {c : Nat} {ticket : Ticket} (hc : s.clients c = .queued k)
      (hk : s.tickets[k]? = some ticket) :
      s.Passes k ((s.record (.documentQueued ticket.path)).giveBack c (.ok (some k)))
  | cancelled : s.Passes k (s.setTicket k .cancelled)
  | spared : s.Passes k s

/-- A ticket that has begun to run or has got an outcome is not untouched. -/
theorem not_isUntouched_of_setTicket {state : TicketState} {old : Ticket}
    (hold : s.tickets[k]? = some old) (hstate : state.isUntouched = false)
    (htickets : t.tickets = (s.setTicket k state).tickets) : ¬ t.IsUntouched k := by
  rintro ⟨ticket, hticket, huntouched⟩
  rw [htickets, getElem?_setTicket_self hold, Option.some.injEq] at hticket
  subst hticket
  rw [hstate] at huntouched
  cases huntouched

theorem WorkerStep.passes (h : WorkerStep setup s t) (hk : s.concerns k .worker = true)
    (hbegin : ∀ used step, s.worker = .analysing used k step → step = .begin)
    (hlives : ∀ failure, t.worker ≠ .died failure) (ht : t.IsUntouched k) : s.Passes k t := by
  cases h with
  | drained hw hq => simp [State.concerns, hw, hq] at hk
  | @popped used id queue hw hq =>
      obtain rfl : id = k := by simpa [State.concerns, hw, hq] using hk
      exact .popped hw hq
  | @analysed used id step next t' hw ha =>
      obtain rfl : id = k := by simpa [State.concerns, hw] using hk
      obtain rfl := hbegin used step hw
      cases ha with
      | begun hold hs => exact absurd ht (not_isUntouched_of_setTicket hold rfl rfl)
  | @finished used id step t' hw ha =>
      obtain rfl : id = k := by simpa [State.concerns, hw] using hk
      obtain rfl := hbegin used step hw
      cases ha with
      | dropped hold hs => exact .dropped hw
  | @swept failure id swept t' hw hr =>
      obtain rfl : id = k := by simpa [State.concerns, hw] using hk
      obtain ⟨old, hold, ⟨-, rfl⟩ | ⟨-, rfl⟩⟩ := reject_eq_ok hr
      · exact absurd ht (not_isUntouched_of_setTicket hold rfl rfl)
      · exact .swept hw
  | broke | sweptAmiss | completedInVain | reportedInVain | concludedTwice =>
      exact absurd rfl (hlives _)
  | _ hw => simp [State.concerns, hw] at hk

theorem Step.passes (hquiet : ∀ n e, setup.listener n e = none) (h : Step setup s m t)
    (hk : s.concerns k m = true)
    (hbegin : ∀ used step, s.worker = .analysing used k step → step = .begin)
    (hlives : ∀ failure, t.worker ≠ .died failure) (ht : t.IsUntouched k) : s.Passes k t := by
  cases h with
  | worker h => exact h.passes hk hbegin hlives ht
  | @client c t h =>
      cases h with
      | @noticed id ticket hc hticket =>
          obtain rfl : id = k := by simpa [State.concerns, hc] using hk
          exact .noticed hc hticket
      | noticedInVain hc hticket hl => simp [hquiet] at hl
      | _ hc => simp [State.concerns, hc] at hk
  | called => simp [State.concerns] at hk
  | @cancelled id =>
      obtain rfl : id = k := by simpa [State.concerns] using hk
      exact .cancelled
  | spared => exact .spared

/-- Such a move changes nothing when the ticket is left out. -/
theorem State.Passes.without_eq (h : s.Passes k t) (log : List Entry) :
    t.without k log = s.without k log := by
  cases h with
  | popped hw hq => simp [State.without, hw, hq, Worker.without]
  | dropped hw | swept hw =>
      rw [without_setWorker, without_setTicket_self]
      simp [State.without, State.setWorker, hw, Worker.without]
  | @noticed c ticket hc hk =>
      have hreturned : (s.without k log).clients c = .returned (.ok none) := by
        simp [State.without, hc, Client.without]
      rw [without_giveBack, answerWithout_self, giveBack_eq]
      exact setClient_self hreturned
  | cancelled => exact without_setTicket_self _
  | spared => rfl

/-- Such a move puts nothing on record, or else the news that the stylesheet is queued. -/
theorem State.Passes.log_eq (h : s.Passes k t) : t.log = s.log ∧ t.clients = s.clients ∨
    ∃ c ticket, s.clients c = .queued k ∧ s.tickets[k]? = some ticket ∧ k ∈ t.issued ∧
      t.log = s.log ++ [.event (.documentQueued ticket.path)] := by
  cases h with
  | noticed hc hk =>
      refine .inr ⟨_, _, hc, hk, ?_, log_giveBack ..⟩
      simp [giveBack_eq, handedOut, State.setClient]
  | _ => exact .inl ⟨rfl, rfl⟩

end

end StyleUsage.Session
