import Mathlib.Data.List.Induction
import WindowRelay.Startup.Gate

/-!
Contract: requests on their way through the gate.

Owns:
- the entries of a gate in the order of their arrival, from which both queues are taken;
- the merge of the two queues gives the entries back;
- operations on a gate, what each of them answers, and runs of them;
- the requests come out of the gate as they were accepted: each once, in order;
- where among the requests a gate is opened makes no difference in the end.

Entries are numbered upwards as they arrive, so an entry that joins the end of its queue also joins
the end of the merge.
-/

namespace WindowRelay

theorem CommandRequest.call_injective {first second : CommandRequest}
    (same : first.call = second.call) : first = second := by
  cases first <;> cases second <;> cases same <;> rfl

namespace Gate

/-! ## The entries behind the two queues -/

/-- The gate holds some entries, listed in the order of their arrival: the lines and the argument
lists among them wait in one queue each. -/
structure Holds (gate : Gate) (entries : List (Nat × CommandRequest)) : Prop where
  lines : gate.lines = entries.filter (·.2.isLine)
  arrays : gate.arrays = entries.filter (!·.2.isLine)
  ascending : entries.Pairwise (·.1 < ·.1)
  counted : ∀ entry ∈ entries, entry.1 ≤ gate.arrivals

variable {gate : Gate} {entries : List (Nat × CommandRequest)} {request : CommandRequest}

/-- Two queues taken from ascending entries merge into these entries. -/
theorem merge_queues (isFirst : CommandRequest → Bool)
    (ascending : entries.Pairwise (·.1 < ·.1)) :
    List.merge (entries.filter (isFirst ·.2)) (entries.filter (!isFirst ·.2))
      (fun first second => first.1 < second.1) = entries := by
  induction entries with
  | nil => simp
  | cons entry rest inductionHypothesis =>
      obtain ⟨before, restAscending⟩ := List.pairwise_cons.mp ascending
      have merged := inductionHypothesis restAscending
      cases which : isFirst entry.2 with
      | true =>
          simp only [List.filter_cons, which, if_true, Bool.not_true, Bool.false_eq_true, if_false]
          -- Whatever leads the second queue has arrived later.
          cases second : rest.filter (!isFirst ·.2) with
          | nil =>
              rw [second] at merged
              simpa using merged
          | cons head tail =>
              have later : entry.1 < head.1 :=
                before head (List.mem_filter.mp (second ▸ List.mem_cons_self)).1
              rw [second] at merged
              rw [List.cons_merge_cons_pos _ _ _ (by simpa using later), merged]
      | false =>
          simp only [List.filter_cons, which, Bool.not_false, if_true, Bool.false_eq_true, if_false]
          cases first : rest.filter (isFirst ·.2) with
          | nil =>
              rw [first] at merged
              simpa using merged
          | cons head tail =>
              have later : entry.1 < head.1 :=
                before head (List.mem_filter.mp (first ▸ List.mem_cons_self)).1
              rw [first] at merged
              rw [List.cons_merge_cons_neg _ _ _ (by simpa using Nat.le_of_lt later), merged]

theorem Holds.waiting (holds : gate.Holds entries) : gate.waiting = entries.map Prod.snd := by
  unfold Gate.waiting
  rw [holds.lines, holds.arrays]
  exact congrArg _ (merge_queues CommandRequest.isLine holds.ascending)

/-- The entries are those of both queues. -/
theorem Holds.perm_queues (holds : gate.Holds entries) :
    entries.Perm (gate.lines ++ gate.arrays) := by
  rw [holds.lines, holds.arrays]
  exact (List.filter_append_perm _ entries).symm

theorem Holds.queues_eq_nil (holds : gate.Holds []) : gate.lines = [] ∧ gate.arrays = [] :=
  ⟨holds.lines, holds.arrays⟩

theorem holds_fresh : ({} : Gate).Holds [] where
  lines := rfl
  arrays := rfl
  ascending := .nil
  counted := by simp

/-! ## What submission and opening do -/

theorem submit_blank (blank : request.isBlank = true) :
    gate.submit request = (gate, [], .dropped) := by
  simp [submit, blank]

theorem submit_open (solid : request.isBlank = false) (isOpen : gate.ready = true) :
    gate.submit request = (gate, [request.call], .forwarded) := by
  simp [submit, solid, isOpen]

/-- Submission neither opens nor closes a gate. -/
theorem ready_submit (gate : Gate) (request : CommandRequest) :
    (gate.submit request).1.ready = gate.ready := by
  unfold submit
  dsimp only
  repeat' split
  all_goals rfl

/-- A closed gate sends nothing. -/
theorem submit_of_closed (closed : gate.ready = false) (request : CommandRequest) :
    (gate.submit request).2.1 = [] := by
  cases blank : request.isBlank <;> cases which : request.isLine <;>
    simp [submit, blank, closed, which]

/-- A request that has to wait sends nothing and becomes the last entry. -/
theorem Holds.submit_closed (holds : gate.Holds entries) (solid : request.isBlank = false)
    (closed : gate.ready = false) :
    ∃ next, gate.submit request = (next, [], .queued) ∧ next.ready = false ∧
      next.Holds (entries ++ [(gate.arrivals + 1, request)]) := by
  have ascending : (entries ++ [(gate.arrivals + 1, request)]).Pairwise (·.1 < ·.1) := by
    refine List.pairwise_append.mpr ⟨holds.ascending, List.pairwise_singleton _ _, ?_⟩
    intro entry member last isLast
    rw [List.mem_singleton.mp isLast]
    exact Nat.lt_succ_of_le (holds.counted entry member)
  have counted : ∀ entry ∈ entries ++ [(gate.arrivals + 1, request)],
      entry.1 ≤ gate.arrivals + 1 := by
    intro entry member
    rcases List.mem_append.mp member with before | isLast
    · exact Nat.le_succ_of_le (holds.counted entry before)
    · exact Nat.le_of_eq (congrArg Prod.fst (List.mem_singleton.mp isLast))
  cases which : request.isLine with
  | true =>
      refine ⟨{ gate with arrivals := gate.arrivals + 1,
                          lines := gate.lines ++ [(gate.arrivals + 1, request)] }, ?_, closed, ?_⟩
      · simp [submit, solid, closed, which]
      · exact ⟨by simp [holds.lines, which], by simp [holds.arrays, which], ascending, counted⟩
  | false =>
      refine ⟨{ gate with arrivals := gate.arrivals + 1,
                          arrays := gate.arrays ++ [(gate.arrivals + 1, request)] }, ?_, closed, ?_⟩
      · simp [submit, solid, closed, which]
      · exact ⟨by simp [holds.lines, which], by simp [holds.arrays, which], ascending, counted⟩

/-- Submission sends at most the request. -/
theorem eq_of_mem_submit {call : Call} (sent : call ∈ (gate.submit request).2.1) :
    call = request.call := by
  unfold submit at sent
  repeat' split at sent
  · cases sent
  · exact List.mem_singleton.mp sent
  · cases sent
  · cases sent

/-- Opening sends at most the requests that wait. -/
theorem exists_of_mem_unlock {call : Call} (sent : call ∈ gate.unlock.2) :
    ∃ request ∈ gate.waiting, request.call = call := by
  unfold unlock at sent
  split at sent
  · cases sent
  · exact List.mem_map.mp sent

theorem unlock_open (isOpen : gate.ready = true) : gate.unlock = (gate, []) := by
  simp [unlock, isOpen]

theorem ready_unlock (gate : Gate) : gate.unlock.1.ready = true := by
  unfold unlock
  split
  · next isOpen => exact isOpen
  · rfl

/-- Opening a closed gate lets all entries through in the order of their arrival. -/
theorem Holds.unlock_closed (holds : gate.Holds entries) (closed : gate.ready = false) :
    ∃ next, gate.unlock = (next, entries.map (·.2.call)) ∧ next.ready = true ∧ next.Holds [] := by
  refine ⟨{ gate with ready := true, lines := [], arrays := [] }, ?_, rfl, ?_⟩
  · simp [unlock, closed, holds.waiting]
  · exact ⟨rfl, rfl, .nil, by simp⟩

/-! ## Operations -/

/-- An operation on a gate. -/
inductive Operation where
  | submit (request : CommandRequest)
  | unlock
deriving DecidableEq, Repr

/-- What an operation answers: what became of a request, or how many requests were let through. -/
inductive Answer where
  | submitted (outcome : Submitted)
  | flushed (count : Nat)
deriving DecidableEq, Repr

/-- Carry out an operation; what the gate sends is received. -/
def perform (gate : Gate) : Operation → Gate × List Call × Answer
  | .submit request =>
    let (next, calls, outcome) := gate.submit request
    (next, calls, .submitted outcome)
  | .unlock =>
    let (next, calls) := gate.unlock
    (next, calls, .flushed calls.length)

/-- The gate after some operations, and all that was received. -/
def performAll (gate : Gate) : List Operation → Gate × List Call
  | [] => (gate, [])
  | operation :: rest =>
    let (next, calls, _) := gate.perform operation
    let (last, later) := next.performAll rest
    (last, calls ++ later)

/-- The request that an operation brings, unless it is blank. -/
def Operation.accepted? : Operation → Option CommandRequest
  | .submit request => if request.isBlank then none else some request
  | .unlock => none

/-- The requests among some operations that are not blank, in order. -/
def accepted (operations : List Operation) : List CommandRequest :=
  operations.filterMap Operation.accepted?

theorem performAll_append (gate : Gate) (earlier later : List Operation) :
    gate.performAll (earlier ++ later) =
      (((gate.performAll earlier).1.performAll later).1,
        (gate.performAll earlier).2 ++ ((gate.performAll earlier).1.performAll later).2) := by
  induction earlier generalizing gate with
  | nil => simp [performAll]
  | cons first rest inductionHypothesis => simp [performAll, inductionHypothesis]

theorem performAll_singleton (gate : Gate) (operation : Operation) :
    gate.performAll [operation] =
      ((gate.perform operation).1, (gate.perform operation).2.1) := by
  simp [performAll]

theorem accepted_append (earlier later : List Operation) :
    accepted (earlier ++ later) = accepted earlier ++ accepted later :=
  List.filterMap_append

theorem accepted_singleton (operation : Operation) :
    accepted [operation] = operation.accepted?.toList := by
  cases taken : operation.accepted? <;> simp [accepted, taken]

/-! ## Runs -/

/-- How a gate stands after some operations of which the accepted requests are known: the calls
received, and then the entries that still wait, are these requests in order. -/
structure Stands (gate : Gate) (received : List Call) (operations : List Operation)
    (entries : List (Nat × CommandRequest)) : Prop where
  holds : gate.Holds entries
  ready : gate.ready = true ↔ .unlock ∈ operations
  inOrder : received ++ entries.map (·.2.call) = (accepted operations).map CommandRequest.call
  closed : gate.ready = false → received = []
  isOpen : gate.ready = true → entries = []

variable {received : List Call} {operations : List Operation} {operation : Operation}

theorem stands_fresh : ({} : Gate).Stands [] [] [] where
  holds := holds_fresh
  ready := by simp
  inOrder := rfl
  closed _ := rfl
  isOpen _ := rfl

/-- What an operation does to a gate by how it stands: blank requests change nothing, requests wait
in a closed gate and pass an open one, and only the first opening has an effect. -/
inductive Passes (gate : Gate) (entries : List (Nat × CommandRequest)) :
    Operation → Gate × List Call × Answer → Prop where
  | blank {request : CommandRequest} (isBlank : request.isBlank = true) :
      Passes gate entries (.submit request) (gate, [], .submitted .dropped)
  | waits {request : CommandRequest} {next : Gate} (solid : request.isBlank = false)
      (closed : gate.ready = false) (stillClosed : next.ready = false)
      (holds : next.Holds (entries ++ [(gate.arrivals + 1, request)])) :
      Passes gate entries (.submit request) (next, [], .submitted .queued)
  | passes {request : CommandRequest} (solid : request.isBlank = false)
      (isOpen : gate.ready = true) :
      Passes gate entries (.submit request) (gate, [request.call], .submitted .forwarded)
  | opens {next : Gate} (closed : gate.ready = false) (nowOpen : next.ready = true)
      (holds : next.Holds []) :
      Passes gate entries .unlock (next, entries.map (·.2.call), .flushed entries.length)
  | stays (isOpen : gate.ready = true) : Passes gate entries .unlock (gate, [], .flushed 0)

theorem Holds.passes (holds : gate.Holds entries) (operation : Operation) :
    gate.Passes entries operation (gate.perform operation) := by
  cases operation with
  | submit request =>
      cases blank : request.isBlank with
      | true =>
          simp only [Gate.perform, submit_blank blank]
          exact .blank blank
      | false =>
          cases ready : gate.ready with
          | true =>
              simp only [Gate.perform, submit_open blank ready]
              exact .passes blank ready
          | false =>
              obtain ⟨next, submitted, stillClosed, nextHolds⟩ := holds.submit_closed blank ready
              simp only [Gate.perform, submitted]
              exact .waits blank ready stillClosed nextHolds
  | unlock =>
      cases ready : gate.ready with
      | true =>
          simp only [Gate.perform, unlock_open ready]
          exact .stays ready
      | false =>
          obtain ⟨next, unlocked, nowOpen, nextHolds⟩ := holds.unlock_closed ready
          simp only [Gate.perform, unlocked, List.length_map]
          exact .opens ready nowOpen nextHolds

/-- One operation keeps the requests in order. -/
theorem Stands.perform (stands : gate.Stands received operations entries)
    (operation : Operation) :
    ∃ entriesAfter, (gate.perform operation).1.Stands (received ++ (gate.perform operation).2.1)
      (operations ++ [operation]) entriesAfter := by
  have passing := stands.holds.passes operation
  generalize gate.perform operation = outcome at passing
  have ready := stands.ready
  have inOrder := stands.inOrder
  cases passing with
  | blank isBlank =>
      refine ⟨entries, stands.holds, by simpa using ready, ?_, ?_, stands.isOpen⟩
      · simpa [accepted_append, accepted_singleton, Operation.accepted?, isBlank] using inOrder
      · simpa using stands.closed
  | waits solid closed stillClosed holds =>
      have nothing := stands.closed closed
      refine ⟨_, holds, by simpa [stillClosed, closed] using ready, ?_, ?_, by simp [stillClosed]⟩
      · subst nothing
        simp only [accepted_append, accepted_singleton, Operation.accepted?, solid,
          List.map_append]
        simpa using inOrder
      · simp [nothing]
  | passes solid isOpen =>
      have empty := stands.isOpen isOpen
      refine ⟨[], empty ▸ stands.holds, by simpa using ready, ?_, by simp [isOpen], fun _ => rfl⟩
      subst empty
      simp only [accepted_append, accepted_singleton, Operation.accepted?, solid,
          List.map_append]
      simpa using inOrder
  | opens closed nowOpen holds =>
      have nothing := stands.closed closed
      subst nothing
      refine ⟨[], holds, by simp [nowOpen], ?_, by simp [nowOpen], fun _ => rfl⟩
      simpa [accepted_append, accepted_singleton, Operation.accepted?] using inOrder
  | stays isOpen =>
      have empty := stands.isOpen isOpen
      refine ⟨[], empty ▸ stands.holds, by simp [isOpen], ?_, by simp [isOpen], fun _ => rfl⟩
      subst empty
      simpa [accepted_append, accepted_singleton, Operation.accepted?] using inOrder

/-- After any operations the calls received and the entries that wait are the accepted requests. -/
theorem stands_performAll (operations : List Operation) :
    ∃ entries, (({} : Gate).performAll operations).1.Stands
      (({} : Gate).performAll operations).2 operations entries := by
  induction operations using List.reverseRecOn with
  | nil => exact ⟨[], stands_fresh⟩
  | append_singleton earlier operation inductionHypothesis =>
      obtain ⟨entries, stands⟩ := inductionHypothesis
      rw [performAll_append, performAll_singleton]
      exact stands.perform operation

/-- However the openings are placed among the same requests, the same calls come out in the end, and
the same requests still wait. -/
theorem performAll_agree (earlier : List Operation) {first second : List Operation}
    (sameRequests : accepted first = accepted second)
    (sameOpening : .unlock ∈ first ↔ .unlock ∈ second) :
    let gate := (({} : Gate).performAll earlier).1
    (gate.performAll first).2 = (gate.performAll second).2 ∧
      (gate.performAll first).1.ready = (gate.performAll second).1.ready ∧
      (gate.performAll first).1.waiting = (gate.performAll second).1.waiting := by
  intro gate
  obtain ⟨entries, stands⟩ := stands_performAll (earlier ++ first)
  obtain ⟨others, standsToo⟩ := stands_performAll (earlier ++ second)
  simp only [performAll_append] at stands standsToo
  have sameReady : (gate.performAll first).1.ready = (gate.performAll second).1.ready := by
    rw [Bool.eq_iff_iff, stands.ready, standsToo.ready, List.mem_append, List.mem_append,
      sameOpening]
  have inOrder := stands.inOrder
  rw [accepted_append, sameRequests, ← accepted_append, ← standsToo.inOrder] at inOrder
  rw [stands.holds.waiting, standsToo.holds.waiting]
  cases ready : (gate.performAll first).1.ready with
  | true =>
      obtain rfl := stands.isOpen ready
      obtain rfl := standsToo.isOpen (sameReady ▸ ready)
      refine ⟨?_, ready ▸ sameReady, rfl⟩
      simpa using inOrder
  | false =>
      have nothing := stands.closed ready
      have nothingToo := standsToo.closed (sameReady ▸ ready)
      rw [nothing, nothingToo, List.nil_append, List.nil_append] at inOrder
      refine ⟨?_, ready ▸ sameReady, ?_⟩
      · rw [(List.append_eq_nil_iff.mp nothing).2, (List.append_eq_nil_iff.mp nothingToo).2]
      · refine (List.map_inj_right fun _ _ => CommandRequest.call_injective).mp ?_
        simpa [Function.comp_def] using inOrder

/-- After any operations on a fresh gate, what was received and what still waits, by the numbers of
arrival, are the accepted requests in order. Before the gate is opened nothing was received, and
afterwards nothing waits. The next operation answers accordingly: a blank request is dropped and
changes nothing; any other one waits in a closed gate and passes an open one; the first opening
lets through all that wait, and a later one nothing. -/
theorem requests_pass_in_order (operations : List Operation) :
    let gate := (({} : Gate).performAll operations).1
    let received := (({} : Gate).performAll operations).2
    (∃ entries : List (Nat × CommandRequest),
      entries.Perm (gate.lines ++ gate.arrays) ∧ entries.Pairwise (·.1 < ·.1) ∧
      received ++ entries.map (·.2.call) = (accepted operations).map CommandRequest.call) ∧
    (.unlock ∉ operations → received = []) ∧
    (.unlock ∈ operations → gate.lines = [] ∧ gate.arrays = []) ∧
    (∀ request, request.isBlank = true →
      gate.perform (.submit request) = (gate, [], .submitted .dropped)) ∧
    (∀ request, request.isBlank = false → .unlock ∉ operations →
      (gate.perform (.submit request)).2 = ([], .submitted .queued)) ∧
    (∀ request, request.isBlank = false → .unlock ∈ operations →
      gate.perform (.submit request) = (gate, [request.call], .submitted .forwarded)) ∧
    (.unlock ∉ operations →
      (gate.perform .unlock).2 = ((accepted operations).map CommandRequest.call,
        .flushed (gate.lines ++ gate.arrays).length)) ∧
    (.unlock ∈ operations → gate.perform .unlock = (gate, [], .flushed 0)) := by
  intro gate received
  obtain ⟨entries, stands⟩ : ∃ entries, gate.Stands received operations entries :=
    stands_performAll operations
  have closedIff : gate.ready = false ↔ .unlock ∉ operations := by
    rw [← stands.ready, Bool.not_eq_true]
  refine ⟨⟨entries, stands.holds.perm_queues, stands.holds.ascending, stands.inOrder⟩, ?_, ?_, ?_,
    ?_, ?_, ?_, ?_⟩
  · exact fun notOpened => stands.closed (closedIff.mpr notOpened)
  · intro opened
    have empty := stands.isOpen (stands.ready.mpr opened)
    exact (empty ▸ stands.holds).queues_eq_nil
  · intro request blank
    simp [perform, submit_blank blank]
  · intro request solid notOpened
    obtain ⟨next, submitted, -, -⟩ :=
      stands.holds.submit_closed solid (closedIff.mpr notOpened)
    simp [perform, submitted]
  · intro request solid opened
    simp [perform, submit_open solid (stands.ready.mpr opened)]
  · intro notOpened
    have closed := closedIff.mpr notOpened
    obtain ⟨next, unlocked, -, -⟩ := stands.holds.unlock_closed closed
    have all := stands.inOrder
    rw [stands.closed closed, List.nil_append] at all
    simp [perform, unlocked, ← all, ← stands.holds.perm_queues.length_eq]
  · intro opened
    simp [perform, unlock_open (stands.ready.mpr opened)]

end Gate

end WindowRelay
