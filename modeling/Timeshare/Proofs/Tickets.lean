import Timeshare.Proofs.Queues

/-!
# The queues are a stable priority queue

What queues do is said here without a queue for each level. In a waiting room (`WaitingRoom`) whoever gets ready takes
a ticket with a level and the number of the arrival, and the ticket that is called is the one before all others, first
by level and then by arrival. Queues give the answers of a waiting room, whatever is asked of them
(`Queues.stable_priority`).
-/

namespace Timeshare

/-! ## Requests -/

/-- What may be asked of queues. -/
inductive QueueRequest where
  /-- Put a number at the tail of a level's ready queue. -/
  | enqueueReady (pid : Pid) (level : Priority)
  /-- Take the most urgent ready number. -/
  | dequeueReady
  /-- Put a number at the tail of the blocked queue. -/
  | enqueueBlocked (pid : Pid)
  /-- Take the number that has been blocked the longest. -/
  | dequeueBlocked
  deriving DecidableEq, Repr

namespace QueueRequest

/-- Whether the request is for the ready queues, and not for the blocked queue. -/
def onReady : QueueRequest → Bool
  | enqueueReady _ _ | dequeueReady => true
  | enqueueBlocked _ | dequeueBlocked => false

/-- The request is for no level past the last. -/
def Fits (levels : UInt8) : QueueRequest → Prop
  | enqueueReady _ level => level < levels
  | _ => True

instance (levels : UInt8) : DecidablePred (Fits levels)
  | enqueueReady _ level => inferInstanceAs (Decidable (level < levels))
  | dequeueReady | enqueueBlocked _ | dequeueBlocked => inferInstanceAs (Decidable True)

/-- The number that is to be blocked. -/
def blocking? : QueueRequest → Option Pid
  | enqueueBlocked pid => some pid
  | _ => none

end QueueRequest

/-- Requests with the numbers that they took. -/
abbrev QueueLog := List (QueueRequest × Option Pid)

namespace QueueLog

/-- What was asked of the ready queues, or of the blocked queue. -/
def side (log : QueueLog) (onReady : Bool) : QueueLog := log.filter fun entry => entry.1.onReady == onReady

/-- The numbers that were taken from the blocked queue. -/
def unblocked (log : QueueLog) : List Pid :=
  log.filterMap fun entry => if entry.1 = .dequeueBlocked then entry.2 else none

end QueueLog

namespace Queues

/-- Carries out a request, and gives the number that it takes, if it takes one. A number cannot be put in a queue past
the last level. -/
def serve (q : Queues) : QueueRequest → Option (Option Pid × Queues)
  | .enqueueReady pid level => (q.enqueueReady pid level).map fun q' => (none, q')
  | .dequeueReady =>
    match q.dequeueReady with
    | some (pid, q') => some (some pid, q')
    | none => some (none, q)
  | .enqueueBlocked pid => some (none, q.enqueueBlocked pid)
  | .dequeueBlocked =>
    match q.dequeueBlocked with
    | some (pid, q') => some (some pid, q')
    | none => some (none, q)

/-- Carries out requests one after the other. -/
def serveAll (q : Queues) : List QueueRequest → Option (QueueLog × Queues)
  | [] => some ([], q)
  | request :: requests => do
    let (taken, q₁) ← q.serve request
    let (log, q') ← q₁.serveAll requests
    return ((request, taken) :: log, q')

end Queues

/-! ## The waiting room -/

/-- What whoever is ready holds. -/
structure Ticket where
  level : Priority
  /-- How many tickets were taken before this one. -/
  arrival : Nat
  pid : Pid
  deriving DecidableEq, Repr

/-- The ticket comes before the other: it is of a more urgent level, or of the same level and an earlier arrival. -/
def Ticket.Before (t u : Ticket) : Prop := t.level < u.level ∨ t.level = u.level ∧ t.arrival < u.arrival

instance (t u : Ticket) : Decidable (t.Before u) :=
  inferInstanceAs (Decidable (t.level < u.level ∨ t.level = u.level ∧ t.arrival < u.arrival))

/-- The tickets of whoever is ready, the number of the next arrival, and who is blocked, in the order in which they
came. -/
structure WaitingRoom where
  tickets : List Ticket := []
  arrivals : Nat := 0
  blocked : List Pid := []

namespace WaitingRoom

/-- The ticket that no other comes before. -/
def first? (w : WaitingRoom) : Option Ticket := w.tickets.find? fun t => w.tickets.all fun u => !decide (u.Before t)

/-- Who waits at a level, by arrival. -/
def waitingAt (w : WaitingRoom) (level : Priority) : List Pid :=
  ((w.tickets.filter (·.level = level)).mergeSort (·.arrival ≤ ·.arrival)).map (·.pid)

/-- Carries out a request, and gives the number that it takes, if it takes one. -/
def serve (w : WaitingRoom) : QueueRequest → Option Pid × WaitingRoom
  | .enqueueReady pid level =>
    (none, { w with tickets := w.tickets ++ [⟨level, w.arrivals, pid⟩], arrivals := w.arrivals + 1 })
  | .dequeueReady =>
    match w.first? with
    | some t => (some t.pid, { w with tickets := w.tickets.erase t })
    | none => (none, w)
  | .enqueueBlocked pid => (none, { w with blocked := w.blocked ++ [pid] })
  | .dequeueBlocked => (w.blocked.head?, { w with blocked := w.blocked.tail })

/-- Carries out requests one after the other. -/
def serveAll (w : WaitingRoom) : List QueueRequest → QueueLog × WaitingRoom
  | [] => ([], w)
  | request :: requests =>
    let (taken, w₁) := w.serve request
    let (log, w') := w₁.serveAll requests
    ((request, taken) :: log, w')

/-- The tickets are in the order of their arrivals, none of which is still to come. -/
structure Ordered (w : WaitingRoom) : Prop where
  sorted : w.tickets.Pairwise fun t u => t.arrival < u.arrival
  past : ∀ t ∈ w.tickets, t.arrival < w.arrivals

end WaitingRoom

/-! ## The first ticket -/

variable {t u : Ticket} {w : WaitingRoom}

theorem Ticket.before_iff : t.Before u ↔
    t.level.toNat < u.level.toNat ∨ t.level.toNat = u.level.toNat ∧ t.arrival < u.arrival := by
  rw [Before, UInt8.lt_iff_toNat_lt, ← UInt8.toNat_inj]

theorem Ticket.Before.not_before (h : t.Before u) : ¬u.Before t := by
  rw [before_iff] at h ⊢
  omega

namespace WaitingRoom

/-- No two tickets have the same arrival. -/
theorem Ordered.arrival_ne (h : w.Ordered) (ht : t ∈ w.tickets) (hu : u ∈ w.tickets) (hne : u ≠ t) :
    u.arrival ≠ t.arrival := by
  have : Std.Symm fun t u : Ticket => t.arrival ≠ u.arrival := ⟨fun _ _ => Ne.symm⟩
  exact (h.sorted.imp fun {_ _} => Nat.ne_of_lt).forall hu ht hne

/-- Of two tickets one comes before the other. -/
theorem Ordered.before_or_before (h : w.Ordered) (ht : t ∈ w.tickets) (hu : u ∈ w.tickets) (hne : u ≠ t) :
    t.Before u ∨ u.Before t := by
  have harrival := h.arrival_ne ht hu hne
  rw [Ticket.before_iff, Ticket.before_iff]
  omega

/-- The ticket that is called is the one that comes before all others. -/
theorem Ordered.first?_eq_some_iff (h : w.Ordered) :
    w.first? = some t ↔ t ∈ w.tickets ∧ ∀ u ∈ w.tickets, u ≠ t → t.Before u := by
  have hfirst : ∀ {t}, w.first? = some t → t ∈ w.tickets ∧ ∀ u ∈ w.tickets, u ≠ t → t.Before u := by
    intro t hf
    rw [first?] at hf
    have ht := List.mem_of_find?_eq_some hf
    have hall := List.find?_some hf
    refine ⟨ht, fun u hu hne => (h.before_or_before ht hu hne).resolve_right ?_⟩
    simpa using List.all_eq_true.mp hall u hu
  refine ⟨hfirst, fun ⟨ht, hbefore⟩ => ?_⟩
  have hsome : w.first?.isSome = true := by
    refine List.find?_isSome.mpr ⟨t, ht, List.all_eq_true.mpr fun u hu => ?_⟩
    by_cases hne : u = t
    · subst hne
      simp [Ticket.before_iff]
    · simpa using (hbefore u hu hne).not_before
  obtain ⟨u, hu⟩ := Option.isSome_iff_exists.mp hsome
  obtain ⟨hmem, hbefore'⟩ := hfirst hu
  -- two tickets that come before all others are the same
  by_cases hne : u = t
  · rw [hu, hne]
  · exact absurd (hbefore' t ht (Ne.symm hne)) (hbefore u hmem hne).not_before

/-- Who waits at a level holds the tickets of the level, in the order in which they were taken. -/
theorem Ordered.waitingAt_eq (h : w.Ordered) (level : Priority) :
    w.waitingAt level = (w.tickets.filter (·.level = level)).map (·.pid) := by
  rw [waitingAt, List.mergeSort_of_pairwise]
  exact (h.sorted.filter _).imp fun {_ _} hlt => decide_eq_true (Nat.le_of_lt hlt)

end WaitingRoom

/-! ## One request -/

/-- The queues and the waiting room hold the same. -/
structure Queues.Mirrors (levels : UInt8) (q : Queues) (w : WaitingRoom) : Prop where
  length : q.ready.length = levels.toNat
  ordered : w.Ordered
  readyAt : ∀ level, q.readyAt level = (w.tickets.filter (·.level = level)).map (·.pid)
  count : q.ready.flatten.length = w.tickets.length
  blocked : q.blocked = w.blocked

namespace Queues

variable {levels : UInt8} {q q' : Queues} {request : QueueRequest} {taken : Option Pid} {pid : Pid} {level : Priority}

/-- Empty queues mirror an empty waiting room. -/
theorem mirrors_empty (levels : UInt8) : (empty levels).Mirrors levels {} where
  length := List.length_replicate
  ordered := ⟨.nil, fun _ ht => absurd ht List.not_mem_nil⟩
  readyAt := readyAt_empty levels
  count := by simp [empty]
  blocked := rfl

namespace Mirrors

theorem length_le (h : q.Mirrors levels w) : q.ready.length ≤ 256 := by
  rw [h.length]
  exact Nat.le_of_lt levels.toNat_lt

/-- Whoever gets ready takes a ticket of the level. -/
theorem enqueueReady (h : q.Mirrors levels w) (hq : q.enqueueReady pid level = some q') :
    q'.Mirrors levels (w.serve (.enqueueReady pid level)).2 := by
  have hj := joins_of_enqueueReady hq
  refine ⟨hj.length.trans h.length, ⟨?_, ?_⟩, fun l => ?_, ?_, hj.blocked.trans h.blocked⟩
  · refine List.pairwise_append.mpr ⟨h.ordered.sorted, List.pairwise_singleton _ _, fun t ht u hu => ?_⟩
    rw [List.mem_singleton.mp hu]
    exact h.ordered.past t ht
  · intro t ht
    rcases List.mem_append.mp ht with ht | ht
    · exact Nat.lt_succ_of_lt (h.ordered.past t ht)
    · rw [List.mem_singleton.mp ht]
      exact Nat.lt_succ_self _
  · rw [hj.readyAt, h.readyAt, WaitingRoom.serve, List.filter_append]
    by_cases hl : l = level
    · simp [hl]
    · simp [hl, Ne.symm hl]
  · rw [hj.holds.length_eq, List.length_cons, h.count, WaitingRoom.serve, List.length_append, List.length_singleton]

theorem flatten_eq_nil_iff (h : q.Mirrors levels w) : q.ready.flatten = [] ↔ w.tickets = [] := by
  rw [← List.length_eq_zero_iff, h.count, List.length_eq_zero_iff]

/-- Whoever is taken from the ready queues holds the first ticket. -/
theorem exists_first (h : q.Mirrors levels w) (hl : q.Leaves pid level q') :
    ∃ t, w.first? = some t ∧ t.pid = pid ∧ q'.Mirrors levels { w with tickets := w.tickets.erase t } := by
  have hhead := hl.readyAt level
  rw [if_pos rfl, h.readyAt] at hhead
  obtain ⟨t, rest, hfilter, hpid, hrest⟩ := List.map_eq_cons_iff.mp hhead
  obtain ⟨ht, hlevel⟩ : t ∈ w.tickets ∧ t.level = level := by
    have hmem : t ∈ w.tickets.filter (·.level = level) := hfilter ▸ List.mem_cons_self
    simpa using List.mem_filter.mp hmem
  have hfirst : ∀ u ∈ w.tickets, u ≠ t → t.Before u := by
    intro u hu hne
    rcases Nat.lt_trichotomy u.level.toNat level.toNat with hlt | heq | hgt
    · -- every more urgent queue is empty, so nobody holds a ticket of its level
      have hempty := hl.urgent u.level (UInt8.lt_iff_toNat_lt.mpr hlt)
      rw [h.readyAt, List.map_eq_nil_iff, List.filter_eq_nil_iff] at hempty
      exact absurd (decide_eq_true rfl) (hempty u hu)
    · have hmem : u ∈ t :: rest := hfilter ▸ List.mem_filter.mpr ⟨hu, decide_eq_true (UInt8.toNat_inj.mp heq)⟩
      have hsorted := h.ordered.sorted.filter (·.level = level)
      rw [hfilter, List.pairwise_cons] at hsorted
      exact .inr ⟨hlevel.trans (UInt8.toNat_inj.mp heq).symm, hsorted.1 u ((List.mem_cons.mp hmem).resolve_left hne)⟩
    · exact .inl (hlevel ▸ UInt8.lt_iff_toNat_lt.mpr hgt)
  refine ⟨t, h.ordered.first?_eq_some_iff.mpr ⟨ht, hfirst⟩, hpid, hl.length.trans h.length, ⟨?_, ?_⟩, fun l => ?_, ?_,
    hl.blocked.trans h.blocked⟩
  · exact h.ordered.sorted.sublist List.erase_sublist
  · exact fun u hu => h.ordered.past u (List.mem_of_mem_erase hu)
  · rw [← List.erase_filter]
    by_cases heq : l = level
    · rw [heq, hfilter, List.erase_cons_head, hrest]
    · have hnot : t ∉ w.tickets.filter (·.level = l) := by
        simp [hlevel, Ne.symm heq]
      have hat := hl.readyAt l
      rw [if_neg heq] at hat
      rw [List.erase_of_not_mem hnot, ← hat, h.readyAt]
  · have hcount := congrArg List.length hl.holds
    rw [h.count, List.length_cons] at hcount
    rw [List.length_erase_of_mem ht, hcount, Nat.add_sub_cancel]

/-- There is a first ticket unless there is none. -/
theorem first?_eq_none_iff (h : q.Mirrors levels w) : w.first? = none ↔ w.tickets = [] := by
  constructor
  · intro hnone
    cases hd : q.dequeueReady with
    | none => exact h.flatten_eq_nil_iff.mp ((dequeueReady_eq_none_iff q).mp hd)
    | some left =>
      obtain ⟨level, hl⟩ := leaves_of_dequeueReady h.length_le hd
      obtain ⟨t, hfirst, -⟩ := h.exists_first hl
      cases hnone.symm.trans hfirst
  · intro hnone
    rw [WaitingRoom.first?, hnone, List.find?_nil]

/-- A change of the blocked queue leaves the tickets as they are. -/
theorem of_ready (h : q.Mirrors levels w) (hready : q'.ready = q.ready) :
    q'.Mirrors levels { w with blocked := q'.blocked } where
  length := hready ▸ h.length
  ordered := ⟨h.ordered.sorted, h.ordered.past⟩
  readyAt := fun level => by rw [Queues.readyAt, hready, ← Queues.readyAt, h.readyAt]
  count := hready ▸ h.count
  blocked := rfl

/-- Queues answer a request that fits as the waiting room does, and both hold the same after it. -/
theorem exists_serve (h : q.Mirrors levels w) (hfits : request.Fits levels) :
    ∃ q', q.serve request = some ((w.serve request).1, q') ∧ q'.Mirrors levels (w.serve request).2 := by
  cases request with
  | enqueueReady pid level =>
    obtain ⟨q', hq⟩ := exists_enqueueReady (h.length ▸ UInt8.lt_iff_toNat_lt.mp hfits) pid
    exact ⟨q', by rw [serve, hq, Option.map_some, WaitingRoom.serve], h.enqueueReady hq⟩
  | dequeueReady =>
    simp only [serve, WaitingRoom.serve]
    cases hd : q.dequeueReady with
    | none =>
      rw [h.first?_eq_none_iff.mpr (h.flatten_eq_nil_iff.mp ((dequeueReady_eq_none_iff q).mp hd))]
      exact ⟨q, rfl, h⟩
    | some left =>
      obtain ⟨pid, q'⟩ := left
      obtain ⟨level, hl⟩ := leaves_of_dequeueReady h.length_le hd
      obtain ⟨t, hfirst, rfl, hmirrors⟩ := h.exists_first hl
      rw [hfirst]
      exact ⟨q', rfl, hmirrors⟩
  | enqueueBlocked pid =>
    rw [WaitingRoom.serve, ← h.blocked]
    exact ⟨q.enqueueBlocked pid, rfl, h.of_ready rfl⟩
  | dequeueBlocked =>
    simp only [serve, WaitingRoom.serve]
    cases hd : q.dequeueBlocked with
    | none =>
      have hempty := (dequeueBlocked_eq_none_iff q).mp hd
      have hsame : q.Mirrors levels { w with blocked := q.blocked } := h.of_ready rfl
      rw [hempty] at hsame
      rw [← h.blocked, hempty]
      exact ⟨q, rfl, hsame⟩
    | some left =>
      obtain ⟨pid, q'⟩ := left
      obtain ⟨hblocked, hready⟩ := dequeueBlocked_eq_some_iff.mp hd
      rw [← h.blocked, hblocked]
      exact ⟨q', rfl, h.of_ready hready⟩

end Mirrors

/-! ## Runs -/

variable {requests : List QueueRequest} {log : QueueLog}

/-- Queues answer requests that fit as the waiting room does, and both hold the same after them. -/
theorem Mirrors.exists_serveAll (h : q.Mirrors levels w) (hfits : ∀ request ∈ requests, request.Fits levels) :
    ∃ q', q.serveAll requests = some ((w.serveAll requests).1, q') ∧ q'.Mirrors levels (w.serveAll requests).2 := by
  induction requests generalizing q w with
  | nil => exact ⟨q, rfl, h⟩
  | cons request requests ih =>
    obtain ⟨hfit, hrest⟩ := List.forall_mem_cons.mp hfits
    obtain ⟨q₁, hserve, h₁⟩ := h.exists_serve hfit
    obtain ⟨q', hserveAll, h'⟩ := ih h₁ hrest
    exact ⟨q', by simp [serveAll, hserve, hserveAll, WaitingRoom.serveAll], h'⟩

/-- The first of several requests is carried out before the others. -/
theorem serveAll_cons_eq_some_iff : q.serveAll (request :: requests) = some (log, q') ↔
    ∃ taken q₁ rest, q.serve request = some (taken, q₁) ∧ q₁.serveAll requests = some (rest, q') ∧
      log = (request, taken) :: rest := by
  simp only [serveAll, Option.bind_eq_bind, Option.bind_eq_some_iff, Option.pure_def, Option.some.injEq, Prod.exists,
    Prod.mk.injEq]
  constructor
  · rintro ⟨taken, q₁, hserve, rest, _, hserveAll, rfl, rfl⟩
    exact ⟨taken, q₁, rest, hserve, hserveAll, rfl⟩
  · rintro ⟨taken, q₁, rest, hserve, hserveAll, rfl⟩
    exact ⟨taken, q₁, hserve, rest, q', hserveAll, rfl, rfl⟩

/-! ## The two sides -/

/-- A request for the ready queues neither sees nor changes the blocked queue. -/
theorem serve_withBlocked (hside : request.onReady = true) (q : Queues) (blocked : List Pid) :
    ({ q with blocked := blocked } : Queues).serve request =
      (q.serve request).map fun (taken, q') => (taken, { q' with blocked := blocked }) := by
  cases request with
  | enqueueReady pid level =>
    simp only [serve, enqueueReady]
    split <;> rfl
  | dequeueReady =>
    simp only [serve, dequeueReady]
    cases popFirst q.ready <;> rfl
  | _ => cases hside

/-- A request for the blocked queue neither sees nor changes the ready queues. -/
theorem serve_withReady (hside : request.onReady = false) (q : Queues) (ready : List (List Pid)) :
    ({ q with ready := ready } : Queues).serve request =
      (q.serve request).map fun (taken, q') => (taken, { q' with ready := ready }) := by
  obtain ⟨_, blocked⟩ := q
  cases request with
  | enqueueBlocked pid => rfl
  | dequeueBlocked => cases blocked <;> rfl
  | _ => cases hside

/-- A request for the ready queues leaves the blocked queue as it is. -/
theorem blocked_of_serve (hside : request.onReady = true) (h : q.serve request = some (taken, q')) :
    q'.blocked = q.blocked := by
  have hsame := serve_withBlocked hside q q.blocked
  rw [h] at hsame
  rw [(Prod.mk.inj (Option.some.inj hsame)).2]

/-- A request for the blocked queue leaves the ready queues as they are. -/
theorem ready_of_serve (hside : request.onReady = false) (h : q.serve request = some (taken, q')) :
    q'.ready = q.ready := by
  have hsame := serve_withReady hside q q.ready
  rw [h] at hsame
  rw [(Prod.mk.inj (Option.some.inj hsame)).2]

/-- What is seen of queues from one side is changed by the requests of this side only, and they go by it only. So they
are answered alike without the requests of the other side. -/
theorem serveAll_side (view : Queues → Queues) {onReady : Bool}
    (hsame : ∀ {q request taken q'}, request.onReady = onReady → q.serve request = some (taken, q') →
      (view q).serve request = some (taken, view q'))
    (hother : ∀ {q request taken q'}, request.onReady = !onReady → q.serve request = some (taken, q') →
      view q' = view q)
    (h : q.serveAll requests = some (log, q')) :
    (view q).serveAll (requests.filter (·.onReady == onReady)) = some (log.side onReady, view q') := by
  induction requests generalizing q log with
  | nil =>
    obtain ⟨rfl, rfl⟩ := Prod.mk.inj (Option.some.inj h)
    rfl
  | cons request requests ih =>
    obtain ⟨taken, q₁, rest, hserve, hserveAll, rfl⟩ := serveAll_cons_eq_some_iff.mp h
    have hrest := ih hserveAll
    by_cases hside : request.onReady = onReady
    · rw [List.filter_cons_of_pos (by simp [hside]), QueueLog.side, List.filter_cons_of_pos (by simp [hside])]
      exact serveAll_cons_eq_some_iff.mpr ⟨taken, view q₁, _, hsame hside hserve, hrest, rfl⟩
    · rw [List.filter_cons_of_neg (by simp [hside]), QueueLog.side, List.filter_cons_of_neg (by simp [hside])]
      rwa [hother (Bool.eq_not_iff.mpr hside) hserve] at hrest

/-- The ready queues are what the requests for them make of them. -/
theorem serveAll_onReady (h : q.serveAll requests = some (log, q')) :
    ({ q with blocked := [] } : Queues).serveAll (requests.filter (·.onReady == true)) =
      some (log.side true, { q' with blocked := [] }) := by
  refine serveAll_side (fun q => { q with blocked := [] }) ?_ ?_ h
  · intro q request taken q' hside hserve
    rw [serve_withBlocked hside, hserve, Option.map_some]
  · intro q request taken q' hside hserve
    simp only [ready_of_serve hside hserve]

/-- The blocked queue is what the requests for it make of it. -/
theorem serveAll_onBlocked (h : q.serveAll requests = some (log, q')) (ready : List (List Pid)) :
    ({ q with ready := ready } : Queues).serveAll (requests.filter (·.onReady == false)) =
      some (log.side false, { q' with ready := ready }) := by
  refine serveAll_side (fun q => { q with ready := ready }) ?_ ?_ h
  · intro q request taken q' hside hserve
    rw [serve_withReady hside, hserve, Option.map_some]
  · intro q request taken q' hside hserve
    simp only [blocked_of_serve hside hserve]

/-- A request puts a number in the blocked queue at its tail, takes it at its head, or leaves the blocked queue as it
is. -/
theorem blocked_append (h : q.serve request = some (taken, q')) :
    q.blocked ++ request.blocking?.toList =
      (if request = .dequeueBlocked then taken else none).toList ++ q'.blocked := by
  cases request with
  | enqueueBlocked pid =>
    obtain ⟨rfl, rfl⟩ := Prod.mk.inj (Option.some.inj h)
    simp [QueueRequest.blocking?, enqueueBlocked]
  | dequeueBlocked =>
    simp only [serve] at h
    cases hd : q.dequeueBlocked with
    | none =>
      rw [hd] at h
      obtain ⟨rfl, rfl⟩ := Prod.mk.inj (Option.some.inj h)
      simp [QueueRequest.blocking?]
    | some left =>
      rw [hd] at h
      obtain ⟨rfl, rfl⟩ := Prod.mk.inj (Option.some.inj h)
      simp [QueueRequest.blocking?, (dequeueBlocked_eq_some_iff.mp hd).1]
  | _ => simp [QueueRequest.blocking?, blocked_of_serve rfl h]

/-- What was ever blocked was taken from the blocked queue, in the same order, or is in it. -/
theorem blocked_flow (h : q.serveAll requests = some (log, q')) :
    q.blocked ++ requests.filterMap QueueRequest.blocking? = log.unblocked ++ q'.blocked := by
  induction requests generalizing q log with
  | nil =>
    obtain ⟨rfl, rfl⟩ := Prod.mk.inj (Option.some.inj h)
    simp [QueueLog.unblocked]
  | cons request requests ih =>
    obtain ⟨taken, q₁, rest, hserve, hserveAll, rfl⟩ := serveAll_cons_eq_some_iff.mp h
    have hrest := ih hserveAll
    rw [QueueLog.unblocked, List.filterMap_eq_flatMap_toList, List.filterMap_eq_flatMap_toList] at hrest ⊢
    rw [List.flatMap_cons, List.flatMap_cons, ← List.append_assoc, blocked_append hserve, List.append_assoc, hrest,
      List.append_assoc]

/-! ## The priority queue -/

/-- Queues of so many levels that answered requests by this log, and what they hold then, are those of a stable
priority queue of tickets and of a queue beside it. -/
structure StablePriority (levels : UInt8) (requests : List QueueRequest) (log : QueueLog) (q : Queues)
    (w : WaitingRoom) : Prop where
  /-- The ticket that is called next comes before all others, by level and then by arrival. -/
  called : ∀ t, w.first? = some t ↔ t ∈ w.tickets ∧ ∀ u ∈ w.tickets, u ≠ t → t.Before u
  /-- None is called exactly if there is none. -/
  empty : w.first? = none ↔ w.tickets = []
  /-- Every ready queue lists who waits at its level, by arrival. -/
  readyAt : ∀ level, q.readyAt level = w.waitingAt level
  /-- Nobody waits past the last level. -/
  past : ∀ level, levels ≤ level → q.readyAt level = []
  readyCount : q.readyCount = w.tickets.length
  blocked : q.blocked = w.blocked
  blockedCount : q.blockedCount = w.blocked.length
  /-- Whoever was blocked was taken from the blocked queue, in the same order, or is in it. -/
  inOrder : requests.filterMap QueueRequest.blocking? = log.unblocked ++ q.blocked
  /-- Without the requests for the blocked queue the others are answered alike, and the ready queues hold the same. -/
  readyAlone : ∃ q', (Queues.empty levels).serveAll (requests.filter (·.onReady == true)) = some (log.side true, q') ∧
    q'.ready = q.ready
  /-- Without the requests for the ready queues the others are answered alike, and the blocked queue holds the same. -/
  blockedAlone : ∃ q', (Queues.empty levels).serveAll (requests.filter (·.onReady == false)) =
    some (log.side false, q') ∧
    q'.blocked = q.blocked

theorem readyAt_past (h : q.ready.length = levels.toNat) (hl : levels ≤ level) : q.readyAt level = [] := by
  rw [readyAt, List.getElem?_eq_none (h ▸ UInt8.le_iff_toNat_le.mp hl), Option.getD_none]

/-- Whatever is asked of queues, as long as it is for no level past the last, is answered as by a waiting room in
which the first ticket is called, and the queues list and count what the waiting room holds. Ready and blocked
processes have nothing to do with each other. -/
theorem stable_priority (levels : UInt8) (requests : List QueueRequest)
    (hfits : ∀ request ∈ requests, request.Fits levels) :
    ∃ q, (empty levels).serveAll requests = some ((WaitingRoom.serveAll {} requests).1, q) ∧
      StablePriority levels requests (WaitingRoom.serveAll {} requests).1 q (WaitingRoom.serveAll {} requests).2 := by
  obtain ⟨q, hserve, h⟩ := (mirrors_empty levels).exists_serveAll hfits
  refine ⟨q, hserve, fun t => h.ordered.first?_eq_some_iff, h.first?_eq_none_iff, fun level => ?_,
    fun level => readyAt_past h.length, h.count, h.blocked, congrArg List.length h.blocked, blocked_flow hserve,
    ⟨_, serveAll_onReady hserve, rfl⟩, ⟨_, serveAll_onBlocked hserve _, rfl⟩⟩
  rw [h.readyAt, h.ordered.waitingAt_eq]

/-- Requests to try this on: two numbers wait at one level, one of them twice, and one at a more urgent level, while
another is blocked. -/
theorem stable_priority_sample :
    let requests : List QueueRequest := [
      .enqueueReady 7 2, .enqueueReady 8 2, .enqueueBlocked 9, .enqueueReady 7 2, .enqueueReady 5 0,
      .dequeueReady, .dequeueReady, .dequeueBlocked, .dequeueReady, .dequeueBlocked]
    (∀ request ∈ requests, request.Fits 3) ∧
      (WaitingRoom.serveAll {} requests).1.map (·.2) =
        [none, none, none, none, none, some 5, some 7, some 9, some 8, none] ∧
      ∃ q, (empty 3).serveAll requests = some ((WaitingRoom.serveAll {} requests).1, q) ∧
        StablePriority 3 requests (WaitingRoom.serveAll {} requests).1 q (WaitingRoom.serveAll {} requests).2 := by
  intro requests
  have hfits : ∀ request ∈ requests, request.Fits 3 := by decide
  exact ⟨hfits, by decide, stable_priority 3 requests hfits⟩

end Queues

end Timeshare
