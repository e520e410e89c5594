import MirrorGate.Lib.Threads

/-!
# The Store of Frozen Artifacts

A store makes snapshots of directories, any number of them at the same time, and
closing it waits until none is being made. What it waits for is a counter. A
call of `freeze` is counted when it is admitted, and it is no longer counted
when its `finally` clause is through.

Between the two, nearly everything can fail and is caught. Two things are not.
The journal is asked for a claim before the `try` statement begins, and the
descriptor of the snapshot is closed before the counter goes down. When one of
them raises, the call is over and is counted for ever, so closing the store
waits for nobody until its deadline has passed.

## Main definitions

* `Store`, `Act`, `perform`: The store, and what a thread does next.
* `executing`: How many calls of `freeze` are being executed.
* `Exact`: The counter is right, and closing waits for these calls.
* `Balanced`: Neither of the two things raises.

## Theorems

* `inflight_of_perform`: What one action does to the counter.
* `exact_iff_balanced`: The counter is right as long as neither of them raises.
-/

namespace MirrorGate.Frozen

structure Store where
  /-- There is a journal. -/
  journal : Bool
  /-- The store has made its own directory. -/
  removeOwned : Bool
  leases : List Nat := []
  pendingRemovals : List (Nat × Option String) := []
  inflight : Int := 0
  closed : Bool := false
  /-- What calls of `freeze` have returned or raised. -/
  frozen : List (Except String Nat) := []
  /-- What calls of `close` have returned or raised. -/
  closes : List (Except String (List String)) := []

inductive Act where
  -- `freeze`
  | freeze
  /-- A name is drawn for the lease and the snapshot. -/
  | draw
  | claim (id : Nat)
  | copy (id : Nat)
  /-- The snapshot becomes a resource of the journal. -/
  | own (id : Nat)
  | openDirectory (id : Nat)
  /-- A snapshot that cannot be opened is removed. -/
  | unwind (message : String)
  | commit (id : Nat)
  /-- The store was closed, and the snapshot is removed again. -/
  | retract (id : Nat)
  /-- The `except` clause, while the descriptor is open or not. -/
  | repair (opened : Bool) (message : String)
  | closeDescriptor (message : String)
  | leave (result : Except String Nat)
  -- `close`
  | close
  | wait
  | remove (paths : List Nat) (failures : List String)
  | settle (failures : List String)
  | removeOwned (failures : List String)

/-- What the outside decides. -/
inductive Input where
  | done
  | raised (message : String)
  | token (id : Nat)
  | timedOut
  /-- Closing the descriptor of a lease raises, after some were closed. -/
  | torn (closed : Nat) (message : String)

namespace Store

def answer (s : Store) (result : Except String Nat) : Store :=
  { s with frozen := s.frozen ++ [result] }

def answerClose (s : Store) (result : Except String (List String)) : Store :=
  { s with closes := s.closes ++ [result] }

/-- `setdefault` with nothing. -/
def expect (s : Store) (path : Nat) : Store :=
  if s.pendingRemovals.any (·.1 = path) then s
  else { s with pendingRemovals := s.pendingRemovals ++ [(path, none)] }

/-- A removal is over. A failure is kept, with at most so many characters. -/
def removed (s : Store) (path : Nat) (failure : Option String) : Store :=
  match failure with
  | none => { s with pendingRemovals := s.pendingRemovals.filter (·.1 ≠ path) }
  | some message =>
    { s.expect path with
      pendingRemovals := (s.expect path).pendingRemovals.map fun entry =>
        if entry.1 = path then (path, some (String.ofList (message.toList.take 1024))) else entry }

/-- Leases are closed, and their snapshots are to be removed. -/
def sweep (s : Store) (leases : List Nat) : Store :=
  leases.foldl expect { s with leases := [] }

end Store

def performFreeze (s : Store) : Act → Input → Option (Outcome Store Act)
  | .freeze, .done =>
    if s.closed then some { shared := s.answer (.error "frozen artifact store is closed") }
    else some { shared := { s with inflight := s.inflight + 1 }, more := [.draw] }
  | .draw, .token id =>
    -- A name that is taken is drawn again.
    if id ∈ s.leases then none
    else some { shared := s, more := [if s.journal then .claim id else .copy id] }
  | .claim id, .done => some { shared := s, more := [.copy id] }
  | .claim _, .raised message => some { shared := s.answer (.error message) }
  | .copy id, .done =>
    some { shared := s, more := [if s.journal then .own id else .openDirectory id] }
  | .copy _, .raised message => some { shared := s, more := [.repair false message] }
  | .own id, .done => some { shared := s, more := [.openDirectory id] }
  | .own _, .raised message => some { shared := s, more := [.repair false message] }
  | .openDirectory id, .done => some { shared := s, more := [.commit id] }
  | .openDirectory _, .raised message => some { shared := s, more := [.unwind message] }
  | .unwind message, .done => some { shared := s, more := [.repair false message] }
  | .unwind _, .raised message => some { shared := s, more := [.repair false message] }
  | .commit id, .done =>
    if s.closed then some { shared := s.expect id, more := [.retract id] }
    else some { shared := { s with leases := s.leases ++ [id] }, more := [.leave (.ok id)] }
  | .commit _, .raised message =>
    -- The descriptor could not be closed, or the lease not be made.
    some { shared := s, more := [.repair true message] }
  | .retract id, .done =>
    some { shared := s.removed id none
           more := [.repair false "frozen artifact store closed during snapshot"] }
  | .retract id, .raised message =>
    some { shared := s.removed id (some message)
           more := [.repair false "frozen artifact store closed and partial removal failed"] }
  | .repair opened message, .done =>
    some { shared := s
           more := [if opened then .closeDescriptor message else .leave (.error message)] }
  | .repair opened message, .raised _ =>
    -- What the journal raises here is dropped.
    some { shared := s
           more := [if opened then .closeDescriptor message else .leave (.error message)] }
  | .closeDescriptor message, .done => some { shared := s, more := [.leave (.error message)] }
  | .closeDescriptor _, .raised message => some { shared := s.answer (.error message) }
  | .leave result, .done =>
    some { shared := { s with inflight := s.inflight - 1 }.answer result }
  | _, _ => none

def performClose (s : Store) : Act → Input → Option (Outcome Store Act)
  | .close, .done => some { shared := { s with closed := true }, more := [.wait] }
  | .wait, .done =>
    if s.inflight ≠ 0 then none
    else
      some { shared := s.sweep s.leases
             more := [.remove ((s.sweep s.leases).pendingRemovals.map (·.1)) []] }
  | .wait, .timedOut =>
    if s.inflight = 0 then none
    else
      some { shared := s.sweep s.leases
             more := [.remove ((s.sweep s.leases).pendingRemovals.map (·.1))
              ["snapshot copy did not quiesce before store cleanup deadline"]] }
  | .wait, .torn closed message =>
    if s.leases.length ≤ closed then none
    else some { shared := (s.sweep (s.leases.take closed)).answerClose (.error message) }
  | .remove [] failures, .done => some { shared := s, more := [.settle failures] }
  | .remove (path :: paths) failures, .done =>
    some { shared := s.removed path none, more := [.remove paths failures] }
  | .remove (path :: paths) failures, .raised message =>
    some { shared := s.removed path (some message)
           more := [.remove paths (failures ++ ["snapshot removal failed: " ++ message])] }
  | .settle failures, .done =>
    if s.removeOwned ∧ s.pendingRemovals = [] ∧ s.inflight = 0 then
      some { shared := s, more := [.removeOwned failures] }
    else some { shared := s.answerClose (.ok failures) }
  | .removeOwned failures, .done => some { shared := s.answerClose (.ok failures) }
  | .removeOwned failures, .raised message =>
    let failures := failures ++ ["snapshot store removal failed: " ++ message]
    some { shared := s.answerClose (.ok failures) }
  | _, _ => none

/-- The action belongs to a call of `freeze` that has been admitted. -/
def Act.inside : Act → Bool
  | .draw | .claim _ | .copy _ | .own _ | .openDirectory _ | .unwind _ | .commit _ | .retract _
  | .repair _ _ | .closeDescriptor _ | .leave _ => true
  | _ => false

/-- What an action does. -/
def perform (s : Store) (a : Act) (x : Input) : Option (Outcome Store Act) :=
  match a with
  | .close | .wait | .remove _ _ | .settle _ | .removeOwned _ => performClose s a x
  | _ => performFreeze s a x

/-- A call, by a thread of its own. -/
inductive Call where
  | freeze
  | close

def Call.act : Call → Act
  | .freeze => .freeze
  | .close => .close

/-- A new store, and any number of calls. -/
def start (journal removeOwned : Bool) (calls : List Call) : Pool Store Act :=
  ⟨{ journal := journal, removeOwned := removeOwned }, calls.map fun call => [call.act]⟩

/-- How many calls of `freeze` are being executed. -/
def executing (p : Pool Store Act) : Nat := p.pending.countP Act.inside

/-- The counter is the number of calls that are being executed. Closing goes on
    without a failure when there are none, and otherwise not before its
    deadline. -/
structure Exact (p : Pool Store Act) : Prop where
  counted : p.shared.inflight = executing p
  prompt : (perform p.shared .wait .done).isSome = true ↔ executing p = 0
  waits : (perform p.shared .wait .timedOut).isSome = true ↔ executing p ≠ 0

/-- A call that is counted ends without going through the `finally` clause. -/
def Act.slips : Act → Input → Bool
  | .claim _, .raised _ | .closeDescriptor _, .raised _ => true
  | _, _ => false

/-- The journal does not refuse a claim, and the `finally` clause can close the
    descriptor. -/
def Balanced (_ : Store) (a : Act) (x : Input) : Prop := a.slips x = false

instance (s : Store) (a : Act) (x : Input) : Decidable (Balanced s a x) :=
  inferInstanceAs (Decidable (a.slips x = false))

/-! ### One action -/

variable {s : Store} {a : Act} {x : Input} {o : Outcome Store Act}

theorem inflight_expect (s : Store) (path : Nat) : (s.expect path).inflight = s.inflight := by
  unfold Store.expect
  split <;> rfl

theorem inflight_removed (s : Store) (path : Nat) (failure : Option String) :
    (s.removed path failure).inflight = s.inflight := by
  cases failure with
  | none => rfl
  | some message => exact inflight_expect s path

theorem inflight_sweep (s : Store) (leases : List Nat) :
    (s.sweep leases).inflight = s.inflight := by
  have hfold (t : Store) : (leases.foldl Store.expect t).inflight = t.inflight := by
    induction leases generalizing t with
    | nil => rfl
    | cons path leases ih => exact (ih _).trans (inflight_expect t path)
  exact hfold _

theorem inflight_of_performClose (ha : a.inside = false) (h : performClose s a x = some o) :
    o.spawned = [] ∧ o.more.countP Act.inside = 0 ∧ o.shared.inflight = s.inflight := by
  unfold performClose at h
  repeat' split at h
  all_goals cases h
  all_goals refine ⟨rfl, rfl, ?_⟩
  all_goals first
    | rfl
    | exact inflight_sweep s _
    | exact inflight_removed s _ _

/-- What one action does to the counter: it stays as far above the number of
    calls as it is, unless a call slips. -/
theorem inflight_of_perform (h : perform s a x = some o) :
    o.spawned = [] ∧ o.shared.inflight - (o.more.countP Act.inside : Nat) =
      s.inflight - (a.inside.toNat : Nat) + ((a.slips x).toNat : Nat) := by
  unfold perform at h
  split at h
  all_goals try
    rcases inflight_of_performClose rfl h with ⟨hspawned, hmore, hinflight⟩
    refine ⟨hspawned, ?_⟩
    rw [hmore, hinflight]
    simp [Act.inside, Act.slips]
  unfold performFreeze at h
  repeat' split at h
  all_goals cases h
  all_goals refine ⟨rfl, ?_⟩
  all_goals
    simp [Act.inside, Act.slips, Store.answer, inflight_expect, inflight_removed,
      List.countP_cons]

/-! ### Every run -/

/-- How far the counter is above the number of calls. -/
def slack (p : Pool Store Act) : Int := p.shared.inflight - (executing p : Nat)

variable {p q : Pool Store Act}

/-- What one step does to the counter. -/
theorem slack_put {before after : List (List Act)} {rest : List Act}
    (hthreads : p.threads = before ++ (a :: rest) :: after)
    (hperform : perform p.shared a x = some o) :
    slack (Pool.put o before rest after) = slack p + ((a.slips x).toNat : Nat) := by
  rcases inflight_of_perform hperform with ⟨hspawned, hbalance⟩
  have hp : executing p = _ := (Pool.pending_perm hthreads).countP_eq Act.inside
  have hq : executing (Pool.put o before rest after) = _ :=
    (Pool.pending_put_perm o).countP_eq Act.inside
  have hinside : (if a.inside = true then 1 else 0) = a.inside.toNat := by
    cases a.inside <;> rfl
  rw [List.countP_cons, hinside] at hp
  rw [hspawned, List.flatten_nil, List.append_nil, List.countP_append] at hq
  rw [slack, slack, hp, hq]
  change o.shared.inflight - _ = _
  omega

theorem slack_start (journal removeOwned : Bool) (calls : List Call) :
    slack (start journal removeOwned calls) = 0 := by
  have hnone : executing (start journal removeOwned calls) = 0 := by
    refine List.countP_eq_zero.mpr fun a ha => ?_
    rcases List.mem_flatten.mp ha with ⟨thread, hthread, ha⟩
    rcases List.mem_map.mp hthread with ⟨call, -, rfl⟩
    rw [List.mem_singleton.mp ha]
    cases call <;> simp [Call.act, Act.inside]
  rw [slack, hnone]
  rfl

/-- Without a call that slips, the counter stays right. -/
theorem slack_of_balanced (h : Pool.Reaches perform Balanced p q) : slack q = slack p := by
  induction h with
  | refl => rfl
  | tail _ hstep ih =>
    rcases hstep with ⟨before, a, rest, after, x, o, hthreads, hperform, hslips, rfl⟩
    have hslips : a.slips x = false := hslips
    rw [slack_put hthreads hperform, hslips, ih]
    exact add_zero _

/-- Once a call has slipped, the counter stays too high. -/
theorem balanced_or_slack (h : Pool.Reaches perform (fun _ _ _ => True) p q)
    (hp : slack p = 0) : Pool.Reaches perform Balanced p q ∨ 0 < slack q := by
  induction h with
  | refl => exact .inl .refl
  | tail _ hstep ih =>
    rcases hstep with ⟨before, a, rest, after, x, o, hthreads, hperform, -, rfl⟩
    have hput := slack_put hthreads hperform
    rcases ih with hbalanced | hhigh
    · cases hslips : a.slips x with
      | false =>
        exact .inl (.tail hbalanced
          ⟨before, a, rest, after, x, o, hthreads, hperform, hslips, rfl⟩)
      | true =>
        right
        rw [hput, slack_of_balanced hbalanced, hp, hslips]
        decide
    · right
      omega

theorem exact_iff_slack : Exact p ↔ slack p = 0 := by
  constructor
  · intro h
    rw [slack, h.counted, sub_self]
  · intro h
    have hcounted : p.shared.inflight = executing p := sub_eq_zero.mp h
    refine ⟨hcounted, ?_, ?_⟩
    all_goals
      simp only [perform, performClose, hcounted]
      split <;> simp_all

/-- However calls of `freeze` and `close` are interleaved and whatever fails in
    them, the counter is right in a state exactly when the run that has reached
    it has no call that slips: no call of which the journal refuses the claim, or
    of which the `finally` clause cannot close the descriptor. -/
theorem exact_iff_balanced (journal removeOwned : Bool) (calls : List Call) (p : Pool Store Act)
    (h : Pool.Reaches perform (fun _ _ _ => True) (start journal removeOwned calls) p) :
    Exact p ↔ Pool.Reaches perform Balanced (start journal removeOwned calls) p := by
  have hstart := slack_start journal removeOwned calls
  rw [exact_iff_slack]
  constructor
  · intro hzero
    exact (balanced_or_slack h hstart).resolve_right (by omega)
  · intro hbalanced
    rw [slack_of_balanced hbalanced, hstart]

/-- A snapshot is made and the store is closed. -/
theorem exact_iff_balanced_snapshot :
    ∃ p, p.shared.closed = true ∧ p.shared.leases = [7] ∧ Exact p ∧
      Pool.Reaches perform Balanced (start true true [.freeze, .close]) p := by
  have hrun : ((start true true [.freeze, .close]).run perform (fun _ _ _ => True)
      [(0, .done), (0, .token 7), (0, .done), (0, .done), (0, .done), (0, .done), (0, .done),
        (0, .done), (1, .done)]).map (fun p => (p.shared.closed, p.shared.leases, slack p)) =
      some (true, [7], 0) := by
    decide
  rcases Option.map_eq_some_iff.mp hrun with ⟨p, hp, heq⟩
  simp only [Prod.mk.injEq] at heq
  have hexact : Exact p := exact_iff_slack.mpr heq.2.2
  exact ⟨p, heq.1, heq.2.1, hexact,
    (exact_iff_balanced true true _ p (Pool.reaches_of_run hp)).mp hexact⟩

/-- The journal refuses a claim. No call is being executed, but closing the store
    waits until its deadline. -/
theorem refusedClaim_not_exact :
    ∃ p, Pool.Reaches perform (fun _ _ _ => True) (start true true [.freeze, .close]) p ∧
      executing p = 0 ∧ p.shared.inflight = 1 ∧ (perform p.shared .wait .done).isSome = false ∧
      (perform p.shared .wait .timedOut).isSome = true := by
  have hrun : ((start true true [.freeze, .close]).run perform (fun _ _ _ => True)
      [(0, .done), (0, .token 7), (0, .raised "journal record count exceeds limit"),
        (1, .done)]).map (fun p => (executing p, p.shared.inflight,
          (perform p.shared .wait .done).isSome, (perform p.shared .wait .timedOut).isSome)) =
      some (0, 1, false, true) := by
    decide
  rcases Option.map_eq_some_iff.mp hrun with ⟨p, hp, heq⟩
  simp only [Prod.mk.injEq] at heq
  exact ⟨p, Pool.reaches_of_run hp, heq⟩

end MirrorGate.Frozen
