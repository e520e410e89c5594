import MirrorGate.Lib.Threads
import MirrorGate.Worker.Port

/-!
# The Authoring Broker

While a submission is authored, the broker takes requests from several
connections, each in a thread of its own. Whether a request is admitted is
decided under a lock. The callbacks run without the lock, and so do the threads
that wait for a submission another thread has begun.

The flags that are read under the lock stay set as long as it matters: one says
that a tool is active until its callback is over, and the one that says that a
submission was begun is never taken back.

## Main definitions

* `Broker`, `Act`, `perform`: The broker, and what a thread does next.
* `Event`: What the threads did, as far as it matters here.
* `Sound`: What holds of the broker and the actions that are pending.

## Theorems

* `Sound.perform`: Every action keeps it.
* `broker_exclusive`: At most one submission is entered, no tool is admitted
  after it, at most one tool runs, and success is reported only afterwards.
-/

namespace MirrorGate.Authoring

open List

/-- What a request asks for. -/
inductive Operation where
  | contract
  | submit
  | exec (toolId args : Json)
  | unknown

structure Settings where
  token : String
  toolIds : List String
  contract : Json

inductive Reply where
  | contract (contract : Json)
  | submitted
  | result (value : Json)
  | denied (message : String)

/-- The latest event stands first. -/
inductive Event where
  | submitAdmitted
  | execAdmitted
  | submitEntered
  | submitReturned
  | replied (reply : Reply)

structure Broker where
  closed : Bool := false
  toolActive : Bool := false
  submitting : Bool := false
  submission : Option Json := none
  submitDone : Bool := false
  history : List Event := []

/-! ### Requests -/

/-- The operation that a request names, if it names one. -/
def opText (request : Json) : String :=
  match request.member? "op" with
  | some (.str op) => op
  | _ => ""

/-- The checks of `dispatch` that come before the lock. -/
def checkRequest (s : Settings) (request : Json) : Except String Operation :=
  match request.member? "id" with
  | some (.int id) =>
    if 1 ≤ id ∧ id ≤ 2 ^ 53 - 1 then
      let op := opText request
      let fields :=
        if op = "exec" then ["id", "token", "op", "toolId", "args"] else ["id", "token", "op"]
      match request.member? "token" with
      | some (.str token) =>
        if request.exact fields && token = s.token then
          if op = "contract" then .ok .contract
          else if op = "submit" then .ok .submit
          else
            match request.member? "toolId", request.member? "args" with
            | some toolId, some args => .ok (.exec toolId args)
            | _, _ => .ok .unknown
        else .error "invalid owner"
      | _ => .error "invalid owner"
    else .error "invalid request"
  | _ => .error "invalid request"

/-- One argument of a tool, with its length. -/
def argument : Json → Option Nat
  | .str arg => if arg.isEmpty || '\x00' ∈ arg.toList then none else some arg.utf8ByteSize
  | _ => none

/-- The tool may be run with these arguments. -/
def toolAllowed (s : Settings) (toolId args : Json) : Bool :=
  match toolId, args with
  | .str tool, .arr items =>
    match items.mapM argument with
    | some sizes => tool ∈ s.toolIds && items.length ≤ 128 && sizes.sum ≤ 60000
    | none => false
  | _, _ => false

/-! ### Threads -/

inductive Act where
  /-- Connections are accepted, one after the other. -/
  | accept
  | dispatch (request : Json)
  /-- The submit callback runs. -/
  | submit
  | publish (result : Option Json)
  | finish (returned : Bool)
  /-- A thread waits for a submission that another one has begun. -/
  | join
  /-- The execute callback runs. -/
  | execute
  | release (outcome : Except String Json)
  | close
  | unblock

/-- What the outside decides. -/
inductive Input where
  | proceed
  | request (request : Json)
  | timedOut
  | raised
  | submitted (result : Option Json)
  /-- The callback returned a result that takes so many bytes, if it can be
      encoded at all. -/
  | executed (value : Json) (encoded : Option Nat)

namespace Broker

def log (b : Broker) (e : Event) : Broker := { b with history := e :: b.history }

/-- The thread is done, and its reply is sent. -/
def replies (b : Broker) (reply : Reply) : Outcome Broker Act := { shared := b.log (.replied reply) }

/-- The section of `dispatch` under the lock. -/
def admitRequest (b : Broker) (s : Settings) (op : Operation) : Outcome Broker Act :=
  if b.closed then b.replies (.denied "broker closed")
  else
    match op with
    | .submit =>
      if b.submission.isSome then b.replies .submitted
      else
        let admitted := { b with submitting := true }.log .submitAdmitted
        if b.submitting then { shared := admitted, more := [.join] }
        else { shared := admitted.log .submitEntered, more := [.submit] }
    | op =>
      if b.submitting || b.submission.isSome then b.replies (.denied "authoring revoked")
      else
        match op with
        | .contract => b.replies (.contract s.contract)
        | .exec toolId args =>
          if toolAllowed s toolId args && !b.toolActive then
            { shared := { b with toolActive := true }.log .execAdmitted, more := [.execute] }
          else b.replies (.denied "tool denied")
        | _ => b.replies (.denied "unknown operation")

/-- A joined submitter looks at the submission once it need not wait. -/
def joined (b : Broker) : Outcome Broker Act :=
  if b.submission.isSome then b.replies .submitted else b.replies (.denied "submission unavailable")

/-- What is made of a result that takes so many bytes. -/
def boundResult (value : Json) : Option Nat → Except String Json
  | some bytes =>
    if 1048576 - 256 < bytes then .error "tool result exceeds limit" else .ok value
  | none => .error "tool result cannot be encoded"

end Broker

/-- One action of a thread. -/
def perform (s : Settings) (b : Broker) : Act → Input → Option (Outcome Broker Act)
  | .accept, .request r => some { shared := b, more := [.accept], spawned := [[.dispatch r]] }
  | .dispatch r, .proceed =>
    match checkRequest s r with
    | .ok op => some (b.admitRequest s op)
    | .error message => some (b.replies (.denied message))
  | .submit, .submitted result =>
    some { shared := b.log .submitReturned, more := [.publish result] }
  | .submit, .raised => some { shared := b, more := [.finish false] }
  | .publish result, .proceed =>
    some { shared := { b with submission := result }, more := [.finish true] }
  | .finish returned, .proceed =>
    some ({ b with submitDone := true }.replies
      (if returned then .submitted else .denied "submit callback raised"))
  | .join, .timedOut => some (b.replies (.denied "submission unavailable"))
  | .join, .proceed => if b.submitDone then some b.joined else none
  | .execute, .executed value encoded =>
    some { shared := b, more := [.release (Broker.boundResult value encoded)] }
  | .execute, .raised => some { shared := b, more := [.release (.error "execute callback raised")] }
  | .release outcome, .proceed =>
    some ({ b with toolActive := false }.replies (match outcome with
      | .ok value => .result value
      | .error message => .denied message))
  | .close, .proceed => some { shared := { b with closed := true }, more := [.unblock] }
  | .unblock, .proceed => some { shared := { b with submitDone := true } }
  | _, _ => none

/-- A broker that has just been started, and the thread that will close it. -/
def opened : Pool Broker Act := ⟨{}, [[.accept], [.close]]⟩

/-! ### What holds in every state -/

def Event.isEntered : Event → Bool
  | .submitEntered => true
  | _ => false

/-- The execute callback runs. -/
def Act.isExecuting : Act → Bool
  | .execute => true
  | _ => false

/-- The thread holds the flag for the active tool. -/
def Act.holdsTool : Act → Bool
  | .execute | .release _ => true
  | _ => false

/-- The thread is going to say or to note that the submission succeeded. -/
def Act.reportsSubmission : Act → Bool
  | .publish _ | .finish true => true
  | _ => false

/-- What must have happened before an event. -/
def Event.Follows (earlier : List Event) : Event → Prop
  | .execAdmitted => .submitAdmitted ∉ earlier
  | .replied .submitted => .submitReturned ∈ earlier
  | _ => True

/-- Every event follows what it needs. -/
def Orderly : List Event → Prop
  | [] => True
  | e :: earlier => e.Follows earlier ∧ Orderly earlier

theorem Orderly.follows {later earlier : List Event} {e : Event}
    (h : Orderly (later ++ e :: earlier)) : e.Follows earlier := by
  induction later with
  | nil => exact h.1
  | cons _ later ih => exact ih h.2

/-- What holds of the broker and the actions that are pending. -/
structure Sound (b : Broker) (acts : List Act) : Prop where
  tools : acts.countP Act.holdsTool = b.toolActive.toNat
  entries : b.history.countP Event.isEntered = b.submitting.toNat
  admitted : .submitAdmitted ∈ b.history → b.submitting = true
  submission : b.submission.isSome = true → .submitReturned ∈ b.history
  reports : acts.any Act.reportsSubmission = true → .submitReturned ∈ b.history
  orderly : Orderly b.history

theorem Sound.perm {b : Broker} {acts acts' : List Act} (h : Sound b acts)
    (hperm : acts.Perm acts') : Sound b acts' where
  tools := (hperm.countP_eq _).symm.trans h.tools
  entries := h.entries
  admitted := h.admitted
  submission := h.submission
  reports := hperm.any_eq ▸ h.reports
  orderly := h.orderly

/-! ### Steps and runs -/

variable {s : Settings} {b b' : Broker} {a : Act} {acts more others : List Act}

/-- A thread goes on, and it counts as much as before. -/
theorem Sound.goesOn (h : Sound b (a :: others)) (htool : b'.toolActive = b.toolActive)
    (hsubmitting : b'.submitting = b.submitting) (hhistory : b'.history = b.history)
    (htools : more.countP Act.holdsTool = a.holdsTool.toNat)
    (hsubmission : b'.submission.isSome = true → .submitReturned ∈ b.history)
    (hreports : more.any Act.reportsSubmission = true → .submitReturned ∈ b.history) :
    Sound b' (more ++ others) where
  tools := by
    rw [countP_append, htools, htool, ← h.tools, countP_cons, Nat.add_comm]
    cases a.holdsTool <;> rfl
  entries := by rw [hhistory, hsubmitting, h.entries]
  admitted := by
    rw [hhistory, hsubmitting]
    exact h.admitted
  submission := by
    rw [hhistory]
    exact hsubmission
  reports hany := by
    rw [hhistory]
    rw [any_append, Bool.or_eq_true] at hany
    rcases hany with hany | hany
    · exact hreports hany
    · exact h.reports (by rw [any_cons, hany, Bool.or_true])
  orderly := hhistory ▸ h.orderly

/-- Something happens that is neither an admission nor an entry. -/
theorem Sound.log (h : Sound b acts) {e : Event} (hfollows : e.Follows b.history)
    (hentered : e.isEntered = false) (hadmitted : e ≠ .submitAdmitted) : Sound (b.log e) acts where
  tools := h.tools
  entries := by
    rw [Broker.log, countP_cons_of_neg (by rw [hentered]; decide)]
    exact h.entries
  admitted hmem := h.admitted ((mem_cons.mp hmem).resolve_left hadmitted.symm)
  submission hsome := mem_cons_of_mem e (h.submission hsome)
  reports hany := mem_cons_of_mem e (h.reports hany)
  orderly := ⟨hfollows, h.orderly⟩

/-- A thread without a flag ends with a reply. -/
theorem Sound.replies (h : Sound b (a :: others)) {reply : Reply} (htool : a.holdsTool = false)
    (hreply : (Event.replied reply).Follows b.history) : Sound (b.replies reply).shared others := by
  have hdone : Sound b ([] ++ others) :=
    h.goesOn rfl rfl rfl (by rw [htool]; rfl) h.submission (fun hany => by cases hany)
  exact hdone.log hreply rfl (fun heq => by cases heq)

theorem Sound.admitRequest {r : Json} (op : Operation) (h : Sound b (.dispatch r :: others)) :
    Sound (b.admitRequest s op).shared
      ((b.admitRequest s op).more ++ (b.admitRequest s op).spawned.flatten ++ others) := by
  have hdenied (message : String) : Sound (b.replies (.denied message)).shared others :=
    h.replies rfl trivial
  unfold Broker.admitRequest
  split
  · exact hdenied _
  · split
    · split
      · next hsome => exact h.replies rfl (h.submission hsome)
      · dsimp only
        have hentries := h.entries
        split
        · -- Another thread has begun the submission.
          next hsubmitting =>
          rw [hsubmitting] at hentries
          exact ⟨h.tools, hentries, fun _ => rfl, fun hs => mem_cons_of_mem _ (h.submission hs),
            fun hany => mem_cons_of_mem _ (h.reports hany), trivial, h.orderly⟩
        · next hsubmitting =>
          rw [Bool.eq_false_iff.mpr hsubmitting] at hentries
          refine ⟨h.tools, ?_, fun _ => rfl, fun hs => ?_, fun hany => ?_, trivial, trivial, h.orderly⟩
          · exact (countP_cons_of_pos rfl).trans (congrArg Nat.succ hentries)
          · exact mem_cons_of_mem _ (mem_cons_of_mem _ (h.submission hs))
          · exact mem_cons_of_mem _ (mem_cons_of_mem _ (h.reports hany))
    · split
      · exact hdenied _
      · next hfree =>
        split
        · exact h.replies rfl trivial
        · split
          · next hallowed =>
            rw [Bool.and_eq_true, Bool.not_eq_true'] at hallowed
            have htools : others.countP Act.holdsTool = b.toolActive.toNat := h.tools
            rw [hallowed.2] at htools
            have hactive : Sound { b with toolActive := true } (.execute :: others) :=
              ⟨(countP_cons_of_pos rfl).trans (congrArg Nat.succ htools), h.entries,
                h.admitted, h.submission, h.reports, h.orderly⟩
            refine hactive.log (fun hmem => hfree ?_) rfl (fun heq => by cases heq)
            rw [h.admitted hmem, Bool.true_or]
          · exact hdenied _
        · exact hdenied _

/-- The flag of the active tool is taken back by the only thread that holds it. -/
theorem Sound.release {outcome : Except String Json} (h : Sound b (.release outcome :: others)) :
    Sound { b with toolActive := false } others where
  tools := by
    have htools := h.tools
    rw [countP_cons_of_pos rfl] at htools
    have hle := Bool.toNat_le b.toolActive
    change others.countP _ = 0
    omega
  entries := h.entries
  admitted := h.admitted
  submission := h.submission
  reports := h.reports
  orderly := h.orderly

/-- Every action keeps the broker sound. -/
theorem Sound.perform {x : Input} {o : Outcome Broker Act} (h : Sound b (a :: others))
    (hp : perform s b a x = some o) : Sound o.shared (o.more ++ o.spawned.flatten ++ others) := by
  unfold Authoring.perform at hp
  split at hp
  case h_2 =>
    split at hp <;> cases hp
    · exact h.admitRequest _
    · exact h.replies rfl trivial
  case h_3 =>
    cases hp
    have hreturned : Sound (b.log .submitReturned) (.submit :: others) :=
      h.log trivial rfl (fun heq => by cases heq)
    exact hreturned.goesOn rfl rfl rfl rfl hreturned.submission fun _ => mem_cons_self
  case h_5 =>
    cases hp
    exact h.goesOn rfl rfl rfl rfl (fun _ => h.reports rfl) fun _ => h.reports rfl
  case h_6 returned =>
    cases hp
    have hdone : Sound { b with submitDone := true } (.finish returned :: others) :=
      ⟨h.tools, h.entries, h.admitted, h.submission, h.reports, h.orderly⟩
    refine hdone.replies rfl ?_
    cases returned with
    | true => exact h.reports rfl
    | false => trivial
  case h_7 =>
    cases hp
    exact h.replies rfl trivial
  case h_8 =>
    split at hp <;> cases hp
    unfold Broker.joined
    split
    · next hsome => exact h.replies rfl (h.submission hsome)
    · exact h.replies rfl trivial
  case h_11 outcome =>
    cases hp
    refine h.release.log ?_ rfl (fun heq => by cases heq)
    cases outcome <;> trivial
  -- The other actions only say where their thread is.
  all_goals cases hp
  all_goals exact h.goesOn rfl rfl rfl rfl h.submission (fun hany => by cases hany)

theorem sound_of_reaches {p : Pool Broker Act}
    (h : Pool.Reaches (Authoring.perform s) (fun _ _ _ => True) opened p) :
    Sound p.shared p.pending := by
  induction h with
  | refl => constructor <;> first | exact trivial | rfl | (intro h; cases h)
  | tail _ hstep ih =>
    rcases hstep with ⟨before, a, rest, after, x, o, hthreads, hperform, -, rfl⟩
    have hsound := (ih.perm (Pool.pending_perm hthreads)).perform hperform
    exact hsound.perm (Pool.pending_put_perm o).symm

/-- In every run of the broker, whatever the callbacks do and however long they
    take, the submit callback is entered at most once, no tool is admitted after
    a submission was, at most one execute callback runs, and success is reported
    only after the submit callback has returned. -/
theorem broker_exclusive (s : Settings) (p : Pool Broker Act)
    (h : Pool.Reaches (perform s) (fun _ _ _ => True) opened p) :
    p.shared.history.countP Event.isEntered ≤ 1 ∧
      (∀ later earlier, p.shared.history = later ++ .execAdmitted :: earlier →
        .submitAdmitted ∉ earlier) ∧
      p.pending.countP Act.isExecuting ≤ 1 ∧
      ∀ later earlier, p.shared.history = later ++ .replied .submitted :: earlier →
        .submitReturned ∈ earlier := by
  have hsound := sound_of_reaches h
  refine ⟨?_, ?_, ?_, ?_⟩
  · have hle := Bool.toNat_le p.shared.submitting
    have hentries := hsound.entries
    omega
  · intro later earlier heq
    exact Orderly.follows (heq ▸ hsound.orderly)
  · have hle := Bool.toNat_le p.shared.toolActive
    have hmono : p.pending.countP Act.isExecuting ≤ p.pending.countP Act.holdsTool := by
      refine List.countP_mono_left fun a _ ha => ?_
      cases a <;> first | rfl | cases ha
    have htools := hsound.tools
    omega
  · intro later earlier heq
    exact Orderly.follows (heq ▸ hsound.orderly)

/-- A broker, and a request to submit. -/
def plainSettings : Settings := ⟨"t", ["make"], .null⟩

def submitRequest : Json := .obj [("id", .int 1), ("token", .str "t"), ("op", .str "submit")]

theorem broker_exclusive_submission :
    ∃ p : Pool Broker Act, p.shared.history.countP Event.isEntered = 1 ∧
      p.pending.countP Act.isExecuting ≤ 1 := by
  have hrun : (Pool.run (perform plainSettings) (fun _ _ _ => True) opened
      [(0, .request submitRequest), (2, .proceed), (2, .submitted (some .null))]).map
        (fun p => p.shared.history.countP Event.isEntered) = some 1 := by
    decide +kernel
  rcases Option.map_eq_some_iff.mp hrun with ⟨p, hp, hentered⟩
  exact ⟨p, hentered, (broker_exclusive plainSettings p (Pool.reaches_of_run hp)).2.2.1⟩

end MirrorGate.Authoring
