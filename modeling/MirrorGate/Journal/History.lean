import Mathlib.Data.List.Range
import MirrorGate.Journal.Store

/-!
# The History of a Resource

What the journal ever says about one resource is a sequence of records. This
module is about that sequence, over any run of journal operations by any
number of controllers and recoveries.

The history is defined from the outside: it is what a reader of the journal
directory sees, one entry for each time the file of the resource changes.
Calls on other resources may come in between, and so may calls that are
refused or interrupted. The law of the history is that sequence numbers count
the publications, and that any earlier record precedes any later one in the
sense of `Precedes`.

## Main definitions

* `Op`, `Op.perform`: The journal operations as data.
* `History`: The records a run publishes for one resource.

## Theorems

* `perform_step`: One call publishes at most one record for a resource.
* `history_law`: The law of a whole history.
-/

namespace MirrorGate

open List

/-- A call of a journal operation. -/
inductive Op where
  | claimIntent (sessionId resourceId : String) (kind : Kind) (stage : String)
    (retainedRecoverable : Bool) (schema : Schema) (identity : Option Identity)
  | transition (resourceId : String) (phase : Phase) (change : Change)
  | setCleanupTarget (resourceId target : String)
  | beginCleanup (resourceId : String)
  | finishCleanup (resourceId : String) (complete : Bool)

variable {W : Type}

def Op.perform (io : JournalIo W) (lease : Lease) : Op → Py W Record
  | .claimIntent sessionId resourceId kind stage retainedRecoverable schema identity =>
    Journal.claimIntent io lease sessionId resourceId kind stage retainedRecoverable schema identity
  | .transition resourceId phase change => Journal.transition io resourceId phase change
  | .setCleanupTarget resourceId target => Journal.setCleanupTarget io resourceId target
  | .beginCleanup resourceId => Journal.beginCleanup io resourceId
  | .finishCleanup resourceId complete => Journal.finishCleanup io resourceId complete

/-- The record published for a resource between two states, if any. -/
def published (id : String) (before after : Journal) : List Record :=
  if after.find? id = before.find? id then [] else (after.find? id).toList

/-- The records that a run of calls publishes for one resource, from a journal
    in which it does not occur. The outside world may change between calls,
    and a call may end in any way. -/
inductive History (io : JournalIo W) (id : String) : Journal → List Record → Prop where
  | start (journal : Journal) (hfresh : journal.find? id = none) : History io id journal []
  | call {journal : Journal} {records : List Record} (h : History io id journal records)
    (lease : Lease) (op : Op) (world : W) :
    History io id ((op.perform io lease).run ⟨journal, world⟩).2.journal
      (records ++ published id journal ((op.perform io lease).run ⟨journal, world⟩).2.journal)

/-! ### One call -/

/-- At most one record changes, and it changes to a successor. -/
def Updates (before after : Journal) : Prop :=
  ∀ id, after.find? id = before.find? id ∨
    ∃ old new, before.find? id = some old ∧ after.find? id = some new ∧ Successor old new

/-- A new record begins a history. -/
def Begins (before after : Journal) : Prop :=
  ∀ id, after.find? id = before.find? id ∨
    ∃ new, before.find? id = none ∧ after.find? id = some new ∧ new.sequence = 1

namespace Journal

variable {io : JournalIo W} {s : Machine W}

theorem updates_of_eq {before after : Journal} (h : after = before) : Updates before after :=
  fun _ => Or.inl (by rw [h])

theorem Outcome.updates {id : String} {update : Record → Except String Record} {t : Machine W}
    {out : Except Exn Record} (h : Outcome id update s (out, t))
    (hsuccessor : ∀ old new, update old = .ok new → Successor old new) :
    Updates s.journal t.journal := by
  cases h with
  | untouched hjournal => exact updates_of_eq hjournal
  | spoiled name hjournal =>
    intro id'
    rw [hjournal]
    exact Or.inl rfl
  | written current updated hvalid hcurrent hupdate hjournal hout =>
    intro id'
    have hstep := hsuccessor current updated hupdate
    rw [hjournal]
    by_cases hid : id' = updated.resourceId
    · refine Or.inr ⟨current, updated, ?_, ?_, hstep⟩
      · rw [hid, hstep.resourceId, (mem_of_find? hcurrent).2]
        exact hcurrent
      · rw [hid, find?_put_self]
    · exact Or.inl (find?_put_of_ne _ _ _ hid)

theorem transition_updates (io : JournalIo W) (id : String) (phase : Phase) (change : Change)
    (s : Machine W) : Updates s.journal ((transition io id phase change).run s).2.journal :=
  (transition_outcome io id phase change s).updates (fun _ _ h => updateRecord_successor h)

theorem setCleanupTarget_updates (io : JournalIo W) (id target : String) (s : Machine W) :
    Updates s.journal ((setCleanupTarget io id target).run s).2.journal :=
  (setCleanupTarget_outcome io id target s).updates (fun _ _ h => fixCleanupTarget_successor h)

/-- Starting a cleanup is at most one transition. -/
theorem beginCleanup_updates (io : JournalIo W) (id : String) (s : Machine W) :
    Updates s.journal ((beginCleanup io id).run s).2.journal := by
  unfold beginCleanup
  refine bind_same (P := fun r => Updates s.journal r.2.journal) (read_same io id) ?_ ?_
  · intro e t ht
    exact updates_of_eq ht
  · intro current t _ ht
    split
    · exact updates_of_eq ht
    split
    · exact updates_of_eq ht
    · rw [← ht]
      exact transition_updates io id _ _ t

/-- Finishing a cleanup is at most one transition. -/
theorem finishCleanup_updates (io : JournalIo W) (id : String) (complete : Bool) (s : Machine W) :
    Updates s.journal ((finishCleanup io id complete).run s).2.journal := by
  unfold finishCleanup
  refine bind_same (P := fun r => Updates s.journal r.2.journal) (read_same io id) ?_ ?_
  · intro e t ht
    exact updates_of_eq ht
  · intro current t _ ht
    split
    · exact updates_of_eq ht
    split
    · exact updates_of_eq ht
    split
    · exact updates_of_eq ht
    · rw [← ht]
      exact transition_updates io id _ _ t

theorem publish_create_begins (io : JournalIo W) (payload : Record) (hfirst : payload.sequence = 1)
    (s : Machine W) : Begins s.journal ((publish io payload true).run s).2.journal := by
  intro id
  rcases publish_cases io payload true s with ⟨_, _, hj⟩ | ⟨_, name, _, hj⟩ | ⟨hvalid, hfree, hj⟩
  · exact Or.inl (by rw [hj])
  · exact Or.inl (by rw [hj, find?_spoil])
  · rw [hj]
    by_cases hid : id = payload.resourceId
    · rw [hid]
      exact Or.inr ⟨payload, hfree rfl, find?_put_self _ _ _, hfirst⟩
    · exact Or.inl (find?_put_of_ne _ _ _ hid)

/-- A claim begins at most one history. -/
theorem claimIntent_begins (io : JournalIo W) (lease : Lease) (sessionId resourceId : String)
    (kind : Kind) (stage : String) (retainedRecoverable : Bool) (schema : Schema)
    (identity : Option Identity) (s : Machine W) :
    Begins s.journal ((claimIntent io lease sessionId resourceId kind stage retainedRecoverable
      schema identity).run s).2.journal := by
  unfold claimIntent
  refine bind_same (P := fun r => Begins s.journal r.2.journal)
    (checkClaim_same io sessionId resourceId stage) (fun _ t ht id => Or.inl (by rw [ht])) ?_
  intro _ t _ ht
  have hpublish := publish_create_begins io
    (claimRecord lease sessionId resourceId kind stage retainedRecoverable schema identity) rfl t
  rw [← ht]
  rcases hrun : (publish io (claimRecord lease sessionId resourceId kind stage
    retainedRecoverable schema identity) true).run t with ⟨e | _, u⟩
  · rw [Prog.bind_run_error hrun]
    rw [hrun] at hpublish
    exact hpublish
  · rw [hrun] at hpublish
    have hread := read_same io resourceId u
    rw [Prog.bind_run_ok hrun, hread]
    exact hpublish

end Journal

/-- One call, however it ends, leaves a resource alone, begins its history, or
    publishes one successor. -/
theorem perform_step (io : JournalIo W) (lease : Lease) (op : Op) (s : Machine W) (id : String) :
    ((op.perform io lease).run s).2.journal.find? id = s.journal.find? id ∨
    (∃ new, s.journal.find? id = none ∧
      ((op.perform io lease).run s).2.journal.find? id = some new ∧ new.sequence = 1) ∨
    ∃ old new, s.journal.find? id = some old ∧
      ((op.perform io lease).run s).2.journal.find? id = some new ∧ Successor old new := by
  have hupdates : ∀ {after : Journal}, Updates s.journal after →
      after.find? id = s.journal.find? id ∨
      (∃ new, s.journal.find? id = none ∧ after.find? id = some new ∧ new.sequence = 1) ∨
      ∃ old new, s.journal.find? id = some old ∧ after.find? id = some new ∧
        Successor old new := by
    intro after h
    rcases h id with hsame | hstep
    · exact Or.inl hsame
    · exact Or.inr (Or.inr hstep)
  cases op with
  | claimIntent sessionId resourceId kind stage retainedRecoverable schema identity =>
    rcases Journal.claimIntent_begins io lease sessionId resourceId kind stage
      retainedRecoverable schema identity s id with hsame | hbegin
    · exact Or.inl hsame
    · exact Or.inr (Or.inl hbegin)
  | transition resourceId phase change =>
    exact hupdates (Journal.transition_updates io resourceId phase change s)
  | setCleanupTarget resourceId target =>
    exact hupdates (Journal.setCleanupTarget_updates io resourceId target s)
  | beginCleanup resourceId => exact hupdates (Journal.beginCleanup_updates io resourceId s)
  | finishCleanup resourceId complete =>
    exact hupdates (Journal.finishCleanup_updates io resourceId complete s)

/-! ### Whole histories -/

/-- Precedence is transitive as far as a successor goes. -/
theorem Precedes.trans {a b c : Record} (h1 : Precedes a b) (h2 : Precedes b c) : Precedes a c where
  observations := h1.observations.trans h2.observations
  nonterminal := h1.nonterminal
  schema := h2.schema.trans h1.schema
  controllerInstance := h2.controllerInstance.trans h1.controllerInstance
  bootId := h2.bootId.trans h1.bootId
  principalUid := h2.principalUid.trans h1.principalUid
  sessionId := h2.sessionId.trans h1.sessionId
  resourceId := h2.resourceId.trans h1.resourceId
  kind := h2.kind.trans h1.kind
  stateRoot := h2.stateRoot.trans h1.stateRoot
  identity := fun hv2 key value hget =>
    h2.identity (h1.schema.trans hv2) key value (h1.identity hv2 key value hget)

/-- What a history keeps: it ends with the record that is in the journal, it
    counts the publications, and earlier records precede later ones. -/
structure HistoryInv (id : String) (journal : Journal) (records : List Record) : Prop where
  last : journal.find? id = records.getLast?
  counted : records.map Record.sequence = List.range' 1 records.length
  precedes : records.Pairwise Precedes
  valid : ∀ record ∈ records, record.Valid

theorem HistoryInv.append {id : String} {journal after : Journal} {records : List Record}
    {new : Record} (h : HistoryInv id journal records) (hnew : after.find? id = some new)
    (hsequence : new.sequence = records.length + 1)
    (hprecedes : ∀ old ∈ records, Precedes old new) :
    HistoryInv id after (records ++ [new]) where
  last := by rw [hnew, getLast?_append, getLast?_singleton, Option.some_or]
  counted := by
    rw [map_append, h.counted, length_append, map_singleton, length_singleton,
      range'_1_concat, hsequence, Nat.add_comm]
  precedes := by
    rw [pairwise_append]
    refine ⟨h.precedes, pairwise_singleton _ _, ?_⟩
    intro old hold r hr
    rw [mem_singleton.mp hr]
    exact hprecedes old hold
  valid := by
    intro record hrecord
    rcases mem_append.mp hrecord with hrecord | hrecord
    · exact h.valid record hrecord
    · rw [mem_singleton.mp hrecord]
      exact Journal.valid_of_find? hnew

theorem history_inv {io : JournalIo W} {id : String} {journal : Journal} {records : List Record}
    (h : History io id journal records) : HistoryInv id journal records := by
  induction h with
  | start journal hfresh =>
    exact ⟨hfresh, by simp, List.Pairwise.nil, by simp⟩
  | @call journal records _ lease op world ih =>
    have hstep := perform_step io lease op ⟨journal, world⟩ id
    generalize ((op.perform io lease).run ⟨journal, world⟩).2.journal = after at hstep ⊢
    dsimp only at hstep
    unfold published
    rcases hstep with hsame | ⟨new, hnone, hnew, hone⟩ | ⟨old, new, hold, hnew, hsuccessor⟩
    · rw [if_pos hsame, append_nil]
      exact ⟨by rw [hsame, ih.last], ih.counted, ih.precedes, ih.valid⟩
    · -- The history so far is empty, so this is publication number one.
      have hempty : records = [] := by
        rw [ih.last, getLast?_eq_none_iff] at hnone
        exact hnone
      rw [if_neg (by rw [hnew, hnone]; simp), hnew, Option.toList_some]
      refine ih.append hnew (by rw [hempty, hone]; rfl) ?_
      simp [hempty]
    · have hne : new ≠ old := by
        intro heq
        have := hsuccessor.sequence
        rw [heq] at this
        omega
      rw [if_neg (by rw [hnew, hold]; simpa using hne), hnew, Option.toList_some]
      have hlast : records.getLast? = some old := by rw [← ih.last, hold]
      rcases getLast?_eq_some_iff.mp hlast with ⟨front, rfl⟩
      have hcounted := ih.counted
      rw [length_append, length_singleton, range'_1_concat, map_append,
        map_singleton] at hcounted
      have holdSequence : old.sequence = 1 + front.length := by
        have := (append_inj' hcounted rfl).2
        simpa using this
      refine ih.append hnew ?_ ?_
      · rw [hsuccessor.sequence, holdSequence, length_append, length_singleton,
          Nat.add_comm 1]
      · intro r hr
        rcases mem_append.mp hr with hr | hr
        · have hfront := (pairwise_append.mp ih.precedes).2.2 r hr old (by simp)
          exact hfront.trans hsuccessor.toPrecedes
        · rw [mem_singleton.mp hr]
          exact hsuccessor.toPrecedes

/-- The law of a history: publications are numbered from one without gaps;
    every earlier record precedes every later one, so observations only grow,
    a settled phase is never left, the owner never changes and a version 2
    identity key never changes its value; the journal holds the last record;
    and a retained source is only ever cleaned up if it was recoverable. -/
theorem history_law (io : JournalIo W) (id : String) (journal : Journal) (records : List Record)
    (h : History io id journal records) :
    records.map Record.sequence = List.range' 1 records.length ∧
    records.Pairwise Precedes ∧
    journal.find? id = records.getLast? ∧
    ∀ record ∈ records, record.kind = .retainedSource → record.phase.IsCleanup →
      record.retainedRecoverable = true := by
  have hinv := history_inv h
  refine ⟨hinv.counted, hinv.precedes, hinv.last, ?_⟩
  intro record hrecord
  exact (hinv.valid record hrecord).retained

/-- A claim and a transition to `ambiguous`, in a world where every call
    succeeds, have the law. -/
theorem history_law_two_publications :
    ∃ journal records, History (JournalIo.obliging zeroDigest) "worker-1" journal records ∧
      records.length = 2 ∧ records.map Record.sequence = List.range' 1 records.length ∧
      records.Pairwise Precedes ∧ journal.find? "worker-1" = records.getLast? ∧
      ∀ record ∈ records, record.kind = .retainedSource → record.phase.IsCleanup →
        record.retainedRecoverable = true := by
  have hstart : History (JournalIo.obliging zeroDigest) "worker-1" Journal.empty [] :=
    .start _ rfl
  have hclaim := hstart.call ⟨"controller-1", "boot-1", 1000, ⟨1, 2, 1000⟩⟩
    (.claimIntent "session-1" "worker-1" .retainedSource "allocate" false .v1 none) ()
  have hmark := hclaim.call ⟨"recoverer-1", "boot-1", 1000, ⟨1, 2, 1000⟩⟩
    (.transition "worker-1" .ambiguous
      { observation := some ⟨"attempt-1", .ambiguous, some "identity_incomplete"⟩ }) ()
  exact ⟨_, _, hmark, by decide +kernel, history_law _ _ _ _ hmark⟩

end MirrorGate
