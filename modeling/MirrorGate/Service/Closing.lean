import MirrorGate.Service.Machine

/-!
# The End of the Evaluation Service

When the service ends, it reports whether all cleanup is confirmed. By then the
table has forgotten most of the runs. What the report rests on is a counter and
a flag: how many runs are not settled, and whether the cleanup of some run, at
some time, was not confirmed.

## Main definitions

* `State.closeResult`: What `close` returns.
* `Served`: What a request can do to the service.
* `Record.Ended`: A run is terminal when its callback has been taken in.
* `State.Books`: The counter and the flag are right about all runs there ever
  were.

## Theorems

* `State.Books.step`: Every step keeps the books.
* `closeResult_truthful`: If the service reports that cleanup is confirmed, all
  runs have settled with a result that says so.
-/

namespace MirrorGate.Service

open List

/-- What `close` returns: the cleanup, and the number of active runs. -/
def State.closeResult (s : State) : Cleanup × Nat :=
  (if s.active = 0 ∧ s.uncertain = false then .confirmed else .unconfirmed, s.active)

/-- Nothing about the cleanup of a run is unconfirmed. -/
def Record.Clear (r : Record) : Prop :=
  r.phase ≠ .unconfirmed ∧ ∀ result ∈ r.result, result.cleanup = .confirmed

/-- A run is terminal when its callback has been taken in, and a finished run has
    a result. -/
structure Record.Ended (r : Record) : Prop where
  terminal : r.stage = .concluded ∨ r.stage = .settled → r.terminal = true
  result : r.phase = .finished → r.result.isSome = true

/-- The runs that are not settled are counted, and if nothing is uncertain, all
    runs are clear. -/
structure State.Books (s : State) : Prop where
  active : s.active = s.runs.countP (!·.settled)
  ended : ∀ r ∈ s.runs, r.Ended
  clear : s.uncertain = false → ∀ r ∈ s.runs, r.Clear

/-! ### Requests -/

/-- What a request can do to the service. -/
inductive Served (s : State) (caller : Nat) (c : Caller) (chance : Chance) : State → Prop where
  | kept (consumed : Nat) : Served s caller c chance { s with consumed := consumed }
  | accepted (consumed : Nat) (startKey : Handle) (binding : Binding) :
      c.starts startKey = none → s.active < s.limits .activeRuns →
      c.active < s.limits .activeRunsPerCaller →
      Served s caller c chance (accept { s with consumed := consumed } caller
        (newRecord s.limits caller chance.fresh startKey binding))
  | cancelled (i : Nat) : Served s caller c chance (s.cancel i)

theorem served_startNew (s : State) (caller : Nat) (c : Caller) (startKey : Handle)
    (suiteRef implementationRef : Reference) (chance : Chance) (hnew : c.starts startKey = none) :
    Served s caller c chance
      (startNew s caller c startKey suiteRef implementationRef chance).1 := by
  rw [startNew]
  split
  · exact .kept s.consumed
  · split
    · exact .kept s.consumed
    · next binding _ =>
      split
      · exact .kept s.consumed
      · next hlimits =>
        push Not at hlimits
        -- Only a binding with a budget asks for an attempt.
        by_cases hbudget : binding.budgeted = true
        · simp only [consume, hbudget, if_true]
          cases chance.budget with
          | granted => exact .accepted (s.consumed + 1) startKey binding hnew hlimits.1 hlimits.2.1
          | exhausted => exact .kept (s.consumed + 1)
          | broken => exact .kept (s.consumed + 1)
        · simp only [consume, hbudget]
          exact .accepted s.consumed startKey binding hnew hlimits.1 hlimits.2.1

theorem served_inEpoch (s : State) (caller : Nat) (c : Caller) (chance : Chance) (epoch : Handle)
    {answer : State × Except Code Reply} (h : Served s caller c chance answer.1) :
    Served s caller c chance (inEpoch s epoch answer).1 := by
  rw [inEpoch]
  split
  · exact .kept s.consumed
  · exact h

/-- A request does one of these things. -/
theorem served_serve (s : State) (caller : Nat) (c : Caller) (op : Op) (chance : Chance) :
    Served s caller c chance (serve s caller c op chance).1 := by
  cases op with
  | hello => exact .kept s.consumed
  | start epoch startKey suiteRef implementationRef =>
    apply served_inEpoch
    rw [start]
    split
    · exact .kept s.consumed
    · next hnew => exact served_startNew s caller c startKey _ _ chance hnew
  | get epoch ref =>
    apply served_inEpoch
    split <;> exact .kept s.consumed
  | cancel epoch runId =>
    apply served_inEpoch
    split
    · next i _ => exact .cancelled i
    · exact .kept s.consumed

/-! ### Runs -/

theorem countP_modify (p : Record → Bool) (f : Record → Record) {runs : List Record} {i : Nat}
    {r : Record} (h : runs[i]? = some r) :
    (runs.modify i f).countP p + (p r).toNat = runs.countP p + (p (f r)).toNat := by
  induction runs generalizing i with
  | nil => cases h
  | cons q runs ih =>
    cases i with
    | zero =>
      cases h
      cases hp : p r <;> cases hf : p (f r) <;> simp [hp, hf]
    | succ i =>
      have := ih (i := i) h
      simp only [modify_succ_cons, countP_cons]
      omega

theorem mem_modify {f : Record → Record} {runs : List Record} {i : Nat} {r : Record}
    (h : r ∈ runs.modify i f) : r ∈ runs ∨ ∃ q, runs[i]? = some q ∧ r = f q := by
  rcases mem_iff_getElem?.mp h with ⟨j, hj⟩
  rw [getElem?_modify] at hj
  rcases Option.map_eq_some_iff.mp hj with ⟨q, hq, hr⟩
  split at hr
  · next hij => exact .inr ⟨q, hij ▸ hq, hr.symm⟩
  · exact .inl (hr ▸ mem_of_getElem? hq)

namespace Record

variable {L : Limits} {r : Record}

theorem settled_unconfirmed (code : FailureCode) : (r.unconfirmed L code).settled = r.settled := by
  rw [Record.unconfirmed]
  split <;> rfl

theorem settled_cancel : (r.cancel L).settled = r.settled := by
  rw [Record.cancel]
  split <;> rfl

theorem Clear.cancel (h : r.Clear) : (r.cancel L).Clear := by
  rw [Record.cancel]
  split
  · exact h
  · exact ⟨(fun h => by cases h), h.2⟩

theorem Clear.launch (h : r.Clear) : (r.launch L).Clear := by
  rw [Record.launch]
  split
  · exact h
  · exact ⟨(fun h => by cases h), h.2⟩

theorem Clear.unconfirmed (h : r.Clear) (code : FailureCode) (hterminal : r.terminal = true) :
    (r.unconfirmed L code).Clear := by
  rw [Record.unconfirmed, if_pos hterminal]
  exact h

theorem settled_eq_false {stage : Stage} (h : r.stage = stage) (hne : stage ≠ .settled) :
    r.settled = false := by
  rw [settled, h]
  exact decide_eq_false hne

theorem Ended.unconfirmed (h : r.Ended) (code : FailureCode) : (r.unconfirmed L code).Ended := by
  rw [Record.unconfirmed]
  split
  · exact h
  · exact ⟨fun _ => rfl, (fun h => by cases h)⟩

theorem Ended.cancel (h : r.Ended) : (r.cancel L).Ended := by
  rw [Record.cancel]
  split
  · exact h
  · next hlive =>
    refine ⟨fun hstage => absurd ?_ hlive, (fun h => by cases h)⟩
    rw [h.terminal hstage, Bool.true_or]

theorem Ended.launch (h : r.Ended) : (r.launch L).Ended := by
  refine ⟨(fun hstage => by rcases hstage with h | h <;> cases h), ?_⟩
  rw [Record.launch]
  split
  · exact h.result
  · exact (fun h => by cases h)

/-- A run that has not been taken in can go to another such stage. -/
theorem Ended.at (h : r.Ended) {stage : Stage} (hopen : stage ≠ .concluded ∧ stage ≠ .settled) :
    { r with stage := stage }.Ended :=
  ⟨fun hstage => (not_or.mpr hopen hstage).elim, h.result⟩

theorem terminal_unconfirmed (code : FailureCode) : (r.unconfirmed L code).terminal = true := by
  rw [Record.unconfirmed]
  split
  · assumption
  · rfl

theorem cleanup_disclose (disclosure : Option Disclosure) (result : PublicResult) :
    (disclose disclosure result).cleanup = result.cleanup := by
  cases disclosure <;> rfl

end Record

/-! ### States -/

namespace State

variable {s t : State}

/-- A run is forgotten by the tables only. -/
theorem forget_eq (s : State) (i : Nat) :
    ∃ records callers, s.forget i = { s with records := records, callers := callers } := by
  rw [forget]
  split
  · exact ⟨s.records, s.callers, rfl⟩
  · exact ⟨_, _, rfl⟩

/-- Forgetting runs changes the tables only. -/
theorem prune_eq (s : State) (now : Nat) :
    ∃ records callers, s.prune now = { s with records := records, callers := callers } := by
  have hfold (places : List Nat) : ∀ s : State,
      ∃ records callers, places.foldl forget s = { s with records := records, callers := callers } := by
    induction places with
    | nil => exact fun s => ⟨s.records, s.callers, rfl⟩
    | cons i places ih =>
      intro s
      rcases forget_eq s i with ⟨records, callers, h⟩
      rcases ih (s.forget i) with ⟨records', callers', h'⟩
      refine ⟨records', callers', ?_⟩
      rw [foldl_cons, h', h]
  exact hfold _ s

theorem atStage_eq_some {i : Nat} {stage : Stage} {f : Record → State} {t : State}
    (h : atStage s i stage f = some t) :
    ∃ r, s.runs[i]? = some r ∧ r.stage = stage ∧ t = f r := by
  rw [atStage] at h
  split at h
  · next r hr =>
    split at h
    · next hstage => exact ⟨r, hr, hstage, (Option.some.inj h).symm⟩
    · cases h
  · cases h

theorem Books.congr (hs : s.Books) (hruns : t.runs = s.runs) (hactive : t.active = s.active)
    (huncertain : t.uncertain = s.uncertain) : t.Books where
  active := by rw [hactive, hruns, hs.active]
  ended := hruns ▸ hs.ended
  clear := by
    rw [huncertain, hruns]
    exact hs.clear

/-- Something is done to a run that leaves it settled or not. -/
theorem Books.update (hs : s.Books) (i : Nat) (f : Record → Record)
    (hruns : t.runs = s.runs.modify i f) (hactive : t.active = s.active)
    (hsettled : ∀ r, s.runs[i]? = some r → (f r).settled = r.settled)
    (hended : ∀ r, s.runs[i]? = some r → r.Ended → (f r).Ended)
    (hclear : t.uncertain = false → s.uncertain = false ∧
      ∀ r, s.runs[i]? = some r → r.Clear → (f r).Clear) : t.Books where
  active := by
    rw [hactive, hs.active, hruns]
    cases hr : s.runs[i]? with
    | none => rw [modify_eq_self (getElem?_eq_none_iff.mp hr)]
    | some r =>
      have := countP_modify (!·.settled) f hr
      rw [hsettled r hr] at this
      omega
  ended r hr := by
    rw [hruns] at hr
    rcases mem_modify hr with hr | ⟨q, hq, rfl⟩
    · exact hs.ended r hr
    · exact hended q hq (hs.ended q (mem_of_getElem? hq))
  clear huncertain r hr := by
    rcases hclear huncertain with ⟨hcertain, hf⟩
    rw [hruns] at hr
    rcases mem_modify hr with hr | ⟨q, hq, rfl⟩
    · exact hs.clear hcertain r hr
    · exact hf q hq (hs.clear hcertain q (mem_of_getElem? hq))

/-- Something is done to a run at a stage before it settles. -/
theorem Books.atStage (hs : s.Books) {i : Nat} {r : Record} (hr : s.runs[i]? = some r)
    (f : Record → Record) (hruns : t.runs = s.runs.modify i f) (hactive : t.active = s.active)
    (hbefore : r.stage ≠ .settled) (hafter : (f r).stage ≠ .settled)
    (hended : r.Ended → (f r).Ended)
    (hclear : t.uncertain = false → s.uncertain = false ∧ (r.Clear → (f r).Clear)) : t.Books := by
  refine hs.update i f hruns hactive ?_ ?_ fun h => ⟨(hclear h).1, ?_⟩ <;> intro q hq <;>
    cases hr.symm.trans hq
  · rw [Record.settled_eq_false rfl hbefore, Record.settled_eq_false rfl hafter]
  · exact hended
  · exact (hclear h).2

theorem Books.prune (hs : s.Books) (now : Nat) : (s.prune now).Books := by
  rcases prune_eq s now with ⟨records, callers, h⟩
  rw [h]
  exact hs.congr rfl rfl rfl

theorem Books.cancel (hs : s.Books) (i : Nat) : (s.cancel i).Books :=
  hs.update i _ rfl rfl (fun _ _ => Record.settled_cancel) (fun _ _ hr => hr.cancel)
    fun h => ⟨h, fun _ _ hr => hr.cancel⟩

/-- A run of which the cleanup is unconfirmed makes the service uncertain. -/
theorem Books.unconfirmed (hs : s.Books) (code : FailureCode) (i : Nat) :
    (s.unconfirmed code i).Books := by
  refine hs.update i _ rfl rfl (fun _ _ => Record.settled_unconfirmed code)
    (fun _ _ hr => hr.unconfirmed code) fun h => ?_
  rcases Bool.or_eq_false_iff.mp h with ⟨hcertain, hholds⟩
  refine ⟨hcertain, fun r hr hclear => hclear.unconfirmed code ?_⟩
  rw [holds, hr] at hholds
  exact Bool.not_eq_false' .. ▸ hholds

theorem Books.foldl {f : State → Nat → State} (hf : ∀ s i, s.Books → (f s i).Books)
    (hs : s.Books) (places : List Nat) : (places.foldl f s).Books := by
  induction places generalizing s with
  | nil => exact hs
  | cons i places ih => exact ih (hf s i hs)

theorem Books.served (hs : s.Books) {caller : Nat} {c : Caller} {chance : Chance}
    (h : Served s caller c chance t) : t.Books := by
  cases h with
  | kept => exact hs.congr rfl rfl rfl
  | cancelled i => exact hs.cancel i
  | accepted consumed startKey binding =>
    constructor
    · change s.active + 1 = (s.runs ++ [_]).countP _
      rw [countP_append, hs.active]
      rfl
    · intro r hr
      rcases mem_append.mp hr with hr | hr
      · exact hs.ended r hr
      · rw [mem_singleton.mp hr]
        exact ⟨(fun h => by rcases h with h | h <;> cases h), (fun h => by cases h)⟩
    · intro huncertain r hr
      rcases mem_append.mp hr with hr | hr
      · exact hs.clear huncertain r hr
      · rw [mem_singleton.mp hr]
        exact ⟨(fun h => by cases h), (fun _ h => by cases h)⟩

theorem Books.conclude (hs : s.Books) {i : Nat} {r : Record} (hr : s.runs[i]? = some r)
    (hstage : r.stage = .evaluating) (outcome : Json) : (s.conclude i r outcome).Books := by
  have hbefore : r.stage ≠ .settled := by rw [hstage]; decide
  rw [State.conclude]
  split
  · next hterminal =>
    exact hs.atStage hr _ rfl rfl hbefore (fun h => by cases h)
      (fun h => ⟨fun _ => hterminal, h.result⟩) fun h => ⟨h, id⟩
  · split
    · next result _ =>
      refine hs.atStage hr _ rfl rfl hbefore (fun h => by cases h)
        (fun _ => ⟨fun _ => rfl, fun _ => rfl⟩) fun h => ?_
      rcases Bool.or_eq_false_iff.mp h with ⟨hcertain, hconfirmed⟩
      refine ⟨hcertain, fun _ => ⟨(fun h => by cases h), ?_⟩⟩
      rintro _ ⟨⟩
      rw [Record.cleanup_disclose]
      exact not_not.mp (of_decide_eq_false hconfirmed)
    · exact hs.atStage hr _ rfl rfl hbefore (fun h => by cases h)
        (fun h => h.at (by decide)) fun h => ⟨h, id⟩

/-- A run that settles is no longer counted. -/
theorem Books.settle (hs : s.Books) {i : Nat} {r : Record} (hr : s.runs[i]? = some r)
    (hstage : r.stage = .concluded) (now : Nat) : (s.settle i r now).Books := by
  rw [State.settle]
  refine Books.prune ⟨?_, ?_, ?_⟩ now
  · have := countP_modify (!·.settled) (·.settle now) hr
    rw [Record.settled_eq_false hstage (by decide)] at this
    change s.active - 1 = (s.runs.modify i (·.settle now)).countP _
    rw [hs.active]
    simp only [Record.settled, Record.settle, decide_true, Bool.not_true, Bool.not_false,
      Bool.toNat_true, Bool.toNat_false] at this ⊢
    omega
  · intro q hq
    rcases mem_modify hq with hq | ⟨q', hq', rfl⟩
    · exact hs.ended q hq
    · cases hr.symm.trans hq'
      have hended := hs.ended r (mem_of_getElem? hr)
      exact ⟨fun _ => hended.terminal (.inl hstage), hended.result⟩
  · intro huncertain q hq
    rcases mem_modify hq with hq | ⟨r, hr, rfl⟩
    · exact hs.clear huncertain q hq
    · exact hs.clear huncertain r (mem_of_getElem? hr)

/-- Every step keeps the books. -/
theorem Books.step (hs : s.Books) {l : Label} (h : step s l = some t) : t.Books := by
  cases l with
  | request caller body chance =>
    rw [Service.step] at h
    split at h
    · split at h <;> cases h
      · rw [dispatch]
        split
        · exact (hs.prune chance.now).served (served_serve _ _ _ _ _)
        · exact hs
      · exact hs
    · cases h
  | launch i =>
    rcases atStage_eq_some h with ⟨r, hr, hstage, rfl⟩
    exact hs.atStage hr _ rfl rfl (by rw [hstage]; decide) (fun h => by cases h)
      Record.Ended.launch fun h => ⟨h, Record.Clear.launch⟩
  | call i =>
    rcases atStage_eq_some h with ⟨r, hr, hstage, rfl⟩
    exact hs.atStage hr _ rfl rfl (by rw [hstage]; decide) (fun h => by cases h)
      (fun h => h.at (by decide)) fun h => ⟨h, id⟩
  | returned i outcome =>
    rcases atStage_eq_some h with ⟨r, hr, hstage, rfl⟩
    exact hs.conclude hr hstage outcome
  | threw i =>
    rcases atStage_eq_some h with ⟨r, hr, hstage, rfl⟩
    exact hs.atStage hr _ rfl rfl (by rw [hstage]; decide) (fun h => by cases h)
      (fun h => h.at (by decide)) fun h => ⟨h, id⟩
  | caught i =>
    rcases atStage_eq_some h with ⟨r, hr, hstage, rfl⟩
    have hq : (s.unconfirmed .workflowFailed i).runs[i]? =
        some (r.unconfirmed s.limits .workflowFailed) := by
      rw [State.unconfirmed, State.update, getElem?_modify, hr]
      simp
    refine (hs.unconfirmed .workflowFailed i).atStage hq _ rfl rfl ?_ (fun h => by cases h)
      (fun h => ⟨fun _ => Record.terminal_unconfirmed _, h.result⟩) fun h => ⟨h, id⟩
    rw [Record.unconfirmed]
    split
    · rw [hstage]; decide
    · change r.stage ≠ _
      rw [hstage]; decide
  | settle i now =>
    rcases atStage_eq_some h with ⟨r, hr, hstage, rfl⟩
    exact hs.settle hr hstage now
  | timer i =>
    rw [Service.step] at h
    split at h <;> cases h
    have hbooks : (s.update i ({ · with timer := false })).Books :=
      hs.update i _ rfl rfl (fun _ _ => rfl) (fun _ _ h => ⟨h.terminal, h.result⟩)
        fun h => ⟨h, fun _ _ => id⟩
    exact hbooks.cancel i
  | grace i =>
    rw [Service.step] at h
    split at h <;> cases h
    have hbooks : (s.update i ({ · with grace := false })).Books :=
      hs.update i _ rfl rfl (fun _ _ => rfl) (fun _ _ h => ⟨h.terminal, h.result⟩)
        fun h => ⟨h, fun _ _ => id⟩
    exact hbooks.unconfirmed .workflowUnsettled i
  | retention now =>
    rw [Service.step] at h
    split at h <;> cases h
    exact hs.prune now
  | close =>
    cases h
    split
    · exact hs
    · exact (hs.foldl (fun _ i hs => hs.cancel i) _).congr rfl rfl rfl
  | closeExpired =>
    rw [Service.step] at h
    split at h <;> cases h
    exact (hs.foldl (fun _ i hs => hs.unconfirmed .workflowUnsettled i) _).congr rfl rfl rfl

end State

/-! ### What is reported -/

/-- Whenever `close` reports that cleanup is confirmed, no run is active, and
    all runs that were ever accepted have settled with a result of which the
    cleanup is confirmed. -/
theorem closeResult_truthful (L : Limits) (epoch : Handle) (callers : List (List Binding))
    (s : State) (h : Labelled.Reaches step (fun _ _ => True) (opened L epoch callers) s)
    (hconfirmed : s.closeResult.1 = .confirmed) :
    s.closeResult.2 = 0 ∧ s.active = 0 ∧ ∀ r ∈ s.runs, r.settled = true ∧
      ∃ result, r.result = some result ∧ result.cleanup = .confirmed := by
  have hbooks : s.Books :=
    h.invariant ⟨rfl, fun _ hr => absurd hr List.not_mem_nil,
        fun _ _ hr => absurd hr List.not_mem_nil⟩
      fun _ _ _ hs _ hstep => hs.step hstep
  rw [State.closeResult] at hconfirmed
  split at hconfirmed
  · next hclear =>
    refine ⟨hclear.1, hclear.1, fun r hr => ?_⟩
    rcases hbooks.clear hclear.2 r hr with ⟨hphase, hresult⟩
    have hsettled : r.settled = true := by
      have hcount := hclear.1 ▸ hbooks.active
      simpa using List.countP_eq_zero.mp hcount.symm r hr
    have hended := hbooks.ended r hr
    -- A settled run is terminal, and the phase is not the other one.
    have hfinished : r.phase = .finished := by
      have hterminal := hended.terminal (.inr (of_decide_eq_true hsettled))
      rw [Record.terminal, Phase.terminal, Bool.or_eq_true] at hterminal
      rcases hterminal with h | h
      · exact of_decide_eq_true h
      · exact absurd (of_decide_eq_true h) hphase
    rcases Option.isSome_iff_exists.mp (hended.result hfinished) with ⟨result, hsome⟩
    exact ⟨hsettled, result, hsome, hresult result hsome⟩
  · cases hconfirmed

/-- A start of the only evaluation that a caller is bound to. -/
def oneStart : Json :=
  .obj [("v", .int 1), ("requestId", .str "00000000000000000000000000000000"), ("op", .str "start"),
    ("args", .obj [("serviceEpoch", .str "00000000000000000000000000000000"),
      ("startKey", .str "00000000000000000000000000000000"), ("suiteRef", .str "s"),
      ("implementationRef", .str "i")])]

def confirmedOutcome : Json :=
  .obj [("schema", .str "mirrorgate.evaluation/v1"),
    ("runRef", .str "00000000-0000-4000-8000-000000000000"), ("status", .str "passed"),
    ("cleanup", .str "confirmed")]

theorem closeResult_truthful_oneStart :
    ∃ s : State, s.runs.length = 1 ∧ s.closeResult.1 = .confirmed ∧
      ∀ r ∈ s.runs, r.settled = true := by
  let zero : Handle := ⟨"00000000000000000000000000000000", by decide⟩
  have hrun : (Labelled.run step (fun _ _ => True)
      (opened LIMITS zero [[⟨⟨"s", by decide⟩, ⟨"i", by decide⟩, false, none⟩]])
      [.request 0 oneStart ⟨0, zero, .granted⟩, .launch 0, .call 0, .returned 0 confirmedOutcome,
        .settle 0 5, .close]).map (fun s => (s.runs.length, s.closeResult.1)) =
      some (1, .confirmed) := by
    decide +kernel
  rcases Option.map_eq_some_iff.mp hrun with ⟨s, hs, heq⟩
  rcases Prod.mk.inj heq with ⟨hlength, hconfirmed⟩
  have htruthful := closeResult_truthful _ _ _ s (Labelled.reaches_of_run hs) hconfirmed
  exact ⟨s, hlength, hconfirmed, fun r hr => (htruthful.2.2 r hr).1⟩

end MirrorGate.Service
