import MirrorGate.Worker.Runtimes

/-!
# Where the Runtimes Agree

A port may be served by either runtime, and a client that waits for each
answer should not be able to tell which one it is talking to. The two are run
side by side on the same frames with the same adapter, and compared by what
they answer to each frame and by whether they go on taking requests.

They part in five places. A frame may pass the checks of one runtime only. A
hello may name the runtime of one and not of the other. An invocation of an
action that the manifest does not have is refused before the initialization as
a bad value by one and as out of order by the other. A disposal before the
hello ends one and poisons the other. And an observation that is too large to
be sent has two codes. `Diverges` collects them, and `agree_iff` says that there
are no others: the runtimes agree on a sequence exactly when no frame of it is
such a place.

## Main definitions

* `NodeWorker.serve`, `RustWorker.serve`: A frame is answered before the next.
* `Reaction`, `reactions`: What a runtime shows of itself.
* `Diverges`: The places where the runtimes part.
* `Alike`: The simulation relation.

## Theorems

* `alike_serve`: One frame, outside those places.
* `reaction_ne_of_diverges`: One frame, at such a place.
* `agree_iff`: Sequences of frames.
-/

namespace MirrorGate

open NodeWorker

/-- What a runtime shows of itself for one frame: its answers, and whether it
    takes another request. -/
structure Reaction where
  responses : List PortResponse
  accepting : Bool

/-- The reactions to a sequence of frames, by what one frame does. -/
def reactions {W F : Type} (serve : W → F → W × Reaction) : W → List F → List Reaction
  | _, [] => []
  | worker, frame :: frames =>
    (serve worker frame).2 :: reactions serve (serve worker frame).1 frames

variable {σ : Type}

/-- A frame is received and answered before the next. A frame is `none` when
    the decoder rejects it. -/
def NodeWorker.serve (manifest : Manifest) (adapter : Adapter σ) (worker : NodeWorker σ)
    (frame : Option Json) : NodeWorker σ × Reaction :=
  let received := worker.receive (frame.bind nodeValidateRequest)
  let settled := received.1.settle manifest adapter
  (settled.1, ⟨received.2 ++ settled.2, !settled.1.terminating⟩)

def RustWorker.serve (manifest : Manifest) (runtime : String) (adapter : Adapter σ)
    (worker : RustWorker σ) (frame : Option Json) : RustWorker σ × Reaction :=
  let received := worker.receive manifest runtime (frame.bind rustValidateRequest)
  let completed := received.1.complete manifest adapter
  (completed.1, ⟨received.2 ++ completed.2, !completed.1.stopped⟩)

/-! ### The places where the runtimes part -/

/-- The runtimes treat the operation differently, the Node worker being in
    this state when nothing is pending. -/
def PortOp.Parts (manifest : Manifest) (runtime : String) (adapter : Adapter σ)
    (worker : NodeWorker σ) (id : RequestId) : PortOp → Prop
  | .hello digest requested =>
    worker.state = .awaitHello ∧ digest = some manifest.interfaceDigest ∧
      ¬ (requested = nodeRuntime ↔ requested = runtime)
  | .invoke action _ => worker.state = .needInitializer ∧ manifest.operation action = none
  | .dispose => worker.state = .awaitHello
  | .observe =>
    worker.state = .needObserve ∧ ∃ a value, worker.adapter = some a ∧
      (adapter.observe a).1 = some value ∧ fieldsConform manifest.observations value = true ∧
      fitsFrame (successJson id value) = false
  | _ => False

/-- The frame is one that the runtimes answer differently, the Node worker
    being in this state. -/
def Diverges (manifest : Manifest) (runtime : String) (adapter : Adapter σ)
    (worker : NodeWorker σ) (frame : Option Json) : Prop :=
  worker.terminating = false ∧ ∃ request, frame.bind nodeValidateRequest = some request ∧
    worker.lastId < request.id.val ∧
    (request.op.portable = false ∨ request.op.Parts manifest runtime adapter worker request.id)

/-! ### The simulation -/

/-- The state of the Node runtime that a state of the Rust runtime is. -/
def RustState.node : RustState → NodeState
  | .hello => .awaitHello
  | .create => .awaitCreate
  | .initialization => .needInitializer
  | .observe => .needObserve
  | .ready => .readyAction
  | .poisoned => .poisoned

/-- The two workers are in the same place with nothing pending, or both have
    ended. The factory has not been called before the creation. -/
inductive Alike : NodeWorker σ → RustWorker σ → Prop
  | serving (state : RustState) (lastId : Nat) (a : Option σ) (abandoned constructed : Bool)
      (hfresh : state = .hello ∨ state = .create → constructed = false) :
      Alike ⟨state.node, lastId, none, abandoned, a, false⟩
        ⟨state, lastId, none, constructed, a, false⟩
  | ended (node : NodeWorker σ) (rust : RustWorker σ) (hnode : node.terminating = true)
      (hrust : rust.stopped = true) : Alike node rust

theorem alike_start : Alike ({} : NodeWorker σ) {} := .serving .hello 0 none false false fun _ => rfl

/-- What one frame does to two workers in the same place: where the runtimes
    part they show it, and elsewhere they are in the same place again. -/
def Settles (parts : Prop) (node : NodeWorker σ × Reaction) (rust : RustWorker σ × Reaction) :
    Prop :=
  (parts → node.2 ≠ rust.2) ∧ (¬ parts → node.2 = rust.2 ∧ Alike node.1 rust.1)

theorem Settles.same {parts : Prop} {node : NodeWorker σ} {rust : RustWorker σ}
    {reaction : Reaction} (hparts : ¬ parts) (h : Alike node rust) :
    Settles parts (node, reaction) (rust, reaction) :=
  ⟨fun hpart => absurd hpart hparts, fun _ => ⟨rfl, h⟩⟩

theorem Settles.parted {parts : Prop} {node : NodeWorker σ} {rust : RustWorker σ}
    {reaction reaction' : Reaction} (hparts : parts) (h : reaction ≠ reaction') :
    Settles parts (node, reaction) (rust, reaction') :=
  ⟨fun _ => h, fun hnot => absurd hparts hnot⟩

/-- An operation is answered by the Node runtime. -/
def NodeWorker.answered (manifest : Manifest) (adapter : Adapter σ) (worker : NodeWorker σ)
    (request : PortRequest) : NodeWorker σ × Reaction :=
  let settled :=
    { worker with lastId := request.id.val, pending := some request }.settle manifest adapter
  (settled.1, ⟨settled.2, !settled.1.terminating⟩)

/-- An operation is answered by the Rust runtime. -/
def RustWorker.answered (manifest : Manifest) (runtime : String) (adapter : Adapter σ)
    (worker : RustWorker σ) (request : PortRequest) : RustWorker σ × Reaction :=
  let received := worker.receive manifest runtime (some request)
  let completed := received.1.complete manifest adapter
  (completed.1, ⟨received.2 ++ completed.2, !completed.1.stopped⟩)

theorem Manifest.isInitializer_of_operation {manifest : Manifest} {action : String}
    (h : manifest.operation action = none) : manifest.isInitializer action = false := by
  simp only [Manifest.operation, List.find?_eq_none, List.mem_append, decide_eq_true_eq] at h
  simp only [Manifest.isInitializer, List.any_eq_false, decide_eq_true_eq]
  exact fun operation hmem => h operation (.inl hmem)

/-! ### One operation

The cases are the operations and, within each, the states. In most states the
operation is out of order and both runtimes say so. -/

section

attribute [local simp] NodeWorker.answered NodeWorker.settle NodeWorker.run NodeWorker.execute
  RustWorker.answered RustWorker.receive RustWorker.plan RustWorker.complete RustWorker.carryOut
  RustState.node PortOp.isDispose PortOp.Parts

variable (manifest : Manifest) (runtime : String) (adapter : Adapter σ) (state : RustState)
  (lastId : Nat) (a : Option σ) (abandoned constructed : Bool) (id : RequestId)

theorem alike_poisoned : Alike (⟨.poisoned, lastId, none, abandoned, a, false⟩ : NodeWorker σ)
    ⟨.poisoned, lastId, none, constructed, a, false⟩ :=
  .serving .poisoned lastId a abandoned constructed nofun

/-- Two workers in the same place answer a request. -/
def Answers (op : PortOp) : Prop :=
  Settles (op.Parts manifest runtime adapter ⟨state.node, lastId, none, abandoned, a, false⟩ id)
    (NodeWorker.answered manifest adapter ⟨state.node, lastId, none, abandoned, a, false⟩ ⟨id, op⟩)
    (RustWorker.answered manifest runtime adapter ⟨state, lastId, none, constructed, a, false⟩
      ⟨id, op⟩)

variable (hid : ¬ id.val ≤ lastId)

include hid

theorem answers_cancel (target : Nat) : Answers manifest runtime adapter state lastId a abandoned
    constructed id (.cancel target) := by
  unfold Answers
  cases state <;>
    simp [hid] <;>
    exact .same not_false (alike_poisoned ..)

theorem answers_hello (digest : Option String) (requested : String)
    (hfresh : state = .hello ∨ state = .create → constructed = false) :
    Answers manifest runtime adapter state lastId a abandoned constructed id
      (.hello digest requested) := by
  unfold Answers
  cases state with
  | hello =>
    by_cases hdigest : digest = some manifest.interfaceDigest
    · by_cases hnode : requested = nodeRuntime
      · subst hnode
        have hfits : fitsFrame (successJson id
            (identityJson manifest.interfaceDigest nodeRuntime)) = true :=
          fitsFrame_identity id manifest (by decide)
        by_cases hrust : nodeRuntime = runtime
        · subst hrust
          simp [hid, hdigest, hfits]
          exact .same not_false (.serving .create _ _ _ _ fun _ => hfresh (.inl rfl))
        · simp [hid, hdigest, hfits, hrust]
          exact .parted trivial (by simp)
      · by_cases hrust : requested = runtime
        · subst hrust
          simp [hid, hdigest, hnode]
          exact .parted trivial (by simp)
        · simp [hid, hdigest, hnode, hrust]
          exact .same not_false (alike_poisoned ..)
    · simp [hid, hdigest]
      exact .same not_false (alike_poisoned ..)
  | _ =>
    simp [hid]
    exact .same not_false (alike_poisoned ..)

theorem answers_create (hfresh : state = .hello ∨ state = .create → constructed = false) :
    Answers manifest runtime adapter state lastId a abandoned constructed id .create := by
  unfold Answers
  cases state with
  | create =>
    have hnew := hfresh (.inr rfl)
    cases hcreate : adapter.create with
    | none =>
      simp [hid, hnew, hcreate]
      exact .same not_false (alike_poisoned ..)
    | some made =>
      simp [hid, hnew, hcreate, fitsFrame_null]
      exact .same not_false (.serving .initialization _ _ _ _ nofun)
  | _ =>
    simp [hid]
    exact .same not_false (alike_poisoned ..)

theorem answers_observe :
    Answers manifest runtime adapter state lastId a abandoned constructed id .observe := by
  unfold Answers
  cases state with
  | observe =>
    cases a with
    | none =>
      simp [hid]
      exact .same not_false (alike_poisoned ..)
    | some made =>
      rcases hobserve : adapter.observe made with ⟨_ | value, made'⟩
      · simp [hid, hobserve]
        exact .same not_false (alike_poisoned ..)
      · cases hconform : fieldsConform manifest.observations value with
        | false =>
          simp [hid, hobserve, hconform]
          exact .same not_false (alike_poisoned ..)
        | true =>
          cases hfits : fitsFrame (successJson id value) with
          | false =>
            simp [hid, hobserve, hconform, hfits]
            exact .parted trivial (by simp)
          | true =>
            simp [hid, hobserve, hconform, hfits]
            exact .same not_false (.serving .ready _ _ _ _ nofun)
  | _ =>
    simp [hid]
    exact .same not_false (alike_poisoned ..)

theorem answers_dispose :
    Answers manifest runtime adapter state lastId a abandoned constructed id .dispose := by
  unfold Answers
  cases state with
  | hello =>
    simp [hid]
    exact .parted trivial (by simp)
  | _ =>
    cases a with
    | none =>
      simp [hid, disposeAdapter, fitsFrame_null]
      exact .same not_false (.ended _ _ rfl rfl)
    | some made =>
      cases hdispose : adapter.dispose made <;>
        simp [hid, disposeAdapter, fitsFrame_null, hdispose] <;>
        exact .same not_false (.ended _ _ rfl rfl)

/-- An invocation that both runtimes hand to the adapter. -/
theorem answers_invoke_conforming {action : String} {inputs : Json} {operation : Operation}
    (hstate : state = .ready ∨ (state = .initialization ∧ manifest.isInitializer action = true))
    (hoperation : manifest.operation action = some operation)
    (hconform : fieldsConform operation.inputs inputs = true) :
    Answers manifest runtime adapter state lastId a abandoned constructed id
      (.invoke action inputs) := by
  unfold Answers
  cases a with
  | none =>
    rcases hstate with rfl | ⟨rfl, hinit⟩ <;> simp [*] <;>
      exact .same not_false (alike_poisoned ..)
  | some made =>
    rcases hinvoke : adapter.invoke made action inputs with ⟨_ | _, made'⟩
    · rcases hstate with rfl | ⟨rfl, hinit⟩ <;> simp [*] <;>
        exact .same not_false (alike_poisoned ..)
    · rcases hstate with rfl | ⟨rfl, hinit⟩ <;> simp [*, fitsFrame_null] <;>
        exact .same not_false (.serving .observe _ _ _ _ nofun)

theorem answers_invoke (action : String) (inputs : Json) :
    Answers manifest runtime adapter state lastId a abandoned constructed id
      (.invoke action inputs) := by
  cases state with
  | initialization =>
    cases hoperation : manifest.operation action with
    | none =>
      -- Unknown to the one before it is out of order, out of order to the other before
      -- it is unknown.
      have hinit := Manifest.isInitializer_of_operation hoperation
      unfold Answers
      simp [hid, hoperation, hinit]
      exact .parted trivial (by simp)
    | some operation =>
      cases hinit : manifest.isInitializer action with
      | false =>
        unfold Answers
        simp [hid, hoperation, hinit]
        exact .same not_false (alike_poisoned ..)
      | true =>
        cases hconform : fieldsConform operation.inputs inputs with
        | false =>
          unfold Answers
          simp [hid, hoperation, hinit, hconform]
          exact .same not_false (alike_poisoned ..)
        | true =>
          exact answers_invoke_conforming manifest runtime adapter _ lastId a abandoned
            constructed id hid (.inr ⟨rfl, hinit⟩) hoperation hconform
  | ready =>
    cases hoperation : manifest.operation action with
    | none =>
      unfold Answers
      simp [hid, hoperation]
      exact .same not_false (alike_poisoned ..)
    | some operation =>
      cases hconform : fieldsConform operation.inputs inputs with
      | false =>
        unfold Answers
        simp [hid, hoperation, hconform]
        exact .same not_false (alike_poisoned ..)
      | true =>
        exact answers_invoke_conforming manifest runtime adapter _ lastId a abandoned
          constructed id hid (.inl rfl) hoperation hconform
  | _ =>
    unfold Answers
    simp [hid]
    exact .same not_false (alike_poisoned ..)

/-- Two workers in the same place answer every request the same way, but where
    the runtimes part. -/
theorem answers (hfresh : state = .hello ∨ state = .create → constructed = false)
    (op : PortOp) :
    Answers manifest runtime adapter state lastId a abandoned constructed id op := by
  cases op with
  | hello digest requested =>
    exact answers_hello manifest runtime adapter state lastId a abandoned constructed id hid digest
      requested hfresh
  | create =>
    exact answers_create manifest runtime adapter state lastId a abandoned constructed id hid
      hfresh
  | invoke action inputs =>
    exact answers_invoke manifest runtime adapter state lastId a abandoned constructed id hid
      action inputs
  | observe =>
    exact answers_observe manifest runtime adapter state lastId a abandoned constructed id hid
  | dispose =>
    exact answers_dispose manifest runtime adapter state lastId a abandoned constructed id hid
  | cancel target =>
    exact answers_cancel manifest runtime adapter state lastId a abandoned constructed id hid
      target

end

/-! ### One frame -/

/-- A frame that ends both runtimes. -/
theorem settles_ending (manifest : Manifest) (runtime : String) (adapter : Adapter σ)
    {node : NodeWorker σ} {rust : RustWorker σ} {frame : Option Json} {parts : Prop}
    (hparts : ¬ parts)
    (hnode : (node.receive (frame.bind nodeValidateRequest)).2 = [] ∧
      (node.receive (frame.bind nodeValidateRequest)).1.terminating = true)
    (hrust : (rust.receive manifest runtime (frame.bind rustValidateRequest)).2 = [] ∧
      (rust.receive manifest runtime (frame.bind rustValidateRequest)).1.stopped = true) :
    Settles parts (node.serve manifest adapter frame)
      (rust.serve manifest runtime adapter frame) := by
  simp only [serve, settle, RustWorker.serve, RustWorker.complete, hnode,
    hrust, if_true]
  exact .same hparts (.ended _ _ hnode.2 hrust.2)

/-- The Node runtime answers every request. -/
theorem NodeWorker.responses_answered (manifest : Manifest) (adapter : Adapter σ)
    (worker : NodeWorker σ) (hserving : worker.terminating = false) (request : PortRequest) :
    (worker.answered manifest adapter request).2.responses ≠ [] := by
  simp only [answered, settle, hserving, Bool.false_eq_true, if_false]
  split
  · split <;> simp
  · simp

theorem serve_node {manifest : Manifest} {adapter : Adapter σ} {state : NodeState} {lastId : Nat}
    {abandoned : Bool} {a : Option σ} {request : PortRequest} {frame : Option Json}
    (hrequest : frame.bind nodeValidateRequest = some request) (hid : ¬ request.id.val ≤ lastId) :
    NodeWorker.serve manifest adapter ⟨state, lastId, none, abandoned, a, false⟩ frame =
      NodeWorker.answered manifest adapter ⟨state, lastId, none, abandoned, a, false⟩ request := by
  simp [serve, receive, answered, hrequest, hid]

theorem serve_rust {manifest : Manifest} {runtime : String} {adapter : Adapter σ}
    {worker : RustWorker σ} {request : PortRequest} {frame : Option Json}
    (hrequest : frame.bind rustValidateRequest = some request) :
    RustWorker.serve manifest runtime adapter worker frame =
      RustWorker.answered manifest runtime adapter worker request := by
  rw [RustWorker.serve, RustWorker.answered, hrequest]

/-- One frame, for two workers in the same place. -/
theorem alike_serve (manifest : Manifest) (runtime : String) (adapter : Adapter σ)
    {node : NodeWorker σ} {rust : RustWorker σ} (h : Alike node rust) (frame : Option Json) :
    Settles (Diverges manifest runtime adapter node frame) (node.serve manifest adapter frame)
      (rust.serve manifest runtime adapter frame) := by
  cases h with
  | ended _ _ hnode hrust =>
    refine settles_ending manifest runtime adapter ?_ ?_ ?_
    · rintro ⟨hserving, -⟩
      cases hserving.symm.trans hnode
    · simp [receive, hnode]
    · simp [RustWorker.receive, hrust]
  | serving state lastId a abandoned constructed hfresh =>
    have hfilter : frame.bind rustValidateRequest =
        (frame.bind nodeValidateRequest).filter (·.op.portable) := by
      cases frame with
      | none => rfl
      | some json => exact rustValidateRequest_eq json
    cases hrequest : frame.bind nodeValidateRequest with
    | none =>
      rw [hrequest] at hfilter
      refine settles_ending manifest runtime adapter ?_ ?_ ?_
      · rintro ⟨-, request, hsome, -⟩
        cases hrequest.symm.trans hsome
      · simp [receive, fatal, hrequest]
      · simp [RustWorker.receive, hfilter]
    | some request =>
      rw [hrequest, Option.filter_some] at hfilter
      by_cases hid : request.id.val ≤ lastId
      · -- An identifier that does not increase ends both, whatever the rest says.
        refine settles_ending manifest runtime adapter ?_ ?_ ?_
        · rintro ⟨-, request', hsome, hlt, -⟩
          cases hrequest.symm.trans hsome
          exact absurd hlt (Nat.not_lt.mpr hid)
        · simp [receive, fatal, hrequest, hid]
        · rw [hfilter]
          split <;> simp [RustWorker.receive, hid]
      · cases hportable : request.op.portable with
        | false =>
          -- The Rust runtime ends, and the Node runtime answers.
          rw [hportable, if_neg Bool.false_ne_true] at hfilter
          have hdiverges : Diverges manifest runtime adapter
              ⟨state.node, lastId, none, abandoned, a, false⟩ frame :=
            ⟨rfl, request, hrequest, Nat.not_le.mp hid, .inl hportable⟩
          refine ⟨fun _ hsame => ?_, fun hnot => absurd hdiverges hnot⟩
          rw [serve_node hrequest hid] at hsame
          apply responses_answered manifest adapter
            ⟨state.node, lastId, none, abandoned, a, false⟩ rfl request
          rw [hsame]
          simp [RustWorker.serve, RustWorker.receive, RustWorker.complete, hfilter]
        | true =>
          rw [hportable, if_pos rfl] at hfilter
          have hdiverges : Diverges manifest runtime adapter
              ⟨state.node, lastId, none, abandoned, a, false⟩ frame ↔
                request.op.Parts manifest runtime adapter
                  ⟨state.node, lastId, none, abandoned, a, false⟩ request.id := by
            constructor
            · rintro ⟨-, request', hsome, -, hparts⟩
              cases hrequest.symm.trans hsome
              exact hparts.resolve_left (by simp [hportable])
            · exact fun hparts => ⟨rfl, request, hrequest, Nat.not_le.mp hid, .inr hparts⟩
          rw [serve_node hrequest hid, serve_rust hfilter, hdiverges]
          exact answers manifest runtime adapter state lastId a abandoned constructed
            request.id hid hfresh request.op

/-! ### Sequences of frames -/

/-- No frame of the sequence is one that the runtimes answer differently, the
    Node worker being where the frames before have brought it. -/
def NeverDiverges (manifest : Manifest) (runtime : String) (adapter : Adapter σ) :
    NodeWorker σ → List (Option Json) → Prop
  | _, [] => True
  | worker, frame :: frames =>
    ¬ Diverges manifest runtime adapter worker frame ∧
      NeverDiverges manifest runtime adapter (worker.serve manifest adapter frame).1 frames

/-- From the same place the runtimes agree on a sequence exactly when it never
    diverges. -/
theorem reactions_eq_iff (manifest : Manifest) (runtime : String) (adapter : Adapter σ)
    {node : NodeWorker σ} {rust : RustWorker σ} (h : Alike node rust)
    (frames : List (Option Json)) :
    reactions (NodeWorker.serve manifest adapter) node frames =
        reactions (RustWorker.serve manifest runtime adapter) rust frames ↔
      NeverDiverges manifest runtime adapter node frames := by
  induction frames generalizing node rust with
  | nil => exact ⟨fun _ => trivial, fun _ => rfl⟩
  | cons frame frames ih =>
    obtain ⟨hparts, hsame⟩ := alike_serve manifest runtime adapter h frame
    simp only [reactions, NeverDiverges, List.cons.injEq]
    constructor
    · rintro ⟨hreaction, hlater⟩
      have hnot : ¬ Diverges manifest runtime adapter node frame := fun hd => hparts hd hreaction
      exact ⟨hnot, (ih (hsame hnot).2).mp hlater⟩
    · rintro ⟨hnot, hlater⟩
      exact ⟨(hsame hnot).1, (ih (hsame hnot).2).mpr hlater⟩

/-- For every manifest and adapter the runtimes give the same answers to every
    frame of a sequence, and stop at the same one, exactly when no frame of it
    is one of the five places where they part. -/
theorem agree_iff (manifest : Manifest) (runtime : String) (adapter : Adapter σ)
    (frames : List (Option Json)) :
    reactions (NodeWorker.serve manifest adapter) {} frames =
        reactions (RustWorker.serve manifest runtime adapter) {} frames ↔
      NeverDiverges manifest runtime adapter {} frames :=
  reactions_eq_iff manifest runtime adapter alike_start frames

/-! ### A port on which they part -/

/-- The error codes of a reaction, `none` for a success. -/
def Reaction.codes (reaction : Reaction) : List (Option PortCode) :=
  reaction.responses.map fun response =>
    match response.reply with
    | .ok _ => none
    | .failed code => some code

def counterDigest : String := "0000000000000000000000000000000000000000000000000000000000000000"

/-- A counter that is reset, and shows whether it was. -/
def counterPort : Manifest where
  interfaceDigest := counterDigest
  initializers := [⟨"reset", []⟩]
  actions := []
  observations := [("done", .bool)]
  digest := by decide +kernel
  distinct := by decide

def counterAdapter : Adapter Unit where
  create := some ()
  invoke _ _ _ := (true, ())
  observe _ := (some (.obj [("done", .bool true)]), ())
  dispose _ := true

/-- The worker is created, and asked for an action it does not have. -/
def unknownAction : List (Option Json) :=
  [some (.obj [("v", .int 1), ("id", .int 1), ("op", .str "hello"),
      ("interfaceDigest", .str counterDigest), ("runtime", .str "node-v1")]),
    some (.obj [("v", .int 1), ("id", .int 2), ("op", .str "create")]),
    some (.obj [("v", .int 1), ("id", .int 3), ("op", .str "invoke"),
      ("action", .str "missing"), ("inputs", .obj [])])]

/-- The Node runtime refuses the action as a bad value, the Rust runtime as out
    of order. -/
theorem unknownAction_parts :
    reactions (NodeWorker.serve counterPort counterAdapter) {} unknownAction ≠
      reactions (RustWorker.serve counterPort "node-v1" counterAdapter) {} unknownAction := by
  have hnode : (reactions (NodeWorker.serve counterPort counterAdapter) {} unknownAction).map
      Reaction.codes = [[none], [none], [some .value]] := by decide +kernel
  have hrust : (reactions (RustWorker.serve counterPort "node-v1" counterAdapter) {}
      unknownAction).map Reaction.codes = [[none], [none], [some .lifecycle]] := by decide +kernel
  intro hsame
  rw [hsame, hrust] at hnode
  cases hnode

end MirrorGate
