import Mathlib.Data.List.Count
import Stencil.Proofs.Output.Publishing

/-!
# The commit protocol

What must not happen is that half an artifact is published, or that a text is lost because its
successor could not be written. Neither is a matter of a final state alone: an area may be anything,
and only the order of the calls on it tells that it was asked to publish at the right moment.

So the calls are made visible. `OutputArea.recorded` is the same area with a list beside its states,
to which every operation adds what it was asked and how it answered. Publishing in it is publishing
in the area (`recorded_publish`), and the lists that it leaves are those of a small grammar:

* `Writing` — the calls that hand out some bytes, one case for each answer of a stream;
* `Publishing` — the calls of a publication, one case for each place where it can end.

All that is said about the order of calls is read off this grammar (`Publishing.keepsProtocol`).
What an area in memory has to keep is its files: these change by a commit alone
(`MemoryArea.run_or`), and that is the last call. `commit_protocol` puts the two together.
-/

namespace Stencil

/-! ### Calls -/

/-- A call on an output area or on one of its streams, with the answer. -/
inductive AreaCall where
  | opened (name : String) (fault? : Option Fault)
  /-- A stream was given bytes and took some of them from the front. -/
  | accepted (given : List UInt8) (count : Nat)
  | interrupted (given : List UInt8)
  | failed (given : List UInt8) (fault : Fault)
  | flushed (fault? : Option Fault)
  | committed (fault? : Option Fault)
  | discarded
deriving Repr, DecidableEq

namespace AreaCall

/-- What went wrong with a call. To take no bytes is to be full; an interruption is no fault. -/
def fault? : AreaCall → Option Fault
  | opened _ fault? => fault?
  | accepted _ 0 => some { kind := .writeZero }
  | accepted _ (_ + 1) => none
  | interrupted _ => none
  | failed _ fault => some fault
  | flushed fault? => fault?
  | committed fault? => fault?
  | discarded => none

/-- The bytes that a stream took. -/
def bytes : AreaCall → List UInt8
  | accepted given count => given.take count
  | _ => []

/-- Whether a call gives bytes to a stream. -/
def isWrite : AreaCall → Bool
  | accepted _ _ | interrupted _ | failed _ _ => true
  | _ => false

/-- Whether a call is a commit. -/
def isCommit : AreaCall → Bool
  | committed _ => true
  | _ => false

end AreaCall

/-- The bytes that a stream took in some calls, in order. -/
def acceptedBytes (calls : List AreaCall) : List UInt8 :=
  calls.flatMap AreaCall.bytes

/-- The fault of the first call that went wrong. -/
def firstFault? (calls : List AreaCall) : Option Fault :=
  calls.findSome? AreaCall.fault?

/-- How often something was committed. -/
def commits (calls : List AreaCall) : Nat :=
  calls.countP AreaCall.isCommit

section

variable (call : AreaCall) (calls more : List AreaCall)

@[simp] theorem acceptedBytes_nil : acceptedBytes [] = [] := rfl

@[simp] theorem acceptedBytes_cons :
    acceptedBytes (call :: calls) = call.bytes ++ acceptedBytes calls := List.flatMap_cons

@[simp] theorem acceptedBytes_append :
    acceptedBytes (calls ++ more) = acceptedBytes calls ++ acceptedBytes more :=
  List.flatMap_append

@[simp] theorem firstFault?_nil : firstFault? [] = none := rfl

@[simp] theorem firstFault?_cons :
    firstFault? (call :: calls) = call.fault?.or (firstFault? calls) := by
  unfold firstFault?
  rw [List.findSome?_cons]
  cases call.fault? <;> rfl

@[simp] theorem firstFault?_append :
    firstFault? (calls ++ more) = (firstFault? calls).or (firstFault? more) :=
  List.findSome?_append

end

namespace OutputArea

variable {σ τ : Type} (area : OutputArea σ τ)

/-- An area with the calls on it and on its streams. -/
def recorded : OutputArea (σ × List AreaCall) (τ × List AreaCall) where
  openStream name state :=
    match area.openStream name state.1 with
    | .error (fault, next) => .error (fault, (next, state.2 ++ [.opened name (some fault)]))
    | .ok stream => .ok (stream, state.2 ++ [.opened name none])
  write bytes stream :=
    match area.write bytes stream.1 with
    | .accepted count next => .accepted count (next, stream.2 ++ [.accepted bytes count])
    | .interrupted next => .interrupted (next, stream.2 ++ [.interrupted bytes])
    | .failed fault next => .failed fault (next, stream.2 ++ [.failed bytes fault])
  flush stream :=
    ((area.flush stream.1).1,
      ((area.flush stream.1).2, stream.2 ++ [.flushed (area.flush stream.1).1]))
  commit stream :=
    ((area.commit stream.1).1,
      ((area.commit stream.1).2, stream.2 ++ [.committed (area.commit stream.1).1]))
  discard stream := (area.discard stream.1, stream.2 ++ [.discarded])
  patience stream := area.patience stream.1
  patience_lt bytes stream stream' h := by
    split at h
    · contradiction
    · next next hreply =>
      injection h with hstream
      rw [← hstream]
      exact area.patience_lt bytes stream.1 next hreply
    · contradiction

variable {area}

/-! ### Writing -/

/-- **The calls that hand out some bytes**, and the fault that they end with. After every answer the
rest of the bytes is handed out, up to the first fault. -/
inductive Writing : List UInt8 → List AreaCall → Option Fault → Prop
  | done : Writing [] [] none
  | full {bytes : List UInt8} : Writing bytes [.accepted bytes 0] (some { kind := .writeZero })
  | partly {bytes : List UInt8} {count : Nat} {calls : List AreaCall} {fault? : Option Fault}
      (hrest : Writing (bytes.drop (count + 1)) calls fault?) :
      Writing bytes (.accepted bytes (count + 1) :: calls) fault?
  | again {bytes : List UInt8} {calls : List AreaCall} {fault? : Option Fault}
      (hagain : Writing bytes calls fault?) : Writing bytes (.interrupted bytes :: calls) fault?
  | failed {bytes : List UInt8} {fault : Fault} : Writing bytes [.failed bytes fault] (some fault)

namespace Writing

variable {bytes : List UInt8} {calls : List AreaCall} {fault? : Option Fault}

/-- Nothing else is done in between. -/
theorem isWrite (h : Writing bytes calls fault?) : ∀ call ∈ calls, call.isWrite = true := by
  induction h with
  | done => exact fun call hcall => absurd hcall List.not_mem_nil
  | full => exact List.forall_mem_singleton.2 rfl
  | partly _ ih => exact List.forall_mem_cons.2 ⟨rfl, ih⟩
  | again _ ih => exact List.forall_mem_cons.2 ⟨rfl, ih⟩
  | failed => exact List.forall_mem_singleton.2 rfl

theorem isCommit_eq_false (h : Writing bytes calls fault?) :
    ∀ call ∈ calls, call.isCommit = false := by
  intro call hcall
  have hwrite := h.isWrite call hcall
  cases call <;> first | rfl | contradiction

theorem opened_not_mem (h : Writing bytes calls fault?) (name : String)
    (refusal? : Option Fault) : .opened name refusal? ∉ calls :=
  fun hmem => Bool.false_ne_true (h.isWrite _ hmem)

/-- Writing ends with its first fault. -/
theorem firstFault? (h : Writing bytes calls fault?) : firstFault? calls = fault? := by
  induction h with
  | done => rfl
  | full => rfl
  | partly _ ih => exact ih
  | again _ ih => exact ih
  | failed => rfl

/-- **Without a fault all bytes are taken**, however they were split up. -/
theorem acceptedBytes (h : Writing bytes calls fault?) (hnone : fault? = none) :
    acceptedBytes calls = bytes := by
  -- a call that is accepted takes bytes off the front, and one that is interrupted takes none
  induction h with
  | done => rfl
  | full => contradiction
  | @partly bytes count calls _ _ ih =>
    calc Stencil.acceptedBytes (.accepted bytes (count + 1) :: calls)
      _ = bytes.take (count + 1) ++ Stencil.acceptedBytes calls := List.flatMap_cons
      _ = bytes.take (count + 1) ++ bytes.drop (count + 1) := by rw [ih hnone]
      _ = bytes := List.take_append_drop _ _
  | again _ ih => exact ih hnone
  | failed => contradiction

end Writing

theorem recorded_write (bytes : List UInt8) (stream : τ) (before : List AreaCall) :
    area.recorded.write bytes (stream, before) =
      match area.write bytes stream with
      | .accepted count next => .accepted count (next, before ++ [.accepted bytes count])
      | .interrupted next => .interrupted (next, before ++ [.interrupted bytes])
      | .failed fault next => .failed fault (next, before ++ [.failed bytes fault]) := rfl

/-- **Writing to a recorded stream** is writing to the stream, and records how the bytes were handed
out. -/
theorem recorded_writeAll (bytes : List UInt8) (stream : τ) (before : List AreaCall) :
    ∃ calls, Writing bytes calls (area.writeAll bytes stream).1 ∧
      area.recorded.writeAll bytes (stream, before) =
        ((area.writeAll bytes stream).1, (area.writeAll bytes stream).2, before ++ calls) := by
  -- the induction is that of the loop: fewer bytes, or the same ones for a less patient stream
  induction bytes, stream using OutputArea.writeAll.induct area generalizing before with
  | case1 stream =>
    refine ⟨[], ?_, ?_⟩
    · rw [writeAll]
      exact .done
    · rw [writeAll, writeAll, List.append_nil]
  | case2 stream first rest next hreply =>
    rw [writeAll_cons, writeAll_cons, recorded_write, hreply]
    exact ⟨_, .full, rfl⟩
  | case3 stream first rest count next hreply ih =>
    rw [writeAll_cons, writeAll_cons, recorded_write, hreply]
    obtain ⟨calls, hcalls, hrun⟩ := ih (before ++ [.accepted (first :: rest) (count + 1)])
    rw [List.append_assoc] at hrun
    exact ⟨_, .partly hcalls, hrun⟩
  | case4 stream first rest next hreply hless ih =>
    rw [writeAll_cons, writeAll_cons, recorded_write, hreply]
    obtain ⟨calls, hcalls, hrun⟩ := ih (before ++ [.interrupted (first :: rest)])
    rw [List.append_assoc] at hrun
    exact ⟨_, .again hcalls, hrun⟩
  | case5 stream first rest fault next hreply =>
    rw [writeAll_cons, writeAll_cons, recorded_write, hreply]
    exact ⟨_, .failed, rfl⟩

/-! ### Publishing -/

/-- **The calls of a publication**, and the fault that it ends with. -/
inductive Publishing (name : String) (bytes : List UInt8) :
    List AreaCall → Option Fault → Prop
  | refused {fault : Fault} : Publishing name bytes [.opened name (some fault)] (some fault)
  | broken {calls : List AreaCall} {fault : Fault} (hwriting : Writing bytes calls (some fault)) :
      Publishing name bytes (.opened name none :: (calls ++ [.discarded])) (some fault)
  | unflushed {calls : List AreaCall} {fault : Fault} (hwriting : Writing bytes calls none) :
      Publishing name bytes
        (.opened name none :: (calls ++ [.flushed (some fault), .discarded])) (some fault)
  | committed {calls : List AreaCall} {fault? : Option Fault}
      (hwriting : Writing bytes calls none) :
      Publishing name bytes
        (.opened name none :: (calls ++ [.flushed none, .committed fault?])) fault?

theorem recorded_openStream (name : String) (state : σ) (before : List AreaCall) :
    area.recorded.openStream name (state, before) =
      match area.openStream name state with
      | .error (fault, next) => .error (fault, (next, before ++ [.opened name (some fault)]))
      | .ok stream => .ok (stream, before ++ [.opened name none]) := rfl

theorem recorded_flush (stream : τ) (before : List AreaCall) :
    area.recorded.flush (stream, before) = ((area.flush stream).1,
      (area.flush stream).2, before ++ [.flushed (area.flush stream).1]) := rfl

theorem recorded_commit (stream : τ) (before : List AreaCall) :
    area.recorded.commit (stream, before) = ((area.commit stream).1,
      (area.commit stream).2, before ++ [.committed (area.commit stream).1]) := rfl

theorem recorded_discard (stream : τ) (before : List AreaCall) :
    area.recorded.discard (stream, before) = (area.discard stream, before ++ [.discarded]) := rfl

/-- **Publishing in a recorded area** is publishing in the area, and records a publication. -/
theorem recorded_publish (artifact : Artifact) (state : σ) (before : List AreaCall) :
    ∃ calls fault?, Publishing artifact.name (Text.bytesOf artifact.content) calls fault? ∧
      (area.publish artifact state).1 = resultOf artifact.name fault? ∧
      area.recorded.publish artifact (state, before) =
        ((area.publish artifact state).1, (area.publish artifact state).2, before ++ calls) := by
  have hopened := @recorded_openStream _ _ area artifact.name state before
  -- one case for each place where a publication can end, in the order of the calls
  cases hopen : area.openStream artifact.name state with
  | error refusal =>
    rw [hopen] at hopened
    rw [publish_of_refused hopened, publish_of_refused hopen]
    exact ⟨_, _, .refused, rfl, rfl⟩
  | ok stream =>
    rw [hopen] at hopened
    obtain ⟨calls, hwriting, hwrote⟩ := @recorded_writeAll _ _ area
      (Text.bytesOf artifact.content) stream (before ++ [.opened artifact.name none])
    rw [List.append_assoc] at hwrote
    rcases hwrite : area.writeAll (Text.bytesOf artifact.content) stream with
      ⟨_ | fault, written⟩
    · -- each call is answered by the area as without the record, which grows by that call
      rw [hwrite] at hwriting hwrote
      have hflushed := @recorded_flush _ _ area written
        (before ++ ([.opened artifact.name none] ++ calls))
      rcases hflush : area.flush written with ⟨_ | fault, flushed⟩
      · rcases hcommit : area.commit flushed with ⟨fault?, final⟩
        rw [hflush] at hflushed
        have hcommitted := @recorded_commit _ _ area flushed
          (before ++ ([.opened artifact.name none] ++ calls) ++ [.flushed none])
        rw [hcommit] at hcommitted
        rw [publish_of_flushed hopened hwrote hflushed hcommitted,
          publish_of_flushed hopen hwrite hflush hcommit]
        exact ⟨_, _, .committed hwriting, rfl, by simp⟩
      · rw [hflush] at hflushed
        rw [publish_of_unflushed hopened hwrote hflushed, recorded_discard,
          publish_of_unflushed hopen hwrite hflush]
        exact ⟨_, _, .unflushed hwriting, rfl, by simp⟩
    · rw [hwrite] at hwriting hwrote
      rw [publish_of_broken hopened hwrote, recorded_discard, publish_of_broken hopen hwrite]
      exact ⟨_, _, .broken hwriting, rfl, by simp⟩

/-! ### What the calls of a publication keep -/

/-- **The commit protocol**: what holds of the calls of a publication and of its result. -/
structure KeepsProtocol (artifact : Artifact) (calls : List AreaCall)
    (result : Except WriteError Unit) : Prop where
  /-- A stream is opened under the name of the artifact, and it is the only one. -/
  opens : ∃ fault? rest, calls = .opened artifact.name fault? :: rest ∧
    ∀ name fault?, .opened name fault? ∉ rest
  commits_le_one : commits calls ≤ 1
  /-- When something is committed, the stream has taken all bytes of the artifact in order, and has
  just been flushed. -/
  commits_whole : ∀ before fault? after, calls = before ++ .committed fault? :: after →
    acceptedBytes before = Text.bytesOf artifact.content ∧
      before.getLast? = some (.flushed none)
  /-- The artifact is published if nothing went wrong, up to the commit. -/
  ok_iff : result = .ok () ↔ firstFault? calls = none ∧ .opened artifact.name none ∈ calls ∧
    .flushed none ∈ calls ∧ .committed none ∈ calls
  /-- It is not published if something went wrong, and the error tells what that was. -/
  error_iff : ∀ e, result = .error e ↔ e.name = artifact.name ∧ firstFault? calls = some e.fault

/-- A list with just one item of a kind, at its end, can be split at such an item in one way. -/
theorem eq_of_append_cons_eq {α : Type} {p : α → Bool} {front before after : List α} {a b : α}
    (hfront : ∀ x ∈ front, p x = false) (ha : p a = true)
    (h : before ++ a :: after = front ++ [b]) : before = front ∧ a = b ∧ after = [] := by
  rcases List.append_eq_append_iff.1 h with ⟨more, rfl, hmore⟩ | ⟨more, rfl, hmore⟩
  · cases more with
    | nil =>
      obtain ⟨rfl, rfl⟩ := List.cons_eq_cons.1 hmore
      exact ⟨(List.append_nil _).symm, rfl, rfl⟩
    | cons c more =>
      -- the item would be in front
      obtain ⟨rfl, -⟩ := List.cons_eq_cons.1 hmore
      have hfalse := hfront a (List.mem_append_right _ List.mem_cons_self)
      rw [ha] at hfalse
      contradiction
  · cases more with
    | nil =>
      obtain ⟨rfl, rfl⟩ := List.cons_eq_cons.1 hmore
      exact ⟨List.append_nil _, rfl, rfl⟩
    | cons c more =>
      -- two items would be as many as one
      have hlength := congrArg List.length hmore
      simp at hlength

theorem resultOf_eq_ok_iff {name : String} {fault? : Option Fault} :
    resultOf name fault? = .ok () ↔ fault? = none := by
  cases fault? <;> simp [resultOf]

theorem resultOf_eq_error_iff {name : String} {fault? : Option Fault} {e : WriteError} :
    resultOf name fault? = .error e ↔ e.name = name ∧ fault? = some e.fault := by
  obtain ⟨name', fault'⟩ := e
  cases fault? <;> simp [resultOf, eq_comm]

namespace Publishing

variable {name : String} {bytes : List UInt8} {calls : List AreaCall} {fault? : Option Fault}

/-- A publication ends with its first fault. -/
theorem firstFault? (h : Publishing name bytes calls fault?) : firstFault? calls = fault? := by
  cases h with
  | refused => rfl
  | broken hwriting => simp [hwriting.firstFault?, AreaCall.fault?]
  | unflushed hwriting => simp [hwriting.firstFault?, AreaCall.fault?]
  | committed hwriting =>
    cases fault? <;> simp [hwriting.firstFault?, AreaCall.fault?]

theorem opens (h : Publishing name bytes calls fault?) :
    ∃ fault? rest, calls = .opened name fault? :: rest ∧
      ∀ name fault?, .opened name fault? ∉ rest := by
  cases h with
  | refused => exact ⟨_, [], rfl, fun _ _ => List.not_mem_nil⟩
  | broken hwriting =>
    exact ⟨_, _, rfl, fun name _ => by simp [hwriting.opened_not_mem name]⟩
  | unflushed hwriting =>
    exact ⟨_, _, rfl, fun name _ => by simp [hwriting.opened_not_mem name]⟩
  | committed hwriting =>
    exact ⟨_, _, rfl, fun name _ => by simp [hwriting.opened_not_mem name]⟩

/-- **Either nothing is committed**, and something went wrong before, or the last call is a commit.
Then everything was written and flushed, and the commit decides. -/
theorem commit_last (h : Publishing name bytes calls fault?) :
    (∀ call ∈ calls, call.isCommit = false) ∧ fault? ≠ none ∨
      ∃ front, calls = .opened name none :: (front ++ [.flushed none]) ++ [.committed fault?] ∧
        Writing bytes front none := by
  -- only a publication that has taken all bytes and flushed them comes to the commit
  cases h with
  | refused => exact Or.inl ⟨List.forall_mem_singleton.2 rfl, nofun⟩
  | broken hwriting =>
    refine Or.inl ⟨List.forall_mem_cons.2 ⟨rfl, List.forall_mem_append.2 ?_⟩, nofun⟩
    exact ⟨hwriting.isCommit_eq_false, List.forall_mem_singleton.2 rfl⟩
  | unflushed hwriting =>
    refine Or.inl ⟨List.forall_mem_cons.2 ⟨rfl, List.forall_mem_append.2 ?_⟩, nofun⟩
    exact ⟨hwriting.isCommit_eq_false,
      List.forall_mem_cons.2 ⟨rfl, List.forall_mem_singleton.2 rfl⟩⟩
  | @committed front _ hwriting => exact Or.inr ⟨front, by simp, hwriting⟩

/-- What comes before a commit has no commit in it. -/
theorem isCommit_eq_false_of_front (name : String) {front : List AreaCall}
    (hwriting : Writing bytes front none) :
    ∀ call ∈ .opened name none :: (front ++ [.flushed none]), call.isCommit = false :=
  List.forall_mem_cons.2 ⟨rfl, List.forall_mem_append.2
    ⟨hwriting.isCommit_eq_false, List.forall_mem_singleton.2 rfl⟩⟩

/-- **The calls of a publication keep the protocol.** -/
theorem keepsProtocol {artifact : Artifact}
    (h : Publishing artifact.name (Text.bytesOf artifact.content) calls fault?) :
    KeepsProtocol artifact calls (resultOf artifact.name fault?) where
  opens := h.opens
  commits_le_one := by
    unfold commits
    rcases h.commit_last with ⟨hnone, -⟩ | ⟨front, rfl, hwriting⟩
    · rw [List.countP_eq_zero.2 fun call hcall => by simp [hnone call hcall]]
      exact Nat.zero_le 1
    · have hfront := isCommit_eq_false_of_front artifact.name hwriting
      rw [List.countP_append, List.countP_eq_zero.2 fun call hcall => by simp [hfront call hcall],
        Nat.zero_add]
      exact List.countP_le_length
  commits_whole before fault?' after heq := by
    -- the calls can be split at a commit only in front of their last one
    rcases h.commit_last with ⟨hnone, -⟩ | ⟨front, rfl, hwriting⟩
    · have hmem : .committed fault?' ∈ calls := heq ▸ List.mem_append_right _ List.mem_cons_self
      exact Bool.noConfusion (hnone _ hmem)
    · obtain ⟨rfl, -, -⟩ := eq_of_append_cons_eq
        (isCommit_eq_false_of_front artifact.name hwriting) rfl heq.symm
      refine ⟨?_, ?_⟩
      · simp [hwriting.acceptedBytes rfl, AreaCall.bytes]
      · rw [← List.cons_append, List.getLast?_concat]
  ok_iff := by
    rw [resultOf_eq_ok_iff, h.firstFault?]
    refine ⟨fun hok => ⟨hok, ?_⟩, And.left⟩
    -- a commit that is there is the last call, so its fault is that of the publication
    rcases h.commit_last with ⟨-, hfault⟩ | ⟨front, rfl, -⟩
    · exact absurd hok hfault
    · simp [hok]
  error_iff e := by rw [h.firstFault?, resultOf_eq_error_iff]

end Publishing

/-- The life of a stream that takes everything, from when it is open. -/
theorem run_of_openStream {accept : List UInt8 → τ → τ} (h : area.Accepting accept)
    {name : String} {session : Session} {state : σ} {stream written : τ}
    (hopen : area.openStream name state = .ok stream)
    (hchunks : area.writeChunks session.chunks stream = (none, written)) :
    area.run name session state =
      if session.commit then
        ((area.commit written).1.map (.committing, ·), (area.commit written).2)
      else (none, area.discard written) := by
  unfold run
  simp only [hopen, hchunks, h.flush, ite_self]

end OutputArea

/-! ### Files in memory -/

namespace MemoryArea

/-- A stream in memory has taken all chunks once they are written. -/
theorem writeChunks_eq (chunks : List (List UInt8)) (stream : MemoryStream) :
    output.writeChunks chunks stream =
      (none, { stream with accepted := stream.accepted ++ chunks.flatten }) := by
  induction chunks generalizing stream with
  | nil => rw [List.flatten_nil, List.append_nil]; rfl
  | cons chunk rest ih =>
    -- an empty chunk is not handed to the stream, which would not change by it
    have htaken : OutputArea.taken accept chunk stream = accept chunk stream := by
      unfold OutputArea.taken
      split
      · next hnone => rw [List.isEmpty_iff.1 hnone, accept, List.append_nil]
      · rfl
    rw [OutputArea.writeChunks, accepting_output.writeAll, htaken]
    dsimp only
    rw [ih, accept, List.flatten_cons, List.append_assoc]

theorem commit_of_ok {stream : MemoryStream} {content : List Char}
    (h : Text.decode stream.accepted = .ok content) :
    output.commit stream = (none, stream.area.put stream.name (String.ofList content)) := by
  change commit stream = _
  unfold commit
  rw [h]

theorem commit_of_error {stream : MemoryStream} {fault : Text.Utf8Fault}
    (h : Text.decode stream.accepted = .error fault) :
    output.commit stream = (some ⟨.invalidData, some fault.message⟩, stream.area) := by
  change commit stream = _
  unfold commit
  rw [h]

/-- **The files of an area in memory change by a commit alone**, whatever is written to a stream and
whatever becomes of it: either the stream was committed, and what was written is the text under its
name, or nothing has changed. -/
theorem run_or (name : String) (session : Session) (area : MemoryArea) :
    (∃ content, Text.decode session.chunks.flatten = .ok content ∧ session.commit = true ∧
        output.run name session area = (none, area.put name (String.ofList content))) ∨
      (∃ fault?, (fault? ≠ none ∨ session.commit = false) ∧
        output.run name session area = (fault?, area)) := by
  have hopen : output.openStream name area = openStream name area := rfl
  unfold openStream at hopen
  cases hreadOnly : area.readOnly with
  | true =>
    -- nothing was opened, let alone written
    rw [hreadOnly, if_pos rfl] at hopen
    unfold OutputArea.run
    rw [hopen]
    exact Or.inr ⟨some (.opening, readOnlyFault), Or.inl (Option.some_ne_none _), rfl⟩
  | false =>
    rw [hreadOnly, if_neg Bool.false_ne_true] at hopen
    rw [OutputArea.run_of_openStream accepting_output hopen (writeChunks_eq _ _), List.nil_append]
    -- without a commit the stream is dropped, and the area is as it was
    cases session.commit with
    | false => exact Or.inr ⟨none, Or.inr rfl, rfl⟩
    | true =>
      rw [if_pos rfl]
      cases htext : Text.decode session.chunks.flatten with
      | ok content =>
        rw [commit_of_ok htext]
        exact Or.inl ⟨content, rfl, rfl, rfl⟩
      | error fault =>
        rw [commit_of_error htext]
        exact Or.inr ⟨_, Or.inl (Option.some_ne_none _), rfl⟩

/-- A stream that is discarded has changed no file, whatever was written to it. -/
theorem run_discarded (name : String) (chunks : List (List UInt8)) (flush : Bool)
    (area : MemoryArea) : (output.run name ⟨chunks, flush, false⟩ area).2 = area := by
  rcases run_or name ⟨chunks, flush, false⟩ area with ⟨_, -, hcommit, -⟩ | ⟨_, -, hrun⟩
  · contradiction
  · rw [hrun]

/-- An artifact is published in memory, or it is refused and nothing has changed. -/
theorem publish_or (artifact : Artifact) (area : MemoryArea) :
    output.publish artifact area = (.ok (), area.put artifact.name artifact.content) ∨
      ∃ e, output.publish artifact area = (.error e, area) := by
  cases hreadOnly : area.readOnly with
  | false => exact Or.inl (publish_eq artifact hreadOnly)
  | true =>
    have hopen : output.openStream artifact.name area = .error (readOnlyFault, area) :=
      if_pos hreadOnly
    exact Or.inr ⟨_, OutputArea.publish_of_refused hopen⟩

end MemoryArea

/-- **The commit protocol of the writer.** Whatever an area does when it is called, the calls of a
publication keep the protocol: at most one commit, and only when the stream has taken all bytes of
the artifact in order and has been flushed; success exactly if nothing went wrong; and otherwise the
name of the artifact with the fault of the first call that did. In memory, a publication that
succeeds adds just the text of the artifact under its name, and neither one that fails nor a stream
that is discarded after any writes changes anything. -/
theorem commit_protocol (artifact : Artifact) :
    (∀ (σ τ : Type) (area : OutputArea σ τ) (state : σ), ∃ calls,
      area.recorded.publish artifact (state, []) =
          ((area.publish artifact state).1, (area.publish artifact state).2, calls) ∧
        OutputArea.KeepsProtocol artifact calls (area.publish artifact state).1) ∧
      (∀ memory : MemoryArea,
        (∃ after, MemoryArea.output.publish artifact memory = (.ok (), after) ∧
            after = memory.put artifact.name artifact.content ∧
            ∀ name, after.get? name =
              if name = artifact.name then some artifact.content else memory.get? name) ∨
          ∃ e, MemoryArea.output.publish artifact memory = (.error e, memory)) ∧
      ∀ name chunks flush memory,
        (MemoryArea.output.run name ⟨chunks, flush, false⟩ memory).2 = memory := by
  -- the record of any area, what an area in memory does, and what it does without a commit
  refine ⟨fun σ τ area state => ?_, fun memory => ?_, MemoryArea.run_discarded⟩
  · obtain ⟨calls, fault?, hpublishing, hresult, hrun⟩ :=
      @OutputArea.recorded_publish _ _ area artifact state []
    refine ⟨calls, hrun, ?_⟩
    rw [hresult]
    exact hpublishing.keepsProtocol
  · refine (MemoryArea.publish_or artifact memory).imp_left fun hpublish => ?_
    exact ⟨_, hpublish, rfl, fun name => MemoryArea.get?_put memory _ _ name⟩

end Stencil
