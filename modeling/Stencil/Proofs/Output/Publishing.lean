import Stencil.Output.Memory

/-!
# Publishing

A publication in any area ends at the first operation that fails, and there is one lemma for each of
these ends: `OutputArea.publish_of_refused`, `publish_of_broken`, `publish_of_unflushed` and
`publish_of_flushed`, where the commit decides.

A stream that takes whatever it is given has taken all bytes of an artifact once they are written,
so only opening and committing are left to fail (`OutputArea.publish_of_openStream`). In memory
neither does, unless the area is read-only: an artifact is a text, and so are its bytes
(`MemoryArea.publish_eq`).
-/

namespace Stencil

namespace OutputArea

variable {σ τ : Type} {area : OutputArea σ τ} {accept : List UInt8 → τ → τ}

/-! ### How a publication ends -/

/-- What a publication comes to that ends with a fault, or with none. -/
def resultOf (name : String) (fault? : Option Fault) : Except WriteError Unit :=
  fault?.elim (.ok ()) fun fault => .error ⟨name, fault⟩

/-- One answer of a stream, and how writing goes on from there. -/
theorem writeAll_cons (first : UInt8) (rest : List UInt8) (stream : τ) :
    area.writeAll (first :: rest) stream =
      match area.write (first :: rest) stream with
      | .accepted 0 next => (some { kind := .writeZero }, next)
      | .accepted (count + 1) next => area.writeAll (rest.drop count) next
      | .interrupted next => area.writeAll (first :: rest) next
      | .failed fault next => (some fault, next) := by
  rw [writeAll]
  split <;> simp only [*]

theorem writeChunks_singleton (bytes : List UInt8) (stream : τ) :
    area.writeChunks [bytes] stream = area.writeAll bytes stream := by
  rw [writeChunks]
  rcases area.writeAll bytes stream with ⟨_ | _, _⟩ <;> rfl

section

variable {artifact : Artifact} {state : σ} {stream written flushed : τ}

theorem publish_of_refused {final : σ} {fault : Fault}
    (hopen : area.openStream artifact.name state = .error (fault, final)) :
    area.publish artifact state = (.error ⟨artifact.name, fault⟩, final) := by
  unfold publish run
  rw [hopen]

theorem publish_of_broken {fault : Fault}
    (hopen : area.openStream artifact.name state = .ok stream)
    (hwrite : area.writeAll (Text.bytesOf artifact.content) stream = (some fault, written)) :
    area.publish artifact state = (resultOf artifact.name (some fault), area.discard written) := by
  unfold publish run
  simp only [hopen, writeChunks_singleton, hwrite]
  rfl

theorem publish_of_unflushed {fault : Fault}
    (hopen : area.openStream artifact.name state = .ok stream)
    (hwrite : area.writeAll (Text.bytesOf artifact.content) stream = (none, written))
    (hflush : area.flush written = (some fault, flushed)) :
    area.publish artifact state = (resultOf artifact.name (some fault), area.discard flushed) := by
  unfold publish run
  simp only [hopen, writeChunks_singleton, hwrite, if_true, hflush]
  rfl

/-- Once all is written and flushed, the commit decides. -/
theorem publish_of_flushed {final : σ} {fault? : Option Fault}
    (hopen : area.openStream artifact.name state = .ok stream)
    (hwrite : area.writeAll (Text.bytesOf artifact.content) stream = (none, written))
    (hflush : area.flush written = (none, flushed))
    (hcommit : area.commit flushed = (fault?, final)) :
    area.publish artifact state = (resultOf artifact.name fault?, final) := by
  unfold publish run
  simp only [hopen, writeChunks_singleton, hwrite, if_true, hflush, hcommit]
  cases fault? <;> rfl

end

/-! ### Streams that take everything -/

/-- **An area whose streams take whatever they are given**, and have nothing to flush. -/
structure Accepting (area : OutputArea σ τ) (accept : List UInt8 → τ → τ) : Prop where
  write : ∀ bytes stream, area.write bytes stream = .accepted bytes.length (accept bytes stream)
  flush : ∀ stream, area.flush stream = (none, stream)

/-- Such a stream when some bytes are written to it. It is not asked to take none. -/
def taken (accept : List UInt8 → τ → τ) (bytes : List UInt8) (stream : τ) : τ :=
  if bytes.isEmpty then stream else accept bytes stream

theorem Accepting.writeAll (h : area.Accepting accept) (bytes : List UInt8) (stream : τ) :
    area.writeAll bytes stream = (none, taken accept bytes stream) := by
  cases bytes with
  | nil =>
    rw [OutputArea.writeAll]
    rfl
  | cons first rest =>
    -- all bytes are taken at once, so nothing is left to write
    rw [writeAll_cons, h.write, List.length_cons]
    dsimp only
    rw [List.drop_length, OutputArea.writeAll]
    rfl

/-- A stream that takes everything has the whole artifact when it is committed, and then the commit
decides. -/
theorem publish_of_openStream (h : area.Accepting accept) {artifact : Artifact} {state final : σ}
    {stream : τ} {fault? : Option Fault}
    (hopen : area.openStream artifact.name state = .ok stream)
    (hcommit : area.commit (taken accept (Text.bytesOf artifact.content) stream) =
      (fault?, final)) :
    area.publish artifact state =
      (fault?.elim (.ok ()) fun fault => .error ⟨artifact.name, fault⟩, final) :=
  publish_of_flushed hopen (h.writeAll _ _) (h.flush _) hcommit

end OutputArea

namespace MemoryArea

theorem accepting_output : output.Accepting accept :=
  ⟨fun _ _ => rfl, fun _ => rfl⟩

/-- **Publishing in memory** places the text of an artifact under its name. -/
theorem publish_eq (artifact : Artifact) {area : MemoryArea} (h : area.readOnly = false) :
    output.publish artifact area = (.ok (), area.put artifact.name artifact.content) := by
  have hopen : output.openStream artifact.name area = .ok { area, name := artifact.name } := by
    change openStream artifact.name area = _
    unfold openStream
    rw [h]
    rfl
  -- the stream holds the bytes of the text, also if they are none
  have htaken : OutputArea.taken accept (Text.bytesOf artifact.content)
      { area, name := artifact.name } =
        { area, name := artifact.name, accepted := Text.bytesOf artifact.content } := by
    unfold OutputArea.taken
    split
    · next hnone => rw [List.isEmpty_iff.1 hnone]
    · rfl
  -- the bytes are those of a text, so they are read back as this text
  have hcommit : commit { area, name := artifact.name, accepted := Text.bytesOf artifact.content } =
      (none, area.put artifact.name artifact.content) := by
    unfold commit Text.bytesOf
    rw [Text.decode_encode]
    dsimp only
    rw [String.ofList_toList]
  exact OutputArea.publish_of_openStream accepting_output hopen (htaken ▸ hcommit)

/-- Placing a text changes what stands under its name, and nothing else. -/
@[simp] theorem get?_put (area : MemoryArea) (name content other : String) :
    (area.put name content).get? other =
      if other = name then some content else area.get? other :=
  Keyed.lookup_put name other content area.files

end MemoryArea

end Stencil
