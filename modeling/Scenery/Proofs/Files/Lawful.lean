import Scenery.Files

/-!
# File systems

What may be relied on where files are concerned, whatever keeps them: reading changes nothing, and
neither does a write that fails; a file that was written holds what was written, and all others stay.

* `LawfulFiles`       states of files with these laws
* `ReadsOnly`         a computation that changes no file
* `Wrote`             one file was written, and no other one has changed
* `writeText_cases`   what writing a text does
-/

namespace Scenery

/-- States of a file system, in which reading and writing do what is said of them. -/
class LawfulFiles (σ : Type) [MonadFiles (StateT σ Id)] where
  /-- What paths lead to; several paths may lead to one file. -/
  File : Type
  /-- The file that a path leads to, whether it is there or would be there once written. -/
  file? : σ → String → Option File
  /-- The content of a file that is there. -/
  content? : σ → File → Option ByteArray
  readBytes_state (path : String) (t : σ) :
    ((MonadFiles.readBytes path : StateT σ Id (Except FileError ByteArray)).run t).2 = t
  readBytes_ok {path : String} {t : σ} {content : ByteArray} :
    ((MonadFiles.readBytes path : StateT σ Id (Except FileError ByteArray)).run t).1 = .ok content →
    ∃ f, file? t path = some f ∧ content? t f = some content
  writeBytes_error {path : String} {content : ByteArray} {t t' : σ} {e : FileError} :
    (MonadFiles.writeBytes path content : StateT σ Id (Except FileError Unit)).run t =
      (.error e, t') → t' = t
  writeBytes_ok {path : String} {content : ByteArray} {t t' : σ} :
    (MonadFiles.writeBytes path content : StateT σ Id (Except FileError Unit)).run t =
      (.ok (), t') →
    ∃ f, file? t path = some f ∧ file? t' path = some f ∧ content? t' f = some content ∧
      ∀ g, g ≠ f → content? t' g = content? t g

variable {σ β γ : Type}

/-- The second step runs in the state that the first one leaves. -/
theorem run_bind_state (e : StateT σ Id β) (k : β → StateT σ Id γ) (t : σ) :
    (e >>= k).run t = (k (e.run t).1).run (e.run t).2 := rfl

/-! ### Reading -/

/-- A computation leaves all files as they are. -/
def ReadsOnly (e : StateT σ Id β) : Prop := ∀ t, (e.run t).2 = t

namespace ReadsOnly

variable {e : StateT σ Id β}

theorem pure (b : β) : ReadsOnly (Pure.pure b : StateT σ Id β) := fun _ => rfl

/-- Two steps change no file if neither of them does. -/
theorem bind (he : ReadsOnly e) {k : β → StateT σ Id γ} (hk : ∀ b, ReadsOnly (k b)) :
    ReadsOnly (e >>= k) := by
  intro t
  rw [run_bind_state, he t]
  exact hk _ t

/-- The step after one that only reads starts with the same files. -/
theorem run_bind (he : ReadsOnly e) (k : β → StateT σ Id γ) (t : σ) :
    (e >>= k).run t = (k (e.run t).1).run t := by
  rw [run_bind_state, he t]

variable [MonadFiles (StateT σ Id)] [LawfulFiles σ]

/-- Reading bytes changes no file. -/
theorem readBytes (path : String) :
    ReadsOnly (Files.readBytes path : StateT σ Id (Except FileError ByteArray)) := by
  unfold Files.readBytes Files.onPath
  split
  · exact pure _
  · exact LawfulFiles.readBytes_state path

/-- Reading a text changes no file. -/
theorem readText (path : String) :
    ReadsOnly (Files.readText path : StateT σ Id (Except FileError String)) :=
  (readBytes path).bind fun _ => pure _

end ReadsOnly

/-! ### Writing -/

variable [MonadFiles (StateT σ Id)] [LawfulFiles σ]

/-- The file of a path holds the content, and no other file has changed. -/
def Wrote (t t' : σ) (path : String) (content : ByteArray) : Prop :=
  ∃ f, LawfulFiles.file? t path = some f ∧ LawfulFiles.file? t' path = some f ∧
    LawfulFiles.content? t' f = some content ∧
    ∀ g, g ≠ f → LawfulFiles.content? t' g = LawfulFiles.content? t g

/-- A text is written into one file, or no file changes. -/
theorem writeText_cases (path text : String) (t : σ) :
    (∃ e, (Files.writeText path text : StateT σ Id (Except FileError Unit)).run t = (.error e, t)) ∨
      ∃ t', (Files.writeText path text : StateT σ Id (Except FileError Unit)).run t = (.ok (), t') ∧
        Wrote t t' path text.toUTF8 := by
  unfold Files.writeText Files.onPath
  split
  -- a path that no file system can take is refused before anything is written
  · exact .inl ⟨_, rfl⟩
  rcases hrun : (MonadFiles.writeBytes path text.toUTF8 :
    StateT σ Id (Except FileError Unit)).run t with ⟨e | ⟨⟩, t'⟩
  · obtain rfl := LawfulFiles.writeBytes_error hrun
    exact .inl ⟨e, rfl⟩
  · exact .inr ⟨t', rfl, LawfulFiles.writeBytes_ok hrun⟩

end Scenery
