import ObjectCalculus.Config.Folder
import Mathlib.Data.List.Basic

/-!
# Folders

A file can be written at a path if nothing stands there or a file does. It is then found at the
path, since no file stands on the way, and nothing else is touched. Every access has its outcomes
here, and so has what is made of them for configurations; no later module looks inside the monad
again.
-/

set_option autoImplicit false

namespace ObjectCalculus

namespace Entry

/-- A file can be written here. -/
inductive Writable : Entry → Prop
  | absent : Writable .absent
  | file (content : ByteArray) : Writable (.file content)

instance : DecidablePred Writable
  | .absent => isTrue .absent
  | .file content => isTrue (.file content)
  | .directory => isFalse nofun
  | .outOfReach _ _ => isFalse nofun

theorem read_of_text (text : String) : (ofText text).readText = .ok text := by
  have decoded : String.fromUTF8? text.toUTF8 = some text := dif_pos text.isValidUTF8
  simp only [readText, ofText, decoded]

theorem not_writable_refused {entry : Entry} (text : String) (refused : ¬entry.Writable) :
    ∃ cause, entry.writeText text = .error cause := by
  cases entry with
  | absent => exact absurd .absent refused
  | file content => exact absurd (.file content) refused
  | directory => exact ⟨_, rfl⟩
  | outOfReach => exact ⟨_, rfl⟩

end Entry

namespace Folder

variable {folder : Folder} {path : Path} {place other next : Place} {entry : Entry}
  {content : ByteArray} {name : String}

theorem lookup_kept (keep : Place → Bool) (kept : keep other = true) :
    List.lookup other (folder.filter fun entry => keep entry.1) = folder.lookup other := by
  induction folder with
  | nil => rfl
  | cons first rest ih =>
      obtain ⟨place, entry⟩ := first
      rcases eq_or_ne other place with rfl | different
      · rw [List.filter_cons_of_pos (p := fun entry : Place × Entry => keep entry.1) kept,
          List.lookup_cons_self, List.lookup_cons_self]
      · rw [List.lookup_cons, beq_false_of_ne different, ← ih, List.filter_cons]
        split
        · rw [List.lookup_cons, beq_false_of_ne different]
        · rfl

theorem standing_set_same (inside : place.isAncestor = false) :
    (folder.set place entry).standing place = entry := by
  rw [standing, inside, set, List.lookup_cons_self]
  rfl

theorem standing_set_other (elsewhere : other ≠ place) :
    (folder.set place entry).standing other = folder.standing other := by
  have kept : (other != place) = true := bne_iff_ne.mpr elsewhere
  rw [standing, standing, set, List.lookup_cons, beq_false_of_ne elsewhere,
    lookup_kept (· != place) kept]

theorem walk_from_directory (walked : folder.walk place name = .ok next) :
    folder.standing place = .directory := by
  unfold walk at walked
  split at walked
  · cases walked
  · cases walked
  · cases walked
  · assumption

/-- What is no directory does not stand on the way, so that it can change. -/
theorem walk_set (walked : folder.walk place name = .ok next)
    (aside : folder.standing other ≠ .directory) :
    (folder.set other entry).walk place name = .ok next := by
  have through := walk_from_directory walked
  have elsewhere : place ≠ other := by
    rintro rfl
    exact aside through
  rw [← walked, walk, walk, standing_set_other elsewhere]

theorem walks_set {names : List String} (walked : names.foldlM folder.walk place = .ok next)
    (aside : folder.standing other ≠ .directory) :
    names.foldlM (folder.set other entry).walk place = .ok next := by
  induction names generalizing place with
  | nil => exact walked
  | cons name rest ih =>
      rw [List.foldlM_cons] at walked ⊢
      cases first : folder.walk place name with
      | error cause =>
          rw [first] at walked
          cases walked
      | ok middle =>
          rw [first] at walked
          rw [walk_set first aside]
          exact ih walked

theorem locate_set (located : folder.locate path = .ok place)
    (aside : folder.standing other ≠ .directory) :
    (folder.set other entry).locate path = .ok place := by
  unfold locate at located ⊢
  split at located
  · cases located
  · next clean =>
    rw [if_neg clean]
    exact walks_set located aside

theorem as_directory_not_writable (entry : Entry) : ¬(asDirectory entry).Writable := by
  cases entry <;> exact nofun

theorem entry_at (located : folder.locate path = .ok place) (named : path.endsInSlash = false) :
    folder.entry path = folder.standing place := by
  rw [Folder.entry, located]
  simp [named]

/-- A file can be written only at a place that is no directory by the way to it, under a name
that asks for none. -/
theorem writable_place (writable : (folder.entry path).Writable) :
    ∃ place, folder.locate path = .ok place ∧ path.endsInSlash = false ∧
      place.isAncestor = false ∧ folder.standing place ≠ .directory := by
  cases located : folder.locate path with
  | error cause =>
      rw [Folder.entry, located] at writable
      cases writable
  | ok place =>
      have named : path.endsInSlash = false := by
        by_contra slash
        rw [Bool.not_eq_false] at slash
        rw [Folder.entry, located] at writable
        simp only [slash, if_true] at writable
        exact as_directory_not_writable _ writable
      rw [entry_at located named] at writable
      have aside : folder.standing place ≠ .directory := by
        intro directory
        rw [directory] at writable
        cases writable
      refine ⟨place, rfl, named, ?_, aside⟩
      by_contra ancestor
      rw [Bool.not_eq_false] at ancestor
      exact aside (by rw [standing, if_pos ancestor])

/-- What has been written is found again. -/
theorem entry_written (writable : (folder.entry path).Writable) (entry : Entry) :
    (folder.setEntry path entry).entry path = entry := by
  obtain ⟨place, located, named, inside, aside⟩ := writable_place writable
  rw [setEntry, located, entry_at (locate_set located aside) named, standing_set_same inside]

theorem standing_elsewhere (elsewhere : folder.locate path ≠ .ok place) :
    (folder.setEntry path entry).standing place = folder.standing place := by
  unfold setEntry
  split
  · rfl
  next found located =>
    apply standing_set_other
    rintro rfl
    exact elsewhere located

variable {α β : Type}

/-- The result of an access and the folder that it leaves. -/
def Access.outcome (access : Access α) (folder : Folder) : Except ConfigError α × Folder :=
  access.run.run folder

theorem outcome_bind_ok {access : Access α} {folder middle : Folder} {value : α}
    (first : access.outcome folder = (.ok value, middle)) (next : α → Access β) :
    Access.outcome (access >>= next) folder = (next value).outcome middle := by
  change access.run.run folder = _ at first
  simp only [Access.outcome, ExceptT.run_bind, StateT.run_bind]
  rw [first]
  rfl

theorem outcome_bind_error {access : Access α} {folder middle : Folder} {failure : ConfigError}
    (first : access.outcome folder = (.error failure, middle)) (next : α → Access β) :
    Access.outcome (access >>= next) folder = (.error failure, middle) := by
  change access.run.run folder = _ at first
  simp only [Access.outcome, ExceptT.run_bind, StateT.run_bind]
  rw [first]
  rfl

theorem outcome_bind_lift (result : Except ConfigError α) {next : α → Access β}
    {rest : α → Except ConfigError β}
    (same : ∀ value, (next value).outcome folder = (rest value, folder)) :
    Access.outcome (liftM result >>= next) folder = (result >>= rest, folder) := by
  cases result with
  | ok value => exact same value
  | error failure => rfl

theorem outcome_get (folder : Folder) :
    (get : Access Folder).outcome folder = (.ok folder, folder) :=
  rfl

theorem read_text_outcome (path : Path) (folder : Folder) :
    (readText path).outcome folder =
      ((folder.entry path).readText.mapError (.io path.text), folder) := by
  unfold readText
  rw [outcome_bind_ok (outcome_get folder)]
  cases (folder.entry path).readText <;> rfl

theorem write_text_outcome (writable : (folder.entry path).Writable) (content : String) :
    (writeText path content).outcome folder =
      (.ok (), folder.setEntry path (.ofText content)) := by
  unfold writeText
  rw [outcome_bind_ok (outcome_get folder)]
  cases standing : folder.entry path with
  | absent => rfl
  | file => rfl
  | _ =>
      rw [standing] at writable
      cases writable

theorem write_text_refused (refused : ¬(folder.entry path).Writable) (content : String) :
    ∃ cause, (writeText path content).outcome folder =
      (.error (.io path.text cause), folder) := by
  obtain ⟨cause, failed⟩ := Entry.not_writable_refused content refused
  refine ⟨cause, ?_⟩
  unfold writeText
  rw [outcome_bind_ok (outcome_get folder), failed]
  rfl

end Folder

namespace Config

open Folder

variable {codec : Toml.Codec} {folder : Folder} {path : Path} {config : Config}
  {content reason : String}

def read (codec : Toml.Codec) (path content : String) : Except ConfigError Config := do
  let config ← parse codec path content
  config.validate
  pure config

theorem load_outcome (codec : Toml.Codec) (path : Path) (folder : Folder) :
    (load codec path).outcome folder =
      ((folder.entry path).readText.mapError (.io path.text) >>= read codec path.text, folder) := by
  unfold load
  cases found : (folder.entry path).readText with
  | error cause =>
      have stopped := read_text_outcome path folder
      rw [found] at stopped
      exact outcome_bind_error stopped _
  | ok content =>
      have first := read_text_outcome path folder
      rw [found] at first
      rw [outcome_bind_ok first]
      exact outcome_bind_lift _ fun config => outcome_bind_lift _ fun _ => rfl

theorem load_of_text (standing : folder.entry path = .ofText content) :
    (load codec path).outcome folder = (read codec path.text content, folder) := by
  rw [load_outcome, standing, Entry.read_of_text]
  rfl

theorem save_outcome (printed : codec.print config.record = .ok content) :
    (config.save codec path).outcome folder = (writeText path content).outcome folder := by
  unfold save
  rw [serialize, printed]
  rfl

theorem save_refused (path : Path) (folder : Folder)
    (refused : codec.print config.record = .error reason) :
    (config.save codec path).outcome folder = (.error (.serialize reason), folder) := by
  unfold save
  rw [serialize, refused]
  rfl

theorem save_default_outcome (missing : (folder.entry path).isPresent = false) :
    (saveDefaultIfMissing path).outcome folder = (writeText path defaultText).outcome folder := by
  have absent : (hasEntry path).outcome folder = (.ok false, folder) := by
    rw [← missing]
    rfl
  unfold saveDefaultIfMissing
  rw [outcome_bind_ok absent]
  rfl

theorem save_default_present (present : (folder.entry path).isPresent = true) :
    (saveDefaultIfMissing path).outcome folder = (.ok (), folder) := by
  have found : (hasEntry path).outcome folder = (.ok true, folder) := by
    rw [← present]
    rfl
  unfold saveDefaultIfMissing
  rw [outcome_bind_ok found]
  rfl

end Config

end ObjectCalculus
