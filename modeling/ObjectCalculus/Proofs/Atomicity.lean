import ObjectCalculus.Proofs.Saving

/-!
# Atomicity

A call of a program about its configuration either leaves the folder as it was, or it succeeds
and the file at the path has been written anew. What can be answered and left is told once for
every call, in `Folder.Effect`. So a sequence of calls changes nothing but what stands at the
path, and what stands there in the end is told by what stood there and the calls alone. Of the
codec it matters only that the default text is read as it should be.
-/

set_option autoImplicit false

namespace ObjectCalculus

namespace Folder

open Config Toml

/-- What a program does about its configuration. The other steps happen to a path from outside,
or do not look at it. -/
inductive Step.Configures : Step → Prop
  | load : Configures .load
  | writeDefault : Configures .writeDefault
  | write (config : Config) : Configures (.write config)
  | validate (config : Config) : Configures (.validate config)

/-- Everything that a call can answer and leave. Each failure carries why nothing was written. -/
inductive Effect (codec : Codec) (folder : Folder) (path : Path) :
    Step → Answer → Folder → Prop
  | loaded (answer : Answer) : Effect codec folder path .load answer folder
  | checked (config : Config) (answer : Answer) :
      Effect codec folder path (.validate config) answer folder
  | present (standing : folder.entry path ≠ .absent) :
      Effect codec folder path .writeDefault .done folder
  | created (missing : folder.entry path = .absent) :
      Effect codec folder path .writeDefault .done (folder.setEntry path (.ofText defaultText))
  | notCreated (failure : ConfigError) (standing : folder.entry path ≠ .absent) :
      Effect codec folder path .writeDefault (.failure failure) folder
  | saved (config : Config) (text : String) (writable : (folder.entry path).Writable)
      (printed : codec.print config.record = .ok text) :
      Effect codec folder path (.write config) .done (folder.setEntry path (.ofText text))
  | notPrinted (config : Config) (reason : String)
      (refused : codec.print config.record = .error reason) :
      Effect codec folder path (.write config) (.failure (.serialize reason)) folder
  | notWritten (config : Config) (failure : ConfigError)
      (refused : ¬(folder.entry path).Writable) :
      Effect codec folder path (.write config) (.failure failure) folder

variable {codec : Codec} {folder after : Folder} {path : Path} {place : Place} {step : Step}
  {answer : Answer} {failure : ConfigError} {config : Config} {calls : List Step}

theorem writable_of_missing (missing : folder.entry path = .absent) :
    (folder.entry path).Writable := by
  rw [missing]
  exact .absent

theorem carry_out_outcome {α : Type} {access : Access α} {result : Except ConfigError α}
    (outcome : access.outcome folder = (result, after)) (onSuccess : α → Answer) :
    folder.carryOut onSuccess access = (answerOf onSuccess result, after) := by
  change access.run.run folder = _ at outcome
  rw [carryOut, outcome]

theorem write_default_effect (codec : Codec) (folder : Folder) (path : Path) :
    Effect codec folder path .writeDefault (folder.perform codec path .writeDefault).1
      (folder.perform codec path .writeDefault).2 := by
  have left (present : (folder.entry path).isPresent = true) :
      Effect codec folder path .writeDefault (folder.perform codec path .writeDefault).1
        (folder.perform codec path .writeDefault).2 := by
    rw [perform, carry_out_outcome (save_default_present present)]
    refine .present fun missing => ?_
    rw [missing] at present
    cases present
  cases standing : folder.entry path with
  | directory => exact left (by rw [standing, Entry.isPresent])
  | file content => exact left (by rw [standing, Entry.isPresent])
  | absent =>
      have missing : (folder.entry path).isPresent = false := by rw [standing, Entry.isPresent]
      have written := write_text_outcome (writable_of_missing standing) defaultText
      rw [← save_default_outcome missing] at written
      rw [perform, carry_out_outcome written]
      exact .created standing
  | outOfReach onReading onWriting =>
      have missing : (folder.entry path).isPresent = false := by rw [standing, Entry.isPresent]
      have refused : ¬(folder.entry path).Writable := by
        rw [standing]
        rintro ⟨⟩
      obtain ⟨cause, failed⟩ := write_text_refused refused defaultText
      rw [← save_default_outcome missing] at failed
      rw [perform, carry_out_outcome failed]
      refine .notCreated _ ?_
      rw [standing]
      rintro ⟨⟩

theorem write_effect (codec : Codec) (folder : Folder) (path : Path) (config : Config) :
    Effect codec folder path (.write config) (folder.perform codec path (.write config)).1
      (folder.perform codec path (.write config)).2 := by
  cases printed : codec.print config.record with
  | ok text =>
      by_cases writable : (folder.entry path).Writable
      · have written := write_text_outcome writable text
        rw [← save_outcome printed] at written
        rw [perform, carry_out_outcome written]
        exact .saved config text writable printed
      · obtain ⟨cause, failed⟩ := write_text_refused writable text
        rw [← save_outcome printed] at failed
        rw [perform, carry_out_outcome failed]
        exact .notWritten config _ writable
  | error reason =>
      rw [perform, carry_out_outcome (save_refused path folder printed)]
      exact .notPrinted config reason printed

theorem perform_effect (codec : Codec) (configures : step.Configures) (folder : Folder)
    (path : Path) :
    Effect codec folder path step (folder.perform codec path step).1
      (folder.perform codec path step).2 := by
  cases configures with
  | load =>
      rw [perform, carry_out_outcome (load_outcome codec path folder)]
      exact .loaded _
  | writeDefault => exact write_default_effect codec folder path
  | write config => exact write_effect codec folder path config
  | validate config => exact .checked config _

theorem load_keeps (effect : Effect codec folder path .load answer after) : after = folder := by
  cases effect
  rfl

theorem check_keeps (effect : Effect codec folder path (.validate config) answer after) :
    after = folder := by
  cases effect
  rfl

theorem failure_keeps (effect : Effect codec folder path step (.failure failure) after) :
    after = folder := by
  cases effect <;> rfl

theorem default_kept (effect : Effect codec folder path .writeDefault answer after)
    (standing : folder.entry path ≠ .absent) : after = folder := by
  cases effect with
  | created missing => exact absurd missing standing
  | _ => rfl

theorem default_created (effect : Effect codec folder path .writeDefault answer after)
    (missing : folder.entry path = .absent) :
    answer = .done ∧ after.entry path = .ofText defaultText := by
  cases effect with
  | created => exact ⟨rfl, entry_written (writable_of_missing missing) _⟩
  | present standing => exact absurd missing standing
  | notCreated _ standing => exact absurd missing standing

theorem save_stands (effect : Effect codec folder path (.write config) .done after) :
    ∃ text, codec.print config.record = .ok text ∧ after.entry path = .ofText text := by
  cases effect with
  | saved _ text writable printed => exact ⟨text, printed, entry_written writable _⟩

theorem default_loads (readsDefault : ReadsDefault codec)
    (standing : folder.entry path = .ofText defaultText) :
    (folder.perform codec path .load).1 = .config .default := by
  have read : read codec path.text defaultText = .ok .default :=
    read_ok (parse_default readsDefault) (by decide)
  rw [perform, carry_out_outcome (load_of_text standing), read]
  rfl

/-- What stands at a path after a call, by what stood there. -/
def Step.leaves (codec : Codec) (entry : Entry) : Step → Entry
  | .writeDefault =>
      match entry with
      | .absent => .ofText Config.defaultText
      | _ => entry
  | .write config =>
      match codec.print config.record with
      | .ok text => if entry.Writable then .ofText text else entry
      | .error _ => entry
  | _ => entry

def afterCalls (codec : Codec) (folder : Folder) (path : Path) (calls : List Step) : Folder :=
  calls.foldl (fun folder step => (folder.perform codec path step).2) folder

theorem leaves_present {entry : Entry} (standing : entry ≠ .absent) :
    Step.leaves codec entry .writeDefault = entry := by
  cases entry with
  | absent => exact absurd rfl standing
  | _ => rfl

theorem effect_entry (effect : Effect codec folder path step answer after) :
    after.entry path = step.leaves codec (folder.entry path) := by
  cases effect with
  | loaded => rfl
  | checked => rfl
  | present standing => rw [leaves_present standing]
  | notCreated _ standing => rw [leaves_present standing]
  | created missing =>
      rw [entry_written (writable_of_missing missing), missing, Step.leaves]
  | saved config text writable printed =>
      simp only [entry_written writable, Step.leaves, printed, if_pos writable]
  | notPrinted config reason refused => simp only [Step.leaves, refused]
  | notWritten config _ refused =>
      rw [Step.leaves]
      cases codec.print config.record with
      | ok text => exact (if_neg refused).symm
      | error reason => rfl

theorem set_entry_locate (writable : (folder.entry path).Writable) (entry : Entry) :
    (folder.setEntry path entry).locate path = folder.locate path := by
  obtain ⟨place, located, _, _, aside⟩ := writable_place writable
  rw [setEntry, located]
  exact locate_set located aside

/-- The way to the file stays, and nothing stands elsewhere that did not before. -/
theorem effect_frame (effect : Effect codec folder path step answer after) :
    after.locate path = folder.locate path ∧
      ∀ place, folder.locate path ≠ .ok place → after.standing place = folder.standing place := by
  cases effect with
  | created missing =>
      exact ⟨set_entry_locate (writable_of_missing missing) _,
        fun _ elsewhere => standing_elsewhere elsewhere⟩
  | saved config text writable printed =>
      exact ⟨set_entry_locate writable _, fun _ elsewhere => standing_elsewhere elsewhere⟩
  | _ => exact ⟨rfl, fun _ _ => rfl⟩

theorem calls_entry (configures : ∀ call ∈ calls, call.Configures) :
    (folder.afterCalls codec path calls).entry path =
      calls.foldl (Step.leaves codec) (folder.entry path) := by
  induction calls generalizing folder with
  | nil => rfl
  | cons call rest ih =>
      rw [List.forall_mem_cons] at configures
      obtain ⟨first, others⟩ := configures
      rw [List.foldl_cons, ← effect_entry (perform_effect codec first folder path)]
      exact ih others

theorem calls_elsewhere (configures : ∀ call ∈ calls, call.Configures)
    (elsewhere : folder.locate path ≠ .ok place) :
    (folder.afterCalls codec path calls).standing place = folder.standing place := by
  induction calls generalizing folder with
  | nil => rfl
  | cons call rest ih =>
      rw [List.forall_mem_cons] at configures
      obtain ⟨first, others⟩ := configures
      obtain ⟨way, kept⟩ := effect_frame (perform_effect codec first folder path)
      rw [← kept place elsewhere]
      refine ih others ?_
      rw [way]
      exact elsewhere

end Folder

open Folder Toml

/-- In any sequence of calls, loading, checking and every call that fails leave the folder as it
was. The default is written only where nothing stands, and there the call succeeds and the
default configuration is loaded afterwards. After a save that succeeds the file is what is
printed for the configuration, whatever was there. Over the whole sequence nothing changes
elsewhere, and what stands at the path in the end is told by what stood there and the calls. -/
theorem configuration_calls_are_atomic (codec : Codec) (readsDefault : Config.ReadsDefault codec)
    (folder : Folder) (path : Path) (calls : List Step)
    (configures : ∀ call ∈ calls, call.Configures) :
    (∀ earlier call later, calls = earlier ++ call :: later →
      let before := folder.afterCalls codec path earlier
      let (answer, after) := before.perform codec path call
      (call = .load → after = before) ∧
      (∀ config, call = .validate config → after = before) ∧
      (∀ failure, answer = .failure failure → after = before) ∧
      (call = .writeDefault → before.entry path ≠ .absent → after = before) ∧
      (call = .writeDefault → before.entry path = .absent →
        answer = .done ∧ (after.perform codec path .load).1 = .config .default) ∧
      (∀ config, call = .write config → answer = .done →
        ∃ text, codec.print config.record = .ok text ∧ after.entry path = .ofText text)) ∧
    (folder.afterCalls codec path calls).entry path =
      calls.foldl (Step.leaves codec) (folder.entry path) ∧
    ∀ place, folder.locate path ≠ .ok place →
      (folder.afterCalls codec path calls).standing place = folder.standing place := by
  refine ⟨fun earlier call later split => ?_, calls_entry configures,
    fun place elsewhere => calls_elsewhere configures elsewhere⟩
  intro before
  have made : call.Configures := configures call (by simp [split])
  have effect := perform_effect codec made before path
  generalize before.perform codec path call = performed at effect
  obtain ⟨answer, after⟩ := performed
  refine ⟨?_, ?_, ?_, ?_, ?_, ?_⟩
  · rintro rfl
    exact load_keeps effect
  · rintro config rfl
    exact check_keeps effect
  · rintro failure rfl
    exact failure_keeps effect
  · rintro rfl standing
    exact default_kept effect standing
  · rintro rfl missing
    obtain ⟨done, standing⟩ := default_created effect missing
    exact ⟨done, default_loads readsDefault standing⟩
  · rintro config rfl rfl
    exact save_stands effect

/-- A save that is refused leaves nothing behind, so that the default is created after it, and
one that is refused then keeps the default. -/
theorem refused_saves_keep_default :
    let larger : Config := ⟨0x8000000000000000, true⟩
    let calls : List Step := [.write larger, .writeDefault, .write larger]
    Config.ReadsDefault .plain ∧ (∀ call ∈ calls, call.Configures) ∧
      ((afterCalls .plain [] .usual [.write larger, .writeDefault]).perform .plain .usual .load).1 =
        .config .default ∧
      (afterCalls .plain [] .usual calls).entry .usual = .ofText Config.defaultText := by
  intro larger calls
  have readsDefault := Config.plain_reads_default
  have configures : ∀ call ∈ calls, call.Configures := by
    simp only [calls, List.forall_mem_cons]
    exact ⟨.write larger, .writeDefault, .write larger, nofun⟩
  obtain ⟨each, stands, _⟩ :=
    configuration_calls_are_atomic .plain readsDefault [] .usual calls configures
  have missing : (afterCalls .plain [] .usual [.write larger]).entry .usual = .absent := by
    obtain ⟨_, early, _⟩ := configuration_calls_are_atomic .plain readsDefault [] .usual
      [.write larger] fun call member => configures call (by simp_all [calls])
    rw [early]
    rfl
  obtain ⟨_, _, _, _, creates, _⟩ := each [.write larger] .writeDefault [.write larger] rfl
  refine ⟨readsDefault, configures, (creates rfl missing).2, ?_⟩
  rw [stands]
  rfl

end ObjectCalculus
