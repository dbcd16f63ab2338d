import ObjectCalculus.Proofs.Folders
import ObjectCalculus.Proofs.Printing

/-!
# Saving

A lawful codec prints a configuration if its limit fits a signed word, and the configuration is
told again by the text. Whatever text is accepted tells a limit that can be saved, because the
integers of a document are words, and so an accepted file can always be saved over.
-/

set_option autoImplicit false

namespace ObjectCalculus.Config

open Toml Folder

variable {codec : Codec} {config : Config} {content path : String} {table : Table}

theorem keys_differ : depthKey ≠ traceKey := by
  decide

theorem record_plain (config : Config) : config.record.Plain where
  present := by simp [record, depthKey, traceKey]
  bare := by
    have depth : ∀ character ∈ depthKey.toList, isKeyChar character = true :=
      List.all_eq_true.mp (by decide)
    have trace : ∀ character ∈ traceKey.toList, isKeyChar character = true :=
      List.all_eq_true.mp (by decide)
    simpa [record] using ⟨depth, trace⟩
  distinct := by simpa [record] using keys_differ

theorem record_fits_iff : config.record.Fits ↔ config.limit < 2 ^ 63 := by
  rw [limit, ← unsigned_fits_iff, Record.Fits, record, List.forall_mem_cons,
    List.forall_mem_singleton]
  exact and_iff_left trivial

theorem printed_if_fits (lawful : codec.Lawful) (fits : config.limit < 2 ^ 63) :
    ∃ content, codec.print config.record = .ok content :=
  lawful.prints_fitting config.record_plain (record_fits_iff.mpr fits)

theorem refused_if_large (lawful : codec.Lawful) (large : 2 ^ 63 ≤ config.limit) :
    ∃ reason, codec.print config.record = .error reason :=
  lawful.refuses_others fun fits => Nat.not_lt.mpr large (record_fits_iff.mp fits)

theorem of_table_entries (depth : table.lookup depthKey = some (.integer config.limit))
    (trace : table.lookup traceKey = some (.boolean config.traceDataization)) :
    ofTable table = some config := by
  have told : depthOf (some (.integer config.limit)) = some config.maxDepth := by
    simp [depthOf, limit]
  simp only [ofTable, depth, trace, told, traceOf, Option.bind_eq_bind, Option.bind_some]

theorem parse_ok_iff : parse codec path content = .ok config ↔
    ∃ table, codec.read content = .ok table ∧ ofTable table = some config := by
  cases read : codec.read content with
  | error reason => simp [parse, read]
  | ok table => cases told : ofTable table <;> simp [parse, read, told]

theorem parse_printed (lawful : codec.Lawful) (printed : codec.print config.record = .ok content) :
    parse codec path content = .ok config := by
  obtain ⟨table, document, entries⟩ := lawful.reads_printed config.record_plain printed
  refine parse_ok_iff.mpr ⟨table, document, of_table_entries ?_ ?_⟩
  · exact (entries depthKey).trans List.lookup_cons_self
  · rw [entries, record, Record.table, List.map_cons, List.lookup_cons,
      beq_false_of_ne keys_differ.symm]
    exact List.lookup_cons_self

theorem parse_default (readsDefault : ReadsDefault codec) :
    parse codec path defaultText = .ok .default := by
  obtain ⟨table, document, depth, trace⟩ := readsDefault
  exact parse_ok_iff.mpr ⟨table, document, of_table_entries depth trace⟩

theorem depth_fits {limit : UInt64} (lawful : codec.Lawful) (read : codec.read content = .ok table)
    (told : depthOf (table.lookup depthKey) = some limit) : limit.toNat < 2 ^ 63 := by
  cases found : table.lookup depthKey with
  | none =>
      rw [found] at told
      cases told
      decide
  | some node =>
      rw [found] at told
      cases node with
      | integer number =>
          obtain ⟨_, below⟩ := fits_word_iff.mp (lawful.reads_words read found)
          rw [depthOf, Option.ite_none_right_eq_some] at told
          obtain ⟨positive, same⟩ := told
          rw [← Option.some.inj same, UInt64.toNat_ofNat']
          omega
      | _ => cases told

theorem parse_fits (lawful : codec.Lawful) (parsed : parse codec path content = .ok config) :
    config.limit < 2 ^ 63 := by
  obtain ⟨table, document, told⟩ := parse_ok_iff.mp parsed
  obtain ⟨depth, limited, traced⟩ := Option.bind_eq_some_iff.mp told
  obtain ⟨_, _, same⟩ := Option.bind_eq_some_iff.mp traced
  cases same
  exact depth_fits lawful document limited

theorem read_parsed (parsed : parse codec path content = .ok config) :
    read codec path content = config.validate >>= fun _ => .ok config := by
  rw [read, parsed]
  rfl

theorem read_ok (parsed : parse codec path content = .ok config) (positive : 1 ≤ config.limit) :
    read codec path content = .ok config := by
  rw [read_parsed parsed, validate, if_neg (Nat.ne_zero_of_lt positive)]
  rfl

theorem read_invalid (parsed : parse codec path content = .ok config) (zero : config.limit = 0) :
    ∃ reason, read codec path content = .error (.invalid reason) := by
  rw [read_parsed parsed, validate, if_pos zero]
  exact ⟨_, rfl⟩

/-- What is accepted is what the text tells, and has passed the check. -/
theorem parse_of_accepted (accepted : read codec path content = .ok config) :
    parse codec path content = .ok config ∧ 1 ≤ config.limit := by
  cases parsed : parse codec path content with
  | error failure =>
      rw [read, parsed] at accepted
      cases accepted
  | ok found =>
      rcases Nat.eq_zero_or_pos found.limit with zero | positive
      · obtain ⟨reason, refused⟩ := read_invalid parsed zero
        rw [refused] at accepted
        cases accepted
      · rw [read_ok parsed positive] at accepted
        cases accepted
        exact ⟨rfl, positive⟩

variable {folder : Folder} {file : Path}

theorem save_written (writable : (folder.entry file).Writable)
    (printed : codec.print config.record = .ok content) :
    ∃ after, (config.save codec file).outcome folder = (.ok (), after) ∧
      (load codec file).outcome after = (read codec file.text content, after) := by
  refine ⟨folder.setEntry file (.ofText content), ?_, ?_⟩
  · rw [save_outcome printed, write_text_outcome writable]
  · exact load_of_text (entry_written writable _)

theorem loaded_from_file (loaded : ((load codec file).outcome folder).1 = .ok config) :
    (folder.entry file).Writable ∧ ∃ content, read codec file.text content = .ok config := by
  rw [load_outcome] at loaded
  cases standing : folder.entry file with
  | file bytes =>
      rw [standing] at loaded
      cases decoded : String.fromUTF8? bytes with
      | none =>
          simp only [Entry.readText, decoded] at loaded
          cases loaded
      | some content =>
          simp only [Entry.readText, decoded] at loaded
          exact ⟨.file bytes, content, loaded⟩
  | _ =>
      rw [standing] at loaded
      cases loaded

end ObjectCalculus.Config

namespace ObjectCalculus

open Config Toml

/-- Whatever lawful codec is used, a configuration that is saved where a file can be written is
loaded again exactly, if its limit is at least one and fits a signed 64-bit word. A limit of zero
is saved and refused when it is loaded, and one that does not fit is refused when it is saved,
with the folder as it was. Conversely the limit of a configuration that has been loaded is at
least one and fits, and saving the configuration over its file does not fail and does not change
what is loaded. -/
theorem configurations_survive_saving (codec : Codec) (lawful : codec.Lawful) (folder : Folder)
    (path : Path) :
    ((folder.entry path).Writable → ∀ config : Config,
      let (result, after) := (config.save codec path).outcome folder
      (1 ≤ config.limit → config.limit < 2 ^ 63 →
        result = .ok () ∧ (load codec path).outcome after = (.ok config, after)) ∧
      (config.limit = 0 → result = .ok () ∧
        ∃ reason, ((load codec path).outcome after).1 = .error (.invalid reason)) ∧
      (2 ^ 63 ≤ config.limit →
        (∃ reason, result = .error (.serialize reason)) ∧ after = folder)) ∧
    ∀ config, ((load codec path).outcome folder).1 = .ok config →
      1 ≤ config.limit ∧ config.limit < 2 ^ 63 ∧
      let (result, after) := (config.save codec path).outcome folder
      result = .ok () ∧ (load codec path).outcome after = (.ok config, after) := by
  refine ⟨fun writable config => ?_, fun config loaded => ?_⟩
  · rcases Nat.lt_or_ge config.limit (2 ^ 63) with fits | large
    · obtain ⟨content, printed⟩ := printed_if_fits lawful fits
      obtain ⟨after, saved, loads⟩ := save_written writable printed
      have parsed : parse codec path.text content = .ok config := parse_printed lawful printed
      rw [saved]
      refine ⟨fun positive _ => ⟨rfl, ?_⟩, fun zero => ⟨rfl, ?_⟩, fun large => ?_⟩
      · rw [loads, read_ok parsed positive]
      · rw [loads]
        exact read_invalid parsed zero
      · exact absurd fits (Nat.not_lt.mpr large)
    · obtain ⟨reason, refused⟩ := refused_if_large lawful large
      rw [save_refused path folder refused]
      refine ⟨fun _ fits => ?_, fun zero => ?_, fun _ => ⟨⟨reason, rfl⟩, rfl⟩⟩
      · exact absurd large (Nat.not_le.mpr fits)
      · rw [zero] at large
        exact absurd large (by decide)
  · obtain ⟨writable, text, accepted⟩ := loaded_from_file loaded
    obtain ⟨told, positive⟩ := parse_of_accepted accepted
    have fits := parse_fits lawful told
    obtain ⟨content, printed⟩ := printed_if_fits lawful fits
    obtain ⟨after, saved, loads⟩ := save_written writable printed
    rw [saved]
    refine ⟨positive, fits, rfl, ?_⟩
    rw [loads, read_ok (parse_printed lawful printed) positive]

def Path.usual : Path where
  text := fileName
  start := []
  names := [fileName]
  endsInSlash := false

def Folder.garbled : Folder :=
  [([fileName], .file ⟨#[0xff]⟩)]

/-- The file, which is no text, is written over with the greatest limit that can be saved, and
then once more with what is loaded. One more than that limit is refused. -/
theorem greatest_limit_survives :
    let greatest : Config := ⟨0x7fffffffffffffff, true⟩
    let larger : Config := ⟨0x8000000000000000, true⟩
    let after := ((greatest.save .plain .usual).outcome .garbled).2
    Codec.plain.Lawful ∧ (Folder.garbled.entry .usual).Writable ∧
      1 ≤ greatest.limit ∧ greatest.limit < 2 ^ 63 ∧ 2 ^ 63 ≤ larger.limit ∧
      ((larger.save .plain .usual).outcome .garbled).2 = .garbled ∧
      ((load .plain .usual).outcome after).1 = .ok greatest ∧
      ((load .plain .usual).outcome ((greatest.save .plain .usual).outcome after).2).1 =
        .ok greatest := by
  intro greatest larger after
  have writable : (Folder.garbled.entry .usual).Writable := by decide
  have positive : 1 ≤ greatest.limit := by decide
  have fits : greatest.limit < 2 ^ 63 := by decide
  have large : 2 ^ 63 ≤ larger.limit := by decide
  obtain ⟨saves, _⟩ := configurations_survive_saving .plain plain_lawful .garbled .usual
  obtain ⟨_, loaded⟩ := (saves writable greatest).1 positive fits
  obtain ⟨_, kept⟩ := (saves writable larger).2.2 large
  have first : ((load .plain .usual).outcome after).1 = .ok greatest := congrArg Prod.fst loaded
  obtain ⟨_, again⟩ := configurations_survive_saving .plain plain_lawful after .usual
  obtain ⟨_, _, _, reloaded⟩ := again greatest first
  exact ⟨plain_lawful, writable, positive, fits, large, kept, first, congrArg Prod.fst reloaded⟩

end ObjectCalculus
