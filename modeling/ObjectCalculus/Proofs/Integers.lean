import ObjectCalculus.Proofs.Documents

/-!
# Integers of documents

An integer that stands under a key of a document has been read as a scalar, whatever else the
document holds, and so it fits a signed 64-bit word.
-/

set_option autoImplicit false

namespace ObjectCalculus.Toml

/-- An integer fits a signed word; of other nodes nothing is asked. -/
def Node.Fits : Node → Prop
  | .integer number => FitsWord number
  | _ => True

def Table.Fits (table : Table) : Prop :=
  ∀ entry ∈ table, entry.2.Fits

variable {text rest : List Char} {number : Int} {node : Node} {key : String}
  {table after : Table} {progress following : Progress}

theorem based_fits {base : Nat} {isDigit : Char → Bool}
    (read : based? base isDigit text = some number) : (Node.integer number).Fits := by
  unfold based? at read
  split at read
  · obtain ⟨fits, rfl⟩ := in_range_iff.mp read
    exact fits
  · cases read

theorem decimal_fits (read : decimal? text = some number) : (Node.integer number).Fits := by
  unfold decimal? at read
  dsimp only at read
  split at read
  · obtain ⟨fits, rfl⟩ := in_range_iff.mp read
    exact fits
  · cases read

theorem integer_fits (read : integer? text = some number) : (Node.integer number).Fits := by
  unfold integer? at read
  split at read
  · exact based_fits read
  · exact based_fits read
  · exact based_fits read
  · exact decimal_fits read

theorem scalar_fits (read : scalar? text = some node) : node.Fits := by
  unfold scalar? at read
  split at read
  · cases read
    trivial
  split at read
  · cases read
    trivial
  cases found : integer? text with
  | some number =>
      rw [found] at read
      cases read
      exact integer_fits found
  | none =>
      rw [found] at read
      dsimp only at read
      split at read
      · cases read
        trivial
      split at read
      · cases read
        trivial
      · cases read

theorem read_scalar_fits (read : readScalar text = some (node, rest)) : node.Fits := by
  have single {left : List Char} (read : (scalar? (text.takeWhile isScalarChar)).map
      (fun node => (node, left)) = some (node, rest)) : node.Fits := by
    obtain ⟨_, found, same⟩ := Option.map_eq_some_iff.mp read
    cases same
    exact scalar_fits found
  unfold readScalar at read
  dsimp only at read
  split at read
  · split at read
    · split at read
      · cases read
        trivial
      · cases read
    · exact single read
  · exact single read

theorem string_fits {reading : Reading} (read : stringOf reading = some (node, rest)) :
    node.Fits := by
  obtain ⟨_, _, same⟩ := Option.map_eq_some_iff.mp read
  cases same
  trivial

/-- Whatever is not read as a scalar is no integer. -/
theorem read_value_fits {levels : Nat} (read : readValue levels text = some (node, rest)) :
    node.Fits := by
  unfold readValue at read
  split at read
  · exact string_fits read
  · exact string_fits read
  · exact string_fits read
  · exact string_fits read
  · obtain ⟨_, _, same⟩ := Option.bind_eq_some_iff.mp read
    cases same
    trivial
  · unfold readInlineTable at read
    split at read
    · cases read
      trivial
    · obtain ⟨_, _, made⟩ := Option.bind_eq_some_iff.mp read
      obtain ⟨_, _, same⟩ := Option.bind_eq_some_iff.mp made
      cases same
      trivial
  · exact read_scalar_fits read

theorem read_pair_fits {levels : Nat} {path : List String}
    (read : readPair (readValue levels) text = some ((path, key, node), rest)) : node.Fits := by
  obtain ⟨_, _, keyed⟩ := Option.bind_eq_some_iff.mp read
  dsimp only at keyed
  split at keyed
  · obtain ⟨_, valued, same⟩ := Option.bind_eq_some_iff.mp keyed
    cases same
    exact read_value_fits valued
  · cases keyed

theorem update_fits {change : Option Node → Option Node}
    (made : ∀ found node, change found = some node → node.Fits) (fits : table.Fits)
    (updated : Table.update key change table = some after) : after.Fits := by
  induction table generalizing after with
  | nil =>
      obtain ⟨node, changed, rfl⟩ := Option.map_eq_some_iff.mp updated
      exact List.forall_mem_singleton.mpr (made none node changed)
  | cons first others ih =>
      obtain ⟨other, found⟩ := first
      obtain ⟨here, later⟩ := List.forall_mem_cons.mp fits
      rw [Table.update] at updated
      split at updated
      · obtain ⟨node, changed, rfl⟩ := Option.map_eq_some_iff.mp updated
        exact List.forall_mem_cons.mpr ⟨made (some found) node changed, later⟩
      · obtain ⟨rest, changed, rfl⟩ := Option.map_eq_some_iff.mp updated
        exact List.forall_mem_cons.mpr ⟨here, ih later changed⟩

/-- On the way to the table that is edited there are only tables. -/
theorem descend_fits {route origin : TableOrigin} {path : List String}
    {edit : TableOrigin → Table → Option Table}
    (keeps : ∀ origin table after, Table.Fits table → edit origin table = some after → after.Fits)
    (fits : table.Fits) (done : Table.descend route edit path origin table = some after) :
    after.Fits := by
  cases path with
  | nil => exact keeps origin table after fits done
  | cons key path =>
      apply update_fits _ fits done
      intro found node made
      split at made
      · obtain ⟨_, _, rfl⟩ := Option.map_eq_some_iff.mp made
        trivial
      · split at made
        · cases made
        split at made
        · cases made
        obtain ⟨_, _, rfl⟩ := Option.map_eq_some_iff.mp made
        trivial
      · obtain ⟨_, _, rfl⟩ := Option.map_eq_some_iff.mp made
        trivial
      · cases made

theorem insert_pair_fits {path : List String} (value : node.Fits) (fits : table.Fits)
    (done : Table.insertPair path key node table = some after) : after.Fits := by
  apply descend_fits _ fits done
  intro origin table after fits edited
  split at edited
  · cases edited
  · apply update_fits _ fits edited
    intro found other made
    split at made
    · cases made
      exact value
    · cases made

theorem insert_under_fits {current path : List String} (value : node.Fits) (fits : table.Fits)
    (done : Table.insertUnder current path key node table = some after) : after.Fits :=
  descend_fits (fun _ _ _ fits edited => insert_pair_fits value fits edited) fits done

theorem opened_fits {path : List String} {change : Option Node → Option Node}
    (made : ∀ found node, change found = some node → node.Fits) (fits : table.Fits)
    (done : Table.descend .implied (fun _ entries => Table.update key change entries) path .header
      table = some after) : after.Fits :=
  descend_fits (fun _ _ _ fits edited => update_fits made fits edited) fits done

theorem open_table_fits {path : List String} (fits : table.Fits)
    (done : Table.openTable path key table = some after) : after.Fits := by
  apply opened_fits _ fits done
  intro found other made
  split at made
  · cases made
    trivial
  · cases made
    trivial
  · cases made

theorem open_element_fits {path : List String} (fits : table.Fits)
    (done : Table.openElement path key table = some after) : after.Fits := by
  apply opened_fits _ fits done
  intro found other made
  split at made
  · cases made
    trivial
  · cases made
    trivial
  · cases made

theorem read_header_fits {close : List Char}
    {openUnder : List String → String → Table → Option Table}
    (keeps : ∀ {path key after}, openUnder path key progress.table = some after → after.Fits)
    (read : readHeader text close openUnder progress = some (following, rest)) :
    following.table.Fits := by
  obtain ⟨_, _, keyed⟩ := Option.bind_eq_some_iff.mp read
  obtain ⟨_, _, closed⟩ := Option.bind_eq_some_iff.mp keyed
  obtain ⟨_, _, ended⟩ := Option.bind_eq_some_iff.mp closed
  obtain ⟨_, opened, same⟩ := Option.bind_eq_some_iff.mp ended
  cases same
  exact keeps opened

theorem read_statement_fits (fits : progress.table.Fits)
    (read : readStatement progress text = some (following, rest)) : following.table.Fits := by
  unfold readStatement at read
  split at read
  · exact read_header_fits (open_element_fits fits) read
  · exact read_header_fits (open_table_fits fits) read
  · obtain ⟨_, _, same⟩ := Option.map_eq_some_iff.mp read
    cases same
    exact fits
  · cases read
    exact fits
  · cases read
    exact fits
  · obtain ⟨⟨⟨path, key, node⟩, left⟩, paired, lined⟩ := Option.bind_eq_some_iff.mp read
    obtain ⟨_, _, ended⟩ := Option.bind_eq_some_iff.mp lined
    obtain ⟨_, inserted, same⟩ := Option.bind_eq_some_iff.mp ended
    cases same
    exact insert_under_fits (read_pair_fits paired) fits inserted

theorem read_statements_fits {fuel : Nat} (fits : progress.table.Fits)
    (read : readStatements fuel progress text = some after) : after.Fits := by
  induction fuel generalizing progress text with
  | zero =>
      rw [readStatements, Option.ite_none_right_eq_some] at read
      cases read.2
      exact fits
  | succ fuel ih =>
      rw [readStatements] at read
      split at read
      · cases read
        exact fits
      · obtain ⟨⟨following, rest⟩, statement, others⟩ := Option.bind_eq_some_iff.mp read
        exact ih (read_statement_fits fits statement) others

theorem document_fits {content : String} (read : document? content = some table) : table.Fits := by
  have start : (Progress.mk [] []).table.Fits := nofun
  exact read_statements_fits start read

end ObjectCalculus.Toml
