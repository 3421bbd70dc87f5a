import RoverLink.Proofs.Toml.Statement

/-!
# Tables that are read back

A record of scalars and records, whose fields have different names that need no
quotes, is read back from its text with the scalars of every table before its
tables (`read?_write`).  The induction follows the records: the text of each
fills the place of its table in the entries that have been read before it.
-/

namespace RoverLink.Toml

/-! ### What is read -/

/-- Nothing has to be opened for a table that only holds tables. -/
def originOf (fields : List (String × Document)) : Origin :=
  if fields ≠ [] ∧ fields.all fun field => isTable field.2 then .implied else .opened

/-- The entries for the scalars among the fields of a table. -/
def scalarEntries : List (String × Document) → Entries
  | [] => []
  | (name, field) :: rest =>
    if isTable field then scalarEntries rest
    else (name, .leaf (rereadScalar field)) :: scalarEntries rest

mutual

/-- The table that is read for a record. -/
def tableNode : Document → Node
  | .record fields => .table (originOf fields) (scalarEntries fields ++ tableEntries fields)
  | other => .leaf other

/-- The entries for the tables among the fields of a table. -/
def tableEntries : List (String × Document) → Entries
  | [] => []
  | (name, field) :: rest =>
    if isTable field then (name, tableNode field) :: tableEntries rest else tableEntries rest

end

/-- The document that is read for a record. -/
def reread (document : Document) : Document :=
  (tableNode document).toDocument

/-- Whether all records of a document have fields with different names that need no quotes. -/
inductive IsTabular : Document → Prop where
  | scalar {document : Document} (noTable : isTable document = false) : IsTabular document
  | record {fields : List (String × Document)}
      (bare : ∀ field ∈ fields, IsBareName field.1)
      (different : (fields.map Prod.fst).Nodup)
      (each : ∀ field ∈ fields, IsTabular field.2) :
      IsTabular (.record fields)

theorem isTabular_record
    {names : List String}
    {fields : List (String × Document)}
    (same : fields.map Prod.fst = names)
    (bare : names.all isBareName = true)
    (different : names.Nodup)
    (each : ∀ document ∈ fields.map Prod.snd, IsTabular document) :
    IsTabular (.record fields) := by
  subst same
  refine .record ?_ different fun field inside => each field.2 (List.mem_map_of_mem inside)
  intro field inside
  exact isBareName_iff.mp (List.all_eq_true.mp bare field.1 (List.mem_map_of_mem inside))

/-! ### Places -/

namespace Entries

section

variable {entries : Entries} {name : String} (missing : name ∉ entries.map Prod.fst)

include missing

theorem lookup_of_missing : entries.lookup name = none := by
  rw [List.lookup_eq_none_iff]
  intro entry inside
  simp only [bne_iff_ne, ne_eq]
  rintro rfl
  exact missing (List.mem_map_of_mem inside)

theorem lookup_append_singleton (node : Node) :
    (entries ++ [(name, node)]).lookup name = some node := by
  rw [List.lookup_append, lookup_of_missing missing]
  simp

/-- An entry of a new name comes last. -/
theorem put_of_missing (node : Node) : entries.put name node = entries ++ [(name, node)] := by
  induction entries with
  | nil => rfl
  | cons entry rest induction =>
    rcases entry with ⟨other, kept⟩
    simp only [List.map_cons, List.mem_cons, not_or] at missing
    rw [put, if_neg (Ne.symm missing.1), induction missing.2, List.cons_append]

theorem put_append_singleton (old node : Node) :
    (entries ++ [(name, old)]).put name node = entries ++ [(name, node)] := by
  induction entries with
  | nil => simp [put]
  | cons entry rest induction =>
    rcases entry with ⟨other, kept⟩
    simp only [List.map_cons, List.mem_cons, not_or] at missing
    rw [List.cons_append, put, if_neg (Ne.symm missing.1), induction missing.2, List.cons_append]

end

theorem within_append
    (change : Entries → Option Entries)
    (path behind : List String)
    (entries : Entries) :
    within change (path ++ behind) entries = within (within change behind) path entries := by
  induction path generalizing entries with
  | nil => rfl
  | cons name rest induction => simp only [List.cons_append, within, induction]

end Entries

/--
Whether the table at a path has the entries `inner`, or none and is still
missing; with other entries in it, all entries are what `fill` makes of them.
-/
structure IsPlace
    (whole : Entries)
    (path : List String)
    (inner : Entries)
    (fill : Entries → Entries) : Prop where
  now : ∀ change, whole.within change path = (change inner).map fill
  later : ∀ change entries, (fill entries).within change path = (change entries).map fill

theorem isPlace_root (entries : Entries) : IsPlace entries [] entries id where
  now change := by simp [Entries.within]
  later change entries := by simp [Entries.within]

section

variable {whole inner : Entries} {path : List String} {fill : Entries → Entries}
  (place : IsPlace whole path inner fill)

include place

theorem IsPlace.filled (entries : Entries) : IsPlace (fill entries) path entries fill where
  now change := place.later change entries
  later := place.later

variable {name : String} (missing : name ∉ inner.map Prod.fst)

include missing

theorem IsPlace.within_opened
    (origin : Origin)
    (change : Entries → Option Entries)
    (entries : Entries) :
    (fill (inner ++ [(name, .table origin entries)])).within change (path ++ [name]) =
      (change entries).map fun entries => fill (inner ++ [(name, .table origin entries)]) := by
  rw [Entries.within_append, place.later, Entries.within,
    Entries.lookup_append_singleton missing]
  simp [Entries.within, Entries.put_append_singleton missing, Function.comp_def]

/-- A table that was opened is a place without entries. -/
theorem IsPlace.opened (origin : Origin) :
    IsPlace (fill (inner ++ [(name, .table origin [])])) (path ++ [name]) []
      fun entries => fill (inner ++ [(name, .table origin entries)]) where
  now change := place.within_opened missing origin change []
  later := place.within_opened missing origin

/-- A missing table is the place of a table that headers lead through. -/
theorem IsPlace.implied :
    IsPlace whole (path ++ [name]) []
      fun entries => fill (inner ++ [(name, .table .implied entries)]) where
  now change := by
    rw [Entries.within_append, place.now, Entries.within, Entries.lookup_of_missing missing]
    simp [Entries.within, Entries.put_of_missing missing, Function.comp_def]
  later := place.within_opened missing .implied

theorem IsPlace.enter (current : List String) :
    Progress.enter ⟨whole, current⟩ false (path ++ [name]) =
      some ⟨fill (inner ++ [(name, .table .opened [])]), path ++ [name]⟩ := by
  simp [Progress.enter, place.now, Entries.openTable, Entries.lookup_of_missing missing,
    Entries.put_of_missing missing]

theorem IsPlace.assign (value : Document) :
    Progress.assign ⟨whole, path⟩ [name] value =
      some ⟨fill (inner ++ [(name, .leaf value)]), path⟩ := by
  simp [Progress.assign, place.now, Entries.assign, Entries.lookup_of_missing missing,
    Entries.put_of_missing missing]

end

/-! ### Reading tables -/

/-- The text of some lines. -/
def unlines (lines : List (List Char)) : List Char :=
  lines.flatMap fun line => line ++ ['\n']

theorem unlines_append (before after : List (List Char)) :
    unlines (before ++ after) = unlines before ++ unlines after :=
  List.flatMap_append

/-- Other names stay missing. -/
theorem missing_append_singleton
    {entries : Entries}
    {name other : String}
    (missing : name ∉ entries.map Prod.fst)
    (different : name ≠ other)
    (node : Node) :
    name ∉ (entries ++ [(other, node)]).map Prod.fst := by
  rw [List.map_append, List.mem_append, not_or]
  exact ⟨missing, fun same => different (List.mem_singleton.mp same)⟩

theorem ne_of_mem_fields
    {fields : List (String × Document)}
    {field : String × Document}
    (inside : field ∈ fields)
    {name : String}
    (other : name ∉ fields.map Prod.fst) :
    field.1 ≠ name :=
  ne_of_mem_of_not_mem (List.mem_map_of_mem inside) other

/-- The scalars of a table are added to its entries. -/
theorem reads_scalarLines
    {fields : List (String × Document)}
    (bare : ∀ field ∈ fields, IsBareName field.1)
    (different : (fields.map Prod.fst).Nodup)
    {lines : List (List Char)}
    (written : scalarLines? fields = some lines)
    {path : List String}
    {inner : Entries}
    {fill : Entries → Entries}
    (place : IsPlace (fill inner) path inner fill)
    (missing : ∀ field ∈ fields, field.1 ∉ inner.map Prod.fst) :
    Reads (unlines lines) ⟨fill inner, path⟩ ⟨fill (inner ++ scalarEntries fields), path⟩ := by
  induction fields generalizing inner lines with
  | nil =>
    cases written
    rw [scalarEntries, List.append_nil]
    exact .nil _
  | cons field rest induction =>
    rcases field with ⟨name, document⟩
    rcases List.forall_mem_cons.mp bare with ⟨bareName, bareRest⟩
    rcases List.forall_mem_cons.mp missing with ⟨missingName, missingRest⟩
    rcases List.nodup_cons.mp different with ⟨other, differentRest⟩
    rw [scalarLines?] at written
    rw [scalarEntries]
    split at written
    next table =>
      rw [if_pos table]
      exact induction bareRest differentRest written place missingRest
    next scalar =>
      simp only [Option.bind_eq_bind, Option.bind_eq_some_iff, Option.pure_def,
        Option.some.injEq] at written
      rcases written with ⟨value, ofScalar, others, ofRest, rfl⟩
      have assigned := reads_assignment bareName (isValue_of_scalarText? ofScalar)
        (place.assign missingName (rereadScalar document))
      have later := fun field inside => missing_append_singleton (missingRest field inside)
        (ne_of_mem_fields inside other) (.leaf (rereadScalar document))
      have behind := induction bareRest differentRest ofRest (place.filled _) later
      rw [List.append_assoc] at behind
      rw [if_neg scalar]
      exact assigned.append behind

/-- Whether the text of a record is read into the place of its table. -/
def IsReread (document : Document) : Prop :=
  ∀ {whole inner : Entries} {path : List String} {fill : Entries → Entries} {name : String}
    {lines : List (List Char)} (current : List String),
    IsPlace whole path inner fill →
    name ∉ inner.map Prod.fst →
    (∀ part ∈ path ++ [name], IsBareName part) →
    path.length + document.depth ≤ 79 →
    tableLines? (path ++ [name]) document = some lines →
    ∃ last, Reads (unlines lines) ⟨whole, current⟩
      ⟨fill (inner ++ [(name, tableNode document)]), last⟩

theorem fill_append (fill : Entries → Entries) (inner tables : Entries) :
    (if tables = [] then fill inner else fill (inner ++ tables)) = fill (inner ++ tables) := by
  split
  next none => rw [none, List.append_nil]
  next => rfl

/-- The tables of a table are added to its entries. -/
theorem reads_innerLines
    {fields : List (String × Document)}
    (each : ∀ field ∈ fields, isTable field.2 = true → IsReread field.2)
    (bare : ∀ field ∈ fields, IsBareName field.1)
    (different : (fields.map Prod.fst).Nodup)
    {path : List String}
    (barePath : ∀ part ∈ path, IsBareName part)
    (short : path.length + Document.depthOfFields fields ≤ 79)
    {lines : List (List Char)}
    (written : innerLines? path fields = some lines)
    {whole inner : Entries}
    {fill : Entries → Entries}
    (place : IsPlace whole path inner fill)
    (missing : ∀ field ∈ fields, isTable field.2 = true → field.1 ∉ inner.map Prod.fst)
    (current : List String) :
    ∃ last, Reads (unlines lines) ⟨whole, current⟩
      ⟨if tableEntries fields = [] then whole else fill (inner ++ tableEntries fields), last⟩ := by
  induction fields generalizing whole inner lines current with
  | nil =>
    cases written
    exact ⟨current, .nil _⟩
  | cons field rest induction =>
    rcases field with ⟨name, document⟩
    rcases List.forall_mem_cons.mp each with ⟨first, others⟩
    rcases List.forall_mem_cons.mp bare with ⟨bareName, bareRest⟩
    rcases List.forall_mem_cons.mp missing with ⟨missingName, missingRest⟩
    rcases List.nodup_cons.mp different with ⟨other, differentRest⟩
    simp only [innerLines?, Option.bind_eq_bind, Option.bind_eq_some_iff, Option.pure_def,
      Option.some.injEq] at written
    rcases written with ⟨table, ofTable, behind, ofRest, rfl⟩
    have deep : max document.depth (Document.depthOfFields rest) ≤ 79 - path.length :=
      Nat.le_sub_of_add_le' short
    rcases Nat.max_le.mp deep with ⟨deepFirst, deepRest⟩
    rw [unlines_append, tableEntries]
    by_cases isTable : Toml.isTable document = true
    · rw [if_pos isTable, if_neg (List.cons_ne_nil _ _)]
      have bareParts : ∀ part ∈ path ++ [name], IsBareName part := by
        simp only [List.mem_append, List.mem_singleton]
        rintro part (inside | rfl)
        · exact barePath part inside
        · exact bareName
      rcases first isTable current place (missingName isTable) bareParts (by simp only; omega)
        ofTable with ⟨between, readsFirst⟩
      have later := fun field inside table => missing_append_singleton
        (missingRest field inside table) (ne_of_mem_fields inside other) (tableNode document)
      rcases induction others bareRest differentRest (by omega) ofRest (place.filled _) later
        between with ⟨last, readsRest⟩
      rw [fill_append, List.append_assoc] at readsRest
      exact ⟨last, readsFirst.append readsRest⟩
    · have nothing : tableLines? (path ++ [name]) document = some [] := by
        cases document <;> first | rfl | exact (isTable rfl).elim
      rw [if_neg isTable]
      rw [nothing] at ofTable
      cases ofTable
      exact induction others bareRest differentRest (by omega) ofRest place missingRest current

theorem scalarLines?_of_isTable
    {fields : List (String × Document)}
    (tables : fields.all (fun field => isTable field.2) = true) :
    scalarLines? fields = some [] ∧ scalarEntries fields = [] := by
  induction fields with
  | nil => exact ⟨rfl, rfl⟩
  | cons field rest induction =>
    rcases Bool.and_eq_true_iff.mp tables with ⟨first, others⟩
    simp only at first
    rw [scalarLines?, scalarEntries, if_pos first, if_pos first]
    exact induction others

theorem tableEntries_ne_nil
    {fields : List (String × Document)}
    (nonempty : fields ≠ [])
    (tables : fields.all (fun field => isTable field.2) = true) :
    tableEntries fields ≠ [] := by
  cases fields with
  | nil => exact (nonempty rfl).elim
  | cons field rest =>
    rcases Bool.and_eq_true_iff.mp tables with ⟨first, _⟩
    simp only at first
    rw [tableEntries, if_pos first]
    exact List.cons_ne_nil _ _

theorem exists_of_mem_scalarEntries
    {fields : List (String × Document)}
    {entry : String × Node}
    (inside : entry ∈ scalarEntries fields) :
    ∃ field ∈ fields, isTable field.2 = false ∧ field.1 = entry.1 := by
  induction fields with
  | nil => cases inside
  | cons field rest induction =>
    rcases field with ⟨name, document⟩
    rw [scalarEntries] at inside
    split at inside
    next => exact (induction inside).imp fun _ found => ⟨List.mem_cons_of_mem _ found.1, found.2⟩
    next scalar =>
      rcases List.mem_cons.mp inside with rfl | behind
      · exact ⟨(name, document), List.mem_cons_self, by simpa using scalar, rfl⟩
      · exact (induction behind).imp fun _ found => ⟨List.mem_cons_of_mem _ found.1, found.2⟩

/-- No table has the name of a scalar. -/
theorem missing_scalarEntries
    {fields : List (String × Document)}
    (different : (fields.map Prod.fst).Nodup)
    {field : String × Document}
    (inside : field ∈ fields)
    (table : isTable field.2 = true) :
    field.1 ∉ (scalarEntries fields).map Prod.fst := by
  intro present
  rcases List.mem_map.mp present with ⟨entry, member, same⟩
  rcases exists_of_mem_scalarEntries member with ⟨other, insideOther, scalar, sameName⟩
  have equal := List.inj_on_of_nodup_map different inside insideOther
    (same.symm.trans sameName.symm)
  simp [equal, scalar] at table

/-- The scalars and then the tables of a table are read into its place. -/
theorem reads_fields
    {fields : List (String × Document)}
    (each : ∀ field ∈ fields, isTable field.2 = true → IsReread field.2)
    (bare : ∀ field ∈ fields, IsBareName field.1)
    (different : (fields.map Prod.fst).Nodup)
    {path : List String}
    (barePath : ∀ part ∈ path, IsBareName part)
    (short : path.length + Document.depthOfFields fields ≤ 79)
    {scalars tables : List (List Char)}
    (ofScalars : scalarLines? fields = some scalars)
    (ofTables : innerLines? path fields = some tables)
    (fill : Entries → Entries)
    (place : IsPlace (fill []) path [] fill) :
    ∃ last, Reads (unlines (scalars ++ tables)) ⟨fill [], path⟩
      ⟨fill (scalarEntries fields ++ tableEntries fields), last⟩ := by
  have added := reads_scalarLines bare different ofScalars place fun _ _ => List.not_mem_nil
  rcases reads_innerLines each bare different barePath short ofTables (place.filled _)
    (fun _ => missing_scalarEntries different) path with ⟨last, behind⟩
  rw [fill_append] at behind
  rw [unlines_append]
  exact ⟨last, added.append behind⟩

theorem isReread_of_isTabular
    {document : Document}
    (tabular : IsTabular document)
    (table : isTable document = true) :
    IsReread document := by
  induction tabular with
  | scalar noTable => simp [table] at noTable
  | @record fields bare different _ induction =>
    intro whole inner path fill name lines current place missing bareParts short written
    simp only [tableLines?, Option.bind_eq_bind, Option.bind_eq_some_iff, Option.pure_def,
      Option.some.injEq] at written
    rcases written with ⟨scalars, ofScalars, tables, ofTables, rfl⟩
    have deep : (path ++ [name]).length + Document.depthOfFields fields ≤ 79 := by
      rw [Document.depth] at short
      rw [List.length_append, List.length_singleton]
      omega
    rw [tableNode, originOf, headerLines]
    by_cases implied : fields ≠ [] ∧ fields.all fun field => isTable field.2
    · rcases scalarLines?_of_isTable implied.2 with ⟨noLines, noEntries⟩
      rw [noLines] at ofScalars
      cases ofScalars
      rcases reads_innerLines induction bare different bareParts deep ofTables
        (place.implied missing) (fun _ _ _ => List.not_mem_nil) current with ⟨last, reads⟩
      rw [if_neg (tableEntries_ne_nil implied.1 implied.2)] at reads
      rw [if_pos (.inr implied), if_pos implied, noEntries]
      exact ⟨last, reads⟩
    · have opens := reads_header bareParts (by simp)
        (Nat.le_trans (Nat.le_add_right _ _) deep) (place.enter missing current)
      rcases reads_fields induction bare different bareParts deep ofScalars ofTables
        (fun entries => fill (inner ++ [(name, .table .opened entries)]))
        (place.opened missing .opened) with ⟨last, behind⟩
      have layout : unlines [[], header (path ++ [name])] =
          '\n' :: (header (path ++ [name]) ++ ['\n']) := by
        simp [unlines]
      rw [if_neg (by simpa using implied), if_neg implied, List.append_assoc, unlines_append,
        ← header, layout]
      exact ⟨last, opens.of_lineEnd.append behind⟩

/-- A record that is written is read back. -/
theorem read?_write
    {document : Document}
    (table : isTable document = true)
    (tabular : IsTabular document)
    (shallow : document.depth ≤ 80)
    {written : List Char}
    (writes : write document = .ok written) :
    read? written = some (reread document) := by
  cases tabular with
  | scalar noTable => simp [table] at noTable
  | @record fields bare different each =>
    rw [write] at writes
    split at writes
    next => cases writes
    next lines ofLines =>
      split at writes
      next =>
        simp only [tableLines?, Option.bind_eq_bind, Option.bind_eq_some_iff, Option.pure_def,
          Option.some.injEq] at ofLines
        rcases ofLines with ⟨scalars, ofScalars, tables, ofTables, rfl⟩
        rw [Document.depth] at shallow
        have reads := reads_fields (fun field inside => isReread_of_isTabular (each field inside))
          bare different (by simp) (by rw [List.length_nil]; omega) ofScalars ofTables id
          (isPlace_root [])
        rcases reads with ⟨last, reads⟩
        have noHeader : headerLines [] fields = [] := if_pos (.inl rfl)
        rw [noHeader, List.nil_append] at writes
        cases writes
        simp only [id] at reads
        rw [reread, tableNode, Node.toDocument]
        -- An empty line before the first header is not written.
        split
        next rest lines => 
          rw [lines] at reads
          exact read?_of_reads reads
        next => exact read?_of_reads reads.of_lineEnd
      next => cases writes

end RoverLink.Toml
