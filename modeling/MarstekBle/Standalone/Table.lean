/- module: Standalone/Table
   source: standalone_test/marstek_basic_info.py
   digest: The summary that `run` prints of the devices it has read. -/

import MarstekBle.Lib.Columns
import MarstekBle.Standalone.Summary

set_option autoImplicit false
set_option relaxedAutoImplicit false

namespace MarstekBle.Standalone

open MarstekBle.Data MarstekBle.Lib.Dictionary MarstekBle.Lib.GuardedRun
open MarstekBle.Lib.AttributeTree MarstekBle.Lib.Columns

/-! ### `render_summary_table` -/

section Rendering

variable (printer : Printer) (deviceLabels : List Text) (perDeviceData : List (Text × Metric))

/-- `flattened[label]`. -/
def flattened (label : Text) : List (Text × Text) :=
  flattenMetrics printer ((perDeviceData.lookup label).getD (.dict []))

def rowKeys : List Text := firstsFrom [] (deviceLabels.flatMap fun label =>
  (flattened printer perDeviceData label).map Prod.fst)

def tableHeader : List Text := "Metric".toList :: deviceLabels

def tableRow (key : Text) : List Text :=
  key :: deviceLabels.map fun label =>
    ((flattened printer perDeviceData label).lookup key).getD []

def columnWidths (header : List Text) (rows : List (List Text)) : List Nat :=
  rows.foldl (fun widths row => widths.zipWith max (row.map List.length))
    (header.map List.length)

def fmtRow (widths : List Nat) (values : List Text) : Text :=
  (" | ".toList).intercalate (widths.zipWith (fun width value => ljust width ' ' value) values)

def tableSeparator (widths : List Nat) : Text :=
  ("-+-".toList).intercalate (widths.map fun width => List.replicate width '-')

def tableRows : List (List Text) :=
  (rowKeys printer deviceLabels perDeviceData).map (tableRow printer deviceLabels perDeviceData)

def tableWidths : List Nat :=
  columnWidths (tableHeader deviceLabels) (tableRows printer deviceLabels perDeviceData)

def tableLines : List Text :=
  let widths := tableWidths printer deviceLabels perDeviceData
  fmtRow widths (tableHeader deviceLabels) :: tableSeparator widths ::
    (tableRows printer deviceLabels perDeviceData).map (fmtRow widths)

def renderSummaryTable : Text :=
  if rowKeys printer deviceLabels perDeviceData = [] then "No data collected.".toList
  else ("\n".toList).intercalate (tableLines printer deviceLabels perDeviceData)

end Rendering

/-! ### Widths -/

/-- Every cell is at most as wide as its column. -/
def Fits (row : List Text) (widths : List Nat) : Prop :=
  List.Forall₂ (fun cell width => cell.length ≤ width) row widths

theorem fits_own (row : List Text) : Fits row (row.map List.length) := by
  induction row with
  | nil => exact .nil
  | cons cell row ih => exact .cons (Nat.le_refl _) ih

theorem fits_max {row : List Text} {widths more : List Nat} (fits : Fits row widths)
    (same : more.length = widths.length) : Fits row (widths.zipWith max more) := by
  induction fits generalizing more with
  | nil => exact .nil
  | @cons cell width row widths here rest ih =>
    cases more with
    | nil => cases same
    | cons other more =>
      exact .cons (Nat.le_trans here (Nat.le_max_left _ _)) (ih (Nat.succ.inj same))

theorem fits_new (row : List Text) {widths : List Nat} (same : row.length = widths.length) :
    Fits row (widths.zipWith max (row.map List.length)) := by
  have width : widths.length = (row.map List.length).length := by rw [List.length_map, same]
  have symm : widths.zipWith max (row.map List.length) =
      (row.map List.length).zipWith max widths := List.zipWith_comm_of_comm Nat.max_comm
  rw [symm]
  exact fits_max (fits_own row) width

/-- A table whose rows are as long as its header. -/
theorem fits_columnWidths {header : List Text} {rows : List (List Text)}
    (even : ∀ row ∈ rows, row.length = header.length) :
    (columnWidths header rows).length = header.length ∧
      ∀ row ∈ header :: rows, Fits row (columnWidths header rows) := by
  induction rows using List.reverseRecOn with
  | nil =>
    refine ⟨List.length_map .., fun row member => ?_⟩
    rw [List.mem_singleton.mp member]
    exact fits_own header
  | append_singleton rows last ih =>
    obtain ⟨count, fits⟩ := ih fun row member => even row (List.mem_append_left _ member)
    have size : last.length = header.length :=
      even last (List.mem_append_right rows (List.mem_singleton.mpr rfl))
    have widths : columnWidths header (rows ++ [last]) =
        (columnWidths header rows).zipWith max (last.map List.length) := by
      rw [columnWidths, List.foldl_append]
      rfl
    rw [widths]
    refine ⟨?_, fun row member => ?_⟩
    · rw [List.length_zipWith, List.length_map, count, size, Nat.min_self]
    · rw [← List.cons_append, List.mem_append, List.mem_singleton] at member
      rcases member with earlier | rfl
      · exact fits_max (fits row earlier) (by rw [List.length_map, size, count])
      · exact fits_new row (by rw [size, count])

/-! ### Lines -/

theorem length_ljust {width : Nat} {text : Text} (fits : text.length ≤ width) (fill : Char) :
    (ljust width fill text).length = width := by
  rw [ljust, List.length_append, List.length_replicate]
  omega

theorem lengths_padded {row : List Text} {widths : List Nat} (fits : Fits row widths) :
    (widths.zipWith (fun width value => ljust width ' ' value) row).map List.length = widths := by
  induction fits with
  | nil => rfl
  | cons here rest ih => rw [List.zipWith_cons_cons, List.map_cons, ih, length_ljust here]

theorem length_fmtRow {row : List Text} {widths : List Nat} (fits : Fits row widths) :
    (fmtRow widths row).length = lineWidth 3 widths := by
  rw [fmtRow, length_intercalate, lengths_padded fits]
  rfl

theorem length_tableSeparator (widths : List Nat) :
    (tableSeparator widths).length = lineWidth 3 widths := by
  have lengths : (widths.map fun width => List.replicate width '-').map List.length = widths := by
    rw [List.map_map]
    exact (List.map_congr_left fun width _ => List.length_replicate).trans (List.map_id _)
  rw [tableSeparator, length_intercalate, lengths]
  rfl

/-- A line holds the text of each cell in the cell's column, padded with blanks. -/
theorem column_fmtRow {row : List Text} {widths : List Nat} (fits : Fits row widths) {j : Nat}
    {cell : Text} (placed : row[j]? = some cell) :
    column 3 widths j (fmtRow widths row) = ljust (widths[j]?.getD 0) ' ' cell := by
  have inside : j < widths.length := by
    rw [← fits.length_eq]
    exact (List.getElem?_eq_some_iff.mp placed).1
  have padded : (widths.zipWith (fun width value => ljust width ' ' value) row)[j]? =
      some (ljust (widths[j]?.getD 0) ' ' cell) := by
    rw [List.getElem?_zipWith, placed, List.getElem?_eq_getElem inside]
    rfl
  have read := column_intercalate " | ".toList _ padded
  rwa [lengths_padded fits] at read

/-! ### `run` -/

variable {strings : StringMethods}

/-- A device whose collection has ended in a way that `run` goes on after. -/
structure CollectedDevice (strings : StringMethods) where
  device : ResolvedDevice
  events : List CollectEvent
  collector : Collector
  report : DeviceReport
  ran : run (collectStep strings (String.ofList device.label))
    (Collector.start (safeCommands strings)) events = some collector
  ended : collector.report = some report

variable (texts : TextFunctions) (collected : List (CollectedDevice strings))

def deviceLabels : List Text := collected.map fun d => d.device.label

/-- What the loop of `run` assigns to `per_device_data`. -/
def deviceWrites : List (Text × Metric) :=
  collected.map fun d => (d.device.label, deviceData texts d.device d.report)

def perDeviceData : List (Text × Metric) := stored (deviceWrites texts collected)

/-- What is printed for the devices. -/
def printedSummary (printer : Printer) : Text :=
  renderSummaryTable printer (deviceLabels collected) (perDeviceData texts collected)

/-- No label, key or value breaks a line. -/
structure OneLine (printer : Printer) (data : Text → Metric) (labels keys : List Text) :
    Prop where
  inLabel : ∀ label ∈ labels, '\n' ∉ label
  inKey : ∀ key ∈ keys, '\n' ∉ key
  inLeaf : ∀ label ∈ labels, ∀ path leaf, LeafAt (data label) path leaf →
    '\n' ∉ leaf.leafText printer

/-- The lines of a table that shows the data of each column's device, row by row. -/
structure TableOf (printer : Printer) (data : Text → Metric) (labels keys : List Text)
    (widths : List Nat) (lines : List Text) : Prop where
  even : ∀ line ∈ lines, line.length = lineWidth 3 widths
  distinct : keys.Nodup
  /-- no two values of a device share a row -/
  own : ∀ label ∈ labels, UniquePaths [] (data label)
  /-- the first column names the rows -/
  named : ∀ i key, keys[i]? = some key → ∃ line, lines[i + 2]? = some line ∧
    column 3 widths 0 line = ljust (widths[0]?.getD 0) ' ' key
  /-- each value stands in the row of its address and the column of its device -/
  shown : ∀ j label path leaf, labels[j]? = some label → LeafAt (data label) path leaf →
    ∃ i line, keys[i]? = some (pathKey [] path) ∧ lines[i + 2]? = some line ∧
      column 3 widths (j + 1) line =
        ljust (widths[j + 1]?.getD 0) ' ' (leaf.leafText printer)
  /-- nothing else is printed -/
  blank : ∀ i j key label line, keys[i]? = some key → labels[j]? = some label →
    lines[i + 2]? = some line →
    (∀ path leaf, LeafAt (data label) path leaf → pathKey [] path ≠ key) →
    column 3 widths (j + 1) line = ljust (widths[j + 1]?.getD 0) ' ' []
  unbroken : OneLine printer data labels keys → ∀ line ∈ lines, '\n' ∉ line

section Lines

variable (printer : Printer) (labels : List Text) (data : List (Text × Metric))

theorem length_tableRow (key : Text) :
    (tableRow printer labels data key).length = (tableHeader labels).length := by
  simp [tableRow, tableHeader]

theorem fits_tableWidths : ∀ row ∈ tableHeader labels :: tableRows printer labels data,
    Fits row (tableWidths printer labels data) := by
  refine (fits_columnWidths fun row member => ?_).2
  obtain ⟨key, _, rfl⟩ := List.mem_map.mp member
  exact length_tableRow printer labels data key

theorem length_tableLines : ∀ line ∈ tableLines printer labels data,
    line.length = lineWidth 3 (tableWidths printer labels data) := by
  have fits := fits_tableWidths printer labels data
  intro line member
  rcases List.mem_cons.mp member with rfl | member
  · exact length_fmtRow (fits _ List.mem_cons_self)
  rcases List.mem_cons.mp member with rfl | member
  · exact length_tableSeparator _
  · obtain ⟨row, listed, rfl⟩ := List.mem_map.mp member
    exact length_fmtRow (fits row (List.mem_cons_of_mem _ listed))

theorem tableLines_row {i : Nat} {key : Text}
    (placed : (rowKeys printer labels data)[i]? = some key) :
    (tableLines printer labels data)[i + 2]? =
      some (fmtRow (tableWidths printer labels data) (tableRow printer labels data key)) := by
  rw [tableLines, tableRows]
  simp only [List.getElem?_cons_succ, List.getElem?_map, placed, Option.map_some]

theorem fits_tableRow {i : Nat} {key : Text}
    (placed : (rowKeys printer labels data)[i]? = some key) :
    Fits (tableRow printer labels data key) (tableWidths printer labels data) := by
  apply fits_tableWidths
  apply List.mem_cons_of_mem
  exact List.mem_map_of_mem (List.mem_of_getElem? placed)

/-- The cell of a row in a device's column. -/
theorem column_tableRow {i j : Nat} {key label : Text}
    (placed : (rowKeys printer labels data)[i]? = some key) (listed : labels[j]? = some label) :
    column 3 (tableWidths printer labels data) (j + 1)
        (fmtRow (tableWidths printer labels data) (tableRow printer labels data key)) =
      ljust ((tableWidths printer labels data)[j + 1]?.getD 0) ' '
        (((flattened printer data label).lookup key).getD []) := by
  apply column_fmtRow (fits_tableRow printer labels data placed)
  rw [tableRow, List.getElem?_cons_succ, List.getElem?_map, listed, Option.map_some]

/-- A line breaks only where a cell does. -/
theorem not_mem_fmtRow {widths : List Nat} {row : List Text} (whole : ∀ cell ∈ row, '\n' ∉ cell) :
    '\n' ∉ fmtRow widths row := by
  intro member
  rcases mem_intercalate member with between | ⟨padded, listed, inside⟩
  · revert between
    decide
  · obtain ⟨i, h, rfl⟩ := List.mem_iff_getElem.mp listed
    rw [List.getElem_zipWith, ljust, List.mem_append, List.mem_replicate] at inside
    rcases inside with cell | ⟨_, blank⟩
    · exact whole _ (List.getElem_mem _) cell
    · cases blank

theorem not_mem_tableSeparator (widths : List Nat) : '\n' ∉ tableSeparator widths := by
  intro member
  rcases mem_intercalate member with between | ⟨dashes, listed, inside⟩
  · revert between
    decide
  · obtain ⟨width, _, rfl⟩ := List.mem_map.mp listed
    cases (List.mem_replicate.mp inside).2

theorem not_mem_tableLines (named : ∀ label ∈ labels, '\n' ∉ label)
    (keyed : ∀ key ∈ rowKeys printer labels data, '\n' ∉ key)
    (texts : ∀ label ∈ labels, ∀ row ∈ flattened printer data label, '\n' ∉ row.2) :
    ∀ line ∈ tableLines printer labels data, '\n' ∉ line := by
  intro line member
  rcases List.mem_cons.mp member with rfl | member
  · refine not_mem_fmtRow (List.forall_mem_cons.mpr ⟨by decide, named⟩)
  rcases List.mem_cons.mp member with rfl | member
  · exact not_mem_tableSeparator _
  · obtain ⟨row, listed, rfl⟩ := List.mem_map.mp member
    obtain ⟨key, known, rfl⟩ := List.mem_map.mp listed
    refine not_mem_fmtRow (List.forall_mem_cons.mpr ⟨keyed key known, ?_⟩)
    intro cell placed
    obtain ⟨label, here, rfl⟩ := List.mem_map.mp placed
    cases found : (flattened printer data label).lookup key with
    | none => exact List.not_mem_nil
    | some text =>
      obtain ⟨before, after, rows, _⟩ := List.lookup_eq_some_iff.mp found
      exact texts label here (key, text) (by rw [rows]; simp)

end Lines

/-- The table of data that is flattened to a row for each leaf. -/
theorem tableOf_tableLines (printer : Printer) {labels : List Text} {writes : List (Text × Metric)}
    (rows : ∀ label ∈ labels,
      RowForEachLeaf printer ((latest label writes).getD (.dict []))) :
    TableOf printer (fun label => (latest label writes).getD (.dict [])) labels
      (rowKeys printer labels (stored writes)) (tableWidths printer labels (stored writes))
      (tableLines printer labels (stored writes)) := by
  have same : ∀ label, flattened printer (stored writes) label =
      flattenMetrics printer ((latest label writes).getD (.dict [])) := by
    intro label
    rw [flattened, lookup_stored]
  refine ⟨length_tableLines printer labels _, nodup_firstsFrom _, fun label listed =>
    (rows label listed).own, fun i key placed => ?_, ?_, ?_, ?_⟩
  · exact ⟨_, tableLines_row printer labels _ placed,
      column_fmtRow (fits_tableRow printer labels _ placed) rfl⟩
  · intro j label path leaf listed there
    have flat := rows label (List.mem_of_getElem? listed)
    have row := (flat.rows _).mpr ⟨path, leaf, there, rfl⟩
    rw [← same] at row
    have known : pathKey [] path ∈ rowKeys printer labels (stored writes) := by
      rw [rowKeys, mem_firstsFrom, List.mem_flatMap]
      exact .inr ⟨label, List.mem_of_getElem? listed, List.mem_map_of_mem row⟩
    obtain ⟨i, placed⟩ := List.mem_iff_getElem?.mp known
    refine ⟨i, _, placed, tableLines_row printer labels _ placed, ?_⟩
    have once := flat.once
    rw [← same] at once
    rw [column_tableRow printer labels _ placed listed, (lookup_eq_some_iff once _ _).mpr row]
    rfl
  · intro i j key label line placed listed at_ absent
    have flat := rows label (List.mem_of_getElem? listed)
    have missing : (flattened printer (stored writes) label).lookup key = none := by
      cases found : (flattened printer (stored writes) label).lookup key with
      | none => rfl
      | some text =>
        have once := flat.once
        rw [← same] at once
        have row := (lookup_eq_some_iff once _ _).mp found
        rw [same] at row
        obtain ⟨path, leaf, there, pair⟩ := (flat.rows _).mp row
        exact absurd (congrArg Prod.fst pair).symm (absent path leaf there)
    rw [tableLines_row printer labels _ placed] at at_
    obtain rfl := Option.some.inj at_
    rw [column_tableRow printer labels _ placed listed, missing]
    rfl
  · intro whole
    refine not_mem_tableLines printer labels _ whole.inLabel whole.inKey
      fun label listed row member => ?_
    rw [same] at member
    obtain ⟨path, leaf, there, rfl⟩ := ((rows label listed).rows row).mp member
    exact whole.inLeaf label listed path leaf there

/-! ### Every summary -/

/-- The data of the last device with the label. -/
def shownData (label : Text) : Metric :=
  (latest label (deviceWrites texts collected)).getD (.dict [])

theorem CollectedDevice.rowForEachLeaf (printer : Printer) (d : CollectedDevice strings) :
    RowForEachLeaf printer (deviceData texts d.device d.report) :=
  (collection_rows texts d.device strings _ printer d.events).final d.ran d.report d.ended

theorem shownData_eq {label : Text} (listed : label ∈ deviceLabels collected) :
    ∃ d ∈ collected, shownData texts collected label = deviceData texts d.device d.report := by
  obtain ⟨d, member, rfl⟩ := List.mem_map.mp listed
  cases found : latest d.device.label (deviceWrites texts collected) with
  | none =>
    have written := (latest_eq_none_iff _ _).mp found _ (List.mem_map_of_mem member)
    exact absurd rfl written
  | some data =>
    obtain ⟨last, kept, pair⟩ := List.mem_map.mp (mem_of_latest found)
    refine ⟨last, kept, ?_⟩
    rw [shownData, found]
    exact (congrArg Prod.snd pair).symm

theorem record_at (entries : List (String × Metric)) {key : String} {value : Metric}
    (found : entries.lookup key = some value) (path : List MetricStep) :
    (Metric.record entries).at (.entry key.toList :: path) = value.at path := by
  have injective : Function.Injective String.toList := fun _ _ => String.toList_inj.mp
  rw [Metric.record, Metric.at, lookup_map_keys injective, found, Option.bind_some]

/-- There is something to print of every device. -/
theorem exists_leafAt_deviceData (device : ResolvedDevice) (report : DeviceReport) :
    ∃ path leaf, LeafAt (deviceData texts device report) path leaf := by
  cases report with
  | ok results =>
    refine ⟨[.entry "device".toList, .entry "name".toList], .str device.name, ?_, rfl⟩
    rw [deviceData, record_at _ (lookup_store _ _ _), deviceRecord, record_at _ rfl]
    rfl
  | error message =>
    refine ⟨[.entry "status".toList, .entry "error".toList], .text message, ?_, rfl⟩
    rw [deviceData, record_at _ rfl, errorEntry, record_at _ rfl]
    rfl

theorem keys_ne_nil {printer : Printer} {keys : List Text} {widths : List Nat} {lines : List Text}
    (table : TableOf printer (shownData texts collected) (deviceLabels collected) keys widths lines)
    (some_ : collected ≠ []) : keys ≠ [] := by
  cases collected with
  | nil => exact absurd rfl some_
  | cons first rest =>
    have listed : (deviceLabels (first :: rest))[0]? = some first.device.label := rfl
    obtain ⟨d, _, same⟩ := shownData_eq texts (first :: rest) (List.mem_of_getElem? listed)
    obtain ⟨path, leaf, there⟩ := exists_leafAt_deviceData texts d.device d.report
    rw [← same] at there
    obtain ⟨i, _, placed, _⟩ := table.shown 0 _ path leaf listed there
    rintro rfl
    cases placed

/-- Of the devices with one label the last one is shown. -/
theorem shownData_of_last {earlier later : List (CollectedDevice strings)}
    {d : CollectedDevice strings} (last : d.device.label ∉ deviceLabels later) :
    shownData texts (earlier ++ d :: later) d.device.label =
      deviceData texts d.device d.report := by
  have none_later : latest d.device.label (deviceWrites texts later) = none := by
    rw [latest_eq_none_iff]
    intro write listed same
    obtain ⟨other, member, rfl⟩ := List.mem_map.mp listed
    exact last (List.mem_map.mpr ⟨other, member, same⟩)
  have writes : deviceWrites texts (earlier ++ d :: later) = deviceWrites texts earlier ++
      ((d.device.label, deviceData texts d.device d.report) :: deviceWrites texts later) :=
    List.map_append
  rw [shownData, writes, latest_append, latest, none_later, Option.none_or, if_pos rfl]
  rfl

/-- Whatever happens while the devices are read: the summary that is printed shows each value
of a device, once, in its row and in the column of its device, and nothing else, unless a
later device has the same label, whose values are shown instead. Where no label, key or
value breaks a line, the lines of what is printed are the lines of the table. -/
theorem printed_summary_faithful (printer : Printer) : ∃ keys widths lines,
    printedSummary texts collected printer =
      (if collected = [] then "No data collected.".toList else ("\n".toList).intercalate lines) ∧
    TableOf printer (shownData texts collected) (deviceLabels collected) keys widths lines ∧
    (∀ earlier d later, collected = earlier ++ d :: later →
      d.device.label ∉ deviceLabels later →
      shownData texts collected d.device.label = deviceData texts d.device d.report) ∧
    (OneLine printer (shownData texts collected) (deviceLabels collected) keys →
      collected ≠ [] → (printedSummary texts collected printer).splitOn '\n' = lines) := by
  have rows : ∀ label ∈ deviceLabels collected,
      RowForEachLeaf printer (shownData texts collected label) := by
    intro label listed
    obtain ⟨d, _, same⟩ := shownData_eq texts collected listed
    rw [same]
    exact d.rowForEachLeaf texts printer
  have table := tableOf_tableLines printer rows
  have printed : printedSummary texts collected printer =
      if collected = [] then "No data collected.".toList
      else ("\n".toList).intercalate (tableLines printer (deviceLabels collected)
        (stored (deviceWrites texts collected))) := by
    rw [printedSummary, perDeviceData, renderSummaryTable]
    by_cases empty : collected = []
    · subst empty
      rfl
    · rw [if_neg (keys_ne_nil texts collected table empty), if_neg empty]
  refine ⟨_, _, _, printed, table, ?_, fun whole some_ => ?_⟩
  · rintro earlier d later rfl last
    exact shownData_of_last texts last
  · rw [printed, if_neg some_]
    exact List.splitOn_intercalate '\n' (table.unbroken whole) (List.cons_ne_nil _ _)

end MarstekBle.Standalone
