import ParkingSystem.Registry.Sheet

/-!
# Columns of a Sheet

`rows_to_records` looks a column up by its header, and where it has none by its number. On a sheet
with some headers only, or in another order, the number of a column may be the place of another one.
-/

namespace ParkingSystem

open PyText

/-! ## Records by column -/

/-- Looking a key up in what is made of rows with keys of their own. -/
theorem lookup_filterMap {α β γ : Type} [BEq α] [LawfulBEq α] {f : α × β → Option γ}
    {rows : List (α × β)} (hkeys : (rows.map Prod.fst).Nodup) {row : α × β} (hrow : row ∈ rows) :
    (rows.filterMap fun r => (f r).map fun c => (r.1, c)).lookup row.1 = f row := by
  induction rows with
  | nil => simp at hrow
  | cons first rows ih =>
    rw [List.map_cons, List.nodup_cons] at hkeys
    rcases List.mem_cons.1 hrow with rfl | hrow
    · cases hcell : f row with
      | some c => simp [hcell]
      | none =>
        have hnone : (rows.filterMap fun r => (f r).map fun c => (r.1, c)).lookup row.1 = none := by
          rw [List.lookup_eq_none_iff]
          intro entry hentry
          obtain ⟨r, hr, hmade⟩ := List.mem_filterMap.1 hentry
          obtain ⟨c, -, rfl⟩ := Option.map_eq_some_iff.1 hmade
          simpa using fun heq : row.1 = r.1 => hkeys.1 (heq ▸ List.mem_map_of_mem hr)
        simp [hcell, hnone]
    · have hne : (row.1 == first.1) = false := by
        simpa using fun heq : row.1 = first.1 => hkeys.1 (heq ▸ List.mem_map_of_mem hrow)
      cases hcell : f first with
      | none => simpa [hcell] using ih hkeys.2 hrow
      | some c => simpa [hcell, List.lookup_cons, hne] using ih hkeys.2 hrow

/-- The text of a header. -/
def headerName (header : String) : String := String.ofList (strip header.toList)

/-- The header at a place is that of a column. -/
def HeaderAt (headers : List String) (j : ℕ) (column : String) : Prop :=
  headers[j]?.map headerName = some column

/-- A column has a header of its own. -/
def Headed (headers : List String) (column : String) : Prop := ∃ j, HeaderAt headers j column

/-- The headers name a column at most once. -/
def NamedOnce (headers : List String) : Prop :=
  ∀ column ∈ sheetColumns, ∀ i j, HeaderAt headers i column → HeaderAt headers j column → i = j

/-- A change of the cell at a place changes what the record says of a column. -/
def ReadsCell (headers : List String) (row : List Cell) (column : String) (j : ℕ) : Prop :=
  ∃ c, (recordOf headers (row.set j c)).lookup column ≠ (recordOf headers row).lookup column

/-- What the headers of a sheet are for. -/
structure ColumnLaw (headers : List String) (row : List Cell) : Prop where
  /-- A column takes the cell under its own header. -/
  own : ∀ column ∈ sheetColumns, ∀ j, HeaderAt headers j column →
    (recordOf headers row).lookup column = row[j]?.map trimmed
  /-- No cell is read for two columns. -/
  apart : ∀ column column' j, ReadsCell headers row column j → ReadsCell headers row column' j →
    column = column'
  /-- A column without a header takes no cell that is under the header of another. -/
  unheaded : ∀ column j, ¬ Headed headers column → ReadsCell headers row column j →
    ∀ other ∈ sheetColumns, ¬ HeaderAt headers j other

/-- Each column without a header stands, by its number, beyond the row or under a header that names
no column. -/
def UnheadedClear (headers : List String) (row : List Cell) : Prop :=
  ∀ i column, sheetColumns[i]? = some column → ¬ Headed headers column → i < row.length →
    ∀ other ∈ sheetColumns, ¬ HeaderAt headers i other

section

variable {headers : List String} {row : List Cell} {column : String} {i j : ℕ}

theorem headerAt_of_headerIndex (h : headerIndex headers column = some j) :
    HeaderAt headers j column := by
  obtain ⟨⟨header, j'⟩, hfind, rfl⟩ := Option.map_eq_some_iff.1 h
  have hmem := List.mem_reverse.1 (List.mem_of_find?_eq_some hfind)
  have hname := List.find?_some
    (p := fun h : String × ℕ => h.1 != "" && headerName h.1 == column) hfind
  rw [List.mem_zipIdx_iff_getElem?] at hmem
  rw [HeaderAt, hmem, Option.map_some, Option.some.injEq]
  exact beq_iff_eq.1 (Bool.and_eq_true_iff.1 hname).2

theorem headerIndex_isSome (hcolumn : column ∈ sheetColumns) (h : HeaderAt headers j column) :
    ∃ j', headerIndex headers column = some j' := by
  obtain ⟨header, hheader, hname⟩ := Option.map_eq_some_iff.1 h
  have hne : header ≠ "" := by
    rintro rfl
    rw [← hname] at hcolumn
    exact absurd hcolumn (by decide)
  have hmem : (header, j) ∈ headers.zipIdx.reverse := by
    rw [List.mem_reverse, List.mem_zipIdx_iff_getElem?]
    exact hheader
  have hfound : (headers.zipIdx.reverse.find? fun h =>
      h.1 != "" && String.ofList (strip h.1.toList) == column).isSome := by
    rw [List.find?_isSome]
    exact ⟨(header, j), hmem, by simpa [hne, headerName] using hname⟩
  obtain ⟨found, hfound⟩ := Option.isSome_iff_exists.1 hfound
  exact ⟨found.2, by rw [headerIndex, hfound]; rfl⟩

/-- The place of a column that has a header. -/
theorem headerIndex_of_headerAt (honce : NamedOnce headers) (hcolumn : column ∈ sheetColumns)
    (h : HeaderAt headers j column) : headerIndex headers column = some j := by
  obtain ⟨j', hindex⟩ := headerIndex_isSome hcolumn h
  rw [hindex, honce column hcolumn j' j (headerAt_of_headerIndex hindex) h]

/-- The place of a column that has none. -/
theorem headerIndex_of_not_headed (h : ¬ Headed headers column) :
    headerIndex headers column = none := by
  cases hindex : headerIndex headers column with
  | none => rfl
  | some j => exact absurd ⟨j, headerAt_of_headerIndex hindex⟩ h

/-- **A record by column**: each column has the cell at its place. -/
theorem recordOf_lookup (hcolumn : sheetColumns[i]? = some column) :
    (recordOf headers row).lookup column =
      row[(headerIndex headers column).getD i]?.map trimmed := by
  have hkeys : (sheetColumns.zipIdx.map Prod.fst).Nodup := by
    rw [List.zipIdx_map_fst]
    decide
  have hrecord : recordOf headers row = sheetColumns.zipIdx.filterMap fun r =>
      (row[(headerIndex headers r.1).getD r.2]?.map trimmed).map fun c => (r.1, c) := by
    simp [recordOf, Function.comp_def]
  rw [hrecord]
  have hmem : (column, i) ∈ sheetColumns.zipIdx := List.mem_zipIdx_iff_getElem?.2 hcolumn
  exact lookup_filterMap (f := fun r => row[(headerIndex headers r.1).getD r.2]?.map trimmed) hkeys
    hmem

/-- Another cell that a record shows as something else. -/
theorem exists_trimmed_ne (c : Cell) : ∃ c', trimmed c' ≠ trimmed c := by
  by_cases htrue : trimmed c = .bool true
  · exact ⟨.bool false, by rw [htrue]; decide⟩
  · exact ⟨.bool true, Ne.symm htrue⟩

/-- **A column reads** the cell at its place, and no other. -/
theorem readsCell_iff (hcolumn : sheetColumns[i]? = some column) :
    ReadsCell headers row column j ↔
      (headerIndex headers column).getD i = j ∧ j < row.length := by
  unfold ReadsCell
  simp only [recordOf_lookup hcolumn]
  generalize (headerIndex headers column).getD i = place
  constructor
  · rintro ⟨c, hne⟩
    by_contra hnot
    refine hne ?_
    by_cases hplace : place = j
    · have hlong : row.length ≤ j := not_lt.1 fun hlt => hnot ⟨hplace, hlt⟩
      rw [List.set_eq_of_length_le hlong]
    · rw [List.getElem?_set_ne (Ne.symm hplace)]
  · rintro ⟨rfl, hlt⟩
    obtain ⟨c, hc⟩ := exists_trimmed_ne row[place]
    refine ⟨c, ?_⟩
    rw [List.getElem?_set_self hlt, List.getElem?_eq_getElem hlt]
    simpa using hc

/-- Only the columns of the sheet are read. -/
theorem column_of_readsCell (h : ReadsCell headers row column j) :
    ∃ i : ℕ, sheetColumns[i]? = some column := by
  have hmem : column ∈ sheetColumns := by
    by_contra hnot
    obtain ⟨c, hne⟩ := h
    have hnone (row : List Cell) : (recordOf headers row).lookup column = none := by
      rw [List.lookup_eq_none_iff]
      intro entry hentry
      obtain ⟨r, hr, hmade⟩ := List.mem_filterMap.1 hentry
      obtain ⟨c, -, rfl⟩ := Option.map_eq_some_iff.1 hmade
      have hr := (List.mem_zipIdx' hr).2
      simpa using fun heq : column = r.1 => hnot (by rw [heq, hr]; exact List.getElem_mem _)
    exact hne ((hnone _).trans (hnone _).symm)
  exact List.mem_iff_getElem?.1 hmem

end

/-- **Headers and numbers**: on headers that name a column at most once, every column takes the cell
that is its own, exactly where the columns without a header take none that is under another's. -/
theorem columnLaw_iff {headers : List String} (honce : NamedOnce headers) (row : List Cell) :
    ColumnLaw headers row ↔ UnheadedClear headers row := by
  constructor
  · intro hlaw i column hcolumn hunheaded hshort other hother
    have hreads : ReadsCell headers row column i := by
      rw [readsCell_iff hcolumn, headerIndex_of_not_headed hunheaded]
      exact ⟨rfl, hshort⟩
    exact hlaw.unheaded column i hunheaded hreads other hother
  · intro hclear
    -- a column without a header reads the place of its number
    have hplace {column : String} {j : ℕ} (hunheaded : ¬ Headed headers column)
        (hreads : ReadsCell headers row column j) : sheetColumns[j]? = some column ∧
          ∀ other ∈ sheetColumns, ¬ HeaderAt headers j other := by
      obtain ⟨i, hcolumn⟩ := column_of_readsCell hreads
      rw [readsCell_iff hcolumn, headerIndex_of_not_headed hunheaded] at hreads
      obtain ⟨rfl, hshort⟩ := hreads
      exact ⟨hcolumn, hclear i column hcolumn hunheaded hshort⟩
    have hheader {column : String} {j : ℕ} (hheaded : Headed headers column)
        (hreads : ReadsCell headers row column j) :
        column ∈ sheetColumns ∧ HeaderAt headers j column := by
      obtain ⟨i, hcolumn⟩ := column_of_readsCell hreads
      obtain ⟨j', hat⟩ := hheaded
      have hmem := List.mem_of_getElem? hcolumn
      rw [readsCell_iff hcolumn, headerIndex_of_headerAt honce hmem hat] at hreads
      obtain ⟨rfl, -⟩ := hreads
      exact ⟨hmem, hat⟩
    refine ⟨fun column hmem j hat => ?_, fun column column' j hreads hreads' => ?_,
      fun column j hunheaded hreads => (hplace hunheaded hreads).2⟩
    · obtain ⟨i, hcolumn⟩ := List.mem_iff_getElem?.1 hmem
      rw [recordOf_lookup hcolumn, headerIndex_of_headerAt honce hmem hat, Option.getD_some]
    · by_cases hheaded : Headed headers column <;> by_cases hheaded' : Headed headers column'
      · have hat := (hheader hheaded hreads).2
        have hat' := (hheader hheaded' hreads').2
        exact Option.some.inj (hat.symm.trans hat')
      · obtain ⟨hmem, hat⟩ := hheader hheaded hreads
        exact absurd hat ((hplace hheaded' hreads').2 column hmem)
      · obtain ⟨hmem, hat⟩ := hheader hheaded' hreads'
        exact absurd hat ((hplace hheaded hreads).2 column' hmem)
      · have hat := (hplace hheaded hreads).1
        have hat' := (hplace hheaded' hreads').1
        exact Option.some.inj (hat.symm.trans hat')

/-! ### A sheet with two columns -/

/-- The plate comes first, and no column says where the vehicle is known. -/
def plateFirst : List String := ["plate_raw", "external_vehicle_id"]

theorem namedOnce_plateFirst : NamedOnce plateFirst := by
  intro column _ i j hi hj
  have hlt {k : ℕ} (hk : HeaderAt plateFirst k column) : k < 2 := by
    obtain ⟨header, hheader, -⟩ := Option.map_eq_some_iff.1 hk
    exact (List.getElem?_eq_some_iff.1 hheader).1
  have hnames : headerName "plate_raw" ≠ headerName "external_vehicle_id" := by decide
  have hi' := hlt hi
  have hj' := hlt hj
  obtain rfl | rfl : i = 0 ∨ i = 1 := by omega
  all_goals obtain rfl | rfl : j = 0 ∨ j = 1 := by omega
  · rfl
  · exact absurd (Option.some.inj (hi.trans hj.symm)) hnames
  · exact absurd (Option.some.inj (hj.trans hi.symm)) hnames
  · rfl

/-- On a row that has no cell for the source the columns keep apart. -/
theorem columnLaw_iff_plateFirst : ColumnLaw plateFirst [.str "12ب345"] ↔
    UnheadedClear plateFirst [.str "12ب345"] :=
  columnLaw_iff namedOnce_plateFirst [.str "12ب345"]

/-- **The source of a vehicle is its identifier** -/
theorem source_from_identifier :
    ¬ ∀ (headers : List String) (row : List Cell), NamedOnce headers → ColumnLaw headers row := by
  intro h
  have hlaw := h plateFirst [.str "12ب345", .str "K1"] namedOnce_plateFirst
  have hreads {column : String} (hread : ((recordOf plateFirst [.str "12ب345", .null]).lookup column)
      ≠ (recordOf plateFirst [.str "12ب345", .str "K1"]).lookup column) :
      ReadsCell plateFirst [.str "12ب345", .str "K1"] column 1 := ⟨.null, hread⟩
  have hsame := hlaw.apart "source_system" "external_vehicle_id" 1 (hreads (by decide))
    (hreads (by decide))
  exact absurd hsame (by decide)

end ParkingSystem
