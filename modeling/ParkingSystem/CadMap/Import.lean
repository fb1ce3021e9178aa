import ParkingSystem.CadMap.Spot

/-!
# The Import of the Map

`POST /cad-parking/import`: the items of a list are read one by one, an item that raises is counted
and passed over, and what the others give is put in the session. All of it is stored by one commit
at the end.

So one item does stop the others: a code that is not in the table and comes twice, or a value
that its column does not take, is noticed when the commit fails, and then nothing is stored.
-/

namespace ParkingSystem.CadMap

open PyText PyValue

variable {storage : Storage}

/-! ## The loop -/

/-- What an item gives: its code, and the values for its row. -/
structure Given where
  code : List Char
  values : Values

/-- Reading an item. -/
inductive Read where
  /-- No code. -/
  | skipped
  | raised
  | item (g : Given)

/-- What the loop takes from an item before it looks at the table. -/
def readItem (cfg : Config) (spot : Dict) : Read :=
  let code := spotCode cfg spot
  if code = [] then .skipped
  else match spotCenter spot with
    | none => .raised
    | some center => .item
        { code := code
          values := spotValues cfg spot code
            (pyOr (field spot "source_entity_handle") (field spot "label_entity_handle")) center }

/-- The session and the counters. The rows of `existing_map` are those of the table: it has the
code of every item that is there. -/
structure Batch where
  rows : List Spot
  added : List Spot := []
  created : ℕ := 0
  updated : ℕ := 0
  skipped : ℕ := 0
  errors : List ℤ := []

/-- A row that is there gets the values that are given; else a row is added. -/
def Batch.store (fresh : ℕ) (batch : Batch) (g : Given) : Batch :=
  if batch.rows.any fun row => row.code = g.code then
    { batch with
      rows := batch.rows.map fun row => if row.code = g.code then row.assign g.values else row
      updated := batch.updated + 1 }
  else
    { batch with
      added := batch.added ++ [newSpot (fresh + batch.added.length) g.code g.values]
      created := batch.created + 1 }

/-- One turn of the loop, over an object and its index. -/
def importItem (cfg : Config) (fresh : ℕ) (batch : Batch) (entry : Dict × ℕ) : Batch :=
  match readItem cfg entry.1 with
  | .skipped => { batch with skipped := batch.skipped + 1 }
  | .raised => { batch with skipped := batch.skipped + 1, errors := batch.errors ++ [(entry.2 : ℤ)] }
  | .item g => batch.store fresh g

/-- The objects of the list, with their indices. -/
def objects (items : List Json) : List (Dict × ℕ) :=
  items.zipIdx.filterMap fun
    | (.obj spot, i) => some (spot, i)
    | _ => none

/-- The batch after the loop. -/
def importBatch (cfg : Config) (rows : List Spot) (items : List Json) : Batch :=
  (objects items).foldl (importItem cfg (freshId rows))
    { rows := rows, skipped := items.length - (objects items).length }

/-- The answer of the request; an error has the index of its item, and -1 is the commit. -/
structure ImportAnswer where
  success : Bool
  created : ℕ
  updated : ℕ
  skipped : ℕ
  errors : List ℤ
  deriving DecidableEq, Repr

/-- `import_spots`: the answer, and the table it leaves. -/
def importSpots (cfg : Config) (table : SpotTable storage) (items : List Json) :
    ImportAnswer × SpotTable storage :=
  let batch := importBatch cfg table.rows items
  match commit storage (batch.rows ++ batch.added) with
  | some table' => (⟨true, batch.created, batch.updated, batch.skipped, batch.errors.take 20⟩, table')
  | none => (⟨false, 0, 0, items.length, [-1]⟩, table)

/-! ## What the items give -/

/-- What is given by the items that are read. -/
def givens (cfg : Config) (items : List Json) : List Given :=
  (objects items).filterMap fun entry => match readItem cfg entry.1 with
    | .item g => some g
    | _ => none

/-- The last value that is given for a column of a code. -/
def lastGiven (gs : List Given) (code : List Char) (c : Column) : Json :=
  gs.foldl (fun v g => if g.code = code ∧ given (g.values c) then g.values c else v) .null

/-- The codes that are given and have no row, as often as they are given. -/
def newCodes (rows : List Spot) (gs : List Given) : List (List Char) :=
  (gs.map Given.code).filter fun code => !rows.any fun row => row.code = code

/-- An item that could be stored if it were sent alone. -/
def Storable (storage : Storage) (g : Given) : Prop :=
  storage.code g.code = true ∧ ∀ c, given (g.values c) = true → storage.cell c (g.values c) = true

/-- Whether rows have a code, with the latest values that are given for it. -/
def Holds (rows : List Spot) (gs : List Given) (code : List Char) : Prop :=
  ∃ row ∈ rows, row.code = code ∧
    ∀ c, given (lastGiven gs code c) = true → row.cells c = lastGiven gs code c

/-- What the request is for: every item is counted once, and an item that can be stored is stored,
whatever else is in the list. -/
structure ItemsStored (cfg : Config) (table : SpotTable storage) (items : List Json) : Prop where
  counted : (importSpots cfg table items).1.created + (importSpots cfg table items).1.updated +
    (importSpots cfg table items).1.skipped = items.length
  stored : ∀ g ∈ givens cfg items, Storable storage g →
    Holds (importSpots cfg table items).2.rows (givens cfg items) g.code

/-- What the commit asks for: a code without a row is given once and fits, and of the values that
are given for a column of a row the last one fits. -/
structure Committable (table : SpotTable storage) (gs : List Given) : Prop where
  single : (newCodes table.rows gs).Nodup
  codes : ∀ code ∈ newCodes table.rows gs, storage.code code = true
  cells : ∀ g ∈ gs, ∀ c, given (lastGiven gs g.code c) = true →
    storage.cell c (lastGiven gs g.code c) = true

/-! ## The last value -/

theorem lastGiven_append (gs : List Given) (g : Given) (code : List Char) (c : Column) :
    lastGiven (gs ++ [g]) code c =
      if g.code = code ∧ given (g.values c) then g.values c else lastGiven gs code c :=
  List.foldl_append

/-- Items with another code do not count. -/
theorem lastGiven_of_forall_ne {gs : List Given} {code : List Char}
    (h : ∀ g ∈ gs, g.code ≠ code) (c : Column) : lastGiven gs code c = .null := by
  induction gs using List.reverseRecOn with
  | nil => rfl
  | append_singleton gs g ih =>
    rw [lastGiven_append, if_neg fun hg => h g (by simp) hg.1]
    exact ih fun g' hg' => h g' (List.mem_append_left _ hg')

/-- A code that is given once has the values that come with it. -/
theorem lastGiven_of_single {gs : List Given} {g : Given}
    (h : (gs.filter fun g' => g'.code = g.code) = [g]) (c : Column) :
    lastGiven gs g.code c = g.values c := by
  have hvalue : lastGiven gs g.code c = if given (g.values c) then g.values c else .null := by
    have hfold : lastGiven gs g.code c = lastGiven (gs.filter fun g' => g'.code = g.code) g.code c := by
      unfold lastGiven
      rw [List.foldl_filter]
      congr 1
      funext v g'
      by_cases hcode : g'.code = g.code
      · simp [hcode]
      · simp [hcode]
    rw [hfold, h]
    simp [lastGiven]
  rw [hvalue]
  split
  · rfl
  next hnone => rw [not_given (Bool.eq_false_iff.2 hnone)]

/-! ## The loop, in closed form -/

/-- A row with the latest values that are given for its code. -/
def Spot.latest (gs : List Given) (row : Spot) : Spot := row.assign (lastGiven gs row.code)

/-- The rows that are added: one for each time that a code without a row is given. -/
def addedSpots (rows : List Spot) (gs : List Given) : List Spot :=
  (gs.filter fun g => !rows.any fun row => row.code = g.code).zipIdx.map fun (g, i) =>
    newSpot (freshId rows + i) g.code g.values

theorem codes_latest (rows : List Spot) (gs : List Given) :
    (rows.map (Spot.latest gs)).map Spot.code = rows.map Spot.code := by
  rw [List.map_map]
  rfl

theorem codes_addedSpots (rows : List Spot) (gs : List Given) :
    (addedSpots rows gs).map Spot.code = newCodes rows gs := by
  rw [addedSpots, newCodes, List.filter_map, List.map_map]
  have hcode : (Spot.code ∘ fun (g, i) => newSpot (freshId rows + i) g.code g.values) =
      Given.code ∘ (Prod.fst : Given × ℕ → Given) := rfl
  rw [hcode, ← List.map_map, List.zipIdx_map_fst]
  rfl

/-- What the loop has done after some items. -/
structure Batch.Tracks (batch : Batch) (rows : List Spot) (gs : List Given) : Prop where
  rows_eq : batch.rows = rows.map (Spot.latest gs)
  added_eq : batch.added = addedSpots rows gs
  counted : batch.created + batch.updated = gs.length

theorem Batch.Tracks.store {batch : Batch} {rows : List Spot} {gs : List Given}
    (h : batch.Tracks rows gs) (g : Given) :
    (batch.store (freshId rows) g).Tracks rows (gs ++ [g]) := by
  have hany : (batch.rows.any fun row => row.code = g.code) =
      rows.any fun row => row.code = g.code := by
    rw [h.rows_eq, List.any_map]
    rfl
  have hadded : addedSpots rows (gs ++ [g]) = addedSpots rows gs ++
      if rows.any (fun row => row.code = g.code) then []
      else [newSpot (freshId rows + (addedSpots rows gs).length) g.code g.values] := by
    rw [addedSpots, List.filter_append, List.zipIdx_append, List.map_append, ← addedSpots]
    congr 1
    rw [addedSpots, List.length_map, List.length_zipIdx]
    cases hnew : rows.any fun row => row.code = g.code with
    | true => simp [hnew]
    | false => simp [hnew]
  -- a row whose code is another one is as it was
  have hlatest (row : Spot) : Spot.latest (gs ++ [g]) row =
      if row.code = g.code then (Spot.latest gs row).assign g.values else Spot.latest gs row := by
    by_cases hcode : row.code = g.code
    · rw [if_pos hcode, Spot.latest, Spot.latest, Spot.assign_assign]
      congr 1
      funext c
      rw [lastGiven_append]
      by_cases hgiven : given (g.values c) = true
      · rw [if_pos ⟨hcode.symm, hgiven⟩, if_pos hgiven]
      · rw [if_neg fun hboth => hgiven hboth.2, if_neg hgiven]
    · rw [if_neg hcode, Spot.latest, Spot.latest]
      congr 1
      funext c
      rw [lastGiven_append, if_neg fun hboth => hcode hboth.1.symm]
  unfold Batch.store
  rw [hany]
  split
  next hold =>
    refine ⟨?_, ?_, ?_⟩
    · rw [h.rows_eq, List.map_map]
      refine List.map_congr_left fun row _ => ?_
      rw [hlatest]
      rfl
    · rw [hadded, if_pos hold, List.append_nil]
      exact h.added_eq
    · rw [List.length_append, List.length_singleton, ← h.counted]
      exact (Nat.add_assoc _ _ _).symm
  next hnew =>
    refine ⟨?_, ?_, ?_⟩
    · rw [h.rows_eq]
      refine List.map_congr_left fun row hrow => ?_
      have hcode : row.code ≠ g.code := fun heq =>
        hnew (List.any_eq_true.2 ⟨row, hrow, decide_eq_true heq⟩)
      rw [hlatest, if_neg hcode]
    · rw [hadded, if_neg hnew, h.added_eq]
    · rw [List.length_append, List.length_singleton, ← h.counted]
      exact Nat.add_right_comm _ _ _

/-- **What the loop leaves**: each row has the latest values of its code, a row is added for each
new code, and each item is counted. -/
theorem importBatch_spec (cfg : Config) (rows : List Spot) (items : List Json) :
    (importBatch cfg rows items).Tracks rows (givens cfg items) ∧
      (importBatch cfg rows items).created + (importBatch cfg rows items).updated +
        (importBatch cfg rows items).skipped = items.length := by
  have hlength : (objects items).length ≤ items.length :=
    (List.length_filterMap_le _ _).trans (List.length_zipIdx).le
  -- by induction on the objects, from the last
  suffices h : ∀ entries : List (Dict × ℕ), ∀ start : Batch, start.rows = rows →
      start.added = [] → start.created = 0 → start.updated = 0 →
      (entries.foldl (importItem cfg (freshId rows)) start).Tracks rows
        (entries.filterMap fun entry => match readItem cfg entry.1 with
          | .item g => some g
          | _ => none) ∧
      (entries.foldl (importItem cfg (freshId rows)) start).created +
        (entries.foldl (importItem cfg (freshId rows)) start).updated +
        (entries.foldl (importItem cfg (freshId rows)) start).skipped =
          entries.length + start.skipped by
    obtain ⟨htracks, hcount⟩ := h (objects items)
      { rows := rows, skipped := items.length - (objects items).length } rfl rfl rfl rfl
    refine ⟨htracks, hcount.trans ?_⟩
    exact Nat.add_sub_of_le hlength
  intro entries start hrows hadded hcreated hupdated
  induction entries using List.reverseRecOn with
  | nil =>
    refine ⟨⟨?_, hadded, by simp [hcreated, hupdated]⟩, by simp [hcreated, hupdated]⟩
    rw [List.foldl_nil, hrows]
    refine (List.map_id rows).symm.trans (List.map_congr_left fun row _ => ?_)
    rfl
  | append_singleton entries entry ih =>
    obtain ⟨htracks, hcount⟩ := ih
    rw [List.foldl_append, List.foldl_cons, List.foldl_nil, List.filterMap_append,
      List.length_append, List.length_singleton]
    generalize entries.foldl (importItem cfg (freshId rows)) start = batch at htracks hcount ⊢
    unfold importItem
    cases hread : readItem cfg entry.1 with
    | skipped =>
      simp only [hread, List.filterMap_cons, List.filterMap_nil, List.append_nil]
      exact ⟨⟨htracks.rows_eq, htracks.added_eq, htracks.counted⟩, by omega⟩
    | raised =>
      simp only [hread, List.filterMap_cons, List.filterMap_nil, List.append_nil]
      exact ⟨⟨htracks.rows_eq, htracks.added_eq, htracks.counted⟩, by omega⟩
    | item g =>
      simp only [hread, List.filterMap_cons, List.filterMap_nil]
      refine ⟨htracks.store g, ?_⟩
      unfold Batch.store
      split
      · dsimp only
        omega
      · dsimp only
        omega

/-! ## The commit -/

theorem mem_newCodes {rows : List Spot} {gs : List Given} {code : List Char} :
    code ∈ newCodes rows gs ↔ (∃ g ∈ gs, g.code = code) ∧ ∀ row ∈ rows, row.code ≠ code := by
  rw [newCodes, List.mem_filter, List.mem_map, Bool.not_eq_true', List.any_eq_false]
  simp only [decide_eq_true_eq]

/-- Where new codes are distinct, one is given by a single item. -/
theorem filter_of_nodup {rows : List Spot} {gs : List Given} (h : (newCodes rows gs).Nodup)
    {g : Given} (hg : g ∈ gs) (hnew : ∀ row ∈ rows, row.code ≠ g.code) :
    gs.filter (fun g' => g'.code = g.code) = [g] := by
  have hcount := List.nodup_iff_count_le_one.1 h g.code
  have hpass : (fun code => !rows.any fun row => row.code = code) g.code = true := by
    rw [Bool.not_eq_true', List.any_eq_false]
    simpa using hnew
  rw [newCodes, List.count_filter (p := fun code => !rows.any fun row => row.code = code) hpass,
    List.count, List.countP_map, List.countP_eq_length_filter] at hcount
  have hfilter : gs.filter ((fun code => code == g.code) ∘ Given.code) =
      gs.filter fun g' => g'.code = g.code := by
    refine List.filter_congr fun g' _ => ?_
    rw [Function.comp_apply, beq_eq_decide]
  rw [hfilter] at hcount
  have hmem : g ∈ gs.filter fun g' => g'.code = g.code :=
    List.mem_filter.2 ⟨hg, decide_eq_true rfl⟩
  generalize gs.filter (fun g' => g'.code = g.code) = own at hcount hmem
  match own, hcount, hmem with
  | [g'], _, hmem => rw [List.mem_singleton.1 hmem]

theorem mem_addedSpots {rows : List Spot} {gs : List Given} {row : Spot}
    (h : row ∈ addedSpots rows gs) : ∃ g ∈ gs, (∀ old ∈ rows, old.code ≠ g.code) ∧
      freshId rows ≤ row.id ∧ row = newSpot row.id g.code g.values := by
  obtain ⟨⟨g, i⟩, hgi, rfl⟩ := List.mem_map.1 h
  obtain ⟨hg, hnew⟩ := List.mem_filter.1 (List.fst_mem_of_mem_zipIdx hgi)
  rw [Bool.not_eq_true', List.any_eq_false] at hnew
  exact ⟨g, hg, fun old hold heq => hnew old hold (decide_eq_true heq), Nat.le_add_right _ _, rfl⟩

/-- A given value of a new row is what was given for it; only an empty status is filled. -/
theorem cells_newSpot {id : ℕ} {code : List Char} {values : Values} {c : Column}
    (h : given (values c) = true) : (newSpot id code values).cells c = values c :=
  if_neg fun hempty => by rw [hempty.2] at h; cases h

theorem fits_newSpot {id : ℕ} {g : Given} (hcode : storage.code g.code = true)
    (hcells : ∀ c, given (g.values c) = true → storage.cell c (g.values c) = true) :
    storage.fits (newSpot id g.code g.values) = true := by
  refine fits_iff.2 ⟨hcode, fun c hc => ?_⟩
  by_cases hempty : c = .status ∧ given (g.values c) = false
  · have hfree : (newSpot id g.code g.values).cells c = .str "free" := if_pos hempty
    rw [hfree, hempty.1]
    exact storage.free
  · have hsame : (newSpot id g.code g.values).cells c = g.values c := if_neg hempty
    rw [hsame] at hc ⊢
    exact hcells c hc

theorem ids_nodup (table : SpotTable storage) (gs : List Given) :
    ((table.rows.map (Spot.latest gs) ++ addedSpots table.rows gs).map Spot.id).Nodup := by
  have hold : (table.rows.map (Spot.latest gs)).map Spot.id = table.rows.map Spot.id := by
    rw [List.map_map]
    rfl
  have hnew : ((addedSpots table.rows gs).map Spot.id).Nodup := by
    rw [addedSpots, List.map_map]
    have hid : (Spot.id ∘ fun (g, i) => newSpot (freshId table.rows + i) g.code g.values) =
        (fun i => freshId table.rows + i) ∘ (Prod.snd : Given × ℕ → ℕ) := rfl
    rw [hid, ← List.map_map, List.zipIdx_map_snd]
    exact List.Nodup.map (fun _ _ heq => Nat.add_left_cancel heq) List.nodup_range'
  rw [List.map_append, hold, List.nodup_append]
  refine ⟨table.ids, hnew, ?_⟩
  rintro i hi j hj rfl
  obtain ⟨row, hrow, rfl⟩ := List.mem_map.1 hi
  obtain ⟨row', hrow', heq⟩ := List.mem_map.1 hj
  obtain ⟨-, -, -, hfresh, -⟩ := mem_addedSpots hrow'
  have hlt := id_lt_freshId hrow
  omega

/-- The rows after the loop have the latest values of every code, when a new code comes once. -/
theorem holds_latest {rows : List Spot} {gs : List Given} (h : (newCodes rows gs).Nodup) {g : Given}
    (hg : g ∈ gs) : Holds (rows.map (Spot.latest gs) ++ addedSpots rows gs) gs g.code := by
  by_cases hold : ∃ row ∈ rows, row.code = g.code
  · obtain ⟨row, hrow, hcode⟩ := hold
    refine ⟨row.latest gs, List.mem_append_left _ (List.mem_map_of_mem hrow), hcode, fun c hc => ?_⟩
    have hgiven : given (lastGiven gs row.code c) = true := by rwa [hcode]
    rw [← hcode]
    exact if_pos hgiven
  · have hnew : ∀ row ∈ rows, row.code ≠ g.code := fun row hrow heq => hold ⟨row, hrow, heq⟩
    have hcode : g.code ∈ (addedSpots rows gs).map Spot.code := by
      rw [codes_addedSpots]
      exact mem_newCodes.2 ⟨⟨g, hg, rfl⟩, hnew⟩
    obtain ⟨row, hrow, heq⟩ := List.mem_map.1 hcode
    refine ⟨row, List.mem_append_right _ hrow, heq, fun c hc => ?_⟩
    -- the row was added for the only item with its code
    obtain ⟨g', hg', -, -, hnewSpot⟩ := mem_addedSpots hrow
    have hsame : g' = g := by
      have hmem : g' ∈ gs.filter fun g' => g'.code = g.code := by
        refine List.mem_filter.2 ⟨hg', decide_eq_true ?_⟩
        rw [← heq, hnewSpot]
        rfl
      rw [filter_of_nodup h hg hnew] at hmem
      exact List.mem_singleton.1 hmem
    rw [lastGiven_of_single (filter_of_nodup h hg hnew)] at hc ⊢
    rw [hnewSpot, hsame]
    exact cells_newSpot hc

/-- **The commit succeeds** exactly when the batch asks nothing of the table that it refuses. -/
theorem commit_latest (table : SpotTable storage) (gs : List Given) :
    (∃ table', commit storage (table.rows.map (Spot.latest gs) ++ addedSpots table.rows gs) =
      some table') ↔ Committable table gs := by
  constructor
  · rintro ⟨table', hcommit⟩
    have hrows := commit_spec hcommit
    have hcodes := table'.codes
    rw [hrows, List.map_append, codes_addedSpots] at hcodes
    have hsingle := (List.nodup_append.1 hcodes).2.1
    have hfits : ∀ row ∈ table.rows.map (Spot.latest gs) ++ addedSpots table.rows gs,
        storage.fits row = true := by
      rw [← hrows]
      exact table'.fits
    refine ⟨hsingle, fun code hcode => ?_, fun g hg c hc => ?_⟩
    · rw [← codes_addedSpots] at hcode
      obtain ⟨row, hrow, rfl⟩ := List.mem_map.1 hcode
      exact (fits_iff.1 (hfits row (List.mem_append_right _ hrow))).1
    · obtain ⟨row, hrow, -, hcells⟩ := holds_latest hsingle hg
      have hcell := (fits_iff.1 (hfits row hrow)).2 c
      rw [hcells c hc] at hcell
      exact hcell hc
  · intro h
    have hcodes : ((table.rows.map (Spot.latest gs) ++ addedSpots table.rows gs).map
        Spot.code).Nodup := by
      rw [List.map_append, codes_latest, codes_addedSpots, List.nodup_append]
      refine ⟨table.codes, h.single, ?_⟩
      rintro code hold code' hnew rfl
      obtain ⟨row, hrow, heq⟩ := List.mem_map.1 hold
      exact (mem_newCodes.1 hnew).2 row hrow heq
    have hfits : ∀ row ∈ table.rows.map (Spot.latest gs) ++ addedSpots table.rows gs,
        storage.fits row = true := by
      intro row hrow
      rcases List.mem_append.1 hrow with hrow | hrow
      · obtain ⟨old, hold, rfl⟩ := List.mem_map.1 hrow
        obtain ⟨hcode, hcells⟩ := fits_iff.1 (table.fits old hold)
        refine fits_iff.2 ⟨hcode, fun c hc => ?_⟩
        by_cases hgiven : given (lastGiven gs old.code c) = true
        · have hlast : (old.latest gs).cells c = lastGiven gs old.code c := if_pos hgiven
          rw [hlast]
          -- something was given for its code
          obtain ⟨g, hg, hg'⟩ : ∃ g ∈ gs, g.code = old.code := by
            by_contra hnone
            have hnull := lastGiven_of_forall_ne (fun g hg heq => hnone ⟨g, hg, heq⟩) c
            rw [hnull] at hgiven
            cases hgiven
          rw [← hg'] at hgiven ⊢
          exact h.cells g hg c hgiven
        · have hkept : (old.latest gs).cells c = old.cells c := if_neg hgiven
          rw [hkept] at hc ⊢
          exact hcells c hc
      · obtain ⟨g, hg, hnew, -, hrow⟩ := mem_addedSpots hrow
        rw [hrow]
        refine fits_newSpot (h.codes g.code (mem_newCodes.2 ⟨⟨g, hg, rfl⟩, hnew⟩)) fun c hc => ?_
        have hlast := lastGiven_of_single (filter_of_nodup h.single hg hnew) c
        rw [← hlast] at hc ⊢
        exact h.cells g hg c hc
    exact ⟨_, commit_eq_some hcodes (ids_nodup table gs) hfits⟩

/-! ## The import -/

/-- **The import stores what can be stored** exactly when all of it can be committed at once, or
when there was nothing to do: the table had the latest values of every such item. -/
theorem items_stored_iff (cfg : Config) (table : SpotTable storage) (items : List Json) :
    ItemsStored cfg table items ↔ Committable table (givens cfg items) ∨
      ∀ g ∈ givens cfg items, Storable storage g →
        Holds table.rows (givens cfg items) g.code := by
  obtain ⟨htracks, hcount⟩ := importBatch_spec cfg table.rows items
  have hbatch : (importBatch cfg table.rows items).rows ++ (importBatch cfg table.rows items).added =
      table.rows.map (Spot.latest (givens cfg items)) ++
        addedSpots table.rows (givens cfg items) := by
    rw [htracks.rows_eq, htracks.added_eq]
  have hiff := commit_latest table (givens cfg items)
  have hunfold := importSpots.eq_def cfg table items
  dsimp only at hunfold
  rw [hbatch] at hunfold
  cases hcommit : commit storage (table.rows.map (Spot.latest (givens cfg items)) ++
      addedSpots table.rows (givens cfg items)) with
  | some table' =>
    rw [hcommit] at hunfold
    have hok := hiff.1 ⟨table', hcommit⟩
    refine iff_of_true ⟨?_, fun g hg _ => ?_⟩ (Or.inl hok)
    · rw [hunfold]
      exact hcount
    · rw [hunfold]
      have hholds := holds_latest hok.single hg
      rwa [← commit_spec hcommit] at hholds
  | none =>
    rw [hcommit] at hunfold
    have hfailed : ¬ Committable table (givens cfg items) := by
      intro hok
      obtain ⟨table', hsome⟩ := hiff.2 hok
      rw [hcommit] at hsome
      cases hsome
    constructor
    · intro h
      have hstored := h.stored
      rw [hunfold] at hstored
      exact Or.inr hstored
    · rintro (hok | hheld)
      · exact absurd hok hfailed
      · refine ⟨?_, ?_⟩
        · rw [hunfold]
          simp
        · rw [hunfold]
          exact hheld

/-- A database that takes everything. -/
def anything : Storage := ⟨fun _ => true, fun _ _ => true, rfl⟩

/-- A code that comes twice, and another one. -/
def repeatedCode : List Json :=
  [.obj [("parking_id", .str "P1")], .obj [("parking_id", .str "P1")],
    .obj [("parking_id", .str "P2")]]

/-- The code that comes twice keeps the other one out of the table. -/
theorem repeated_code_stops_all :
    ¬ ItemsStored {} (⟨[], by simp, by simp, by simp⟩ : SpotTable anything) repeatedCode := by
  intro h
  have hcodes : (givens {} repeatedCode).map Given.code =
      ["P1".toList, "P1".toList, "P2".toList] := by decide +kernel
  have hmem : "P2".toList ∈ (givens {} repeatedCode).map Given.code := by
    rw [hcodes]
    decide
  obtain ⟨g, hg, -⟩ := List.mem_map.1 hmem
  have hempty : (importSpots {} (⟨[], by simp, by simp, by simp⟩ : SpotTable anything)
      repeatedCode).2.rows.length = 0 := by decide +kernel
  obtain ⟨row, hrow, -⟩ := h.stored g hg ⟨rfl, fun _ _ => rfl⟩
  rw [List.eq_nil_of_length_eq_zero hempty] at hrow
  cases hrow

end ParkingSystem.CadMap
