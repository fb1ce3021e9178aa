import ParkingSystem.CadMap.Import
import ParkingSystem.Library.Greedy

/-!
# The Refresh of the Map

`import_from_json` of the script: the table is emptied, filled from a JSON file, and the edits of
the operators are put back on spots that are where the old ones were.

The three parts are committed one by one. So a refresh that raises does not leave the table as it
was: it is empty from the purge to the second commit, and the new map without edits after that.
What is put back is a matching: an old spot goes to one new spot, and goes without only when all
that are near are taken.
-/

namespace ParkingSystem.CadMap

open PyText PyValue Greedy

variable {storage : Storage}

/-! ## Edits -/

/-- `status == 'context'`. -/
def isContext (row : Spot) : Bool :=
  match row.cells .status with
  | .str s => s == "context"
  | _ => false

/-- The centre of a row; a column of floats holds nothing but numbers. -/
def point (row : Spot) : Option (ℚ × ℚ) :=
  match (row.cells .centerX).number?, (row.cells .centerY).number? with
  | some x, some y => some (x, y)
  | _, _ => none

/-- What is remembered of an old spot. -/
structure Edit where
  code : List Char
  status : Json
  cx : ℚ
  cy : ℚ

/-- The edit of a row, if it has one. -/
def editOf (row : Spot) : Option Edit :=
  if isContext row then none
  else (point row).map fun c => ⟨row.code, row.cells .status, c.1, c.2⟩

/-- `old_edits`. -/
def oldEdits (rows : List Spot) : List Edit := rows.filterMap editOf

/-- The square of the distance of a row from an old centre. -/
def distance (o : Edit) (row : Spot) : Option ℚ :=
  (point row).map fun c => (c.1 - o.cx) ^ 2 + (c.2 - o.cy) ^ 2

/-- The square of 0.6. -/
def reach : ℚ := 36 / 100

/-- A new spot that may be an old one. -/
def Near (o : Edit) (row : Spot) : Prop := ∃ d, distance o row = some d ∧ d ≤ reach

/-- The new spots that an edit may go to. -/
def places (rows : List Spot) : List Spot := rows.filter fun row => !isContext row

/-- Each edit goes to the nearest spot that no edit before it has taken. -/
def matching (edits : List Edit) (rows : List Spot) : List (Edit × Spot) :=
  assign (fun o taken => (nearest (distance o) (fun row => taken.contains row.id) reach
    (places rows)).1) Spot.id edits

/-- The code and the status of an edit, on a spot; a status that is not valid is left out. -/
def Spot.restore (o : Edit) (row : Spot) : Spot where
  id := row.id
  code := o.code
  cells := fun c => match c, o.status with
    | .status, .str s => if VALID_STATUS.contains s then .str s else row.cells .status
    | c, _ => row.cells c

/-- The edits of a matching, one after the other. -/
def restoreAll (pairs : List (Edit × Spot)) (rows : List Spot) : List Spot :=
  pairs.foldl (fun rows p => rows.map fun row =>
    if row.id = p.2.id then row.restore p.1 else row) rows

/-! ## The file -/

/-- What reading the file gives. -/
inductive MapFile where
  | missing
  | content (text : JsonText)

/-- Iteration over a value: its items, none of them an object where it is a string or an object
itself; `none` is a TypeError. -/
def pyItems : Json → Option (List Json)
  | .arr items => some items
  | .str _ | .obj _ => some []
  | _ => none

/-- The items of the file that have a code; `none` is an exception. -/
def fileItems : MapFile → Option (List Dict)
  | .content (.parsed raw) => do
    let list ← match raw with
      | .obj fields => (Dict.get fields "parking_spots").bind pyItems
      | raw => pyItems raw
    return list.filterMap fun
      | .obj spot =>
        if (field spot "parking_id").truthy || (field spot "parking_code").truthy then some spot
        else none
      | _ => none
  | _ => none

/-- One turn of the loop; here an exception ends it. -/
def loadItem (cfg : Config) (fresh : ℕ) (batch : Batch) (spot : Dict) : Option Batch :=
  (spotCenter spot).map fun center => batch.store fresh
    { code := spotCode cfg spot
      values := spotValues cfg spot (spotCode cfg spot) (field spot "source_entity_handle") center }

/-- The loop over the items. -/
def loadItems (cfg : Config) (rows : List Spot) (items : List Dict) : Option Batch :=
  items.foldlM (loadItem cfg (freshId rows)) { rows := rows }

/-! ## The script -/

/-- The points where the database can fail. -/
inductive Access where
  | readOld
  | purge
  | readExisting
  | storeMap
  | readNew
  | storeEdits
  deriving DecidableEq, Repr

/-- What is raised. -/
inductive Failure where
  | database (access : Access)
  /-- The file is missing or malformed. -/
  | file
  /-- An item that cannot be read. -/
  | item
  /-- A commit that the table refuses. -/
  | refused (access : Access)
  deriving DecidableEq, Repr

/-- The edits are put back, where there are any for codes that the file does not have. -/
def putBack (fails : Access → Bool) (edits : List Edit) (codes : List (List Char))
    (table : SpotTable storage) : Except Failure (SpotTable storage) :=
  let renamed := edits.filter fun o => !codes.any fun code => code = o.code
  if renamed.isEmpty then .ok table
  else if fails .readNew then .error (.database .readNew)
  else if fails .storeEdits then .error (.database .storeEdits)
  else match commit storage (restoreAll (matching renamed table.rows) table.rows) with
    | some table' => .ok table'
    | none => .error (.refused .storeEdits)

/-- The rows of the file are put in the table. -/
def loadMap (cfg : Config) (fails : Access → Bool) (file : MapFile) (table : SpotTable storage) :
    Except Failure (Batch × List (List Char) × SpotTable storage) :=
  match fileItems file with
  | none => .error .file
  | some items =>
    if fails .readExisting then .error (.database .readExisting)
    else match loadItems cfg table.rows items with
      | none => .error .item
      | some batch =>
        if fails .storeMap then .error (.database .storeMap)
        else match commit storage (batch.rows ++ batch.added) with
          | some table' => .ok (batch, items.map (spotCode cfg), table')
          | none => .error (.refused .storeMap)

/-- A table with no rows. -/
def emptyTable : SpotTable storage := ⟨[], List.nodup_nil, List.nodup_nil, fun _ h => nomatch h⟩

/-- `import_from_json`: what it returns or raises, and the table it leaves. -/
def importFromJson (cfg : Config) (fails : Access → Bool) (purge keepEdits : Bool) (file : MapFile)
    (table : SpotTable storage) : Except Failure (ℕ × ℕ × ℕ) × SpotTable storage :=
  if purge && keepEdits && fails .readOld then (.error (.database .readOld), table)
  else
    let edits := if purge && keepEdits then oldEdits table.rows else []
    if purge && fails .purge then (.error (.database .purge), table)
    else
      let cleared := if purge then emptyTable else table
      match loadMap cfg fails file cleared with
      | .error failure => (.error failure, cleared)
      | .ok (batch, codes, loaded) =>
        match putBack fails edits codes loaded with
        | .error failure => (.error failure, loaded)
        | .ok table' => (.ok (batch.created, batch.updated, batch.skipped), table')

/-! ## What is put back -/

/-- **The choice of an edit** is a near spot that is left, when there is one. -/
theorem picks_nearest (rows : List Spot) :
    Picks (fun o taken => (nearest (distance o) (fun row => taken.contains row.id) reach
      (places rows)).1) Spot.id (places rows) Near where
  some o taken row h := by
    obtain ⟨hbound, -, hsome, -⟩ :=
      nearest_spec (distance o) (fun row => taken.contains row.id) reach (places rows)
    obtain ⟨hmem, hfree, hdist⟩ := hsome row h
    exact ⟨hmem, ⟨_, hdist, hbound⟩, by simpa using hfree⟩
  none o taken h row hrow hnear := by
    obtain ⟨-, -, -, hall⟩ :=
      nearest_spec (distance o) (fun row => taken.contains row.id) reach (places rows)
    obtain ⟨d, hdist, hle⟩ := hnear
    by_contra hfree
    exact (hall row hrow (by simpa using hfree) d hdist hle).1 h

/-- A new spot with the edit that goes to it. -/
def Spot.edited (pairs : List (Edit × Spot)) (row : Spot) : Spot :=
  match pairs.find? fun p => p.2.id = row.id with
  | some p => row.restore p.1
  | none => row

theorem edited_cons (p : Edit × Spot) (pairs : List (Edit × Spot)) (row : Spot) :
    row.edited (p :: pairs) = if row.id = p.2.id then row.restore p.1 else row.edited pairs := by
  unfold Spot.edited
  rw [List.find?_cons]
  by_cases h : row.id = p.2.id
  · rw [if_pos h, decide_eq_true h.symm]
  · rw [if_neg h, decide_eq_false (Ne.symm h)]

/-- One edit after the other is each spot with its own edit. -/
theorem restoreAll_eq {pairs : List (Edit × Spot)} (h : (pairs.map fun p => p.2.id).Nodup)
    (rows : List Spot) : restoreAll pairs rows = rows.map (Spot.edited pairs) := by
  induction pairs generalizing rows with
  | nil => exact (List.map_id rows).symm
  | cons p pairs ih =>
    obtain ⟨hp, hrest⟩ := List.nodup_cons.1 h
    have hstep : restoreAll (p :: pairs) rows = restoreAll pairs (rows.map fun row =>
        if row.id = p.2.id then row.restore p.1 else row) := rfl
    rw [hstep, ih hrest, List.map_map]
    refine List.map_congr_left fun row _ => ?_
    rw [Function.comp_apply, edited_cons]
    split
    next heq =>
      -- nobody else has taken the spot
      have hnone : pairs.find? (fun q => q.2.id = (row.restore p.1).id) = none := by
        rw [List.find?_eq_none]
        intro q hq hid
        exact hp (List.mem_map.2 ⟨q, hq, (of_decide_eq_true hid).trans heq⟩)
      rw [Spot.edited, hnone]
    next => rfl

/-- What an edit changes fits, when it was in a table. -/
theorem fits_restore {o : Edit} {row old : Spot} (hrow : storage.fits row = true)
    (hold : storage.fits old = true) (hedit : editOf old = some o) :
    storage.fits (row.restore o) = true := by
  have ho : o.code = old.code ∧ o.status = old.cells .status := by
    unfold editOf at hedit
    split at hedit
    · cases hedit
    · obtain ⟨c, -, rfl⟩ := Option.map_eq_some_iff.1 hedit
      exact ⟨rfl, rfl⟩
  obtain ⟨hcode, hcells⟩ := fits_iff.1 hold
  refine fits_iff.2 ⟨?_, fun c hc => ?_⟩
  · rw [← ho.1] at hcode
    exact hcode
  · have hkept := (fits_iff.1 hrow).2 c
    unfold Spot.restore at hc ⊢
    dsimp only at hc ⊢
    split at hc
    next s hstatus =>
      split at hc
      next hvalid =>
        rw [if_pos hvalid]
        rw [ho.2] at hstatus
        have hcell := hcells .status
        rw [hstatus] at hcell
        exact hcell rfl
      next hvalid =>
        rw [if_neg hvalid]
        exact hkept hc
    next => exact hkept hc

theorem nodup_oldEdits {rows : List Spot} (h : (rows.map Spot.code).Nodup) :
    ((oldEdits rows).map Edit.code).Nodup := by
  refine h.sublist ?_
  induction rows with
  | nil => exact List.Sublist.refl []
  | cons row rows ih =>
    have hrest := ih (List.nodup_cons.1 h).2
    unfold oldEdits at hrest ⊢
    rw [List.filterMap_cons, List.map_cons]
    cases hedit : editOf row with
    | none => exact hrest.cons _
    | some o =>
      have hcode : o.code = row.code := by
        unfold editOf at hedit
        split at hedit
        · cases hedit
        · obtain ⟨c, -, rfl⟩ := Option.map_eq_some_iff.1 hedit
          rfl
      rw [List.map_cons, hcode]
      exact hrest.cons_cons _

/-- The loop that ends at an exception tracks what is given, too. -/
theorem loadItems_tracks {cfg : Config} {rows : List Spot} {items : List Dict} {batch : Batch}
    (h : loadItems cfg rows items = some batch) :
    ∃ gs, batch.Tracks rows gs ∧ gs.map Given.code = items.map (spotCode cfg) := by
  suffices hall : ∀ (items : List Dict) (start : Batch) (gs : List Given), start.Tracks rows gs →
      items.foldlM (loadItem cfg (freshId rows)) start = some batch →
      ∃ more, batch.Tracks rows (gs ++ more) ∧
        more.map Given.code = items.map (spotCode cfg) by
    refine hall items { rows := rows } [] ⟨?_, rfl, rfl⟩ h
    exact (List.map_id rows).symm.trans (List.map_congr_left fun row _ => rfl)
  intro items
  induction items with
  | nil =>
    intro start gs htracks hfold
    obtain rfl := Option.some.inj hfold
    exact ⟨[], by rwa [List.append_nil], rfl⟩
  | cons spot items ih =>
    intro start gs htracks hfold
    rw [List.foldlM_cons, loadItem] at hfold
    cases hcenter : spotCenter spot with
    | none =>
      rw [hcenter] at hfold
      cases hfold
    | some center =>
      rw [hcenter] at hfold
      obtain ⟨more, hmore, hcodes⟩ := ih _ _ (htracks.store _) hfold
      rw [List.append_assoc] at hmore
      exact ⟨_, hmore, by rw [List.singleton_append, List.map_cons, List.map_cons, hcodes]⟩

/-- The codes of a new map are those of the file. -/
theorem codes_loadMap {cfg : Config} {fails : Access → Bool} {file : MapFile} {batch : Batch}
    {codes : List (List Char)} {loaded : SpotTable storage}
    (h : loadMap cfg fails file (emptyTable : SpotTable storage) = .ok (batch, codes, loaded)) :
    loaded.rows.map Spot.code = codes := by
  unfold loadMap at h
  split at h
  next => cases h
  next items _ =>
    split at h
    next => cases h
    next =>
      split at h
      next => cases h
      next batch' hload =>
        split at h
        next => cases h
        next =>
          split at h
          next table' hcommit =>
            obtain ⟨-, rfl, rfl⟩ : batch' = batch ∧ items.map (spotCode cfg) = codes ∧
                table' = loaded := by simpa using h
            obtain ⟨gs, htracks, hcodes⟩ := loadItems_tracks hload
            have hnone : (emptyTable : SpotTable storage).rows = [] := rfl
            rw [commit_spec hcommit, htracks.rows_eq, htracks.added_eq, hnone, List.map_nil,
              List.nil_append, codes_addedSpots, newCodes, hcodes]
            exact List.filter_eq_self.2 fun _ _ => rfl
          next => cases h

/-- The edits for codes that the file does not have. -/
def renamed (rows : List Spot) (codes : List (List Char)) : List Edit :=
  (oldEdits rows).filter fun o => !codes.any fun code => code = o.code

/-- **What is put back can be stored**: the new map with its edits fits, and no code comes
twice. -/
theorem commit_edited (table loaded : SpotTable storage) {pairs : List (Edit × Spot)}
    (h : Maximal Spot.id (places loaded.rows) Near
      (renamed table.rows (loaded.rows.map Spot.code)) pairs) :
    ∃ table', commit storage (restoreAll pairs loaded.rows) = some table' ∧
      table'.rows = loaded.rows.map (Spot.edited pairs) := by
  have hrows := restoreAll_eq h.distinct loaded.rows
  have hedit {o : Edit} (ho : o ∈ pairs.map Prod.fst) :
      o.code ∉ loaded.rows.map Spot.code ∧ ∃ old ∈ table.rows, editOf old = some o := by
    obtain ⟨hmem, hnew⟩ := List.mem_filter.1 (h.order.subset ho)
    obtain ⟨old, hold, heq⟩ := List.mem_filterMap.1 hmem
    refine ⟨fun hin => ?_, old, hold, heq⟩
    rw [Bool.not_eq_true', List.any_eq_false] at hnew
    exact hnew o.code hin (decide_eq_true rfl)
  have hcases (row : Spot) : row.edited pairs = row ∨
      ∃ p ∈ pairs, p.2.id = row.id ∧ row.edited pairs = row.restore p.1 := by
    unfold Spot.edited
    cases hfind : pairs.find? fun p => p.2.id = row.id with
    | none => exact Or.inl rfl
    | some p =>
      exact Or.inr ⟨p, List.mem_of_find?_eq_some hfind, by simpa using List.find?_some hfind, rfl⟩
  have hids : ((loaded.rows.map (Spot.edited pairs)).map Spot.id) = loaded.rows.map Spot.id := by
    rw [List.map_map]
    refine List.map_congr_left fun row _ => ?_
    rw [Function.comp_apply]
    rcases hcases row with heq | ⟨p, -, -, heq⟩ <;> rw [heq]
    rfl
  have hcodes : ((loaded.rows.map (Spot.edited pairs)).map Spot.code).Nodup := by
    rw [List.map_map, List.nodup_map_iff_inj_on (List.Nodup.of_map _ loaded.ids)]
    have hinj := List.inj_on_of_nodup_map loaded.codes
    have hinjId := List.inj_on_of_nodup_map loaded.ids
    intro row hrow row' hrow' heq
    rw [Function.comp_apply, Function.comp_apply] at heq
    rcases hcases row with hsame | ⟨p, hp, hid, hsame⟩ <;>
      rcases hcases row' with hsame' | ⟨p', hp', hid', hsame'⟩ <;> rw [hsame, hsame'] at heq
    · exact hinj hrow hrow' heq
    · -- a code that is put back is no code of the file
      exact absurd (List.mem_map.2 ⟨row, hrow, heq⟩) (hedit (List.mem_map_of_mem hp')).1
    · exact absurd (List.mem_map.2 ⟨row', hrow', heq.symm⟩) (hedit (List.mem_map_of_mem hp)).1
    · have hfirst : (pairs.map fun p => p.1.code).Nodup := by
        have hold := (nodup_oldEdits table.codes).sublist
          ((h.order.trans List.filter_sublist).map Edit.code)
        rwa [List.map_map] at hold
      have hpair : p = p' := List.inj_on_of_nodup_map hfirst hp hp' heq
      refine hinjId hrow hrow' ?_
      rw [← hid, ← hid', hpair]
  have hfits : ∀ row ∈ loaded.rows.map (Spot.edited pairs), storage.fits row = true := by
    intro row hrow
    obtain ⟨old, hold, rfl⟩ := List.mem_map.1 hrow
    rcases hcases old with heq | ⟨p, hp, -, heq⟩
    · rw [heq]
      exact loaded.fits old hold
    · obtain ⟨-, before, hbefore, hedit⟩ := hedit (List.mem_map_of_mem hp)
      rw [heq]
      exact fits_restore (loaded.fits old hold) (table.fits before hbefore) hedit
  rw [hrows]
  exact ⟨_, commit_eq_some hcodes (hids ▸ loaded.ids) hfits, rfl⟩

/-! ## The refresh -/

/-- What one would want of a refresh that keeps the edits: an old spot that has a new one near it
has its code and its status there, and a refresh that raises changes nothing. -/
structure KeepsEdits (cfg : Config) (fails : Access → Bool) (file : MapFile)
    (table : SpotTable storage) : Prop where
  restored : ∀ batch codes loaded counts,
    loadMap cfg fails file (emptyTable : SpotTable storage) = .ok (batch, codes, loaded) →
    (importFromJson cfg fails true true file table).1 = .ok counts →
    ∀ o ∈ oldEdits table.rows, (∃ row ∈ places loaded.rows, Near o row) →
      ∃ row ∈ (importFromJson cfg fails true true file table).2.rows,
        Near o row ∧ row.code = o.code ∧ row.cells .status = o.status
  atomic : ∀ failure, (importFromJson cfg fails true true file table).1 = .error failure →
    (importFromJson cfg fails true true file table).2 = table

/-- What a refresh leaves when it raises: the old table before the purge is committed, an empty one
until the new map is, and the new map after that. -/
def Leaves (cfg : Config) (fails : Access → Bool) (file : MapFile)
    (table left : SpotTable storage) : Failure → Prop
  | .database .readOld | .database .purge => left = table
  | .database .readNew | .database .storeEdits => ∃ batch codes,
    loadMap cfg fails file (emptyTable : SpotTable storage) = .ok (batch, codes, left)
  -- the edits are never refused
  | .refused .storeEdits => False
  | _ => left.rows = []

/-- What a refresh does: the edits for codes that the file does not have are matched to new spots
near them, as many as can be, and each is put on its spot. -/
structure Refreshed (cfg : Config) (fails : Access → Bool) (file : MapFile)
    (table : SpotTable storage) : Prop where
  returned : ∀ counts, (importFromJson cfg fails true true file table).1 = .ok counts →
    ∃ batch codes loaded pairs,
      loadMap cfg fails file (emptyTable : SpotTable storage) = .ok (batch, codes, loaded) ∧
      Maximal Spot.id (places loaded.rows) Near (renamed table.rows codes) pairs ∧
      (importFromJson cfg fails true true file table).2.rows =
        loaded.rows.map (Spot.edited pairs)
  raised : ∀ failure, (importFromJson cfg fails true true file table).1 = .error failure →
    Leaves cfg fails file table (importFromJson cfg fails true true file table).2 failure

/-- What is raised while the new map is loaded. -/
theorem loadMap_error {cfg : Config} {fails : Access → Bool} {file : MapFile} {failure : Failure}
    (h : loadMap cfg fails file (emptyTable : SpotTable storage) = .error failure)
    (table : SpotTable storage) :
    Leaves cfg fails file table (emptyTable : SpotTable storage) failure := by
  unfold loadMap at h
  split at h
  next => cases h; exact rfl
  next items _ =>
    split at h
    next => cases h; exact rfl
    next =>
      split at h
      next => cases h; exact rfl
      next =>
        split at h
        next => cases h; exact rfl
        next =>
          split at h
          next => cases h
          next => cases h; exact rfl

/-- A table with one spot. -/
def oneSpot : SpotTable anything :=
  ⟨[newSpot 0 "P1".toList fun _ => .null], by simp, by simp, fun row hrow => by
    rw [List.mem_singleton.1 hrow]
    exact fits_iff.2 ⟨rfl, fun _ _ => rfl⟩⟩

end ParkingSystem.CadMap
